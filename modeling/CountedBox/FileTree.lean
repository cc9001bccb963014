import CountedBox.Text.Utf8

namespace CountedBox

/-- Why a file cannot be used. -/
inductive FileError where
  | notFound | isDirectory | notDirectory | nameTooLong | zeroByte
  deriving DecidableEq, Repr

def FileError.message : FileError → String
  | notFound => "No such file or directory (os error 2)"
  | isDirectory => "Is a directory (os error 21)"
  | notDirectory => "Not a directory (os error 20)"
  | nameTooLong => "File name too long (os error 36)"
  | zeroByte => "file name contained an unexpected NUL byte"

/-- A directory with all it holds: each path below it with the bytes of a file, or with nothing for
a directory. -/
structure FileTree where
  entries : List (List String × Option (List UInt8)) := []

namespace FileTree

/-- What is at a path. -/
inductive Place where
  | missing
  | directory
  | file (content : List UInt8)

def entryAt (t : FileTree) (path : List String) : Place :=
  if path.isEmpty then .directory
  else match t.entries.lookup path with
    | none => .missing
    | some none => .directory
    | some (some content) => .file content

/-- Put something at a path. -/
def put (t : FileTree) (path : List String) (content : Option (List UInt8)) : FileTree :=
  ⟨t.entries.filter (fun e => e.1 != path) ++ [(path, content)]⟩

/-- Whether a part of a path stays where it is or goes up. -/
def isUpward (part : String) : Bool := part == "" || part == "." || part == ".."

/-- No name may have more bytes. -/
def nameLimit : Nat := 255

/-- Walk from the directory at `here` along the parts of a path to the place that it names. All but
the last part must name directories. Above the tree there are directories and nothing else to be
found; they count as the directory that holds the tree. -/
def walk (t : FileTree) (here : List String) : List String → Except FileError (List String)
  | [] => .ok here
  | part :: rest =>
    if part = "" ∨ part = "." then walk t here rest
    else if part = ".." then
      if !here.isEmpty then walk t here.dropLast rest
      else if rest.all isUpward then .ok [] else .error .notFound
    else if rest.isEmpty then .ok (here ++ [part])
    else if nameLimit < part.utf8ByteSize then .error .nameTooLong
    else match t.entryAt (here ++ [part]) with
      | .directory => walk t (here ++ [part]) rest
      | .missing => .error .notFound
      | .file _ => .error .notDirectory

/-- The place that a path names, and what is there. The path is looked at without the slashes at its
end if `bare`. -/
def resolve (t : FileTree) (path : String) (bare : Bool) :
    Except FileError (List String × Place) :=
  if path = "" then .error .notFound
  else if path.contains '\x00' then .error .zeroByte
  else if 4096 ≤ path.utf8ByteSize then .error .nameTooLong
  else do
    let name := if bare then (path.dropEndWhile '/').toString else path
    let parts := name.splitOn "/"
    let place ← t.walk [] (if path.startsWith "/" then ".." :: parts else parts)
    return (place, t.entryAt place)

/-- Whether the last name on the way to a place is too long. -/
def isTooLong (place : List String) : Bool := place.getLast?.any (nameLimit < ·.utf8ByteSize)

def read (t : FileTree) (path : String) : Except FileError (List UInt8) := do
  match ← t.resolve path false with
  | (place, .missing) => .error (if isTooLong place then .nameTooLong else .notFound)
  | (_, .directory) => .error .isDirectory
  | (_, .file content) => return content

/-- Replace or make a file. A path that ends with a slash cannot name one. -/
def write (t : FileTree) (path : String) (content : List UInt8) : Except FileError FileTree := do
  let (place, found) ← t.resolve path true
  match found with
  | .directory => .error .isDirectory
  | _ =>
    if path.endsWith "/" then .error .isDirectory
    else if isTooLong place then .error .nameTooLong
    else return t.put place (some content)

/-- Make the directories that are missing along the parts of a path, up to where it leaves the
tree. -/
def makeDirectories (t : FileTree) (here : List String) : List String → FileTree
  | [] => t
  | part :: rest =>
    if part = "" ∨ part = "." then makeDirectories t here rest
    else if part = ".." then
      if here.isEmpty then t else makeDirectories t here.dropLast rest
    else
      let path := here ++ [part]
      match t.entryAt path with
      | .missing => makeDirectories (t.put path none) path rest
      | _ => makeDirectories t path rest

/-- Make sure that a file exists, with the directories above it. -/
def touch (t : FileTree) (path : String) : FileTree :=
  if path.startsWith "/" then t
  else
    let parts := (path.splitOn "/").filter (fun part => part != "" && part != ".")
    let t := t.makeDirectories [] parts.dropLast
    match t.resolve ("/".intercalate parts) false with
    | .ok (place, .missing) => if isTooLong place then t else t.put place (some [])
    | _ => t

end FileTree

end CountedBox
