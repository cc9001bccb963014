import CountedBox.Toml.Value

namespace CountedBox.Toml

/-- The table whose entries are being read is kept apart from the rest of the document. -/
structure Document where
  root : Entries := []
  path : List String := []
  /-- Whether the table is one of an array of tables. -/
  repeated : Bool := false
  entries : Entries := []

namespace Document

/-- Put the table that was read into its place. -/
def close (d : Document) : Except Failure Entries :=
  match d.path.getLast? with
  | none => .ok d.entries
  | some last =>
    Entries.alter false (fun _ parent =>
      match d.repeated, parent.find? last with
      | true, some (.tables items) => .ok (parent.put last (.tables (d.entries :: items)))
      | true, none => .ok (parent.put last (.tables [d.entries]))
      | false, none => .ok (parent ++ [(last, .table false false d.entries)])
      | _, some _ => .error (.duplicateIn (writtenKey last) d.path.dropLast))
      d.path.dropLast false d.root

/-- Start a table after its header. One that was only implied so far is taken up again. -/
def openTable (d : Document) (path : List String) (last : String) : Except Failure Document := do
  let root ← d.close
  let found ← find root
  let root ← Entries.alter false (fun _ parent => match parent.find? last with
    | none | some (.table true false _) => .ok (parent.remove last)
    | some _ => .error (.duplicateIn (writtenKey last) path)) path false root
  return { root, path := path ++ [last], repeated := false, entries := found }
where
  /-- The entries that the table has already. -/
  find (root : Entries) : Except Failure Entries := do
    match lookup root path with
    | some parent => match parent.find? last with
      | some (.table true false inner) => return inner
      | _ => return []
    | none => return []
  /-- The entries of the table at the end of a path. -/
  lookup : Entries → List String → Option Entries
    | entries, [] => some entries
    | entries, key :: rest => match entries.find? key with
      | some (.table _ _ inner) => lookup inner rest
      | some (.tables (newest :: _)) => lookup newest rest
      | _ => none

/-- Start one more table of an array of tables after its header. -/
def openItem (d : Document) (path : List String) (last : String) : Except Failure Document := do
  let root ← d.close
  let root ← Entries.alter false (fun _ parent => match parent.find? last with
    | none => .ok (parent ++ [(last, .tables [])])
    | some (.tables _) => .ok parent
    | some _ => .error (.duplicateIn (writtenKey last) path)) path false root
  return { root, path := path ++ [last], repeated := true, entries := [] }

/-- Bind a key in the table that is being read. -/
def bind (d : Document) (path : List String) (last : String) (node : Node) : Except Failure Document := do
  let entries ← d.entries.bind path last node (some d.path)
  return { d with entries }

open Reader in
/-- One line, or several when a value goes on. -/
def line (d : Document) : Reader Document := do
  blanks
  if ← opt "[[" then
    let (path, last) ← dottedKey
    blanks
    expect "]]"
    lineEnd
    d.openItem path last
  else if ← opt "[" then
    let (path, last) ← dottedKey
    blanks
    expect "]"
    lineEnd
    d.openTable path last
  else match ← next? with
    | none => return d
    | some c =>
      if c == '#' || c == '\n' || c == '\r' then
        lineEnd
        return d
      else
        let (path, last) ← dottedKey
        expect "="
        blanks
        let node ← value maxDepth
        lineEnd
        d.bind path last node

open Reader in
/-- All lines; `bound` is at least their number. -/
def lines : Nat → Document → Reader Document
  | 0, d => return d
  | bound + 1, d => do
    if (← rest).isEmpty then return d else lines bound (← d.line)

/-- Read a text as a document. -/
def parse (text : String) : Except Failure Entries := do
  let cs := match text.toList with
    | '\ufeff' :: rest => rest
    | cs => cs
  let (d, _) ← (lines (cs.length + 1) {}).run cs
  d.close

end Document

end CountedBox.Toml
