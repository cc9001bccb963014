import CountedBox.Toml.Node
import CountedBox.Text.Number

namespace CountedBox.Toml

/-- Reads a part of the text from its start, or fails. -/
abbrev Reader (α : Type) := StateT (List Char) (Except Failure) α

namespace Reader

def fail {α : Type} : Reader α := throw .syntaxError

def rest : Reader (List Char) := get

def next? : Reader (Option Char) := return (← get).head?

def skip (count : Nat) : Reader Unit := modify (List.drop count)

def takeWhile (p : Char → Bool) : Reader (List Char) := do
  let taken := (← get).takeWhile p
  skip taken.length
  return taken

/-- Step over these characters if they come next. -/
def opt (word : String) : Reader Bool := do
  if word.toList.isPrefixOf (← get) then
    skip word.length
    return true
  else return false

def expect (word : String) : Reader Unit := do
  if !(← opt word) then fail

end Reader

open Reader

def isBlank (c : Char) : Bool := c == ' ' || c == '\t'

/-- Whether a comment or a text on one line may hold the character. -/
def isText (c : Char) : Bool := c == '\t' || !isControl c

def blanks : Reader Unit := discard (takeWhile isBlank)

def comment : Reader Unit := do
  if ← opt "#" then discard (takeWhile isText)

def newline : Reader Bool := do
  if ← opt "\n" then return true else opt "\r\n"

/-- The end of a line; only blanks and a comment may come before it. -/
def lineEnd : Reader Unit := do
  blanks
  comment
  if !(← newline) && (← next?).isSome then fail

/-- Blanks, comments and ends of lines; `bound` is at least the number of lines. -/
def gap : Nat → Reader Unit
  | 0 => blanks
  | bound + 1 => do
    blanks
    comment
    if ← newline then gap bound

/-- Blanks and ends of lines. -/
def emptyLines : Nat → Reader Unit
  | 0 => blanks
  | bound + 1 => do
    blanks
    if ← newline then emptyLines bound

/-- The character that a number of hexadecimal digits stands for. -/
def codePoint (count : Nat) : Reader (List Char) := do
  let ds := (← rest).take count
  let n := Text.ofDigits 16 ds
  if ds.length = count ∧ ds.all Text.isHexDigit ∧ n.isValidChar then
    skip count
    return [Char.ofNat n]
  else fail

/-- What comes after a backslash. -/
def escaped : Reader (List Char) := do
  let c ← next?
  skip 1
  match c with
  | some 'b' => return ['\x08']
  | some 't' => return ['\t']
  | some 'n' => return ['\n']
  | some 'f' => return ['\x0c']
  | some 'r' => return ['\r']
  | some '"' => return ['"']
  | some '\\' => return ['\\']
  | some 'u' => codePoint 4
  | some 'U' => codePoint 8
  | _ => fail

/-- A text up to its quote; `bound` is at least its length. -/
def basicBody : Nat → Reader (List Char)
  | 0 => fail
  | bound + 1 => do
    let plain ← takeWhile (fun c => isText c && c != '"' && c != '\\')
    if ← opt "\"" then return plain
    else do
      expect "\\"
      let c ← escaped
      return plain ++ c ++ (← basicBody bound)

def literalBody : Reader (List Char) := do
  let plain ← takeWhile (fun c => isText c && c != '\'')
  expect "'"
  return plain

/-- Quotes inside or at the end of a text of many lines: what they add to it, and whether it ends.
Up to two quotes may stand right before the closing three; any further ones are left. -/
def quotes (quote : Char) : Reader (List Char × Bool) := do
  let run := ((← rest).takeWhile (· == quote)).take 5
  skip run.length
  return if run.length < 3 then (run, false) else (run.drop 3, true)

/-- A text of many lines up to its quotes; with `escapes` a backslash is special. -/
def linesBody (quote : Char) (escapes : Bool) : Nat → Reader (List Char)
  | 0 => fail
  | bound + 1 => do
    let plain ← takeWhile (fun c => isText c && c != quote && !(escapes && c == '\\'))
    if ← newline then
      return plain ++ ['\n'] ++ (← linesBody quote escapes bound)
    else if (← next?) == some quote then
      let (more, ended) ← quotes quote
      if ended then return plain ++ more
      else return plain ++ more ++ (← linesBody quote escapes bound)
    else if escapes then
      expect "\\"
      let after := (← rest).dropWhile isBlank
      if "\n".toList.isPrefixOf after || "\r\n".toList.isPrefixOf after then
        emptyLines after.length
        return plain ++ (← linesBody quote escapes bound)
      else
        let c ← escaped
        return plain ++ c ++ (← linesBody quote escapes bound)
    else fail

/-- A text on one line. -/
def lineText : Reader String := do
  if ← opt "\"" then return String.ofList (← basicBody ((← rest).length + 1))
  else
    expect "'"
    return String.ofList (← literalBody)

/-- A text on one line, or on many between three quotes. A line end right at its start is left out. -/
def text : Reader String := do
  let length := (← rest).length + 1
  if ← opt "\"\"\"" then
    discard newline
    return String.ofList (← linesBody '"' true length)
  else if ← opt "'''" then
    discard newline
    return String.ofList (← linesBody '\'' false length)
  else lineText

def isQuote (c : Char) : Bool := c == '"' || c == '\''

/-- One part of a key. -/
def key : Reader String := do
  match ← next? with
  | none => fail
  | some c =>
    if isQuote c then lineText
    else do
      let bare ← takeWhile isBare
      if bare.isEmpty then fail else return String.ofList bare

/-- The further parts of a key with dots; `bound` is at least their number. -/
def moreKeys : Nat → Reader (List String)
  | 0 => fail
  | bound + 1 => do
    blanks
    if ← opt "." then
      blanks
      let k ← key
      return k :: (← moreKeys bound)
    else return []

/-- How deep values may be nested, and how many parts a key may have. -/
def maxDepth : Nat := 79

/-- The parts of a key between dots: those before the last, and the last. A key with too many parts
is none. -/
def dottedKey? : Reader (Option (List String × String)) := do
  blanks
  let first ← key
  let keys := first :: (← moreKeys ((← rest).length + 1))
  return if keys.length ≤ maxDepth then some (keys.dropLast, keys.getLastD first) else none

def dottedKey : Reader (List String × String) := do
  match ← dottedKey? with
  | some parts => return parts
  | none => fail

end CountedBox.Toml
