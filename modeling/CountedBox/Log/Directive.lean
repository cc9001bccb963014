import CountedBox.Log.Event
import CountedBox.Log.Pattern
import CountedBox.Text.Utf8

namespace CountedBox.Log

/-- Lets events through whose target starts with `target`, up to a verbosity. -/
structure Directive where
  target : String
  /-- The name of a field that an event must have; its message counts as a field. -/
  field : Option String
  /-- Whether only events inside certain spans are meant. No event is inside a span. -/
  spans : Bool
  verbosity : Nat
  deriving DecidableEq

/-- The verbosity that a word or number stands for. Case counts only outside ASCII. -/
def verbosity? (word : String) : Option Nat :=
  match word.toLower with
  | "off" => some 0
  | "error" => some 1
  | "warn" => some 2
  | "info" => some 3
  | "debug" => some 4
  | "trace" => some 5
  | _ =>
    let digits := match word.toList with
      | '+' :: ds => ds
      | ds => ds
    let n := Text.ofDigits 10 digits
    if digits.isEmpty || !digits.all Char.isDigit || 5 < n then none else some n

/-- The verbosity after the sign of equality of a directive; everything if there is none. -/
def levelAfter? (word : String) : Option Nat := if word = "" then some 5 else verbosity? word

/-- Whether a target may start with this character. -/
def startsTarget (c : Char) : Bool :=
  c == '_' || c == '-' || c == ':' || Text.isAlphanumeric c

/-- Digits, at most one point among them, and perhaps an exponent. -/
def isDecimal (cs : List Char) : Bool :=
  let whole := cs.takeWhile Char.isDigit
  let (fraction, rest) := match cs.drop whole.length with
    | '.' :: rest => rest.span Char.isDigit
    | rest => ([], rest)
  !(whole.isEmpty && fraction.isEmpty) && match rest with
    | [] => true
    | e :: rest =>
      let digits := match rest with
        | '+' :: ds | '-' :: ds => ds
        | ds => ds
      e.toLower == 'e' && !digits.isEmpty && digits.all Char.isDigit

/-- Whether a field may be asked for this value: a number, or a pattern for its text. Only a number
with a plus sign is not a pattern as well. -/
def isFieldValue (value : String) : Bool :=
  match value.toList with
  | '+' :: cs =>
    isDecimal cs || ["inf", "infinity", "nan"].contains (String.ofList cs).toLower
  | cs => Pattern.isValid cs

/-- A text without the blanks around it, whose pieces are cut out of all of it: a piece is as many
bytes from the start of the whole text as it seems to be from the start of the trimmed one. -/
structure Trimmed where
  text : String

namespace Trimmed

def chars (t : Trimmed) : List Char :=
  ((t.text.toList.dropWhile Text.blank.contains).reverse.dropWhile Text.blank.contains).reverse

/-- Where the end `rest` of the trimmed text begins. -/
def offset (t : Trimmed) (rest : List Char) : Nat :=
  (String.ofList t.chars).utf8ByteSize - (String.ofList rest).utf8ByteSize

/-- What stands from the start of `rest` to the end of the whole text. -/
def pieceFrom (t : Trimmed) (rest : List Char) : String :=
  Text.lossy ((Text.utf8 t.text).drop (t.offset rest))

/-- What stands from the start of `rest` to the start of `stop`. -/
def piece (t : Trimmed) (rest stop : List Char) : String :=
  Text.lossy (((Text.utf8 t.text).take (t.offset stop)).drop (t.offset rest))

/-- What stands between the braces of a directive, after the first of them: whether a value is
asked for, the name of the field, and what follows the bracket behind. -/
def field? (t : Trimmed) (cs : List Char) : Option (Bool × String × List Char) :=
  let stop := cs.dropWhile (· != '\x7d')
  match stop, (t.piece cs stop).splitOn "=" with
  | '\x7d' :: ']' :: after, name :: values =>
    if t.piece cs stop = "" || !(values.take 1).all isFieldValue then none
    else some (!values.isEmpty, name, after)
  | _, _ => none

/-- What stands between the brackets of a directive, after the first of them: whether a span or the
value of a field is named, the name of the field, and what follows. -/
def scope? (t : Trimmed) (cs : List Char) : Option (Bool × Option String × List Char) :=
  let span := cs.takeWhile (fun c => c != ']' && c != '\x7b')
  match cs.drop span.length with
  | ']' :: after => some (true, none, after)
  | '\x7b' :: inner => do
    let (valued, name, after) ← t.field? inner
    return (!span.isEmpty || valued, some name, after)
  | _ => none

end Trimmed

/-- A level by itself is for all targets, a target by itself lets all levels through. -/
def Directive.parse? (text : String) : Option Directive := do
  let t : Trimmed := ⟨text⟩
  let cs := t.chars
  let first ← cs.head?
  if first != '[' && !startsTarget first then none
  let stop := cs.dropWhile (fun c => c != '=' && c != '[')
  let target := t.piece cs stop
  match stop with
  | [] => match verbosity? text with
    | some n => return ⟨"", none, false, n⟩
    | none => return ⟨text, none, false, 5⟩
  | '=' :: after => return ⟨target, none, false, ← levelAfter? (t.pieceFrom after)⟩
  | _ :: inside =>
    let (spans, field, after) ← t.scope? inside
    match after with
    | [] => return ⟨target, field, spans, 5⟩
    | '=' :: after => return ⟨target, field, spans, ← levelAfter? (t.pieceFrom after)⟩
    | _ => none

/-- Whether the directive is about the event. -/
def Directive.concerns (d : Directive) (e : Event) : Bool :=
  !d.spans && e.target.startsWith d.target && d.field.all e.fieldNames.contains

/-- Compare how much directives for one event say of it. -/
def Directive.compareDetail (d b : Directive) : Ordering :=
  (compare d.target.length b.target.length).then (compare d.field b.field)

namespace Directive

/-- The directive for the event that says most of it, the last of equals. -/
def most? (directives : List Directive) (e : Event) : Option Directive :=
  (directives.filter (fun d => d.concerns e)).foldl
    (fun best d => match best with
      | none => some d
      | some b => if (d.compareDetail b).isGE then some d else some b) none

/-- Of all directives for an event the one that says most of it decides. -/
def allows (directives : List Directive) : Filter := fun e =>
  match most? directives e with
  | none => false
  | some d => e.level.verbosity ≤ d.verbosity

/-- The filter of a list of directives between commas. The command runs with it; what is proved of a program
holds with any. -/
def filter? (text : String) : Option Filter := do
  let parts := (text.splitOn ",").filter (fun part => part != "")
  return allows (← parts.mapM parse?)

/-- The same where some may not be readable; these are left out. -/
def filter (text : String) : Filter :=
  allows ((text.splitOn ",").filterMap fun part => if part = "" then none else parse? part)

end Directive

end CountedBox.Log
