import CountedBox.Text.CodePoints
import CountedBox.Text.Number

namespace CountedBox.Log.Pattern

/-- How a pattern is read from some point on. -/
structure Mode where
  /-- Whether blanks and comments are passed over. -/
  loose : Bool := false
  /-- Whether it is about characters, and not about bytes. -/
  unicode : Bool := true
  /-- Whether case does not count. -/
  anyCase : Bool := false

namespace Mode

/-- Case is known for bytes only, so that a character cannot be compared without it. -/
def compares (m : Mode) : Bool := !(m.unicode && m.anyCase)

/-- Whether a set may hold this character. -/
def admits (m : Mode) (c : Char) : Bool := m.compares && (m.unicode || c.toNat < 128)

end Mode

/-- What follows blanks and comments; a comment goes on to the end of its line. -/
def skipLoose (comment : Bool) : List Char → List Char
  | [] => []
  | c :: rest =>
    if comment then skipLoose (c != '\n') rest
    else if Text.blank.contains c then skipLoose false rest
    else if c == '#' then skipLoose true rest
    else c :: rest

def Mode.skip (m : Mode) (cs : List Char) : List Char := if m.loose then skipLoose false cs else cs

/-- The character that comes next. A comment counts here as its sign alone. -/
def Mode.peek? (m : Mode) (cs : List Char) : Option Char :=
  if m.loose then
    match cs.dropWhile Text.blank.contains with
    | '#' :: rest => (rest.dropWhile Text.blank.contains).head?
    | rest => rest.head?
  else cs.head?

/-- The smallest parts of a pattern. -/
inductive Atom where
  | char (c : Char)
  /-- Any one of several characters. -/
  | set
  /-- A place between characters. -/
  | place

/-- The number of `count` hexadecimal digits that go on after the number `n`. -/
def hexNumber? (m : Mode) : Nat → Nat → List Char → Option (Nat × List Char)
  | 0, n, cs => some (n, cs)
  | count + 1, n, cs => match m.skip cs with
    | [] => none
    | d :: rest =>
      if Text.isHexDigit d then hexNumber? m count (n * 16 + Text.digitValue d) rest else none

/-- A character by its number. Half of all bytes are no characters. -/
def hexChar? (m : Mode) (count : Nat) (cs : List Char) : Option (Atom × List Char) := do
  let (n, rest) ← hexNumber? m count 0 cs
  if n.isValidChar && (m.unicode || count != 2 || n < 128) then some (.char (Char.ofNat n), rest)
  else none

/-- What a backslash makes of the characters after it. Digits, blanks, words and the borders of
words are known for bytes only, and what is no digit, blank or word is never known, because such
bytes may be no characters. -/
def escape? (m : Mode) : List Char → Option (Atom × List Char)
  | [] => none
  | 'x' :: rest => hexChar? m 2 rest
  | 'u' :: rest => hexChar? m 4 rest
  | 'U' :: rest => hexChar? m 8 rest
  | 'd' :: rest | 's' :: rest | 'w' :: rest => if m.unicode then none else some (.set, rest)
  | 'b' :: rest | 'B' :: rest | '<' :: rest | '>' :: rest =>
    if m.unicode then none else some (.place, rest)
  | 'A' :: rest | 'z' :: rest => some (.place, rest)
  | 'a' :: rest => some (.char '\x07', rest)
  | 'f' :: rest => some (.char '\x0c', rest)
  | 'n' :: rest => some (.char '\n', rest)
  | 'r' :: rest => some (.char '\r', rest)
  | 't' :: rest => some (.char '\t', rest)
  | 'v' :: rest => some (.char '\x0b', rest)
  | c :: rest => if c.toNat < 128 && !c.isAlphanum then some (.char c, rest) else none

/-- How deep parts side by side are nested; one by itself adds nothing. -/
def rowDepth : List Nat → Nat
  | [] => 0
  | [depth] => depth
  | depths => depths.foldl max 0 + 1

end CountedBox.Log.Pattern
