import CountedBox.Log.Pattern.Atom

namespace CountedBox.Log.Pattern

/-- A set of characters between brackets as far as it is read, by how deep its parts are nested. -/
structure OpenSet where
  /-- What stands before the last operator. -/
  left : Option Nat := none
  items : List Nat := []

namespace OpenSet

def add (s : OpenSet) (depth : Nat) : OpenSet := { s with items := depth :: s.items }

def depth (s : OpenSet) : Nat :=
  match s.left with
  | none => rowDepth s.items
  | some left => max left (rowDepth s.items) + 1

/-- What was read becomes the left side of an operator. -/
def operator (s : OpenSet) : OpenSet := ⟨some s.depth, []⟩

end OpenSet

/-- Dashes at the start of a set stand for themselves; `bound` is at least their number. -/
def dashes (m : Mode) : Nat → List Char → Nat × List Char
  | bound + 1, '-' :: rest =>
    let (count, after) := dashes m bound (m.skip rest)
    (count + 1, after)
  | _, cs => (0, cs)

/-- The start of a set after its bracket. A closing bracket stands for itself there. The complement
of a set of bytes would hold bytes that are no characters. -/
def openSet? (m : Mode) (cs : List Char) : Option (OpenSet × List Char) :=
  let start (cs : List Char) : Option (OpenSet × List Char) :=
    match dashes m cs.length cs with
    | (0, ']' :: rest) => if m.compares then some (⟨none, [0]⟩, rest) else none
    | (count, rest) =>
      if count == 0 || m.compares then some (⟨none, List.replicate count 0⟩, rest) else none
  match m.skip cs with
  | '^' :: rest => if m.unicode then start (m.skip rest) else none
  | cs => start cs

def setNames : List String :=
  ["alnum", "alpha", "ascii", "blank", "cntrl", "digit", "graph", "lower", "print", "punct",
    "space", "upper", "word", "xdigit"]

/-- A set by its name, after its bracket; true means its complement. -/
def namedSet? : List Char → Option (Bool × List Char)
  | ':' :: cs =>
    let negated := cs.head? == some '^'
    let cs := if negated then cs.drop 1 else cs
    let name := cs.takeWhile (· != ':')
    match cs.drop name.length with
    | ':' :: ']' :: rest =>
      if setNames.contains (String.ofList name) then some (negated, rest) else none
    | _ => none
  | _ => none

def setAtom? (m : Mode) : List Char → Option (Atom × List Char)
  | [] => none
  | '\\' :: rest => escape? m rest
  | c :: rest => some (.char c, rest)

/-- What follows one item of a set. A dash that is not before another dash or the end of the set
makes a range, from one character to one that is no smaller. -/
def afterItem? (m : Mode) (cs : List Char) : Option (List Char) := do
  let (first, rest) ← setAtom? m cs
  let single : Option (List Char) := match first with
    | .char c => if m.admits c then some rest else none
    | .set => some rest
    | .place => none
  match m.skip rest with
  | '-' :: after =>
    let next := m.peek? after
    if next == some ']' || next == some '-' then single
    else
      let (last, rest) ← setAtom? m (m.skip after)
      match first, last with
      | .char a, .char b => if a ≤ b && m.admits a && m.admits b then some rest else none
      | _, _ => none
  | _ => single

/-- How deep a set is nested, and what follows it; `outer` are the sets around it, and `bound` is
more than the length of the text. -/
def setBody? (m : Mode) : Nat → List OpenSet → OpenSet → List Char → Option (Nat × List Char)
  | 0, _, _, _ => none
  | bound + 1, outer, s, cs => match m.skip cs with
    | [] => none
    | ']' :: rest => match outer with
      | [] => some (s.depth + 1, rest)
      | parent :: outer => setBody? m bound outer (parent.add (s.depth + 1)) rest
    | '[' :: rest => match namedSet? rest with
      | some (negated, after) =>
        if m.compares && (m.unicode || !negated) then setBody? m bound outer (s.add 0) after
        else none
      | none => do
        let (inner, after) ← openSet? m rest
        setBody? m bound (s :: outer) inner after
    | '&' :: '&' :: rest | '-' :: '-' :: rest | '~' :: '~' :: rest =>
      setBody? m bound outer s.operator rest
    | cs => do setBody? m bound outer (s.add 0) (← afterItem? m cs)

/-- How deep a set is nested, and what follows it, after its bracket. -/
def set? (m : Mode) (cs : List Char) : Option (Nat × List Char) := do
  let (s, rest) ← openSet? m cs
  setBody? m (rest.length + 1) [] s rest

end CountedBox.Log.Pattern
