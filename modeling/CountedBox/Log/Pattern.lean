import CountedBox.Log.Pattern.Group

namespace CountedBox.Log.Pattern

/-- A pattern as far as it is read. -/
structure Reading where
  /-- The groups around the innermost one. -/
  outer : List Group := []
  group : Group := ⟨[], [], {}⟩
  mode : Mode := {}
  names : List (List Char) := []

namespace Reading

def add (r : Reading) (depth : Nat) : Reading := { r with group := r.group.add (some depth) }

/-- A name is given to one group only. -/
def opened? (r : Reading) : Opening → Option Reading
  | .change m => some { r with group := r.group.add none, mode := m }
  | .group m name =>
    if name.any r.names.contains then none
    else some ⟨r.group :: r.outer, ⟨[], [], r.mode⟩, m, name.toList ++ r.names⟩

def closed? (r : Reading) : Option Reading :=
  match r.outer with
  | [] => none
  | g :: outer => some
    { r with outer, group := g.add (some (r.group.depth + 1)), mode := r.group.around }

/-- Read one part that starts with `c`. Ends of texts and lines are places in every mode. As a
pattern ends before the first closing brace, an opening one is refused. -/
def step? (r : Reading) (c : Char) (rest : List Char) : Option (Reading × List Char) :=
  match c with
  | '(' => do
    let (opening, rest) ← opening? r.mode (r.mode.skip rest)
    return (← r.opened? opening, rest)
  | ')' => return (← r.closed?, rest)
  | '|' => some ({ r with group := r.group.branch }, rest)
  | '[' => do
    let (depth, rest) ← set? r.mode rest
    return (r.add depth, rest)
  | '?' | '*' | '+' => do
    let group ← r.group.repeat?
    return ({ r with group }, if rest.head? == some '?' then rest.drop 1 else rest)
  | '\x7b' => none
  | '\\' => match escape? r.mode rest with
    | some (.char _, rest) => if r.mode.compares then some (r.add 0, rest) else none
    | some (_, rest) => some (r.add 0, rest)
    | none => none
  | '^' | '$' => some (r.add 0, rest)
  | '.' => if r.mode.unicode then some (r.add 0, rest) else none
  | _ => if r.mode.compares then some (r.add 0, rest) else none

/-- How deep a pattern is nested; `bound` is more than the length of what is left of it. -/
def depth? : Nat → Reading → List Char → Option Nat
  | 0, _, _ => none
  | bound + 1, r, cs => match r.mode.skip cs with
    | [] => if r.outer.isEmpty then some r.group.depth else none
    | c :: rest => do
      let (r, rest) ← r.step? c rest
      depth? bound r rest

end Reading

/-- Whether a text can be used as a pattern for the values of a field. -/
def isValid (cs : List Char) : Bool :=
  match Reading.depth? (cs.length + 1) {} cs with
  | some depth => depth ≤ 250
  | none => false

end CountedBox.Log.Pattern
