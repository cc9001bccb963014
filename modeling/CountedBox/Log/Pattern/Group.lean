import CountedBox.Log.Pattern.Set
import CountedBox.Text.CodePoints

namespace CountedBox.Log.Pattern

/-- A part of a pattern between parentheses as far as it is read. -/
structure Group where
  /-- How deep the branches before this one are nested. -/
  branches : List Nat := []
  /-- How deep the parts of the branch are nested, the last part first; a change of mode has no
  depth. -/
  parts : List (Option Nat) := []
  /-- How the pattern is read after the group. -/
  around : Mode

namespace Group

def row (g : Group) : Nat := rowDepth (g.parts.map (fun part => part.getD 0))

def depth (g : Group) : Nat := rowDepth (g.row :: g.branches)

def add (g : Group) (part : Option Nat) : Group := { g with parts := part :: g.parts }

def branch (g : Group) : Group := { g with branches := g.row :: g.branches, parts := [] }

/-- Repeat the last part. A change of mode cannot be repeated. -/
def repeat? (g : Group) : Option Group :=
  match g.parts with
  | some depth :: parts => some { g with parts := some (depth + 1) :: parts }
  | _ => none

end Group

/-- What an opening parenthesis begins. -/
inductive Opening where
  /-- A change of mode up to the end of the group around it. -/
  | change (m : Mode)
  | group (m : Mode) (name : Option (List Char))

/-- A mode is switched on before the dash and off after it. -/
def switched (flags : List Char) (flag : Char) (before : Bool) : Bool :=
  if flags.contains flag then (flags.takeWhile (· != '-')).contains flag else before

def Mode.switch (m : Mode) (flags : List Char) : Mode where
  loose := switched flags 'x' m.loose
  unicode := switched flags 'u' m.unicode
  anyCase := switched flags 'i' m.anyCase

def areFlags (flags : List Char) : Bool :=
  flags.all (fun c => "imsURux-".contains c) && flags.eraseDups.length == flags.length &&
    flags.getLast? != some '-'

def isName : List Char → Bool
  | [] => false
  | c :: rest =>
    (c == '_' || Text.alphabetic.contains c) &&
      rest.all (fun c => "_.[]".contains c || Text.isAlphanumeric c)

def named? (m : Mode) (cs : List Char) : Option (Opening × List Char) :=
  let name := cs.takeWhile (· != '>')
  match cs.drop name.length with
  | [] => none
  | _ :: rest => if isName name then some (.group m (some name), rest) else none

/-- What begins after an opening parenthesis. -/
def opening? (m : Mode) : List Char → Option (Opening × List Char)
  | '?' :: 'P' :: '<' :: rest | '?' :: '<' :: rest => named? m rest
  | '?' :: rest =>
    let flags := rest.takeWhile (fun c => c != ':' && c != ')')
    if !areFlags flags then none
    else match rest.drop flags.length with
      | ':' :: rest => some (.group (m.switch flags) none, rest)
      | ')' :: rest => if flags.isEmpty then none else some (.change (m.switch flags), rest)
      | _ => none
  | rest => some (.group m none, rest)

end CountedBox.Log.Pattern
