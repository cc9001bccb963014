import CountedBox.Text.Escaped

namespace CountedBox

/-- Where a box lives. Boxes get growing addresses, and a freed one is never given out again. -/
abbrev Address := Nat

/-- A reference is null or names the address of a box. -/
abbrev Ref := Option Address

/-- Addresses below this one belong to no box. -/
def firstAddress : Address := 4096

/-- The number behind a reference; null is zero. -/
def Ref.address (r : Ref) : Address := r.getD 0

/-- An address as messages show it. -/
def Address.hex (a : Address) : String := "0x" ++ Text.hexDigits a

/-- What a box can hold. -/
inductive Kind where
  | null | bool | byte | char | int | string | list | set | tuple | record
  deriving DecidableEq, Repr

namespace Kind

def all : List Kind := [null, bool, byte, char, int, string, list, set, tuple, record]

/-- The number a box stores for its kind. -/
def tag : Kind → Int
  | null => 0
  | bool => 1
  | byte => 2
  | char => 3
  | int => 4
  | string => 5
  | list => 6
  | set => 7
  | tuple => 8
  | record => 9

def name : Kind → String
  | null => "null"
  | bool => "bool"
  | byte => "byte"
  | char => "char"
  | int => "int"
  | string => "string"
  | list => "list"
  | set => "set"
  | tuple => "tuple"
  | record => "record"

def ofTag? (t : Int) : Option Kind := all.find? (fun k => k.tag == t)

/-- Each kind has a tag of its own. -/
theorem ofTag?_tag (k : Kind) : ofTag? k.tag = some k := by cases k <;> rfl

theorem tag_of_ofTag? {t : Int} {k : Kind} (h : ofTag? t = some k) : k.tag = t := by
  have := List.find?_some h
  simpa using this

end Kind

end CountedBox
