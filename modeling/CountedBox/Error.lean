import CountedBox.Reference

namespace CountedBox

/-- Why an operation refuses. -/
inductive Error where
  /-- A required reference or text was null. -/
  | nullReference (operation : String)
  /-- The registry does not know the address: never boxed here, or freed since. -/
  | unknownObject (address : Address)
  /-- The count of the box is already exhausted. -/
  | countUnderflow (address : Address) (count : Int)
  /-- One more reference would not fit into the count. -/
  | countOverflow (address : Address)
  /-- The insertion would make the container an element of itself. -/
  | cyclicReference (address : Address)
  /-- The box stores a number that stands for no kind. -/
  | invalidTag (tag : Int)
  | kindMismatch (expected found : Kind)
  /-- The number is no Unicode scalar value. -/
  | invalidChar (code : Nat)
  | indexOutOfBounds (index length : Nat)
  | unknownField (name : String)
  | configuration (detail : String)
  | io (detail : String)
  deriving DecidableEq, Repr

namespace Error

/-- The number that compiled programs see. -/
def code : Error → Int
  | nullReference _ => 1
  | unknownObject _ => 2
  | countUnderflow _ _ => 3
  | invalidTag _ => 4
  | kindMismatch _ _ => 5
  | invalidChar _ => 6
  | indexOutOfBounds _ _ => 7
  | configuration _ => 8
  | io _ => 9
  | countOverflow _ => 10
  | cyclicReference _ => 11
  | unknownField _ => 12

/-- The message, with addresses written by `address`. -/
def messageWith (address : Address → String) : Error → String
  | nullReference op => "null pointer passed to " ++ op
  | unknownObject a => "unknown object at " ++ address a
  | countUnderflow a n => "refcount underflow at " ++ address a ++ " (count " ++ toString n ++ ")"
  | countOverflow a => "refcount overflow at " ++ address a
  | cyclicReference a => "object at " ++ address a ++ " would contain itself"
  | invalidTag t => "invalid type tag " ++ toString t
  | kindMismatch e f => "type mismatch: expected " ++ e.name ++ ", found " ++ f.name
  | invalidChar c => "invalid char value 0x" ++ Text.hexDigits c
  | indexOutOfBounds i n =>
    "index " ++ toString i ++ " out of bounds for length " ++ toString n
  | unknownField f => "record has no field `" ++ f ++ "`"
  | configuration d => "configuration error: " ++ d
  | io d => "i/o error: " ++ d

def message (e : Error) : String := e.messageWith Address.hex

theorem code_pos (e : Error) : 0 < e.code := by cases e <;> simp [code]

end Error

/-- What an operation runs into when it is used outside its contract. No refusal is involved:
a program that gets here has no defined behaviour. -/
inductive Fault where
  /-- The box at this address was read after it was freed. -/
  | dangling (address : Address)
  /-- The payload was read as a kind of another layout. -/
  | layout (address : Address)
  /-- A value is nested deeper than there are boxes, so it contains itself. -/
  | tooDeep
  deriving DecidableEq, Repr

/-- Why an operation ends without a result. -/
inductive Stop where
  | error (e : Error)
  | fault (f : Fault)
  deriving DecidableEq, Repr

/-- Refuse with `e`. -/
abbrev refuse {α : Type} (e : Error) : Except Stop α := .error (.error e)

/-- Break off with `f`. -/
abbrev breakOff {α : Type} (f : Fault) : Except Stop α := .error (.fault f)

end CountedBox
