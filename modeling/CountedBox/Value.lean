import Std.Data.TreeMap
import CountedBox.Error

namespace CountedBox

/-- The fields of a record, in the order of their names. -/
abbrev Fields := Std.TreeMap String Ref

/-- One level of what a box holds; elements are references to other boxes. -/
inductive Value where
  | null
  | bool (b : Bool)
  | byte (b : UInt8)
  | char (c : Char)
  | int (i : Int)
  /-- The bytes of a text, without a zero byte. -/
  | string (bytes : List UInt8)
  | list (items : List Ref)
  | set (items : List Ref)
  | tuple (items : List Ref)
  | record (fields : Fields)

namespace Value

def kind : Value → Kind
  | null => .null
  | bool _ => .bool
  | byte _ => .byte
  | char _ => .char
  | int _ => .int
  | string _ => .string
  | list _ => .list
  | set _ => .set
  | tuple _ => .tuple
  | record _ => .record

/-- The elements of a container in order; a scalar has none. -/
def children : Value → List Ref
  | list items | set items | tuple items => items
  | record fields => fields.values
  | _ => []

end Value

/-- A value as a box stores it: the kind is kept apart, and lists, sets and tuples share a layout. -/
inductive Payload where
  | empty
  | bool (b : Bool)
  | byte (b : UInt8)
  /-- A number meant as a scalar value. -/
  | char (code : UInt32)
  | int (i : Int)
  | string (bytes : List UInt8)
  | items (items : List Ref)
  | fields (fields : Fields)

def Value.payload : Value → Payload
  | .null => .empty
  | .bool b => .bool b
  | .byte b => .byte b
  | .char c => .char c.val
  | .int i => .int i
  | .string bytes => .string bytes
  | .list items | .set items | .tuple items => .items items
  | .record fields => .fields fields

namespace Payload

/-- Whether the payload has the layout of the kind. Nothing is stored for null, so null fits all. -/
def fits : Payload → Kind → Bool
  | _, .null | bool _, .bool | byte _, .byte | char _, .char | int _, .int | string _, .string
  | items _, .list | items _, .set | items _, .tuple | fields _, .record => true
  | _, _ => false

/-- The payload read as a kind; `none` when the layouts differ. -/
def read? : Payload → Kind → Option (Except Error Value)
  | _, .null => some (.ok .null)
  | bool b, .bool => some (.ok (.bool b))
  | byte b, .byte => some (.ok (.byte b))
  | char c, .char =>
    some (if h : c.isValidChar then .ok (.char ⟨c, h⟩) else .error (.invalidChar c.toNat))
  | int i, .int => some (.ok (.int i))
  | string bytes, .string => some (.ok (.string bytes))
  | items xs, .list => some (.ok (.list xs))
  | items xs, .set => some (.ok (.set xs))
  | items xs, .tuple => some (.ok (.tuple xs))
  | fields fs, .record => some (.ok (.record fs))
  | _, _ => none

/-- The references a payload of this kind holds. -/
def elements : Payload → Kind → List Ref
  | _, .null => []
  | items xs, _ => xs
  | fields fs, _ => fs.values
  | _, _ => []

theorem read?_isSome (p : Payload) (k : Kind) : (p.read? k).isSome = p.fits k := by
  cases p <;> cases k <;> rfl

end Payload

theorem Value.fits_payload (v : Value) : v.payload.fits v.kind = true := by cases v <;> rfl

/-- A value is read back from its payload. -/
theorem Value.read?_payload (v : Value) : v.payload.read? v.kind = some (.ok v) := by
  cases v with
  | char c => simp [Value.payload, Value.kind, Payload.read?, show c.val.isValidChar from c.valid]
  | _ => rfl

theorem Value.elements_payload (v : Value) : v.payload.elements v.kind = v.children := by
  cases v <;> rfl

end CountedBox
