import CountedBox.Rendering

namespace CountedBox

/-- Box a text, which ends before its first zero. -/
def boxText (s : String) : Action Ref := box (.string (Text.untilZero (Text.utf8 s)))

/-- Box the written form of `r`. -/
def boxRendering (r : Ref) : Action Ref := do
  boxText (← Action.ask fun h => h.renderTop r)

/-- Box the character with this number. -/
def boxChar (code : UInt32) : Action Ref :=
  if h : code.isValidChar then box (.char ⟨code, h⟩)
  else Action.refuse (.invalidChar code.toNat)

namespace Heap

def boolValue (h : Heap) (r : Ref) : Except Stop Bool := do
  match ← h.view r with
  | .bool b => return b
  | v => refuse (.kindMismatch .bool v.kind)

def intValue (h : Heap) (r : Ref) : Except Stop Int := do
  match ← h.view r with
  | .int i => return i
  | v => refuse (.kindMismatch .int v.kind)

/-- The bytes of a text box. -/
def textValue (h : Heap) (r : Ref) : Except Stop (List UInt8) := do
  match ← h.view r with
  | .string bytes => return bytes
  | v => refuse (.kindMismatch .string v.kind)

end Heap

end CountedBox
