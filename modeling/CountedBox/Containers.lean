import CountedBox.Heap.Release
import CountedBox.Equality

namespace CountedBox

namespace Heap

/-- The elements of the list, set or tuple behind `r`, and where they are stored. -/
def elements (h : Heap) (r : Ref) (expected : Kind) (operation : String) :
    Except Stop (Located × List Ref) := do
  let b ← h.locate r operation
  if b.kind = expected then match b.box.payload with
    | .items items => .ok (b, items)
    | _ => breakOff (.layout b.address)
  else refuse (.kindMismatch expected b.kind)

/-- The fields of the record behind `r`, and where they are stored. -/
def fields (h : Heap) (r : Ref) (operation : String) : Except Stop (Located × Fields) := do
  let b ← h.locate r operation
  if b.kind = .record then match b.box.payload with
    | .fields fields => .ok (b, fields)
    | _ => breakOff (.layout b.address)
  else refuse (.kindMismatch .record b.kind)

/-- Replace the payload of a box. -/
def store (h : Heap) (b : Located) (payload : Payload) : Heap :=
  h.write b.address { b.box with payload }

/-- The element at an index, without a reference of its own. -/
def itemAt (h : Heap) (r : Ref) (kind : Kind) (index : Nat) (operation : String) :
    Except Stop Ref := do
  let (_, items) ← h.elements r kind operation
  match items[index]? with
  | some item => .ok item
  | none => refuse (.indexOutOfBounds index items.length)

def listGet (h : Heap) (list : Ref) (index : Nat) : Except Stop Ref :=
  h.itemAt list .list index "wycc_list_get"

def listSize (h : Heap) (list : Ref) : Except Stop Nat := do
  return (← h.elements list .list "wycc_list_size").2.length

def setSize (h : Heap) (set : Ref) : Except Stop Nat := do
  return (← h.elements set .set "wycc_set_size").2.length

def tupleGet (h : Heap) (tuple : Ref) (index : Nat) : Except Stop Ref :=
  h.itemAt tuple .tuple index "wycc_tuple_get"

def recordGet (h : Heap) (record : Ref) (field : String) : Except Stop Ref := do
  let (_, fields) ← h.fields record "wycc_record_get"
  match fields[field]? with
  | some item => .ok item
  | none => refuse (.unknownField field)

end Heap

namespace Action

def store (b : Located) (payload : Payload) : Action Unit :=
  modify fun h => h.store b payload

end Action

/-- Box an empty list. The capacity is how many elements to make room for; nothing else depends on it. -/
def newList (_capacity : Nat) : Action Ref := box (.list [])

def newSet : Action Ref := box (.set [])

def newRecord : Action Ref := box (.record ∅)

/-- A tuple of boxed nulls. -/
def newTuple (arity : Nat) : Action Ref := do
  let slots ← (List.replicate arity Value.null).mapM box
  box (.tuple slots)

/-- A tuple that takes over one reference per item. -/
def tupleOf (items : List Ref) : Action Ref := box (.tuple items)

/-- Append an item; the list takes over the caller's reference to it. -/
def listAdd (list item : Ref) : Action Unit := do
  Action.ask fun h => h.checkInsert list item "wycc_list_add"
  let (b, items) ← Action.ask fun h => h.elements list .list "wycc_list_add"
  Action.store b (.items (items ++ [item]))

/-- Insert an item unless an equal one is present; either way the caller's reference is used up.
True when the set has grown. -/
def setAdd (set item : Ref) : Action Bool := do
  Action.ask fun h => h.checkInsert set item "wycc_set_add"
  let (b, items) ← Action.ask fun h => h.elements set .set "wycc_set_add"
  if ← Action.ask fun h => h.contains items item then
    let _ ← release item true
    return false
  else
    Action.store b (.items (items ++ [item]))
    return true

/-- Put an item into a slot and give back the reference to the one that was there. -/
def tupleSet (tuple : Ref) (index : Nat) (item : Ref) : Action Unit := do
  Action.ask fun h => h.checkInsert tuple item "wycc_tuple_set"
  let (b, items) ← Action.ask fun h => h.elements tuple .tuple "wycc_tuple_set"
  match items[index]? with
  | none => Action.refuse (.indexOutOfBounds index items.length)
  | some previous =>
    Action.store b (.items (items.set index item))
    let _ ← release previous true

/-- Bind a field to an item and give back the reference to the one it was bound to. -/
def recordPut (record : Ref) (field : String) (item : Ref) : Action Unit := do
  Action.ask fun h => h.checkInsert record item "wycc_record_put"
  let (b, fields) ← Action.ask fun h => h.fields record "wycc_record_put"
  Action.store b (.fields (fields.insert field item))
  match fields[field]? with
  | none => return ()
  | some previous => let _ ← release previous true

end CountedBox
