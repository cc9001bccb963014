import CountedBox.Session

namespace CountedBox

/-- What a caller gets back. -/
inductive Reply where
  | done
  | ref (r : Ref)
  | bool (b : Bool)
  | int (i : Int)
  | text (s : String)
  /-- The bytes of a text, or null. -/
  | bytes (b : Option (List UInt8))
  | value (v : Value)
  | objects (found : List (Address × Kind))
  | lastError (e : Option Error)

/-- The operations on values as a library offers them: an error is returned and not recorded,
unless recording is the purpose. -/
inductive Call where
  | box (v : Value)
  | boxChar (code : UInt32)
  | boxText (s : String)
  | boxRendering (r : Ref)
  | boolValue (r : Ref)
  | intValue (r : Ref)
  | view (r : Ref)
  | newList (capacity : Nat)
  | listAdd (list item : Ref)
  | listGet (list : Ref) (index : Nat)
  | newSet
  | setAdd (set item : Ref)
  | newTuple (arity : Nat)
  | tupleOf (items : List Ref)
  | tupleSet (tuple : Ref) (index : Nat) (item : Ref)
  | tupleGet (tuple : Ref) (index : Nat)
  | newRecord
  | recordPut (record : Ref) (field : String) (item : Ref)
  | recordGet (record : Ref) (field : String)
  | equals (a b : Ref)
  | contains (items : List Ref) (item : Ref)
  | reaches (source target : Ref)
  | retain (r : Ref)
  | release (r : Ref) (deep : Bool)
  | render (r : Ref)
  | renderTop (r : Ref)
  | debugObject (r : Ref)
  | write (bytes : List UInt8)
  | flush
  | isLive (r : Ref)
  | liveObjects
  | isTracking
  | setTracking (on : Bool)
  | lastError
  | takeLastError
  | record (e : Error)
  | shutdown

def Call.perform : Call → Attempt Reply
  | box v => .ref <$> onHeap (CountedBox.box v)
  | boxChar code => .ref <$> onHeap (CountedBox.boxChar code)
  | boxText s => .ref <$> onHeap (CountedBox.boxText s)
  | boxRendering r => .ref <$> onHeap (CountedBox.boxRendering r)
  | boolValue r => .bool <$> askHeap fun h => h.boolValue r
  | intValue r => .int <$> askHeap fun h => h.intValue r
  | view r => .value <$> askHeap fun h => h.view r
  | newList capacity => .ref <$> onHeap (CountedBox.newList capacity)
  | listAdd list item => (fun _ => .done) <$> onHeap (CountedBox.listAdd list item)
  | listGet list index => .ref <$> askHeap fun h => h.listGet list index
  | newSet => .ref <$> onHeap CountedBox.newSet
  | setAdd set item => .bool <$> onHeap (CountedBox.setAdd set item)
  | newTuple arity => .ref <$> onHeap (CountedBox.newTuple arity)
  | tupleOf items => .ref <$> onHeap (CountedBox.tupleOf items)
  | tupleSet tuple index item => (fun _ => .done) <$> onHeap (CountedBox.tupleSet tuple index item)
  | tupleGet tuple index => .ref <$> askHeap fun h => h.tupleGet tuple index
  | newRecord => .ref <$> onHeap CountedBox.newRecord
  | recordPut r field item => (fun _ => .done) <$> onHeap (CountedBox.recordPut r field item)
  | recordGet r field => .ref <$> askHeap fun h => h.recordGet r field
  | equals a b => .bool <$> askHeap fun h => h.equals a b
  | contains items item => .bool <$> askHeap fun h => h.contains items item
  | reaches source target => .bool <$> askHeap fun h => h.reaches source target
  | retain r => (fun _ => .done) <$> onHeap (CountedBox.retain r)
  | release r deep => .bool <$> onHeap (CountedBox.release r deep)
  | render r => .text <$> askHeap fun h => h.render r
  | renderTop r => .text <$> askHeap fun h => h.renderTop r
  | debugObject r => (fun _ => .done) <$> CountedBox.debugObject r
  | write bytes => (fun _ => .done) <$> writeDebug bytes
  | flush => (fun _ => .done) <$> flushDebug
  | isLive r => return .bool ((← get).heap.isLive r)
  | liveObjects => return .objects (← get).heap.liveObjects
  | isTracking => return .bool (← get).heap.tracking
  | setTracking on => do
    modify fun s => { s with heap := s.heap.setTracking on }
    return .done
  | lastError => return .lastError (← get).lastError
  | takeLastError => do
    let s ← get
    set { s with lastError := none }
    return .lastError s.lastError
  | record e => do
    CountedBox.record e
    return .done
  | shutdown => return .int (← CountedBox.shutdown)

end CountedBox
