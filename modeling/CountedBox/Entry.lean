import CountedBox.Call

namespace CountedBox

/-- The same operations as compiled programs call them: arguments are numbers, references and texts
that may be null, an error is recorded, and a neutral result is returned instead. -/
inductive Entry where
  | boxNull
  | boxBool (value : Int)
  | boxByte (value : UInt8)
  | boxChar (code : UInt32)
  | boxInt (value : Int)
  | boxStr (text : Option (List UInt8))
  | objStr (r : Ref)
  | boolValue (r : Ref)
  | intValue (r : Ref)
  | strValue (r : Ref)
  | listNew (capacity : Int)
  | listAdd (list item : Ref)
  | listSize (list : Ref)
  | listGet (list : Ref) (index : Int)
  | setNew
  | setAdd (set item : Ref)
  | setSize (set : Ref)
  | tupleNew (arity : Int)
  | tupleSet (tuple : Ref) (index : Int) (item : Ref)
  | tupleGet (tuple : Ref) (index : Int)
  | recordNew
  | recordPut (record : Ref) (field : Option (List UInt8)) (item : Ref)
  | recordGet (record : Ref) (field : Option (List UInt8))
  | equals (a b : Ref)
  | incrBox (r : Ref)
  | derefBox (r : Ref) (flag : Int)
  | debugStr (text : Option (List UInt8))
  | debugObj (r : Ref)
  | clearError
  | shutdown

namespace Entry

/-- An index as containers take it. A negative one stands for an index beyond every length. -/
def index (i : Int) : Nat := if 0 ≤ i then i.toNat else UInt64.size - 1

/-- The largest number an entry can return as a size. -/
def maxInt : Nat := 2147483647

def flag (b : Bool) : Int := if b then 1 else 0

/-- A text argument up to its first zero byte. -/
def argument (text : Option (List UInt8)) (operation : String) : Except Error (List UInt8) :=
  match text with
  | none => .error (.nullReference operation)
  | some bytes => .ok (Text.untilZero bytes)

/-- A field name, with what is not UTF-8 replaced. -/
def fieldName (text : Option (List UInt8)) (operation : String) : Except Error String :=
  (argument text operation).map Text.lossy

/-- A constructor or accessor: null when it fails. -/
def reference (attempt : Attempt Ref) : Step Reply :=
  settle attempt .ref (fun _ => .ref none)

/-- A number: `fallback` when it fails. -/
def number (attempt : Attempt Int) (fallback : Int) : Step Reply :=
  settle attempt .int (fun _ => .int fallback)

/-- An insertion: zero, or the code of the error. -/
def insertion (attempt : Attempt Unit) : Step Reply :=
  settle attempt (fun _ => .int 0) (fun e => .int e.code)

/-- Debug output: nothing is returned. -/
def output (attempt : Attempt Unit) : Step Reply :=
  settle attempt (fun _ => .done) (fun _ => .done)

def perform : Entry → Step Reply
  | boxNull => reference (onHeap (box .null))
  | boxBool value => reference (onHeap (box (.bool (value != 0))))
  | boxByte value => reference (onHeap (box (.byte value)))
  | boxChar code => reference (onHeap (CountedBox.boxChar code))
  | boxInt value => reference (onHeap (box (.int value)))
  | boxStr text => reference do
    let bytes ← ExceptT.mk (pure (argument text "wycc_box_str"))
    onHeap (boxText (Text.lossy bytes))
  | objStr r => reference (onHeap (boxRendering r))
  | boolValue r => number (flag <$> askHeap fun h => h.boolValue r) 0
  | intValue r => number (askHeap fun h => h.intValue r) 0
  | strValue r =>
    settle (askHeap fun h => h.textValue r) (fun bytes => .bytes (some bytes)) (fun _ => .bytes none)
  | listNew capacity => reference (onHeap (newList capacity.toNat))
  | listAdd list item => insertion (onHeap (CountedBox.listAdd list item))
  | listSize list => number ((fun n => (min n maxInt : Nat)) <$> askHeap fun h => h.listSize list) (-1)
  | listGet list i => reference (askHeap fun h => h.listGet list (index i))
  | setNew => reference (onHeap newSet)
  | setAdd set item =>
    settle (onHeap (CountedBox.setAdd set item)) (fun added => .int (flag added))
      (fun e => .int (-e.code))
  | setSize set => number ((fun n => (min n maxInt : Nat)) <$> askHeap fun h => h.setSize set) (-1)
  | tupleNew arity => reference (onHeap (newTuple arity.toNat))
  | tupleSet tuple i item => insertion (onHeap (CountedBox.tupleSet tuple (index i) item))
  | tupleGet tuple i => reference (askHeap fun h => h.tupleGet tuple (index i))
  | recordNew => reference (onHeap newRecord)
  | recordPut record field item => insertion do
    let name ← ExceptT.mk (pure (fieldName field "wycc_record_put"))
    onHeap (CountedBox.recordPut record name item)
  | recordGet record field => reference do
    let name ← ExceptT.mk (pure (fieldName field "wycc_record_get"))
    askHeap fun h => h.recordGet record name
  | equals a b => number (flag <$> askHeap fun h => h.equals a b) 0
  | incrBox r => reference do
    onHeap (retain r)
    return r
  | derefBox r f => reference do
    return if ← onHeap (release r (f != 0)) then none else r
  | debugStr text => output do
    let bytes ← ExceptT.mk (pure (argument text "wyil_debug_str"))
    log (.debugText bytes.length)
    writeDebug bytes
  | debugObj r => output do
    log (.debugObject r)
    debugObject r
  | clearError => do
    modify fun s => { s with lastError := none }
    return .done
  | shutdown => return .int ((min (← CountedBox.shutdown) maxInt : Nat))

end Entry

end CountedBox
