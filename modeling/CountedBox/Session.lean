import CountedBox.Boxing
import CountedBox.Debug
import CountedBox.Log.Catalog

namespace CountedBox

/-- A running program as one of its threads sees it: the heap, debug output, the last error of the
thread, and what was set up at the start. -/
structure Session where
  heap : Heap
  debug : Debug := {}
  lastError : Option Error := none
  config : Option Config := none
  logger : Option Log.Logger := none
  /-- The events that were seen, newest first. -/
  events : List Log.Event := []

/-- A step of a session. It may run into a fault. -/
abbrev Step (α : Type) : Type := StateT Session (Except Fault) α

/-- A step that may refuse. What it did until then stays done. -/
abbrev Attempt (α : Type) : Type := ExceptT Error (StateT Session (Except Fault)) α

namespace Session

/-- A program before it is set up. Objects are tracked if it was built for debugging. -/
def initial (debug : Bool) : Session := { heap := { tracking := debug } }

/-- The event is seen if logging is set up and its filter lets it through. -/
def log (s : Session) (e : Log.Event) : Session :=
  match s.logger with
  | some l => if l.sees e then { s with events := e :: s.events } else s
  | none => s

/-- Make `e` the last error of the thread. -/
def record (s : Session) (e : Error) : Session :=
  { s.log (.recorded e) with lastError := some e }

/-- Act on what the heap has noted. -/
def observe (s : Session) : Note → Session
  | .boxed kind a => s.log (.boxed kind a)
  | .freed kind a deep => s.log (.freed kind a deep)
  | .elementError e => s.record e

/-- Take over a changed heap and act on its journal, oldest first. -/
def adopt (s : Session) (h : Heap) : Session :=
  h.journal.reverse.foldl observe { s with heap := { h with journal := [] } }

/-- The code of the last error, or zero. -/
def errorCode (s : Session) : Int := (s.lastError.map Error.code).getD 0

/-- The message of the last error as a text that ends with a zero byte. A message that holds a zero
itself cannot be passed on so and is left out. -/
def errorText (s : Session) (address : Address → String) : Option String :=
  s.lastError.map fun e =>
    let message := e.messageWith address
    if message.contains '\x00' then "" else message

/-- A thread starts with no error and no capture. -/
def startThread (s : Session) : Session :=
  { s with lastError := none, debug := { s.debug with capture := none } }

/-- Go on with the thread of `s` after another has ended with `t`. -/
def joinThread (s t : Session) : Session :=
  { t with lastError := s.lastError, debug := { t.debug with capture := s.debug.capture } }

end Session

def record (e : Error) : Step Unit := modify fun s => s.record e

def log (e : Log.Event) : Step Unit := modify fun s => s.log e

/-- Work on the heap. -/
def onHeap {α : Type} (a : Action α) : Attempt α := ExceptT.mk fun s =>
  match a.run s.heap with
  | (.ok x, h) => .ok (.ok x, s.adopt h)
  | (.error (.error e), h) => .ok (.error e, s.adopt h)
  | (.error (.fault f), _) => .error f

/-- Ask the heap. -/
def askHeap {α : Type} (f : Heap → Except Stop α) : Attempt α := ExceptT.mk fun s =>
  match f s.heap with
  | .ok x => .ok (.ok x, s)
  | .error (.error e) => .ok (.error e, s)
  | .error (.fault f) => .error f

/-- Write bytes to debug output. -/
def writeDebug (bytes : List UInt8) : Attempt Unit := ExceptT.mk fun s =>
  match s.debug.write bytes with
  | .ok d => .ok (.ok (), { s with debug := d })
  | .error e => .ok (.error e, s)

/-- Write a box to debug output. -/
def debugObject (r : Ref) : Attempt Unit := do
  writeDebug (Text.utf8 (← askHeap fun h => h.renderTop r))

def flushDebug : Attempt Unit := ExceptT.mk fun s => .ok (s.debug.flush, s)

/-- Do what a step asks for; if it refuses, the error becomes the last one of the thread. -/
def settle {α β : Type} (attempt : Attempt α) (ok : α → β) (failed : Error → β) : Step β := do
  match ← attempt.run with
  | .ok x => return ok x
  | .error e => do
    record e
    return failed e

/-- Take a result, or record the error and take `fallback`. -/
def orRecord {α : Type} (result : Except Error α) (fallback : α) : Step α :=
  settle (ExceptT.mk (pure result)) id (fun _ => fallback)

/-- Send debug output somewhere else. What the sink before holds back is flushed. -/
def setSink (sink : Sink) : Step Unit := do
  settle flushDebug id (fun _ => ())
  modify fun s => { s with debug := { s.debug with sink } }

def setTarget (c : Channel) : Step Unit := setSink ⟨.channel c, none, none⟩

/-- Set up logging; only the first time counts. -/
def startLogging (build : Build) (env : Environment) (c : Config) : Step Unit :=
  modify fun s => match s.logger with
    | some _ => s
    | none => { s with logger := some (.ofConfig build env c) }

/-- Set up the program; only the first time counts. The settings in force are returned. -/
def startWith (build : Build) (env : Environment) (c : Config) : Step Config := do
  match (← get).config with
  | some active => return active
  | none => do
    startLogging build env c
    log (.starting c)
    modify fun s => { s with heap := s.heap.setTracking c.trackObjects }
    setTarget c.debugTarget
    modify fun s => { s with config := some c }
    return c

/-- Set up the program from its surroundings; only the first time counts. What was wrong with the
configuration is recorded once logging is set up. -/
def start (build : Build) (env : Environment)
    (readConfig : List UInt8 → Except Error (List UInt8)) : Step Unit := do
  if (← get).config.isNone then
    let (c, complaints) := Config.load build env readConfig
    let _ ← startWith build env c
    complaints.forM record

/-- The count that the box of a live object stores. -/
def liveCount (h : Heap) (a : Address) : Except Fault Int :=
  match h.boxes[a]? with
  | some b => .ok b.count
  | none => .error (.dangling a)

/-- Flush debug output and report what is still alive. -/
def shutdown : Step Nat := do
  settle flushDebug id (fun _ => ())
  let s ← get
  let live := s.heap.statistics.live
  if (s.config.map Config.leakCheck).getD true && s.heap.tracking then
    for (a, kind) in s.heap.liveObjects do
      log (.leaked kind a (← liveCount s.heap a))
  log (.stopping live)
  return live

end CountedBox
