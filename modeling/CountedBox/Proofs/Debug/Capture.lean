import CountedBox.Proofs.Heap.Actions
import CountedBox.Session

namespace CountedBox

/-- Do a block of steps and take what its thread writes meanwhile. -/
def capturing {α : Type} (body : Step α) : Step (α × String) := do
  let (before, debug) := (← get).debug.beginCapture
  modify fun s => { s with debug }
  let answer ← body
  let (text, debug) := (← get).debug.endCapture before
  modify fun s => { s with debug }
  return (answer, text)

/-- Do a block of steps in a thread of its own and wait for its end. -/
def inThread {α : Type} (body : Step α) : Step α := do
  let s ← get
  set s.startThread
  let answer ← body
  modify s.joinThread
  return answer

/-- What a thread does to debug output: it writes, captures what blocks write, and starts threads
that it waits for. -/
inductive Script where
  | done
  | write (bytes : List UInt8) (rest : Script)
  | capture (body rest : Script)
  | thread (body rest : Script)

/-- What the steps of a script answer. -/
inductive Transcript where
  | done
  | write (answer : Except Error Unit) (rest : Transcript)
  | capture (inside : Transcript) (text : String) (rest : Transcript)
  | thread (inside rest : Transcript)

namespace Script

def perform : Script → Step Transcript
  | done => return .done
  | write bytes rest => do
    let answer ← (writeDebug bytes).run
    return .write answer (← rest.perform)
  | capture body rest => do
    let (inside, text) ← capturing body.perform
    return .capture inside text (← rest.perform)
  | thread body rest => do
    let inside ← inThread body.perform
    return .thread inside (← rest.perform)

/-- What the script writes itself: not in a capture nested in it, and not in a thread it starts. -/
def direct : Script → List UInt8
  | done => []
  | write bytes rest => bytes ++ rest.direct
  | capture _ rest => rest.direct
  | thread _ rest => rest.direct

/-- What is written outside every capture of its own thread, in order, when the thread of the
script captures already or does not. -/
def outside (captured : Bool) : Script → List UInt8
  | done => []
  | write bytes rest => (if captured then [] else bytes) ++ rest.outside captured
  | capture body rest => body.outside true ++ rest.outside captured
  | thread body rest => body.outside false ++ rest.outside captured

/-- The answers there should be: a write is refused just when it reaches a sink that fails, and a
capture has what its block wrote itself. -/
def answers (sink : Sink) (captured : Bool) : Script → Transcript
  | done => .done
  | write _ rest =>
    .write (match captured, sink.writeError with
      | false, some reason => .error (.io reason)
      | _, _ => .ok ()) (rest.answers sink captured)
  | capture body rest =>
    .capture (body.answers sink true) (Text.lossy body.direct) (rest.answers sink captured)
  | thread body rest => .thread (body.answers sink false) (rest.answers sink captured)

end Script

/-- Debug output once a thread that holds it has written `direct` itself and `outside` was written
outside every capture. A sink that fails takes nothing. -/
def Debug.extend (d : Debug) (direct outside : List UInt8) : Debug :=
  { d with
    capture := d.capture.map (· ++ direct)
    written := if d.sink.writeError.isSome then d.written else d.written.append d.sink.outlet outside }

@[simp] theorem Written.append_nil (w : Written) (outlet : Outlet) : w.append outlet [] = w := by
  cases outlet with
  | channel c => cases c <;> simp [Written.append]
  | buffer => simp [Written.append]

namespace Debug

@[simp] theorem extend_sink (d : Debug) (direct outside : List UInt8) :
    (d.extend direct outside).sink = d.sink := rfl

@[simp] theorem extend_capture (d : Debug) (direct outside : List UInt8) :
    (d.extend direct outside).capture = d.capture.map (· ++ direct) := rfl

end Debug

section Steps

variable {α : Type} {body : Step α} {a : α} {s : Session} {direct outside : List UInt8}

/-- A write is refused just when it reaches a sink that fails. -/
theorem run_writeDebug (bytes : List UInt8) (s : Session) :
    (writeDebug bytes).run.run s = .ok
      (match s.debug.capture.isSome, s.debug.sink.writeError with
        | false, some reason => .error (.io reason)
        | _, _ => .ok (),
      { s with debug := s.debug.extend bytes (if s.debug.capture.isSome then [] else bytes) }) := by
  obtain ⟨heap, ⟨capture, sink, written⟩, lastError, config, logger, events⟩ := s
  cases captured : capture <;> cases refused : sink.writeError <;>
    simp [writeDebug, Debug.write, Debug.extend, ExceptT.run, ExceptT.mk, StateT.run, refused]

end Steps

/-- A capture between two writes of another leaves them together, and a sink that fails is not
asked. -/
example : (Script.capture (.write [97] (.capture (.write [98] .done) (.write [99] .done))) .done).answers
    ⟨.buffer, some "closed", none⟩ false =
      .capture (.write (.ok ()) (.capture (.write (.ok ()) .done) "b" (.write (.ok ()) .done))) "ac" .done := by
  cbv

end CountedBox
