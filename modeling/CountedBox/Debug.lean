import CountedBox.Config.Basic

namespace CountedBox

/-- Where the bytes of a sink end up. -/
inductive Outlet where
  | channel (c : Channel)
  /-- Memory of whoever installed the sink. -/
  | buffer
  deriving DecidableEq

/-- Takes the debug output of all threads that do not capture their own. -/
structure Sink where
  outlet : Outlet
  /-- Why writing is refused, if it is. -/
  writeError : Option String := none
  /-- Why flushing fails, if it does. -/
  flushError : Option String := none
  deriving DecidableEq

/-- All that was written so far. -/
structure Written where
  stdout : List UInt8 := []
  stderr : List UInt8 := []
  buffer : List UInt8 := []
  deriving DecidableEq

def Written.append (w : Written) (outlet : Outlet) (bytes : List UInt8) : Written :=
  match outlet with
  | .channel .stdout => { w with stdout := w.stdout ++ bytes }
  | .channel .stderr => { w with stderr := w.stderr ++ bytes }
  | .buffer => { w with buffer := w.buffer ++ bytes }

/-- Debug output as one thread sees it. -/
structure Debug where
  /-- What the thread has captured, while it captures. -/
  capture : Option (List UInt8) := none
  sink : Sink := ⟨.channel .stdout, none, none⟩
  written : Written := {}
  deriving DecidableEq

namespace Debug

/-- Bytes go to the capture of the thread if there is one, and to the sink otherwise. -/
def write (d : Debug) (bytes : List UInt8) : Except Error Debug :=
  match d.capture with
  | some taken => .ok { d with capture := some (taken ++ bytes) }
  | none => match d.sink.writeError with
    | some reason => .error (.io reason)
    | none => .ok { d with written := d.written.append d.sink.outlet bytes }

def flush (d : Debug) : Except Error Unit :=
  match d.sink.flushError with
  | some reason => .error (.io reason)
  | none => .ok ()

/-- Start to capture. What was captured so far has to be given back at the end. -/
def beginCapture (d : Debug) : Option (List UInt8) × Debug :=
  (d.capture, { d with capture := some [] })

/-- What was captured since the start, as text; the capture before it goes on. -/
def endCapture (d : Debug) (before : Option (List UInt8)) : String × Debug :=
  (Text.lossy (d.capture.getD []), { d with capture := before })

end Debug

end CountedBox
