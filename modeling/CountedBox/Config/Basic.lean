import CountedBox.Log.Event
import CountedBox.Text.Utf8

namespace CountedBox

/-- Where debug output goes. -/
inductive Channel where
  | stdout | stderr
  deriving DecidableEq, Repr

/-- The settings of a program that runs. -/
structure Config where
  logLevel : String := "warn"
  logJson : Bool := false
  logFile : Option String := none
  trackObjects : Bool
  leakCheck : Bool := true
  debugTarget : Channel := .stdout
  deriving DecidableEq, Repr

/-- What a program takes over from how it was built and from the libraries it was built with. Nothing is
assumed of them here. -/
structure Build where
  /-- Whether it was built for debugging. -/
  debug : Bool
  /-- Read the text of a configuration file, or tell what is wrong with it. -/
  readToml : String → Except String Config
  /-- The filter that a text of directives stands for, if all of them can be read. -/
  filter? : String → Option Log.Filter
  /-- The filter that a text of directives stands for, without those that cannot be read. -/
  filter : String → Log.Filter

namespace Config

/-- The settings where nothing else is said. Objects are tracked if the program was built for debugging. -/
def default (debug : Bool) : Config := { trackObjects := debug }

/-- The values that a configuration file has; it may leave out any of them. -/
structure Values where
  logLevel : Option String := none
  logJson : Option Bool := none
  logFile : Option String := none
  trackObjects : Option Bool := none
  leakCheck : Option Bool := none
  debugTarget : Option Channel := none
  deriving DecidableEq, Repr

/-- The values of a file over settings that hold without it. -/
def Values.over (v : Values) (c : Config) : Config where
  logLevel := v.logLevel.getD c.logLevel
  logJson := v.logJson.getD c.logJson
  logFile := v.logFile.or c.logFile
  trackObjects := v.trackObjects.getD c.trackObjects
  leakCheck := v.leakCheck.getD c.leakCheck
  debugTarget := v.debugTarget.getD c.debugTarget

/-- Read the text of a file. What the reader tells of it is passed on as it is. -/
def ofToml (build : Build) (text : String) : Except Error Config :=
  (build.readToml text).mapError .configuration

/-- Read the content of a file, or pass on why there is none. -/
def ofFile (build : Build) (content : Except Error (List UInt8)) : Except Error Config := do
  match Text.decode? (← content) with
  | some text => ofToml build text
  | none => .error (.io "stream did not contain valid UTF-8")

end Config

end CountedBox
