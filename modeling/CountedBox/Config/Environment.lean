import CountedBox.Config.Basic
import CountedBox.Text.Lowercase

namespace CountedBox

/-- The variables a program is started with; their values are bytes. -/
abbrev Environment := String → Option (List UInt8)

/-- The value of a variable that is set and is text. -/
def Environment.text (env : Environment) (key : String) : Option String :=
  (env key).bind Text.decode?

namespace Config

/-- A flag by one of its spellings, in any case. -/
def flag? (value : String) : Option Bool :=
  match Text.lowercase value with
  | "1" | "true" | "yes" | "on" => some true
  | "0" | "false" | "no" | "off" => some false
  | _ => none

/-- A channel by its name, in any case. -/
def channel? (value : String) : Option Channel :=
  match Text.lowercase value with
  | "stdout" => some .stdout
  | "stderr" => some .stderr
  | _ => none

def invalid (key value : String) : Error :=
  .configuration ("invalid value " ++ Text.quoted value ++ " for " ++ key)

/-- What a variable makes of a setting, and the complaint if its value cannot be read. -/
def overrideWith {α : Type} (parse : String → Option α) (vars : String → Option String)
    (key : String) (current : α) : α × List Error :=
  match vars key with
  | none => (current, [])
  | some value => match parse value with
    | some parsed => (parsed, [])
    | none => (current, [invalid key value])

/-- Put the variables over the settings. A value that cannot be read leaves its setting alone. -/
def applyEnv (c : Config) (vars : String → Option String) : Config × List Error :=
  let (logJson, json) := overrideWith flag? vars "WYCC_LOG_JSON" c.logJson
  let (trackObjects, track) := overrideWith flag? vars "WYCC_TRACK_OBJECTS" c.trackObjects
  let (leakCheck, leak) := overrideWith flag? vars "WYCC_LEAK_CHECK" c.leakCheck
  let (debugTarget, target) := overrideWith channel? vars "WYCC_DEBUG_TARGET" c.debugTarget
  let logLevel := match vars "WYCC_LOG_LEVEL" with
    | some level => Text.lowercase level
    | none => c.logLevel
  let logFile := (vars "WYCC_LOG_FILE").or c.logFile
  ({ logLevel, logJson, logFile, trackObjects, leakCheck, debugTarget },
    json ++ track ++ leak ++ target)

/-- The settings of a program: the defaults, the file that `WYCC_CONFIG` names, then single
variables. A bad file counts as none; what was wrong is returned beside the settings. -/
def load (build : Build) (env : Environment) (readConfig : List UInt8 → Except Error (List UInt8)) :
    Config × List Error :=
  let (base, complaints) := match env "WYCC_CONFIG" with
    | none => (default build.debug, [])
    | some path => match ofFile build (readConfig path) with
      | .ok c => (c, [])
      | .error e => (default build.debug, [e])
  let (c, more) := base.applyEnv env.text
  (c, complaints ++ more)

end Config

end CountedBox
