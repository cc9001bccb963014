import CountedBox.Config.Basic
import CountedBox.Toml.Document

namespace CountedBox.Toml

def wrongType (found : Node) (expected : String) : String :=
  "invalid type: " ++ found.describe ++ ", expected " ++ expected

def asString (expected : String) : Node → Except String String
  | .string s => .ok s
  | n => .error (wrongType n expected)

def asBool : Node → Except String Bool
  | .boolean b => .ok b
  | n => .error (wrongType n "a boolean")

def channelNamed (name : String) : Except String Channel :=
  if name = "stdout" then .ok .stdout
  else if name = "stderr" then .ok .stderr
  else .error ("unknown variant `" ++ name ++ "`, expected `stdout` or `stderr`")

/-- A channel is named by a text, or by the only key of a table, which then stands for nothing. -/
def asChannel : Node → Except String Channel
  | .string s => channelNamed s
  | .inline [entry] | .table _ _ [entry] => ofEntry entry
  | _ => .error "wanted string or table"
where
  ofEntry (entry : String × Node) : Except String Channel := do
    let channel ← channelNamed entry.1
    match entry.2 with
    | .array [] | .inline [] | .table _ _ [] => return channel
    | _ => .error "expected nothing"

/-- Take over one key of a document. -/
def set (v : Config.Values) (key : String) (node : Node) : Except String Config.Values :=
  match key with
  | "log_level" => return { v with logLevel := some (← asString "a string" node) }
  | "log_json" => return { v with logJson := some (← asBool node) }
  | "log_file" => return { v with logFile := some (← asString "path string" node) }
  | "track_objects" => return { v with trackObjects := some (← asBool node) }
  | "leak_check" => return { v with leakCheck := some (← asBool node) }
  | "debug_target" => return { v with debugTarget := some (← asChannel node) }
  | _ => .error ("unknown field `" ++ key ++ "`, expected one of `log_level`, `log_json`, " ++
      "`log_file`, `track_objects`, `leak_check`, `debug_target`")

/-- The values of a document, whose keys are taken over in order; the first bad one is told of. -/
def values (text : String) : Except String Config.Values := do
  let entries ← (Document.parse text).mapError Failure.message
  entries.foldlM (fun v entry => set v entry.1 entry.2) {}

/-- Read the values of a document over the settings of a build. The command runs with this reader; what is
proved of a program holds with any. -/
def readSettings (debug : Bool) (text : String) : Except String Config :=
  (fun v => v.over (Config.default debug)) <$> values text

end CountedBox.Toml
