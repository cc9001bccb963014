import CountedBox.Header
import CountedBox.Log.Catalog

namespace CountedBox

/-- What the program is asked to do. -/
inductive Command where
  /-- Write the header into a file, or print it. -/
  | header (output : Option String)
  | version
  deriving DecidableEq, Repr

/-- Why the arguments are no command. -/
inductive UsageError where
  | noCommand
  | missingPath
  | unknownOption (word : String)
  | unknownCommand (word : String)
  deriving DecidableEq, Repr

namespace UsageError

def usage (program : String) : String :=
  "wycc - runtime support for Whiley programs compiled to C\n\n" ++
  "USAGE:\n    " ++ program ++ " <COMMAND>\n\n" ++
  "COMMANDS:\n    " ++
  "header [-o PATH]   Print (or write) wycc_lib.h\n    " ++
  "version            Print the runtime version"

def message (program : String) : UsageError → String
  | noCommand => usage program
  | missingPath => "--output requires a path"
  | unknownOption word => "Unknown option: " ++ word ++ "\n\n" ++ usage program
  | unknownCommand word => "Unknown command: " ++ word ++ "\n\n" ++ usage program

end UsageError

namespace Command

def isOutput (word : String) : Bool := word == "-o" || word == "--output"

/-- Read pairs of an option and a path; the last path counts. -/
def headerOptions (output : Option String) : List String → Except UsageError (Option String)
  | [] => .ok output
  | [word] => .error (if isOutput word then .missingPath else .unknownOption word)
  | word :: path :: rest =>
    if isOutput word then headerOptions (some path) rest else .error (.unknownOption word)

/-- Read the arguments; the first is the name of the program. -/
def parse : List String → Except UsageError Command
  | [] | [_] => .error .noCommand
  | _ :: word :: rest =>
    if word = "--help" ∨ word = "-h" then .error .noCommand
    else if word = "version" ∨ word = "--version" then .ok .version
    else if word = "header" then header <$> headerOptions none rest
    else .error (.unknownCommand word)

/-- The command as the log shows it. -/
def describe : Command → String
  | version => "Version"
  | header none => "Header \x7b output: None \x7d"
  | header (some path) => "Header \x7b output: Some(" ++ Text.quoted path ++ ") \x7d"

end Command

namespace Log.Event

def ignoring (e : Error) : Event :=
  ⟨.warn, "wycc", some "Ignoring configuration", [("error", .error e)]⟩

def parsed (c : Command) : Event :=
  ⟨.debug, "wycc", some "Command parsed", [("command", .plain c.describe)]⟩

def headerFailed (path reason : String) : Event :=
  ⟨.error, "wycc", some "Failed to write header", [("path", .plain path), ("error", .plain reason)]⟩

def headerWritten (path : String) : Event :=
  ⟨.info, "wycc", some "Header written", [("path", .plain path)]⟩

end Log.Event

/-- What the program needs of the system it runs on; a failure is told by its message. -/
structure Host (m : Type → Type) where
  environment : Environment
  read : List UInt8 → m (Except String (List UInt8))
  write : String → List UInt8 → m (Except String Unit)
  /-- Make sure that the file of the log exists. -/
  openLog : String → m Unit

/-- What a run of the program leaves. -/
structure Outcome where
  code : Nat := 0
  stdout : String := ""
  stderr : String := ""
  logger : Log.Logger
  /-- The events that were seen, oldest first. -/
  events : List Log.Event

namespace CommandLine

variable {m : Type → Type} [Monad m]

/-- Read the configuration of the program. -/
def configure (build : Build) (host : Host m) : m (Config × List Error) := do
  match host.environment "WYCC_CONFIG" with
  | none => return Config.load build host.environment (fun _ => .ok [])
  | some path =>
    let content := (← host.read path).mapError Error.io
    return Config.load build host.environment (fun _ => content)

/-- Run the program. -/
def run (build : Build) (host : Host m) (arguments : List String) : m Outcome := do
  let (config, complaints) ← configure build host
  let logger := Log.Logger.ofConfig build host.environment config
  if let some path := logger.file then host.openLog path
  let seen (events : List Log.Event) : List Log.Event :=
    (complaints.map Log.Event.ignoring ++ events).filter logger.sees
  match Command.parse arguments with
  | .error e =>
    return { code := 1, stderr := e.message (arguments.headD "wycc") ++ "\n", logger,
             events := seen [] }
  | .ok command =>
    let parsed := Log.Event.parsed command
    match command with
    | .version =>
      return { stdout := "wycc " ++ Header.version ++ "\n", logger, events := seen [parsed] }
    | .header none => return { stdout := Header.render, logger, events := seen [parsed] }
    | .header (some path) =>
      match ← host.write path (Text.utf8 Header.render) with
      | .ok () => return { logger, events := seen [parsed, .headerWritten path] }
      | .error reason =>
        return { code := 1, stderr := "Error writing " ++ path ++ ": " ++ reason ++ "\n", logger,
                 events := seen [parsed, .headerFailed path reason] }

end CommandLine

end CountedBox
