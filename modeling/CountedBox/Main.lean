import CountedBox.CommandLine
import CountedBox.FileTree
import CountedBox.Log.Directive
import CountedBox.Toml.Settings

namespace CountedBox

/-- The command is not built for debugging. -/
def commandBuild : Build where
  debug := false
  readToml := Toml.readSettings false
  filter? := Log.Directive.filter?
  filter := Log.Directive.filter

/-- The variables that the program looks at. -/
def variableNames : List String :=
  ["WYCC_CONFIG", "WYCC_LOG", "WYCC_LOG_JSON", "WYCC_TRACK_OBJECTS", "WYCC_LEAK_CHECK",
    "WYCC_LOG_LEVEL", "WYCC_LOG_FILE", "WYCC_DEBUG_TARGET"]

/-- What the system says about a failure. -/
def failureMessage : IO.Error → String
  | .noFileOrDirectory _ _ _ => FileError.notFound.message
  | .inappropriateType _ 20 _ => FileError.notDirectory.message
  | .inappropriateType _ 21 _ => FileError.isDirectory.message
  | .invalidArgument _ 36 _ => FileError.nameTooLong.message
  | e => toString e

def attempt {α : Type} (action : IO α) : IO (Except String α) := do
  match ← action.toBaseIO with
  | .ok x => return .ok x
  | .error e => return .error (failureMessage e)

/-- The directory part of a path, if it has one. -/
def directoryOf (path : String) : Option String :=
  match (path.splitOn "/").dropLast with
  | [] | [""] => none
  | parts => some ("/".intercalate parts)

def systemHost (environment : Environment) : Host IO where
  environment := environment
  read path := attempt do
    return (← IO.FS.readBinFile (Text.lossy path)).toList
  write path content := attempt (IO.FS.writeBinFile path ⟨content.toArray⟩)
  openLog path := do
    if let some directory := directoryOf path then IO.FS.createDirAll directory
    let _ ← IO.FS.Handle.mk path .append

def readEnvironment : IO Environment := do
  let values ← variableNames.mapM fun name => return (name, (← IO.getEnv name).map Text.utf8)
  return fun name => (values.lookup name).join

end CountedBox

open CountedBox in
def main (arguments : List String) : IO UInt32 := do
  let outcome ← CommandLine.run commandBuild (systemHost (← readEnvironment)) ("wycc" :: arguments)
  let lines := String.join (outcome.events.map fun e => e.line outcome.logger.json ++ "\n")
  match outcome.logger.file with
  | some path => (← IO.FS.Handle.mk path .append).putStr lines
  | none => (← IO.getStderr).putStr lines
  (← IO.getStdout).putStr outcome.stdout
  (← IO.getStderr).putStr outcome.stderr
  return outcome.code.toUInt32
