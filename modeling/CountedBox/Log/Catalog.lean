import CountedBox.Config.Environment

namespace CountedBox.Log

/-- The events of a run that last longer than it: which of them are seen, in which form, and where. -/
structure Logger where
  sees : Filter
  json : Bool
  /-- Without a file events go to the error stream. -/
  file : Option String

namespace Logger

/-- The directives in the variable `WYCC_LOG` replace the level of the configuration if they can be read. -/
def ofConfig (build : Build) (env : Environment) (c : Config) : Logger where
  sees := ((env.text "WYCC_LOG").bind build.filter?).getD
    (build.filter ("wycc=" ++ Text.lowercase (Level.parse c.logLevel).name))
  json := c.logJson
  file := c.logFile

end Logger

namespace Event

def recorded (e : Error) : Event :=
  ⟨.warn, "wycc::errors", some "Runtime error recorded",
    [("event", .quoted "runtime_error"), ("code", .number e.code), ("error", .error e)]⟩

def boxed (kind : Kind) (a : Address) : Event :=
  ⟨.trace, "wycc::logging", some "Object boxed",
    [("event", .quoted "box"), ("typ", .quoted kind.name), ("address", .address a)]⟩

def freed (kind : Kind) (a : Address) (deep : Bool) : Event :=
  ⟨.trace, "wycc::logging", some "Object freed",
    [("event", .quoted "free"), ("typ", .quoted kind.name), ("address", .address a),
      ("deep", .bool deep)]⟩

def leaked (kind : Kind) (a : Address) (count : Int) : Event :=
  ⟨.warn, "wycc::logging", some "Object leaked",
    [("event", .quoted "leak"), ("typ", .quoted kind.name), ("address", .address a),
      ("count", .number count)]⟩

def starting (c : Config) : Event :=
  ⟨.info, "wycc::logging", some "wycc runtime initializing",
    [("event", .quoted "runtime_init"), ("track_objects", .bool c.trackObjects),
      ("debug_target", .plain (match c.debugTarget with
        | .stdout => "Stdout"
        | .stderr => "Stderr"))]⟩

def stopping (live : Nat) : Event :=
  ⟨.info, "wycc::logging", some "wycc runtime shutting down",
    [("event", .quoted "runtime_shutdown"), ("live_objects", .number live)]⟩

def debugObject (r : Ref) : Event :=
  ⟨.trace, "wycc::debug", none, [("event", .quoted "debug_obj"), ("address", .address r.address)]⟩

def debugText (length : Nat) : Event :=
  ⟨.trace, "wycc::debug", none, [("event", .quoted "debug_str"), ("len", .number length)]⟩

end Event

end CountedBox.Log
