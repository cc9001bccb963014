import CountedBox.Text.Lowercase
import CountedBox.Error

namespace CountedBox.Log

inductive Level where
  | trace | debug | info | warn | error
  deriving DecidableEq, Repr

namespace Level

def name : Level → String
  | trace => "TRACE"
  | debug => "DEBUG"
  | info => "INFO"
  | warn => "WARN"
  | error => "ERROR"

/-- How much has to be let through for this level to be seen; zero lets nothing through. -/
def verbosity : Level → Nat
  | error => 1
  | warn => 2
  | info => 3
  | debug => 4
  | trace => 5

/-- A level by its name in any case; any other word means warn. -/
def parse (name : String) : Level :=
  match Text.lowercase name with
  | "trace" => trace
  | "debug" => debug
  | "info" => info
  | "error" => error
  | _ => warn

end Level

/-- The value of a field of an event. -/
inductive FieldValue where
  /-- Text that stands in quotes. -/
  | quoted (s : String)
  /-- Text that stands as it is. -/
  | plain (s : String)
  | bool (b : Bool)
  | number (n : Int)
  | address (a : Address)
  | error (e : Error)

structure Event where
  level : Level
  target : String
  message : Option String
  fields : List (String × FieldValue)

/-- Says of each event whether it is seen. -/
abbrev Filter := Event → Bool

/-- The names that the parts of an event go by. -/
def Event.fieldNames (e : Event) : List String :=
  (e.message.map fun _ => "message").toList ++ e.fields.map Prod.fst

/-- A value by itself, with addresses written by `address`. -/
def FieldValue.bareWith (address : Address → String) : FieldValue → String
  | quoted s | plain s => s
  | bool b => toString b
  | number n => toString n
  | .address a => address a
  | error e => e.messageWith address

/-- A value as it stands in a line of the log. -/
def FieldValue.textWith (address : Address → String) : FieldValue → String
  | quoted s => "\"" ++ s ++ "\""
  | v => v.bareWith address

/-- The line of the log from the message on. -/
def Event.textWith (address : Address → String) (e : Event) : String :=
  " ".intercalate
    (e.message.toList ++ e.fields.map fun field => field.1 ++ "=" ++ field.2.textWith address)

/-- A text in quotes as JSON has it. -/
def jsonText (s : String) : String :=
  let escape (c : Char) : String :=
    if c = '"' then "\\\"" else if c = '\\' then "\\\\"
    else if c < ' ' then
      "\\u" ++ String.ofList (List.replicate (4 - (Text.hexDigits c.toNat).length) '0') ++
        Text.hexDigits c.toNat
    else String.singleton c
  "\"" ++ String.join (s.toList.map escape) ++ "\""

def jsonObject (members : List (String × String)) : String :=
  "\x7b" ++ ",".intercalate (members.map fun m => jsonText m.1 ++ ":" ++ m.2) ++ "\x7d"

def FieldValue.json : FieldValue → String
  | bool b => toString b
  | number n => toString n
  | v => jsonText (v.bareWith Address.hex)

/-- A line of the log, in JSON or for people. -/
def Event.line (e : Event) (json : Bool) : String :=
  if json then
    jsonObject [("level", jsonText e.level.name), ("target", jsonText e.target),
      ("fields", jsonObject ((e.message.map fun m => ("message", jsonText m)).toList ++
        e.fields.map fun field => (field.1, field.2.json)))]
  else e.level.name ++ " " ++ e.target ++ ": " ++ e.textWith Address.hex

end CountedBox.Log
