import CountedBox.Text.Escaped

namespace CountedBox.Toml

/-- Whether the character may stand in a key without quotes. -/
def isBare (c : Char) : Bool := c.isAlphanum || c == '_' || c == '-'

def isControl (c : Char) : Bool := c < ' ' || c == '\x7f'

/-- A character between double quotes. -/
def basicChar (c : Char) : List Char :=
  match c with
  | '\x08' => ['\\', 'b']
  | '\t' => ['\\', 't']
  | '\n' => ['\\', 'n']
  | '\x0c' => ['\\', 'f']
  | '\r' => ['\\', 'r']
  | '"' => ['\\', '"']
  | '\\' => ['\\', '\\']
  | c =>
    if isControl c then
      let digit (n : Nat) : Char := (Nat.digitChar n).toUpper
      ['\\', 'u', '0', '0', digit (c.toNat / 16), digit (c.toNat % 16)]
    else [c]

/-- A key as it is best written: without quotes if it can be, with the quotes that need no escapes
if there are such, and else with double quotes. -/
def writtenKey (name : String) : String :=
  let cs := name.toList
  let controls := cs.any (fun c => isControl c && c != '\t')
  let basic := String.ofList ('"' :: cs.flatMap basicChar ++ ['"'])
  if !cs.isEmpty && cs.all isBare then name
  else if !controls && !cs.contains '\\' && !cs.contains '"' then basic
  else if !controls && !cs.contains '\'' then "'" ++ name ++ "'"
  else basic

/-- What a key of a document stands for. -/
inductive Node where
  | string (s : String)
  | integer (i : Int)
  /-- A floating-point number by its text. -/
  | float (text : String)
  | boolean (b : Bool)
  | datetime
  | array (items : List Node)
  /-- A table written as a value. -/
  | inline (entries : List (String × Node))
  /-- A table of the document. It is implicit when only something inside it was named, and dotted
  when that was done by a key with dots. -/
  | table (implicit dotted : Bool) (entries : List (String × Node))
  /-- An array of tables, the newest first. -/
  | tables (items : List (List (String × Node)))

abbrev Entries := List (String × Node)

/-- Why a text is no document. -/
inductive Failure where
  | syntaxError
  | duplicateKey (key : String)
  /-- The table is named by its keys; none stand for the document itself. -/
  | duplicateIn (key : String) (table : List String)

namespace Failure

def message : Failure → String
  | syntaxError => "malformed"
  | duplicateKey key => "duplicate key `" ++ key ++ "`"
  | duplicateIn key [] => "duplicate key `" ++ key ++ "` in document root"
  | duplicateIn key table =>
    "duplicate key `" ++ key ++ "` in table `" ++ ".".intercalate table ++ "`"

end Failure

/-- What a message says it found. -/
def Node.describe : Node → String
  | string s => "string " ++ Text.quoted s
  | integer i => "integer `" ++ toString i ++ "`"
  | float text => "floating point `" ++ text ++ "`"
  | boolean b => "boolean `" ++ toString b ++ "`"
  | array _ | tables _ => "sequence"
  | datetime | inline _ | table _ _ _ => "map"

namespace Entries

def find? (entries : Entries) (key : String) : Option Node := entries.lookup key

/-- Bind a key in its place, or at the end. -/
def put (key : String) (node : Node) : Entries → Entries
  | [] => [(key, node)]
  | (k, n) :: rest => if k = key then (key, node) :: rest else (k, n) :: put key node rest

def remove (entries : Entries) (key : String) : Entries := entries.filter (fun e => e.1 != key)

/-- Change the table at the end of a path, making tables on the way. `byDots` says that the path is
part of a key with dots, which may not enter a table that was defined by itself. `change` learns
whether the table it gets was made by dots. -/
def alter (byDots : Bool) (change : Bool → Entries → Except Failure Entries) :
    List String → Bool → Entries → Except Failure Entries
  | [], dotted, entries => change dotted entries
  | key :: path, _, entries => match find? entries key with
    | none => do
      let made ← alter byDots change path byDots []
      return entries ++ [(key, .table true byDots made)]
    | some (.table implicit dotted inner) =>
      if byDots && !implicit then .error (.duplicateKey key)
      else do
        let changed ← alter byDots change path dotted inner
        return put key (.table implicit dotted changed) entries
    | some (.tables (newest :: older)) => do
      let changed ← alter byDots change path false newest
      return put key (.tables (changed :: older)) entries
    | some _ => .error .syntaxError

/-- Bind a key with dots inside a table; `table` names it in messages. -/
def bind (path : List String) (key : String) (node : Node) (table : Option (List String))
    (entries : Entries) : Except Failure Entries :=
  alter true (fun dotted inner =>
    if dotted == path.isEmpty then .error (.duplicateKey key)
    else match find? inner key with
      | none => .ok (inner ++ [(key, node)])
      | some _ => .error (match table with
        | none => .duplicateKey key
        | some names => .duplicateIn key names))
    path false entries

end Entries

end CountedBox.Toml
