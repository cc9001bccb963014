import CountedBox.Toml.Scalar

namespace CountedBox.Toml

open Reader

/-- The values of an array up to its bracket, read by `value`; `bound` is more than the length of the
text. -/
def items (value : Reader Node) : Nat → Reader (List Node)
  | 0 => fail
  | bound + 1 => do
    gap bound
    if ← opt "]" then return []
    else do
      let node ← value
      gap bound
      if ← opt "," then return node :: (← items value bound)
      else do
        expect "]"
        return [node]

/-- A key with dots and what it is bound to. -/
abbrev Pair := (List String × String) × Node

/-- The key of a pair, if there is one that may stand here; else nothing is read. -/
def pairKey? : Reader (Option (List String × String)) := do
  let start ← rest
  blanks
  if (← next?).any (fun c => isQuote c || isBare c) then
    if let some parts ← dottedKey? then return some parts
  set start
  return none

/-- The pairs of a table written as a value, read by `value`. A comma that has no key behind it is
left where it is. -/
def pairs (value : Reader Node) : Nat → Reader (List Pair)
  | 0 => return []
  | bound + 1 => do
    match ← pairKey? with
    | none => return []
    | some parts =>
      expect "="
      blanks
      let node ← value
      blanks
      let before ← rest
      if ← opt "," then
        let more ← pairs value bound
        if more.isEmpty then set before
        return (parts, node) :: more
      else return [(parts, node)]

/-- Bind the pairs of a table written as a value. Tables inside it cannot be added to. -/
def ofPairs (pairs : List Pair) : Except Failure Entries :=
  pairs.foldlM (fun entries ((path, last), node) =>
    let node := match node with
      | .inline inner => .table false false inner
      | n => n
    Entries.bind path last node none entries) []

/-- A table written as a value, after its brace. A key that is bound twice is noticed before it is
seen whether the table ends well. -/
def inlineTable (value : Reader Node) : Reader Node := do
  let found ← pairs value ((← rest).length + 1)
  blanks
  let entries ← ofPairs found
  expect "\x7d"
  return .inline entries

/-- A value, nested at most `depth` levels. -/
def value : Nat → Reader Node
  | 0 => scalar
  | depth + 1 => do
    if ← opt "[" then return .array (← items (value depth) ((← rest).length + 1))
    else if ← opt "\x7b" then inlineTable (value depth)
    else scalar

end CountedBox.Toml
