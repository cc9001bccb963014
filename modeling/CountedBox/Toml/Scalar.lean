import CountedBox.Toml.Reader
import CountedBox.Text.Number

namespace CountedBox.Toml

open Reader

/-- Digits, of which some may be kept apart by single underscores. -/
def digits (isDigit : Char → Bool) : Reader (List Char) := do
  let groups := (← takeWhile (fun c => isDigit c || c == '_')).splitOnP (· == '_')
  if groups.all (!·.isEmpty) then return groups.flatten else fail

/-- A whole number; a zero at its start stands alone. -/
def decimal : Reader (List Char) := do
  if ← opt "0" then return ['0'] else digits Char.isDigit

/-- A number that fits into 64 bits with its sign. -/
def inRange (i : Int) : Reader Node :=
  if -9223372036854775808 ≤ i ∧ i ≤ 9223372036854775807 then return .integer i else fail

/-- Step over a sign if there is one; true means negative. -/
def sign : Reader Bool := do
  if ← opt "-" then return true
  else
    let _ ← opt "+"
    return false

/-- A power of ten after its letter, if there is one. -/
def exponent? : Reader (Option Int) := do
  match ← next? with
  | some c =>
    if c == 'e' || c == 'E' then
      skip 1
      let negative ← sign
      let n : Int := Text.ofDigits 10 (← digits Char.isDigit)
      return some (if negative then -n else n)
    else return none
  | none => return none

/-- A number with a fraction or an exponent. Only a negative one may be too large. -/
def inexact (negative : Bool) (digits : List Char) (exponent : Int) : Reader Node :=
  match Text.Binary64.ofDecimal (Text.ofDigits 10 digits) exponent with
  | .infinite => if negative then return .float "-inf" else fail
  | n => return .float ((if negative then "-" else "") ++ n.text)

/-- A number as far as it goes; what follows it is looked at later. -/
def number : Reader Node := do
  if ← opt "0x" then inRange (Text.ofDigits 16 (← digits Text.isHexDigit))
  else if ← opt "0o" then
    inRange (Text.ofDigits 8 (← digits (fun c => '0' ≤ c && c ≤ '7')))
  else if ← opt "0b" then inRange (Text.ofDigits 2 (← digits (fun c => c == '0' || c == '1')))
  else
    let negative ← sign
    if ← opt "inf" then return .float (if negative then "-inf" else "inf")
    else if ← opt "nan" then return .float "NaN"
    else
      let whole ← decimal
      let places ← if ← opt "." then some <$> digits Char.isDigit else pure none
      let power ← exponent?
      if places.isNone && power.isNone then
        let n : Int := Text.ofDigits 10 whole
        inRange (if negative then -n else n)
      else
        let places := places.getD []
        inexact negative (whole ++ places) (power.getD 0 - places.length)

/-- A number of two digits in a range. -/
def field (low high : Nat) : Reader Nat := do
  match ← rest with
  | a :: b :: _ =>
    let n := Text.ofDigits 10 [a, b]
    if a.isDigit && b.isDigit && low ≤ n && n ≤ high then
      skip 2
      return n
    else fail
  | _ => fail

def daysIn (year month : Nat) : Nat :=
  if month = 2 then
    if year % 4 = 0 ∧ (year % 100 ≠ 0 ∨ year % 400 = 0) then 29 else 28
  else if month = 4 ∨ month = 6 ∨ month = 9 ∨ month = 11 then 30 else 31

/-- Whether a year and a dash come next. -/
def startsDate (cs : List Char) : Bool := (cs.take 4).all Char.isDigit && cs[4]? == some '-'

/-- Whether an hour and a colon come next. -/
def startsTime : List Char → Bool
  | a :: b :: ':' :: _ => a.isDigit && b.isDigit && Text.ofDigits 10 [a, b] ≤ 23
  | _ => false

def date : Reader Unit := do
  let year := Text.ofDigits 10 (← takeWhile Char.isDigit)
  expect "-"
  let month ← field 1 12
  expect "-"
  discard (field 1 (daysIn year month))

/-- A time of day; a second may be a leap second and may have a fraction. -/
def time : Reader Unit := do
  discard (field 0 23)
  expect ":"
  discard (field 0 59)
  expect ":"
  discard (field 0 60)
  match ← rest with
  | '.' :: d :: _ =>
    if d.isDigit then
      skip 1
      discard (takeWhile Char.isDigit)
  | _ => return

/-- The distance of a zone from universal time, if it is given. -/
def zone : Reader Unit := do
  match ← next? with
  | some c =>
    if c == 'Z' || c == 'z' then skip 1
    else if c == '+' || c == '-' then
      skip 1
      discard (field 0 23)
      expect ":"
      discard (field 0 59)
  | none => return

/-- A date, a time of day, or both. -/
def datetime : Reader Node := do
  if startsDate (← rest) then
    date
    match ← rest with
    | c :: after =>
      if (c == 'T' || c == 't' || c == ' ') && startsTime after then
        skip 1
        time
        zone
    | [] => return .datetime
  else time
  return .datetime

/-- A value that has no parts. -/
def scalar : Reader Node := do
  let cs ← rest
  if cs.head?.any isQuote then return .string (← text)
  else if ← opt "true" then return .boolean true
  else if ← opt "false" then return .boolean false
  else if startsDate cs || startsTime cs then datetime
  else number

end CountedBox.Toml
