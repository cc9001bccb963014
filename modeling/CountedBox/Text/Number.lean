namespace CountedBox.Text

def isHexDigit (c : Char) : Bool := c.isDigit || ('a' ≤ c.toLower && c.toLower ≤ 'f')

def digitValue (c : Char) : Nat :=
  if c.isDigit then c.toNat - '0'.toNat else c.toLower.toNat - 'a'.toNat + 10

/-- The number that digits stand for, the first of them the most. -/
def ofDigits (base : Nat) (digits : List Char) : Nat :=
  digits.foldl (fun n c => n * base + digitValue c) 0

/-- A floating-point number of 64 bits without its sign: a mantissa of up to 53 bits, scaled by a
power of two from -1074 to 971. -/
inductive Binary64 where
  | finite (mantissa : Nat) (power : Int)
  | infinite

namespace Binary64

/-- A power of a base as a fraction. -/
def fraction (base : Nat) (e : Int) : Nat × Nat := (base.pow e.toNat, base.pow (-e).toNat)

/-- The nearest whole number to a quotient; of two, the even one. -/
def roundEven (num den : Nat) : Nat :=
  let q := num / den
  let r := num % den
  if 2 * r < den || (2 * r == den && q % 2 == 0) then q else q + 1

/-- The number nearest to `digits * 10 ^ exponent`. -/
def ofDecimal (digits : Nat) (exponent : Int) : Binary64 :=
  let size : Int := (Nat.toDigits 10 digits).length + exponent
  if digits = 0 || size < -400 then .finite 0 (-1074)
  else if 400 < size then .infinite
  else
    let (up, down) := fraction 10 exponent
    let num := digits * up
    let guess : Int := (num.log2 : Int) - down.log2
    let (above, below) := fraction 2 guess
    let top := if num * below < down * above then guess - 1 else guess
    let power := max (top - 52) (-1074)
    let (above, below) := fraction 2 power
    let mantissa := roundEven (num * below) (down * above)
    let (mantissa, power) := if mantissa = Nat.pow 2 53 then (Nat.pow 2 52, power + 1) else (mantissa, power)
    if 971 < power then .infinite else .finite mantissa power

/-- How many powers of ten fit into `num / den` when it is less than one; at most `bound`. -/
def tensBelow (num den : Nat) : Nat → Nat
  | 0 => 0
  | bound + 1 => if den ≤ num then 0 else 1 + tensBelow (num * 10) den bound

/-- The decimal point goes `-exponent` places from the right. -/
def positional (digits : List Char) (exponent : Int) : String :=
  if 0 ≤ exponent then
    String.ofList (digits ++ List.replicate exponent.toNat '0') ++ ".0"
  else
    let places := (-exponent).toNat
    let padded := List.replicate (places + 1 - digits.length) '0' ++ digits
    String.ofList (padded.take (padded.length - places)) ++ "." ++
      String.ofList (padded.drop (padded.length - places))

/-- A number of at most `count` digits that reads back as `mantissa * 2 ^ power`, with the power of
ten it is scaled by; `point` is the place of the leading digit. Both neighbours on the grid are
tried, the nearer one first; of two that are equally near, the greater. -/
def onGrid? (mantissa : Nat) (power : Int) (point : Int) (count : Nat) : Option (Nat × Int) :=
  let k := point + 1 - count
  let (twoUp, twoDown) := fraction 2 (power - 2)
  let (tenUp, tenDown) := fraction 10 k
  let unit := twoUp * tenDown
  let scale := twoDown * tenUp
  let value := 4 * mantissa * unit
  let low := (4 * mantissa - (if mantissa = Nat.pow 2 52 ∧ -1074 < power then 1 else 2)) * unit
  let high := (4 * mantissa + 2) * unit
  let readsBack (d : Nat) : Bool :=
    if mantissa % 2 = 0 then low ≤ d * scale && d * scale ≤ high
    else low < d * scale && d * scale < high
  let d := value / scale
  let candidates := if 2 * (value % scale) < scale then [d, d + 1] else [d + 1, d]
  (candidates.find? readsBack).map fun d => if d % 10 = 0 then (d / 10, k + 1) else (d, k)

/-- The fewest decimal digits that read back, never with an exponent. -/
def text : Binary64 → String
  | infinite => "inf"
  | finite 0 _ => "0.0"
  | finite mantissa power =>
    let (up, down) := fraction 2 power
    let whole := mantissa * up / down
    let point : Int :=
      if whole = 0 then -(tensBelow (mantissa * up) down 330 : Int)
      else (Nat.toDigits 10 whole).length - 1
    match (List.range 17).findSome? fun n => onGrid? mantissa power point (n + 1) with
    | some (d, k) => positional (Nat.toDigits 10 d) k
    | none => ""

end Binary64

end CountedBox.Text
