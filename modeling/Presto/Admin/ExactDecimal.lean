import Presto.DecimalText

/-!
# Exact decimals of the importer (`presto-admin.rs:3822-4058`)

| source (`presto-admin.rs`)         | model                |
|------------------------------------|----------------------|
| `valid_decimal_text` (`:3839`)     | `validDecimalText`   |
| `parse_exact_decimal` (`:3880`)    | `parseExactDecimal`  |
| `add_exact_decimals` (`:3953`)     | `addExactDecimals`   |
| `add_magnitudes` (`:3984`)         | `addMagnitudes`      |
| `subtract_magnitudes` (`:4000`)    | `subtractMagnitudes` |
| `compare_magnitudes` (`:4017`)     | `compareMagnitudes`  |
| `format_exact_decimal` (`:4032`)   | `formatExactDecimal` |

The importer keeps a decimal as the characters of its digits and calculates on them.
-/

namespace Admin

/-- A decimal by the characters of its digits. -/
structure ExactDecimal where
  negative : Bool
  digits : List Char
  scale : Nat
deriving DecidableEq

def validDecimalText (value : String) : Bool :=
  let text := Text.trim value.toList
  let parts := Decimal.splitExponent (Text.unsigned text)
  let mantissa := parts.headD []
  text ≠ [] && parts.length ≤ 2 &&
    (parts[1]?).all (fun item => (Text.parseSigned (2 ^ 31) item).isSome) &&
    mantissa.all (fun c => c = '.' || c.isDigit) &&
    0 < mantissa.countP Char.isDigit && mantissa.count '.' ≤ 1

def trimLeadingZeros (digits : List Char) : List Char := Text.stripZeros digits

def parseExactDecimal (value : String) : Except String ExactDecimal := do
  Except.ensure (validDecimalText value) "Invalid decimal source value."
  let text := Text.trim value.toList
  let parts := Decimal.splitExponent (Text.unsigned text)
  let mantissa := parts.headD []
  let exponent := (parts[1]?.bind (Text.parseSigned (2 ^ 31))).getD 0
  Except.ensure (exponent.natAbs ≤ 10000) "Decimal exponent exceeds the supported import limit."
  let fractionDigits := ((mantissa.dropWhile (· ≠ '.')).drop 1).length
  let digits := mantissa.filter (· ≠ '.')
  let scale : Int := fractionDigits - exponent
  let digits := digits ++ List.replicate (-scale).toNat '0'
  Except.ensure (scale ≤ 10000) "Decimal scale exceeds the supported import limit."
  return {
    negative := text.head? = some '-'
    digits := trimLeadingZeros digits
    scale := scale.toNat }

/-- The digits with the point set, without the zeros that end the fraction. -/
def withPoint (digits : List Char) (scale : Nat) : List Char :=
  let trimmed := (Decimal.insertPoint digits scale).rdropWhile (· = '0')
  if trimmed.getLast? = some '.' then trimmed.dropLast else trimmed

def formatExactDecimal (value : ExactDecimal) : String :=
  let digits := trimLeadingZeros value.digits
  if digits = ['0'] then "0" else
    let digits := if 0 < value.scale then withPoint digits value.scale else digits
    String.ofList (if value.negative then '-' :: digits else digits)

def decimalAbsolute (value : String) : Except String String := do
  let value ← parseExactDecimal value
  return formatExactDecimal { value with negative := false }

def negateDecimal (value : String) : Except String String := do
  let value ← parseExactDecimal value
  return formatExactDecimal
    (if value.digits.any (· ≠ '0') then { value with negative := !value.negative } else value)

def digitOf (c : Char) : Nat := c.toNat - '0'.toNat

/-- The loop of `add_magnitudes`, from the last digit on. -/
def addReversed : List Char → List Char → Nat → List Char
  | [], [], carry => if carry = 0 then [] else [Nat.digitChar carry]
  | a :: left, [], carry =>
    let sum := digitOf a + carry
    Nat.digitChar (sum % 10) :: addReversed left [] (sum / 10)
  | [], b :: right, carry =>
    let sum := digitOf b + carry
    Nat.digitChar (sum % 10) :: addReversed [] right (sum / 10)
  | a :: left, b :: right, carry =>
    let sum := digitOf a + digitOf b + carry
    Nat.digitChar (sum % 10) :: addReversed left right (sum / 10)

def addMagnitudes (left right : List Char) : List Char :=
  (addReversed left.reverse right.reverse 0).reverse

/-- The loop of `subtract_magnitudes`, from the last digit on. -/
def subtractReversed : List Char → List Char → Nat → List Char
  | [], _, _ => []
  | a :: larger, smaller, borrow =>
    let taken := borrow + (smaller.head?.map digitOf).getD 0
    if digitOf a < taken then
      Nat.digitChar (digitOf a + 10 - taken) :: subtractReversed larger smaller.tail 1
    else Nat.digitChar (digitOf a - taken) :: subtractReversed larger smaller.tail 0

/-- Leading zeros go while another digit is left. -/
def popZeros : List Char → List Char
  | '0' :: c :: rest => popZeros (c :: rest)
  | digits => digits

def subtractMagnitudes (larger smaller : List Char) : List Char :=
  popZeros (subtractReversed larger.reverse smaller.reverse 0).reverse

def compareMagnitudes (left right : List Char) : Ordering :=
  let left := trimLeadingZeros left
  let right := trimLeadingZeros right
  (compare left.length right.length).then (compareOfLessAndEq left right)

def addExactDecimals (left right : String) : Except String String := do
  let left ← parseExactDecimal left
  let right ← parseExactDecimal right
  let scale := max left.scale right.scale
  let leftDigits := left.digits ++ List.replicate (scale - left.scale) '0'
  let rightDigits := right.digits ++ List.replicate (scale - right.scale) '0'
  let (negative, digits) :=
    if left.negative = right.negative then
      (left.negative, addMagnitudes leftDigits rightDigits)
    else match compareMagnitudes leftDigits rightDigits with
      | .gt => (left.negative, subtractMagnitudes leftDigits rightDigits)
      | .lt => (right.negative, subtractMagnitudes rightDigits leftDigits)
      | .eq => (false, ['0'])
  return formatExactDecimal {
    negative := negative
    digits := trimLeadingZeros digits
    scale := scale }

def decimalIsZero (value : String) : Except String Bool := do
  let value ← parseExactDecimal value
  return !value.digits.any (· ≠ '0')

def positiveDecimal (value : String) : Bool :=
  (value.toList.dropWhile Text.isWhiteSpace).head? ≠ some '-' && validDecimalText value &&
    (value.toList.takeWhile fun c => c ≠ 'e' && c ≠ 'E').any fun c => c.isDigit && c ≠ '0'

end Admin
