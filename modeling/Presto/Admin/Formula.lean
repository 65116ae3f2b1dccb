import Presto.Admin.ExactDecimal
import Presto.FinanceModel

/-!
# The sheet-formula oracle (`presto-admin.rs:844-998`)

| source (`presto-admin.rs`)               | model                       |
|------------------------------------------|-----------------------------|
| `FormulaReferenceValuation` (`:844`)     | `FormulaReferenceValuation` |
| `FormulaRatio` (`:851`)                  | `FormulaRatio`              |
| `round_half_even_2` (`:905`)             | `roundHalfEven2`            |
| `formula_reference_quote` (`:934`)       | `formulaReferenceQuote`     |
| `formula_reference_valuation` (`:957`)   | `formulaReferenceValuation` |

A shadow import calculates each valuation a second time with the arithmetic below and compares the
amounts (`:610-634`). It reads decimals with the importer's `parseExactDecimal`, and it ignores the
ASCII case of currencies.
-/

namespace Admin

open FinanceModel (latestObservation)

structure FormulaReferenceValuation where
  fromAmountNative : String
  fromAmountEur : String
  toAmountNative : String
  toAmountEur : String
deriving DecidableEq

structure FormulaRatio where
  numerator : Int
  denominator : Int
deriving DecidableEq

namespace FormulaRatio

def new (numerator denominator : Int) : Except String FormulaRatio :=
  if denominator = 0 then .error "The sheet-formula oracle encountered a zero denominator."
  else if denominator < 0 then .ok ⟨-numerator, -denominator⟩
  else .ok ⟨numerator, denominator⟩

def one : FormulaRatio := ⟨1, 1⟩

def fromDecimal (value : String) : Except String FormulaRatio := do
  let decimal ← parseExactDecimal value
  let digits ← Except.fromOption (Text.parseNat decimal.digits) "invalid digit found in string"
  let numerator : Int := if decimal.negative then -digits else digits
  Except.ensure (decimal.scale < 2 ^ 32) "sheet-formula decimal scale is out of range"
  new numerator (10 ^ decimal.scale)

def multiply (a b : FormulaRatio) : Except String FormulaRatio :=
  new (a.numerator * b.numerator) (a.denominator * b.denominator)

def divide (a b : FormulaRatio) : Except String FormulaRatio :=
  new (a.numerator * b.denominator) (a.denominator * b.numerator)

/-- The cents of a magnitude, half to even. -/
def halfEvenMagnitude (magnitude denominator : Int) : Int :=
  let quotient := magnitude.tdiv denominator
  let twiceRemainder := magnitude.tmod denominator * 2
  let exactHalf := twiceRemainder = denominator
  if twiceRemainder > denominator ∨ (exactHalf ∧ quotient.tmod 2 ≠ 0) then quotient + 1
  else quotient

def roundHalfEven2 (r : FormulaRatio) : Except String String :=
  let scaled := r.numerator * 100
  let negative := decide (scaled < 0)
  let magnitude := if negative then -scaled else scaled
  let quotient := halfEvenMagnitude magnitude r.denominator
  let rounded := if negative then -quotient else quotient
  .ok (formatExactDecimal {
    negative := decide (rounded < 0)
    digits := Nat.toDigits 10 rounded.natAbs
    scale := 2 })

end FormulaRatio

def toAsciiUppercase (value : String) : String := String.ofList (value.toList.map Char.toUpper)

/-- Letters that differ in ASCII case only have one upper case. -/
def eqIgnoreAsciiCase (left right : String) : Bool :=
  toAsciiUppercase left = toAsciiUppercase right

def formulaReferenceQuote (currency asOf : String)
    (observations : List FinanceModel.RateObservation) : Except String FormulaRatio :=
  if eqIgnoreAsciiCase currency "EUR" then .ok .one
  else
    match latestObservation (observations.filter fun rate =>
        eqIgnoreAsciiCase rate.currency currency ∧ rate.date ≤ asOf) with
    | none => .error "The formula oracle has no prior FX observation."
    | some observation => do
      let quote ← FormulaRatio.fromDecimal observation.currencyUnitsPerEur
      Except.ensure (0 < quote.numerator) "The formula oracle requires positive FX observations."
      return quote

/-- The surcharge of the sheet on other currencies than the euro. -/
def formulaAdjustment (inputCurrency : String) : Except String FormulaRatio :=
  if inputCurrency = "EUR" then .ok .one else FormulaRatio.fromDecimal "1.02"

/-- The rate of the sheet from the input to the source account. -/
def formulaNativeRate (inputCurrency fromAccountCurrency : String)
    (sourceAdjustment inputQuote fromQuote : FormulaRatio) : Except String FormulaRatio := do
  if inputCurrency = fromAccountCurrency then return .one
  let product ← sourceAdjustment.multiply fromQuote
  product.divide inputQuote

def formulaReferenceValuation (amount inputCurrency fromAccountCurrency toAmount toAccountCurrency
    asOf : String) (observations : List FinanceModel.RateObservation) :
    Except String FormulaReferenceValuation := do
  let amount ← FormulaRatio.fromDecimal amount
  let received ← FormulaRatio.fromDecimal toAmount
  let inputCurrency := toAsciiUppercase inputCurrency
  let fromAccountCurrency := toAsciiUppercase fromAccountCurrency
  let toAccountCurrency := toAsciiUppercase toAccountCurrency
  let inputQuote ← formulaReferenceQuote inputCurrency asOf observations
  let fromQuote ← formulaReferenceQuote fromAccountCurrency asOf observations
  let toQuote ← formulaReferenceQuote toAccountCurrency asOf observations
  let sourceAdjustment ← formulaAdjustment inputCurrency
  let fromEurRate ← sourceAdjustment.divide inputQuote
  let fromNativeRate ← formulaNativeRate inputCurrency fromAccountCurrency sourceAdjustment
    inputQuote fromQuote
  let toEurRate ← FormulaRatio.one.divide toQuote
  let fromNative ← amount.multiply fromNativeRate
  let fromEur ← amount.multiply fromEurRate
  let toEur ← received.multiply toEurRate
  return {
    fromAmountNative := ← fromNative.roundHalfEven2
    fromAmountEur := ← fromEur.roundHalfEven2
    toAmountNative := ← received.roundHalfEven2
    toAmountEur := ← toEur.roundHalfEven2 }

end Admin
