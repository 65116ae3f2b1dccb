import Presto.Admin.Formula
import Presto.Calendar
import Mathlib.Data.Rat.Floor

/-!
# Cells, texts and dates of the archive (`presto-admin.rs:3508-3820`)

| source (`presto-admin.rs`)                         | model                               |
|----------------------------------------------------|-------------------------------------|
| `ArchiveCell` (`:72`), `serde_json::Value`         | `ArchiveCell`, `Value`              |
| `cell_text`, `row_text`, `row_decimal`, `row_flag` | `cellText`, `rowText`, `rowDecimal`, `rowFlag` |
| `transaction_inputs_populated` (`:3620`)           | `transactionInputsPopulated`        |
| `sheet_date`, `civil_date`, `valid_date`           | `sheetDate`, `civilDate`, `validDate` |
| `classify`, `is_system_account` (`:3732`)          | `classify`, `isSystemAccount`       |

Dates, months and amounts are texts here, as in the archive.
-/

namespace Admin

/-- `serde_json::Number`: an integer, or a double with the text it is printed as. -/
inductive Number where
  | integer (value : Int)
  | float (text : String) (value : ℚ)

inductive Value where
  | null
  | bool (value : Bool)
  | number (value : Number)
  | string (value : String)
  | array (items : List Value)
  | object (members : List (String × Value))

structure ArchiveCell where
  entered : Option Value
  effective : Option Value
  formatted : Option String
  dataSourceFormula : Option Value

abbrev Row := List (Option ArchiveCell)

def Number.text : Number → String
  | .integer value => toString value
  | .float text _ => text

def Number.toRat : Number → ℚ
  | .integer value => value
  | .float _ value => value

namespace Value

def get : Value → String → Option Value
  | .object members, key => members.lookup key
  | _, _ => none

def asStr : Value → Option String
  | .string value => some value
  | _ => none

end Value

/-! ## Texts -/

def trim (value : String) : String := String.ofList (Text.trim value.toList)

def startsWith (value start : String) : Bool := start.toList.isPrefixOf value.toList

/-! ## Cells (`:3508-3690`) -/

def isEmptyValue : Option Value → Bool
  | none => true
  | some .null => true
  | some (.object []) => true
  | some (.object [(key, value)]) => key = "stringValue" && value.asStr = some ""
  | _ => false

/-- `row.get(column)`: the cell, when the row has one there. -/
def cellAt (row : Row) (column : Nat) : Option ArchiveCell := row[column]?.join

def cellIsError (cell : Option ArchiveCell) : Bool :=
  (cell.bind (·.effective)).any fun value => (value.get "errorValue").isSome

/-- `cell_value`, of the entered or the effective side. -/
def cellValue (container : Option Value) : Option Value :=
  container.bind fun container =>
    ["stringValue", "numberValue", "boolValue", "errorValue", "formulaValue"].findSome?
      container.get

/-- What was entered, unless it is a formula. -/
def enteredValue (entered : Option Value) : Option Value :=
  (cellValue entered).filter fun value => (value.get "formulaValue").isNone

def cellText (cell : Option ArchiveCell) : Option String :=
  if cellIsError cell then none else
    match (cellValue (cell.bind (·.effective))).or (enteredValue (cell.bind (·.entered))) with
    | some (.string value) => some value
    | some (.number value) => some value.text
    | some (.bool value) => some (toString value)
    | _ => none

def rowText (row : Row) (column : Nat) : Option String := cellText (cellAt row column)

/-- The text of a cell that is not left empty. -/
def rowName (row : Row) (column : Nat) : Option String := (rowText row column).filter (· ≠ "")

def rowDecimal (row : Row) (column : Nat) : Option String := do
  let cell ← cellAt row column
  let text ← match cellValue cell.effective with
    | some (.number number) => some number.text
    | some (.string value) => some value
    | _ => none
  if validDecimalText text then
    (parseExactDecimal text).toOption.map formatExactDecimal
  else none

def rowFlag (row : Row) (column : Nat) : Bool :=
  match cellValue ((cellAt row column).bind (·.effective)) with
  | some (.bool value) => value
  | some (.number (.integer value)) => value ≠ 0 && value < 2 ^ 63
  | some (.string value) =>
    ["true", "1", "yes"].any (eqIgnoreAsciiCase (trim value))
  | _ => false

def cellPopulated (cell : ArchiveCell) : Bool :=
  !isEmptyValue cell.entered || !isEmptyValue cell.effective

def rowPopulated (row : Row) (start stop : Nat) : Bool :=
  ((row.take stop).drop start).any (Option.any cellPopulated)

/-- One of the columns that make a transaction is filled in. -/
def transactionInputsPopulated (row : Row) : Bool :=
  [0, 1, 2, 5, 6, 7, 8].any fun column => (cellAt row column).any cellPopulated

def cellState (cell : Option ArchiveCell) : String :=
  if cellIsError cell then "error"
  else if (cell.bind (·.dataSourceFormula)).isSome then "formula"
  else match cell.bind (·.entered) with
    | some value =>
      if (value.get "formulaValue").isSome then "formula"
      else if isEmptyValue (some value) then "blank" else "literal"
    | none => "blank"

def hasEffectiveValue (cell : Option ArchiveCell) : Bool :=
  (cell.bind (·.effective)).any fun value =>
    (value.get "errorValue").isNone &&
      ((value.get "numberValue").isSome || (value.get "boolValue").isSome ||
        ((value.get "stringValue").bind Value.asStr).any (· ≠ ""))

/-! ## Dates (`:3669-3730`) -/

/-- A number padded with zeros. -/
def padded (width n : Nat) : String :=
  let digits := (toString n).toList
  String.ofList (List.replicate (width - digits.length) '0' ++ digits)

def validDate (date : String) : Bool :=
  let text := date.toList
  let part (start length : Nat) : Nat := Nat.ofDigitChars 10 ((text.drop start).take length) 0
  text.length = 10 && text[4]? = some '-' && text[7]? = some '-' &&
    (text.eraseIdx 7 |>.eraseIdx 4).all Char.isDigit &&
    1900 ≤ part 0 4 && 1 ≤ part 5 2 && part 5 2 ≤ 12 &&
    1 ≤ part 8 2 && part 8 2 ≤ (Month.of (part 0 4) (part 5 2)).lastDay

def civilDate (daysFromUnix : Int) : String :=
  let z := daysFromUnix + 719468
  let era := (if 0 ≤ z then z else z - 146096).tdiv 146097
  let dayOfEra := z - era * 146097
  let yearOfEra := (dayOfEra - dayOfEra.tdiv 1460 + dayOfEra.tdiv 36524 -
    dayOfEra.tdiv 146096).tdiv 365
  let dayOfYear := dayOfEra - (365 * yearOfEra + yearOfEra.tdiv 4 - yearOfEra.tdiv 100)
  let monthPrime := (5 * dayOfYear + 2).tdiv 153
  let day := dayOfYear - (153 * monthPrime + 2).tdiv 5 + 1
  let month := monthPrime + (if monthPrime < 10 then 3 else -9)
  let year := yearOfEra + era * 400 + (if month ≤ 2 then 1 else 0)
  padded 4 year.toNat ++ "-" ++ padded 2 month.toNat ++ "-" ++ padded 2 day.toNat

/-- A date as text, or as the serial number of the sheet. -/
def sheetDate (cell : ArchiveCell) : Option String :=
  match cellValue cell.effective with
  | some (.string value) => if validDate value then some value else none
  | some (.number number) =>
    let number := number.toRat
    if 0 ≤ number ∧ number ≤ 3000000 then some (civilDate (number.floor - 25569)) else none
  | _ => none

/-! ## What a row means (`:3732-3810`) -/

def isSystemAccount (name : String) : Bool :=
  ["Expense", "Income", "Reallocation", "Reconciliation"].any (eqIgnoreAsciiCase name)

/-- `classify`: the kind of a row by its categories, its accounts and its description. -/
def classify (fromCategory toCategory fromName toName : Option String) (description : String) :
    Option String :=
  let f := fromName.getD ""
  let t := toName.getD ""
  let fc := fromCategory.getD ""
  let tc := toCategory.getD ""
  if f ≠ "" ∧ eqIgnoreAsciiCase t "Reconciliation" ∧
      ((eqIgnoreAsciiCase fc "Reconciliation" ∧ eqIgnoreAsciiCase tc "Reconciliation") ∨
        eqIgnoreAsciiCase (trim description) "reconciliation") then some "reconciliation"
  else if eqIgnoreAsciiCase f "Reallocation" ∧ eqIgnoreAsciiCase t "Reallocation" then
    some "reallocate"
  else if eqIgnoreAsciiCase f "Income" ∧ eqIgnoreAsciiCase fc "Income" ∧ t ≠ "" ∧
      ¬ isSystemAccount t then some "income"
  else if (eqIgnoreAsciiCase t "Expense" ∨ eqIgnoreAsciiCase tc "Expense") ∧ f ≠ "" ∧
      ¬ isSystemAccount f then some "expense"
  else if f ≠ "" ∧ t ≠ "" ∧ ¬ isSystemAccount f ∧ ¬ isSystemAccount t then some "transfer"
  else none

def supportedCurrency (value : String) : Bool :=
  ["EUR", "PHP", "USD"].any (eqIgnoreAsciiCase value)

/-- `rate_pair`: two supported currencies, one after the other. -/
def ratePair (value : String) : Option (String × String) :=
  if value.utf8ByteSize ≠ 6 ∨ ¬ value.toList.all (·.toNat < 128) then none else
    let base := String.ofList (value.toList.take 3)
    let quote := String.ofList (value.toList.drop 3)
    if supportedCurrency base ∧ supportedCurrency quote ∧ ¬ eqIgnoreAsciiCase base quote then
      some (toAsciiUppercase base, toAsciiUppercase quote)
    else none

/-- `column_name`: the letters of a column, counted from one. -/
def columnName (column : Nat) : String :=
  if _h : column = 0 then "" else
    columnName ((column - 1) / 26) ++ String.singleton (Char.ofNat (65 + (column - 1) % 26))
termination_by column
decreasing_by omega

end Admin
