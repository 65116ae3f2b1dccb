import Presto.BudgetLedger
import Presto.FinanceModel

/-!
# Expectations as text (`finance_model.rs:218-268`, `budget_ledger.rs:106-465`)

| source                                                   | model                          |
|----------------------------------------------------------|--------------------------------|
| `round_posted_decimal_text` (`finance_model.rs:218`)     | `roundPostedDecimalText`       |
| `proportional_decimal_text` (`finance_model.rs:247`)     | `proportionalDecimalText`      |
| `account_balance_eur` (`finance_model.rs:254`)           | `accountBalanceEur`            |
| `positive` (`budget_ledger.rs:18`)                       | `positive`                     |
| `ensure_income` (`budget_ledger.rs:106`)                 | `newPlan`                      |
| `matched_receipts` (`budget_ledger.rs:150`)              | `matchedReceipts`              |
| `funding_portion` (`budget_ledger.rs:184`)               | `fundingPortion`               |
| `income` (`budget_ledger.rs:190`)                        | `income`                       |
| excess of `sync` (`budget_ledger.rs:426`)                | `excessWanted`                 |
| `save_expected_income` (`server.rs:1677`)                | `savedSetting`, `refreshPlan`  |

`Presto.BudgetLedger` has the same functions on decimals. Here amounts are the texts of the columns,
and what guards a division is a comparison of a text with `"0"`.
-/

namespace LedgerText

/-! ## Arithmetic -/

def roundPostedDecimalText (value : String) (scale : Nat) : Except String String := do
  let amount ← Decimal.parse value
  return (amount.asRatio.roundDecimal scale postingRoundingMode).format

def proportionalDecimalText (value numerator denominator : String) : Except String String := do
  let value ← Decimal.parse value
  let numerator ← Decimal.parse numerator
  let denominator ← Decimal.parse denominator
  let ratio ← (value.asRatio.multiply numerator.asRatio).divide denominator.asRatio
  return (ratio.roundDecimal 2 postingRoundingMode).format

def accountBalanceEur (nativeBalance currency asOf : String)
    (observations : List FinanceModel.RateObservation) : Except String String := do
  let nativeBalance ← Decimal.parse nativeBalance
  let rate ← FinanceModel.selectPriorRate currency asOf observations
  let quote ← Decimal.parse rate.quote
  let ratio ← nativeBalance.asRatio.divide quote.asRatio
  return (ratio.roundDecimal 2 postingRoundingMode).format

/-- `positive`: a text with a minus sign is replaced by zero. -/
def positive (a : String) : String := if a.toList.head? = some '-' then "0" else a

/-! ## Expectations -/

/-- A row of `budget_income_expectations`. -/
structure Setting where
  amount : String
  currency : String
  arrivalDay : Nat
deriving DecidableEq

/-- A row of `budget_plan_income`. -/
structure Plan where
  amount : String
  currency : String
  amountEur : String
  arrivalDay : Nat
  completedMonth : Option String
deriving DecidableEq

/-- `ensure_income`: the row inserted for a month without one. -/
def newPlan (month : String) (setting : Option Setting)
    (observations : List FinanceModel.RateObservation) : Except String Plan := do
  let setting := setting.getD ⟨"10000", "USD", 7⟩
  let eur ← accountBalanceEur setting.amount setting.currency (month ++ "-01") observations
  return ⟨setting.amount, setting.currency, eur, setting.arrivalDay, none⟩

/-- The setting that `save_expected_income` stores. -/
def savedSetting (amount currency : String) (arrivalDay : Nat) : Except String Setting := do
  let amount ← roundPostedDecimalText amount 2
  Except.ensure (amount.toList.head? ≠ some '-') "Expected income cannot be negative."
  return ⟨amount, currency, arrivalDay⟩

/-- The update of `save_expected_income`: a row takes the setting in force. -/
def refreshPlan (month : String) (setting : Setting)
    (observations : List FinanceModel.RateObservation) (row : Plan) : Except String Plan := do
  let eur ← accountBalanceEur setting.amount setting.currency (month ++ "-01") observations
  return { row with
    amount := setting.amount
    currency := setting.currency
    amountEur := eur
    arrivalDay := setting.arrivalDay }

/-! ## Receipts -/

/-- What `matched_receipts` selects of a salary. -/
structure Receipt where
  effectiveDate : String
  amountDecimal : String
  inputCurrency : Option String
  accountCurrency : Option String
  amountNative : Option String
  amountEur : Option String
  treatment : String
deriving DecidableEq

structure MatchedReceipt where
  date : String
  treatment : String
  actualEur : String
  native : String
deriving DecidableEq

/-- The amount of a receipt in the currency of its expectation; a third currency is converted in the
proportion of the plan. -/
def receiptNative (r : Receipt) (actualEur amount currency plannedEur : String) :
    Except String String :=
  if r.inputCurrency = some currency then .ok r.amountDecimal
  else if r.accountCurrency = some currency then Except.fromOption r.amountNative "unexpected null"
  else if plannedEur = "0" then .ok "0"
  else proportionalDecimalText actualEur amount plannedEur

def matchedReceipt (amount currency plannedEur : String) (r : Receipt) :
    Except String MatchedReceipt := do
  let actualEur ← Except.fromOption r.amountEur "unexpected null"
  let native ← receiptNative r actualEur amount currency plannedEur
  return ⟨r.effectiveDate, r.treatment, actualEur, native⟩

/-- `matched_receipts` on the rows that it selects. -/
def matchedReceipts (rows : List Receipt) (amount currency plannedEur : String) :
    Except String (List MatchedReceipt) :=
  rows.mapM (matchedReceipt amount currency plannedEur)

def fundingPortion (native amount eur : String) : Except String String :=
  if amount = "0" then .ok "0" else proportionalDecimalText native eur amount

structure ExpectedIncome where
  month : String
  amount : String
  currency : String
  amountEur : String
  receivedEur : String
  receivedAmount : String
  outstandingEur : String
  arrivalDay : Nat
  completedMonth : Option String
deriving DecidableEq

/-- The totals of `income`: what was received in EUR and in the currency of the plan. -/
def addReceipt (acc : String × String) (r : MatchedReceipt) : Except String (String × String) := do
  let received ← addDecimalText acc.1 r.actualEur
  let receivedAmount ← addDecimalText acc.2 r.native
  return (received, receivedAmount)

/-- `income` on the row of a month and the receipts matched to it. -/
def income (month through : String) (row : Plan) (rows : List Receipt) :
    Except String ExpectedIncome := do
  let receipts ← matchedReceipts rows row.amount row.currency row.amountEur
  let totals ← receipts.foldlM addReceipt ("0", "0")
  let outstanding ← (if row.completedMonth.any (· ≤ through) then .ok "0"
    else do
      let rest ← subtractDecimalText row.amount totals.2
      fundingPortion (positive rest) row.amount row.amountEur)
  return ⟨month, row.amount, row.currency, row.amountEur, totals.1, totals.2, outstanding,
    row.arrivalDay, row.completedMonth⟩

/-! ## Excess -/

/-- What of the plan is covered once `received` has come in. -/
def coveredPlan (plan received : String) : Except String String := do
  let rest ← subtractDecimalText plan received
  subtractDecimalText plan (positive rest)

/-- One receipt of the loop: the amount received so far and the excess of each month. -/
def excessStep (plan eur : String) (acc : String × Table String String) (r : MatchedReceipt) :
    Except String (String × Table String String) := do
  let before ← coveredPlan plan acc.1
  let received ← addDecimalText acc.1 r.native
  let after ← coveredPlan plan received
  let coveredAfter ← fundingPortion after plan eur
  let coveredBefore ← fundingPortion before plan eur
  let covered ← subtractDecimalText coveredAfter coveredBefore
  let difference ← subtractDecimalText r.actualEur covered
  if r.treatment = "legacy" then return (received, acc.2)
  else do
    let month := String.ofList (r.date.toList.take 7)
    let excess ← addDecimalText ((acc.2.lookup month).getD "0") difference
    return (received, acc.2.insert month excess)

/-- The excess that `sync` wants in each month for one expectation. -/
def excessWanted (row : Plan) (rows : List Receipt) : Except String (Table String String) := do
  let receipts ← matchedReceipts rows row.amount row.currency row.amountEur
  let wanted ← receipts.foldlM (excessStep row.amount row.amountEur) ("0", ∅)
  return wanted.2

end LedgerText
