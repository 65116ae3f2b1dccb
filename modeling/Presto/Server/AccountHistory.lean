import Presto.Lib.Grouping
import Presto.Lib.Sorted
import Presto.Server.LedgerText

/-!
# Account balances over time (`finance_read_model.rs:620-768`)

| source (`finance_read_model.rs`)          | model                          |
|-------------------------------------------|--------------------------------|
| `load_account_history` (`:620`)           | `loadAccountHistory`           |
| its two queries                           | `archivedBalances`, `importedRates` |
| `load_rates` (`:714`)                     | `loadRates`                    |
| `value_accounts` (`:727`)                 | `valueAccounts`                |
| `multiply_decimal_text` (`finance_model.rs:237`) | `multiplyDecimalText`   |

Dates and amounts are texts. SQLite leaves the order of rows that tie open; here they keep the order
of the table. `positive` is `CAST(rate_decimal AS REAL) > 0`.
-/

namespace ReadModel

open FinanceModel LedgerText

/-! ## Rows -/

/-- `finance_account_balance_checkpoints`. -/
structure CheckpointRow where
  checkpointDate : Option String
  accountId : String
  balanceDecimal : Option String
  sourceState : String
  sourceColumn : String
deriving DecidableEq

/-- The columns of `finance_accounts` that the history reads. -/
structure FinanceAccount where
  id : String
  sourceName : String
  isReal : Bool
  isActive : Bool
  currency : Option String
  sourceRow : Int
deriving DecidableEq

/-- `exchange_rates`. -/
structure ExchangeRate where
  id : String
  rateDate : Option String
  baseCurrency : Option String
  quoteCurrency : Option String
  rateDecimal : Option String
  provider : Option String
deriving DecidableEq

structure HistoryTables where
  checkpoints : List CheckpointRow
  accounts : List FinanceAccount
  rates : List ExchangeRate

/-- A row of the first query. -/
structure ArchivedBalance where
  checkpointDate : String
  accountId : String
  sourceName : String
  currency : Option String
  balanceDecimal : String
  sourceRow : Int
  sourceColumn : String
deriving DecidableEq

/-- The conditions and columns of the first query. -/
def archived (asOf : String) (c : CheckpointRow) (a : FinanceAccount) : Option ArchivedBalance := do
  let date ← c.checkpointDate
  let balance ← c.balanceDecimal
  if a.id = c.accountId ∧ a.isReal ∧ a.isActive ∧ date ≤ asOf ∧
      (c.sourceState = "formula" ∨ c.sourceState = "literal") then
    return ⟨date, c.accountId, a.sourceName, a.currency, balance, a.sourceRow, c.sourceColumn⟩
  else none

/-- `ORDER BY checkpoint_date, source_row, length(source_column), source_column`. -/
def checkpointKey (r : ArchivedBalance) : String ×ₗ (Int ×ₗ (Nat ×ₗ String)) :=
  toLex (r.checkpointDate, toLex (r.sourceRow, toLex (r.sourceColumn.length, r.sourceColumn)))

def archivedBalances (db : HistoryTables) (asOf : String) : List ArchivedBalance :=
  (db.checkpoints.flatMap fun c => db.accounts.filterMap (archived asOf c)).insertionSort
    fun r s => checkpointKey r ≤ checkpointKey s

/-- A row of the second query: EUR for one unit of the currency. -/
structure ImportedRate where
  id : String
  baseCurrency : String
  rateDate : String
  rateDecimal : String
deriving DecidableEq

def importedRate (positive : String → Bool) (r : ExchangeRate) : Option ImportedRate := do
  let date ← r.rateDate
  let base ← r.baseCurrency
  let rate ← r.rateDecimal
  if r.provider ≠ some "ECB" ∧ r.quoteCurrency = some "EUR" ∧ (base = "PHP" ∨ base = "USD") ∧
      positive rate then
    return ⟨r.id, base, date, rate⟩
  else none

def importedRates (positive : String → Bool) (rates : List ExchangeRate) : List ImportedRate :=
  (rates.filterMap (importedRate positive)).insertionSort
    fun r s => toLex (r.rateDate, r.id) ≤ toLex (s.rateDate, s.id)

def ecbRate (r : ExchangeRate) : Option (String × FinanceModel.RateObservation) := do
  let date ← r.rateDate
  let quote ← r.quoteCurrency
  let rate ← r.rateDecimal
  if r.provider = some "ECB" ∧ r.baseCurrency = some "EUR" ∧ (quote = "PHP" ∨ quote = "USD") then
    return (r.id, ⟨quote, date, rate⟩)
  else none

/-- `load_rates`. -/
def loadRates (rates : List ExchangeRate) : List FinanceModel.RateObservation :=
  ((rates.filterMap ecbRate).insertionSort
    fun r s => toLex (r.2.date, r.1) ≤ toLex (s.2.date, s.1)).map (·.2)

/-! ## The history -/

def multiplyDecimalText (left right : String) : Except String String := do
  let left ← Decimal.parse left
  let right ← Decimal.parse right
  return ((left.asRatio.multiply right.asRatio).roundDecimal 2 postingRoundingMode).format

structure AccountHistoryBalance where
  accountId : String
  name : String
  currency : String
  balanceNative : String
  balanceEur : Option String
deriving DecidableEq

structure AccountHistoryDate where
  date : String
  totalEur : Option String
  accounts : List AccountHistoryBalance
deriving DecidableEq

/-- Is there an ECB quote for the currency on the date or before it? -/
def hasPriorRate (rates : List FinanceModel.RateObservation) (currency date : String) : Bool :=
  decide (currency = "EUR") || rates.any fun rate => rate.currency = currency ∧ rate.date ≤ date

/-- The last imported quote for the currency on the date or before it. -/
def priorImported (imported : List ImportedRate) (currency date : String) : Option ImportedRate :=
  imported.reverse.find? fun rate => rate.baseCurrency = currency ∧ rate.rateDate ≤ date

/-- The EUR balance of a row. Imported quotes are EUR per native unit, the inverse of ECB quotes, and are
used where there is no ECB quote. -/
def historyEur (rates : List FinanceModel.RateObservation) (imported : List ImportedRate)
    (currency : String) (row : ArchivedBalance) : Except String (Option String) :=
  if hasPriorRate rates currency row.checkpointDate then
    (accountBalanceEur row.balanceDecimal currency row.checkpointDate rates).map some
  else
    match priorImported imported currency row.checkpointDate with
    | some rate => (multiplyDecimalText row.balanceDecimal rate.rateDecimal).map some
    | none => .ok none

/-- One turn of the loop over the rows. -/
def historyBalance (rates : List FinanceModel.RateObservation) (imported : List ImportedRate)
    (row : ArchivedBalance) : Except String AccountHistoryBalance := do
  let currency := row.currency.getD "EUR"
  let balanceEur ← historyEur rates imported currency row
  return ⟨row.accountId, row.sourceName, currency, row.balanceDecimal, balanceEur⟩

/-- A date has a total when every account has a converted balance on it. -/
def historyTotal (accounts : Nat) (balances : List AccountHistoryBalance) :
    Except String (Option String) :=
  let converted := balances.filterMap (·.balanceEur)
  if balances.length = accounts ∧ converted.length = accounts then
    (converted.foldlM addDecimalText "0").map some
  else .ok none

def historyDate (accounts : Nat) (date : String) (balances : List AccountHistoryBalance) :
    Except String AccountHistoryDate := do
  let totalEur ← historyTotal accounts balances
  return ⟨date, totalEur, balances⟩

/-- `load_account_history`, for so many active real accounts. Of repeated date headings the rightmost
observation of an account is kept. -/
def loadAccountHistory (positive : String → Bool) (db : HistoryTables) (accounts : Nat)
    (asOf : String) (rates : List FinanceModel.RateObservation) :
    Except String (List AccountHistoryDate) := do
  let imported := importedRates positive db.rates
  let history ← (archivedBalances db asOf).foldlM (fun history row => do
    let balance ← historyBalance rates imported row
    return Grouping.collect AccountHistoryBalance.accountId history (row.checkpointDate, balance)) ∅
  (history.keys.insertionSort (· ≤ ·)).mapM fun date =>
    historyDate accounts date ((history.lookup date).getD [])

/-! ## The current balances -/

/-- The columns of `AccountSnapshot` that are valued. -/
structure AccountSnapshot where
  currency : Option String
  balanceNative : Option String

structure ConversionRate where
  currency : String
  date : Option String
  unitsPerEur : String
deriving DecidableEq

structure AccountValuation where
  asOf : String
  totalEur : String
  rates : List ConversionRate
deriving DecidableEq

/-- The rate of a currency, listed once. -/
def withRate (asOf : String) (rates : List FinanceModel.RateObservation)
    (conversions : List ConversionRate) (currency : String) : Except String (List ConversionRate) :=
  if conversions.any fun rate => rate.currency = currency then .ok conversions
  else do
    let selected ← selectPriorRate currency asOf rates
    return conversions ++ [⟨currency, selected.date, selected.quote⟩]

def valueAccount (asOf : String) (rates : List FinanceModel.RateObservation)
    (acc : String × List ConversionRate) (account : AccountSnapshot) :
    Except String (String × List ConversionRate) := do
  let currency := account.currency.getD "EUR"
  let native ← Except.fromOption account.balanceNative "Account balance is missing."
  let eur ← accountBalanceEur native currency asOf rates
  let total ← addDecimalText acc.1 eur
  let conversions ← withRate asOf rates acc.2 currency
  return (total, conversions)

/-- `value_accounts`: the income currency is listed even without an account in it. -/
def valueAccounts (accounts : List AccountSnapshot) (asOf : String)
    (rates : List FinanceModel.RateObservation) : Except String AccountValuation := do
  let (total, conversions) ← accounts.foldlM (valueAccount asOf rates) ("0", [])
  let conversions ← withRate asOf rates conversions "USD"
  return ⟨asOf, total, conversions⟩

end ReadModel
