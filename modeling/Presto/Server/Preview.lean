import Presto.Server.Reconciliation

/-!
# What reconciliation starts from: `get_reconciliation_preview` (`server.rs:2317`)

The preview takes back from every active real balance what was booked after the closing date, in two
parts: what comes after the observation gives the balance to compare with the bank, what lies before
it is listed and gives the closing balance. Its totals and rates are computed along the way; the
saved batch of the closing date, which is read afterwards, is not part of the model.
-/

namespace Server

open Budget BudgetLedger

/-- An account of the preview. -/
structure PreviewAccount where
  id : AccountId
  name : Name
  currency : Currency
  balanceNative : Decimal
  closingBalanceNative : Decimal
  activityNative : Decimal
  existingAdjustmentNative : Decimal
  transactions : List IncludedTransaction
  ledgerRevision : Nat
deriving DecidableEq

/-- The rates of a currency, at the observation and at the closing date. -/
structure PreviewRate where
  currency : Currency
  unitsPerEur : Decimal
  closingUnitsPerEur : Decimal
deriving DecidableEq

structure ReconciliationPreview where
  closingDate : Date
  observedAt : Timestamp
  observedDate : Date
  accounts : List PreviewAccount
  totalEur : Decimal
  closingTotalEur : Decimal
  rates : List PreviewRate
deriving DecidableEq

/-- `ReconciliationPreviewQuery`. -/
structure PreviewQuery where
  observedDate : Date
  closingMonth : Option Month
deriving DecidableEq

/-- The end of the requested month, or of the month before the observation. -/
def previewClosingDate (query : PreviewQuery) : Except ApiError Date :=
  match query.closingMonth with
  | some month => do
    Except.ensure (month < query.observedDate.month)
      (ApiError.badRequest "Reconcile a completed month.")
    return month.lastDate
  | none => .ok query.observedDate.month.previous.lastDate

/-- The amounts of the adjustments of an account and date (`server.rs:2398`). -/
def priorAdjustments (db : Database) (accountId : AccountId) (date : Date) : List Decimal :=
  (db.transactions.entries.filter fun e =>
    e.2.kind = .reconciliation ∧ e.2.effectiveDate = date ∧
    e.2.fromAccountId = some accountId).map (·.2.amountDecimal)

/-- One account of the preview (`server.rs:2378-2443`). -/
def previewAccount (db : Database) (closingDate observedDate : Date) (observedAt : Timestamp)
    (id : AccountId) (account : Account) : Except ApiError PreviewAccount := do
  let balance ← Except.fromOption account.currentNativeBalance
    (ApiError.conflict "An account is missing its balance.")
  let activity ← reconciliationActivity db id closingDate observedDate (some observedAt)
  let prior := priorAdjustments db id closingDate
  Except.ensure (prior.length ≤ 1)
    (ApiError.conflict "More than one closing adjustment exists for an account.")
  let current := balance - activity.afterObservation
  return {
    id := id
    name := account.sourceName
    currency := account.currency.getD .eur
    balanceNative := current
    closingBalanceNative := current - activity.throughObservation
    activityNative := activity.throughObservation
    existingAdjustmentNative := prior.head?.getD 0
    transactions := activity.transactions
    ledgerRevision := account.ledgerRevision }

/-- Add an account to the preview, its EUR values to the totals, and the rates of its currency once. -/
def previewStep (db : Database) (preview : ReconciliationPreview) (e : AccountId × Account) :
    Except ApiError ReconciliationPreview := do
  let a ← previewAccount db preview.closingDate preview.observedDate preview.observedAt e.1 e.2
  let currentEur ← (accountBalanceEur a.balanceNative a.currency preview.observedDate
    db.exchangeRates).mapError ApiError.internal
  let closingEur ← (accountBalanceEur (a.closingBalanceNative + a.existingAdjustmentNative)
    a.currency preview.closingDate db.exchangeRates).mapError ApiError.internal
  let latest ← (selectPriorRate a.currency preview.observedDate
    db.exchangeRates).mapError ApiError.internal
  let closing ← (selectPriorRate a.currency preview.closingDate
    db.exchangeRates).mapError ApiError.internal
  return { preview with
    accounts := preview.accounts ++ [a]
    totalEur := preview.totalEur + currentEur
    closingTotalEur := preview.closingTotalEur + closingEur
    rates := if preview.rates.any fun r => r.currency = a.currency then preview.rates
      else preview.rates ++ [⟨a.currency, latest, closing⟩] }

/-- `get_reconciliation_preview`. -/
def getReconciliationPreview (db : Database) (clock : Clock) (query : PreviewQuery) :
    Except ApiError ReconciliationPreview := do
  Except.ensure query.observedDate.Valid
    (ApiError.badRequest "The observation date must be valid.")
  Except.ensure (query.observedDate.IsNear clock.today)
    (ApiError.badRequest "Reconciliation uses today's balances.")
  let closingDate ← previewClosingDate query
  let accounts := (db.accounts.entries.filter fun e => e.2.isReal ∧ e.2.isActive).map
    fun e => (e.1, e.2)
  accounts.foldlM (previewStep db) ⟨closingDate, clock.now, query.observedDate, [], 0, 0, []⟩

end Server
