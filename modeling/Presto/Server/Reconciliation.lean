import Presto.Server.Transactions

/-!
# Reconciling account balances: `record_db_reconciliation` (`server.rs:2463`)

A submission is an immutable batch. For each account it computes the adjustment that explains the
difference between the stored balance and the counted one, keeps it in one replaceable transaction
per account and date, and sets the stored balance to the counted one plus what was booked after the
observation. Dates whose day has a sign, which `valid_date` accepts, are left out here too.
-/

namespace Server

open Budget BudgetLedger

/-- `ReconciliationActivity`: what was booked after the closing date, up to the observation and after
it, and the transactions of the first part. -/
structure Activity where
  throughObservation : Decimal
  afterObservation : Decimal
  transactions : List IncludedTransaction
deriving DecidableEq

/-- The net effect of a row on an account. -/
def netNative (accountId : AccountId) (r : LedgerRow) : Except ApiError Decimal := do
  let net ← (if r.fromAccountId = some accountId then
      (Except.fromOption r.fromNative
        (ApiError.conflict "An account transaction is missing its native valuation.")).map (0 - ·)
    else .ok 0)
  if r.toAccountId = some accountId then
    (Except.fromOption r.toNative
      (ApiError.conflict "An account transaction is missing its native valuation.")).map (net + ·)
  else .ok net

/-- `ORDER BY t.effective_date, t.id`. -/
def ActivityOrder (a b : TransactionId × Transaction) : Prop :=
  a.2.effectiveDate < b.2.effectiveDate ∨ (a.2.effectiveDate = b.2.effectiveDate ∧ a.1 ≤ b.1)

instance : DecidableRel ActivityOrder := fun _ _ => inferInstanceAs (Decidable (_ ∨ _))

/-- The transactions of an account after a date. -/
def activityRows (db : Database) (accountId : AccountId) (closingDate : Date) :
    List (TransactionId × Transaction) :=
  ((db.transactions.entries.filter fun e => closingDate < e.2.effectiveDate ∧
    (e.2.fromAccountId = some accountId ∨ e.2.toAccountId = some accountId)).map
      fun e => (e.1, e.2)).insertionSort ActivityOrder

/-- A row belongs to the observation when it is dated on or before it and did not occur after its
instant. -/
def isObserved (observedDate : Date) (observedAt : Option Timestamp) (t : Transaction) : Bool :=
  let afterCutoff := match t.occurredAt, observedAt with
    | some occurred, some cutoff => decide (cutoff < occurred)
    | _, _ => false
  decide (t.effectiveDate ≤ observedDate) && !afterCutoff

def activityStep (accountId : AccountId) (observedDate : Date) (observedAt : Option Timestamp)
    (acc : Activity) (e : TransactionId × Transaction) : Except ApiError Activity := do
  let net ← netNative accountId (e.2.row e.1)
  if isObserved observedDate observedAt e.2 then
    return { acc with
      throughObservation := acc.throughObservation + net
      transactions := acc.transactions ++
        [⟨e.1, e.2.revision, e.2.effectiveDate, e.2.occurredAt, net⟩] }
  else return { acc with afterObservation := acc.afterObservation + net }

/-- `reconciliation_activity` (`server.rs:2254`). -/
def reconciliationActivity (db : Database) (accountId : AccountId) (closingDate observedDate : Date)
    (observedAt : Option Timestamp) : Except ApiError Activity :=
  (activityRows db accountId closingDate).foldlM (activityStep accountId observedDate observedAt)
    ⟨0, 0, []⟩

/-- The activity that a request takes into account; none when it carries no observation. -/
def requestedActivity (db : Database) (payload : ReconciliationRequest) (accountId : AccountId) :
    Except ApiError Activity :=
  match payload.observedDate with
  | some observedDate =>
    reconciliationActivity db accountId payload.date observedDate payload.observedAt
  | none => .ok ⟨0, 0, []⟩

/-- The adjustments already recorded for an account and date (`server.rs:2704`). -/
def existingAdjustments (db : Database) (accountId : AccountId) (date : Date) :
    List (TransactionId × Transaction) :=
  (db.transactions.entries.filter fun e =>
    e.2.kind = .reconciliation ∧ e.2.effectiveDate = date ∧ e.2.fromAccountId = some accountId ∧
    ((e.2.toAccountId.bind db.accounts.lookup).any fun a =>
      a.sourceName.folded = .reconciliation) ∧
    (e.2.fromCategoryId.bind db.categories.lookup).any fun c =>
      c.name.folded = .reconciliation).map fun e => (e.1, e.2)

/-- The one adjustment a submission replaces, if there is one. -/
def existingAdjustment (db : Database) (accountId : AccountId) (date : Date) :
    Except ApiError (Option (TransactionId × Transaction)) :=
  match existingAdjustments db accountId date with
  | [] => .ok none
  | [e] => .ok (some e)
  | _ => .error (.conflict "More than one reconciliation adjustment exists for an account and date.")

/-- The adjustment row: the replaced one with a new amount and valuation, or a new one. -/
def adjustmentRow (payload : ReconciliationRequest) (account : WriteAccount)
    (systemAccount : AccountId) (systemCategory : CategoryId) (existing : Option Transaction)
    (adjustment : Decimal) (v : TransactionValuation) : Transaction :=
  match existing with
  | some t => { t with
      amountDecimal := adjustment
      inputCurrency := some account.currency
      revision := t.revision + 1
      valuations := storedValuation (t.revision + 1) v :: t.valuations }
  | none => {
      kind := .reconciliation
      effectiveDate := payload.date
      occurredAt := none
      amountDecimal := adjustment
      inputCurrency := some account.currency
      toAmountDecimal := none
      fromCategoryId := some systemCategory
      toCategoryId := some systemCategory
      fromAccountId := some account.id
      toAccountId := some systemAccount
      revision := 1
      canonicalLive := true
      valuations := [storedValuation 1 v] }

/-- Where the adjustment of an account is kept: the replaced row, or the requested id when free. -/
def adjustmentId (db : Database) (requested : TransactionId)
    (existing : Option (TransactionId × Transaction)) : Except ApiError TransactionId :=
  match existing with
  | some e => do
    Except.ensure (e.1 = requested ∨ (db.transactions.lookup requested).isNone)
      (ApiError.conflict "transactionId is already used by another transaction.")
    return e.1
  | none => do
    Except.ensure (db.transactions.lookup requested).isNone
      (ApiError.internal "UNIQUE constraint failed")
    return requested

/-- What the loop over the accounts accumulates. -/
structure ReconciliationState where
  db : Database
  items : List ReconciliationItem
  results : List ReconciledAccount

/-- Reconcile one account (`server.rs:2666-2935`). -/
def reconcileAccount (clock : Clock) (payload : ReconciliationRequest) (systemAccount : WriteAccount)
    (systemCategory : CategoryId) (s : ReconciliationState) (requested : ReconciliationAccount) :
    Except ApiError ReconciliationState := do
  let db := s.db
  let account ← loadAccount db requested.accountId
  Except.ensure (account.isReal ∧ account.isActive)
    (ApiError.badRequest "Only active real accounts can be reconciled.")
  let stored ← Except.fromOption (db.accounts.lookup account.id)
    (ApiError.internal "no rows returned")
  let currentBalance ← Except.fromOption stored.currentNativeBalance
    (ApiError.conflict "A reconciled account has no canonical native balance.")
  Except.ensure (stored.ledgerRevision = requested.expectedRevision)
    (ApiError.conflict "An account changed after its balance was loaded. Refresh the account balances and reconcile again.")
  let existing ← existingAdjustment db account.id payload.date
  let transactionId ← adjustmentId db requested.transactionId existing
  let priorAdjustment := (existing.map (·.2.amountDecimal)).getD 0
  let baseBalance := currentBalance + priorAdjustment
  let activity ← requestedActivity db payload account.id
  let targetCurrent := requested.actualBalance + activity.afterObservation
  let closingActual := requested.actualBalance - activity.throughObservation
  let adjustment := (baseBalance - targetCurrent).roundPosted
  let valuation ← (calculateValuation adjustment account.currency account.currency 0
    systemAccount.currency payload.date db.exchangeRates postingRoundingMode).mapError
      ApiError.conflict
  let row := adjustmentRow payload account systemAccount.id systemCategory (existing.map (·.2))
    adjustment valuation
  -- the EUR values are caches, but their rates must exist
  let _ ← (accountBalanceEur targetCurrent account.currency clock.today
    db.exchangeRates).mapError ApiError.conflict
  let newAccount := { stored with
    currentNativeBalance := some targetCurrent, ledgerRevision := stored.ledgerRevision + 1 }
  return {
    db := { db with
      transactions := db.transactions.insert transactionId row
      revisions := ⟨transactionId, row.revision, some payload.operationId⟩ :: db.revisions
      accounts := db.accounts.insert account.id newAccount }
    items := s.items ++ [{
      accountId := account.id
      transactionId := transactionId
      closingBalance := closingActual
      varianceNative := adjustment
      accountRevision := newAccount.ledgerRevision
      observedNativeBalance := payload.observedAt.map fun _ => requested.actualBalance
      postMonthActivity := activity.throughObservation
      includedTransactions := activity.transactions }]
    results := s.results ++ [⟨account.id, transactionId, requested.actualBalance, adjustment,
      newAccount.ledgerRevision⟩] }

/-- The static checks of a request; actual balances are rounded to cents, and the accounts are taken
in the order of their ids. -/
def normalizeReconciliation (payload : ReconciliationRequest) :
    Except ApiError ReconciliationRequest := do
  Except.ensure payload.date.Valid
    (ApiError.badRequest "operationId must be UUIDv7 and date must be valid.")
  Except.ensure (payload.accounts ≠ [] ∧ payload.accounts.length ≤ 100)
    (ApiError.badRequest "Provide one to one hundred accounts to reconcile.")
  Except.ensure ((payload.accounts.map (·.accountId)).Nodup ∧
      (payload.accounts.map (·.transactionId)).Nodup)
    (ApiError.badRequest "Each account needs a unique ID, UUIDv7 transaction ID, nonnegative expected revision, and valid actual balance.")
  return { payload with
    accounts := (payload.accounts.map fun a =>
      { a with actualBalance := a.actualBalance.roundPosted }).insertionSort
        fun a b => a.accountId ≤ b.accountId }

/-- The checks on an observation: it belongs together, is recent, and the closing date is the end of
a month completed before it. `accepts` stands for the two clock comparisons. -/
def checkObservation (clock : Clock) (payload : ReconciliationRequest) : Except ApiError Unit :=
  match payload.observedAt, payload.observedDate with
  | none, none => .ok ()
  | some observedAt, some observedDate => do
    Except.ensure observedDate.Valid
      (ApiError.badRequest "The balance observation must have a valid date and UTC timestamp.")
    Except.ensure (clock.accepts observedDate observedAt ∧
        payload.date ≤ observedDate.month.previous.lastDate ∧
        payload.date = payload.date.month.lastDate)
      (ApiError.conflict "Refresh reconciliation to check current balances for the previous month.")
  | _, _ => .error (.badRequest "Provide both the observation timestamp and local date.")

def reconcileBody (db : Database) (clock : Clock) (payload : ReconciliationRequest) :
    Except ApiError (Database × Response) := do
  Except.ensure (¬ (db.isClosed payload.date.month ∨ clock.today.month < payload.date.month))
    (ApiError.conflict "Reconciliation requires a period that is not closed or in the future.")
  checkObservation clock payload
  Except.ensure (db.batches.lookup payload.operationId).isNone
    (ApiError.internal "UNIQUE constraint failed")
  let systemAccount ← loadSystemAccount db .reconciliation
  let systemCategory ← loadSystemCategory db .reconciliation
  let s ← payload.accounts.foldlM
    (reconcileAccount clock payload systemAccount systemCategory) ⟨db, [], []⟩
  let db := { s.db with
    batches := s.db.batches.insert payload.operationId ⟨payload.date, s.items⟩ }
  return (db, .reconciled payload.operationId payload.date s.results)

/-- `record_db_reconciliation`. -/
def recordReconciliation (db : Database) (clock : Clock) (actor : Subject)
    (payload : ReconciliationRequest) : Except ApiError (Database × Response) := do
  let payload ← normalizeReconciliation payload
  let db ← (initializeOpenings db).mapError ApiError.internal
  once db payload.operationId actor (.reconcile payload)
    (fun _ => (db.batches.lookup payload.operationId).isSome) (reconcileBody db clock payload)

end Server
