import Presto.Valuation
import Presto.Lib.Journal

/-!
# The finance database (`server/migrations/0004` .. `0014`)

One record holds the tables the modelled operations read or write. A table with a primary key is a
`Table`; the two append-only ones (`budget_ledger_movements`, `finance_transaction_revisions`) are
lists. Columns that no modelled operation reads (descriptions, audit texts, cached EUR balances,
source cells) are left out.

Identifiers are opaque: only equality and the order used by `ORDER BY .. id` matter.
-/

abbrev AccountId := Nat
abbrev CategoryId := Nat
abbrev TransactionId := Nat
abbrev OperationId := Nat
/-- `pocket_session.subject`. -/
abbrev Subject := Nat
/-- A UTC instant. -/
abbrev Timestamp := Nat

/-- `budget_ledger::UNALLOCATED` (`budget_ledger.rs:12`). -/
def UNALLOCATED : CategoryId := 0

/-- A name up to case, the comparison of `COLLATE NOCASE` and of the duplicate check. -/
inductive FoldedName
  | expense
  | income
  | reallocation
  | reconciliation
  | balanceTransfer
  | unallocated
  | other (n : Nat)
deriving DecidableEq

structure Name where
  folded : FoldedName
  spelling : Nat
deriving DecidableEq

inductive TransactionKind
  | expense
  | income
  | transfer
  | reallocate
  | reconciliation
deriving DecidableEq

/-- `budget_income_receipts.treatment`. -/
inductive Treatment
  | salary
  | unexpected
  | refund
  | legacy
deriving DecidableEq

/-! ## Rows -/

structure Account where
  sourceName : Name
  currency : Option Currency
  isReal : Bool
  isActive : Bool
  currentNativeBalance : Option Decimal
  ledgerRevision : Nat
deriving DecidableEq

structure Category where
  name : Name
  isReal : Bool
  sourceRow : Nat
deriving DecidableEq

/-- One side of a `transaction_valuations` revision; imported amounts may be missing. -/
structure SideAmounts where
  amountNative : Option Decimal
  amountEur : Option Decimal
deriving DecidableEq

/-- The `transaction_valuations` rows of one revision of a transaction. -/
structure ValuationRevision where
  revision : Nat
  fromSide : SideAmounts
  toSide : SideAmounts
deriving DecidableEq

structure Transaction where
  kind : TransactionKind
  effectiveDate : Date
  occurredAt : Option Timestamp
  amountDecimal : Decimal
  inputCurrency : Option Currency
  toAmountDecimal : Option Decimal
  fromCategoryId : Option CategoryId
  toCategoryId : Option CategoryId
  fromAccountId : Option AccountId
  toAccountId : Option AccountId
  revision : Nat
  /-- `source_workbook_id = 'canonical-live'`: recorded by the server, not imported. -/
  canonicalLive : Bool
  /-- Newest revision first. -/
  valuations : List ValuationRevision
deriving DecidableEq

/-- `finance_transaction_revisions`. -/
structure TransactionRevision where
  transactionId : TransactionId
  revision : Nat
  operationId : Option OperationId
deriving DecidableEq

/-- `budget_month_snapshots`. -/
structure MonthSnapshot where
  expenseEur : Option Decimal
  remainingEur : Option Decimal
  reallocationImpactEur : Option Decimal
deriving DecidableEq

/-- `BudgetCategorySnapshot` (`finance_read_model.rs:27`). -/
structure BudgetCategorySnapshot where
  categoryId : CategoryId
  name : Name
  monthlyEur : Option Decimal
  expenseEur : Option Decimal
  remainingEur : Option Decimal
  reallocationImpactEur : Option Decimal
  carryoverEur : Option Decimal
  adjustmentEur : Option Decimal
  availableEur : Option Decimal
  netSpendingEur : Option Decimal
  correctionEur : Option Decimal
deriving DecidableEq

/-- `budget_month_closures`. -/
structure Closure where
  operationId : OperationId
  snapshot : List BudgetCategorySnapshot
deriving DecidableEq

/-- `finance_category_corrections` with its items. -/
structure CategoryCorrection where
  originalTransactionId : TransactionId
  appliedMonth : Month
  items : List (CategoryId × Decimal)
deriving DecidableEq

/-- A transaction as a reconciliation lists it (`included_transactions_json`). -/
structure IncludedTransaction where
  id : TransactionId
  revision : Nat
  date : Date
  occurredAt : Option Timestamp
  netNative : Decimal
deriving DecidableEq

/-- `reconciliation_items`: the adjustment of an account, and what it was computed from. -/
structure ReconciliationItem where
  accountId : AccountId
  transactionId : TransactionId
  /-- `actual_native_balance`: the balance on the closing date. -/
  closingBalance : Decimal
  varianceNative : Decimal
  accountRevision : Nat
  observedNativeBalance : Option Decimal
  postMonthActivity : Decimal
  includedTransactions : List IncludedTransaction
deriving DecidableEq

/-- `reconciliation_batches` with its items. -/
structure ReconciliationBatch where
  effectiveDate : Date
  items : List ReconciliationItem
deriving DecidableEq

/-- `budget_income_expectations`: what is expected from a month on. -/
structure IncomeSetting where
  amount : Decimal
  currency : Currency
  arrivalDay : Nat
deriving DecidableEq

/-- `budget_ledger_state`. -/
structure LedgerState where
  startMonth : Month
  openingUnallocatedEur : Decimal
deriving DecidableEq

/-- `budget_plan_income`: the expectation of one month. -/
structure PlanIncome where
  amount : Decimal
  currency : Currency
  amountEur : Decimal
  arrivalDay : Nat
  completedMonth : Option Month
  completionShortfallEur : Option Decimal
  completionOperationId : Option OperationId
deriving DecidableEq

/-- `budget_income_receipts`. -/
structure IncomeReceipt where
  treatment : Treatment
  expectedMonth : Option Month
deriving DecidableEq

/-- `ExpectedIncome` (`budget_ledger.rs:137`). -/
structure ExpectedIncome where
  month : Month
  amount : Decimal
  currency : Currency
  amountEur : Decimal
  receivedEur : Decimal
  receivedAmount : Decimal
  outstandingEur : Decimal
  arrivalDay : Nat
  completedMonth : Option Month
deriving DecidableEq

/-- `Coverage` (`budget_ledger.rs:680`). -/
structure Coverage where
  actualCashEur : Decimal
  assignedRemainingEur : Decimal
  unallocatedEur : Decimal
  outstandingExpectedEur : Decimal
  currentGapEur : Decimal
  projectedGapEur : Decimal
  expectations : List ExpectedIncome
  frozen : Bool
deriving DecidableEq

/-! ## Movements -/

inductive MovementKind
  | funding
  | allocation
  | income
  | spending
  | reallocation
  | correction
  | settlement
deriving DecidableEq

/-- `source_key`, e.g. `expected:2026-10` or `transaction:{id}`. -/
inductive SourceKey
  | expected (month : Month)
  | allocation (month : Month) (category : CategoryId)
  | allocations (month : Month)
  | transaction (id : TransactionId)
  | correction (operation : OperationId) (category : CategoryId)
  | excess (month : Month)
  | complete (month : Month)
deriving DecidableEq

/-- The columns that identify the source of a movement. -/
structure Source where
  month : Month
  category : CategoryId
  kind : MovementKind
  key : SourceKey
deriving DecidableEq

/-- A row of `budget_ledger_movements`, annotated with the operation that wrote it. -/
abbrev Movement := Journal.Entry Source Decimal (Option OperationId)

/-! ## Operations -/

/-- A fixed account in a response: `{accountId, balanceNative, ledgerRevision}`. -/
structure AccountUpdate where
  accountId : AccountId
  balanceNative : Decimal
  ledgerRevision : Nat
deriving DecidableEq

/-- What a deletion keeps of the deleted row (`deletedTransaction`, `server.rs:4560`). -/
structure DeletedTransaction where
  id : TransactionId
  kind : TransactionKind
  effectiveDate : Date
  amount : Decimal
  inputCurrency : Option Currency
  fromCategoryId : CategoryId
  toCategoryId : CategoryId
  fromAccountId : AccountId
  toAccountId : AccountId
  revision : Nat
deriving DecidableEq

structure ReconciledAccount where
  accountId : AccountId
  transactionId : TransactionId
  actualBalance : Decimal
  adjustment : Decimal
  ledgerRevision : Nat
deriving DecidableEq

/-- `finance_operations.response_json`. -/
inductive Response
  | created (operation : OperationId) (transaction : TransactionId) (kind : TransactionKind)
      (month : Month) (accounts : List AccountUpdate) (categories : List BudgetCategorySnapshot)
  | updated (operation : OperationId) (transaction : TransactionId) (revision : Nat)
      (accounts : List AccountUpdate) (categories : List BudgetCategorySnapshot)
  | deleted (operation : OperationId) (accounts : List AccountUpdate)
      (categories : List BudgetCategorySnapshot) (deletedTransaction : DeletedTransaction)
  | reconciled (operation : OperationId) (date : Date) (accounts : List ReconciledAccount)
  | corrected (operation : OperationId) (original : TransactionId) (originalDate : Date)
      (appliedMonth : Month) (deltas : List (CategoryId × Decimal))
  | completed (expectedMonth appliedMonth : Month) (shortfallEur : Decimal)
  | closed (month : Month) (categoryCount : Nat)
  | categoryCreated (category : CategoryId) (name : Name) (monthlyAmount : Decimal) (month : Month)
  | budgetCancelled (month : Month) (categories : List Name)
  | budgetSaved (month : Month) (changes : List (CategoryId × Option Decimal × Decimal))
  | expectedIncomeSaved (month : Month) (amount : Decimal) (currency : Currency) (arrivalDay : Nat)
  | refreshed
deriving DecidableEq

/-- `DbTransactionWriteRequest` (`server.rs:3025`) after `normalize_db_transaction_write`; SHA-256 of
its JSON stands in the fingerprint. -/
structure WriteRequest where
  operationId : OperationId
  transactionId : TransactionId
  kind : TransactionKind
  date : Date
  occurredAt : Option Timestamp
  dateOnly : Bool
  description : String
  amount : Decimal
  currency : Option Currency
  toAmount : Option Decimal
  fromCategoryId : Option CategoryId
  toCategoryId : Option CategoryId
  fromAccountId : Option AccountId
  toAccountId : Option AccountId
  incomeTreatment : Option Treatment
  correctsTransactionId : Option TransactionId
  expectedIncomeMonth : Option Month
deriving DecidableEq

/-- `DbTransactionEditRequest`. -/
structure EditRequest where
  transaction : WriteRequest
  expectedRevision : Nat
  expectedAccountRevisions : List (AccountId × Nat)
deriving DecidableEq

/-- `DbTransactionDeleteRequest`. -/
structure DeleteRequest where
  operationId : OperationId
  transactionId : TransactionId
  expectedRevision : Nat
  expectedAccountRevisions : List (AccountId × Nat)
deriving DecidableEq

/-- `DbReconciliationAccount`. -/
structure ReconciliationAccount where
  accountId : AccountId
  actualBalance : Decimal
  transactionId : TransactionId
  expectedRevision : Nat
deriving DecidableEq

/-- `DbReconciliationRequest`. -/
structure ReconciliationRequest where
  operationId : OperationId
  date : Date
  observedAt : Option Timestamp
  observedDate : Option Date
  accounts : List ReconciliationAccount
deriving DecidableEq

/-- `CategoryCorrectionRequest`. -/
structure CorrectionRequest where
  operationId : OperationId
  originalTransactionId : TransactionId
  reason : String
  categoryDeltas : List (CategoryId × Decimal)
deriving DecidableEq

/-- `CompleteBudgetIncomeRequest`. -/
structure CompleteIncomeRequest where
  operationId : OperationId
  expectedMonth : Month
deriving DecidableEq

/-- `payload_fingerprint`: the normalised payload itself, the digest being injective. -/
inductive Fingerprint
  | create (payload : WriteRequest)
  | edit (payload : EditRequest)
  | delete (payload : DeleteRequest)
  | reconcile (payload : ReconciliationRequest)
  | correct (payload : CorrectionRequest)
  | complete (payload : CompleteIncomeRequest)
  | close (month : Month)
  | audit (response : Response)
deriving DecidableEq

/-- `finance_operations`; `rowid` is the implicit row number. -/
structure Operation where
  rowid : Nat
  actorSubject : Subject
  fingerprint : Fingerprint
  response : Response
deriving DecidableEq

/-! ## The database -/

structure Database where
  accounts : Table AccountId Account
  categories : Table CategoryId Category
  /-- `category_budget_periods`, the value being `base_monthly_eur`. -/
  periods : Table (CategoryId × Month) (Option Decimal)
  transactions : Table TransactionId Transaction
  operations : Table OperationId Operation
  revisions : List TransactionRevision
  snapshots : Table (CategoryId × Month) MonthSnapshot
  /-- `budget_opening_state`, keyed by category and `effective_before_month`. -/
  openings : Table (CategoryId × Month) Decimal
  exchangeRates : List RateObservation
  batches : Table OperationId ReconciliationBatch
  /-- `currentCanonicalMonth` of each import run. -/
  importMonths : List Month
  closures : Table Month Closure
  corrections : Table OperationId CategoryCorrection
  incomeSettings : Table Month IncomeSetting
  ledgerState : Option LedgerState
  planIncome : Table Month PlanIncome
  receipts : Table TransactionId IncomeReceipt
  movements : List Movement
  coverageClosures : Table Month Coverage

namespace Transaction

/-- The newest valuation, `revision = (SELECT MAX(revision) ..)`. -/
def latest (t : Transaction) : Option ValuationRevision := t.valuations.head?

def fromNative (t : Transaction) : Option Decimal := t.latest.bind (·.fromSide.amountNative)
def fromEur (t : Transaction) : Option Decimal := t.latest.bind (·.fromSide.amountEur)
def toNative (t : Transaction) : Option Decimal := t.latest.bind (·.toSide.amountNative)
def toEur (t : Transaction) : Option Decimal := t.latest.bind (·.toSide.amountEur)

/-- `substr(effective_date, 1, 7)`. -/
def month (t : Transaction) : Month := t.effectiveDate.month

end Transaction

/-- A row of the join of `finance_transactions` with its newest valuations (`vf` and `vt`) that every
ledger query starts from. -/
structure LedgerRow where
  id : TransactionId
  kind : TransactionKind
  effectiveDate : Date
  amountDecimal : Decimal
  inputCurrency : Option Currency
  fromCategoryId : Option CategoryId
  toCategoryId : Option CategoryId
  fromAccountId : Option AccountId
  toAccountId : Option AccountId
  fromNative : Option Decimal
  fromEur : Option Decimal
  toNative : Option Decimal
  toEur : Option Decimal
deriving DecidableEq

def LedgerRow.month (r : LedgerRow) : Month := r.effectiveDate.month

/-- The joined row of a transaction. -/
def Transaction.row (id : TransactionId) (t : Transaction) : LedgerRow where
  id := id
  kind := t.kind
  effectiveDate := t.effectiveDate
  amountDecimal := t.amountDecimal
  inputCurrency := t.inputCurrency
  fromCategoryId := t.fromCategoryId
  toCategoryId := t.toCategoryId
  fromAccountId := t.fromAccountId
  toAccountId := t.toAccountId
  fromNative := t.fromNative
  fromEur := t.fromEur
  toNative := t.toNative
  toEur := t.toEur

namespace Database

/-- All joined rows. -/
def rows (db : Database) : List LedgerRow :=
  db.transactions.entries.map fun e => e.2.row e.1

/-- `EXISTS(SELECT 1 FROM budget_month_closures WHERE month=?)`. -/
def isClosed (db : Database) (month : Month) : Bool := (db.closures.lookup month).isSome

/-- `is_real=1` of a category; unknown ids are not real. -/
def isRealCategory (db : Database) (id : CategoryId) : Bool :=
  (db.categories.lookup id).any (·.isReal)

def isRealAccount (db : Database) (id : AccountId) : Bool :=
  (db.accounts.lookup id).any (·.isReal)

/-- `is_real=1 AND is_active=1`. -/
def isActiveRealAccount (db : Database) (id : AccountId) : Bool :=
  (db.accounts.lookup id).any fun a => a.isReal && a.isActive

/-- `budget_ledger::start` (`budget_ledger.rs:43`). -/
def start (db : Database) : Option Month := db.ledgerState.map (·.startMonth)

/-- Record an operation with the next row number. The source inserts the row first, with the response
`{}`, and completes it at the end of the same SQL transaction. -/
def recordOperation (db : Database) (id : OperationId) (actor : Subject) (fingerprint : Fingerprint)
    (response : Response) : Database :=
  let row : Operation := ⟨db.operations.entries.length + 1, actor, fingerprint, response⟩
  { db with operations := db.operations.insert id row }

end Database
