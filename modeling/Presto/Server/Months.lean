import Presto.Server.Transactions

/-!
# Budget months: settings, corrections, completions and closes (`server.rs`)

| source (`server.rs`)                       | model                  |
|--------------------------------------------|------------------------|
| `create_budget_category` (`:1444`)         | `createCategory`       |
| `cancel_monthly_budget` (`:1501`)          | `cancelMonthlyBudget`  |
| `save_monthly_budget` (`:1560`)            | `saveMonthlyBudget`    |
| `save_expected_income` (`:1655`)           | `saveExpectedIncome`   |
| `record_category_correction` (`:5033`)     | `recordCorrection`     |
| `complete_budget_income` (`:5281`)         | `completeIncome`       |
| `close_budget_month` (`:5362`)             | `closeMonth`           |
| `get_db_finance` (`:1208`)                 | `refresh`              |
| `AppState::new` (`:70`)                    | `startup`              |

The settings carry an operation id drawn by the server (`Uuid::now_v7`); the model takes it from the
request, and an id in use fails as the primary key does.
-/

namespace Server

open Budget BudgetLedger

/-- `valid_month` on a parsed month: the year is positive. -/
def validMonth (month : Month) : Bool := decide (21 ≤ month.index)

/-- Record an operation under an id that must be new. -/
def recordNew (db : Database) (id : OperationId) (actor : Subject) (audit : Response) :
    Except ApiError Database := do
  Except.ensure (db.operations.lookup id).isNone (ApiError.internal "UNIQUE constraint failed")
  return db.recordOperation id actor (.audit audit) audit

/-- A budget amount of at most two decimals that is not negative. -/
def nonnegative (value : Decimal) (message : String) : Except ApiError Decimal :=
  let amount := value.roundPosted
  if amount.isNegative then .error (.badRequest message) else .ok amount

/-! ## Categories and budgets -/

structure CreateCategoryRequest where
  name : Name
  monthlyAmount : Decimal
  /-- The ids drawn by the server. -/
  categoryId : CategoryId
  operationId : OperationId
deriving DecidableEq

/-- `create_budget_category`. -/
def createCategory (db : Database) (clock : Clock) (actor : Subject)
    (payload : CreateCategoryRequest) : Except ApiError (Database × Response) := do
  let amount ← nonnegative payload.monthlyAmount "Monthly budgets cannot be negative."
  Except.ensure (¬ db.categories.entries.any fun e => e.2.name.folded = payload.name.folded)
    (ApiError.conflict "A category with this name already exists.")
  let month := clock.today.month
  (requireOpen db clock.today month).mapError ApiError.conflict
  -- establish the existing ledger before adding a zero-opening category
  let db ← (sync db clock.today none).mapError ApiError.internal
  let first ← Except.fromOption (firstMonth db) (ApiError.internal "unwrap")
  -- a drawn UUID is new and is not the text `budget-unallocated`
  Except.ensure ((db.categories.lookup payload.categoryId).isNone ∧ payload.categoryId ≠ UNALLOCATED)
    (ApiError.internal "UNIQUE constraint failed")
  let id := payload.categoryId
  let sourceRow := ((db.categories.entries.map fun e => e.2.sourceRow).foldl max 0) + 1
  let db := { db with
    categories := db.categories.insert id ⟨payload.name, true, sourceRow⟩
    openings := db.openings.insert (id, first) 0
    periods := (db.periods.insert (id, first) (some 0)).insert (id, month) (some amount) }
  let audit := Response.categoryCreated id payload.name amount month
  let db ← recordNew db payload.operationId actor audit
  let db ← (sync db clock.today (some payload.operationId)).mapError ApiError.internal
  return (db, audit)

structure MonthlyBudgetRequest where
  effectiveStartMonth : Month
  categories : List (Name × Decimal)
  operationId : OperationId
deriving DecidableEq

/-- `name = ? AND is_real=1 AND id<>'budget-unallocated'`. -/
def categoryNamed (db : Database) (name : Name) : Option CategoryId :=
  ((budgetCategories db).find? fun c => c.2.name = name).map (·.1)

/-- Delete the amount of one category (`server.rs:1530`). -/
def cancelAmount (db : Database) (month : Month) (periods : Table (CategoryId × Month) (Option Decimal))
    (c : Name × Decimal) : Table (CategoryId × Month) (Option Decimal) :=
  match categoryNamed db c.1 with
  | some id => periods.erase (id, month)
  | none => periods

/-- `cancel_monthly_budget`: delete scheduled future amounts; nothing is synchronised. -/
def cancelMonthlyBudget (db : Database) (clock : Clock) (actor : Subject)
    (payload : MonthlyBudgetRequest) : Except ApiError (Database × Response) := do
  let month := payload.effectiveStartMonth
  Except.ensure (validMonth month ∧ clock.today.month < month ∧ payload.categories ≠ [])
    (ApiError.badRequest "Only future scheduled changes can be cancelled.")
  Except.ensure (¬ db.closures.keys.any fun m => month ≤ m)
    (ApiError.conflict "This plan affects a closed month.")
  let periods := payload.categories.foldl (cancelAmount db month) db.periods
  let audit := Response.budgetCancelled month (payload.categories.map (·.1))
  let db ← recordNew { db with periods := periods } payload.operationId actor audit
  return (db, audit)

/-- Schedule one amount (`server.rs:1601-1634`). -/
def scheduleAmount (month : Month)
    (acc : Database × List (CategoryId × Option Decimal × Decimal)) (c : Name × Decimal) :
    Except ApiError (Database × List (CategoryId × Option Decimal × Decimal)) := do
  let amount ← nonnegative c.2 "Monthly budgets cannot be negative."
  let id ← Except.fromOption (categoryNamed acc.1 c.1)
    (ApiError.badRequest "Choose a real budget category.")
  let previous := (acc.1.periods.lookup (id, month)).bind fun amount => amount
  -- the period table admits calendar months only
  Except.ensure month.Calendar (ApiError.internal "CHECK constraint failed")
  return ({ acc.1 with periods := acc.1.periods.insert (id, month) (some amount) },
    acc.2 ++ [(id, previous, amount)])

/-- `save_monthly_budget`. -/
def saveMonthlyBudget (db : Database) (clock : Clock) (actor : Subject)
    (payload : MonthlyBudgetRequest) : Except ApiError (Database × Response) := do
  let db ← (initializeOpenings db).mapError ApiError.internal
  let month := payload.effectiveStartMonth
  Except.ensure (validMonth month ∧ clock.today.month ≤ month ∧ payload.categories ≠ [])
    (ApiError.badRequest "Budget changes must start in the current Madrid month or a future month.")
  Except.ensure (¬ db.closures.keys.any fun m => month ≤ m)
    (ApiError.conflict "A current or future budget month is closed.")
  Except.ensure (payload.categories.map Prod.fst).Nodup
    (ApiError.badRequest "Enter each category once with a valid amount.")
  let (db, changes) ← payload.categories.foldlM (scheduleAmount month) (db, [])
  let audit := Response.budgetSaved month changes
  let db ← recordNew db payload.operationId actor audit
  let db ← (sync db clock.today (some payload.operationId)).mapError ApiError.internal
  return (db, audit)

/-! ## Expected income -/

structure ExpectedIncomeRequest where
  effectiveStartMonth : Month
  amount : Decimal
  currency : Currency
  arrivalDay : Nat
  operationId : OperationId
deriving DecidableEq

/-- Revalue one open expectation from the setting in force (`server.rs:1732-1750`). -/
def refreshPlan (db : Database) (month : Month) : Except ApiError Database := do
  let setting := incomeSetting db month
  let eur ← (settingEur db month).mapError ApiError.internal
  return { db with
    planIncome := db.planIncome.modify month fun row =>
      { row with
        amount := setting.amount
        currency := setting.currency
        amountEur := eur
        arrivalDay := setting.arrivalDay } }

/-- The expectations a setting reaches: from its start on, not completed and not closed. -/
def refreshedMonths (db : Database) (start : Month) : List Month :=
  ((db.planIncome.entries.filter fun e =>
    start ≤ e.1 ∧ e.2.completedMonth = none ∧ db.isClosed e.1 = false).map (·.1)).insertionSort
      (· ≤ ·)

/-- `save_expected_income`. -/
def saveExpectedIncome (db : Database) (clock : Clock) (actor : Subject)
    (payload : ExpectedIncomeRequest) : Except ApiError (Database × Response) := do
  Except.ensure (validMonth payload.effectiveStartMonth ∧ 1 ≤ payload.arrivalDay ∧
      payload.arrivalDay ≤ 31)
    (ApiError.badRequest "Enter a valid month, non-negative amount and arrival day from 1 to 31.")
  let amount ← nonnegative payload.amount "Expected income cannot be negative."
  Except.ensure (clock.today.month ≤ payload.effectiveStartMonth)
    (ApiError.conflict "Expected income settings must start in the current month or a future month.")
  Except.ensure (¬ db.closures.keys.any fun m => payload.effectiveStartMonth ≤ m)
    (ApiError.conflict "Expected income in closed months is frozen.")
  let audit := Response.expectedIncomeSaved payload.effectiveStartMonth amount payload.currency
    payload.arrivalDay
  let db ← recordNew db payload.operationId actor audit
  let setting : IncomeSetting := ⟨amount, payload.currency, payload.arrivalDay⟩
  let db := { db with
    incomeSettings := db.incomeSettings.insert payload.effectiveStartMonth setting }
  let db ← (refreshedMonths db payload.effectiveStartMonth).foldlM refreshPlan db
  let db ← (sync db clock.today (some payload.operationId)).mapError ApiError.internal
  return (db, audit)

/-! ## Corrections -/

/-- Static checks; deltas are rounded to nonzero cents, at most fifty, each category once, and taken in
the order of their categories. -/
def normalizeCorrection (payload : CorrectionRequest) : Except ApiError CorrectionRequest := do
  Except.ensure (payload.reason.length ≠ 0 ∧ payload.reason.length ≤ 500)
    (ApiError.badRequest "A source transaction and a reason of at most 500 characters are required.")
  Except.ensure (payload.categoryDeltas ≠ [] ∧ payload.categoryDeltas.length ≤ 50)
    (ApiError.badRequest "Provide one to fifty category expense adjustments.")
  Except.ensure (payload.categoryDeltas.map Prod.fst).Nodup
    (ApiError.badRequest "Each real category may appear only once.")
  let deltas := payload.categoryDeltas.map fun d => (d.1, d.2.roundPosted)
  Except.ensure (∀ d ∈ deltas, d.2 ≠ 0)
    (ApiError.badRequest "Category expense adjustments must be nonzero after rounding.")
  return { payload with
    categoryDeltas := deltas.insertionSort fun left right => left.1 ≤ right.1 }

def correctionBody (db : Database) (clock : Clock) (payload : CorrectionRequest) :
    Except ApiError (Database × Response) := do
  let original ← Except.fromOption (db.transactions.lookup payload.originalTransactionId)
    (ApiError.notFound "The transaction selected for correction was not found.")
  Except.ensure (db.isClosed original.month ∨ (firstMonth db).any (original.month < ·))
    (ApiError.conflict "Category-only correction is reserved for transactions in closed months.")
  let month := clock.today.month
  (requireOpen db clock.today month).mapError ApiError.conflict
  Except.ensure (∀ d ∈ payload.categoryDeltas, db.isRealCategory d.1)
    (ApiError.badRequest "Category adjustments must target real budget categories.")
  Except.ensure (db.corrections.lookup payload.operationId).isNone
    (ApiError.internal "UNIQUE constraint failed")
  let row : CategoryCorrection :=
    ⟨payload.originalTransactionId, month, payload.categoryDeltas⟩
  let db := { db with corrections := db.corrections.insert payload.operationId row }
  let db ← (sync db clock.today (some payload.operationId)).mapError ApiError.internal
  return (db, .corrected payload.operationId payload.originalTransactionId original.effectiveDate
    month payload.categoryDeltas)

/-- `record_category_correction`. -/
def recordCorrection (db : Database) (clock : Clock) (actor : Subject)
    (payload : CorrectionRequest) : Except ApiError (Database × Response) := do
  let payload ← normalizeCorrection payload
  let db ← (initializeOpenings db).mapError ApiError.internal
  once db payload.operationId actor (.correct payload)
    (fun _ => (db.corrections.lookup payload.operationId).isSome) (correctionBody db clock payload)

/-! ## Completion -/

def completeBody (db : Database) (clock : Clock) (payload : CompleteIncomeRequest) :
    Except ApiError (Database × Response) := do
  let db ← (sync db clock.today none).mapError ApiError.internal
  let current := clock.today.month
  (requireOpen db clock.today current).mapError ApiError.conflict
  Except.ensure (payload.expectedMonth ≤ current)
    (ApiError.badRequest "A future expectation cannot be completed.")
  let expectation ← (income db payload.expectedMonth current).mapError ApiError.internal
  let expectation ← Except.fromOption expectation (ApiError.notFound "Expected income not found.")
  Except.ensure (expectation.completedMonth = none)
    (ApiError.conflict "This expectation is already complete.")
  let db := { db with
    planIncome := db.planIncome.modify payload.expectedMonth fun row =>
      { row with
        completedMonth := some current
        completionShortfallEur := some expectation.outstandingEur
        completionOperationId := some payload.operationId } }
  let db ← (sync db clock.today (some payload.operationId)).mapError ApiError.internal
  return (db, .completed payload.expectedMonth current expectation.outstandingEur)

/-- `complete_budget_income`. -/
def completeIncome (db : Database) (clock : Clock) (actor : Subject)
    (payload : CompleteIncomeRequest) : Except ApiError (Database × Response) := do
  Except.ensure (validMonth payload.expectedMonth)
    (ApiError.badRequest "Choose a valid expectation and operation ID.")
  once db payload.operationId actor (.complete payload) (fun _ => true)
    (completeBody db clock payload)

/-! ## Closing -/

structure CloseRequest where
  operationId : OperationId
  month : Month
deriving DecidableEq

/-- A batch that counts every active real account. -/
def fullyReconciles (db : Database) (date : Date) (batch : ReconciliationBatch) : Bool :=
  decide (batch.effectiveDate = date) &&
  decide ((((batch.items.map (·.accountId)).filter db.isActiveRealAccount).dedup).length =
    (cashAccounts db).length)

/-- The full batches of a date with their row numbers. -/
def fullBatches (db : Database) (date : Date) : List (OperationId × Nat) :=
  (db.batches.entries.filter fun e => fullyReconciles db date e.2).filterMap fun e =>
    (db.operations.lookup e.1).map fun o => (e.1, o.rowid)

/-- `ORDER BY operation.rowid DESC LIMIT 1`. -/
def latestBatch : List (OperationId × Nat) → Option (OperationId × Nat)
  | [] => none
  | b :: bs =>
    match latestBatch bs with
    | some best => if best.2 < b.2 then some b else some best
    | none => some b

/-- The frozen rows of `budget_month_snapshots`. -/
def freezeSnapshots (month : Month) (snapshots : Table (CategoryId × Month) MonthSnapshot)
    (categories : List BudgetCategorySnapshot) : Table (CategoryId × Month) MonthSnapshot :=
  categories.foldl (fun t c =>
    t.insert (c.categoryId, month) ⟨c.expenseEur, c.remainingEur, c.reallocationImpactEur⟩) snapshots

/-- The frozen row of `budget_coverage_closures`; months before the ledger have none. -/
def freezeCoverage (month : Month) (coverageClosures : Table Month Coverage) :
    Option Coverage → Table Month Coverage
  | some c => coverageClosures.insert month c
  | none => coverageClosures

def closeBody (db : Database) (clock : Clock) (payload : CloseRequest) :
    Except ApiError (Database × Response) := do
  let month := payload.month
  Except.ensure (month < clock.today.month)
    (ApiError.conflict "Only a completed budget month can be closed.")
  let date := month.lastDate
  Except.ensure (db.batches.entries.any fun e => fullyReconciles db date e.2)
    (ApiError.conflict "Reconcile every active real account at month end before closing this budget month.")
  Except.ensure (db.isClosed month = false)
    (ApiError.conflict "This budget month is already closed.")
  let batch ← Except.fromOption (latestBatch (fullBatches db date))
    (ApiError.internal "no rows returned")
  let fresh ← (reconciliationCurrent db date batch.1).mapError ApiError.internal
  Except.ensure fresh
    (ApiError.conflict "Account activity changed after reconciliation. Reconcile again before closing.")
  let first ← Except.fromOption (firstMonth db) (ApiError.conflict "No canonical opening balance.")
  let history ← (historyAt db month clock.today.month).mapError ApiError.internal
  Except.ensure (¬ (month < first ∨ history.any fun m => m.status = .openMonth ∧ m.month < month))
    (ApiError.conflict "Close budget months in chronological order.")
  let db ← (sync db clock.today (some payload.operationId)).mapError ApiError.internal
  let categories ← (categories db clock.today month).mapError ApiError.internal
  Except.ensure (categories ≠ [])
    (ApiError.conflict "There are no real budget categories to close.")
  let db := { db with snapshots := freezeSnapshots month db.snapshots categories }
  let coverage ← (coverage db clock.today month categories).mapError ApiError.internal
  let db := { db with
    closures := db.closures.insert month ⟨payload.operationId, categories⟩
    coverageClosures := freezeCoverage month db.coverageClosures coverage }
  return (db, .closed month categories.length)

/-- `close_budget_month`. -/
def closeMonth (db : Database) (clock : Clock) (actor : Subject) (payload : CloseRequest) :
    Except ApiError (Database × Response) := do
  Except.ensure (validMonth payload.month)
    (ApiError.badRequest "month must be a valid YYYY-MM month.")
  let db ← (initializeOpenings db).mapError ApiError.internal
  once db payload.operationId actor (.close payload.month)
    (fun _ => (db.closures.lookup payload.month).any (·.operationId = payload.operationId))
    (closeBody db clock payload)

/-! ## Reading -/

/-- `get_db_finance` synchronises before it reads. -/
def refresh (db : Database) (clock : Clock) : Except ApiError (Database × Response) := do
  let db ← (sync db clock.today none).mapError ApiError.internal
  return (db, .refreshed)

/-- `AppState::new` with database reads enabled. -/
def startup (db : Database) (clock : Clock) : Except ApiError (Database × Response) := do
  let db ← (initializeOpenings db).mapError ApiError.internal
  let db ← (activate db clock.today).mapError ApiError.internal
  let db ← (sync db clock.today none).mapError ApiError.internal
  return (db, .refreshed)

end Server
