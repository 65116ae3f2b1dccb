import Presto.Database
import Presto.Lib.Fallible
import Mathlib.Data.List.Sort

/-!
# Calculated budgets: `budget.rs`

Open months are calculated from facts, month after month, each category starting from what the month
before left (`history_at`, `:192`). Closed months are read back from their frozen snapshot, and
historical months (before the first canonical one) from the imported snapshots.

| source (`budget.rs`)                | model                          |
|-------------------------------------|--------------------------------|
| `first_month` (`:42`)               | `firstMonth`                   |
| `initialize` (`:62`)                | `initializeOpenings`           |
| `require_open` (`:87`)              | `requireOpen`                  |
| `history_at` (`:115`)               | `calculate`, then `apply`      |
| `reconciliation_current` (`:347`)   | `reconciliationCurrent`        |

`apply` adds the Unallocated bucket and lives in `BudgetLedger`, so `historyAt` is defined there.
-/

/-- `YYYY-MM`, for messages. -/
def Month.text (m : Month) : String :=
  let year := toString m.year
  let slot := m.index % 21
  let part := if slot < 9 then "+" ++ toString (slot + 1)
    else if slot < 18 then "0" ++ toString (slot - 8) else toString (slot - 8)
  String.join (List.replicate (4 - year.length) "0") ++ year ++ "-" ++ part

namespace Budget

/-- `first_month`: the smallest canonical month of the import runs. -/
def firstMonth (db : Database) : Option Month :=
  db.importMonths.foldl (fun first month =>
    match first with
    | none => some month
    | some previous => if month < previous then some month else some previous) none

/-- The row with the largest start on or before `month`:
`effective_start_month <= ? ORDER BY effective_start_month DESC LIMIT 1`. -/
def effectiveFrom {α : Type} (month : Month) : List (Month × α) → Option (Month × α)
  | [] => none
  | row :: rows =>
    match effectiveFrom month rows with
    | some best => if row.1 ≤ month ∧ best.1 < row.1 then some row else some best
    | none => if row.1 ≤ month then some row else none

/-- The `base_monthly_eur` in force for a category. -/
def monthlyAllocation (db : Database) (category : CategoryId) (month : Month) : Option Decimal :=
  let rows := (db.periods.entries.filter fun e => e.1.1 = category).map fun e => (e.1.2, e.2)
  (effectiveFrom month rows).bind (·.2)

/-- `is_real=1 AND id<>'budget-unallocated' ORDER BY source_row, id`. -/
def budgetCategories (db : Database) : List (CategoryId × Category) :=
  let rows := (db.categories.entries.filter fun e => e.2.isReal ∧ e.1 ≠ UNALLOCATED).map
    fun e => (e.1, e.2)
  rows.insertionSort fun a b =>
    a.2.sourceRow < b.2.sourceRow ∨ (a.2.sourceRow = b.2.sourceRow ∧ a.1 ≤ b.1)

/-! ## Openings -/

/-- A real category without an opening before `first`. -/
def missingOpening (db : Database) (first : Month) : Bool :=
  (budgetCategories db).any fun c => (db.openings.lookup (c.1, first)).isNone

/-- `INSERT INTO budget_opening_state .. ON CONFLICT DO NOTHING` for one imported snapshot. -/
def seedOpening (first : Month) (db : Database) (row : CategoryId × MonthSnapshot) :
    Except String Database := do
  let balance ← Except.fromOption row.2.remainingEur "Imported opening balance unavailable"
  match db.openings.lookup (row.1, first) with
  | some _ => return db
  | none => return { db with openings := db.openings.insert (row.1, first) balance }

/-- The imported snapshots of real categories in the month before `first`. -/
def priorSnapshots (db : Database) (first : Month) : List (CategoryId × MonthSnapshot) :=
  (db.snapshots.entries.filter fun e => e.1.2 = first.previous ∧ db.isRealCategory e.1.1).map
    fun e => (e.1.1, e.2)

/-- `initialize`: seed the verified carryover once. -/
def initializeOpenings (db : Database) : Except String Database :=
  match firstMonth db with
  | none => .ok db
  | some first =>
    if missingOpening db first then (priorSnapshots db first).foldlM (seedOpening first) db
    else .ok db

/-- `require_open`. -/
def requireOpen (db : Database) (today : Date) (month : Month) : Except String Unit := do
  let first ← Except.fromOption (firstMonth db) "No canonical budget opening"
  Except.ensure month.Calendar "input contains invalid characters"
  Except.ensure (¬ (month < first ∨ today.month < month))
    s!"Transactions require an open month from {first.text} through the current Madrid month."
  Except.ensure (db.isClosed month = false)
    "This budget month is closed. Record a correction in an open month."

/-! ## Month results -/

inductive MonthStatus
  | historical
  | closed
  | openMonth
deriving DecidableEq

/-- `BudgetMonthSnapshot`; the status `openMonth` is the source's `"open"`. -/
structure BudgetMonthSnapshot where
  month : Month
  categories : List BudgetCategorySnapshot
  status : MonthStatus
  carryoverProvisional : Bool
deriving DecidableEq

/-- The effect of one transaction on the running `(expense, impact)` of category `id`. -/
def rowActivity (id : CategoryId) (acc : Decimal × Decimal) (r : LedgerRow) :
    Except String (Decimal × Decimal) :=
  if r.kind = .reallocate then
    let amount := r.amountDecimal.unsigned
    let impact := if r.fromCategoryId = some id then acc.2 + amount else acc.2
    let impact := if r.toCategoryId = some id then impact - amount else impact
    .ok (acc.1, impact)
  else do
    let expense ← (if r.fromCategoryId = some id then
        (Except.fromOption r.fromEur "Missing transaction EUR valuation").map (acc.1 + ·)
      else .ok acc.1)
    let expense ← (if r.toCategoryId = some id then
        (Except.fromOption r.toEur "Missing transaction EUR valuation").map (expense - ·)
      else .ok expense)
    return (expense, acc.2)

/-- Expense and reallocation impact of a category from the transactions of a month. -/
def factActivity (db : Database) (month : Month) (id : CategoryId) :
    Except String (Decimal × Decimal) :=
  (db.rows.filter fun r => r.month = month ∧
    (r.fromCategoryId = some id ∨ r.toCategoryId = some id)).foldlM (rowActivity id) (0, 0)

/-- The sum of a category's movements of one kind in a month. -/
def movementTotal (db : Database) (month : Month) (id : CategoryId) (kind : MovementKind) : Decimal :=
  Journal.volume db.movements fun s => s.month = month ∧ s.category = id ∧ s.kind = kind

/-- The correction items applied in a month: operation, category, expense delta. -/
def correctionItems (db : Database) (month : Month) : List (OperationId × CategoryId × Decimal) :=
  (db.corrections.entries.filter fun e => e.2.appliedMonth = month).flatMap
    fun e => e.2.items.map fun i => (e.1, i.1, i.2)

/-- The corrections of a category in a month. -/
def correctionTotal (db : Database) (month : Month) (id : CategoryId) : Decimal :=
  (((correctionItems db month).filter fun i => i.2.1 = id).map fun i => i.2.2).sum

/-- Balances left by the months so far; a month without a result for a category keeps its entry. -/
abbrev Balances := CategoryId → Option Decimal

/-- `balances.insert(id, remaining)` for every category of a month that has a remaining balance. -/
def Balances.overlay (balances : Balances) (categories : List BudgetCategorySnapshot) : Balances :=
  fun id => ((categories.find? fun c => c.categoryId = id).bind (·.remainingEur)).or (balances id)

/-- What an open month starts from. -/
def carryoverOf (db : Database) (first month : Month) (balances : Balances) (id : CategoryId) :
    Option Decimal :=
  if month = first then
    (db.openings.lookup (id, first)).or
      ((db.snapshots.lookup (id, first.previous)).bind (·.remainingEur))
  else balances id

/-- Does the ledger record this month? -/
def inLedger (db : Database) (month : Month) : Bool := db.start.any (· ≤ month)

/-- A month is materialised when it has an expectation row. -/
def materialized (db : Database) (month : Month) : Bool := (db.planIncome.lookup month).isSome

/-- The calculated result of one category in an open month (`budget.rs:228-330`). -/
def openCategory (db : Database) (first month : Month) (balances : Balances)
    (category : CategoryId × Category) : Except String BudgetCategorySnapshot := do
  let id := category.1
  let carryover ← Except.fromOption (carryoverOf db first month balances id) "Missing opening balance"
  let planned ← Except.fromOption (monthlyAllocation db id month) "Missing monthly allocation"
  let activity ← factActivity db month id
  let monthly := if inLedger db month && materialized db month
    then movementTotal db month id .allocation else planned
  -- from the ledger start on, recorded movements replace the transactions
  let netSpending := if inLedger db month then -movementTotal db month id .spending else activity.1
  let impact := if inLedger db month then -movementTotal db month id .reallocation else activity.2
  let correction := correctionTotal db month id
  let adjustment := 0 - impact - correction
  let available := carryover + monthly + adjustment
  return {
    categoryId := id
    name := category.2.name
    monthlyEur := some monthly
    expenseEur := some (netSpending + correction)
    remainingEur := some (available - netSpending)
    reallocationImpactEur := some impact
    carryoverEur := some carryover
    adjustmentEur := some adjustment
    availableEur := some available
    netSpendingEur := some netSpending
    correctionEur := some correction }

/-- A historical month shows its imported snapshot. -/
def historicalCategory (db : Database) (month : Month) (category : CategoryId × Category) :
    BudgetCategorySnapshot :=
  let row := db.snapshots.lookup (category.1, month)
  { categoryId := category.1
    name := category.2.name
    monthlyEur := monthlyAllocation db category.1 month
    expenseEur := row.bind (·.expenseEur)
    remainingEur := row.bind (·.remainingEur)
    reallocationImpactEur := row.bind (·.reallocationImpactEur)
    carryoverEur := none
    adjustmentEur := none
    availableEur := none
    netSpendingEur := none
    correctionEur := none }

/-- `dynamic`: at or after the first canonical month. -/
def isDynamic (first : Option Month) (month : Month) : Bool := first.any (· ≤ month)

/-- One turn of the loop over months. -/
def monthSnapshot (db : Database) (first : Option Month) (balances : Balances) (provisional : Bool)
    (month : Month) : Except String BudgetMonthSnapshot :=
  match db.closures.lookup month with
  | some closure => .ok ⟨month, closure.snapshot, .closed, false⟩
  | none =>
    match first with
    | some f =>
      if f ≤ month then do
        let results ← (budgetCategories db).mapM (openCategory db f month balances)
        return ⟨month, results, .openMonth, provisional⟩
      else .ok ⟨month, (budgetCategories db).map (historicalCategory db month), .historical, false⟩
    | none => .ok ⟨month, (budgetCategories db).map (historicalCategory db month), .historical, false⟩

/-- The loop: balances flow from month to month, and later open months are provisional while an
earlier completed month is open. -/
def calculateFrom (db : Database) (first : Option Month) (calendarMonth : Month) :
    List Month → Balances → Bool → Except String (List BudgetMonthSnapshot)
  | [], _, _ => .ok []
  | month :: months, balances, provisional => do
    let snapshot ← monthSnapshot db first balances provisional month
    let leavesOpen := isDynamic first month && !db.isClosed month && decide (month < calendarMonth)
    let rest ← calculateFrom db first calendarMonth months (balances.overlay snapshot.categories)
      (provisional || leavesOpen)
    return snapshot :: rest

/-- The months shown: those with an imported snapshot and every month from the first canonical one. -/
def historyMonths (db : Database) (through : Month) : List Month :=
  let imported := (db.snapshots.keys.map Prod.snd).filter (· ≤ through)
  let dynamic := match firstMonth db with
    | some first => Month.through first through
    | none => []
  (imported ++ dynamic).dedup.insertionSort (· ≤ ·)

/-- Balances before the first month: the verified openings. -/
def openingBalances (db : Database) : Balances := fun id =>
  (firstMonth db).bind fun first => db.openings.lookup (id, first)

/-- `history_at` without the Unallocated bucket. -/
def calculate (db : Database) (through calendarMonth : Month) :
    Except String (List BudgetMonthSnapshot) := do
  Except.ensure (through.Calendar ∧ calendarMonth.Calendar) "input contains invalid characters"
  Except.ensure (through ≤ calendarMonth) "Future budget months are plans, not available balances."
  calculateFrom db (firstMonth db) calendarMonth (historyMonths db through) (openingBalances db) false

/-! ## Freshness of a reconciliation -/

/-- The response of a deletion that changed account activity on or before `date`. -/
def deletesActivity (date : Date) : Response → Bool
  | .deleted _ _ _ t => decide (t.effectiveDate ≤ date) && decide (t.kind ≠ .reallocate)
  | _ => false

/-- `reconciliation_current`: no later operation revised or deleted account activity on or before
the closing date. Receipt order (`rowid`) decides what is later. -/
def reconciliationCurrent (db : Database) (date : Date) (batch : OperationId) :
    Except String Bool := do
  let watermark ← Except.fromOption ((db.operations.lookup batch).map (·.rowid)) "no rows returned"
  let revised := db.revisions.any fun r =>
    (r.operationId.bind db.operations.lookup).any (fun o => decide (watermark < o.rowid)) &&
    (db.transactions.lookup r.transactionId).any fun t =>
      decide (t.effectiveDate ≤ date) && decide (t.kind ≠ .reallocate) &&
      (t.fromAccountId.any db.isRealAccount || t.toAccountId.any db.isRealAccount)
  let deleted := db.operations.entries.any fun e =>
    decide (watermark < e.2.rowid) && deletesActivity date e.2.response
  return !(revised || deleted)

end Budget
