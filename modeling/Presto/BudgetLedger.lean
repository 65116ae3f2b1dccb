import Presto.Budget

/-!
# The plan ledger: `budget_ledger.rs`

Plan movements are append-only. Every operation ends in `sync`, which walks the months from the
ledger start to the current one and settles each source of a movement to the effect the facts ask
for; closed months are skipped.

| source (`budget_ledger.rs`)        | model                |
|------------------------------------|----------------------|
| `ensure_income` (`:106`)           | `ensureIncome`       |
| `matched_receipts` (`:155`)        | `matchedReceipts`    |
| `funding_portion` (`:190`)         | `fundingPortion`     |
| `income` (`:196`)                  | `income`             |
| `receipt` (`:235`)                 | `receipt`            |
| `movement` (`:311`)                | `movement`           |
| `sync` (`:331`)                    | `sync`               |
| `sync_transactions` (`:503`)       | `syncTransactions`   |
| `apply` (`:577`)                   | `applyLedger`        |
| `cash`, `coverage` (`:691`)        | `cash`, `coverage`   |
| `activate` (`:54`)                 | `activate`           |
-/

namespace BudgetLedger

open Budget

/-! ## Expectations -/

/-- The setting in force, or 10000 USD on day 7 (`budget_ledger.rs:113`). -/
def incomeSetting (db : Database) (month : Month) : IncomeSetting :=
  match effectiveFrom month (db.incomeSettings.entries.map fun e => (e.1, e.2)) with
  | some row => row.2
  | none => ⟨10000, .usd, 7⟩

/-- The EUR value of the setting in force on the first day of the month. -/
def settingEur (db : Database) (month : Month) : Except String Decimal :=
  accountBalanceEur (incomeSetting db month).amount (incomeSetting db month).currency
    month.firstDate db.exchangeRates

/-- `ensure_income`: materialise the expectation of a month once. -/
def ensureIncome (db : Database) (month : Month) : Except String Database :=
  match db.planIncome.lookup month with
  | some _ => .ok db
  | none => do
    let setting := incomeSetting db month
    let eur ← settingEur db month
    let row : PlanIncome :=
      ⟨setting.amount, setting.currency, eur, setting.arrivalDay, none, none, none⟩
    return { db with planIncome := db.planIncome.insert month row }

structure MatchedReceipt where
  date : Date
  treatment : Treatment
  actualEur : Decimal
  native : Decimal
deriving DecidableEq

/-- The amount of a receipt in the currency of its expectation. -/
def receiptNative (db : Database) (r : LedgerRow) (actualEur amount : Decimal) (currency : Currency)
    (plannedEur : Decimal) : Except String Decimal :=
  if r.inputCurrency = some currency then .ok r.amountDecimal
  else if ((r.toAccountId.bind db.accounts.lookup).bind (·.currency)) = some currency then
    Except.fromOption r.toNative "unexpected null"
  else if plannedEur = 0 then .ok 0
  else proportional actualEur amount plannedEur

/-- Is the row a salary matched to `month` that was received by the end of `through`? -/
def isMatched (db : Database) (month through : Month) (r : LedgerRow) : Bool :=
  decide (r.kind = .income) && decide (r.month ≤ through) &&
  (r.toAccountId.any fun a => (db.accounts.lookup a).isSome) &&
  (db.receipts.lookup r.id).any fun receipt =>
    decide (receipt.expectedMonth = some month) &&
    (decide (receipt.treatment = .salary) || decide (receipt.treatment = .legacy))

/-- The rows `matched_receipts` selects, in the order of date and id. -/
def matchedRows (db : Database) (month through : Month) : List LedgerRow :=
  (db.rows.filter (isMatched db month through)).insertionSort fun a b =>
    a.effectiveDate < b.effectiveDate ∨ (a.effectiveDate = b.effectiveDate ∧ a.id ≤ b.id)

/-- One selected row as a receipt. -/
def matchedReceipt (db : Database) (amount : Decimal) (currency : Currency) (plannedEur : Decimal)
    (r : LedgerRow) : Except String MatchedReceipt := do
  let actualEur ← Except.fromOption r.toEur "unexpected null"
  let native ← receiptNative db r actualEur amount currency plannedEur
  let treatment := ((db.receipts.lookup r.id).map (·.treatment)).getD .salary
  return ⟨r.effectiveDate, treatment, actualEur, native⟩

def matchedReceipts (db : Database) (month through : Month) (amount : Decimal) (currency : Currency)
    (plannedEur : Decimal) : Except String (List MatchedReceipt) :=
  (matchedRows db month through).mapM (matchedReceipt db amount currency plannedEur)

/-- The part of the EUR plan that a native amount funds. -/
def fundingPortion (native amount eur : Decimal) : Except String Decimal :=
  if amount = 0 then .ok 0 else proportional native eur amount

/-- `income`: an expectation with what was received for it by the end of `through`. -/
def income (db : Database) (month through : Month) : Except String (Option ExpectedIncome) :=
  match db.planIncome.lookup month with
  | none => .ok none
  | some row => do
    let receipts ← matchedReceipts db month through row.amount row.currency row.amountEur
    let received := (receipts.map (·.actualEur)).sum
    let receivedAmount := (receipts.map (·.native)).sum
    let outstanding ← (if row.completedMonth.any (· ≤ through) then .ok 0
      else fundingPortion (row.amount - receivedAmount).positive row.amount row.amountEur)
    return some ⟨month, row.amount, row.currency, row.amountEur, received, receivedAmount,
      outstanding, row.arrivalDay, row.completedMonth⟩

/-! ## Receipts -/

/-- `receipt`: record how an income is treated. Only current-month salary is matched automatically. -/
def receipt (db : Database) (id : TransactionId) (treatment : Option Treatment)
    (expected : Option Month) : Except String Database :=
  match db.start with
  | none => .ok db
  | some start => do
    let t ← Except.fromOption (db.transactions.lookup id) "no rows returned"
    if t.kind ≠ .income then do
      Except.ensure (treatment.isNone ∧ expected.isNone)
        "Income options require an income transaction."
      match db.receipts.lookup id with
      | some old =>
        if old.treatment ≠ .legacy then return { db with receipts := db.receipts.erase id }
        else return db
      | none => return db
    else if treatment.isNone && expected.isNone && (db.receipts.lookup id).isSome then
      -- options left out keep the recorded treatment
      return db
    else
      match treatment.getD .salary with
      | .salary => do
        let target := expected.getD t.month
        Except.ensure (target ≤ t.month ∧ start ≤ target)
          "Choose an existing expected-income month on or before the receipt month."
        let db ← ensureIncome db target
        let expectation ← income db target t.month
        let expectation ← Except.fromOption expectation "Expected income unavailable"
        let sameMatch := db.receipts.lookup id = some ⟨.salary, some target⟩
        Except.ensure (expectation.completedMonth = none ∨ sameMatch)
          "This expectation is already complete; record extra income as unexpected income."
        return { db with receipts := db.receipts.insert id ⟨.salary, some target⟩ }
      | .legacy => .error "Choose salary, unexpected income, or refund."
      | other => do
        Except.ensure expected.isNone "Only salary can settle expected income."
        return { db with receipts := db.receipts.insert id ⟨other, none⟩ }

/-! ## Movements -/

/-- `movement`: append the difference to the wanted effect. The insert trigger of `0014` aborts in a
closed month. -/
def movement (operation : Option OperationId) (db : Database) (target : Source × Decimal) :
    Except String Database :=
  if target.2 - Journal.balance db.movements target.1 = 0 then .ok db
  else if db.isClosed target.1.month then .error "budget month is closed"
  else .ok { db with
    movements := Journal.settle db.movements target.1 target.2 operation }

/-- Several movements in a row. -/
def post (operation : Option OperationId) (db : Database) (targets : List (Source × Decimal)) :
    Except String Database :=
  targets.foldlM (movement operation) db

def fundingSource (month : Month) : Source := ⟨month, UNALLOCATED, .funding, .expected month⟩

def allocationSource (month : Month) (category : CategoryId) : Source :=
  ⟨month, category, .allocation, .allocation month category⟩

def allocationsSource (month : Month) : Source :=
  ⟨month, UNALLOCATED, .allocation, .allocations month⟩

def correctionSource (month : Month) (item : OperationId × CategoryId × Decimal) : Source :=
  ⟨month, item.2.1, .correction, .correction item.1 item.2.1⟩

/-- Excess over the expectation of `expected`, received in `month`. -/
def excessSource (month expected : Month) : Source := ⟨month, UNALLOCATED, .income, .excess expected⟩

/-- Settlement of the expectation of `expected`, completed in `month`. -/
def settlementSource (month expected : Month) : Source :=
  ⟨month, UNALLOCATED, .settlement, .complete expected⟩

/-- The allocation of every category in a month. -/
def monthAllocations (db : Database) (month : Month) : Except String (List (CategoryId × Decimal)) :=
  (budgetCategories db).mapM fun c =>
    (Except.fromOption (monthlyAllocation db c.1 month) "Missing allocation").map fun amount =>
      (c.1, amount)

/-! ## Transactions -/

/-- A running map of wanted effects. -/
abbrev Wanted := Table Source Decimal

/-- One side of a transaction (`budget_ledger.rs:527-553`). -/
def sideEffect (db : Database) (r : LedgerRow) (category : Option CategoryId) (eur : Option Decimal)
    (incoming : Bool) (wanted : Wanted) : Except String Wanted :=
  match category.filter db.isRealCategory with
  | none => .ok wanted
  | some category => do
    let amount ← (if r.kind = .reallocate then .ok r.amountDecimal.unsigned
      else Except.fromOption eur "Missing category valuation")
    let kind := if r.kind = .reallocate then MovementKind.reallocation else .spending
    return addDelta wanted ⟨r.month, category, kind, .transaction r.id⟩
      (if incoming then amount else -amount)

/-- The wanted effects of one transaction. Transfers and reconciliations have none; income funds
Unallocated when it is unexpected, settles an expectation when it is salary, and restores its
category when it is a refund or predates the ledger. -/
def transactionEffect (db : Database) (wanted : Wanted) (r : LedgerRow) : Except String Wanted :=
  if r.kind = .transfer ∨ r.kind = .reconciliation then .ok wanted
  else
    let treatment := (db.receipts.lookup r.id).map (·.treatment)
    if r.kind = .income ∧ treatment ≠ some .refund ∧ treatment ≠ some .legacy then
      if treatment = some .unexpected ∨ treatment = none then
        (Except.fromOption r.toEur "Missing income valuation").map fun amount =>
          wanted.insert ⟨r.month, UNALLOCATED, .income, .transaction r.id⟩ amount
      else .ok wanted
    else do
      let wanted ← sideEffect db r r.fromCategoryId r.fromEur false wanted
      sideEffect db r r.toCategoryId r.toEur true wanted

/-- Is the movement booked by a transaction of the month? `source_key LIKE 'transaction:%'`. -/
def isTransactionSource (month : Month) (s : Source) : Bool :=
  decide (s.month = month) && match s.key with
    | .transaction _ => true
    | _ => false

/-- The wanted effects of a month's transactions, and `0` for every transaction that was booked in
the month before and has no effect any more. -/
def transactionTargets (db : Database) (month : Month) : Except String (List (Source × Decimal)) := do
  let wanted ← (db.rows.filter fun r => r.month = month).foldlM (transactionEffect db) ∅
  let booked := ((db.movements.map (·.key)).filter (isTransactionSource month)).dedup
  let gone := booked.filter fun s => (wanted.lookup s).isNone
  return wanted.entries.map (fun e => (e.1, e.2)) ++ gone.map fun s => (s, 0)

def syncTransactions (operation : Option OperationId) (db : Database) (month : Month) :
    Except String Database := do
  let targets ← transactionTargets db month
  post operation db targets

/-! ## Excess and settlement -/

/-- Walk the receipts in order; what a receipt brings beyond the part of the plan it covers is
excess of the month it is received in. Legacy receipts count towards the plan only. -/
def excessStep (plan eur : Decimal) (acc : Decimal × Table Month Decimal) (r : MatchedReceipt) :
    Except String (Decimal × Table Month Decimal) := do
  let before := plan - (plan - acc.1).positive
  let received := acc.1 + r.native
  let after := plan - (plan - received).positive
  let coveredAfter ← fundingPortion after plan eur
  let coveredBefore ← fundingPortion before plan eur
  let difference := r.actualEur - (coveredAfter - coveredBefore)
  return (received,
    if r.treatment = .legacy then acc.2 else addDelta acc.2 r.date.month difference)

/-- The excess wanted in each month. -/
def excessWanted (plan eur : Decimal) (receipts : List MatchedReceipt) :
    Except String (Table Month Decimal) :=
  (receipts.foldlM (excessStep plan eur) (0, ∅)).map (·.2)

/-- A completed expectation gives up its shortfall in the month of the completion. -/
def settlementTargets (row : PlanIncome) (month : Month) : Except String (List (Source × Decimal)) :=
  match row.completedMonth with
  | none => .ok []
  | some m => do
    let shortfall ← Except.fromOption row.completionShortfallEur "Missing completion amount"
    return [(settlementSource m month, 0 - shortfall)]

/-- The targets of one expectation, closed months left out. -/
def expectationTargets (db : Database) (current month : Month) :
    Except String (List (Source × Decimal)) := do
  let row ← Except.fromOption (db.planIncome.lookup month) "no rows returned"
  let receipts ← matchedReceipts db month current row.amount row.currency row.amountEur
  let wanted ← excessWanted row.amount row.amountEur receipts
  let booked := ((db.movements.filter fun e => e.key.key = .excess month).map (·.key.month)).dedup
  let gone := booked.filter fun m => (wanted.lookup m).isNone
  let excess := wanted.entries.map (fun e => (excessSource e.1 month, e.2)) ++
    gone.map fun m => (excessSource m month, 0)
  let settlement ← settlementTargets row month
  return (excess ++ settlement).filter fun t => db.isClosed t.1.month = false

/-! ## Sync -/

/-- One turn of the month walk. -/
def syncMonth (operation : Option OperationId) (db : Database) (cursor : Month) :
    Except String Database :=
  if db.isClosed cursor then .ok db
  else do
    let db ← ensureIncome db cursor
    let plan ← Except.fromOption (db.planIncome.lookup cursor) "no rows returned"
    let db ← movement operation db (fundingSource cursor, plan.amountEur)
    let allocations ← monthAllocations db cursor
    let db ← post operation db (allocations.map fun a => (allocationSource cursor a.1, a.2))
    let db ← movement operation db (allocationsSource cursor, 0 - (allocations.map (·.2)).sum)
    let db ← syncTransactions operation db cursor
    post operation db ((correctionItems db cursor).map fun i => (correctionSource cursor i, 0 - i.2.2))

/-- Settle one expectation. -/
def syncExpectation (current : Month) (operation : Option OperationId) (db : Database)
    (month : Month) : Except String Database := do
  let targets ← expectationTargets db current month
  post operation db targets

/-- `SELECT month FROM budget_plan_income ORDER BY month`. -/
def plannedMonths (db : Database) : List Month := db.planIncome.keys.insertionSort (· ≤ ·)

/-- `sync`: bring every open month from the ledger start to the current one up to the facts. -/
def sync (db : Database) (today : Date) (operation : Option OperationId) : Except String Database :=
  match db.start with
  | none => .ok db
  | some first => do
    let db ← (Month.through first today.month).foldlM (syncMonth operation) db
    (plannedMonths db).foldlM (syncExpectation today.month operation) db

/-! ## Reading Unallocated -/

def movementKinds : List MovementKind :=
  [.funding, .allocation, .income, .spending, .reallocation, .correction, .settlement]

/-- Has any funding of Unallocated been recorded in the month? -/
def hasFunding (db : Database) (month : Month) : Bool :=
  db.movements.any fun e =>
    e.key.month = month ∧ e.key.category = UNALLOCATED ∧ e.key.kind = .funding

/-- The Unallocated components of an open month (`budget_ledger.rs:606-648`). A month without a
recorded funding movement is forecast from the recurring setting. -/
def unallocatedComponents (db : Database) (month : BudgetMonthSnapshot) :
    Except String (MovementKind → Decimal) :=
  if hasFunding db month.month then .ok (movementTotal db month.month UNALLOCATED)
  else do
    let eur ← settingEur db month.month
    let allocated ← month.categories.mapM fun c =>
      Except.fromOption c.monthlyEur "Missing allocation"
    return fun kind => match kind with
      | .funding => eur
      | .allocation => 0 - allocated.sum
      | kind => movementTotal db month.month UNALLOCATED kind

/-- The category entry of the Unallocated bucket. -/
def unallocatedSnapshot (carry delta reallocation : Decimal) : BudgetCategorySnapshot where
  categoryId := UNALLOCATED
  name := ⟨.unallocated, 0⟩
  monthlyEur := some 0
  expenseEur := some 0
  remainingEur := some (carry + delta)
  reallocationImpactEur := some (0 - reallocation)
  carryoverEur := some carry
  adjustmentEur := some delta
  availableEur := some (carry + delta)
  netSpendingEur := some 0
  correctionEur := some 0

/-- A closed month fixes the balance it was frozen with. -/
def frozenUnallocated (unallocated : Decimal) (categories : List BudgetCategorySnapshot) :
    Except String Decimal :=
  match categories.find? fun c => c.categoryId = UNALLOCATED with
  | some u => Except.fromOption u.remainingEur "Missing frozen Unallocated"
  | none => .ok unallocated

/-- `apply` over the months, carrying the Unallocated balance. -/
def applyFrom (db : Database) (first : Month) :
    Decimal → List BudgetMonthSnapshot → Except String (List BudgetMonthSnapshot)
  | _, [] => .ok []
  | unallocated, month :: months =>
    if month.month < first then do
      let rest ← applyFrom db first unallocated months
      return month :: rest
    else if month.status = .closed then do
      let unallocated ← frozenUnallocated unallocated month.categories
      let rest ← applyFrom db first unallocated months
      return month :: rest
    else do
      let components ← unallocatedComponents db month
      let delta := (movementKinds.map components).sum
      let entry := unallocatedSnapshot unallocated delta (components .reallocation)
      let rest ← applyFrom db first (unallocated + delta) months
      return { month with categories := month.categories ++ [entry] } :: rest

/-- `apply`. -/
def applyLedger (db : Database) (history : List BudgetMonthSnapshot) :
    Except String (List BudgetMonthSnapshot) :=
  match db.ledgerState with
  | none => .ok history
  | some state => applyFrom db state.startMonth state.openingUnallocatedEur history

/-- `history_at` (`budget.rs:115`). -/
def historyAt (db : Database) (through calendarMonth : Month) :
    Except String (List BudgetMonthSnapshot) := do
  let history ← calculate db through calendarMonth
  applyLedger db history

/-- `categories` (`budget.rs:361`). -/
def categories (db : Database) (today : Date) (month : Month) :
    Except String (List BudgetCategorySnapshot) := do
  let history ← historyAt db month today.month
  Except.fromOption ((history.find? fun m => m.month = month).map (·.categories))
    "Budget month unavailable"

/-! ## Cash and coverage -/

/-- Take one later transaction out of an account balance. -/
def undoRow (id : AccountId) (balance : Decimal) (r : LedgerRow) : Except String Decimal := do
  let balance ← (if r.fromAccountId = some id then
      (Except.fromOption r.fromNative "Missing account valuation").map (balance + ·)
    else .ok balance)
  if r.toAccountId = some id then
    (Except.fromOption r.toNative "Missing account valuation").map (balance - ·)
  else .ok balance

/-- The EUR value of an account as of a date. -/
def accountCash (db : Database) (date : Date) (account : AccountId × Account) :
    Except String Decimal := do
  let balance ← Except.fromOption account.2.currentNativeBalance "Missing cash account balance"
  let balance ← (db.rows.filter fun r => date < r.effectiveDate ∧
    (r.fromAccountId = some account.1 ∨ r.toAccountId = some account.1)).foldlM
      (undoRow account.1) balance
  accountBalanceEur balance (account.2.currency.getD .eur) date db.exchangeRates

/-- The real active accounts. -/
def cashAccounts (db : Database) : List (AccountId × Account) :=
  (db.accounts.entries.filter fun e => e.2.isReal && e.2.isActive).map fun e => (e.1, e.2)

/-- `cash`. -/
def cash (db : Database) (date : Date) : Except String Decimal := do
  let values ← (cashAccounts db).mapM (accountCash db date)
  return values.sum

/-- `coverage`: is the assigned budget backed by cash? -/
def coverage (db : Database) (today : Date) (month : Month)
    (categories : List BudgetCategorySnapshot) : Except String (Option Coverage) :=
  if inLedger db month then
    match db.coverageClosures.lookup month with
    | some frozen => .ok (some { frozen with frozen := true })
    | none => do
      let date := if month = today.month then today else month.lastDate
      let actual ← cash db date
      let remaining ← categories.mapM fun c =>
        (Except.fromOption c.remainingEur "Missing remaining category budget").map fun r =>
          (c.categoryId, r)
      let assigned := ((remaining.filter fun c => c.1 ≠ UNALLOCATED).map (·.2)).sum
      let unallocated :=
        (((remaining.filter fun c => c.1 = UNALLOCATED).map (·.2)).getLast?).getD 0
      let expectations ← ((plannedMonths db).filter (· ≤ month)).mapM fun m => do
        let i ← income db m month
        Except.fromOption i "Missing expectation"
      let outstanding := (expectations.map (·.outstandingEur)).sum
      let gap := actual - assigned
      return some ⟨actual, assigned, unallocated, outstanding, gap, gap + outstanding,
        expectations, false⟩
  else .ok none

/-! ## Activation -/

/-- `activate`: start the ledger in the current month, keeping the results of every category. -/
def activate (db : Database) (today : Date) : Except String Database :=
  if db.start.isSome ∨ firstMonth db = none then .ok db
  else do
    let month := today.month
    let categories ← categories db today month
    let remaining ← categories.mapM fun c =>
      Except.fromOption c.remainingEur "Missing category opening"
    let allocations ← categories.mapM fun c => Except.fromOption c.monthlyEur "Missing allocation"
    let cash ← cash db today
    Except.ensure ((db.categories.lookup UNALLOCATED).isNone ∧
      ¬ db.categories.entries.any fun e => e.2.name = ⟨.unallocated, 0⟩) "UNIQUE constraint failed"
    let incomes := db.transactions.entries.filter fun e => e.2.kind = .income
    Except.ensure (incomes.all fun e => (db.receipts.lookup e.1).isNone) "UNIQUE constraint failed"
    let db := { db with
      categories := db.categories.insert UNALLOCATED ⟨⟨.unallocated, 0⟩, true, 1000000⟩
      receipts := incomes.foldl (fun t e => t.insert e.1 ⟨.legacy, none⟩) db.receipts
      ledgerState := some ⟨month, 0⟩ }
    let db ← ensureIncome db month
    -- receipts of the activation month count towards its expectation
    let current := incomes.filter fun e => e.2.month = month
    let db := { db with
      receipts := current.foldl (fun t e => t.insert e.1 ⟨.legacy, some month⟩) db.receipts }
    let expectation ← income db month month
    let expectation ← Except.fromOption expectation "Missing current expectation"
    let opening := cash - remaining.sum + expectation.outstandingEur
      - (expectation.amountEur - allocations.sum)
    sync { db with ledgerState := some ⟨month, opening⟩ } today none

end BudgetLedger
