import Presto.Server.Reconciliation
import Presto.Server.Months

/-!
# The server as a state machine

SQLite serialises the transactions (`BEGIN IMMEDIATE`), so a run is a list of calls, each applied
atomically: a call that fails leaves the database as it was. The Madrid date never goes back.

`Imported` describes the database `presto-admin import` leaves: account, category and transaction
facts, and none of the rows that only the server writes.
-/

namespace Server

open Budget BudgetLedger

/-- The operations that change the finance tables. -/
inductive Request
  | create (payload : WriteRequest)
  | edit (payload : EditRequest)
  | delete (payload : DeleteRequest)
  | reconcile (payload : ReconciliationRequest)
  | correct (payload : CorrectionRequest)
  | complete (payload : CompleteIncomeRequest)
  | close (payload : CloseRequest)
  | createCategory (payload : CreateCategoryRequest)
  | cancelBudget (payload : MonthlyBudgetRequest)
  | saveBudget (payload : MonthlyBudgetRequest)
  | saveExpectedIncome (payload : ExpectedIncomeRequest)
  | refresh
  | startup
deriving DecidableEq

/-- A request with its sender and the clock it meets. -/
structure Call where
  clock : Clock
  actor : Subject
  request : Request

/-- Answer one call. -/
def handle (db : Database) (call : Call) : Except ApiError (Database × Response) :=
  match call.request with
  | .create payload => createTransaction db call.clock call.actor payload
  | .edit payload => editTransaction db call.clock call.actor payload
  | .delete payload => deleteTransaction db call.clock call.actor payload
  | .reconcile payload => recordReconciliation db call.clock call.actor payload
  | .correct payload => recordCorrection db call.clock call.actor payload
  | .complete payload => completeIncome db call.clock call.actor payload
  | .close payload => closeMonth db call.clock call.actor payload
  | .createCategory payload => createCategory db call.clock call.actor payload
  | .cancelBudget payload => cancelMonthlyBudget db call.clock call.actor payload
  | .saveBudget payload => saveMonthlyBudget db call.clock call.actor payload
  | .saveExpectedIncome payload => saveExpectedIncome db call.clock call.actor payload
  | .refresh => refresh db call.clock
  | .startup => startup db call.clock

/-- The database after a call. -/
def step (db : Database) (call : Call) : Database :=
  match handle db call with
  | .ok (db', _) => db'
  | .error _ => db

/-- The database after a list of calls. -/
def run (db : Database) (calls : List Call) : Database := calls.foldl step db

/-- A database as the import leaves it on some day: dates and months are canonical text and not in the
future (`presto-admin.rs:1678`), rows refer to categories that exist, and nothing the server records
is there yet. -/
structure Imported (today : Date) (db : Database) : Prop where
  valid : today.Valid
  dates : ∀ id t, db.transactions.lookup id = some t →
    t.effectiveDate.Valid ∧ t.month ≤ today.month ∧ t.canonicalLive = false
  importMonths : ∀ m ∈ db.importMonths, m.Calendar ∧ m ≤ today.month
  snapshotMonths : ∀ c m s, db.snapshots.lookup (c, m) = some s →
    m.Calendar ∧ (db.categories.lookup c).isSome
  periodCategories : ∀ c m a, db.periods.lookup (c, m) = some a → (db.categories.lookup c).isSome
  openingCategories : ∀ c m a, db.openings.lookup (c, m) = some a → (db.categories.lookup c).isSome
  unallocated : db.categories.lookup UNALLOCATED = none
  operations : db.operations = ∅
  revisions : ∀ r ∈ db.revisions, r.operationId = none
  batches : db.batches = ∅
  closures : db.closures = ∅
  corrections : db.corrections = ∅
  incomeSettings : db.incomeSettings = ∅
  ledgerState : db.ledgerState = none
  planIncome : db.planIncome = ∅
  receipts : db.receipts = ∅
  movements : db.movements = []
  coverageClosures : db.coverageClosures = ∅

/-- `RunWhere P d db d' db'`: calls that all satisfy `P` lead from `db` on day `d` to `db'` on day
`d'`. -/
inductive RunWhere (P : Database → Call → Prop) : Date → Database → Date → Database → Prop
  | refl (d : Date) (db : Database) : RunWhere P d db d db
  | step {d : Date} {db : Database} {d' : Date} {db' : Database} (h : RunWhere P d db d' db')
      (call : Call) (valid : call.clock.today.Valid) (later : d' ≤ call.clock.today)
      (holds : P db' call) : RunWhere P d db call.clock.today (step db' call)

/-- Any run. -/
abbrev Run : Date → Database → Date → Database → Prop := RunWhere fun _ _ => True

/-- `db` is reached on day `today` by some run from an imported database. The quotes stand still;
`ReachableQuoted` lets them be backfilled between calls. -/
def Reachable (today : Date) (db : Database) : Prop :=
  ∃ d₀ db₀, Imported d₀ db₀ ∧ Run d₀ db₀ today db

namespace RunWhere

variable {P : Database → Call → Prop} {d d' : Date} {db db' : Database}

theorem le (h : RunWhere P d db d' db') : d ≤ d' := by
  induction h with
  | refl => exact le_rfl
  | step _ _ _ later _ ih => exact ih.trans later

theorem mono {Q : Database → Call → Prop} (hPQ : ∀ db call, P db call → Q db call)
    (h : RunWhere P d db d' db') : RunWhere Q d db d' db' := by
  induction h with
  | refl => exact .refl _ _
  | step _ call valid later holds ih => exact .step ih call valid later (hPQ _ _ holds)

theorem trans {d'' : Date} {db'' : Database} (h : RunWhere P d db d' db')
    (h' : RunWhere P d' db' d'' db'') : RunWhere P d db d'' db'' := by
  induction h' with
  | refl => exact h
  | step _ call valid later holds ih => exact .step ih call valid later holds

theorem valid (h : RunWhere P d db d' db') (hd : d.Valid) : d'.Valid := by
  cases h with
  | refl => exact hd
  | step _ _ valid _ _ => exact valid

/-- What holds at the start and is preserved by every step holds at the end. -/
theorem induct {I : Date → Database → Prop} (h : RunWhere P d db d' db') (start : I d db)
    (next : ∀ d₁ db₁ call, RunWhere P d db d₁ db₁ → call.clock.today.Valid →
      d₁ ≤ call.clock.today → P db₁ call → I d₁ db₁ → I call.clock.today (Server.step db₁ call)) :
    I d' db' := by
  induction h with
  | refl => exact start
  | step h call valid later holds ih => exact next _ _ call h valid later holds ih

end RunWhere

/-- The dates of a list of calls are valid and do not go back, from `d` on. -/
def Chronological : Date → List Call → Prop
  | _, [] => True
  | d, call :: calls =>
    call.clock.today.Valid ∧ d ≤ call.clock.today ∧ Chronological call.clock.today calls

instance : ∀ (d : Date) (calls : List Call), Decidable (Chronological d calls)
  | _, [] => inferInstanceAs (Decidable True)
  | d, call :: calls =>
    have := instDecidableChronological call.clock.today calls
    inferInstanceAs (Decidable (call.clock.today.Valid ∧ d ≤ call.clock.today ∧
      Chronological call.clock.today calls))

/-- The date of the last call. -/
def endDate : Date → List Call → Date
  | d, [] => d
  | _, call :: calls => endDate call.clock.today calls

/-- A chronological list of calls is a run. -/
theorem run_of_chronological {d₀ : Date} {db₀ : Database} {calls : List Call} :
    ∀ {d : Date} {db : Database}, Run d₀ db₀ d db → Chronological d calls →
      Run d₀ db₀ (endDate d calls) (run db calls) := by
  induction calls with
  | nil => intro d db h _; exact h
  | cons call calls ih =>
    intro d db h hc
    obtain ⟨hv, hle, hc⟩ := hc
    exact ih (.step h call hv hle trivial) hc

/-- Every call of the list satisfies `P` in the database it finds. -/
def AllHold (P : Database → Call → Prop) : Database → List Call → Prop
  | _, [] => True
  | db, call :: calls => P db call ∧ AllHold P (step db call) calls

instance {P : Database → Call → Prop} [∀ db call, Decidable (P db call)] :
    ∀ (db : Database) (calls : List Call), Decidable (AllHold P db calls)
  | _, [] => inferInstanceAs (Decidable True)
  | db, call :: calls =>
    have := instDecidableAllHold (P := P) (step db call) calls
    inferInstanceAs (Decidable (P db call ∧ AllHold P (step db call) calls))

theorem runWhere_of_chronological {P : Database → Call → Prop} {d₀ : Date} {db₀ : Database}
    {calls : List Call} : ∀ {d : Date} {db : Database}, RunWhere P d₀ db₀ d db →
      Chronological d calls → AllHold P db calls →
      RunWhere P d₀ db₀ (endDate d calls) (run db calls) := by
  induction calls with
  | nil => intro d db h _ _; exact h
  | cons call calls ih =>
    intro d db h hc hp
    obtain ⟨hv, hle, hc⟩ := hc
    exact ih (.step h call hv hle hp.1) hc hp.2

end Server
