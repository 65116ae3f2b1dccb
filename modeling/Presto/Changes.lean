import Presto.Server
import Mathlib.Logic.Relation

/-!
# What the server can do to its tables

Every call is a sequence of **changes**: single writes together with what was checked before them.
Each handler is taken apart into changes once (`handle_changes`); what every change preserves, every
run preserves.
-/

namespace Server

open Budget BudgetLedger

/-- The sources a movement can have: the kind and category that belong to a source key, and the row
the key refers to. -/
def WellSourced (db : Database) (s : Source) : Prop :=
  s.month.Calendar ∧
  match s.kind, s.key with
  | .funding, .expected m => m = s.month ∧ s.category = UNALLOCATED
  | .allocation, .allocation m c =>
    m = s.month ∧ c = s.category ∧ c ≠ UNALLOCATED ∧ db.isRealCategory c = true
  | .allocation, .allocations m => m = s.month ∧ s.category = UNALLOCATED
  | .income, .transaction _ => s.category = UNALLOCATED
  | .spending, .transaction _ => db.isRealCategory s.category = true
  | .reallocation, .transaction _ => db.isRealCategory s.category = true
  | .correction, .correction op c =>
    c = s.category ∧ ∃ r, db.corrections.lookup op = some r ∧ r.appliedMonth = s.month ∧
      ∃ i ∈ r.items, i.1 = c
  | .income, .excess m => s.category = UNALLOCATED ∧ (db.planIncome.lookup m).isSome
  | .settlement, .complete m => s.category = UNALLOCATED ∧
    ∃ p, db.planIncome.lookup m = some p ∧ p.completedMonth = some s.month
  | _, _ => False

/-- A month that accepts entries: `require_open` succeeds. -/
structure IsOpen (db : Database) (today : Date) (m : Month) : Prop where
  calendar : m.Calendar
  first : ∃ f, firstMonth db = some f ∧ f ≤ m
  reached : m ≤ today.month
  notClosed : db.isClosed m = false

/-- A valuation without missing amounts. -/
def Full (v : ValuationRevision) : Prop :=
  v.fromSide.amountNative.isSome = true ∧ v.fromSide.amountEur.isSome = true ∧
    v.toSide.amountNative.isSome = true ∧ v.toSide.amountEur.isSome = true

/-- A row as create and edit write it: the normalised payload, its resolved sides and a complete
valuation. -/
def Written (db : Database) (t : Transaction) : Prop :=
  ∃ p w r occurredAt revision valuations, normalize p = .ok w ∧ resolveWrite db w = .ok r ∧
    t = writtenTransaction w r occurredAt revision valuations ∧
    ∃ v, valuations.head? = some v ∧ Full v

/-- The expectation row that a setting materialises. -/
def newPlan (setting : IncomeSetting) (eur : Decimal) : PlanIncome :=
  ⟨setting.amount, setting.currency, eur, setting.arrivalDay, none, none, none⟩

/-- One write on day `today`. -/
inductive Change (today : Date) : Database → Database → Prop
  | seedOpening {db : Database} {first : Month} {c : CategoryId} {s : MonthSnapshot} {b : Decimal}
      (hfirst : firstMonth db = some first) (hreal : db.isRealCategory c = true)
      (hs : db.snapshots.lookup (c, first.previous) = some s) (hb : s.remainingEur = some b)
      (hnew : db.openings.lookup (c, first) = none) :
      Change today db { db with openings := db.openings.insert (c, first) b }
  | ensurePlan {db : Database} {start m : Month} {eur : Decimal} (hstart : db.start = some start)
      (hle : start ≤ m) (hreached : m ≤ today.month) (hnew : db.planIncome.lookup m = none)
      (heur : settingEur db m = .ok eur) :
      Change today db
        { db with planIncome := db.planIncome.insert m (newPlan (incomeSetting db m) eur) }
  | move {db : Database} {target : Source × Decimal} (operation : Option OperationId)
      (hstart : db.start.isSome = true) (hopen : db.isClosed target.1.month = false)
      (hreached : target.1.month ≤ today.month) (hsource : WellSourced db target.1) :
      Change today db
        { db with movements := Journal.settle db.movements target.1 target.2 operation }
  | insertTransaction {db : Database} {id : TransactionId} {t : Transaction}
      (operation : OperationId) (hnew : db.transactions.lookup id = none)
      (hopen : IsOpen db today t.month) (hdate : t.effectiveDate.Valid) (hw : Written db t) :
      Change today db { db with
        transactions := db.transactions.insert id t
        revisions := ⟨id, 1, some operation⟩ :: db.revisions }
  | updateTransaction {db : Database} {id : TransactionId} {old t : Transaction}
      (hold : db.transactions.lookup id = some old) (hlive : old.canonicalLive = true)
      (hkind : old.kind ≠ .reconciliation) (hmonth : t.month = old.month)
      (hopen : IsOpen db today t.month) (hdate : t.effectiveDate.Valid) (hw : Written db t) :
      Change today db { db with transactions := db.transactions.insert id t }
  | addRevision {db : Database} (id : TransactionId) (revision : Nat) (operation : OperationId) :
      Change today db
        { db with revisions := ⟨id, revision, some operation⟩ :: db.revisions }
  | eraseTransaction {db : Database} {id : TransactionId} {old : Transaction}
      (hold : db.transactions.lookup id = some old) (hlive : old.canonicalLive = true)
      (hkind : old.kind ≠ .reconciliation) (hopen : IsOpen db today old.month) :
      Change today db { db with
        transactions := db.transactions.erase id
        revisions := db.revisions.filter fun r => r.transactionId ≠ id }
  | adjust {db : Database} {id : TransactionId} {old : Option Transaction} {t : Transaction}
      {account : Account} (accountId : AccountId) (balance : Decimal) (operation : OperationId)
      (hold : db.transactions.lookup id = old) (hkind : t.kind = .reconciliation)
      (hsame : ∀ o, old = some o →
        o.kind = .reconciliation ∧ o.effectiveDate = t.effectiveDate ∧
          o.canonicalLive = t.canonicalLive)
      (hdate : t.effectiveDate.Valid) (hreached : t.month ≤ today.month)
      (hclosed : db.isClosed t.month = false)
      (haccount : db.accounts.lookup accountId = some account) (hreal : account.isReal = true)
      (hactive : account.isActive = true) :
      Change today db { db with
        transactions := db.transactions.insert id t
        revisions := ⟨id, t.revision, some operation⟩ :: db.revisions
        accounts := db.accounts.insert accountId { account with
          currentNativeBalance := some balance, ledgerRevision := account.ledgerRevision + 1 } }
  | postAccount {db : Database} {account : Account} (accountId : AccountId) (balance : Decimal)
      (haccount : db.accounts.lookup accountId = some account) (hreal : account.isReal = true)
      (hactive : account.isActive = true) :
      Change today db { db with
        accounts := db.accounts.insert accountId { account with
          currentNativeBalance := some balance, ledgerRevision := account.ledgerRevision + 1 } }
  | setReceipt {db : Database} {id : TransactionId} {t : Transaction} {r : IncomeReceipt}
      (ht : db.transactions.lookup id = some t) (hkind : t.kind = .income)
      (hopen : IsOpen db today t.month) (htreatment : r.treatment ≠ .legacy)
      (hstart : db.start.isSome)
      (hexpected : ∀ m, r.expectedMonth = some m → m ≤ t.month ∧ db.start.any (· ≤ m) ∧
        ∃ p, db.planIncome.lookup m = some p ∧
          (p.completedMonth = none ∨ db.receipts.lookup id = some r)) :
      Change today db { db with receipts := db.receipts.insert id r }
  | dropReceipt {db : Database} {id : TransactionId} {t : Transaction} {r : IncomeReceipt}
      (ht : db.transactions.lookup id = some t) (hkind : t.kind ≠ .income)
      (hopen : IsOpen db today t.month) (hr : db.receipts.lookup id = some r)
      (htreatment : r.treatment ≠ .legacy) :
      Change today db { db with receipts := db.receipts.erase id }
  | addBatch {db : Database} (operation : OperationId) (batch : ReconciliationBatch)
      (hnew : db.batches.lookup operation = none) :
      Change today db { db with batches := db.batches.insert operation batch }
  | addCorrection {db : Database} (operation : OperationId) (row : CategoryCorrection)
      (hnew : db.corrections.lookup operation = none) (hmonth : row.appliedMonth = today.month)
      (hopen : IsOpen db today today.month)
      (hitems : ∀ i ∈ row.items, db.isRealCategory i.1 = true)
      (hnodup : (row.items.map Prod.fst).Nodup) :
      Change today db { db with corrections := db.corrections.insert operation row }
  | addCategory {db : Database} {id : CategoryId} {c : Category} {first : Month} {amount : Decimal}
      (hnew : db.categories.lookup id = none) (hid : id ≠ UNALLOCATED) (hreal : c.isReal = true)
      (hfirst : firstMonth db = some first) (hopen : IsOpen db today today.month)
      (hopenings : ∀ m, db.openings.lookup (id, m) = none)
      (hperiods : ∀ m, db.periods.lookup (id, m) = none)
      (hsnapshots : ∀ m, db.snapshots.lookup (id, m) = none) :
      Change today db { db with
        categories := db.categories.insert id c
        openings := db.openings.insert (id, first) 0
        periods := (db.periods.insert (id, first) (some 0)).insert (id, today.month) (some amount) }
  | setPeriods {db : Database} (periods : Table (CategoryId × Month) (Option Decimal))
      (hsame : ∀ c m, m < today.month → periods.lookup (c, m) = db.periods.lookup (c, m))
      (hexist : ∀ c m, (periods.lookup (c, m)).isSome = true →
        (db.categories.lookup c).isSome = true) :
      Change today db { db with periods := periods }
  | setIncome {db : Database} {m : Month} (setting : IncomeSetting) (hm : today.month ≤ m) :
      Change today db { db with incomeSettings := db.incomeSettings.insert m setting }
  | refreshPlan {db : Database} {m : Month} {p : PlanIncome} {eur : Decimal}
      (hp : db.planIncome.lookup m = some p) (hm : today.month ≤ m)
      (hcompleted : p.completedMonth = none) (hclosed : db.isClosed m = false)
      (heur : settingEur db m = .ok eur) :
      Change today db { db with planIncome := db.planIncome.insert m { p with
        amount := (incomeSetting db m).amount
        currency := (incomeSetting db m).currency
        amountEur := eur
        arrivalDay := (incomeSetting db m).arrivalDay } }
  | completePlan {db : Database} {m : Month} {p : PlanIncome} {e : ExpectedIncome}
      (operation : OperationId) (hp : db.planIncome.lookup m = some p)
      (hcompleted : p.completedMonth = none) (hm : m ≤ today.month)
      (hopen : IsOpen db today today.month)
      (hincome : income db m today.month = .ok (some e)) :
      Change today db { db with planIncome := db.planIncome.insert m { p with
        completedMonth := some today.month
        completionShortfallEur := some e.outstandingEur
        completionOperationId := some operation } }
  | startLedger {db : Database} {receipts : Table TransactionId IncomeReceipt} {eur opening : Decimal}
      (hstart : db.ledgerState = none) (hfirst : (firstMonth db).isSome)
      (hnew : db.categories.lookup UNALLOCATED = none)
      (hreceipts : ∀ id, receipts.lookup id = match db.transactions.lookup id with
        | some t => if t.kind = .income then
            some ⟨.legacy, if t.month = today.month then some today.month else none⟩
          else db.receipts.lookup id
        | none => db.receipts.lookup id)
      (heur : settingEur db today.month = .ok eur) (hplan : db.planIncome.lookup today.month = none) :
      Change today db { db with
        categories := db.categories.insert UNALLOCATED ⟨⟨.unallocated, 0⟩, true, 1000000⟩
        receipts := receipts
        planIncome := db.planIncome.insert today.month (newPlan (incomeSetting db today.month) eur)
        ledgerState := some ⟨today.month, opening⟩ }
  | close {db : Database} {m first : Month} {cs : List BudgetCategorySnapshot}
      {cov : Option Coverage} (operation : OperationId) (hm : m < today.month)
      (hclosed : db.isClosed m = false) (hfirst : firstMonth db = some first) (hle : first ≤ m)
      (hcalendar : m.Calendar) (hbefore : ∀ m', m'.Calendar → first ≤ m' → m' < m → db.isClosed m')
      (hcategories : categories db today m = .ok cs)
      (hexist : ∀ c ∈ cs, (db.categories.lookup c.categoryId).isSome = true)
      (hcoverage : coverage { db with snapshots := freezeSnapshots m db.snapshots cs } today m cs
        = .ok cov) :
      Change today db { db with
        snapshots := freezeSnapshots m db.snapshots cs
        closures := db.closures.insert m ⟨operation, cs⟩
        coverageClosures := freezeCoverage m db.coverageClosures cov }
  | record {db : Database} {id : OperationId} (actor : Subject) (fingerprint : Fingerprint)
      (response : Response) (hnew : db.operations.lookup id = none) :
      Change today db (db.recordOperation id actor fingerprint response)

/-- A sequence of changes on one day. -/
abbrev Changes (today : Date) : Database → Database → Prop := Relation.ReflTransGen (Change today)

end Server
