import Presto.Changes

/-!
# What no change takes back

`Extends db db'` collects what every change keeps: recorded operations, batches, corrections and
closes stay; categories and accounts stay as configured; transactions, expectations and movements
of closed months stay as they are. Each change extends the database (`Change.toExtends`), so a
whole run does.
-/

namespace Server

open Budget BudgetLedger

/-- The part of an account that no operation changes. -/
structure AccountProfile where
  sourceName : Name
  currency : Option Currency
  isReal : Bool
  isActive : Bool
deriving DecidableEq

def accountProfile (a : Account) : AccountProfile :=
  ⟨a.sourceName, a.currency, a.isReal, a.isActive⟩

/-- Every row of `t` is in `t'`. -/
def Keeps {κ α : Type} [DecidableEq κ] (t t' : Table κ α) : Prop :=
  ∀ k x, t.lookup k = some x → t'.lookup k = some x

namespace Keeps

variable {κ α : Type} [DecidableEq κ] {t t' t'' : Table κ α}

theorem rfl : Keeps t t := fun _ _ h => h

theorem trans (h : Keeps t t') (h' : Keeps t' t'') : Keeps t t'' :=
  fun k x hk => h' k x (h k x hk)

theorem insert {k : κ} (h : t.lookup k = none) (x : α) : Keeps t (t.insert k x) := by
  intro k' y hk'
  rw [AList.lookup_insert_of, if_neg]
  · exact hk'
  · rintro rfl
    simp [h] at hk'

theorem isSome (h : Keeps t t') {k : κ} (hk : (t.lookup k).isSome) : (t'.lookup k).isSome := by
  obtain ⟨x, hx⟩ := Option.isSome_iff_exists.1 hk
  simp [h k x hx]

end Keeps

/-- An expectation is never dropped, is fixed once completed, and keeps its amounts when its month is
closed. -/
def KeepsPlans (db db' : Database) : Prop :=
  ∀ m p, db.planIncome.lookup m = some p → ∃ p', db'.planIncome.lookup m = some p' ∧
    (p.completedMonth ≠ none → p' = p) ∧
    (db.isClosed m = true → p'.amount = p.amount ∧ p'.currency = p.currency ∧
      p'.amountEur = p.amountEur)

/-- Only transactions of open months are written. -/
def KeepsClosedTransactions (db db' : Database) : Prop :=
  ∀ id t, db.isClosed t.month = true →
    (db.transactions.lookup id = some t ↔ db'.transactions.lookup id = some t)

/-- Movements are appended, and only in open months. -/
def AppendsMovements (db db' : Database) : Prop :=
  ∃ new, db'.movements = db.movements ++ new ∧ ∀ e ∈ new, db.isClosed e.key.month = false

/-- Imported snapshots are overwritten only when their month is closed. -/
def KeepsSnapshots (db db' : Database) : Prop :=
  ∀ c m, db'.snapshots.lookup (c, m) = db.snapshots.lookup (c, m) ∨
    (db.isClosed m = false ∧ db'.isClosed m = true ∧ ∀ f, firstMonth db = some f → f ≤ m)

structure Extends (db db' : Database) : Prop where
  importMonths : db'.importMonths = db.importMonths
  exchangeRates : db'.exchangeRates = db.exchangeRates
  accounts : ∀ id, (db'.accounts.lookup id).map accountProfile
    = (db.accounts.lookup id).map accountProfile
  categories : Keeps db.categories db'.categories
  operations : Keeps db.operations db'.operations
  batches : Keeps db.batches db'.batches
  corrections : Keeps db.corrections db'.corrections
  closures : Keeps db.closures db'.closures
  coverageClosures : ∀ m, db.isClosed m = true →
    db'.coverageClosures.lookup m = db.coverageClosures.lookup m
  openings : Keeps db.openings db'.openings
  ledgerState : ∀ s, db.ledgerState = some s → db'.ledgerState = some s
  planIncome : KeepsPlans db db'
  transactions : KeepsClosedTransactions db db'
  movements : AppendsMovements db db'
  snapshots : KeepsSnapshots db db'

namespace Extends

variable {db db' db'' : Database}

theorem firstMonth_eq (h : Extends db db') : firstMonth db' = firstMonth db := by
  unfold firstMonth
  rw [h.importMonths]

theorem isClosed (h : Extends db db') {m : Month} (hm : db.isClosed m = true) :
    db'.isClosed m = true :=
  h.closures.isSome hm

theorem open_of_open (h : Extends db db') {m : Month} (hm : db'.isClosed m = false) :
    db.isClosed m = false := by
  cases hc : db.isClosed m with
  | false => rfl
  | true => rw [h.isClosed hc] at hm; cases hm

theorem isRealCategory (h : Extends db db') {c : CategoryId} (hc : db.isRealCategory c = true) :
    db'.isRealCategory c = true := by
  unfold Database.isRealCategory at *
  cases hl : db.categories.lookup c with
  | none => simp [hl] at hc
  | some x => simpa [h.categories c x hl, hl] using hc

theorem start (h : Extends db db') {m : Month} (hm : db.start = some m) : db'.start = some m := by
  unfold Database.start at *
  obtain ⟨s, hs, rfl⟩ := Option.map_eq_some_iff.1 hm
  simp [h.ledgerState s hs]

theorem refl (db : Database) : Extends db db where
  importMonths := rfl
  exchangeRates := rfl
  accounts _ := rfl
  categories := .rfl
  operations := .rfl
  batches := .rfl
  corrections := .rfl
  closures := .rfl
  coverageClosures _ _ := rfl
  openings := .rfl
  ledgerState _ h := h
  planIncome _ p h := ⟨p, h, fun _ => rfl, fun _ => ⟨rfl, rfl, rfl⟩⟩
  transactions _ _ _ := Iff.rfl
  movements := ⟨[], by simp⟩
  snapshots _ _ := .inl rfl

theorem trans (h : Extends db db') (h' : Extends db' db'') : Extends db db'' where
  importMonths := h'.importMonths.trans h.importMonths
  exchangeRates := h'.exchangeRates.trans h.exchangeRates
  accounts id := (h'.accounts id).trans (h.accounts id)
  categories := h.categories.trans h'.categories
  operations := h.operations.trans h'.operations
  batches := h.batches.trans h'.batches
  corrections := h.corrections.trans h'.corrections
  closures := h.closures.trans h'.closures
  coverageClosures m hm := (h'.coverageClosures m (h.isClosed hm)).trans (h.coverageClosures m hm)
  openings := h.openings.trans h'.openings
  ledgerState s hs := h'.ledgerState s (h.ledgerState s hs)
  planIncome := by
    intro m p hp
    obtain ⟨p₁, hp₁, hc₁, ha₁⟩ := h.planIncome m p hp
    obtain ⟨p₂, hp₂, hc₂, ha₂⟩ := h'.planIncome m p₁ hp₁
    refine ⟨p₂, hp₂, fun hc => ?_, fun hc => ?_⟩
    · have h1 := hc₁ hc
      rw [hc₂ (h1 ▸ hc), h1]
    · obtain ⟨a1, b1, c1⟩ := ha₁ hc
      obtain ⟨a2, b2, c2⟩ := ha₂ (h.isClosed hc)
      exact ⟨a2.trans a1, b2.trans b1, c2.trans c1⟩
  transactions id t ht :=
    (h.transactions id t ht).trans (h'.transactions id t (h.isClosed ht))
  movements := by
    obtain ⟨n, hn, ho⟩ := h.movements
    obtain ⟨n', hn', ho'⟩ := h'.movements
    refine ⟨n ++ n', by rw [hn', hn, List.append_assoc], fun e he => ?_⟩
    rcases List.mem_append.1 he with he | he
    · exact ho e he
    · exact h.open_of_open (ho' e he)
  snapshots := by
    intro c m
    rcases h'.snapshots c m with h2 | ⟨ho, hc, hf⟩
    · rcases h.snapshots c m with h1 | ⟨ho, hc, hf⟩
      · exact .inl (h2.trans h1)
      · exact .inr ⟨ho, h'.isClosed hc, hf⟩
    · exact .inr ⟨h.open_of_open ho, hc, fun f hff => hf f (by rw [h.firstMonth_eq, hff])⟩

end Extends

theorem AppendsMovements.settle {db db' : Database} {target : Source × Decimal}
    {operation : Option OperationId} (hopen : db.isClosed target.1.month = false)
    (h : db'.movements = Journal.settle db.movements target.1 target.2 operation) :
    AppendsMovements db db' := by
  unfold AppendsMovements
  rw [h, Journal.settle]
  split
  · exact ⟨[], by simp⟩
  · exact ⟨_, rfl, by simpa using hopen⟩

/-- A month that is open stays out of the closed ones when rows of it are written. -/
theorem KeepsClosedTransactions.insert {db : Database} {id : TransactionId} {t : Transaction}
    (hopen : db.isClosed t.month = false)
    (hold : ∀ o, db.transactions.lookup id = some o → db.isClosed o.month = false) :
    ∀ id' t', db.isClosed t'.month = true → (db.transactions.lookup id' = some t' ↔
      (db.transactions.insert id t).lookup id' = some t') := by
  intro id' t' hc
  rw [AList.lookup_insert_of]
  split
  · subst_vars
    constructor
    · intro h; rw [hold t' h] at hc; cases hc
    · intro h; cases h; rw [hopen] at hc; cases hc
  · exact Iff.rfl

theorem KeepsClosedTransactions.erase {db : Database} {id : TransactionId} {old : Transaction}
    (hold : db.transactions.lookup id = some old) (hopen : db.isClosed old.month = false) :
    ∀ id' t', db.isClosed t'.month = true → (db.transactions.lookup id' = some t' ↔
      (db.transactions.erase id).lookup id' = some t') := by
  intro id' t' hc
  rw [AList.lookup_erase_of]
  split
  · subst_vars
    constructor
    · intro h
      rw [hold] at h
      cases h
      rw [hopen] at hc
      cases hc
    · intro h; cases h
  · exact Iff.rfl

theorem KeepsPlans.insert {db db' : Database} {m : Month} {p q : PlanIncome}
    (hp : db.planIncome.lookup m = some p) (h : db'.planIncome = db.planIncome.insert m q)
    (hcompleted : p.completedMonth = none)
    (hclosed : db.isClosed m = true → q.amount = p.amount ∧ q.currency = p.currency ∧
      q.amountEur = p.amountEur) : KeepsPlans db db' := by
  intro m' p' hp'
  rw [h, AList.lookup_insert_of]
  by_cases hm : m' = m
  · subst hm
    obtain rfl : p = p' := Option.some.inj (hp.symm.trans hp')
    exact ⟨q, if_pos rfl, fun hc => absurd hcompleted hc, hclosed⟩
  · exact ⟨p', by rw [if_neg hm, hp'], fun _ => rfl, fun _ => ⟨rfl, rfl, rfl⟩⟩

theorem KeepsPlans.insert_new {db db' : Database} {m : Month} {q : PlanIncome}
    (hm : db.planIncome.lookup m = none) (h : db'.planIncome = db.planIncome.insert m q) :
    KeepsPlans db db' := by
  intro m' p' hp'
  exact ⟨p', h ▸ Keeps.insert hm q m' p' hp', fun _ => rfl, fun _ => ⟨rfl, rfl, rfl⟩⟩

theorem lookup_accountProfile {db : Database} {id : AccountId} {a b : Account}
    (ha : db.accounts.lookup id = some a) (hab : accountProfile b = accountProfile a)
    (id' : AccountId) : ((db.accounts.insert id b).lookup id').map accountProfile
      = (db.accounts.lookup id').map accountProfile := by
  rw [AList.lookup_insert_of]
  split
  · subst_vars; simp [ha, hab]
  · rfl

theorem lookup_freezeSnapshots {m m' : Month} {c : CategoryId} (hm : m' ≠ m)
    {cs : List BudgetCategorySnapshot} : ∀ {t : Table (CategoryId × Month) MonthSnapshot},
      (freezeSnapshots m t cs).lookup (c, m') = t.lookup (c, m') := by
  induction cs with
  | nil => intro t; rfl
  | cons x xs ih =>
    intro t
    show (freezeSnapshots m _ xs).lookup (c, m') = _
    rw [ih, AList.lookup_insert_of, if_neg (by simp [hm])]

theorem lookup_freezeSnapshots_isSome {m m' : Month} {c : CategoryId}
    {cs : List BudgetCategorySnapshot} : ∀ {t : Table (CategoryId × Month) MonthSnapshot},
      ((freezeSnapshots m t cs).lookup (c, m')).isSome = true →
        (t.lookup (c, m')).isSome = true ∨ (m' = m ∧ ∃ x ∈ cs, x.categoryId = c) := by
  induction cs with
  | nil => intro t h; exact .inl h
  | cons x xs ih =>
    intro t h
    rcases ih h with h | ⟨hm, y, hy, hc⟩
    · rw [AList.lookup_insert_of] at h
      split at h
      · rename_i heq
        simp only [Prod.mk.injEq] at heq
        exact .inr ⟨heq.2, x, List.mem_cons_self, heq.1.symm⟩
      · exact .inl h
    · exact .inr ⟨hm, y, List.mem_cons_of_mem _ hy, hc⟩

/-- **Every change extends the database.** -/
theorem Change.toExtends {today : Date} {db db' : Database} (h : Change today db db') :
    Extends db db' := by
  cases h with
  | seedOpening _ _ _ _ hnew => exact { Extends.refl db with openings := .insert hnew _ }
  | ensurePlan _ _ _ hnew _ =>
    exact { Extends.refl db with planIncome := KeepsPlans.insert_new hnew rfl }
  | move _ _ hopen _ _ => exact { Extends.refl db with movements := AppendsMovements.settle hopen rfl }
  | insertTransaction _ hnew hopen _ _ =>
    exact { Extends.refl db with
      transactions := KeepsClosedTransactions.insert hopen.notClosed (by simp [hnew]) }
  | updateTransaction hold _ _ hmonth hopen _ _ =>
    refine { Extends.refl db with
      transactions := KeepsClosedTransactions.insert hopen.notClosed fun o ho => ?_ }
    rw [hold] at ho
    cases ho
    exact hmonth ▸ hopen.notClosed
  | addRevision _ _ _ => exact { Extends.refl db with }
  | eraseTransaction hold _ _ hopen =>
    exact { Extends.refl db with transactions := KeepsClosedTransactions.erase hold hopen.notClosed }
  | adjust _ _ _ hold _ hsame _ _ hclosed haccount _ _ =>
    refine { Extends.refl db with
      accounts := lookup_accountProfile haccount rfl
      transactions := KeepsClosedTransactions.insert hclosed fun o ho => ?_ }
    have hdate := (hsame o (hold.symm.trans ho)).2.1
    unfold Transaction.month at *
    rw [hdate]
    exact hclosed
  | postAccount _ _ haccount _ _ =>
    exact { Extends.refl db with accounts := lookup_accountProfile haccount rfl }
  | setReceipt _ _ _ _ _ _ => exact { Extends.refl db with }
  | dropReceipt _ _ _ _ _ => exact { Extends.refl db with }
  | addBatch _ _ hnew => exact { Extends.refl db with batches := .insert hnew _ }
  | addCorrection _ _ hnew _ _ _ _ => exact { Extends.refl db with corrections := .insert hnew _ }
  | addCategory hnew _ _ _ _ hopenings _ _ =>
    exact { Extends.refl db with
      categories := .insert hnew _
      openings := .insert (hopenings _) _ }
  | setPeriods _ _ _ => exact { Extends.refl db with }
  | setIncome _ _ => exact { Extends.refl db with }
  | refreshPlan hp _ hcompleted hclosed _ =>
    refine { Extends.refl db with planIncome := KeepsPlans.insert hp rfl hcompleted fun hc => ?_ }
    rw [hclosed] at hc
    cases hc
  | completePlan _ hp hcompleted _ _ _ =>
    exact { Extends.refl db with
      planIncome := KeepsPlans.insert hp rfl hcompleted fun _ => ⟨rfl, rfl, rfl⟩ }
  | startLedger hstart _ hnew _ _ hplan =>
    exact { Extends.refl db with
      categories := .insert hnew _
      planIncome := KeepsPlans.insert_new hplan rfl
      ledgerState := fun s hs => by simp [hstart] at hs }
  | @close m _ cs cov operation _ hclosed hfirst hle _ _ _ _ _ =>
    have hnone : db.closures.lookup m = none := by
      unfold Database.isClosed at hclosed
      simpa using hclosed
    refine { Extends.refl db with
      closures := .insert hnone _
      coverageClosures := fun m' hm' => ?_
      snapshots := fun c m' => ?_ }
    · cases cov with
      | none => rfl
      | some c =>
        have hne : m' ≠ m := by
          rintro rfl
          rw [hclosed] at hm'
          cases hm'
        exact (AList.lookup_insert_of _ _ _ _).trans (if_neg hne)
    · by_cases hm : m' = m
      · subst hm
        refine .inr ⟨hclosed, by simp [Database.isClosed], fun f hf => ?_⟩
        rw [hfirst] at hf
        cases hf
        exact hle
      · exact .inl (lookup_freezeSnapshots hm)
  | record _ _ _ hnew => exact { Extends.refl db with operations := .insert hnew _ }

namespace Changes

variable {today : Date} {db db' db'' : Database}

theorem toExtends (h : Changes today db db') : Extends db db' := by
  induction h with
  | refl => exact .refl db
  | tail _ hc ih => exact ih.trans hc.toExtends

end Changes

end Server
