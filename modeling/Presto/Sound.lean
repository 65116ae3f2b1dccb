import Presto.Extends

/-!
# Invariants of the tables

What holds of every reachable database, one definition for each table, and that every change keeps
it (`Change.sound`). The day only serves as an upper bound: no row is dated after the current month.
-/

namespace Server

open Budget BudgetLedger

/-- Transactions have valid dates, none after the current month. -/
def DatesSound (today : Date) (db : Database) : Prop :=
  ∀ id t, db.transactions.lookup id = some t → t.effectiveDate.Valid ∧ t.month ≤ today.month

def ImportsSound (today : Date) (db : Database) : Prop :=
  ∀ m ∈ db.importMonths, m.Calendar ∧ m ≤ today.month

/-- The ledger starts in a calendar month, at or after the first canonical one. -/
def StartSound (today : Date) (db : Database) : Prop :=
  ∀ m, db.start = some m → m.Calendar ∧ m ≤ today.month ∧ ∃ f, firstMonth db = some f ∧ f ≤ m

/-- The Unallocated bucket exists exactly while the ledger is active. -/
def UnallocatedSound (db : Database) : Prop :=
  (db.start.isSome = true → db.isRealCategory UNALLOCATED = true) ∧
  (db.start = none → db.categories.lookup UNALLOCATED = none)

/-- Every movement has a proper source, not after the current month. -/
def MovementsSound (today : Date) (db : Database) : Prop :=
  ∀ e ∈ db.movements, WellSourced db e.key ∧ e.key.month ≤ today.month

/-- A completed expectation has a shortfall and was completed by the current month. -/
def CompletionsSound (today : Date) (db : Database) : Prop :=
  ∀ m p, db.planIncome.lookup m = some p → ∀ c, p.completedMonth = some c →
    c.Calendar ∧ c ≤ today.month ∧ m ≤ c ∧ p.completionShortfallEur.isSome = true

/-- Expectations exist from the ledger start to the current month. -/
def PlansSound (today : Date) (db : Database) : Prop :=
  ∀ m, (db.planIncome.lookup m).isSome = true →
    m ≤ today.month ∧ ∃ s, db.start = some s ∧ s ≤ m

/-- A receipt is recorded while the ledger is active, for an expectation that exists. -/
def ReceiptsSound (db : Database) : Prop :=
  ∀ id r, db.receipts.lookup id = some r → db.start.isSome = true ∧
    ∀ m, r.expectedMonth = some m → (db.planIncome.lookup m).isSome = true

/-- Closed months are completed calendar months and an initial part of the months from the first. -/
def ClosuresSound (today : Date) (db : Database) : Prop :=
  ∀ m, db.isClosed m = true → m.Calendar ∧ m < today.month ∧
    ∃ f, firstMonth db = some f ∧ f ≤ m ∧
      ∀ m', m'.Calendar → f ≤ m' → m' < m → db.isClosed m' = true

/-- The items of a correction are real categories, each once. -/
def CorrectionsSound (today : Date) (db : Database) : Prop :=
  ∀ op r, db.corrections.lookup op = some r → r.appliedMonth.Calendar ∧
    r.appliedMonth ≤ today.month ∧ (r.items.map Prod.fst).Nodup ∧
    ∀ i ∈ r.items, db.isRealCategory i.1 = true

/-- Budget rows refer to categories that exist. -/
def CategoriesSound (db : Database) : Prop :=
  (∀ c m, (db.openings.lookup (c, m)).isSome = true → (db.categories.lookup c).isSome = true) ∧
  (∀ c m, (db.periods.lookup (c, m)).isSome = true → (db.categories.lookup c).isSome = true) ∧
  ∀ c m, (db.snapshots.lookup (c, m)).isSome = true →
    m.Calendar ∧ (db.categories.lookup c).isSome = true

structure Sound (today : Date) (db : Database) : Prop where
  valid : today.Valid
  dates : DatesSound today db
  imports : ImportsSound today db
  start : StartSound today db
  unallocated : UnallocatedSound db
  movements : MovementsSound today db
  completions : CompletionsSound today db
  plans : PlansSound today db
  receipts : ReceiptsSound db
  closures : ClosuresSound today db
  corrections : CorrectionsSound today db
  categories : CategoriesSound db

theorem Imported.sound {today : Date} {db : Database} (h : Imported today db) : Sound today db where
  valid := h.valid
  dates id t ht := ⟨(h.dates id t ht).1, (h.dates id t ht).2.1⟩
  imports := h.importMonths
  start m hm := by simp [Database.start, h.ledgerState] at hm
  unallocated := ⟨by simp [Database.start, h.ledgerState], fun _ => h.unallocated⟩
  movements := by simp [MovementsSound, h.movements]
  completions := by simp [CompletionsSound, h.planIncome]
  plans := by simp [PlansSound, h.planIncome]
  receipts := by simp [ReceiptsSound, h.receipts]
  closures := by simp [ClosuresSound, Database.isClosed, h.closures]
  corrections := by simp [CorrectionsSound, h.corrections]
  categories := by
    refine ⟨fun c m hm => ?_, fun c m hm => ?_, fun c m hm => ?_⟩
    all_goals obtain ⟨x, hx⟩ := Option.isSome_iff_exists.1 hm
    · exact h.openingCategories c m x hx
    · exact h.periodCategories c m x hx
    · exact h.snapshotMonths c m x hx

/-- Time passes. -/
theorem Sound.later {today today' : Date} {db : Database} (h : Sound today db) (hv : today'.Valid)
    (hle : today ≤ today') : Sound today' db where
  valid := hv
  dates id t ht := ⟨(h.dates id t ht).1, (h.dates id t ht).2.trans (Date.month_mono hle)⟩
  imports m hm := ⟨(h.imports m hm).1, (h.imports m hm).2.trans (Date.month_mono hle)⟩
  start m hm := by
    obtain ⟨hc, hl, hf⟩ := h.start m hm
    exact ⟨hc, hl.trans (Date.month_mono hle), hf⟩
  unallocated := h.unallocated
  movements e he := ⟨(h.movements e he).1, (h.movements e he).2.trans (Date.month_mono hle)⟩
  completions m p hp c hc := by
    obtain ⟨h1, h2, h3⟩ := h.completions m p hp c hc
    exact ⟨h1, h2.trans (Date.month_mono hle), h3⟩
  plans m hm := ⟨(h.plans m hm).1.trans (Date.month_mono hle), (h.plans m hm).2⟩
  receipts := h.receipts
  closures m hm := by
    obtain ⟨h1, h2, h3⟩ := h.closures m hm
    exact ⟨h1, h2.trans_le (Date.month_mono hle), h3⟩
  corrections op r hr := by
    obtain ⟨h1, h2, h3⟩ := h.corrections op r hr
    exact ⟨h1, h2.trans (Date.month_mono hle), h3⟩
  categories := h.categories

/-- A fold that keeps what it has, or takes the element it sees, ends with one of them. -/
theorem mem_of_foldl {α : Type} {step : Option α → α → Option α}
    (hstep : ∀ acc a b, step acc a = some b → acc = some b ∨ b = a) {l : List α} {acc : Option α}
    {b : α} (h : l.foldl step acc = some b) : acc = some b ∨ b ∈ l := by
  induction l generalizing acc with
  | nil => exact .inl h
  | cons a l ih =>
    rcases ih h with h | h
    · rcases hstep acc a b h with h | rfl
      · exact .inl h
      · exact .inr List.mem_cons_self
    · exact .inr (List.mem_cons_of_mem _ h)

theorem firstMonth_mem {db : Database} {f : Month} (h : firstMonth db = some f) :
    f ∈ db.importMonths := by
  refine (mem_of_foldl (fun acc a b hb => ?_) h).resolve_left (by simp)
  cases acc with
  | none => exact .inr (Option.some.inj hb).symm
  | some p =>
    simp only at hb
    split at hb
    · exact .inr (Option.some.inj hb).symm
    · exact .inl hb

/-- The source of a movement stays well formed. -/
theorem WellSourced.mono {db db' : Database} {s : Source} (hx : Extends db db')
    (h : WellSourced db s) : WellSourced db' s := by
  refine ⟨h.1, ?_⟩
  obtain ⟨-, h⟩ := h
  have hplan : ∀ m, (db.planIncome.lookup m).isSome = true →
      (db'.planIncome.lookup m).isSome = true := by
    intro m hm
    obtain ⟨p, hp⟩ := Option.isSome_iff_exists.1 hm
    obtain ⟨p', hp', _⟩ := hx.planIncome m p hp
    simp [hp']
  revert h
  split
  · exact id
  · rintro ⟨h1, h2, h3, h4⟩
    exact ⟨h1, h2, h3, hx.isRealCategory h4⟩
  · exact id
  · exact id
  · exact hx.isRealCategory
  · exact hx.isRealCategory
  · rintro ⟨h1, r, hr, h2⟩
    exact ⟨h1, r, hx.corrections _ r hr, h2⟩
  · rintro ⟨h1, h2⟩
    exact ⟨h1, hplan _ h2⟩
  · rintro ⟨h1, p, hp, hc⟩
    obtain ⟨p', hp', heq, _⟩ := hx.planIncome _ p hp
    have : p' = p := heq (by simp [hc])
    exact ⟨h1, p', hp', this ▸ hc⟩
  · exact id

/-- Excess has one source for each month and expectation. -/
theorem WellSourced.excess {db : Database} {s : Source} {m : Month} (h : WellSourced db s)
    (hk : s.key = .excess m) : s = excessSource s.month m := by
  obtain ⟨month, c, k, key⟩ := s
  obtain rfl : key = .excess m := hk
  obtain ⟨-, h⟩ := h
  cases k <;> first | exact h.elim | (obtain ⟨rfl, -⟩ := h; rfl)

/-- So has a settlement, in the month of the completion. -/
theorem WellSourced.complete {db : Database} {s : Source} {m : Month} (h : WellSourced db s)
    (hk : s.key = .complete m) : s = settlementSource s.month m ∧
      ∃ p, db.planIncome.lookup m = some p ∧ p.completedMonth = some s.month := by
  obtain ⟨month, c, k, key⟩ := s
  obtain rfl : key = .complete m := hk
  obtain ⟨-, h⟩ := h
  cases k <;> first | exact h.elim | (obtain ⟨rfl, h⟩ := h; exact ⟨rfl, h⟩)

section

variable {today : Date} {db db' : Database}

theorem Change.datesSound (h : Change today db db') (hI : DatesSound today db) :
    DatesSound today db' := by
  have insert : ∀ (id : TransactionId) (t : Transaction), t.effectiveDate.Valid →
      t.month ≤ today.month → ∀ id' t', (db.transactions.insert id t).lookup id' = some t' →
        t'.effectiveDate.Valid ∧ t'.month ≤ today.month := by
    intro id t hv hm id' t' h'
    rw [AList.lookup_insert_of] at h'
    split at h'
    · cases h'; exact ⟨hv, hm⟩
    · exact hI id' t' h'
  cases h with
  | insertTransaction _ _ hopen hdate _ => exact insert _ _ hdate hopen.reached
  | updateTransaction _ _ _ _ hopen hdate _ => exact insert _ _ hdate hopen.reached
  | eraseTransaction _ _ _ _ =>
    intro id' t' h'
    rw [AList.lookup_erase_of] at h'
    split at h'
    · cases h'
    · exact hI id' t' h'
  | adjust _ _ _ _ _ _ hdate hreached _ _ _ _ => exact insert _ _ hdate hreached
  | _ => exact hI

theorem Change.startSound (h : Change today db db') (hv : today.Valid)
    (himports : ImportsSound today db) (hI : StartSound today db) : StartSound today db' := by
  cases h with
  | startLedger _ hfirst _ _ _ _ =>
    intro m hm
    obtain rfl : today.month = m := by simpa [Database.start] using hm
    obtain ⟨f, hf⟩ := Option.isSome_iff_exists.1 hfirst
    exact ⟨hv.1, le_rfl, f, hf, (himports f (firstMonth_mem hf)).2⟩
  | _ => exact hI

theorem Change.unallocatedSound (h : Change today db db') (hI : UnallocatedSound db) :
    UnallocatedSound db' := by
  cases h with
  | addCategory hnew hid _ _ _ _ _ _ =>
    refine ⟨fun hs => ?_, fun hs => ?_⟩
    · have hreal := hI.1 hs
      simpa [Database.isRealCategory, AList.lookup_insert_of, Ne.symm hid] using hreal
    · simpa [AList.lookup_insert_of, Ne.symm hid] using hI.2 hs
  | startLedger _ _ _ _ _ _ =>
    exact ⟨fun _ => by simp [Database.isRealCategory], fun h => by simp [Database.start] at h⟩
  | _ => exact hI

theorem Change.movementsSound (h : Change today db db') (hI : MovementsSound today db) :
    MovementsSound today db' := by
  have hx := h.toExtends
  have old : ∀ e ∈ db.movements, WellSourced db' e.key ∧ e.key.month ≤ today.month := fun e he =>
    ⟨(hI e he).1.mono hx, (hI e he).2⟩
  cases h with
  | move _ _ _ hreached hsource =>
    intro e he
    rcases Journal.mem_settle he with he | ⟨hk, -⟩
    · exact old e he
    · exact ⟨hk ▸ hsource, hk ▸ hreached⟩
  | _ => exact old

theorem Change.completionsSound (h : Change today db db') (hv : today.Valid)
    (hI : CompletionsSound today db) : CompletionsSound today db' := by
  cases h with
  | ensurePlan _ _ _ _ _ =>
    intro m' p hp c hc
    rw [AList.lookup_insert_of] at hp
    split at hp
    · cases hp; cases hc
    · exact hI m' p hp c hc
  | refreshPlan hp hm hcompleted hclosed heur =>
    intro m' q hq c hc
    rw [AList.lookup_insert_of] at hq
    split at hq
    · cases hq
      simp [hcompleted] at hc
    · exact hI m' q hq c hc
  | completePlan _ hp hcompleted hm hopen _ =>
    intro m' q hq c hc
    rw [AList.lookup_insert_of] at hq
    split at hq
    · subst_vars
      cases hq
      cases hc
      exact ⟨hv.1, le_rfl, hm, rfl⟩
    · exact hI m' q hq c hc
  | startLedger _ _ _ _ _ _ =>
    intro m' p hp c hc
    rw [AList.lookup_insert_of] at hp
    split at hp
    · cases hp; cases hc
    · exact hI m' p hp c hc
  | _ => exact hI

theorem Change.plansSound (h : Change today db db') (hI : PlansSound today db) :
    PlansSound today db' := by
  cases h with
  | ensurePlan hstart hle hreached _ _ =>
    intro m' hp
    rw [AList.lookup_insert_of] at hp
    split at hp
    · subst_vars; exact ⟨hreached, _, hstart, hle⟩
    · exact hI m' hp
  | refreshPlan hp _ _ _ _ =>
    intro m' hq
    rw [AList.lookup_insert_of] at hq
    split at hq
    · subst_vars; exact hI _ (by simp [hp])
    · exact hI m' hq
  | completePlan _ hp _ _ _ _ =>
    intro m' hq
    rw [AList.lookup_insert_of] at hq
    split at hq
    · subst_vars; exact hI _ (by simp [hp])
    · exact hI m' hq
  | startLedger hstart _ _ _ _ _ =>
    intro m' hp
    rw [AList.lookup_insert_of] at hp
    split at hp
    · subst_vars; exact ⟨le_rfl, _, rfl, le_rfl⟩
    · obtain ⟨s, hs, _⟩ := (hI m' hp).2
      simp [Database.start, hstart] at hs
  | _ => exact hI

theorem Change.receiptsSound (h : Change today db db') (hI : ReceiptsSound db) :
    ReceiptsSound db' := by
  have hx := h.toExtends
  have old : ∀ id r, db.receipts.lookup id = some r → db'.start.isSome = true ∧
      ∀ m, r.expectedMonth = some m → (db'.planIncome.lookup m).isSome = true := by
    intro id r hr
    obtain ⟨hs, hm⟩ := hI id r hr
    obtain ⟨s, hs⟩ := Option.isSome_iff_exists.1 hs
    refine ⟨by simp [hx.start hs], fun m he => ?_⟩
    obtain ⟨p, hp⟩ := Option.isSome_iff_exists.1 (hm m he)
    obtain ⟨p', hp', _⟩ := hx.planIncome m p hp
    simp [hp']
  cases h with
  | setReceipt _ _ _ _ hstart hexpected =>
    intro id' r' hr
    rw [AList.lookup_insert_of] at hr
    split at hr
    · cases hr
      refine ⟨hstart, fun m hm => ?_⟩
      obtain ⟨_, _, p, hp, _⟩ := hexpected m hm
      simp [hp]
    · exact old id' r' hr
  | dropReceipt _ _ _ _ _ =>
    intro id' r' hr
    rw [AList.lookup_erase_of] at hr
    split at hr
    · cases hr
    · exact old id' r' hr
  | startLedger hstart _ _ hreceipts _ _ =>
    intro id' r' hr
    refine ⟨rfl, fun m hm => ?_⟩
    have hnone : db.receipts.lookup id' = none := by
      cases hl : db.receipts.lookup id' with
      | none => rfl
      | some q => have := (hI id' q hl).1; simp [Database.start, hstart] at this
    rw [hreceipts] at hr
    revert hr
    split
    · split
      · intro hr
        cases hr
        simp only at hm
        split at hm
        · cases hm
          simp
        · cases hm
      · simp [hnone]
    · simp [hnone]
  | _ => exact old

theorem Change.closuresSound (h : Change today db db') (hI : ClosuresSound today db) :
    ClosuresSound today db' := by
  have hx := h.toExtends
  cases h with
  | @close m first _ _ _ hm _ hfirst hle hcalendar hbefore _ _ _ =>
    intro m' hm'
    have hcase : m' = m ∨ db.isClosed m' = true := by
      unfold Database.isClosed at hm'
      rw [AList.lookup_insert_of] at hm'
      split at hm'
      · exact .inl (by assumption)
      · exact .inr hm'
    rcases hcase with rfl | hc
    · exact ⟨hcalendar, hm, first, hfirst, hle, fun m'' h1 h2 h3 =>
        hx.isClosed (hbefore m'' h1 h2 h3)⟩
    · obtain ⟨h1, h2, f, hf, h3, h4⟩ := hI m' hc
      exact ⟨h1, h2, f, hf, h3, fun m'' a b c => hx.isClosed (h4 m'' a b c)⟩
  | _ => exact hI

theorem Change.correctionsSound (h : Change today db db') (hv : today.Valid)
    (hI : CorrectionsSound today db) : CorrectionsSound today db' := by
  have hx := h.toExtends
  have old : ∀ op r, db.corrections.lookup op = some r → r.appliedMonth.Calendar ∧
      r.appliedMonth ≤ today.month ∧ (r.items.map Prod.fst).Nodup ∧
      ∀ i ∈ r.items, db'.isRealCategory i.1 = true := by
    intro op r hr
    obtain ⟨h1, h2, h3, h4⟩ := hI op r hr
    exact ⟨h1, h2, h3, fun i hi => hx.isRealCategory (h4 i hi)⟩
  cases h with
  | addCorrection _ _ _ hmonth hopen hitems hnodup =>
    intro op r hr
    rw [AList.lookup_insert_of] at hr
    split at hr
    · cases hr
      exact ⟨hmonth ▸ hv.1, hmonth.le, hnodup, hitems⟩
    · exact old op r hr
  | _ => exact old

theorem Change.categoriesSound (h : Change today db db') (hI : CategoriesSound db) :
    CategoriesSound db' := by
  have hx := h.toExtends
  have hcat : ∀ c, (db.categories.lookup c).isSome = true →
      (db'.categories.lookup c).isSome = true := fun c => hx.categories.isSome
  have old1 := fun c m hm => hcat c (hI.1 c m hm)
  have old2 := fun c m hm => hcat c (hI.2.1 c m hm)
  have old3 := fun c m hm => And.intro (hI.2.2 c m hm).1 (hcat c (hI.2.2 c m hm).2)
  cases h with
  | seedOpening _ hreal _ _ _ =>
    refine ⟨fun c m hm => ?_, old2, old3⟩
    rw [AList.lookup_insert_of] at hm
    split at hm
    · rename_i heq
      simp only [Prod.mk.injEq] at heq
      rw [heq.1]
      unfold Database.isRealCategory at hreal
      cases hl : db.categories.lookup _ with
      | none => simp [hl] at hreal
      | some x => rfl
    · exact old1 c m hm
  | @addCategory id x first amount hnew _ _ _ _ _ _ _ =>
    have hid : ((db.categories.insert id x).lookup id).isSome = true := by simp
    refine ⟨fun c m hm => ?_, fun c m hm => ?_, old3⟩
    · by_cases hc : c = id
      · exact hc ▸ hid
      · rw [AList.lookup_insert_of, if_neg (by simp [hc])] at hm
        exact old1 c m hm
    · by_cases hc : c = id
      · exact hc ▸ hid
      · rw [AList.lookup_insert_of, if_neg (by simp [hc]), AList.lookup_insert_of,
          if_neg (by simp [hc])] at hm
        exact old2 c m hm
  | setPeriods _ _ hexist => exact ⟨old1, hexist, old3⟩
  | close _ _ _ _ _ hcalendar _ _ hexist _ =>
    refine ⟨old1, old2, fun c m hm => ?_⟩
    rcases lookup_freezeSnapshots_isSome hm with hm | ⟨rfl, x, hx, rfl⟩
    · exact old3 c m hm
    · exact ⟨hcalendar, hexist x hx⟩
  | _ => exact ⟨old1, old2, old3⟩

/-- **Every change keeps the invariants.** -/
theorem Change.sound (h : Change today db db') (hI : Sound today db) : Sound today db' where
  valid := hI.valid
  dates := h.datesSound hI.dates
  imports := by
    unfold ImportsSound
    rw [h.toExtends.importMonths]
    exact hI.imports
  start := h.startSound hI.valid hI.imports hI.start
  unallocated := h.unallocatedSound hI.unallocated
  movements := h.movementsSound hI.movements
  completions := h.completionsSound hI.valid hI.completions
  plans := h.plansSound hI.plans
  receipts := h.receiptsSound hI.receipts
  closures := h.closuresSound hI.closures
  corrections := h.correctionsSound hI.valid hI.corrections
  categories := h.categoriesSound hI.categories

theorem Changes.sound (h : Changes today db db') (hI : Sound today db) : Sound today db' := by
  induction h with
  | refl => exact hI
  | tail _ hc ih => exact hc.sound ih

end

end Server
