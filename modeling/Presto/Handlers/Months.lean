import Presto.Handlers.Reconciliation

/-!
# The month handlers, taken apart

Settings, corrections, completions, closes and the activation of the ledger.
-/

namespace Server

open Budget BudgetLedger

variable {today : Date} {db db' : Database} {clock : Clock} {actor : Subject}

/-! ## Settings -/

theorem recordNew_ok {id : OperationId} {audit : Response}
    (h : recordNew db id actor audit = .ok db') :
    db.operations.lookup id = none ∧ db' = db.recordOperation id actor (.audit audit) audit := by
  simp only [recordNew, Except.bind_eq_ok, Except.ensure_eq_ok, Except.pure_eq_ok] at h
  obtain ⟨_, hn, rfl⟩ := h
  exact ⟨by simpa using hn, rfl⟩

/-- The database with a category of no opening and a first allocation. -/
def categoryAdded (db : Database) (id : CategoryId) (c : Category) (first month : Month)
    (amount : Decimal) : Database :=
  { db with
    categories := db.categories.insert id c
    openings := db.openings.insert (id, first) 0
    periods := (db.periods.insert (id, first) (some 0)).insert (id, month) (some amount) }

theorem createCategory_ok {payload : CreateCategoryRequest} {response : Response}
    (h : createCategory db clock actor payload = .ok (db', response)) :
    ∃ amount first c db₁ db₂ audit, IsOpen db clock.today clock.today.month ∧
      sync db clock.today none = .ok db₁ ∧ firstMonth db₁ = some first ∧
      db₁.categories.lookup payload.categoryId = none ∧ payload.categoryId ≠ UNALLOCATED ∧
      c.isReal = true ∧
      recordNew (categoryAdded db₁ payload.categoryId c first clock.today.month amount)
        payload.operationId actor audit = .ok db₂ ∧
      sync db₂ clock.today (some payload.operationId) = .ok db' ∧ response = audit ∧
      isDeletion response = false := by
  simp only [createCategory, Except.bind_eq_ok, Except.ensure_eq_ok, Except.mapError_eq_ok,
    Except.fromOption_eq_ok, Except.pure_eq_ok, Prod.mk.injEq] at h
  obtain ⟨amount, _, _, _, _, ho, db₁, h1, first, hf, _, ⟨hn, hu⟩, db₂, h2, _, h3, rfl, rfl⟩ := h
  exact ⟨amount, first, _, db₁, db₂, _, requireOpen_ok ho, h1, hf, by simpa using hn, hu, rfl, h2, h3,
    rfl, rfl⟩

theorem createCategory_changes {payload : CreateCategoryRequest} {response : Response}
    (h : createCategory db clock actor payload = .ok (db', response))
    (hsound : Sound clock.today db) :
    ∃ db₁, Changes clock.today db db₁ ∧
      sync db₁ clock.today (some payload.operationId) = .ok db' := by
  obtain ⟨amount, first, c, db₁, db₂, audit, ho, h1, hf, hn, hu, hreal, h2, h3, _⟩ :=
    createCategory_ok h
  have hc1 : Changes clock.today db db₁ := sync_changes h1 hsound
  have hsound₁ : Sound clock.today db₁ := hc1.sound hsound
  have hopen₁ : IsOpen db₁ clock.today clock.today.month := by
    cases hs : db.start with
    | none => rw [sync_inactive h1 hs]; exact ho
    | some s =>
      obtain ⟨ts, hts⟩ := sync_synced h1 hs hsound
      obtain ⟨P, rfl⟩ := hts.settled.eq
      exact ho.of_eq rfl rfl
  have hnone : ∀ {α : Type} {t : Table (CategoryId × Month) α},
      (∀ m, (t.lookup (payload.categoryId, m)).isSome = true →
        (db₁.categories.lookup payload.categoryId).isSome = true) →
      ∀ m, t.lookup (payload.categoryId, m) = none := by
    intro α t ht m
    cases hl : t.lookup (payload.categoryId, m) with
    | none => rfl
    | some x => simpa [hn] using ht m (by simp [hl])
  obtain ⟨ho1, ho2, ho3⟩ := hsound₁.categories
  have hadd : Change clock.today db₁
      (categoryAdded db₁ payload.categoryId c first clock.today.month amount) :=
    .addCategory hn hu hreal hf hopen₁ (hnone (ho1 _)) (hnone (ho2 _))
      (hnone fun m hm => (ho3 _ m hm).2)
  obtain ⟨hnew, rfl⟩ := recordNew_ok h2
  exact ⟨_, (hc1.tail hadd).tail (.record actor _ _ hnew), h3⟩

theorem mem_categoryNamed {name : Name} {id : CategoryId} (h : categoryNamed db name = some id) :
    (db.categories.lookup id).isSome = true := by
  obtain ⟨c, hc, rfl⟩ := Option.map_eq_some_iff.1 h
  have hmem := List.mem_of_find?_eq_some hc
  have hreal := (mem_budgetCategories.1 (List.mem_map.2 ⟨c, hmem, rfl⟩)).1
  unfold Database.isRealCategory at hreal
  cases hl : db.categories.lookup c.1 with
  | none => simp [hl] at hreal
  | some x => rfl

/-- Allocations change only from the given month on, for categories that exist. -/
def PeriodsFrom (db : Database) (month : Month) (periods : Table (CategoryId × Month) (Option Decimal)) :
    Prop :=
  (∀ c m, m ≠ month → periods.lookup (c, m) = db.periods.lookup (c, m)) ∧
  ∀ c m, (periods.lookup (c, m)).isSome = true → (db.categories.lookup c).isSome = true

theorem PeriodsFrom.cancel {month : Month} {t : Table (CategoryId × Month) (Option Decimal)}
    (h : PeriodsFrom db month t) (c : Name × Decimal) :
    PeriodsFrom db month (cancelAmount db month t c) := by
  unfold cancelAmount
  split
  · refine ⟨fun c' m hm => ?_, fun c' m hs => h.2 c' m ?_⟩
    · rw [AList.lookup_erase_of, if_neg (by simp [hm])]
      exact h.1 c' m hm
    · rw [AList.lookup_erase_of] at hs
      split at hs
      · cases hs
      · exact hs
  · exact h

theorem PeriodsFrom.cancelAll {month : Month} {cs : List (Name × Decimal)} :
    ∀ {t : Table (CategoryId × Month) (Option Decimal)}, PeriodsFrom db month t →
      PeriodsFrom db month (cs.foldl (cancelAmount db month) t) := by
  induction cs with
  | nil => exact fun h => h
  | cons c cs ih => exact fun h => ih (h.cancel c)

theorem cancelMonthlyBudget_ok {payload : MonthlyBudgetRequest} {response : Response}
    (h : cancelMonthlyBudget db clock actor payload = .ok (db', response))
    (hsound : Sound clock.today db) :
    ∃ periods audit, clock.today.month < payload.effectiveStartMonth ∧
      PeriodsFrom db payload.effectiveStartMonth periods ∧
      db.operations.lookup payload.operationId = none ∧ response = audit ∧
      isDeletion response = false ∧
      db' = ({ db with periods := periods } : Database).recordOperation payload.operationId actor
        (.audit audit) audit := by
  simp only [cancelMonthlyBudget, Except.bind_eq_ok, Except.ensure_eq_ok, Except.pure_eq_ok,
    Prod.mk.injEq] at h
  obtain ⟨_, ⟨_, hlt, _⟩, _, _, db₁, hr, rfl, rfl⟩ := h
  obtain ⟨hnew, rfl⟩ := recordNew_ok hr
  have hsame : PeriodsFrom db payload.effectiveStartMonth db.periods :=
    ⟨fun _ _ _ => rfl, hsound.categories.2.1⟩
  exact ⟨_, _, hlt, hsame.cancelAll, hnew, rfl, rfl, rfl⟩

theorem PeriodsFrom.change {month : Month} {periods : Table (CategoryId × Month) (Option Decimal)}
    (h : PeriodsFrom db month periods) (hle : today.month ≤ month) :
    Change today db { db with periods := periods } :=
  .setPeriods periods (fun c m hm => h.1 c m (hm.trans_le hle).ne) h.2

theorem scheduleAmounts_ok {month : Month} {cs : List (Name × Decimal)}
    {acc : Database × List (CategoryId × Option Decimal × Decimal)}
    (h : cs.foldlM (scheduleAmount month) (db, []) = .ok acc) (hsound : Sound today db) :
    ∃ periods, acc.1 = { db with periods := periods } ∧ PeriodsFrom db month periods := by
  refine Except.foldlM_induction
    (fun s : Database × List (CategoryId × Option Decimal × Decimal) =>
      ∃ periods, s.1 = { db with periods := periods } ∧ PeriodsFrom db month periods)
    h ⟨db.periods, rfl, fun _ _ _ => rfl, hsound.categories.2.1⟩ fun c _ s s' hs hstep => ?_
  obtain ⟨periods, hdb, h1, h2⟩ := hs
  simp only [scheduleAmount, Except.bind_eq_ok, Except.fromOption_eq_ok, Except.ensure_eq_ok,
    Except.pure_eq_ok] at hstep
  obtain ⟨amount, _, id, hid, _, _, rfl⟩ := hstep
  have hexists : (db.categories.lookup id).isSome = true := by
    have hid' := mem_categoryNamed hid
    rwa [hdb] at hid'
  refine ⟨periods.insert (id, month) (some amount), by simp [hdb], fun c' m hm => ?_,
    fun c' m hs => ?_⟩
  · rw [AList.lookup_insert_of, if_neg (by simp [hm])]
    exact h1 c' m hm
  · by_cases hc : c' = id
    · exact hc ▸ hexists
    · rw [AList.lookup_insert_of, if_neg (by simp [hc])] at hs
      exact h2 c' m hs

theorem saveMonthlyBudget_ok {payload : MonthlyBudgetRequest} {response : Response}
    (h : saveMonthlyBudget db clock actor payload = .ok (db', response))
    (hsound : Sound clock.today db) :
    ∃ O periods audit, initializeOpenings db = .ok { db with openings := O } ∧
      clock.today.month ≤ payload.effectiveStartMonth ∧
      PeriodsFrom { db with openings := O } payload.effectiveStartMonth periods ∧
      db.operations.lookup payload.operationId = none ∧ response = audit ∧
      isDeletion response = false ∧
      sync (({ db with openings := O, periods := periods } : Database).recordOperation
        payload.operationId actor (.audit audit) audit) clock.today (some payload.operationId)
        = .ok db' := by
  simp only [saveMonthlyBudget, Except.bind_eq_ok, Except.ensure_eq_ok, Except.mapError_eq_ok,
    Except.pure_eq_ok, Prod.exists, Prod.mk.injEq] at h
  obtain ⟨db₁, h1, _, ⟨_, hle, _⟩, _, _, _, _, db₂, changes, hs, db₃, hr, _, h3, rfl, rfl⟩ := h
  obtain ⟨hc, O, rfl⟩ := initializeOpenings_changes clock.today h1
  obtain ⟨periods, hdb, hp⟩ := scheduleAmounts_ok hs (hc.sound hsound)
  simp only at hdb
  subst hdb
  obtain ⟨hnew, rfl⟩ := recordNew_ok hr
  exact ⟨O, periods, _, h1, hle, hp, hnew, rfl, rfl, h3⟩

theorem saveMonthlyBudget_changes {payload : MonthlyBudgetRequest} {response : Response}
    (h : saveMonthlyBudget db clock actor payload = .ok (db', response))
    (hsound : Sound clock.today db) :
    ∃ db₁, Changes clock.today db db₁ ∧
      sync db₁ clock.today (some payload.operationId) = .ok db' := by
  obtain ⟨O, periods, audit, h1, hle, hp, hnew, _, _, hs⟩ := saveMonthlyBudget_ok h hsound
  obtain ⟨hc, _⟩ := initializeOpenings_changes clock.today h1
  refine ⟨_, (hc.tail (hp.change hle)).tail (.record actor _ _ ?_), hs⟩
  exact hnew

theorem cancelMonthlyBudget_changes {payload : MonthlyBudgetRequest} {response : Response}
    (h : cancelMonthlyBudget db clock actor payload = .ok (db', response))
    (hsound : Sound clock.today db) : Changes clock.today db db' := by
  obtain ⟨periods, audit, hlt, hp, hnew, _, _, rfl⟩ := cancelMonthlyBudget_ok h hsound
  refine (Relation.ReflTransGen.single (hp.change hlt.le)).tail (.record actor _ _ ?_)
  exact hnew

/-! ## Expected income -/

/-- An expectation with the terms of a setting. -/
def revalued (p : PlanIncome) (s : IncomeSetting) (eur : Decimal) : PlanIncome :=
  { p with amount := s.amount, currency := s.currency, amountEur := eur, arrivalDay := s.arrivalDay }

theorem mem_refreshedMonths {start m : Month} :
    m ∈ refreshedMonths db start ↔ ∃ p, db.planIncome.lookup m = some p ∧ start ≤ m ∧
      p.completedMonth = none ∧ db.isClosed m = false := by
  unfold refreshedMonths
  rw [(List.perm_insertionSort _ _).mem_iff, List.mem_map]
  constructor
  · rintro ⟨⟨m', p⟩, he, rfl⟩
    obtain ⟨he, hp⟩ := List.mem_filter.1 he
    obtain ⟨h1, h2, h3⟩ := of_decide_eq_true hp
    exact ⟨p, AList.mem_entries_iff.1 he, h1, h2, h3⟩
  · rintro ⟨p, hp, h1, h2, h3⟩
    exact ⟨⟨m, p⟩, List.mem_filter.2 ⟨AList.mem_entries_iff.2 hp, decide_eq_true ⟨h1, h2, h3⟩⟩, rfl⟩

/-- What refreshing expectations does: each one in the list gets the terms in force. -/
structure Refreshed (db : Database) (ms : List Month) (P : Table Month PlanIncome) : Prop where
  refreshed : ∀ m ∈ ms, ∀ p, db.planIncome.lookup m = some p → ∃ eur, settingEur db m = .ok eur ∧
    P.lookup m = some (revalued p (incomeSetting db m) eur)
  others : ∀ m, m ∉ ms → P.lookup m = db.planIncome.lookup m

theorem refreshPlan_ok {m : Month} (h : refreshPlan db m = .ok db') :
    ∃ eur, settingEur db m = .ok eur ∧ db' = { db with
      planIncome := db.planIncome.modify m fun p => revalued p (incomeSetting db m) eur } := by
  simp only [refreshPlan, Except.bind_eq_ok, Except.mapError_eq_ok, Except.pure_eq_ok] at h
  obtain ⟨eur, heur, rfl⟩ := h
  exact ⟨eur, heur, rfl⟩

theorem refreshPlans_ok {ms : List Month} : ∀ {db db' : Database},
    ms.foldlM refreshPlan db = .ok db' →
      ∃ P, db' = { db with planIncome := P } ∧ Refreshed db ms P := by
  induction ms with
  | nil =>
    intro db db' h
    rw [List.foldlM_nil, Except.pure_eq_ok] at h
    exact ⟨db.planIncome, h.symm, by simp, fun _ _ => rfl⟩
  | cons m ms ih =>
    intro db db' h
    rw [List.foldlM_cons, Except.bind_eq_ok] at h
    obtain ⟨db₁, h1, h2⟩ := h
    obtain ⟨eur, heur, rfl⟩ := refreshPlan_ok h1
    obtain ⟨P, rfl, hr, ho⟩ := ih h2
    refine ⟨P, rfl, fun m' hm' p hp => ?_, fun m' hm' => ?_⟩
    · by_cases hmem : m' ∈ ms
      · have hl := AList.lookup_modify db.planIncome m m'
          fun p => revalued p (incomeSetting db m) eur
        by_cases hmm : m' = m
        · subst hmm
          rw [if_pos rfl, hp] at hl
          obtain ⟨eur', heur', hP⟩ := hr m' hmem _ hl
          exact ⟨eur', heur', hP⟩
        · rw [if_neg hmm] at hl
          exact hr m' hmem p (hl.trans hp)
      · obtain rfl : m' = m := by simpa [hmem] using hm'
        refine ⟨eur, heur, ?_⟩
        rw [ho m' hmem, AList.lookup_modify, if_pos rfl, hp]
        rfl
    · rw [List.mem_cons, not_or] at hm'
      rw [ho m' hm'.2, AList.lookup_modify, if_neg hm'.1]

/-- The database with an expected-income setting. -/
def incomeSet (db : Database) (m : Month) (s : IncomeSetting) : Database :=
  { db with incomeSettings := db.incomeSettings.insert m s }

theorem saveExpectedIncome_ok {payload : ExpectedIncomeRequest} {response : Response}
    (h : saveExpectedIncome db clock actor payload = .ok (db', response)) :
    ∃ setting audit P, clock.today.month ≤ payload.effectiveStartMonth ∧
      setting.amount.Within 2 ∧ setting.amount.isNegative = false ∧
      setting.currency = payload.currency ∧
      db.operations.lookup payload.operationId = none ∧ response = audit ∧
      isDeletion response = false ∧
      Refreshed (incomeSet (db.recordOperation payload.operationId actor (.audit audit) audit)
          payload.effectiveStartMonth setting)
        (refreshedMonths db payload.effectiveStartMonth) P ∧
      sync { incomeSet (db.recordOperation payload.operationId actor (.audit audit) audit)
          payload.effectiveStartMonth setting with planIncome := P }
        clock.today (some payload.operationId) = .ok db' := by
  simp only [saveExpectedIncome, Except.bind_eq_ok, Except.ensure_eq_ok, Except.mapError_eq_ok,
    Except.pure_eq_ok, Prod.mk.injEq] at h
  obtain ⟨_, _, amount, ha, _, hle, _, _, db₁, hr, db₂, hp, db₃, hs, rfl, rfl⟩ := h
  obtain ⟨hnew, rfl⟩ := recordNew_ok hr
  obtain ⟨P, rfl, hP⟩ := refreshPlans_ok hp
  have hamount : amount.Within 2 ∧ amount.isNegative = false := by
    unfold nonnegative at ha
    rw [Except.ite_error_eq_ok] at ha
    obtain ⟨hn, ha⟩ := ha
    cases ha
    exact ⟨Decimal.within_roundPosted _, by simpa using hn⟩
  exact ⟨⟨amount, payload.currency, payload.arrivalDay⟩, _, P, hle, hamount.1, hamount.2, rfl, hnew,
    rfl, rfl, hP, hs⟩

/-- Refreshing is a sequence of changes. -/
theorem refreshPlans_changes {ms : List Month} : ∀ {db db' : Database},
    ms.foldlM refreshPlan db = .ok db' →
      (∀ m ∈ ms, today.month ≤ m ∧ db.isClosed m = false ∧
        ∃ p, db.planIncome.lookup m = some p ∧ p.completedMonth = none) →
      Changes today db db' := by
  induction ms with
  | nil =>
    intro db db' h _
    rw [List.foldlM_nil, Except.pure_eq_ok] at h
    exact h ▸ .refl
  | cons m ms ih =>
    intro db db' h hms
    rw [List.foldlM_cons, Except.bind_eq_ok] at h
    obtain ⟨db₁, h1, h2⟩ := h
    obtain ⟨eur, heur, rfl⟩ := refreshPlan_ok h1
    obtain ⟨hm, hclosed, p, hp, hc⟩ := hms m List.mem_cons_self
    have hinsert : (db.planIncome.modify m fun p => revalued p (incomeSetting db m) eur)
        = db.planIncome.insert m (revalued p (incomeSetting db m) eur) := by
      simp [AList.modify, hp]
    have hchange : Change today db { db with
        planIncome := db.planIncome.modify m fun p => revalued p (incomeSetting db m) eur } := by
      rw [hinsert]
      exact .refreshPlan hp hm hc hclosed heur
    refine .head hchange (ih h2 fun m' hm' => ?_)
    obtain ⟨h1, h2, q, hq, hqc⟩ := hms m' (List.mem_cons_of_mem _ hm')
    refine ⟨h1, h2, ?_⟩
    simp only [AList.lookup_modify]
    split
    · exact ⟨revalued q (incomeSetting db m) eur, by rw [hq]; rfl, hqc⟩
    · exact ⟨q, hq, hqc⟩

theorem saveExpectedIncome_changes {payload : ExpectedIncomeRequest} {response : Response}
    (h : saveExpectedIncome db clock actor payload = .ok (db', response)) :
    ∃ db₁, Changes clock.today db db₁ ∧
      sync db₁ clock.today (some payload.operationId) = .ok db' := by
  simp only [saveExpectedIncome, Except.bind_eq_ok, Except.ensure_eq_ok, Except.mapError_eq_ok,
    Except.pure_eq_ok, Prod.mk.injEq] at h
  obtain ⟨_, _, amount, _, _, hle, _, _, db₁, hr, db₂, hp, db₃, hs, rfl, _⟩ := h
  obtain ⟨hnew, rfl⟩ := recordNew_ok hr
  refine ⟨db₂, .head (.record actor _ _ hnew) (.head (.setIncome _ hle)
    (refreshPlans_changes hp fun m hm => ?_)), hs⟩
  obtain ⟨p, hp, hm, hc, hclosed⟩ := mem_refreshedMonths.1 hm
  exact ⟨hle.trans hm, hclosed, p, hp, hc⟩

/-! ## Corrections and completions -/

/-- The database with a correction. -/
def corrected (db : Database) (operation : OperationId) (row : CategoryCorrection) : Database :=
  { db with corrections := db.corrections.insert operation row }

theorem correctionBody_ok {payload : CorrectionRequest} {response : Response}
    (h : correctionBody db clock payload = .ok (db', response)) :
    ∃ original, db.transactions.lookup payload.originalTransactionId = some original ∧
      IsOpen db clock.today clock.today.month ∧
      (∀ d ∈ payload.categoryDeltas, db.isRealCategory d.1 = true) ∧
      db.corrections.lookup payload.operationId = none ∧
      sync (corrected db payload.operationId
          ⟨payload.originalTransactionId, clock.today.month, payload.categoryDeltas⟩)
        clock.today (some payload.operationId) = .ok db' ∧
      response = .corrected payload.operationId payload.originalTransactionId
        original.effectiveDate clock.today.month payload.categoryDeltas := by
  simp only [correctionBody, Except.bind_eq_ok, Except.ensure_eq_ok, Except.mapError_eq_ok,
    Except.fromOption_eq_ok, Except.pure_eq_ok, Prod.mk.injEq] at h
  obtain ⟨original, h1, _, _, _, ho, _, hreal, _, hn, db₁, hs, rfl, rfl⟩ := h
  exact ⟨original, h1, requireOpen_ok ho, hreal, by simpa using hn, hs, rfl⟩

theorem normalizeCorrection_ok {p payload : CorrectionRequest}
    (h : normalizeCorrection p = .ok payload) :
    (payload.categoryDeltas.map Prod.fst).Nodup ∧
      ∀ d ∈ payload.categoryDeltas, d.2.Within 2 := by
  simp only [normalizeCorrection, Except.bind_eq_ok, Except.ensure_eq_ok, Except.pure_eq_ok] at h
  obtain ⟨_, _, _, _, _, hnd, _, _, rfl⟩ := h
  constructor
  · refine ((List.perm_insertionSort _ _).map _).nodup_iff.2 ?_
    simpa [Function.comp_def] using hnd
  · intro d hd
    obtain ⟨x, _, rfl⟩ := List.mem_map.1 ((List.mem_insertionSort _).1 hd)
    exact Decimal.within_roundPosted _

/-- A completed expectation. -/
def completed (p : PlanIncome) (month : Month) (shortfall : Decimal) (operation : OperationId) :
    PlanIncome :=
  { p with
    completedMonth := some month
    completionShortfallEur := some shortfall
    completionOperationId := some operation }

/-- The database with one expectation rewritten. -/
def planSet (db : Database) (m : Month) (p : PlanIncome) : Database :=
  { db with planIncome := db.planIncome.insert m p }

theorem completeBody_ok {payload : CompleteIncomeRequest} {response : Response}
    (h : completeBody db clock payload = .ok (db', response)) :
    ∃ db₁ p e, sync db clock.today none = .ok db₁ ∧ IsOpen db₁ clock.today clock.today.month ∧
      payload.expectedMonth ≤ clock.today.month ∧
      db₁.planIncome.lookup payload.expectedMonth = some p ∧ p.completedMonth = none ∧
      income db₁ payload.expectedMonth clock.today.month = .ok (some e) ∧
      sync (planSet db₁ payload.expectedMonth
          (completed p clock.today.month e.outstandingEur payload.operationId))
        clock.today (some payload.operationId) = .ok db' ∧
      response = .completed payload.expectedMonth clock.today.month e.outstandingEur := by
  simp only [completeBody, Except.bind_eq_ok, Except.ensure_eq_ok, Except.mapError_eq_ok,
    Except.fromOption_eq_ok, Except.pure_eq_ok, Prod.mk.injEq] at h
  obtain ⟨db₁, h1, _, ho, _, hle, _, hinc, e, rfl, _, hc, db₂, hs, rfl, rfl⟩ := h
  obtain ⟨p, _, hp, _, _, _, _, _, _, _, hpc, _⟩ := income_ok hinc
  refine ⟨db₁, p, e, h1, requireOpen_ok ho, hle, hp, hpc.symm.trans hc, hinc, ?_, rfl⟩
  rw [AList.modify, hp] at hs
  exact hs

/-! ## Closing -/

/-- The database with a month frozen. -/
def frozen (db : Database) (m : Month) (operation : OperationId) (cs : List BudgetCategorySnapshot)
    (cov : Option Coverage) : Database :=
  { db with
    snapshots := freezeSnapshots m db.snapshots cs
    closures := db.closures.insert m ⟨operation, cs⟩
    coverageClosures := freezeCoverage m db.coverageClosures cov }

/-- The steps of a close. -/
structure ClosedBy (db : Database) (clock : Clock) (payload : CloseRequest)
    (batch : OperationId × Nat) (first : Month) (db₁ : Database)
    (cs : List BudgetCategorySnapshot) (cov : Option Coverage) (db' : Database) : Prop where
  before : payload.month < clock.today.month
  isOpen : db.isClosed payload.month = false
  chosen : latestBatch (fullBatches db payload.month.lastDate) = some batch
  fresh : reconciliationCurrent db payload.month.lastDate batch.1 = .ok true
  opening : firstMonth db = some first
  le : first ≤ payload.month
  calendar : payload.month.Calendar
  chain : ∀ m, m.Calendar → first ≤ m → m < payload.month → db.isClosed m = true
  synced : sync db clock.today (some payload.operationId) = .ok db₁
  categories : categories db₁ clock.today payload.month = .ok cs
  coverage : coverage { db₁ with snapshots := freezeSnapshots payload.month db₁.snapshots cs }
    clock.today payload.month cs = .ok cov
  result : db' = frozen db₁ payload.month payload.operationId cs cov

/-- A history that shows no open month before `m` has all earlier months closed. -/
theorem closed_of_history {m current f m' : Month} {history : List BudgetMonthSnapshot}
    (h : historyAt db m current = .ok history) (hf : firstMonth db = some f) (hcal : f.Calendar)
    (hnone : ¬ history.any fun h => h.status = .openMonth ∧ h.month < m) (hm' : m'.Calendar)
    (hle : f ≤ m') (hlt : m' < m) : db.isClosed m' = true := by
  by_contra hopen
  have hopen : db.isClosed m' = false := by simpa using hopen
  have hmem : m' ∈ historyMonths db m :=
    mem_historyMonths.2 (.inr ⟨f, hf, (Month.mem_through hcal).2 ⟨hm', hle, hlt.le⟩⟩)
  obtain ⟨entry, he, hentry⟩ := (historyAt_forall₂ h).exists_right hmem
  refine hnone (List.any_eq_true.2 ⟨entry, he, decide_eq_true ⟨hentry.status hopen hf hle, ?_⟩⟩)
  rwa [hentry.month]

theorem closeBody_ok {payload : CloseRequest} {response : Response}
    (h : closeBody db clock payload = .ok (db', response)) (hsound : Sound clock.today db) :
    ∃ batch first db₁ cs cov, ClosedBy db clock payload batch first db₁ cs cov db' ∧
      response = .closed payload.month cs.length := by
  simp only [closeBody, Except.bind_eq_ok, Except.ensure_eq_ok, Except.mapError_eq_ok,
    Except.fromOption_eq_ok, Except.pure_eq_ok, Prod.mk.injEq, not_or, not_lt] at h
  obtain ⟨_, hlt, _, _, _, hopen, batch, hb, _, hfresh, _, rfl, first, hf, history, hh, _,
    ⟨hle, hnone⟩, db₁, hs, cs, hcs, _, _, cov, hcov, rfl, rfl⟩ := h
  have hcal := (hsound.imports first (firstMonth_mem hf)).1
  exact ⟨batch, first, db₁, cs, cov, ⟨hlt, hopen, hb, hfresh, hf, hle, (historyAt_calendar hh).1,
    fun m hm h1 h2 => closed_of_history hh hf hcal hnone hm h1 h2, hs, hcs, hcov, rfl⟩, rfl⟩

theorem ClosedBy.changes {payload : CloseRequest} {batch : OperationId × Nat} {first : Month}
    {db₁ : Database} {cs : List BudgetCategorySnapshot} {cov : Option Coverage}
    (h : ClosedBy db clock payload batch first db₁ cs cov db') (hsound : Sound clock.today db) :
    Changes clock.today db db₁ ∧ Change clock.today db₁ db' := by
  have h1 := sync_changes h.synced hsound
  have hx := h1.toExtends
  have hopen₁ : db₁.isClosed payload.month = false := by
    cases hs : db.start with
    | none => rw [sync_inactive h.synced hs]; exact h.isOpen
    | some s =>
      obtain ⟨ts, hts⟩ := sync_synced h.synced hs hsound
      rw [hts.settled.isClosed_eq]
      exact h.isOpen
  obtain ⟨_, entry, _, _, hentry, rfl⟩ := categories_ok h.categories
  refine ⟨h1, h.result ▸ .close payload.operationId h.before hopen₁ (hx.firstMonth_eq.trans h.opening)
    h.le h.calendar (fun m hm hle hlt => hx.isClosed (h.chain m hm hle hlt)) h.categories
    (fun c hc => hentry.exist hopen₁ (h1.sound hsound) hc) h.coverage⟩

/-! ## Activation -/

theorem lookup_foldl_insert {α : Type} {id : TransactionId} {v : IncomeReceipt}
    {es : List (Sigma fun _ : TransactionId => α)} : ∀ {t : Table TransactionId IncomeReceipt},
      (es.foldl (fun t e => t.insert e.1 v) t).lookup id
        = if ∃ e ∈ es, e.1 = id then some v else t.lookup id := by
  induction es with
  | nil => intro t; simp
  | cons e es ih =>
    intro t
    rw [List.foldl_cons, ih, AList.lookup_insert_of]
    by_cases hes : ∃ e ∈ es, e.1 = id
    · have : ∃ e' ∈ e :: es, e'.1 = id := by
        obtain ⟨e', he', hid⟩ := hes
        exact ⟨e', List.mem_cons_of_mem _ he', hid⟩
      rw [if_pos hes, if_pos this]
    · by_cases he : e.1 = id
      · rw [if_neg hes, if_pos he.symm, if_pos ⟨e, List.mem_cons_self, he⟩]
      · have : ¬ ∃ e' ∈ e :: es, e'.1 = id := by
          rintro ⟨e', he', hid⟩
          rcases List.mem_cons.1 he' with rfl | he'
          · exact he hid
          · exact hes ⟨e', he', hid⟩
        rw [if_neg hes, if_neg (Ne.symm he), if_neg this]

/-- The receipts at the activation: every income so far, those of the month matched to it. -/
def legacyReceipts (db : Database) (month : Month) : Table TransactionId IncomeReceipt :=
  let incomes := db.transactions.entries.filter fun e => e.2.kind = .income
  let all := incomes.foldl (fun t e => t.insert e.1 ⟨.legacy, none⟩) db.receipts
  (incomes.filter fun e => e.2.month = month).foldl
    (fun t e => t.insert e.1 ⟨.legacy, some month⟩) all

theorem lookup_legacyReceipts (db : Database) (month : Month) (id : TransactionId) :
    (legacyReceipts db month).lookup id = match db.transactions.lookup id with
      | some t => if t.kind = .income then
          some ⟨.legacy, if t.month = month then some month else none⟩
        else db.receipts.lookup id
      | none => db.receipts.lookup id := by
  have hmem : ∀ p : Transaction → Prop, [DecidablePred p] →
      ((∃ e ∈ db.transactions.entries.filter fun e => p e.2, e.1 = id) ↔
        ∃ t, db.transactions.lookup id = some t ∧ p t) := by
    intro p _
    constructor
    · rintro ⟨⟨i, t⟩, he, rfl⟩
      obtain ⟨he, hp⟩ := List.mem_filter.1 he
      exact ⟨t, AList.mem_entries_iff.1 he, of_decide_eq_true hp⟩
    · rintro ⟨t, ht, hp⟩
      exact ⟨⟨id, t⟩, List.mem_filter.2 ⟨AList.mem_entries_iff.2 ht, decide_eq_true hp⟩, rfl⟩
  have hboth : (db.transactions.entries.filter fun e => e.2.kind = .income).filter
      (fun e => e.2.month = month)
      = db.transactions.entries.filter fun e => e.2.kind = .income ∧ e.2.month = month := by
    rw [List.filter_filter]
    exact List.filter_congr fun e _ => by simp [Bool.and_comm]
  rw [legacyReceipts, lookup_foldl_insert, lookup_foldl_insert, hboth]
  simp only [hmem fun t => t.kind = .income ∧ t.month = month, hmem fun t => t.kind = .income]
  cases ht : db.transactions.lookup id with
  | none => simp
  | some t =>
    by_cases hk : t.kind = .income
    · by_cases hm : t.month = month <;> simp [hk, hm]
    · simp [hk]

/-- The database in which the ledger starts. -/
def activated (db : Database) (month : Month) (eur opening : Decimal) : Database :=
  { db with
    categories := db.categories.insert UNALLOCATED ⟨⟨.unallocated, 0⟩, true, 1000000⟩
    receipts := legacyReceipts db month
    planIncome := db.planIncome.insert month (newPlan (incomeSetting db month) eur)
    ledgerState := some ⟨month, opening⟩ }

/-- The steps of an activation. -/
structure Activated (db : Database) (today : Date) (cs : List BudgetCategorySnapshot)
    (remaining allocations : List Decimal) (actual eur : Decimal) (e : ExpectedIncome)
    (db' : Database) : Prop where
  first : (firstMonth db).isSome = true
  inactive : db.start = none
  categories : categories db today today.month = .ok cs
  balances : cs.mapM (fun c => Except.fromOption c.remainingEur "Missing category opening")
    = .ok remaining
  allocated : cs.mapM (fun c => Except.fromOption c.monthlyEur "Missing allocation")
    = .ok allocations
  cash : cash db today = .ok actual
  fresh : db.categories.lookup UNALLOCATED = none
  valued : settingEur db today.month = .ok eur
  unplanned : db.planIncome.lookup today.month = none
  income : income (activated db today.month eur 0) today.month today.month = .ok (some e)
  synced : sync (activated db today.month eur (actual - remaining.sum + e.outstandingEur
    - (e.amountEur - allocations.sum))) today none = .ok db'

theorem activate_ok (h : activate db today = .ok db') (hsound : Sound today db) :
    (db' = db ∧ (db.start.isSome = true ∨ firstMonth db = none)) ∨
    ∃ cs remaining allocations actual eur e,
      Activated db today cs remaining allocations actual eur e db' := by
  unfold activate at h
  split at h
  · rename_i hc
    rw [Except.ok.injEq] at h
    exact .inl ⟨h.symm, hc⟩
  · rename_i hc
    rw [not_or] at hc
    have hstart : db.start = none := by simpa using hc.1
    have hplan : db.planIncome.lookup today.month = none := by
      cases hl : db.planIncome.lookup today.month with
      | none => rfl
      | some p =>
        obtain ⟨_, s, hs, _⟩ := hsound.plans today.month (by simp [hl])
        rw [hstart] at hs
        cases hs
    simp only [Except.bind_eq_ok, Except.ensure_eq_ok, Except.fromOption_eq_ok] at h
    obtain ⟨cs, hcs, remaining, hr, allocations, hal, actual, hcash, _, ⟨hu, _⟩, _, _, db₁, hens,
      _, hinc, e, rfl, hs⟩ := h
    unfold ensureIncome at hens
    simp only [hplan, Except.bind_eq_ok, Except.pure_eq_ok] at hens
    obtain ⟨eur, heur, rfl⟩ := hens
    exact .inr ⟨cs, remaining, allocations, actual, eur, e, Option.ne_none_iff_isSome.1 hc.2, hstart,
      hcs, hr, hal, hcash, by simpa using hu, heur, hplan, hinc, hs⟩

theorem Activated.changes {cs : List BudgetCategorySnapshot} {remaining allocations : List Decimal}
    {actual eur : Decimal} {e : ExpectedIncome}
    (h : Activated db today cs remaining allocations actual eur e db') :
    ∃ db₁, Change today db db₁ ∧ sync db₁ today none = .ok db' := by
  refine ⟨_, ?_, h.synced⟩
  have hstate : db.ledgerState = none := by
    have hs := h.inactive
    unfold Database.start at hs
    simpa using hs
  exact .startLedger hstate h.first h.fresh (lookup_legacyReceipts db today.month) h.valued h.unplanned

end Server
