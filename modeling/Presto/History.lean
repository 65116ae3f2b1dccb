import Presto.Sync

/-!
# The calculated history

What `history_at` returns for each month: which months it covers, their status, and the entries of
their categories. Closed months are returned as they were frozen.
-/

namespace Budget

open BudgetLedger

/-- The balances after some months. -/
def Balances.after (balances : Balances) (history : List BudgetMonthSnapshot) : Balances :=
  history.foldl (fun b h => b.overlay h.categories) balances

/-- The entries of the loop, one for each month, each calculated from the balances before it. -/
theorem calculateFrom_append {db : Database} {first : Option Month} {current : Month}
    {xs ys : List Month} : ∀ {balances : Balances} {provisional : Bool}
      {history : List BudgetMonthSnapshot},
      calculateFrom db first current (xs ++ ys) balances provisional = .ok history →
      ∃ h₁ h₂ provisional', history = h₁ ++ h₂ ∧
        calculateFrom db first current xs balances provisional = .ok h₁ ∧
        calculateFrom db first current ys (balances.after h₁) provisional' = .ok h₂ := by
  induction xs with
  | nil =>
    intro balances provisional history h
    exact ⟨[], history, provisional, rfl, rfl, h⟩
  | cons x xs ih =>
    intro balances provisional history h
    simp only [List.cons_append, calculateFrom, Except.bind_eq_ok, Except.pure_eq_ok] at h
    obtain ⟨snapshot, hs, rest, hrest, rfl⟩ := h
    obtain ⟨h₁, h₂, p, rfl, e₁, e₂⟩ := ih hrest
    refine ⟨snapshot :: h₁, h₂, p, rfl, ?_, e₂⟩
    simp only [calculateFrom, Except.bind_eq_ok, Except.pure_eq_ok]
    exact ⟨snapshot, hs, h₁, e₁, rfl⟩

/-- Every entry is the result of its month from some balances. -/
theorem calculateFrom_forall₂ {db : Database} {first : Option Month} {current : Month}
    {ms : List Month} : ∀ {balances : Balances} {provisional : Bool}
      {history : List BudgetMonthSnapshot},
      calculateFrom db first current ms balances provisional = .ok history →
      List.Forall₂ (fun m h => ∃ b p, monthSnapshot db first b p m = .ok h) ms history := by
  induction ms with
  | nil =>
    intro balances provisional history h
    cases h
    exact .nil
  | cons m ms ih =>
    intro balances provisional history h
    simp only [calculateFrom, Except.bind_eq_ok, Except.pure_eq_ok] at h
    obtain ⟨snapshot, hs, rest, hrest, rfl⟩ := h
    exact .cons ⟨balances, provisional, hs⟩ (ih hrest)

/-- The three kinds of month results. -/
theorem monthSnapshot_ok {db : Database} {first : Option Month} {balances : Balances}
    {provisional : Bool} {m : Month} {h : BudgetMonthSnapshot}
    (hs : monthSnapshot db first balances provisional m = .ok h) : h.month = m ∧
      ((∃ c, db.closures.lookup m = some c ∧ h.status = .closed ∧ h.categories = c.snapshot) ∨
      (db.isClosed m = false ∧ ∃ f, first = some f ∧ f ≤ m ∧ h.status = .openMonth ∧
        (budgetCategories db).mapM (openCategory db f m balances) = .ok h.categories) ∨
      (db.isClosed m = false ∧ (∀ f, first = some f → m < f) ∧ h.status = .historical ∧
        h.categories = (budgetCategories db).map (historicalCategory db m))) := by
  unfold monthSnapshot at hs
  cases hc : db.closures.lookup m with
  | some c =>
    simp only [hc, Except.ok.injEq] at hs
    subst hs
    exact ⟨rfl, .inl ⟨c, rfl, rfl, rfl⟩⟩
  | none =>
    have hopen : db.isClosed m = false := by simp [Database.isClosed, hc]
    cases first with
    | none =>
      simp only [hc, Except.ok.injEq] at hs
      subst hs
      exact ⟨rfl, .inr (.inr ⟨hopen, by simp, rfl, rfl⟩)⟩
    | some f =>
      simp only [hc] at hs
      split at hs
      · simp only [Except.bind_eq_ok, Except.pure_eq_ok] at hs
        obtain ⟨results, hr, rfl⟩ := hs
        exact ⟨rfl, .inr (.inl ⟨hopen, f, rfl, by assumption, rfl, hr⟩)⟩
      · rename_i hle
        simp only [Except.ok.injEq] at hs
        subst hs
        exact ⟨rfl, .inr (.inr ⟨hopen, by simpa using hle, rfl, rfl⟩)⟩

theorem openCategory_id {db : Database} {first m : Month} {balances : Balances}
    {c : CategoryId × Category} {r : BudgetCategorySnapshot}
    (h : openCategory db first m balances c = .ok r) : r.categoryId = c.1 := by
  simp only [openCategory, Except.bind_eq_ok, Except.pure_eq_ok] at h
  obtain ⟨_, _, _, _, _, _, rfl⟩ := h
  rfl

theorem openCategories_id {db : Database} {first m : Month} {balances : Balances}
    {cs : List (CategoryId × Category)} {rs : List BudgetCategorySnapshot}
    (h : cs.mapM (openCategory db first m balances) = .ok rs) :
    rs.map (·.categoryId) = cs.map Prod.fst := by
  replace h := Except.mapM_eq_ok h
  induction h with
  | nil => rfl
  | cons hr _ ih => simp [openCategory_id hr, ih]

/-- Every calculated entry shows an allocation. -/
theorem openCategories_monthly {db : Database} {first m : Month} {balances : Balances}
    {cs : List (CategoryId × Category)} {rs : List BudgetCategorySnapshot}
    (h : cs.mapM (openCategory db first m balances) = .ok rs) :
    ∃ amounts, rs.mapM (fun r => Except.fromOption r.monthlyEur "Missing allocation") =
      .ok amounts := by
  refine Except.exists_mapM_ok fun r hr => ?_
  obtain ⟨c, _, hc⟩ := Except.exists_of_mem_mapM h hr
  simp only [openCategory, Except.bind_eq_ok, Except.pure_eq_ok] at hc
  obtain ⟨_, _, _, _, _, _, rfl⟩ := hc
  exact ⟨_, rfl⟩

theorem budgetCategories_nodup (db : Database) : ((budgetCategories db).map Prod.fst).Nodup := by
  unfold budgetCategories
  rw [((List.perm_insertionSort _ _).map _).nodup_iff, List.map_map]
  have h : (Prod.fst ∘ fun e : Sigma fun _ : CategoryId => Category => (e.1, e.2)) = Sigma.fst := rfl
  rw [h]
  exact List.Nodup.sublist (List.filter_sublist.map _) db.categories.nodupKeys

/-- The months of the history, in order. -/
theorem mem_historyMonths {db : Database} {through m : Month} :
    m ∈ historyMonths db through ↔
      ((∃ c, (db.snapshots.lookup (c, m)).isSome = true) ∧ m ≤ through) ∨
      ∃ f, firstMonth db = some f ∧ m ∈ Month.through f through := by
  unfold historyMonths
  rw [(List.perm_insertionSort _ _).mem_iff, List.mem_dedup, List.mem_append, List.mem_filter,
    List.mem_map]
  have hkeys : (∃ a ∈ db.snapshots.keys, a.2 = m) ↔
      ∃ c, (db.snapshots.lookup (c, m)).isSome = true := by
    constructor
    · rintro ⟨⟨c, _⟩, hk, rfl⟩
      exact ⟨c, AList.lookup_isSome.2 (AList.mem_keys.2 hk)⟩
    · rintro ⟨c, hc⟩
      exact ⟨(c, m), AList.mem_keys.1 (AList.lookup_isSome.1 hc), rfl⟩
  rw [hkeys]
  refine or_congr (and_congr Iff.rfl (by simp)) ?_
  cases firstMonth db <;> simp

theorem historyMonths_sorted (db : Database) (through : Month) :
    (historyMonths db through).Pairwise (· < ·) := by
  have hle := List.pairwise_insertionSort (r := (· ≤ · : Month → Month → Prop))
  have hnd : (historyMonths db through).Nodup := by
    unfold historyMonths
    rw [(List.perm_insertionSort _ _).nodup_iff]
    exact List.nodup_dedup _
  exact (hle _).imp₂ (fun a b h1 h2 => lt_of_le_of_ne h1 h2) hnd

/-! ## Databases with the same results -/

/-- A category has the same result in two databases that agree on its plan, its transactions and its
corrections, and in which the totals that the month reads agree. -/
theorem openCategory_congr {db db' : Database} {first m : Month} {balances : Balances}
    {c : CategoryId × Category}
    (hcarry : carryoverOf db' first m balances c.1 = carryoverOf db first m balances c.1)
    (hplan : monthlyAllocation db' c.1 m = monthlyAllocation db c.1 m)
    (hfacts : factActivity db' m c.1 = factActivity db m c.1)
    (hcorrections : correctionTotal db' m c.1 = correctionTotal db m c.1)
    (htotals : ∀ planned activity, monthlyAllocation db c.1 m = some planned →
      factActivity db m c.1 = .ok activity →
      (if inLedger db' m && materialized db' m then movementTotal db' m c.1 .allocation else planned) =
        (if inLedger db m && materialized db m then movementTotal db m c.1 .allocation else planned) ∧
      (if inLedger db' m then -movementTotal db' m c.1 .spending else activity.1) =
        (if inLedger db m then -movementTotal db m c.1 .spending else activity.1) ∧
      (if inLedger db' m then -movementTotal db' m c.1 .reallocation else activity.2) =
        (if inLedger db m then -movementTotal db m c.1 .reallocation else activity.2)) :
    openCategory db' first m balances c = openCategory db first m balances c := by
  unfold openCategory
  simp only [hcarry, hplan, hfacts, hcorrections]
  cases carryoverOf db first m balances c.1 with
  | none => rfl
  | some carry =>
    cases hp : monthlyAllocation db c.1 m with
    | none => rfl
    | some planned =>
      cases ha : factActivity db m c.1 with
      | error e => rfl
      | ok activity =>
        obtain ⟨h1, h2, h3⟩ := htotals planned activity hp ha
        refine congrArg Except.ok ?_
        simp only [h1, h2, h3]

/-- The loop gives the same months in two databases whose months give the same results. -/
theorem calculateFrom_congr {db db' : Database} {first : Option Month} {current : Month}
    (hclosures : db'.closures = db.closures) {ms : List Month}
    (hmonth : ∀ m ∈ ms, ∀ b p, monthSnapshot db' first b p m = monthSnapshot db first b p m) :
    ∀ (b : Balances) (p : Bool),
      calculateFrom db' first current ms b p = calculateFrom db first current ms b p := by
  induction ms with
  | nil => exact fun _ _ => rfl
  | cons m ms ih =>
    intro b p
    have hrest := ih fun m' hm' => hmonth m' (List.mem_cons_of_mem _ hm')
    have hclosed : db'.isClosed m = db.isClosed m := by rw [Database.isClosed, hclosures]; rfl
    unfold calculateFrom
    rw [hmonth m List.mem_cons_self, hclosed]
    simp only [hrest]

/-- Two databases with the same imported months, openings, categories and allocations. -/
structure SameBudget (db db' : Database) : Prop where
  closures : db'.closures = db.closures
  importMonths : db'.importMonths = db.importMonths
  snapshots : db'.snapshots = db.snapshots
  openings : db'.openings = db.openings
  periods : db'.periods = db.periods
  categories : budgetCategories db' = budgetCategories db

namespace SameBudget

variable {db db' : Database} (h : SameBudget db db')
include h

theorem firstMonth_eq : firstMonth db' = firstMonth db := by
  unfold firstMonth
  rw [h.importMonths]

theorem monthlyAllocation_eq (c : CategoryId) (m : Month) :
    monthlyAllocation db' c m = monthlyAllocation db c m := by
  unfold monthlyAllocation
  rw [h.periods]

theorem carryoverOf_eq (first m : Month) (b : Balances) (c : CategoryId) :
    carryoverOf db' first m b c = carryoverOf db first m b c := by
  unfold carryoverOf
  rw [h.openings, h.snapshots]

theorem isClosed_eq (m : Month) : db'.isClosed m = db.isClosed m := by
  unfold Database.isClosed
  rw [h.closures]

theorem historyMonths_eq (through : Month) : historyMonths db' through = historyMonths db through := by
  unfold historyMonths
  rw [h.snapshots, h.firstMonth_eq]

theorem monthSnapshot_eq {first : Option Month} {m : Month} {b : Balances} {p : Bool}
    (hopen : ∀ f, first = some f → f ≤ m → db.isClosed m = false → ∀ c ∈ budgetCategories db,
      openCategory db' f m b c = openCategory db f m b c) :
    monthSnapshot db' first b p m = monthSnapshot db first b p m := by
  unfold monthSnapshot
  have hhistorical : historicalCategory db' m = historicalCategory db m := by
    funext c
    unfold historicalCategory
    rw [h.snapshots, h.monthlyAllocation_eq]
  rw [h.closures, h.categories, hhistorical]
  cases hc : db.closures.lookup m with
  | some k => rfl
  | none =>
    have hnot : db.isClosed m = false := by simp [Database.isClosed, hc]
    cases first with
    | none => rfl
    | some f =>
      by_cases hle : f ≤ m
      · have hmap : (budgetCategories db).mapM (openCategory db' f m b) =
            (budgetCategories db).mapM (openCategory db f m b) :=
          Except.mapM_congr fun c hcm => hopen f rfl hle hnot c hcm
        simp only [if_pos hle, hmap]
      · simp only [if_neg hle]

/-- The calculated history is the same when the results of open months are. -/
theorem calculate_eq {through current : Month}
    (hopen : ∀ f m b, firstMonth db = some f → f ≤ m → m ∈ historyMonths db through →
      db.isClosed m = false → ∀ c ∈ budgetCategories db,
        openCategory db' f m b c = openCategory db f m b c) :
    calculate db' through current = calculate db through current := by
  have hbalances : openingBalances db' = openingBalances db := by
    funext id
    unfold openingBalances
    rw [h.firstMonth_eq, h.openings]
  unfold calculate
  rw [h.firstMonth_eq, h.historyMonths_eq, hbalances,
    calculateFrom_congr h.closures fun m hm b p => h.monthSnapshot_eq fun f hf hle hnot c hc =>
      hopen f m b hf hle hm hnot c hc]

end SameBudget

end Budget

namespace BudgetLedger

open Budget

/-- What `apply` does to a month: nothing before the ledger and to closed months, otherwise it adds
the Unallocated entry. -/
structure Applied (db : Database) (start : Month) (h h' : BudgetMonthSnapshot) : Prop where
  month : h'.month = h.month
  status : h'.status = h.status
  categories : (h' = h ∧ (h.month < start ∨ h.status = .closed)) ∨
    (start ≤ h.month ∧ h.status ≠ .closed ∧ ∃ carry components,
      unallocatedComponents db h = .ok components ∧
      h'.categories = h.categories ++
        [unallocatedSnapshot carry (movementKinds.map components).sum (components .reallocation)])

theorem applyFrom_forall₂ {db : Database} {start : Month} {history : List BudgetMonthSnapshot} :
    ∀ {unallocated : Decimal} {result : List BudgetMonthSnapshot},
      applyFrom db start unallocated history = .ok result →
      List.Forall₂ (Applied db start) history result := by
  induction history with
  | nil =>
    intro unallocated result h
    cases h
    exact .nil
  | cons m ms ih =>
    intro unallocated result h
    unfold applyFrom at h
    split at h
    · rename_i hlt
      simp only [Except.bind_eq_ok, Except.pure_eq_ok] at h
      obtain ⟨rest, hrest, rfl⟩ := h
      exact .cons ⟨rfl, rfl, .inl ⟨rfl, .inl hlt⟩⟩ (ih hrest)
    · rename_i hlt
      split at h
      · rename_i hc
        simp only [Except.bind_eq_ok, Except.pure_eq_ok] at h
        obtain ⟨_, _, rest, hrest, rfl⟩ := h
        exact .cons ⟨rfl, rfl, .inl ⟨rfl, .inr hc⟩⟩ (ih hrest)
      · rename_i hc
        simp only [Except.bind_eq_ok, Except.pure_eq_ok] at h
        obtain ⟨components, hcomp, rest, hrest, rfl⟩ := h
        exact .cons ⟨rfl, rfl, .inr ⟨not_lt.1 hlt, hc, unallocated, components, hcomp, rfl⟩⟩ (ih hrest)

/-- The months before the ledger pass through. -/
theorem applyFrom_before {db : Database} {start : Month} {unallocated : Decimal}
    {hs es : List BudgetMonthSnapshot} (hbefore : ∀ h ∈ hs, h.month < start) :
    applyFrom db start unallocated (hs ++ es) =
      (applyFrom db start unallocated es).map (hs ++ ·) := by
  induction hs with
  | nil => cases hes : applyFrom db start unallocated es <;> simp [hes, Except.map]
  | cons h hs ih =>
    rw [List.cons_append, applyFrom, if_pos (hbefore h List.mem_cons_self),
      ih fun x hx => hbefore x (List.mem_cons_of_mem _ hx)]
    cases applyFrom db start unallocated es <;> rfl

/-- `apply` succeeds when every open month of the ledger has its components. -/
theorem exists_applyFrom_ok {db : Database} {start : Month} {hs : List BudgetMonthSnapshot}
    (hall : ∀ h ∈ hs, start ≤ h.month → h.status ≠ .closed ∧
      ∃ components, unallocatedComponents db h = .ok components) :
    ∀ unallocated, ∃ r, applyFrom db start unallocated hs = .ok r := by
  induction hs with
  | nil => exact fun _ => ⟨[], rfl⟩
  | cons h hs ih =>
    intro unallocated
    have hrest := ih fun x hx => hall x (List.mem_cons_of_mem _ hx)
    unfold applyFrom
    split
    · obtain ⟨r, hr⟩ := hrest unallocated
      exact ⟨h :: r, by rw [hr]; rfl⟩
    · rename_i hle
      obtain ⟨hopen, components, hcomponents⟩ := hall h List.mem_cons_self (not_lt.1 hle)
      rw [if_neg hopen, hcomponents]
      obtain ⟨r, hr⟩ := hrest (unallocated + (movementKinds.map components).sum)
      exact ⟨_ :: r, by simp only [Except.bind_eq_ok, Except.pure_eq_ok]; exact ⟨_, rfl, r, hr, rfl⟩⟩

/-- One entry of `history_at`. -/
def EntryOf (db : Database) (m : Month) (h' : BudgetMonthSnapshot) : Prop :=
  ∃ b p h, monthSnapshot db (firstMonth db) b p m = .ok h ∧
    ((db.ledgerState = none ∧ h' = h) ∨ ∃ s, db.start = some s ∧ Applied db s h h')

/-- `history_at` has one entry for each of its months. -/
theorem historyAt_forall₂ {db : Database} {through current : Month}
    {history : List BudgetMonthSnapshot} (h : historyAt db through current = .ok history) :
    List.Forall₂ (EntryOf db) (historyMonths db through) history := by
  unfold historyAt calculate at h
  simp only [Except.bind_eq_ok, Except.ensure_eq_ok] at h
  obtain ⟨calculated, ⟨_, _, _, _, hc⟩, ha⟩ := h
  have hentries := calculateFrom_forall₂ hc
  unfold applyLedger at ha
  cases hl : db.ledgerState with
  | none =>
    simp only [hl, Except.ok.injEq] at ha
    subst ha
    refine hentries.imp fun m h hm => ?_
    obtain ⟨b, p, hs⟩ := hm
    exact ⟨b, p, h, hs, .inl ⟨hl, rfl⟩⟩
  | some state =>
    simp only [hl] at ha
    have hstart : db.start = some state.startMonth := by simp [Database.start, hl]
    refine hentries.comp (fun m h h' hm happ => ?_) (applyFrom_forall₂ ha)
    obtain ⟨b, p, hs⟩ := hm
    exact ⟨b, p, h, hs, .inr ⟨state.startMonth, hstart, happ⟩⟩

theorem historyAt_calendar {db : Database} {through current : Month}
    {history : List BudgetMonthSnapshot} (h : historyAt db through current = .ok history) :
    through.Calendar ∧ current.Calendar ∧ through ≤ current := by
  unfold historyAt calculate at h
  simp only [Except.bind_eq_ok, Except.ensure_eq_ok] at h
  obtain ⟨_, ⟨_, ⟨h1, h2⟩, _, h3, _⟩, _⟩ := h
  exact ⟨h1, h2, h3⟩

theorem EntryOf.month {db : Database} {m : Month} {h : BudgetMonthSnapshot} (he : EntryOf db m h) :
    h.month = m := by
  obtain ⟨b, p, h₀, hs, ⟨_, rfl⟩ | ⟨s, _, happ⟩⟩ := he
  · exact (monthSnapshot_ok hs).1
  · exact happ.month.trans (monthSnapshot_ok hs).1

/-- An entry of an open month from the first canonical one on is open. -/
theorem EntryOf.status {db : Database} {m f : Month} {h : BudgetMonthSnapshot}
    (he : EntryOf db m h) (hopen : db.isClosed m = false) (hf : firstMonth db = some f)
    (hle : f ≤ m) : h.status = .openMonth := by
  obtain ⟨b, p, h₀, hs, hcase⟩ := he
  have hstatus : h₀.status = .openMonth := by
    obtain ⟨_, ⟨c, hc, _⟩ | ⟨_, _, _, _, h1, _⟩ | ⟨_, hlt, _⟩⟩ := monthSnapshot_ok hs
    · simp [Database.isClosed, hc] at hopen
    · exact h1
    · exact absurd (hlt f hf) (not_lt.2 hle)
  rcases hcase with ⟨_, rfl⟩ | ⟨s, _, happ⟩
  · exact hstatus
  · exact happ.status.trans hstatus

/-- A closed month is returned as it was frozen. -/
theorem EntryOf.closed {db : Database} {m : Month} {c : Closure} {h : BudgetMonthSnapshot}
    (he : EntryOf db m h) (hc : db.closures.lookup m = some c) :
    h = ⟨m, c.snapshot, .closed, false⟩ := by
  obtain ⟨b, p, h₀, hs, hcase⟩ := he
  have h₀eq : h₀ = ⟨m, c.snapshot, .closed, false⟩ := by
    simp only [monthSnapshot, hc, Except.ok.injEq] at hs
    exact hs.symm
  subst h₀eq
  obtain ⟨_, rfl⟩ | ⟨s, _, happ⟩ := hcase
  · rfl
  · rcases happ.categories with ⟨rfl, _⟩ | ⟨_, hne, _⟩
    · rfl
    · exact absurd rfl hne

/-- The categories of an open entry exist. -/
theorem EntryOf.exist {today : Date} {db : Database} {m : Month} {h : BudgetMonthSnapshot}
    (he : EntryOf db m h) (hopen : db.isClosed m = false) (hsound : Server.Sound today db)
    {c : BudgetCategorySnapshot} (hc : c ∈ h.categories) :
    (db.categories.lookup c.categoryId).isSome = true := by
  have hreal : ∀ id, db.isRealCategory id = true → (db.categories.lookup id).isSome = true := by
    intro id hid
    unfold Database.isRealCategory at hid
    cases hl : db.categories.lookup id with
    | none => simp [hl] at hid
    | some x => rfl
  obtain ⟨b, p, h₀, hs, hcase⟩ := he
  have hcalc : ∀ c ∈ h₀.categories, (db.categories.lookup c.categoryId).isSome = true := by
    intro c hc
    obtain ⟨_, ⟨k, hk, _⟩ | ⟨_, f, _, _, _, hm⟩ | ⟨_, _, _, hm⟩⟩ := monthSnapshot_ok hs
    · simp [Database.isClosed, hk] at hopen
    · refine hreal _ (mem_budgetCategories.1 ?_).1
      rw [← openCategories_id hm]
      exact List.mem_map.2 ⟨c, hc, rfl⟩
    · rw [hm] at hc
      obtain ⟨x, hx, rfl⟩ := List.mem_map.1 hc
      exact hreal _ (mem_budgetCategories.1 (List.mem_map.2 ⟨x, hx, rfl⟩)).1
  rcases hcase with ⟨_, rfl⟩ | ⟨s, hstart, happ⟩
  · exact hcalc c hc
  · rcases happ.categories with ⟨rfl, _⟩ | ⟨_, _, _, _, _, hcat⟩
    · exact hcalc c hc
    · rw [hcat, List.mem_append, List.mem_singleton] at hc
      rcases hc with hc | rfl
      · exact hcalc c hc
      · exact hreal _ (hsound.unallocated.1 (by simp [hstart]))

/-- The entry that `categories` reads. -/
theorem categories_ok {db : Database} {today : Date} {m : Month}
    {cs : List BudgetCategorySnapshot} (h : categories db today m = .ok cs) :
    ∃ history entry, historyAt db m today.month = .ok history ∧ entry ∈ history ∧
      EntryOf db m entry ∧ entry.categories = cs := by
  simp only [categories, Except.bind_eq_ok, Except.fromOption_eq_ok] at h
  obtain ⟨history, hh, hfind⟩ := h
  obtain ⟨entry, hentry, rfl⟩ := Option.map_eq_some_iff.1 hfind
  have hmem := List.mem_of_find?_eq_some hentry
  have hmonth : entry.month = m := by simpa using List.find?_some hentry
  obtain ⟨m', _, he⟩ := (historyAt_forall₂ hh).exists_left hmem
  obtain rfl : m' = m := he.month.symm.trans hmonth
  exact ⟨history, entry, hh, hmem, he, rfl⟩

end BudgetLedger
