import Presto.Totals

/-!
# Activation

Starting the ledger switches the current month from reading transactions to reading movements. Every
receipt so far is marked as legacy, so it still acts on its category, and the movements that the
first `sync` books add up to what the transactions added up to.
-/

namespace Server

open Budget BudgetLedger

variable {today : Date} {db db' : Database}

/-! ## Before the activation -/

/-- Before the activation nothing is booked, and no coverage is frozen. -/
def InactiveSound (db : Database) : Prop :=
  db.start = none → db.movements = [] ∧ db.coverageClosures = ∅

theorem Change.inactiveSound (h : Change today db db') (hI : InactiveSound db) :
    InactiveSound db' := by
  cases h with
  | move _ hstart _ _ _ =>
    intro hnone
    change db.start = none at hnone
    rw [hnone] at hstart
    cases hstart
  | startLedger _ _ _ _ _ _ =>
    intro hnone
    simp [Database.start] at hnone
  | @close m _ cs _ _ _ _ _ _ _ _ _ _ hcoverage =>
    intro hnone
    have hstart : db.start = none := hnone
    have hin : inLedger { db with snapshots := freezeSnapshots m db.snapshots cs } m = false := by
      unfold inLedger
      rw [show ({ db with snapshots := freezeSnapshots m db.snapshots cs } : Database).start = none
        from hstart]
      rfl
    rw [coverage, if_neg (by simp [hin]), Except.ok.injEq] at hcoverage
    subst hcoverage
    exact hI hstart
  | _ => exact hI

theorem Changes.inactiveSound (h : Changes today db db') (hI : InactiveSound db) :
    InactiveSound db' := by
  induction h with
  | refl => exact hI
  | tail _ hstep ih => exact hstep.inactiveSound ih

theorem Reachable.inactiveSound (h : Reachable today db) : InactiveSound db := by
  obtain ⟨d₀, db₀, himp, hrun⟩ := h
  have key := hrun.induct (I := fun d db => Sound d db ∧ InactiveSound db)
    ⟨himp.sound, fun _ => ⟨himp.movements, himp.coverageClosures⟩⟩ fun _ _ call _ hv hle _ hs => by
      have hl := hs.1.later hv hle
      have hc := step_changes call hl
      exact ⟨hc.sound hl, hc.inactiveSound hs.2⟩
  exact key.2

end Server

namespace BudgetLedger

open Budget Server

variable {today : Date} {db db' : Database}

/-! ## Transactions and their movements -/

/-- A row whose movements mirror what it does to its categories. -/
def Mirrored (db : Database) (r : LedgerRow) : Prop :=
  booksSides db r = true ∨ ∀ c, r.fromCategoryId = some c ∨ r.toCategoryId = some c →
    db.isRealCategory c = false

theorem sideWants_ok {r : LedgerRow} {side : Option CategoryId} {eur : Option Decimal}
    {incoming : Bool} {c : CategoryId} {v : Decimal} (h : sideWants r side eur incoming c = .ok v) :
    (side ≠ some c ∧ v = 0) ∨ (side = some c ∧ ∃ a, v = (if incoming then a else -a) ∧
      ((r.kind = .reallocate ∧ a = r.amountDecimal.unsigned) ∨
        (r.kind ≠ .reallocate ∧ eur = some a))) := by
  unfold sideWants at h
  split at h
  · rename_i hside
    simp only [Except.bind_eq_ok, Except.pure_eq_ok] at h
    obtain ⟨a, ha, rfl⟩ := h
    refine .inr ⟨hside, a, rfl, ?_⟩
    split at ha
    · rename_i hkind
      cases ha
      exact .inl ⟨hkind, rfl⟩
    · rename_i hkind
      exact .inr ⟨hkind, Except.fromOption_eq_ok.1 ha⟩
  · rename_i hside
    cases h
    exact .inl ⟨hside, rfl⟩

/-- A row moves its activity: spending and reallocation with the opposite sign. -/
theorem rowActivity_eq {r : LedgerRow} {c : CategoryId} (hreal : db.isRealCategory c = true)
    (hbooks : booksSides db r = true) {spending reallocation : Decimal}
    (hs : rowWants db r c .spending = .ok spending)
    (hr : rowWants db r c .reallocation = .ok reallocation) (acc : Decimal × Decimal) :
    rowActivity c acc r = .ok (acc.1 - spending, acc.2 - reallocation) := by
  unfold rowWants at hs hr
  unfold rowActivity
  by_cases hkind : r.kind = .reallocate
  · have hsk : sideKind r = .reallocation := by simp [sideKind, hkind]
    rw [hsk, if_neg (by simp), if_neg (by simp), Except.ok.injEq] at hs
    rw [hsk, if_pos ⟨hbooks, rfl⟩, sidesWant, if_pos hreal] at hr
    simp only [Except.bind_eq_ok, Except.pure_eq_ok] at hr
    obtain ⟨out, hout, back, hback, rfl⟩ := hr
    subst hs
    rw [if_pos hkind, sub_zero]
    rcases sideWants_ok hout with ⟨hf, rfl⟩ | ⟨hf, a, rfl, ⟨_, rfl⟩ | ⟨hne, _⟩⟩
    · rcases sideWants_ok hback with ⟨ht, rfl⟩ | ⟨ht, b, rfl, ⟨_, rfl⟩ | ⟨hne, _⟩⟩
      · simp [hf, ht]
      · simp [hf, ht]
      · exact absurd hkind hne
    · rcases sideWants_ok hback with ⟨ht, rfl⟩ | ⟨ht, b, rfl, ⟨_, rfl⟩ | ⟨hne, _⟩⟩
      · simp [hf, ht]
      · simp [hf, ht]
      · exact absurd hkind hne
    · exact absurd hkind hne
  · have hsk : sideKind r = .spending := by simp [sideKind, hkind]
    rw [hsk, if_pos ⟨hbooks, rfl⟩, sidesWant, if_pos hreal] at hs
    rw [hsk, if_neg (by simp), if_neg (by simp), Except.ok.injEq] at hr
    simp only [Except.bind_eq_ok, Except.pure_eq_ok] at hs
    obtain ⟨out, hout, back, hback, rfl⟩ := hs
    subst hr
    rw [if_neg hkind, sub_zero]
    simp only [Except.bind_eq_ok, Except.pure_eq_ok, Prod.mk.injEq]
    rcases sideWants_ok hout with ⟨hf, rfl⟩ | ⟨hf, a, rfl, ⟨hre, _⟩ | ⟨_, ha⟩⟩
    · rcases sideWants_ok hback with ⟨ht, rfl⟩ | ⟨ht, b, rfl, ⟨hre, _⟩ | ⟨_, hb⟩⟩
      · exact ⟨acc.1, by rw [if_neg hf], acc.1, by rw [if_neg ht], by simp⟩
      · exact absurd hre hkind
      · exact ⟨acc.1, by rw [if_neg hf], acc.1 - back, by rw [if_pos ht, hb]; rfl, by simp⟩
    · exact absurd hre hkind
    · rcases sideWants_ok hback with ⟨ht, rfl⟩ | ⟨ht, b, rfl, ⟨hre, _⟩ | ⟨_, hb⟩⟩
      · exact ⟨acc.1 + a, by rw [if_pos hf, ha]; rfl, acc.1 + a, by rw [if_neg ht], by simp⟩
      · exact absurd hre hkind
      · refine ⟨acc.1 + a, by rw [if_pos hf, ha]; rfl, acc.1 + a - back,
          by rw [if_pos ht, hb]; rfl, ?_⟩
        simp only [Bool.false_eq_true, if_false]
        exact ⟨by abel, trivial⟩

/-- A row without a side of the category wants nothing of it. -/
theorem rowWants_no_side {r : LedgerRow} {c : CategoryId} {k : MovementKind}
    (hk : k = .spending ∨ k = .reallocation) (hf : r.fromCategoryId ≠ some c)
    (ht : r.toCategoryId ≠ some c) : rowWants db r c k = .ok 0 := by
  unfold rowWants
  split
  · unfold sidesWant sideWants
    rw [if_neg hf, if_neg ht]
    split
    · rfl
    · rfl
  · rw [if_neg]
    rintro ⟨_, rfl, _⟩
    rcases hk with hk | hk <;> cases hk

/-- What the transactions of a month did to a category is what its movements do, once every row is
mirrored by its movements. -/
theorem factActivity_eq {m : Month} {c : CategoryId} (hreal : db.isRealCategory c = true)
    (hmirror : ∀ r ∈ db.rows, r.month = m → Mirrored db r)
    (hwants : ∀ k, ∀ r ∈ db.rows, r.month = m → rowWants db r c k = .ok (valueOf (rowWants db r c k))) :
    factActivity db m c =
      .ok (-((db.rows.filter fun r => r.month = m).map fun r =>
          valueOf (rowWants db r c .spending)).sum,
        -((db.rows.filter fun r => r.month = m).map fun r =>
          valueOf (rowWants db r c .reallocation)).sum) := by
  unfold factActivity
  have hloop : ∀ (rows : List LedgerRow) (acc : Decimal × Decimal), (∀ r ∈ rows, r ∈ db.rows) →
      (rows.filter fun r => r.month = m ∧
        (r.fromCategoryId = some c ∨ r.toCategoryId = some c)).foldlM (rowActivity c) acc =
      .ok (acc.1 - ((rows.filter fun r => r.month = m).map fun r =>
          valueOf (rowWants db r c .spending)).sum,
        acc.2 - ((rows.filter fun r => r.month = m).map fun r =>
          valueOf (rowWants db r c .reallocation)).sum) := by
    intro rows
    induction rows with
    | nil =>
      intro acc _
      simp
      rfl
    | cons r rows ih =>
      intro acc hrows
      have hrest := fun acc => ih acc fun r' hr' => hrows r' (List.mem_cons_of_mem _ hr')
      have hmem := hrows r List.mem_cons_self
      by_cases hm : r.month = m
      · rw [List.filter_cons_of_pos (p := fun r : LedgerRow => decide (r.month = m)) (by simpa using hm),
          List.map_cons, List.map_cons, List.sum_cons, List.sum_cons]
        by_cases hside : r.fromCategoryId = some c ∨ r.toCategoryId = some c
        · rw [List.filter_cons_of_pos (by simp [hm, hside]), List.foldlM_cons]
          have hbooks : booksSides db r = true := (hmirror r hmem hm).resolve_right fun h => by
            rw [h c hside] at hreal
            cases hreal
          rw [rowActivity_eq hreal hbooks (hwants .spending r hmem hm)
            (hwants .reallocation r hmem hm) acc]
          refine (hrest _).trans ?_
          simp only [sub_sub]
        · rw [List.filter_cons_of_neg (by simp [hside]), hrest acc]
          rw [not_or] at hside
          rw [rowWants_no_side (.inl rfl) hside.1 hside.2,
            rowWants_no_side (.inr rfl) hside.1 hside.2, valueOf_ok, zero_add, zero_add]
      · rw [List.filter_cons_of_neg (by simp [hm]), List.filter_cons_of_neg (by simp [hm]), hrest acc]
  refine (hloop db.rows (0, 0) fun r hr => hr).trans ?_
  simp

/-! ## The first month of the ledger -/

/-- Transfers and reconciliations act on no real category. -/
def TransfersUnreal (db : Database) : Prop :=
  ∀ r ∈ db.rows, r.kind = .transfer ∨ r.kind = .reconciliation →
    ∀ c, r.fromCategoryId = some c ∨ r.toCategoryId = some c → db.isRealCategory c = false

/-- The foreign keys of the transactions: the categories they name exist. -/
def CategoriesExist (db : Database) : Prop :=
  ∀ r ∈ db.rows, ∀ c, r.fromCategoryId = some c ∨ r.toCategoryId = some c →
    (db.categories.lookup c).isSome = true

/-- The database right after the ledger was started from `db`. -/
structure Started (db : Database) (today : Date) (eur opening : Decimal) (db' : Database) : Prop where
  eq : ∃ P M, db' = { activated db today.month eur opening with planIncome := P, movements := M }
  inactive : db.start = none
  first : (firstMonth db).isSome = true
  fresh : db.categories.lookup UNALLOCATED = none
  valued : settingEur db today.month = .ok eur
  plan : ∀ m p, db'.planIncome.lookup m = some p →
    m = today.month ∧ p = newPlan (incomeSetting db today.month) eur
  planned : (db'.planIncome.lookup today.month).isSome = true
  recomputed : Recomputed db' today.month today.month
  sound : Sound today db'
  before : Sound today db

namespace Started

variable {eur opening : Decimal} (h : Started db today eur opening db')
include h

theorem rows : db'.rows = db.rows := by
  obtain ⟨P, M, rfl⟩ := h.eq
  rfl

theorem start : db'.start = some today.month := by
  obtain ⟨P, M, rfl⟩ := h.eq
  rfl

theorem isRealCategory {c : CategoryId} (hc : c ≠ UNALLOCATED) :
    db'.isRealCategory c = db.isRealCategory c := by
  obtain ⟨P, M, rfl⟩ := h.eq
  simp [Database.isRealCategory, activated, AList.lookup_insert_ne hc]

theorem sameBudget : SameBudget db db' := by
  have hfresh := h.fresh
  obtain ⟨P, M, rfl⟩ := h.eq
  refine ⟨rfl, rfl, rfl, rfl, rfl, ?_⟩
  have hentries : (db.categories.insert UNALLOCATED ⟨⟨.unallocated, 0⟩, true, 1000000⟩).entries =
      ⟨UNALLOCATED, ⟨⟨.unallocated, 0⟩, true, 1000000⟩⟩ :: db.categories.entries :=
    AList.entries_insert_of_notMem (AList.lookup_eq_none.1 hfresh)
  unfold budgetCategories
  simp only [activated]
  rw [hentries]
  simp

theorem isClosed : db'.isClosed today.month = false := by
  refine Bool.eq_false_iff.2 fun hclosed => ?_
  exact lt_irrefl _ (h.sound.closures _ hclosed).2.1

theorem treatment {r : LedgerRow} (hr : r ∈ db.rows) (hkind : r.kind = .income) :
    (db'.receipts.lookup r.id).map (·.treatment) = some .legacy := by
  obtain ⟨t, ht, hrow⟩ := mem_rows.1 hr
  have hk : t.kind = .income := by
    rw [hrow] at hkind
    exact hkind
  obtain ⟨P, M, rfl⟩ := h.eq
  simp [activated, lookup_legacyReceipts, ht, hk]

theorem mirrored (hunreal : TransfersUnreal db) (hexist : CategoriesExist db) {r : LedgerRow}
    (hr : r ∈ db'.rows) : Mirrored db' r := by
  rw [h.rows] at hr
  unfold Mirrored booksSides
  cases hkind : r.kind with
  | expense => exact .inl rfl
  | reallocate => exact .inl rfl
  | income =>
    refine .inl ?_
    simp only [h.treatment hr hkind]
    simp
  | transfer =>
    refine .inr fun c hc => ?_
    have hne : c ≠ UNALLOCATED := by
      rintro rfl
      have := hexist r hr _ hc
      rw [h.fresh] at this
      cases this
    rw [h.isRealCategory hne]
    exact hunreal r hr (.inl hkind) c hc
  | reconciliation =>
    refine .inr fun c hc => ?_
    have hne : c ≠ UNALLOCATED := by
      rintro rfl
      have := hexist r hr _ hc
      rw [h.fresh] at this
      cases this
    rw [h.isRealCategory hne]
    exact hunreal r hr (.inr hkind) c hc

/-- Before the activation month the ledger records nothing, later months have no entries yet, and in
the activation month the movements add up to what the transactions did. -/
theorem openCategory_eq (hunreal : TransfersUnreal db) (hexist : CategoriesExist db) {f m : Month}
    {b : Balances} {c : CategoryId × Category} (hc : c ∈ budgetCategories db) :
    openCategory db' f m b c = openCategory db f m b c := by
  have hbudget := h.sameBudget
  have hin : inLedger db m = false := by simp [inLedger, h.inactive]
  have hfacts : factActivity db' m c.1 = factActivity db m c.1 := by
    unfold factActivity
    rw [h.rows]
  refine openCategory_congr (hbudget.carryoverOf_eq f m b c.1) (hbudget.monthlyAllocation_eq c.1 m)
    hfacts ?_ fun planned activity hplan hactivity => ?_
  · obtain ⟨P, M, rfl⟩ := h.eq
    rfl
  have hmem : c.1 ∈ (budgetCategories db').map Prod.fst := by
    rw [hbudget.categories]
    exact List.mem_map.2 ⟨c, hc, rfl⟩
  have hreal := (mem_budgetCategories.1 hmem).1
  simp only [hin, Bool.false_and, Bool.false_eq_true, if_false]
  rcases lt_trichotomy m today.month with hlt | rfl | hgt
  · have hin' : inLedger db' m = false := by simp [inLedger, h.start, hlt]
    simp [hin']
  · have hin' : inLedger db' today.month = true := by simp [inLedger, h.start]
    have hmat : materialized db' today.month = true := h.planned
    simp only [hin', hmat, Bool.and_self, if_true]
    have hallocation := movementTotal_allocation h.sound.movements h.recomputed hmem
    rw [hbudget.monthlyAllocation_eq, hplan, Option.some.injEq] at hallocation
    have htotals := factActivity_eq hreal (fun r hr _ => h.mirrored hunreal hexist hr)
      fun k => (sum_transactionSources h.recomputed c.1 k).2
    rw [hfacts, hactivity, Except.ok.injEq] at htotals
    rw [movementTotal_rows h.sound.movements h.recomputed c.1 (.inl rfl),
      movementTotal_rows h.sound.movements h.recomputed c.1 (.inr rfl), htotals]
    exact ⟨hallocation.symm, rfl, rfl⟩
  · have hin' : inLedger db' m = true := by simp [inLedger, h.start, hgt.le]
    have hmat : materialized db' m = false := by
      refine Bool.eq_false_iff.2 fun hsome => ?_
      obtain ⟨p, hp⟩ := Option.isSome_iff_exists.1 hsome
      exact hgt.ne' (h.plan m p hp).1
    have hnone : ∀ k, movementTotal db' m c.1 k = 0 := fun k =>
      Journal.volume_eq_zero fun e he hp =>
        absurd (h.sound.movements e he).2 (by rw [hp.1]; exact not_le.2 hgt)
    have hzero : activity = (0, 0) := by
      have hrows : (db.rows.filter fun r => r.month = m ∧
          (r.fromCategoryId = some c.1 ∨ r.toCategoryId = some c.1)) = [] := by
        refine List.filter_eq_nil_iff.2 fun r hr hp => ?_
        obtain ⟨t, ht, hrow⟩ := mem_rows.1 hr
        have hreached := (h.before.dates r.id t ht).2
        have hm : r.month = m := (of_decide_eq_true hp).1
        rw [hrow] at hm
        change t.month = m at hm
        rw [hm] at hreached
        exact absurd hreached (not_le.2 hgt)
      unfold factActivity at hactivity
      rw [hrows] at hactivity
      exact (Except.ok.inj hactivity).symm
    simp [hin', hmat, hnone, hzero]

theorem calculate_eq (hunreal : TransfersUnreal db) (hexist : CategoriesExist db)
    (through current : Month) : calculate db' through current = calculate db through current :=
  h.sameBudget.calculate_eq fun _ _ _ _ _ _ _ _ hc => h.openCategory_eq hunreal hexist hc

/-! ## Unallocated in the activation month -/

theorem no_unallocated_side (hexist : CategoriesExist db) {r : LedgerRow} (hr : r ∈ db'.rows) :
    r.fromCategoryId ≠ some UNALLOCATED ∧ r.toCategoryId ≠ some UNALLOCATED := by
  rw [h.rows] at hr
  constructor
  · intro hside
    have hsome := hexist r hr _ (.inl hside)
    rw [h.fresh] at hsome
    cases hsome
  · intro hside
    have hsome := hexist r hr _ (.inr hside)
    rw [h.fresh] at hsome
    cases hsome

/-- Every receipt is a legacy one, so no row acts on Unallocated. -/
theorem rowWants_unallocated (hexist : CategoriesExist db) {r : LedgerRow} (hr : r ∈ db'.rows)
    (k : MovementKind) : rowWants db' r UNALLOCATED k = .ok 0 := by
  obtain ⟨hf, ht⟩ := h.no_unallocated_side hexist hr
  unfold rowWants
  split
  · unfold sidesWant sideWants
    rw [if_neg hf, if_neg ht]
    split
    · rfl
    · rfl
  · rw [if_neg]
    rintro ⟨hbooks, _⟩
    rw [booksIncome, Bool.and_eq_true, decide_eq_true_eq, decide_eq_true_eq] at hbooks
    rw [h.rows] at hr
    have htreatment := h.treatment hr hbooks.1
    rw [htreatment] at hbooks
    simp at hbooks

theorem legacy_of_matched {m current : Month} {amount plannedEur : Decimal} {currency : Currency}
    {receipts : List MatchedReceipt}
    (hm : matchedReceipts db' m current amount currency plannedEur = .ok receipts)
    {r : MatchedReceipt} (hr : r ∈ receipts) : r.treatment = .legacy := by
  obtain ⟨row, hrow, hf⟩ := Except.exists_of_mem_mapM hm hr
  rw [matchedRows, (List.perm_insertionSort _ _).mem_iff, List.mem_filter, isMatched] at hrow
  obtain ⟨hrow, hmatch⟩ := hrow
  simp only [Bool.and_eq_true, decide_eq_true_eq] at hmatch
  rw [h.rows] at hrow
  simp only [matchedReceipt, Except.bind_eq_ok, Except.pure_eq_ok] at hf
  obtain ⟨_, _, _, _, rfl⟩ := hf
  simp [h.treatment hrow hmatch.1.1.1]

/-- Apart from funding and allocation nothing is booked on Unallocated. -/
theorem movementTotal_other (hexist : CategoriesExist db) {k : MovementKind} (hf : k ≠ .funding)
    (ha : k ≠ .allocation) : movementTotal db' today.month UNALLOCATED k = 0 := by
  refine movementTotal_zero h.recomputed fun e he hm hc hk => ?_
  obtain ⟨hwell, _⟩ := h.sound.movements e he
  have hbalance := h.recomputed e.key hm
  generalize Journal.balance db'.movements e.key = v at hbalance
  obtain ⟨⟨m, c, k', key⟩, amount, note⟩ := e
  obtain rfl : m = today.month := hm
  obtain rfl : c = UNALLOCATED := hc
  obtain rfl : k' = k := hk
  cases key with
  | transaction id =>
    cases ht : db'.transactions.lookup id with
    | none => simp [recompute, ht]
    | some t =>
      have hrow : t.row id ∈ db'.rows := mem_rows.2 ⟨t, ht, rfl⟩
      simp [recompute, ht, h.rowWants_unallocated hexist hrow]
  | excess m =>
    have hkind : k' = .income := by
      cases k' <;> first | rfl | exact hwell.2.elim
    subst hkind
    simp only [recompute, and_self, if_true] at hbalance ⊢
    rw [hbalance]
    unfold excessWants at hbalance
    cases hp : db'.planIncome.lookup m with
    | none =>
      simp only [hp] at hbalance
      exact hbalance.symm
    | some p =>
      simp only [hp, Except.bind_eq_ok] at hbalance
      obtain ⟨receipts, hr, hv⟩ := hbalance
      rw [monthExcess_zero (fun r hmem hp => hp.1 (h.legacy_of_matched hr hmem)) hv]
  | complete m =>
    have hkind : k' = .settlement := by
      cases k' <;> first | rfl | exact hwell.2.elim
    subst hkind
    -- the only expectation is the new one, which is not complete
    obtain ⟨_, _, p, hp, hcompleted⟩ := hwell
    rw [(h.plan m p hp).2] at hcompleted
    cases hcompleted
  | correction op c =>
    have hkind : k' = .correction := by
      cases k' <;> first | rfl | exact hwell.2.elim
    subst hkind
    obtain ⟨_, hsame, r, hr, _, i, hi, hid⟩ := hwell
    change c = UNALLOCATED at hsame
    have hcorrections : db'.corrections = db.corrections := by
      obtain ⟨P, M, rfl⟩ := h.eq
      rfl
    rw [hcorrections] at hr
    have hreal := (h.before.corrections op r hr).2.2.2 i hi
    rw [hid, hsame, Database.isRealCategory, h.fresh] at hreal
    cases hreal
  | expected m =>
    cases k' with
    | funding => exact absurd rfl hf
    | _ => exact hwell.2.elim
  | allocation m c =>
    cases k' with
    | allocation => exact absurd rfl ha
    | _ => exact hwell.2.elim
  | allocations m =>
    cases k' with
    | allocation => exact absurd rfl ha
    | _ => exact hwell.2.elim

/-- Funding and allocation are the only components, also when the funding is nothing. -/
theorem components {e : BudgetMonthSnapshot} {f : Month} {b : Balances} {amounts : List Decimal}
    (hexist : CategoriesExist db) (hmonth : e.month = today.month)
    (hcs : (budgetCategories db).mapM (openCategory db f today.month b) = .ok e.categories)
    (hamounts : e.categories.mapM (fun r => Except.fromOption r.monthlyEur "Missing allocation") =
      .ok amounts) :
    ∃ components, unallocatedComponents db' e = .ok components ∧
      (movementKinds.map components).sum = eur - amounts.sum := by
  have hsum : ∀ components : MovementKind → Decimal, components .funding = eur →
      components .allocation = 0 - amounts.sum →
      (∀ k, k ≠ .funding → k ≠ .allocation → components k = 0) →
      (movementKinds.map components).sum = eur - amounts.sum := by
    intro components hf ha hother
    simp [movementKinds, hf, ha, hother]
    abel
  unfold unallocatedComponents
  rw [hmonth]
  by_cases hfunding : hasFunding db' today.month
  · rw [if_pos hfunding]
    refine ⟨_, rfl, hsum _ ?_ ?_ fun k => h.movementTotal_other hexist⟩
    · obtain ⟨p, hp⟩ := Option.isSome_iff_exists.1 h.planned
      rw [movementTotal_funding h.sound.movements h.recomputed, hp, (h.plan _ p hp).2]
      rfl
    · obtain ⟨al, hal, htotal⟩ := movementTotal_allocations h.sound.movements h.recomputed
      have hsame : monthAllocations db' today.month = monthAllocations db today.month := by
        unfold monthAllocations
        rw [h.sameBudget.categories]
        simp only [h.sameBudget.monthlyAllocation_eq]
      rw [hsame] at hal
      have hplanned : (inLedger db today.month && materialized db today.month) = false := by
        simp [inLedger, h.inactive]
      rw [htotal, allocations_eq (Except.mapM_eq_ok hcs) (Except.mapM_eq_ok hal)
        (fun _ _ _ _ => by rw [hplanned]; rfl) (Except.mapM_eq_ok hamounts)]
  · have hsetting : settingEur db' today.month = .ok eur := by
      have hvalued := h.valued
      obtain ⟨P, M, rfl⟩ := h.eq
      exact hvalued
    rw [if_neg hfunding, hsetting, hamounts]
    exact ⟨_, rfl, hsum _ rfl rfl fun k hf ha => by
      have hother := h.movementTotal_other hexist hf ha
      cases k <;> first | exact absurd rfl hf | exact absurd rfl ha | exact hother⟩

/-! ## Coverage in the activation month -/

theorem plannedMonths_eq : plannedMonths db' = [today.month] := by
  have hkeys : db'.planIncome.keys = [today.month] := by
    have hall : ∀ m ∈ db'.planIncome.keys, m = today.month := fun m hm => by
      obtain ⟨p, hp⟩ := Option.isSome_iff_exists.1 (AList.lookup_isSome.2 (AList.mem_keys.2 hm))
      exact (h.plan m p hp).1
    have hmem : today.month ∈ db'.planIncome.keys := AList.mem_keys.1 (AList.lookup_isSome.1 h.planned)
    have hnodup := db'.planIncome.keys_nodup
    cases hk : db'.planIncome.keys with
    | nil => simp [hk] at hmem
    | cons m ms =>
      rw [hk] at hall hnodup
      obtain rfl := hall m List.mem_cons_self
      cases ms with
      | nil => rfl
      | cons m' ms =>
        have heq := hall m' (by simp)
        simp [heq] at hnodup
  rw [plannedMonths, hkeys]
  rfl

theorem cash_eq (date : Date) : cash db' date = cash db date := by
  obtain ⟨P, M, rfl⟩ := h.eq
  rfl

/-- The opening does not change the expectation it was computed from. -/
theorem income_eq {e : ExpectedIncome}
    (he : income (activated db today.month eur 0) today.month today.month = .ok (some e)) :
    income db' today.month today.month = .ok (some e) ∧ e.amountEur = eur := by
  obtain ⟨p, hp⟩ := Option.isSome_iff_exists.1 h.planned
  have hplan := (h.plan _ p hp).2
  rw [hplan] at hp
  have hp₀ : (activated db today.month eur 0).planIncome.lookup today.month =
      some (newPlan (incomeSetting db today.month) eur) := by simp [activated]
  obtain ⟨P, M, rfl⟩ := h.eq
  unfold income at he ⊢
  simp only [hp₀] at he
  simp only [hp]
  refine ⟨he, ?_⟩
  simp only [Except.bind_eq_ok, Except.pure_eq_ok, Option.some.injEq] at he
  obtain ⟨_, _, _, _, rfl⟩ := he
  rfl

omit h in
/-- The remaining balances of the categories, Unallocated last. -/
theorem remaining_pairs {cs : List BudgetCategorySnapshot} {remaining : List Decimal}
    {u : BudgetCategorySnapshot} {v : Decimal} (hu : u.categoryId = UNALLOCATED)
    (hv : u.remainingEur = some v) (hids : ∀ r ∈ cs, r.categoryId ≠ UNALLOCATED)
    (hcs : List.Forall₂ (fun c a => Except.fromOption c.remainingEur "Missing category opening" = .ok a)
      cs remaining) :
    ∃ ps, ((cs ++ [u]).mapM fun c =>
        (Except.fromOption c.remainingEur "Missing remaining category budget").map fun r =>
          (c.categoryId, r)) = .ok (ps ++ [(UNALLOCATED, v)]) ∧
      ps.map (·.2) = remaining ∧ ∀ p ∈ ps, p.1 ≠ UNALLOCATED := by
  induction hcs with
  | nil =>
    refine ⟨[], ?_, rfl, by simp⟩
    simp only [List.nil_append, List.mapM_cons, hu, hv]
    rfl
  | @cons c a cs remaining hc _ ih =>
    obtain ⟨ps, hps, rfl, hout⟩ := ih fun r hr => hids r (List.mem_cons_of_mem _ hr)
    refine ⟨(c.categoryId, a) :: ps, ?_, rfl, ?_⟩
    · rw [List.cons_append, List.mapM_cons, hps, Except.fromOption_eq_ok.1 hc]
      rfl
    · intro p hp
      rcases List.mem_cons.1 hp with rfl | hp
      · exact hids c List.mem_cons_self
      · exact hout p hp

omit h in
theorem remaining_sum {cs : List BudgetCategorySnapshot} {remaining : List Decimal}
    (hcs : List.Forall₂ (fun c a => Except.fromOption c.remainingEur "Missing category opening" = .ok a)
      cs remaining) :
    (∀ r ∈ cs, r.remainingEur.isSome = true) ∧
      remaining.sum = (cs.map fun r => r.remainingEur.getD 0).sum := by
  induction hcs with
  | nil => exact ⟨by simp, rfl⟩
  | cons hc _ ih =>
    have hsome := Except.fromOption_eq_ok.1 hc
    refine ⟨fun r hr => ?_, by simp [hsome, ih.2]⟩
    rcases List.mem_cons.1 hr with rfl | hr
    · simp [hsome]
    · exact ih.1 r hr

theorem coverage_eq {cs : List BudgetCategorySnapshot} {remaining : List Decimal}
    {u : BudgetCategorySnapshot} {v actual : Decimal} {e : ExpectedIncome}
    (hclosures : db.coverageClosures = ∅) (hcash : cash db today = .ok actual)
    (he : income (activated db today.month eur 0) today.month today.month = .ok (some e))
    (hids : ∀ r ∈ cs, r.categoryId ≠ UNALLOCATED)
    (hcs : cs.mapM (fun c => Except.fromOption c.remainingEur "Missing category opening") =
      .ok remaining)
    (hu : u.categoryId = UNALLOCATED) (hv : u.remainingEur = some v) :
    coverage db' today today.month (cs ++ [u]) = .ok (some ⟨actual, remaining.sum, v,
      e.outstandingEur, actual - remaining.sum, actual - remaining.sum + e.outstandingEur, [e],
      false⟩) := by
  obtain ⟨ps, hps, rfl, hout⟩ := remaining_pairs hu hv hids (Except.mapM_eq_ok hcs)
  have hnone : db'.coverageClosures.lookup today.month = none := by
    obtain ⟨P, M, rfl⟩ := h.eq
    simp [activated, hclosures]
  have hin : inLedger db' today.month = true := by simp [inLedger, h.start]
  have hassigned : (ps ++ [(UNALLOCATED, v)]).filter (fun c => c.1 ≠ UNALLOCATED) = ps := by
    rw [List.filter_append, List.filter_eq_self.2 fun p hp => by simpa using hout p hp]
    simp
  have hlast : (ps ++ [(UNALLOCATED, v)]).filter (fun c => c.1 = UNALLOCATED) =
      [(UNALLOCATED, v)] := by
    rw [List.filter_append, List.filter_eq_nil_iff.2 fun p hp => by simpa using hout p hp]
    simp
  unfold coverage
  simp only [hin, if_true, hnone, hps, h.plannedMonths_eq, h.cash_eq, hcash, Except.bind_eq_ok,
    Except.pure_eq_ok]
  refine ⟨actual, rfl, _, rfl, [e], ?_, ?_⟩
  · simp [(h.income_eq he).1, Except.fromOption, bind, Except.bind, pure, Except.pure]
  · rw [hassigned, hlast]
    simp

end Started

/-! ## The results are preserved -/

/-- The same results, but for entries of Unallocated. -/
structure SameResults (h h' : BudgetMonthSnapshot) : Prop where
  month : h'.month = h.month
  status : h'.status = h.status
  categories : ∃ u, h'.categories = h.categories ++ u ∧ ∀ r ∈ u, r.categoryId = UNALLOCATED

theorem Applied.sameResults {start : Month} {h h' : BudgetMonthSnapshot}
    (happ : Applied db start h h') : SameResults h h' := by
  refine ⟨happ.month, happ.status, ?_⟩
  rcases happ.categories with ⟨rfl, _⟩ | ⟨_, _, carry, components, _, hcat⟩
  · exact ⟨[], by simp, by simp⟩
  · refine ⟨_, hcat, fun r hr => ?_⟩
    rw [List.mem_singleton.1 hr]
    rfl

theorem historyAt_inactive (hinactive : db.start = none) (through current : Month) :
    historyAt db through current = calculate db through current := by
  have hstate : db.ledgerState = none := by
    unfold Database.start at hinactive
    simpa using hinactive
  unfold historyAt applyLedger
  rw [hstate]
  cases calculate db through current <;> rfl

/-- The months up to the current one, the current month last. -/
theorem historyMonths_last {f m : Month} (hf : firstMonth db = some f) (hfc : f.Calendar)
    (hm : m.Calendar) (hle : f ≤ m) : ∃ xs, historyMonths db m = xs ++ [m] ∧ ∀ x ∈ xs, x < m := by
  have hmem : m ∈ historyMonths db m :=
    mem_historyMonths.2 (.inr ⟨f, hf, (Month.mem_through hfc).2 ⟨hm, hle, le_rfl⟩⟩)
  obtain ⟨xs, ys, hsplit⟩ := List.append_of_mem hmem
  have hsorted := historyMonths_sorted db m
  rw [hsplit, List.pairwise_append] at hsorted
  obtain ⟨_, htail, hbefore⟩ := hsorted
  have hys : ys = [] := by
    refine List.eq_nil_iff_forall_not_mem.2 fun y hy => ?_
    have hlt := (List.pairwise_cons.1 htail).1 y hy
    have hthrough : y ≤ m := by
      have hy' : y ∈ historyMonths db m := by simp [hsplit, hy]
      rcases mem_historyMonths.1 hy' with ⟨_, h⟩ | ⟨f', hf', h⟩
      · exact h
      · obtain rfl : f' = f := Option.some.inj (hf'.symm.trans hf)
        exact ((Month.mem_through hfc).1 h).2.2
    exact absurd hlt (not_lt.2 hthrough)
  rw [hys] at hsplit
  exact ⟨xs, hsplit, fun x hx => hbefore x hx m List.mem_cons_self⟩

section

variable {eur opening : Decimal} (h : Started db today eur opening db')
include h

theorem Started.first_le : ∃ f, firstMonth db = some f ∧ f.Calendar ∧ f ≤ today.month := by
  obtain ⟨_, _, f, hf, hle⟩ := h.sound.start _ h.start
  rw [h.sameBudget.firstMonth_eq] at hf
  exact ⟨f, hf, (h.before.imports f (firstMonth_mem hf)).1, hle⟩

/-- From the activation month on every month is open, and its Unallocated components are known once
the expectation can be valued. -/
theorem Started.entry_components (hexist : CategoriesExist db) {e : BudgetMonthSnapshot} {m : Month}
    {b : Balances} {p : Bool} (he : monthSnapshot db (firstMonth db) b p m = .ok e)
    (hle : today.month ≤ m) (hrate : today.month < m → ∃ v, settingEur db m = .ok v) :
    e.status ≠ .closed ∧ ∃ components, unallocatedComponents db' e = .ok components := by
  obtain ⟨f, hf, _, hfm⟩ := h.first_le
  obtain ⟨hmonth, ⟨c, hc, _⟩ | ⟨_, g, _, _, hstatus, hcs⟩ | ⟨_, hlt, _⟩⟩ := monthSnapshot_ok he
  · have hclosed := h.before.closures m (by simp [Database.isClosed, hc])
    exact absurd hclosed.2.1 (not_lt.2 hle)
  · rw [hstatus]
    refine ⟨by decide, ?_⟩
    obtain ⟨amounts, hamounts⟩ := openCategories_monthly hcs
    rcases hle.eq_or_lt with rfl | hgt
    · obtain ⟨components, hcomponents, _⟩ := h.components hexist hmonth hcs hamounts
      exact ⟨components, hcomponents⟩
    · obtain ⟨v, hv⟩ := hrate hgt
      have hsetting : settingEur db' m = .ok v := by
        obtain ⟨P, M, rfl⟩ := h.eq
        exact hv
      unfold unallocatedComponents
      rw [hmonth]
      by_cases hfunding : hasFunding db' m
      · exact ⟨_, by rw [if_pos hfunding]⟩
      · rw [if_neg hfunding, hsetting, hamounts]
        exact ⟨_, rfl⟩
  · exact absurd (hlt f hf) (not_lt.2 (hfm.trans hle))

/-- The history of every month that can be valued exists after the activation. -/
theorem Started.exists_historyAt (hunreal : TransfersUnreal db) (hexist : CategoriesExist db)
    {through current : Month} {history : List BudgetMonthSnapshot}
    (hrate : ∀ m, today.month < m → m ≤ through → ∃ v, settingEur db m = .ok v)
    (hh : historyAt db through current = .ok history) :
    ∃ history', historyAt db' through current = .ok history' := by
  obtain ⟨f, hf, hfc, _⟩ := h.first_le
  rw [historyAt_inactive h.inactive] at hh
  have hentries : List.Forall₂ (fun m e => ∃ b p, monthSnapshot db (firstMonth db) b p m = .ok e)
      (historyMonths db through) history := by
    have hh' := hh
    simp only [calculate, Except.bind_eq_ok] at hh'
    obtain ⟨_, _, _, _, hc⟩ := hh'
    exact calculateFrom_forall₂ hc
  obtain ⟨history', hh'⟩ := @exists_applyFrom_ok db' today.month history
    (fun e he hle => by
      obtain ⟨m, hm, b, p, hs⟩ := hentries.exists_left he
      have hmonth := (monthSnapshot_ok hs).1
      rw [hmonth] at hle
      refine h.entry_components hexist hs hle fun hgt => hrate m hgt ?_
      rcases mem_historyMonths.1 hm with ⟨_, hthrough⟩ | ⟨f', hf', hmem⟩
      · exact hthrough
      · obtain rfl : f' = f := Option.some.inj (hf'.symm.trans hf)
        exact ((Month.mem_through hfc).1 hmem).2.2) opening
  refine ⟨history', ?_⟩
  have hstate : db'.ledgerState = some ⟨today.month, opening⟩ := by
    obtain ⟨P, M, rfl⟩ := h.eq
    rfl
  unfold historyAt applyLedger
  rw [h.calculate_eq hunreal hexist, hh, hstate]
  exact hh'

/-- What was read before the activation is read after it. -/
theorem Started.sameResults (hunreal : TransfersUnreal db) (hexist : CategoriesExist db)
    {through current : Month} {history' : List BudgetMonthSnapshot}
    (hh : historyAt db' through current = .ok history') :
    ∃ history, historyAt db through current = .ok history ∧
      List.Forall₂ SameResults history history' := by
  unfold historyAt at hh
  rw [h.calculate_eq hunreal hexist] at hh
  simp only [Except.bind_eq_ok] at hh
  obtain ⟨history, hc, ha⟩ := hh
  have hstate : db'.ledgerState = some ⟨today.month, opening⟩ := by
    obtain ⟨P, M, rfl⟩ := h.eq
    rfl
  simp only [applyLedger, hstate] at ha
  refine ⟨history, ?_, (applyFrom_forall₂ ha).imp fun _ _ happ => happ.sameResults⟩
  rw [historyAt_inactive h.inactive]
  exact hc

/-- The entries of the activation month: those from before, and the opening of Unallocated with what
the month's funding and allocations add. -/
theorem Started.categories_eq (hunreal : TransfersUnreal db) (hexist : CategoriesExist db)
    {cs : List BudgetCategorySnapshot} {amounts : List Decimal}
    (hcs : categories db today today.month = .ok cs)
    (hamounts : cs.mapM (fun r => Except.fromOption r.monthlyEur "Missing allocation") =
      .ok amounts) :
    (∀ r ∈ cs, r.categoryId ≠ UNALLOCATED) ∧ ∃ u, u.categoryId = UNALLOCATED ∧
      u.remainingEur = some (opening + (eur - amounts.sum)) ∧
      categories db' today today.month = .ok (cs ++ [u]) := by
  obtain ⟨f, hf, hfc, hle⟩ := h.first_le
  obtain ⟨xs, hmonths, hxs⟩ := historyMonths_last hf hfc (h.sound.start _ h.start).1 hle
  simp only [categories, historyAt_inactive h.inactive, Except.bind_eq_ok,
    Except.fromOption_eq_ok] at hcs
  obtain ⟨history, hc, hfind⟩ := hcs
  have hcalc := hc
  simp only [calculate, Except.bind_eq_ok, hmonths] at hcalc
  obtain ⟨_, _, _, _, hloop⟩ := hcalc
  obtain ⟨h₁, h₂, p, rfl, e₁, e₂⟩ := calculateFrom_append hloop
  simp only [calculateFrom, Except.bind_eq_ok, Except.pure_eq_ok] at e₂
  obtain ⟨e, he, _, hnil, rfl⟩ := e₂
  cases hnil
  have hbefore : ∀ x ∈ h₁, x.month < today.month := fun x hx => by
    obtain ⟨m, hm, b, q, hs⟩ := (calculateFrom_forall₂ e₁).exists_left hx
    rw [(monthSnapshot_ok hs).1]
    exact hxs m hm
  obtain ⟨hmonth, ⟨c, hclosed, _⟩ | ⟨_, g, _, _, hstatus, hopen⟩ | ⟨_, hlt, _⟩⟩ := monthSnapshot_ok he
  · have hpast := h.before.closures today.month (by simp [Database.isClosed, hclosed])
    exact absurd hpast.2.1 (lt_irrefl _)
  · have hnone : ∀ k : List BudgetMonthSnapshot, (h₁ ++ k).find? (fun m => m.month = today.month) =
        k.find? fun m => m.month = today.month := fun k => by
      rw [List.find?_append, List.find?_eq_none.2 fun x hx => by simpa using (hbefore x hx).ne]
      rfl
    have hcats : e.categories = cs := by
      rw [hnone] at hfind
      simpa [hmonth] using hfind
    subst hcats
    obtain ⟨components, hcomponents, hsum⟩ := h.components hexist hmonth hopen hamounts
    have hids : ∀ r ∈ e.categories, r.categoryId ≠ UNALLOCATED := fun r hr => by
      have hmem : r.categoryId ∈ (budgetCategories db).map Prod.fst := by
        rw [← openCategories_id hopen]
        exact List.mem_map.2 ⟨r, hr, rfl⟩
      exact (mem_budgetCategories.1 hmem).2
    refine ⟨hids, unallocatedSnapshot opening (movementKinds.map components).sum
      (components .reallocation), rfl, by rw [← hsum]; rfl, ?_⟩
    have hstate : db'.ledgerState = some ⟨today.month, opening⟩ := by
      obtain ⟨P, M, rfl⟩ := h.eq
      rfl
    have hnot : ¬ e.month < today.month := by rw [hmonth]; exact lt_irrefl _
    have hne : e.status ≠ .closed := by rw [hstatus]; decide
    have happly : applyFrom db' today.month opening (h₁ ++ [e]) =
        .ok (h₁ ++ [{ e with categories := e.categories ++ [unallocatedSnapshot opening
          (movementKinds.map components).sum (components .reallocation)] }]) := by
      rw [applyFrom_before hbefore, applyFrom, if_neg hnot, if_neg hne, hcomponents]
      rfl
    simp only [categories, historyAt, applyLedger, h.calculate_eq hunreal hexist, hc, hstate,
      Except.bind_eq_ok, Except.fromOption_eq_ok]
    refine ⟨_, ⟨_, rfl, happly⟩, ?_⟩
    rw [hnone]
    simp [hmonth]
  · exact absurd (hlt f hf) (not_lt.2 hle)

end

end BudgetLedger

namespace Server

open Budget BudgetLedger

variable {today : Date} {db db' : Database}

theorem Activated.started {cs : List BudgetCategorySnapshot} {remaining allocations : List Decimal}
    {actual eur : Decimal} {e : ExpectedIncome}
    (h : Activated db today cs remaining allocations actual eur e db') (hsound : Sound today db) :
    Started db today eur
      (actual - remaining.sum + e.outstandingEur - (e.amountEur - allocations.sum)) db' := by
  generalize hopening :
    actual - remaining.sum + e.outstandingEur - (e.amountEur - allocations.sum) = opening
  have hsync := h.synced
  rw [hopening] at hsync
  have hstate : db.ledgerState = none := by
    have hs := h.inactive
    unfold Database.start at hs
    simpa using hs
  have hchange : Change today db (activated db today.month eur opening) :=
    .startLedger hstate h.first h.fresh (lookup_legacyReceipts db today.month) h.valued h.unplanned
  have hsound₁ := hchange.sound hsound
  have hstart : (activated db today.month eur opening).start = some today.month := rfl
  obtain ⟨ts, hts⟩ := sync_synced hsync hstart hsound₁
  have hnew : (activated db today.month eur opening).planIncome.lookup today.month =
      some (newPlan (incomeSetting db today.month) eur) := by simp [activated]
  have hsound' : Sound today db' := hts.settled.changes.sound hsound₁
  have hcalendar := (hsound₁.start _ hstart).1
  have hopen : (activated db today.month eur opening).isClosed today.month = false := by
    refine Bool.eq_false_iff.2 fun hclosed => ?_
    exact lt_irrefl _ (hsound₁.closures _ hclosed).2.1
  exact {
    eq := sync_frame hsync
    inactive := h.inactive
    first := h.first
    fresh := h.fresh
    valued := h.valued
    plan := fun m p hp => by
      rcases hts.settled.created m p hp with hold | ⟨⟨s, hs, hle⟩, _, hreached, _, hm⟩
      · change (db.planIncome.insert today.month _).lookup m = some p at hold
        rw [AList.lookup_insert_of] at hold
        split at hold
        · cases hold
          exact ⟨by assumption, rfl⟩
        · obtain ⟨_, s, hs, _⟩ := hsound.plans m (by simp [hold])
          rw [h.inactive] at hs
          cases hs
      · rw [hstart, Option.some.injEq] at hs
        obtain rfl : m = today.month := le_antisymm hreached (hs ▸ hle)
        refine ⟨rfl, ?_⟩
        rw [hts.settled.plans _ _ hnew, Option.some.injEq] at hp
        exact hp.symm
    planned := by rw [hts.settled.plans _ _ hnew]; rfl
    recomputed := fun s hs => hts.balance (hs ▸ hcalendar) hs.ge hs.le (hs ▸ hopen)
    sound := hsound'
    before := hsound }

/-- **Activation preserves results.** Starting the ledger leaves the results of the categories as they
were in every month that history shows, before and after; the history of the months up to the current
one still exists, as does that of a later month whose expectation can be valued. Unallocated opens
with the cash that is not assigned and the outstanding expectation. A second activation changes
nothing. -/
theorem activate_preserves {day : Date} (hreach : Reachable day db) (hvalid : today.Valid)
    (hlater : day ≤ today) (hinactive : db.start = none)
    (hcanonical : (firstMonth db).isSome = true) (hexist : CategoriesExist db)
    (hunreal : TransfersUnreal db) (h : activate db today = .ok db') :
    (∀ through current history', historyAt db' through current = .ok history' →
      ∃ history, historyAt db through current = .ok history ∧
        List.Forall₂ SameResults history history') ∧
    (∀ through current history, historyAt db through current = .ok history →
      (∀ m, today.month < m → m ≤ through → ∃ v, settingEur db m = .ok v) →
      ∃ history', historyAt db' through current = .ok history') ∧
    (∃ cs u cov, categories db' today today.month = .ok (cs ++ [u]) ∧
      (∀ r ∈ cs, r.categoryId ≠ UNALLOCATED) ∧ u.categoryId = UNALLOCATED ∧
      coverage db' today today.month (cs ++ [u]) = .ok (some cov) ∧
      cash db' today = .ok cov.actualCashEur ∧
      (∀ r ∈ cs, r.remainingEur.isSome = true) ∧
      cov.assignedRemainingEur = (cs.map fun r => r.remainingEur.getD 0).sum ∧
      u.remainingEur = some (cov.actualCashEur - (cs.map fun r => r.remainingEur.getD 0).sum +
        cov.outstandingExpectedEur) ∧
      u.remainingEur = some cov.unallocatedEur) ∧
    ∀ day', activate db' day' = .ok db' := by
  have hsound : Sound today db := hreach.sound.later hvalid hlater
  obtain ⟨rfl, hactive | hnone⟩ | ⟨cs, remaining, allocations, actual, eur, e, hactivated⟩ :=
    activate_ok h hsound
  · rw [hinactive] at hactive
    cases hactive
  · rw [hnone] at hcanonical
    cases hcanonical
  have hstarted := hactivated.started hsound
  obtain ⟨hids, u, hu, hremaining, hcategories⟩ :=
    hstarted.categories_eq hunreal hexist hactivated.categories hactivated.allocated
  have hcoverage := hstarted.coverage_eq (hreach.inactiveSound hinactive).2 hactivated.cash
    hactivated.income hids hactivated.balances hu hremaining
  have hbalances := Started.remaining_sum (Except.mapM_eq_ok hactivated.balances)
  refine ⟨fun _ _ _ => hstarted.sameResults hunreal hexist,
    fun _ _ _ hh hrate => hstarted.exists_historyAt hunreal hexist hrate hh,
    ⟨cs, u, _, hcategories, hids, hu, hcoverage, ?_, hbalances.1, hbalances.2, ?_, hremaining⟩,
    fun day' => ?_⟩
  · rw [hstarted.cash_eq, hactivated.cash]
  · rw [hremaining, ← hbalances.2, (hstarted.income_eq hactivated.income).2]
    simp only [Option.some.injEq]
    abel
  · unfold activate
    rw [hstarted.start, if_pos (.inl rfl)]

/-- A salary and an expense before the ledger is started. -/
def beforeActivation : List Call := [
  callOn october 1 (.saveExpectedIncome ⟨october, 3000, .eur, 7, 10⟩),
  callOn october 1 (.create
    { earn 101 201 ⟨october, 1⟩ 500 none with toCategoryId := some 1 }),
  callOn october 2 (.create (spend 102 202 ⟨october, 2⟩ 120))]

/-- The expense is booked, the salary counts towards the expectation of the month, and the history of
October is the one from before. -/
theorem activate_preserves_october :
    let db := run (household 1000) beforeActivation
    ∃ db', activate db ⟨october, 3⟩ = .ok db' ∧ db'.movements ≠ [] ∧
      ∃ history history', historyAt db october october = .ok history ∧
        historyAt db' october october = .ok history' ∧
        List.Forall₂ SameResults history history' := by
  intro db
  have hreach : Reachable ⟨october, 2⟩ db :=
    household_reachable 1000 (by decide : Chronological _ beforeActivation)
  have hinactive : db.start = none := by decide +kernel
  have hcanonical : (firstMonth db).isSome = true := by decide +kernel
  have hsides : ∀ r ∈ db.rows, (r.fromCategoryId.all fun c => (db.categories.lookup c).isSome) = true ∧
      (r.toCategoryId.all fun c => (db.categories.lookup c).isSome) = true ∧
      r.kind ≠ .transfer ∧ r.kind ≠ .reconciliation := by decide +kernel
  have hworks : ((activate db ⟨october, 3⟩).toOption.any fun db' => decide (db'.movements ≠ [])) = true := by
    decide +kernel
  have hhistory : ((historyAt db october october).toOption.any fun _ => true) = true := by
    decide +kernel
  clear_value db
  obtain ⟨db', hactivate, hmoved⟩ := Except.exists_ok_of_any hworks
  obtain ⟨history, hbefore, _⟩ := Except.exists_ok_of_any hhistory
  obtain ⟨hsame, hexists, _⟩ := activate_preserves hreach (by decide) (by decide) hinactive
    hcanonical (fun r hr c hc => by
      obtain ⟨h1, h2, _⟩ := hsides r hr
      rcases hc with hc | hc
      · simpa [hc] using h1
      · simpa [hc] using h2)
    (fun r hr hkind => by
      obtain ⟨_, _, h3, h4⟩ := hsides r hr
      exact (hkind.elim h3 h4).elim) hactivate
  obtain ⟨history', hafter⟩ := hexists october october history hbefore fun m hlt hle =>
    absurd hlt (not_lt.2 hle)
  obtain ⟨history₀, hbefore₀, hforall⟩ := hsame october october history' hafter
  rw [hbefore, Except.ok.injEq] at hbefore₀
  subst hbefore₀
  exact ⟨db', hactivate, of_decide_eq_true hmoved, history, history', hbefore, hafter, hforall⟩

end Server
