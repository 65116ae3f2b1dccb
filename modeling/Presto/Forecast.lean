import Presto.UpToDate
import Presto.Chain

/-!
# Forecast and materialisation

A month that is not materialised is forecast from the recurring settings; `sync` materialises it from
the same settings. `history_at` reports the same before and after, for all its months.
-/

namespace BudgetLedger

open Budget Server

variable {today : Date} {db db' : Database} {d start : Month}

/-! ## What `sync` does to a ledger that is up to date -/

theorem recompute_current {s : Source} (hs : Monthly s) (current current' : Month) :
    recompute db current s = recompute db current' s := by
  obtain ⟨m, c, k, key⟩ := s
  cases key with
  | excess _ => exact hs.elim
  | _ => rfl

/-- `sync` on a day after the ledger was up to date as of `d`. -/
structure Resynced (today : Date) (start d : Month) (db db' : Database) : Prop where
  frame : WritesPlan db db'
  started : db.start = some start
  reached : d ≤ today.month
  sound : Sound today db
  sound' : Sound today db'
  upToDate : UpToDateAt db start d
  kept : Keeps db.planIncome db'.planIncome
  created : ∀ m p, db'.planIncome.lookup m = some p → db.planIncome.lookup m = some p ∨
    (db.planIncome.lookup m = none ∧ Materialises db m p)
  planned : ∀ m, m.Calendar → start ≤ m → m ≤ today.month → db.isClosed m = false →
    (db'.planIncome.lookup m).isSome = true
  monthly : ∀ s, Monthly s → (db.planIncome.lookup s.month).isSome = true →
    recompute db' today.month s = recompute db today.month s
  recomputed : ∀ m, m.Calendar → start ≤ m → m ≤ today.month → db.isClosed m = false →
    Recomputed db' today.month m
  settled : ∃ ts operation, db'.movements = Journal.settleAll db.movements ts operation ∧
    ∀ t ∈ ts, recompute db' today.month t.1 = .ok t.2

theorem sync_resynced {operation : Option OperationId} (h : sync db today operation = .ok db')
    (hstart : db.start = some start) (hsound : Sound today db) (hd : d ≤ today.month)
    (hu : UpToDateAt db start d) : Resynced today start d db db' := by
  obtain ⟨ts, hts⟩ := sync_synced h hstart hsound
  exact {
    frame := sync_frame h
    started := hstart
    reached := hd
    sound := hsound
    sound' := hts.settled.changes.sound hsound
    upToDate := hu
    kept := hts.settled.plans
    created := fun m p hp => by
      cases hl : db.planIncome.lookup m with
      | some q =>
        rw [hts.settled.plans _ _ hl, Option.some.injEq] at hp
        exact .inl (by rw [hp])
      | none =>
        rcases hts.settled.created m p hp with hold | ⟨_, _, _, _, hm⟩
        · rw [hl] at hold
          cases hold
        · exact .inr ⟨rfl, hm⟩
    planned := hts.plans
    monthly := fun s hs hplan => hts.settled.recompute_eq hs hplan _
    recomputed := fun m hc hle hreached hopen s hs => by
      subst hs
      exact hts.balance hc hle hreached hopen
    settled := ⟨ts, operation, hts.settled.movements, fun t ht => (hts.targets t ht).1.value⟩ }

namespace Resynced

variable (h : Resynced today start d db db')
include h

/-- The receipts of an expectation have all been received by `d`. -/
theorem matchedReceipts_eq (m : Month) (amount plannedEur : Decimal) (currency : Currency) :
    matchedReceipts db' m today.month amount currency plannedEur =
      matchedReceipts db m d amount currency plannedEur := by
  have hrows : matchedRows db m today.month = matchedRows db m d := by
    unfold matchedRows
    refine congrArg (List.insertionSort _) (List.filter_congr fun r hr => ?_)
    unfold isMatched
    by_cases hk : r.kind = .income
    · have hle := h.upToDate.rows r hr (by rw [hk]; decide)
      simp [hle, hle.trans h.reached]
    · simp [hk]
  obtain ⟨P, M, rfl⟩ := h.frame
  unfold matchedReceipts
  rw [← hrows]
  rfl

/-- An expectation that is new has no receipts. -/
theorem matchedReceipts_new {m : Month} (hm : db.planIncome.lookup m = none) {amount plannedEur : Decimal}
    {currency : Currency} {receipts : List MatchedReceipt}
    (hr : matchedReceipts db' m today.month amount currency plannedEur = .ok receipts) :
    receipts = [] := by
  refine List.eq_nil_iff_forall_not_mem.2 fun r hmem => ?_
  obtain ⟨row, hrow, _⟩ := Except.exists_of_mem_mapM hr hmem
  rw [matchedRows, (List.perm_insertionSort _ _).mem_iff, List.mem_filter, isMatched] at hrow
  simp only [Bool.and_eq_true, Option.any_eq_true_iff_get, decide_eq_true_eq] at hrow
  obtain ⟨hsome, hexpected, _⟩ := hrow.2.2
  have hreceipts : db'.receipts = db.receipts := by
    obtain ⟨P, M, rfl⟩ := h.frame
    rfl
  have hl : db.receipts.lookup row.id = some ((db'.receipts.lookup row.id).get hsome) := by
    rw [← hreceipts, Option.some_get]
  have hplan := (h.sound.receipts _ _ hl).2 m hexpected
  rw [hm] at hplan
  cases hplan

/-- Nothing changes for the sources of the months up to `d`. -/
theorem recompute_eq {s : Source} (hc : s.month.Calendar) (hle : start ≤ s.month) (hd : s.month ≤ d)
    (hopen : db.isClosed s.month = false) (hok : ∃ v, recompute db' today.month s = .ok v) :
    recompute db' today.month s = recompute db d s := by
  by_cases hs : Monthly s
  · rw [h.monthly s hs (h.upToDate.planned _ hc hle hd hopen)]
    exact recompute_current hs _ _
  obtain ⟨m, c, k, key⟩ := s
  obtain ⟨v, hv⟩ := hok
  cases key with
  | excess m' =>
    simp only [recompute] at hv ⊢
    split
    · rename_i hkey
      rw [if_pos hkey] at hv
      unfold excessWants at hv ⊢
      cases hp : db.planIncome.lookup m' with
      | some p => simp only [h.kept _ _ hp, h.matchedReceipts_eq]
      | none =>
        cases hp' : db'.planIncome.lookup m' with
        | none => rfl
        | some p =>
          simp only [hp', Except.bind_eq_ok] at hv ⊢
          obtain ⟨receipts, hr, _⟩ := hv
          rw [hr, h.matchedReceipts_new hp hr]
          exact ⟨[], rfl, rfl⟩
    · rfl
  | complete m' =>
    simp only [recompute]
    split
    · unfold settlementWants
      cases hp : db.planIncome.lookup m' with
      | some p => simp only [h.kept _ _ hp]
      | none =>
        cases hp' : db'.planIncome.lookup m' with
        | none => rfl
        | some p =>
          rcases h.created m' p hp' with hold | ⟨_, eur, _, rfl⟩
          · rw [hp] at hold
            cases hold
          · simp [newPlan]
    · rfl
  | _ => exact absurd trivial hs

/-- The months that were up to date keep their movements, and later ones than the current have
none. -/
theorem movements_eq {m : Month} (hc : m.Calendar) (hle : start ≤ m) (hopen : db.isClosed m = false)
    (hm : m ≤ d ∨ today.month < m) :
    (db'.movements.filter fun e => e.key.month = m) = db.movements.filter fun e => e.key.month = m := by
  rcases hm with hd | hgt
  · obtain ⟨ts, operation, hmovements, hts⟩ := h.settled
    rw [hmovements]
    refine Journal.settleAll_filter (p := fun s : Source => s.month = m) operation
      fun t ht hm => ?_
    have hvalue := hts t ht
    subst hm
    rw [h.recompute_eq hc hle hd hopen ⟨_, hvalue⟩, h.upToDate.recomputed _ hc hle hd hopen _ rfl] at hvalue
    exact Except.ok.inj hvalue
  · rw [List.filter_eq_nil_iff.2, List.filter_eq_nil_iff.2]
    · intro e he hm
      have hreached := (h.sound.movements e he).2
      rw [of_decide_eq_true hm] at hreached
      exact absurd hgt (not_lt.2 hreached)
    · intro e he hm
      have hreached := (h.sound'.movements e he).2
      rw [of_decide_eq_true hm] at hreached
      exact absurd hgt (not_lt.2 hreached)

omit h in
theorem movementTotal_congr {m : Month}
    (hm : (db'.movements.filter fun e => e.key.month = m) = db.movements.filter fun e => e.key.month = m)
    (c : CategoryId) (k : MovementKind) : movementTotal db' m c k = movementTotal db m c k := by
  have hsplit : ∀ j : List Movement,
      (j.filter fun e => e.key.month = m ∧ e.key.category = c ∧ e.key.kind = k) =
        (j.filter fun e => e.key.month = m).filter fun e => e.key.category = c ∧ e.key.kind = k := by
    intro j
    rw [List.filter_filter]
    refine List.filter_congr fun e _ => ?_
    simp [Bool.and_comm]
  unfold movementTotal Journal.volume
  rw [hsplit, hsplit, hm]

/-- A month after `d` has no movements before. -/
theorem movementTotal_before {m : Month} (hm : d < m) (c : CategoryId) (k : MovementKind) :
    movementTotal db m c k = 0 :=
  Journal.volume_eq_zero fun e he hp => by
    have hreached := h.upToDate.movements e he
    rw [hp.1] at hreached
    exact absurd hm (not_lt.2 hreached)

/-- A month after `d` has no rows but reconciliations. -/
theorem reconciliation_after {m : Month} (hm : d < m) {r : LedgerRow} (hr : r ∈ db'.rows)
    (hmonth : r.month = m) : r.kind = .reconciliation := by
  by_contra hk
  have hrows : db'.rows = db.rows := by
    obtain ⟨P, M, rfl⟩ := h.frame
    rfl
  rw [hrows] at hr
  have hreached := h.upToDate.rows r hr hk
  rw [hmonth] at hreached
  exact absurd hm (not_lt.2 hreached)

theorem materialized_eq {m : Month} (hc : m.Calendar) (hle : start ≤ m)
    (hopen : db.isClosed m = false) (hm : m ≤ d ∨ today.month < m) :
    materialized db' m = materialized db m := by
  unfold materialized
  rcases hm with hd | hgt
  · obtain ⟨p, hp⟩ := Option.isSome_iff_exists.1 (h.upToDate.planned m hc hle hd hopen)
    rw [hp, h.kept _ _ hp]
  · have hnone : ∀ x : Database, Sound today x → x.planIncome.lookup m = none := fun x hx => by
      cases hp : x.planIncome.lookup m with
      | none => rfl
      | some p => exact absurd hgt (not_lt.2 (hx.plans m (by simp [hp])).1)
    rw [hnone db h.sound, hnone db' h.sound']

theorem sameBudget : SameBudget db db' := by
  obtain ⟨P, M, rfl⟩ := h.frame
  exact ⟨rfl, rfl, rfl, rfl, rfl, rfl⟩

theorem start_eq : db'.start = some start := by
  have hstart := h.started
  obtain ⟨P, M, rfl⟩ := h.frame
  exact hstart

theorem inLedger_eq (m : Month) : inLedger db' m = inLedger db m := by
  rw [inLedger, inLedger, h.start_eq, h.started]

/-- In a month that has just been materialised the rows, being reconciliations, want nothing. -/
theorem movementTotal_new {m : Month} (hc : m.Calendar) (hle : start ≤ m) (hd : d < m)
    (hreached : m ≤ today.month) (hopen : db.isClosed m = false) (c : CategoryId) {k : MovementKind}
    (hk : k = .spending ∨ k = .reallocation) : movementTotal db' m c k = 0 := by
  rw [movementTotal_rows h.sound'.movements (h.recomputed m hc hle hreached hopen) c hk]
  refine List.sum_eq_zero fun v hv => ?_
  obtain ⟨r, hr, rfl⟩ := List.mem_map.1 hv
  obtain ⟨hr, hm⟩ := List.mem_filter.1 hr
  have hkind := h.reconciliation_after hd hr (of_decide_eq_true hm)
  rw [rowWants_reconciliation hkind, valueOf_ok]

/-- The results of a category do not change. -/
theorem openCategory_eq {f m : Month} {b : Balances} {c : CategoryId × Category} (hc : m.Calendar)
    (hopen : db.isClosed m = false) (hmem : c ∈ budgetCategories db) :
    openCategory db' f m b c = openCategory db f m b c := by
  have hbudget := h.sameBudget
  have hfacts : factActivity db' m c.1 = factActivity db m c.1 := by
    obtain ⟨P, M, rfl⟩ := h.frame
    rfl
  have hcorrections : correctionTotal db' m c.1 = correctionTotal db m c.1 := by
    obtain ⟨P, M, rfl⟩ := h.frame
    rfl
  refine openCategory_congr (hbudget.carryoverOf_eq f m b c.1) (hbudget.monthlyAllocation_eq c.1 m)
    hfacts hcorrections fun planned activity hplan _ => ?_
  rw [h.inLedger_eq]
  cases hin : inLedger db m with
  | false => simp
  | true =>
    have hle : start ≤ m := by simpa [inLedger, h.started] using hin
    by_cases hm : m ≤ d ∨ today.month < m
    · have hmovements := h.movements_eq hc hle hopen hm
      rw [h.materialized_eq hc hle hopen hm]
      simp only [movementTotal_congr hmovements, and_self]
    · -- the month is materialised now
      rw [not_or, not_le, not_lt] at hm
      have hold : materialized db m = false := by
        refine Bool.eq_false_iff.2 fun hsome => ?_
        exact absurd hm.1 (not_lt.2 (h.upToDate.plans m hsome))
      have hnew : materialized db' m = true := h.planned m hc hle hm.2 hopen
      have hmem' : c.1 ∈ (budgetCategories db').map Prod.fst := by
        rw [hbudget.categories]
        exact List.mem_map.2 ⟨c, hmem, rfl⟩
      have hallocation := movementTotal_allocation h.sound'.movements
        (h.recomputed m hc hle hm.2 hopen) hmem'
      rw [hbudget.monthlyAllocation_eq, hplan, Option.some.injEq] at hallocation
      simp [hold, hnew, ← hallocation, h.movementTotal_before hm.1,
        h.movementTotal_new hc hle hm.1 hm.2 hopen]

theorem calculate_eq (through current : Month) :
    calculate db' through current = calculate db through current :=
  h.sameBudget.calculate_eq fun _ _ _ _ _ hm hopen _ hc =>
    h.openCategory_eq (historyMonths_calendar h.sound hm) hopen hc

/-! ## Unallocated -/

/-- A month that has just been materialised adds its funding and its allocations to Unallocated. -/
theorem movementTotal_other {m : Month} (hc : m.Calendar) (hle : start ≤ m) (hd : d < m)
    (hreached : m ≤ today.month) (hopen : db.isClosed m = false) {k : MovementKind}
    (hf : k ≠ .funding) (ha : k ≠ .allocation) : movementTotal db' m UNALLOCATED k = 0 := by
  have hrecomputed := h.recomputed m hc hle hreached hopen
  refine movementTotal_zero hrecomputed fun e he hm hcat hk => ?_
  obtain ⟨hwell, _⟩ := h.sound'.movements e he
  have hbalance := hrecomputed e.key hm
  generalize Journal.balance db'.movements e.key = v at hbalance
  obtain ⟨⟨m', c, k', key⟩, amount, note⟩ := e
  obtain rfl : m' = m := hm
  obtain rfl : c = UNALLOCATED := hcat
  obtain rfl : k' = k := hk
  cases key with
  | transaction id =>
    simp only [recompute]
    cases ht : db'.transactions.lookup id with
    | none => rfl
    | some t =>
      by_cases hmonth : t.month = m'
      · have hkind := h.reconciliation_after hd (row_mem_rows ht) hmonth
        simp [rowWants_reconciliation hkind]
      · simp [hmonth]
  | excess expected =>
    have hkind : k' = .income := by
      cases k' <;> first | rfl | exact hwell.2.elim
    subst hkind
    simp only [recompute, and_self, if_true] at hbalance ⊢
    rw [hbalance]
    unfold excessWants at hbalance
    cases hp : db'.planIncome.lookup expected with
    | none =>
      simp only [hp] at hbalance
      exact hbalance.symm
    | some p =>
      simp only [hp, Except.bind_eq_ok] at hbalance
      obtain ⟨receipts, hr, hv⟩ := hbalance
      rw [h.matchedReceipts_eq] at hr
      rw [monthExcess_zero (fun r hmem hpast => ?_) hv]
      obtain ⟨id, t, _, hdate, hmonth⟩ := matchedReceipts_date hr hmem
      have hreceived : r.date.month ≤ d := by rw [hdate]; exact hmonth
      rw [hpast.2] at hreceived
      exact absurd hd (not_lt.2 hreceived)
  | complete expected =>
    have hkind : k' = .settlement := by
      cases k' <;> first | rfl | exact hwell.2.elim
    subst hkind
    obtain ⟨_, _, p, hp, hcompleted⟩ := hwell
    rcases h.created expected p hp with hold | ⟨_, eur, _, rfl⟩
    · exact absurd hd (not_lt.2 (h.upToDate.completions _ p hold _ hcompleted))
    · cases hcompleted
  | correction op c =>
    have hkind : k' = .correction := by
      cases k' <;> first | rfl | exact hwell.2.elim
    subst hkind
    obtain ⟨_, _, r, hr, happlied, _⟩ := hwell
    have hold : db.corrections.lookup op = some r := by
      obtain ⟨P, M, rfl⟩ := h.frame
      exact hr
    have hpast := h.upToDate.corrections op r hold
    rw [happlied] at hpast
    exact absurd hd (not_lt.2 hpast)
  | expected _ =>
    cases k' with
    | funding => exact absurd rfl hf
    | _ => exact hwell.2.elim
  | allocation _ _ =>
    cases k' with
    | allocation => exact absurd rfl ha
    | _ => exact hwell.2.elim
  | allocations _ =>
    cases k' with
    | allocation => exact absurd rfl ha
    | _ => exact hwell.2.elim

omit h in
theorem hasFunding_congr {m : Month}
    (hm : (db'.movements.filter fun e => e.key.month = m) = db.movements.filter fun e => e.key.month = m) :
    hasFunding db' m = hasFunding db m := by
  have hsplit : ∀ x : Database, hasFunding x m =
      (x.movements.filter fun e => e.key.month = m).any
        fun e => decide (e.key.category = UNALLOCATED ∧ e.key.kind = .funding) := by
    intro x
    unfold hasFunding
    rw [List.any_filter]
    refine congrArg (List.any x.movements) (funext fun e => ?_)
    simp
  rw [hsplit, hsplit, hm]

theorem settingEur_eq (m : Month) : settingEur db' m = settingEur db m := by
  obtain ⟨P, M, rfl⟩ := h.frame
  rfl

/-- The funding and the allocations of a month that has just been materialised are the forecast
ones. -/
theorem components_new {e : BudgetMonthSnapshot} {m f : Month} {b : Balances} (hmonth : e.month = m)
    (hc : m.Calendar) (hle : start ≤ m) (hd : d < m) (hreached : m ≤ today.month)
    (hopen : db.isClosed m = false)
    (hcs : (budgetCategories db).mapM (openCategory db f m b) = .ok e.categories) :
    unallocatedComponents db' e = unallocatedComponents db e := by
  obtain ⟨amounts, hamounts⟩ := openCategories_monthly hcs
  have hfunding : hasFunding db m = false := by
    rw [Bool.eq_false_iff]
    intro hany
    obtain ⟨x, hx, hp⟩ := List.any_eq_true.1 hany
    have hpast := h.upToDate.movements x hx
    rw [(of_decide_eq_true hp).1] at hpast
    exact absurd hd (not_lt.2 hpast)
  obtain ⟨p, hp⟩ := Option.isSome_iff_exists.1 (h.planned m hc hle hreached hopen)
  have hnone : db.planIncome.lookup m = none := by
    rw [← Option.not_isSome_iff_eq_none]
    exact fun hsome => absurd hd (not_lt.2 (h.upToDate.plans m hsome))
  obtain ⟨eur, heur, rfl⟩ : Materialises db m p := by
    rcases h.created m p hp with hold | ⟨_, hm⟩
    · rw [hnone] at hold
      cases hold
    · exact hm
  have hother := fun {k} => h.movementTotal_other (k := k) hc hle hd hreached hopen
  have hzero := h.movementTotal_before hd UNALLOCATED
  unfold unallocatedComponents
  rw [hmonth, hfunding, h.settingEur_eq, heur, hamounts]
  by_cases hfunding' : hasFunding db' m
  · rw [if_pos hfunding']
    refine congrArg Except.ok (funext fun k => ?_)
    have hrecomputed := h.recomputed m hc hle hreached hopen
    cases k with
    | funding =>
      rw [movementTotal_funding h.sound'.movements hrecomputed, hp]
      rfl
    | allocation =>
      obtain ⟨al, hal, htotal⟩ := movementTotal_allocations h.sound'.movements hrecomputed
      have hsame : monthAllocations db' m = monthAllocations db m := by
        unfold monthAllocations
        rw [h.sameBudget.categories]
        simp only [h.sameBudget.monthlyAllocation_eq]
      have hplanned : (inLedger db m && materialized db m) = false := by
        simp [materialized, hnone]
      rw [hsame] at hal
      rw [htotal, allocations_eq (Except.mapM_eq_ok hcs) (Except.mapM_eq_ok hal)
        (fun _ _ _ _ => by rw [hplanned]; rfl) (Except.mapM_eq_ok hamounts)]
    | _ => exact (hother (by decide) (by decide)).trans (hzero _).symm
  · rw [if_neg hfunding']
    refine congrArg Except.ok (funext fun k => ?_)
    cases k with
    | funding => rfl
    | allocation => rfl
    | _ => exact (hother (by decide) (by decide)).trans (hzero _).symm

/-- The Unallocated components of an open month of the ledger do not change. -/
theorem components_eq {e : BudgetMonthSnapshot} {m : Month} {b : Balances} {p : Bool}
    (hc : m.Calendar) (he : monthSnapshot db (firstMonth db) b p m = .ok e) (hle : start ≤ e.month)
    (hstatus : e.status ≠ .closed) : unallocatedComponents db' e = unallocatedComponents db e := by
  obtain ⟨hmonth, ⟨_, _, hclosed, _⟩ | ⟨hopen, f, _, _, _, hcs⟩ | ⟨_, hlt, _⟩⟩ := monthSnapshot_ok he
  · exact absurd hclosed hstatus
  · rw [hmonth] at hle
    by_cases hm : m ≤ d ∨ today.month < m
    · have hmovements := h.movements_eq hc hle hopen hm
      unfold unallocatedComponents
      rw [hmonth, hasFunding_congr hmovements, h.settingEur_eq,
        funext fun c => funext fun k => movementTotal_congr hmovements c k]
    · rw [not_or, not_le, not_lt] at hm
      exact h.components_new hmonth hc hle hm.1 hm.2 hopen hcs
  · obtain ⟨_, _, f, hf, hfirst⟩ := h.sound.start _ h.started
    rw [hmonth] at hle
    exact absurd (hlt f hf) (not_lt.2 (hfirst.trans hle))

end Resynced

theorem applyFrom_congr {start : Month} {hs : List BudgetMonthSnapshot}
    (hall : ∀ e ∈ hs, start ≤ e.month → e.status ≠ .closed →
      unallocatedComponents db' e = unallocatedComponents db e) :
    ∀ unallocated, applyFrom db' start unallocated hs = applyFrom db start unallocated hs := by
  induction hs with
  | nil => exact fun _ => rfl
  | cons e es ih =>
    intro unallocated
    have hrest := ih fun x hx => hall x (List.mem_cons_of_mem _ hx)
    unfold applyFrom
    split
    · rw [hrest]
    · rename_i hlt
      split
      · simp only [hrest]
      · rename_i hstatus
        rw [hall e List.mem_cons_self (not_lt.1 hlt) hstatus]
        simp only [hrest]

theorem Resynced.historyAt_eq (h : Resynced today start d db db') (through current : Month) :
    historyAt db' through current = historyAt db through current := by
  have hstate : db'.ledgerState = db.ledgerState := by
    obtain ⟨P, M, rfl⟩ := h.frame
    rfl
  unfold historyAt
  rw [h.calculate_eq]
  cases hcalc : calculate db through current with
  | error e => rfl
  | ok history =>
    have hentries : List.Forall₂ (fun m e => ∃ b p, monthSnapshot db (firstMonth db) b p m = .ok e)
        (historyMonths db through) history := by
      have hc := hcalc
      simp only [calculate, Except.bind_eq_ok] at hc
      obtain ⟨_, _, _, _, hloop⟩ := hc
      exact calculateFrom_forall₂ hloop
    change applyLedger db' history = applyLedger db history
    unfold applyLedger
    rw [hstate]
    cases hl : db.ledgerState with
    | none => rfl
    | some state =>
      have hstart : state.startMonth = start := by
        have hs := h.started
        rw [Database.start, hl] at hs
        exact Option.some.inj hs
      refine applyFrom_congr (fun e he hle hstatus => ?_) _
      obtain ⟨m, hm, b, p, hs⟩ := hentries.exists_left he
      exact h.components_eq (historyMonths_calendar h.sound hm) hs (hstart ▸ hle) hstatus

end BudgetLedger

namespace Server

open Budget BudgetLedger

variable {today : Date} {db db' : Database}

/-- **Forecast equals materialisation.** In every reachable state, on any later day: what `history_at`
reports for any month, materialised or not, up to any later calendar month, is what it reports after
`sync` has materialised the months up to the current one. -/
theorem forecast_materialises {day : Date} (hreach : Reachable day db) (hvalid : today.Valid)
    (hlater : day ≤ today) {operation : Option OperationId} (h : sync db today operation = .ok db')
    (through current : Month) : historyAt db' through current = historyAt db through current := by
  have hsound : Sound today db := hreach.sound.later hvalid hlater
  cases hstart : db.start with
  | none => rw [sync_inactive h hstart]
  | some start =>
    obtain ⟨d, _, hd, hu⟩ := UpToDate.later hreach.upToDate hlater start hstart
    exact (sync_resynced h hstart hsound hd hu).historyAt_eq through current

/-- Two months that nothing has materialised yet. -/
theorem forecast_materialises_december :
    let db := run (household 1000) opened
    ∃ db', sync db ⟨december, 5⟩ none = .ok db' ∧ materialized db november = false ∧
      materialized db' december = true ∧
      historyAt db' december december = historyAt db december december := by
  intro db
  have hreach : Reachable ⟨october, 2⟩ db := household_reachable 1000 (by decide : Chronological _ opened)
  have hold : materialized db november = false := by decide +kernel
  have hworks : ((sync db ⟨december, 5⟩ none).toOption.any fun db' => materialized db' december) = true := by
    decide +kernel
  clear_value db
  obtain ⟨db', hsync, hnew⟩ := Except.exists_ok_of_any hworks
  exact ⟨db', hsync, hold, hnew,
    forecast_materialises hreach (by decide) (by decide) hsync december december⟩

end Server
