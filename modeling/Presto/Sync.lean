import Presto.Recompute

/-!
# What `sync` writes

A successful `sync` materialises the expectations of the months it walks and settles a list of
targets, nothing else (`sync_settled`). All targets lie in open months, so the trigger that protects
closed months never fires (`post_eq`). Each target is the recomputed effect of its source, and every
other source of an open month has none; hence the balances after `sync` are the recomputed ones
(`sync_balance`).
-/

namespace BudgetLedger

open Budget Server

/-! ## Settling -/

/-- The database with a list of targets settled. -/
def settled (db : Database) (ts : List (Source × Decimal)) (operation : Option OperationId) :
    Database :=
  { db with movements := Journal.settleAll db.movements ts operation }

theorem settled_append (db : Database) (ts us : List (Source × Decimal))
    (operation : Option OperationId) :
    settled (settled db ts operation) us operation = settled db (ts ++ us) operation := by
  simp [settled, Journal.settleAll_append]

theorem movement_eq (db : Database) {t : Source × Decimal} (h : db.isClosed t.1.month = false)
    (operation : Option OperationId) :
    movement operation db t = .ok (settled db [t] operation) := by
  unfold movement settled
  rw [Journal.settleAll_cons, Journal.settleAll_nil]
  split
  · rename_i h0
    rw [Journal.settle_of_balance (sub_eq_zero.1 h0).symm]
  · simp [h]

/-- **Targets in open months are settled; the trigger never fires.** -/
theorem post_eq {ts : List (Source × Decimal)} (operation : Option OperationId) :
    ∀ db : Database, (∀ t ∈ ts, db.isClosed t.1.month = false) →
      post operation db ts = .ok (settled db ts operation) := by
  unfold post
  induction ts with
  | nil => intro db _; rfl
  | cons t ts ih =>
    intro db h
    rw [List.foldlM_cons, movement_eq db (h t List.mem_cons_self)]
    have hrest := ih (settled db [t] operation) fun u hu => h u (List.mem_cons_of_mem _ hu)
    exact hrest.trans (by rw [settled_append]; rfl)

theorem movement_ok {operation : Option OperationId} {db db' : Database} {t : Source × Decimal}
    (h : movement operation db t = .ok db') (hopen : db.isClosed t.1.month = false) :
    db' = settled db [t] operation := by
  rw [movement_eq db hopen] at h
  exact (Except.ok.inj h).symm

theorem post_ok {operation : Option OperationId} {db db' : Database} {ts : List (Source × Decimal)}
    (h : post operation db ts = .ok db') (hopen : ∀ t ∈ ts, db.isClosed t.1.month = false) :
    db' = settled db ts operation := by
  rw [post_eq operation db hopen] at h
  exact (Except.ok.inj h).symm

theorem settled_changes {today : Date} {ts : List (Source × Decimal)}
    (operation : Option OperationId) : ∀ db : Database, db.start.isSome = true →
      (∀ t ∈ ts, WellSourced db t.1 ∧ t.1.month ≤ today.month ∧ db.isClosed t.1.month = false) →
      Changes today db (settled db ts operation) := by
  induction ts with
  | nil => intro _ _ _; exact .refl
  | cons t ts ih =>
    intro db hstart h
    obtain ⟨hsrc, hle, hopen⟩ := h t List.mem_cons_self
    have hmove : Change today db (settled db [t] operation) := .move operation hstart hopen hle hsrc
    exact .head hmove (ih (settled db [t] operation) hstart fun u hu => h u (List.mem_cons_of_mem _ hu))

/-! ## Expectations -/

/-- The row that `ensure_income` adds. -/
def Materialises (db : Database) (m : Month) (p : PlanIncome) : Prop :=
  ∃ eur, settingEur db m = .ok eur ∧ p = newPlan (incomeSetting db m) eur

theorem ensureIncome_ok {db db' : Database} {m : Month} (h : ensureIncome db m = .ok db') :
    ∃ P, db' = { db with planIncome := P } ∧ Keeps db.planIncome P ∧ (P.lookup m).isSome = true ∧
      ∀ m' p, P.lookup m' = some p → db.planIncome.lookup m' = some p ∨
        (m' = m ∧ Materialises db m p) := by
  unfold ensureIncome at h
  cases hl : db.planIncome.lookup m with
  | some p =>
    simp only [hl, Except.ok.injEq] at h
    subst h
    exact ⟨db.planIncome, rfl, .rfl, by simp [hl], fun _ _ h => .inl h⟩
  | none =>
    simp only [hl, Except.bind_eq_ok, Except.pure_eq_ok] at h
    obtain ⟨eur, heur, rfl⟩ := h
    refine ⟨_, rfl, .insert hl _, by simp, fun m' p hp => ?_⟩
    rw [AList.lookup_insert_of] at hp
    split at hp
    · cases hp
      exact .inr ⟨by assumption, eur, heur, rfl⟩
    · exact .inl hp

theorem ensureIncome_changes {today : Date} {db db' : Database} {m s : Month}
    (h : ensureIncome db m = .ok db') (hs : db.start = some s) (hle : s ≤ m)
    (hreached : m ≤ today.month) : Changes today db db' := by
  unfold ensureIncome at h
  cases hl : db.planIncome.lookup m with
  | some p =>
    simp only [hl, Except.ok.injEq] at h
    subst h
    exact .refl
  | none =>
    simp only [hl, Except.bind_eq_ok, Except.pure_eq_ok] at h
    obtain ⟨eur, heur, rfl⟩ := h
    exact .single (.ensurePlan hs hle hreached hl heur)

/-- Expectations are materialised and targets settled: everything that `sync` does. -/
structure Settled (today : Date) (operation : Option OperationId) (ts : List (Source × Decimal))
    (db db' : Database) : Prop where
  eq : ∃ P, db' = settled { db with planIncome := P } ts operation
  plans : Keeps db.planIncome db'.planIncome
  created : ∀ m p, db'.planIncome.lookup m = some p → db.planIncome.lookup m = some p ∨
    ((∃ s, db.start = some s ∧ s ≤ m) ∧ m.Calendar ∧ m ≤ today.month ∧ db.isClosed m = false ∧
      Materialises db m p)
  changes : Changes today db db'

namespace Settled

variable {today : Date} {operation : Option OperationId} {ts us : List (Source × Decimal)}
  {db db' db'' : Database}

theorem refl (db : Database) : Settled today operation [] db db where
  eq := ⟨db.planIncome, rfl⟩
  plans := .rfl
  created _ _ h := .inl h
  changes := .refl

theorem trans (h : Settled today operation ts db db') (h' : Settled today operation us db' db'') :
    Settled today operation (ts ++ us) db db'' where
  eq := by
    obtain ⟨P, rfl⟩ := h.eq
    obtain ⟨Q, rfl⟩ := h'.eq
    exact ⟨Q, by simp [settled, Journal.settleAll_append]⟩
  plans := h.plans.trans h'.plans
  created := by
    intro m p hp
    obtain ⟨P, rfl⟩ := h.eq
    rcases h'.created m p hp with hp | hnew
    · exact h.created m p hp
    · exact .inr hnew
  changes := h.changes.trans h'.changes

theorem movements (h : Settled today operation ts db db') :
    db'.movements = Journal.settleAll db.movements ts operation := by
  obtain ⟨P, rfl⟩ := h.eq
  rfl

/-- Facts are the same before and after, but for new expectations. -/
theorem recompute_eq (h : Settled today operation ts db db') {s : Source} (hs : Monthly s)
    (hplan : (db.planIncome.lookup s.month).isSome = true) (current : Month) :
    recompute db' current s = recompute db current s := by
  obtain ⟨p, hp⟩ := Option.isSome_iff_exists.1 hplan
  have hp' := h.plans _ _ hp
  obtain ⟨P, rfl⟩ := h.eq
  rw [settled, recompute_movements]
  exact recompute_planIncome hs (hp'.trans hp.symm) current

theorem isClosed_eq (h : Settled today operation ts db db') (m : Month) :
    db'.isClosed m = db.isClosed m := by
  obtain ⟨P, rfl⟩ := h.eq
  rfl

theorem start_eq (h : Settled today operation ts db db') : db'.start = db.start := by
  obtain ⟨P, rfl⟩ := h.eq
  rfl

end Settled

/-- A source covered later is covered by all targets together. -/
theorem Covered.append {j : List Movement} {db : Database} {current : Month}
    {ts us : List (Source × Decimal)} {operation : Option OperationId} {s : Source}
    (h : Covered (Journal.settleAll j ts operation) db current us s) :
    Covered j db current (ts ++ us) s := by
  rcases h with h | ⟨hb, hv⟩
  · exact .inl (by rw [List.map_append, List.mem_append]; exact .inr h)
  · by_cases hs : s ∈ ts.map Prod.fst
    · exact .inl (by rw [List.map_append, List.mem_append]; exact .inl hs)
    · refine .inr ⟨?_, hv⟩
      rwa [Journal.balance_settleAll_of_notMem] at hb
      exact fun t ht e => hs (List.mem_map.2 ⟨t, ht, e⟩)

/-- Movements do not count. -/
theorem Covered.settled {j : List Movement} {db : Database} {current : Month}
    {ts us vs : List (Source × Decimal)} {operation : Option OperationId} {s : Source}
    (h : Covered j (settled db us operation) current ts s) :
    Covered j (settled db vs operation) current ts s :=
  h.imp id fun ⟨hb, hv⟩ => ⟨hb, hv⟩

theorem Covered.mono {j : List Movement} {db : Database} {current : Month}
    {ts us : List (Source × Decimal)} {s : Source} (h : Covered j db current ts s) :
    Covered j db current (ts ++ us) s := by
  rcases h with h | h
  · exact .inl (by rw [List.map_append, List.mem_append]; exact .inl h)
  · exact .inr h

/-! ## One month -/

theorem mem_budgetCategories {db : Database} {c : CategoryId} :
    c ∈ (budgetCategories db).map Prod.fst ↔ db.isRealCategory c = true ∧ c ≠ UNALLOCATED := by
  unfold budgetCategories Database.isRealCategory
  rw [((List.perm_insertionSort _ _).map _).mem_iff, List.map_map, List.mem_map]
  constructor
  · rintro ⟨⟨c', x⟩, he, rfl⟩
    obtain ⟨he, hx⟩ := List.mem_filter.1 he
    have hl := AList.mem_entries_iff.1 he
    simp_all
  · rintro ⟨hr, hu⟩
    cases hl : db.categories.lookup c with
    | none => simp [hl] at hr
    | some x =>
      refine ⟨⟨c, x⟩, List.mem_filter.2 ⟨AList.mem_entries_iff.2 hl, ?_⟩, rfl⟩
      simp_all

theorem mem_monthAllocations {db : Database} {m : Month} {al : List (CategoryId × Decimal)}
    (h : monthAllocations db m = .ok al) {a : CategoryId × Decimal} (ha : a ∈ al) :
    db.isRealCategory a.1 = true ∧ a.1 ≠ UNALLOCATED ∧ monthlyAllocation db a.1 m = some a.2 := by
  obtain ⟨c, hc, hf⟩ := Except.exists_of_mem_mapM h ha
  simp only [Except.map_eq_ok, Except.fromOption_eq_ok] at hf
  obtain ⟨x, hx, rfl⟩ := hf
  obtain ⟨hr, hu⟩ := mem_budgetCategories.1 (List.mem_map.2 ⟨c, hc, rfl⟩)
  exact ⟨hr, hu, hx⟩

theorem exists_mem_monthAllocations {db : Database} {m : Month} {al : List (CategoryId × Decimal)}
    (h : monthAllocations db m = .ok al) {c : CategoryId} (hr : db.isRealCategory c = true)
    (hu : c ≠ UNALLOCATED) : ∃ x, (c, x) ∈ al := by
  obtain ⟨e, he, rfl⟩ := List.mem_map.1 (mem_budgetCategories.2 ⟨hr, hu⟩)
  obtain ⟨a, ha, hf⟩ := Except.exists_mem_of_mapM h he
  simp only [Except.map_eq_ok] at hf
  obtain ⟨x, _, rfl⟩ := hf
  exact ⟨x, ha⟩

theorem mem_correctionItems {db : Database} {m : Month} {i : OperationId × CategoryId × Decimal} :
    i ∈ correctionItems db m ↔
      ∃ r, db.corrections.lookup i.1 = some r ∧ r.appliedMonth = m ∧ i.2 ∈ r.items := by
  unfold correctionItems
  rw [List.mem_flatMap]
  constructor
  · rintro ⟨⟨op, r⟩, he, hi⟩
    obtain ⟨he, hm⟩ := List.mem_filter.1 he
    obtain ⟨x, hx, rfl⟩ := List.mem_map.1 hi
    exact ⟨r, AList.mem_entries_iff.1 he, of_decide_eq_true hm, hx⟩
  · rintro ⟨r, hr, hm, hi⟩
    exact ⟨⟨i.1, r⟩, List.mem_filter.2 ⟨AList.mem_entries_iff.2 hr, by simp [hm]⟩,
      List.mem_map.2 ⟨i.2, hi, rfl⟩⟩

theorem correctionWants_of_mem {db : Database} {op : OperationId} {r : CategoryCorrection}
    (hr : db.corrections.lookup op = some r) (hnd : (r.items.map Prod.fst).Nodup)
    {i : CategoryId × Decimal} (hi : i ∈ r.items) :
    correctionWants db op i.1 r.appliedMonth = 0 - i.2 := by
  have hone : r.items.filter (fun x => x.1 = i.1) = [i] := by
    generalize r.items = items at hnd hi
    induction items with
    | nil => cases hi
    | cons x xs ih =>
      rw [List.map_cons, List.nodup_cons] at hnd
      rcases List.mem_cons.1 hi with rfl | hi
      · have hrest : xs.filter (fun x => x.1 = i.1) = [] := by
          rw [List.filter_eq_nil_iff]
          intro y hy e
          exact hnd.1 (List.mem_map.2 ⟨y, hy, of_decide_eq_true e⟩)
        simp [hrest]
      · have hne : x.1 ≠ i.1 := fun e => hnd.1 (e ▸ List.mem_map.2 ⟨i, hi, rfl⟩)
        rw [List.filter_cons_of_neg (by simpa using hne)]
        exact ih hnd.2 hi
  simp [correctionWants, hr, hone]

/-- The targets of the month walk, in order. -/
def monthTargets (db : Database) (m : Month) (plan : PlanIncome) (al : List (CategoryId × Decimal))
    (tx : List (Source × Decimal)) : List (Source × Decimal) :=
  (fundingSource m, plan.amountEur) :: al.map (fun a => (allocationSource m a.1, a.2)) ++
  (allocationsSource m, 0 - (al.map (·.2)).sum) :: tx ++
  (correctionItems db m).map fun i => (correctionSource m i, 0 - i.2.2)

/-- The expectation and the allocations of a month, before its transactions. -/
def planTargets (m : Month) (plan : PlanIncome) (al : List (CategoryId × Decimal)) :
    List (Source × Decimal) :=
  (fundingSource m, plan.amountEur) :: al.map (fun a => (allocationSource m a.1, a.2)) ++
  [(allocationsSource m, 0 - (al.map (·.2)).sum)]

theorem monthTargets_eq (db : Database) (m : Month) (plan : PlanIncome)
    (al : List (CategoryId × Decimal)) (tx : List (Source × Decimal)) :
    monthTargets db m plan al tx = planTargets m plan al ++ tx ++
      (correctionItems db m).map fun i => (correctionSource m i, 0 - i.2.2) := by
  simp [monthTargets, planTargets]

/-- One turn of the walk: an expectation is materialised and the month's targets are settled. -/
theorem syncMonth_ok {operation : Option OperationId} {db db' : Database} {m : Month}
    (h : syncMonth operation db m = .ok db') (hopen : db.isClosed m = false) :
    ∃ db₁ plan al tx, ensureIncome db m = .ok db₁ ∧ db₁.planIncome.lookup m = some plan ∧
      monthAllocations db₁ m = .ok al ∧
      transactionTargets (settled db₁ (planTargets m plan al) operation) m = .ok tx ∧
      ((∀ t ∈ tx, t.1.month = m) → db' = settled db₁ (monthTargets db₁ m plan al tx) operation) := by
  unfold syncMonth at h
  rw [if_neg (by simp [hopen]), Except.bind_eq_ok] at h
  obtain ⟨db₁, h1, h⟩ := h
  obtain ⟨P, rfl, _, _, _⟩ := ensureIncome_ok h1
  rw [Except.bind_eq_ok] at h
  obtain ⟨plan, hplan, h⟩ := h
  rw [Except.fromOption_eq_ok] at hplan
  have hallocations : ∀ al : List (CategoryId × Decimal),
      ∀ t ∈ al.map fun a => (allocationSource m a.1, a.2), db.isClosed t.1.month = false := by
    intro al t ht
    obtain ⟨a, _, rfl⟩ := List.mem_map.1 ht
    exact hopen
  have hcorrections : ∀ is : List (OperationId × CategoryId × Decimal),
      ∀ t ∈ is.map fun i => (correctionSource m i, 0 - i.2.2), db.isClosed t.1.month = false := by
    intro is t ht
    obtain ⟨i, _, rfl⟩ := List.mem_map.1 ht
    exact hopen
  rw [Except.bind_eq_ok] at h
  obtain ⟨db₂, h2, h⟩ := h
  obtain rfl := movement_ok h2 hopen
  rw [Except.bind_eq_ok] at h
  obtain ⟨al, hal, h⟩ := h
  rw [Except.bind_eq_ok] at h
  obtain ⟨db₃, h3, h⟩ := h
  obtain rfl := post_ok h3 (hallocations al)
  rw [Except.bind_eq_ok] at h
  obtain ⟨db₄, h4, h⟩ := h
  obtain rfl := movement_ok h4 hopen
  simp only [settled_append] at h
  rw [Except.bind_eq_ok] at h
  obtain ⟨db₅, h5, h⟩ := h
  rw [syncTransactions, Except.bind_eq_ok] at h5
  obtain ⟨tx, htx, h5⟩ := h5
  refine ⟨_, plan, al, tx, h1, hplan, hal, htx, fun hm => ?_⟩
  obtain rfl := post_ok h5 fun t ht => (congrArg _ (hm t ht)).trans hopen
  obtain rfl := post_ok h (hcorrections _)
  rw [settled_append, settled_append, monthTargets_eq, planTargets, ← List.append_assoc]
  rfl

/-- The expectation and the allocations of a month are the recomputed ones. -/
theorem planTargets_sourced {db : Database} {m : Month} {plan : PlanIncome}
    {al : List (CategoryId × Decimal)} (hplan : db.planIncome.lookup m = some plan)
    (hal : monthAllocations db m = .ok al) (hm : m.Calendar) (current : Month)
    {t : Source × Decimal} (ht : t ∈ planTargets m plan al) :
    Sourced db current t ∧ t.1.month = m ∧ Monthly t.1 := by
  simp only [planTargets, List.cons_append, List.mem_cons, List.mem_append, List.mem_map,
    List.not_mem_nil, or_false] at ht
  rcases ht with rfl | ⟨a, ha, rfl⟩ | rfl
  · refine ⟨⟨⟨hm, rfl, rfl⟩, ?_⟩, rfl, trivial⟩
    simp [recompute, fundingSource, hplan]
  · obtain ⟨hr, hu, hx⟩ := mem_monthAllocations hal ha
    refine ⟨⟨⟨hm, rfl, rfl, hu, hr⟩, ?_⟩, rfl, trivial⟩
    simp [recompute, allocationSource, allocationWants, hr, hu, hx, Except.fromOption]
  · refine ⟨⟨⟨hm, rfl, rfl⟩, ?_⟩, rfl, trivial⟩
    simp [recompute, allocationsSource, hal, Except.map]

theorem correctionTargets_sourced {today : Date} {db : Database} {m : Month} (hm : m.Calendar)
    (hcorrections : CorrectionsSound today db) (current : Month)
    {i : OperationId × CategoryId × Decimal} (hi : i ∈ correctionItems db m) :
    Sourced db current (correctionSource m i, 0 - i.2.2) := by
  obtain ⟨r, hr, rfl, hmem⟩ := mem_correctionItems.1 hi
  obtain ⟨_, _, hnd, _⟩ := hcorrections _ r hr
  refine ⟨⟨hm, rfl, r, hr, rfl, i.2, hmem, rfl⟩, ?_⟩
  simp [recompute, correctionSource, correctionWants_of_mem hr hnd hmem]

/-- The well-formed sources of a month, other than its transactions, have a target. -/
theorem mem_monthTargets {db : Database} {s : Source} {plan : PlanIncome}
    {al : List (CategoryId × Decimal)} (hal : monthAllocations db s.month = .ok al)
    (tx : List (Source × Decimal)) (hs : WellSourced db s) (hmonthly : Monthly s)
    (hkey : ∀ id, s.key ≠ .transaction id) :
    s ∈ (monthTargets db s.month plan al tx).map Prod.fst := by
  obtain ⟨m, c, k, key⟩ := s
  obtain ⟨-, hs⟩ := hs
  simp only [monthTargets, List.map_cons, List.map_append, List.map_map, List.mem_cons,
    List.mem_append, List.mem_map, List.cons_append]
  cases key with
  | expected m' =>
    cases k <;> first | exact hs.elim | skip
    obtain ⟨rfl, rfl⟩ := hs
    exact .inl rfl
  | allocation m' c' =>
    cases k <;> first | exact hs.elim | skip
    obtain ⟨rfl, rfl, hu, hr⟩ := hs
    obtain ⟨x, hx⟩ := exists_mem_monthAllocations hal hr hu
    exact .inr (.inl (.inl ⟨_, hx, rfl⟩))
  | allocations m' =>
    cases k <;> first | exact hs.elim | skip
    obtain ⟨rfl, rfl⟩ := hs
    exact .inr (.inl (.inr (.inl rfl)))
  | transaction id => exact absurd rfl (hkey id)
  | correction op c' =>
    cases k <;> first | exact hs.elim | skip
    obtain ⟨rfl, r, hr, hm, i, hi, rfl⟩ := hs
    exact .inr (.inr ⟨(op, i), mem_correctionItems.2 ⟨r, hr, hm, hi⟩, rfl⟩)
  | excess _ => exact hmonthly.elim
  | complete _ => exact hmonthly.elim

/-- **One month.** Its turn settles the recomputed effects of all its sources but excess and
settlements, which belong to expectations. -/
theorem syncMonth_settled {today : Date} {operation : Option OperationId} {db db' : Database}
    {m s : Month} (h : syncMonth operation db m = .ok db') (hopen : db.isClosed m = false)
    (hm : m.Calendar) (hreached : m ≤ today.month) (hs : db.start = some s) (hle : s ≤ m)
    (hsound : Sound today db) :
    ∃ ts, Settled today operation ts db db' ∧ (db'.planIncome.lookup m).isSome = true ∧
      (∀ t ∈ ts, Sourced db' today.month t ∧ t.1.month = m ∧ Monthly t.1) ∧
      ∀ s, s.month = m → Monthly s → Covered db.movements db' today.month ts s := by
  obtain ⟨db₁, plan, al, tx, h1, hplan, hal, htx, hdb'⟩ := syncMonth_ok h hopen
  have hchanges₁ := ensureIncome_changes h1 hs hle hreached
  have hsound₁ : Sound today db₁ := hchanges₁.sound hsound
  obtain ⟨P, rfl, hkeeps, hsome, hcreated⟩ := ensureIncome_ok h1
  -- the movements booked before the transactions are sound as well
  have hplanTargets := fun t => planTargets_sourced (t := t) hplan hal hm today.month
  have hbooked : ∀ e ∈ (settled { db with planIncome := P } (planTargets m plan al)
      operation).movements, WellSourced { db with planIncome := P } e.key := by
    intro e he
    rcases Journal.mem_settleAll he with he | ⟨⟨t, ht, hk⟩, _⟩
    · exact (hsound₁.movements e he).1
    · exact hk ▸ (hplanTargets t ht).1.source
  obtain ⟨htxs, htxc⟩ := transactionTargets_ok htx hm hbooked today.month
  have hdb' := hdb' fun t ht => (htxs t ht).2.1
  have hsourced : ∀ t ∈ monthTargets { db with planIncome := P } m plan al tx,
      Sourced { db with planIncome := P } today.month t ∧ t.1.month = m ∧ Monthly t.1 := by
    intro t ht
    rw [monthTargets_eq, List.mem_append, List.mem_append, List.mem_map] at ht
    rcases ht with (ht | ht) | ⟨i, hi, rfl⟩
    · exact hplanTargets t ht
    · obtain ⟨⟨h1, h2⟩, h3, id, h4⟩ := htxs t ht
      exact ⟨⟨h1, h2⟩, h3, by simp [Monthly, h4]⟩
    · exact ⟨correctionTargets_sourced hm hsound₁.corrections today.month hi, rfl, trivial⟩
  refine ⟨_, ⟨⟨P, hdb'⟩, ?_, ?_, ?_⟩, ?_, ?_, ?_⟩
  · rw [hdb']
    exact hkeeps
  · intro m' p hp
    rw [hdb'] at hp
    rcases hcreated m' p hp with hp | ⟨rfl, hmat⟩
    · exact .inl hp
    · exact .inr ⟨⟨s, hs, hle⟩, hm, hreached, hopen, hmat⟩
  · rw [hdb']
    have hstart : db.start.isSome = true := by simp [hs]
    refine hchanges₁.trans (settled_changes operation _ hstart fun t ht => ?_)
    obtain ⟨hsrc, hmonth, _⟩ := hsourced t ht
    exact ⟨hsrc.source, hmonth ▸ hreached, hmonth ▸ hopen⟩
  · rw [hdb']
    exact hsome
  · intro t ht
    obtain ⟨⟨h1, h2⟩, h3⟩ := hsourced t ht
    rw [hdb']
    exact ⟨⟨h1, h2⟩, h3⟩
  · rintro s rfl hmonthly
    rw [hdb']
    by_cases hwell : WellSourced { db with planIncome := P } s
    · by_cases hkey : ∃ id, s.key = .transaction id
      · obtain ⟨id, hid⟩ := hkey
        rw [monthTargets_eq]
        exact (Covered.append (htxc s id rfl hid)).mono.settled
      · exact .inl (mem_monthTargets hal tx hwell hmonthly fun id hid => hkey ⟨id, hid⟩)
    · refine .inr ⟨Journal.balance_eq_zero fun e he hk => hwell ?_, ?_⟩
      · exact hk ▸ (hsound₁.movements e he).1
      · exact recompute_of_not_wellSourced hm hwell _

/-! ## The walks -/

/-- A target of a month whose expectation exists keeps its value. -/
theorem Sourced.after {today : Date} {operation : Option OperationId}
    {us : List (Source × Decimal)} {db db' : Database} {t : Source × Decimal} {current : Month}
    (h : Sourced db current t) (hs : Settled today operation us db db') (hmonthly : Monthly t.1)
    (hplan : (db.planIncome.lookup t.1.month).isSome = true) : Sourced db' current t :=
  ⟨h.source.mono hs.changes.toExtends, (hs.recompute_eq hmonthly hplan current).trans h.value⟩

theorem Covered.after {today : Date} {operation : Option OperationId}
    {ts us : List (Source × Decimal)} {j : List Movement} {db db' : Database} {s : Source}
    {current : Month} (h : Covered j db current ts s) (hs : Settled today operation us db db')
    (hmonthly : Monthly s) (hplan : (db.planIncome.lookup s.month).isSome = true) :
    Covered j db' current ts s :=
  h.imp id fun ⟨hb, hv⟩ => ⟨hb, (hs.recompute_eq hmonthly hplan current).trans hv⟩

/-- What the walk over the months `ms` achieves. -/
structure Walked (today : Date) (operation : Option OperationId) (ms : List Month)
    (ts : List (Source × Decimal)) (db db' : Database) : Prop where
  settled : Settled today operation ts db db'
  plans : ∀ m ∈ ms, db.isClosed m = false → (db'.planIncome.lookup m).isSome = true
  targets : ∀ t ∈ ts, Sourced db' today.month t ∧ t.1.month ∈ ms ∧ db.isClosed t.1.month = false ∧
    Monthly t.1
  covered : ∀ s, s.month ∈ ms → db.isClosed s.month = false → Monthly s →
    Covered db.movements db' today.month ts s

theorem Walked.cons {today : Date} {operation : Option OperationId} {m : Month} {ms : List Month}
    {ts us : List (Source × Decimal)} {db db₁ db' : Database}
    (h : Walked today operation [m] ts db db₁) (h' : Walked today operation ms us db₁ db') :
    Walked today operation (m :: ms) (ts ++ us) db db' where
  settled := h.settled.trans h'.settled
  plans m' hm' hopen := by
    rcases List.mem_cons.1 hm' with rfl | hm'
    · exact h'.settled.plans.isSome (h.plans _ List.mem_cons_self hopen)
    · exact h'.plans m' hm' (by rwa [h.settled.isClosed_eq])
  targets t ht := by
    rcases List.mem_append.1 ht with ht | ht
    · obtain ⟨h1, h2, h3, h4⟩ := h.targets t ht
      obtain rfl := List.mem_singleton.1 h2
      exact ⟨h1.after h'.settled h4 (h.plans _ h2 h3), List.mem_cons_self, h3, h4⟩
    · obtain ⟨h1, h2, h3, h4⟩ := h'.targets t ht
      exact ⟨h1, List.mem_cons_of_mem _ h2, by rwa [h.settled.isClosed_eq] at h3, h4⟩
  covered s hs hopen hmonthly := by
    by_cases hm : s.month = m
    · have hmem : s.month ∈ [m] := by simp [hm]
      exact ((h.covered s hmem hopen hmonthly).after h'.settled hmonthly
        (h.plans _ hmem hopen)).mono
    · have hmem : s.month ∈ ms := by simpa [hm] using hs
      have hcov := h'.covered s hmem (by rwa [h.settled.isClosed_eq]) hmonthly
      rw [h.settled.movements] at hcov
      exact hcov.append

theorem syncMonth_walked {today : Date} {operation : Option OperationId} {db db' : Database}
    {m s : Month} (h : syncMonth operation db m = .ok db') (hm : m.Calendar)
    (hreached : m ≤ today.month) (hs : db.start = some s) (hle : s ≤ m) (hsound : Sound today db) :
    ∃ ts, Walked today operation [m] ts db db' := by
  cases hopen : db.isClosed m with
  | true =>
    rw [syncMonth, if_pos hopen, Except.ok.injEq] at h
    subst h
    refine ⟨[], .refl db, fun m' hm' ho => ?_, by simp, fun s hs ho => ?_⟩
    all_goals
      simp only [List.mem_singleton] at *
      simp_all
  | false =>
    obtain ⟨ts, h1, h2, h3, h4⟩ := syncMonth_settled h hopen hm hreached hs hle hsound
    refine ⟨ts, h1, fun m' hm' _ => ?_, fun t ht => ?_, fun s hs _ hmonthly => ?_⟩
    · rwa [List.mem_singleton.1 hm']
    · obtain ⟨a, b, c⟩ := h3 t ht
      exact ⟨a, by simp [b], b ▸ hopen, c⟩
    · exact h4 s (List.mem_singleton.1 hs) hmonthly

theorem walk_walked {today : Date} {operation : Option OperationId} {s : Month} {ms : List Month} :
    ∀ {db db' : Database}, ms.foldlM (syncMonth operation) db = .ok db' →
      (∀ m ∈ ms, m.Calendar ∧ s ≤ m ∧ m ≤ today.month) → db.start = some s → Sound today db →
      ∃ ts, Walked today operation ms ts db db' := by
  induction ms with
  | nil =>
    intro db db' h _ _ _
    rw [List.foldlM_nil, Except.pure_eq_ok] at h
    subst h
    exact ⟨[], .refl db, by simp, by simp, by simp⟩
  | cons m ms ih =>
    intro db db' h hms hs hsound
    rw [List.foldlM_cons, Except.bind_eq_ok] at h
    obtain ⟨db₁, h1, h2⟩ := h
    obtain ⟨hm, hle, hreached⟩ := hms m List.mem_cons_self
    obtain ⟨ts, hw⟩ := syncMonth_walked h1 hm hreached hs hle hsound
    obtain ⟨us, hw'⟩ := ih h2 (fun m' hm' => hms m' (List.mem_cons_of_mem _ hm'))
      (hw.settled.start_eq.trans hs) (hw.settled.changes.sound hsound)
    exact ⟨ts ++ us, hw.cons hw'⟩

theorem Sourced.settled {db : Database} {current : Month} {us : List (Source × Decimal)}
    {operation : Option OperationId} {t : Source × Decimal} (h : Sourced db current t) :
    Sourced (settled db us operation) current t :=
  ⟨h.source, h.value⟩

/-- The walk over the expectations settles the recomputed excess and settlements of open months. -/
theorem expectations_settled {today : Date} {operation : Option OperationId} {ms : List Month} :
    ∀ {db db' : Database}, ms.foldlM (syncExpectation today.month operation) db = .ok db' →
      db.start.isSome = true → Sound today db → ∃ ts, db' = settled db ts operation ∧
        (∀ t ∈ ts, Sourced db today.month t ∧ t.1.month ≤ today.month ∧
          db.isClosed t.1.month = false) ∧
        ∀ s m, m ∈ ms → db.isClosed s.month = false → (s.key = .excess m ∨ s.key = .complete m) →
          Covered db.movements db today.month ts s := by
  induction ms with
  | nil =>
    intro db db' h _ _
    rw [List.foldlM_nil, Except.pure_eq_ok] at h
    exact ⟨[], h.symm, by simp, by simp⟩
  | cons m ms ih =>
    intro db db' h hstart hsound
    rw [List.foldlM_cons, Except.bind_eq_ok] at h
    obtain ⟨db₁, h1, h2⟩ := h
    rw [syncExpectation, Except.bind_eq_ok] at h1
    obtain ⟨ts, hts, h1⟩ := h1
    obtain ⟨ht, hc⟩ := expectationTargets_ok hts hsound.dates hsound.movements hsound.completions
    obtain rfl := post_ok h1 fun t h => (ht t h).2.2
    have hsound₁ : Sound today (settled db ts operation) :=
      (settled_changes operation db hstart fun t h => ⟨(ht t h).1.source, (ht t h).2⟩).sound hsound
    obtain ⟨us, rfl, hu, hcu⟩ := ih h2 hstart hsound₁
    refine ⟨ts ++ us, settled_append _ _ _ _, fun t h => ?_, fun s m' hm' hopen hkey => ?_⟩
    · rcases List.mem_append.1 h with h | h
      · exact ht t h
      · obtain ⟨⟨a, b⟩, c⟩ := hu t h
        exact ⟨⟨a, b⟩, c⟩
    · rcases List.mem_cons.1 hm' with rfl | hm'
      · exact (hc s hopen hkey).mono
      · obtain h | ⟨hb, hv⟩ := Covered.append (hcu s m' hm' hopen hkey)
        · exact .inl h
        · exact .inr ⟨hb, hv⟩

/-- What a successful `sync` achieves from the ledger start on. -/
structure Synced (today : Date) (operation : Option OperationId) (start : Month)
    (ts : List (Source × Decimal)) (db db' : Database) : Prop where
  settled : Settled today operation ts db db'
  plans : ∀ m, m.Calendar → start ≤ m → m ≤ today.month → db.isClosed m = false →
    (db'.planIncome.lookup m).isSome = true
  targets : ∀ t ∈ ts, Sourced db' today.month t ∧ db.isClosed t.1.month = false
  covered : ∀ s, s.month.Calendar → start ≤ s.month → s.month ≤ today.month →
    db.isClosed s.month = false → Covered db.movements db' today.month ts s

/-- **`sync`.** It materialises expectations and settles targets; each target is the recomputed
effect of its source, and the sources of open months that are not settled have none. -/
theorem sync_synced {today : Date} {operation : Option OperationId} {db db' : Database} {s : Month}
    (h : sync db today operation = .ok db') (hs : db.start = some s) (hsound : Sound today db) :
    ∃ ts, Synced today operation s ts db db' := by
  unfold sync at h
  rw [hs] at h
  simp only [Except.bind_eq_ok] at h
  obtain ⟨db₁, h1, h2⟩ := h
  obtain ⟨hcal, _, _⟩ := hsound.start s hs
  have hmem := fun m => @Month.mem_through s today.month m hcal
  obtain ⟨ts, hw⟩ : ∃ ts, Walked today operation _ ts db db₁ :=
    walk_walked h1 (fun m hm => (hmem m).1 hm) hs hsound
  have hsound₁ := hw.settled.changes.sound hsound
  have hstart₁ : db₁.start.isSome = true := by simp [hw.settled.start_eq, hs]
  obtain ⟨us, rfl, hu, hcu⟩ := expectations_settled h2 hstart₁ hsound₁
  have hsettled : Settled today operation us db₁ (settled db₁ us operation) :=
    ⟨⟨db₁.planIncome, rfl⟩, .rfl, fun _ _ h => .inl h,
      settled_changes operation db₁ hstart₁ fun t ht => ⟨(hu t ht).1.source, (hu t ht).2⟩⟩
  refine ⟨ts ++ us, hw.settled.trans hsettled, fun m h1 h2 h3 h4 => ?_, fun t ht => ?_,
    fun src h1 h2 h3 h4 => ?_⟩
  · exact hw.plans m ((hmem m).2 ⟨h1, h2, h3⟩) h4
  · rcases List.mem_append.1 ht with ht | ht
    · obtain ⟨a, _, b, _⟩ := hw.targets t ht
      exact ⟨a.settled, b⟩
    · obtain ⟨a, _, b⟩ := hu t ht
      exact ⟨a.settled, by rwa [hw.settled.isClosed_eq] at b⟩
  · have hopen₁ : db₁.isClosed src.month = false := by rwa [hw.settled.isClosed_eq]
    by_cases hmonthly : Monthly src
    · exact ((hw.covered src ((hmem _).2 ⟨h1, h2, h3⟩) h4 hmonthly).mono).imp id
        fun ⟨hb, hv⟩ => ⟨hb, hv⟩
    · by_cases hwell : WellSourced db₁ src
      · -- the expectation exists, so it had its turn
        have hturn : ∃ m, (db₁.planIncome.lookup m).isSome = true ∧
            (src.key = .excess m ∨ src.key = .complete m) := by
          unfold Monthly at hmonthly
          cases hkey : src.key with
          | excess m =>
            have hsrc := hwell.excess hkey
            rw [hsrc] at hwell
            exact ⟨m, hwell.2.2, .inl rfl⟩
          | complete m =>
            obtain ⟨_, p, hp, _⟩ := hwell.complete hkey
            exact ⟨m, by simp [hp], .inr rfl⟩
          | _ => simp [hkey] at hmonthly
        obtain ⟨m, hm, hkey⟩ := hturn
        have hplanned : m ∈ plannedMonths db₁ := by
          rw [plannedMonths, (List.perm_insertionSort _ _).mem_iff]
          exact AList.mem_keys.1 (AList.lookup_isSome.1 hm)
        have hcov := hcu src m hplanned hopen₁ hkey
        rw [hw.settled.movements] at hcov
        exact hcov.append.imp id fun ⟨hb, hv⟩ => ⟨hb, hv⟩
      · refine .inr ⟨Journal.balance_eq_zero fun e he hk => hwell ?_, ?_⟩
        · exact hk ▸ ((hsound.movements e he).1.mono hw.settled.changes.toExtends)
        · exact recompute_of_not_wellSourced h1 hwell _

theorem sync_inactive {today : Date} {operation : Option OperationId} {db db' : Database}
    (h : sync db today operation = .ok db') (hs : db.start = none) : db' = db := by
  unfold sync at h
  rw [hs] at h
  exact (Except.ok.inj h).symm

/-! ## Frame -/

/-- The two tables that `sync` writes. -/
def WritesPlan (db db' : Database) : Prop :=
  ∃ P M, db' = { db with planIncome := P, movements := M }

theorem WritesPlan.refl (db : Database) : WritesPlan db db := ⟨db.planIncome, db.movements, rfl⟩

theorem WritesPlan.trans {db db' db'' : Database} (h : WritesPlan db db')
    (h' : WritesPlan db' db'') : WritesPlan db db'' := by
  obtain ⟨_, _, rfl⟩ := h
  obtain ⟨P, M, rfl⟩ := h'
  exact ⟨P, M, rfl⟩

theorem movement_frame {operation : Option OperationId} {db db' : Database} {t : Source × Decimal}
    (h : movement operation db t = .ok db') : ∃ M, db' = { db with movements := M } := by
  unfold movement at h
  split at h
  · cases h
    exact ⟨db.movements, rfl⟩
  · split at h
    · cases h
    · cases h
      exact ⟨_, rfl⟩

/-- The targets of the transactions of a month lie in it. -/
theorem transactionTargets_month {db : Database} {m : Month} {ts : List (Source × Decimal)}
    (h : transactionTargets db m = .ok ts) : ∀ t ∈ ts, t.1.month = m := by
  unfold transactionTargets at h
  simp only [Except.bind_eq_ok, Except.pure_eq_ok] at h
  obtain ⟨wanted, hw, rfl⟩ := h
  have hrows : ((db.rows.filter fun r => r.month = m).map (·.id)).Nodup :=
    (rows_nodup db).sublist (List.filter_sublist.map _)
  obtain ⟨_, hframe⟩ := transactionEffects_ok hw hrows fun _ _ _ _ => rfl
  intro t ht
  rcases List.mem_append.1 ht with ht | ht
  · obtain ⟨⟨s, x⟩, he, rfl⟩ := List.mem_map.1 ht
    have hl : wanted.lookup s = some x := AList.mem_entries_iff.1 he
    obtain ⟨r, hr, hsrc⟩ := hframe s (by rw [hl]; exact Option.some_ne_none x)
    exact hsrc.1.trans (of_decide_eq_true (List.mem_filter.1 hr).2)
  · obtain ⟨s, hs, rfl⟩ := List.mem_map.1 ht
    have hbooked := List.mem_dedup.1 (List.mem_filter.1 hs).1
    obtain ⟨hmonth, _⟩ := Bool.and_eq_true_iff.1 (List.mem_filter.1 hbooked).2
    exact of_decide_eq_true hmonth

/-- The targets of an expectation book no transaction. -/
theorem expectationTargets_key {db : Database} {current m : Month} {ts : List (Source × Decimal)}
    (h : expectationTargets db current m = .ok ts) (id : TransactionId) :
    ∀ t ∈ ts, t.1.key ≠ .transaction id := by
  simp only [expectationTargets, Except.bind_eq_ok, Except.pure_eq_ok] at h
  obtain ⟨row, _, _, _, wanted, _, settlement, hsettlement, rfl⟩ := h
  intro t ht
  rcases List.mem_append.1 (List.mem_filter.1 ht).1 with ht | ht
  · rcases List.mem_append.1 ht with ht | ht
    · obtain ⟨_, _, rfl⟩ := List.mem_map.1 ht
      exact SourceKey.noConfusion
    · obtain ⟨_, _, rfl⟩ := List.mem_map.1 ht
      exact SourceKey.noConfusion
  · unfold settlementTargets at hsettlement
    split at hsettlement
    · cases hsettlement
      cases ht
    · simp only [Except.bind_eq_ok, Except.pure_eq_ok] at hsettlement
      obtain ⟨_, _, rfl⟩ := hsettlement
      rw [List.mem_singleton.1 ht]
      exact SourceKey.noConfusion

/-- What expectations that are added and movements keep, `sync` keeps; expectations are added for the
months it walks, and the movements of transactions lie in them. -/
theorem sync_walked {today : Date} {operation : Option OperationId} {I : Database → Prop}
    {db db' : Database} (hplan : ∀ x x' m, (∃ start, db.start = some start ∧
      m ∈ Month.through start today.month) → ensureIncome x m = .ok x' → I x → I x')
    (hmove : ∀ x t x', movement operation x t = .ok x' → (∀ id, t.1.key = .transaction id →
      ∃ start, db.start = some start ∧ start ≤ t.1.month) → I x → I x')
    (h : sync db today operation = .ok db') (hdb : I db) : I db' := by
  have hpost : ∀ {x x' : Database} {ts : List (Source × Decimal)}, post operation x ts = .ok x' →
      (∀ t ∈ ts, ∀ id, t.1.key = .transaction id → ∃ start, db.start = some start ∧
        start ≤ t.1.month) → I x → I x' := fun hp hts hx =>
    Except.foldlM_induction I hp hx fun t ht s s' hs hstep => hmove s t s' hstep (hts t ht) hs
  unfold sync at h
  cases hs : db.start with
  | none =>
    simp only [hs, Except.ok.injEq] at h
    exact h ▸ hdb
  | some first =>
    simp only [hs, Except.bind_eq_ok] at h
    obtain ⟨db₁, h1, h2⟩ := h
    have hwalk : I db₁ := by
      refine Except.foldlM_induction I h1 hdb fun m hm s s' hs' hstep => ?_
      have hle : first ≤ m := Month.walk_sorted.2 m hm
      unfold syncMonth at hstep
      split at hstep
      · cases hstep
        exact hs'
      · simp only [syncTransactions, Except.bind_eq_ok] at hstep
        obtain ⟨s₁, he, plan, _, s₂, hf, al, _, s₃, ha, s₄, has, s₅, ⟨tx, htx, ht⟩, hc⟩ := hstep
        have h₁ : I s₁ := hplan _ _ _ ⟨first, hs, hm⟩ he hs'
        have h₂ : I s₂ := hmove _ _ _ hf (fun _ hk => SourceKey.noConfusion hk) h₁
        have h₃ : I s₃ := hpost ha (fun t ht id hk => by
          obtain ⟨_, _, rfl⟩ := List.mem_map.1 ht
          exact SourceKey.noConfusion hk) h₂
        have h₄ : I s₄ := hmove _ _ _ has (fun _ hk => SourceKey.noConfusion hk) h₃
        have h₅ : I s₅ := hpost ht (fun t ht id _ =>
          ⟨first, hs, hle.trans_eq (transactionTargets_month htx t ht).symm⟩) h₄
        exact hpost hc (fun t ht id hk => by
          obtain ⟨_, _, rfl⟩ := List.mem_map.1 ht
          exact SourceKey.noConfusion hk) h₅
    refine Except.foldlM_induction I h2 hwalk fun m _ s s' hs' hstep => ?_
    simp only [syncExpectation, Except.bind_eq_ok] at hstep
    obtain ⟨ts, hts, hp⟩ := hstep
    exact hpost hp (fun t ht id hk => absurd hk (expectationTargets_key hts id t ht)) hs'

/-- What expectations that are added and movements keep, `sync` keeps; the movements of transactions
lie in the months it walks. -/
theorem sync_moved {today : Date} {operation : Option OperationId} {I : Database → Prop}
    {db db' : Database} (hplan : ∀ db db' m, ensureIncome db m = .ok db' → I db → I db')
    (hmove : ∀ x t x', movement operation x t = .ok x' → (∀ id, t.1.key = .transaction id →
      ∃ start, db.start = some start ∧ start ≤ t.1.month) → I x → I x')
    (h : sync db today operation = .ok db') (hdb : I db) : I db' :=
  sync_walked (fun x x' m _ => hplan x x' m) hmove h hdb

/-- What expectations that are added and movements keep, `sync` keeps. -/
theorem sync_kept {today : Date} {operation : Option OperationId} {I : Database → Prop}
    {db db' : Database} (hplan : ∀ db db' m, ensureIncome db m = .ok db' → I db → I db')
    (hmove : ∀ db M, I db → I { db with movements := M }) (h : sync db today operation = .ok db')
    (hdb : I db) : I db' := by
  refine sync_moved hplan (fun x t x' hm _ hx => ?_) h hdb
  obtain ⟨M, rfl⟩ := movement_frame hm
  exact hmove x M hx

/-- `sync` writes expectations and movements only. -/
theorem sync_frame {today : Date} {operation : Option OperationId} {db db' : Database}
    (h : sync db today operation = .ok db') : WritesPlan db db' := by
  refine sync_kept (fun s s' m he hs => ?_) (fun s M hs => hs.trans ⟨s.planIncome, M, rfl⟩) h (.refl db)
  obtain ⟨P, rfl, _⟩ := ensureIncome_ok he
  exact hs.trans ⟨P, s.movements, rfl⟩

/-- `sync` keeps the expectations there are. -/
theorem sync_plans {today : Date} {operation : Option OperationId} {db db' : Database}
    (h : sync db today operation = .ok db') : Keeps db.planIncome db'.planIncome := by
  refine sync_kept (I := fun x => Keeps db.planIncome x.planIncome) (fun s s' m he hs => ?_)
    (fun _ _ hs => hs) h .rfl
  obtain ⟨P, rfl, hkeeps, _⟩ := ensureIncome_ok he
  exact hs.trans hkeeps

/-- **Balances are recomputed.** After `sync` every source of an open month from the ledger start on
has the balance that the facts ask for. -/
theorem Synced.balance {today : Date} {operation : Option OperationId} {start : Month}
    {ts : List (Source × Decimal)} {db db' : Database} (h : Synced today operation start ts db db')
    {s : Source} (hc : s.month.Calendar) (hle : start ≤ s.month) (hreached : s.month ≤ today.month)
    (hopen : db.isClosed s.month = false) :
    recompute db' today.month s = .ok (Journal.balance db'.movements s) := by
  rw [h.settled.movements]
  by_cases hs : s ∈ ts.map Prod.fst
  · obtain ⟨t, ht, rfl⟩ := List.mem_map.1 hs
    have hvalue := (h.targets t ht).1.value
    rw [Journal.balance_settleAll operation _ ⟨t, ht, rfl⟩ fun u hu he => ?_]
    · exact hvalue
    · have hu := (h.targets u hu).1.value
      rw [he, hvalue] at hu
      exact (Except.ok.inj hu).symm
  · have hidle := (h.covered s hc hle hreached hopen).resolve_left hs
    rw [Journal.balance_settleAll_of_notMem operation _
      fun t ht he => hs (List.mem_map.2 ⟨t, ht, he⟩), hidle.balance]
    exact hidle.value

/-- `sync` is a sequence of changes. -/
theorem sync_changes {today : Date} {operation : Option OperationId} {db db' : Database}
    (h : sync db today operation = .ok db') (hsound : Sound today db) : Changes today db db' := by
  cases hs : db.start with
  | none => rw [sync_inactive h hs]
  | some s =>
    obtain ⟨ts, hts⟩ := sync_synced h hs hsound
    exact hts.settled.changes

end BudgetLedger
