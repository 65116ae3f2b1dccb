import Presto.Balanced

/-!
# The totals of a month

Once every source of a month has its recomputed balance, the total of the month's movements of one
kind is a sum over the facts: over the rows of the month, over the corrections applied in it, or over
the expectations.
-/

namespace BudgetLedger

open Budget Server

variable {today : Date} {db : Database} {current m : Month}

/-- Every source of the month has its recomputed balance. -/
def Recomputed (db : Database) (current m : Month) : Prop :=
  ∀ s : Source, s.month = m → recompute db current s = .ok (Journal.balance db.movements s)

/-- The value of a computation that succeeds. -/
def valueOf (x : Except String Decimal) : Decimal := x.toOption.getD 0

theorem valueOf_ok (d : Decimal) : valueOf (.ok d) = d := rfl

theorem ok_valueOf {x : Except String Decimal} {d : Decimal} (h : x = .ok d) :
    x = .ok (valueOf x) := by
  rw [h, valueOf_ok]

/-- The total over sources that are named once, when all others of the kind have nothing. -/
theorem movementTotal_eq (h : Recomputed db current m) {c : CategoryId} {k : MovementKind}
    {ks : List Source} (hnodup : ks.Nodup)
    (hks : ∀ s ∈ ks, s.month = m ∧ s.category = c ∧ s.kind = k)
    (hall : ∀ e ∈ db.movements, e.key.month = m → e.key.category = c → e.key.kind = k →
      e.key ∉ ks → recompute db current e.key = .ok 0) :
    movementTotal db m c k = (ks.map fun s => valueOf (recompute db current s)).sum := by
  unfold movementTotal
  rw [Journal.volume_eq_sum_map db.movements _ hnodup hks]
  · refine congrArg List.sum (List.map_congr_left fun s hs => ?_)
    rw [h s (hks s hs).1, valueOf_ok]
  · rintro e he ⟨hm, hc, hk⟩ hout
    have hzero := hall e he hm hc hk hout
    rw [h e.key hm] at hzero
    exact Except.ok.inj hzero

/-- The total of one source, when it is the only one of its kind. -/
theorem movementTotal_single (h : Recomputed db current m) (s : Source) (hm : s.month = m)
    (hall : ∀ e ∈ db.movements, e.key.month = m → e.key.category = s.category →
      e.key.kind = s.kind → e.key ≠ s → recompute db current e.key = .ok 0) :
    movementTotal db m s.category s.kind = valueOf (recompute db current s) := by
  rw [movementTotal_eq h (by simp : [s].Nodup)]
  · simp
  · intro t ht
    rw [List.mem_singleton.1 ht]
    exact ⟨hm, rfl, rfl⟩
  · intro e he h1 h2 h3 hout
    exact hall e he h1 h2 h3 fun heq => hout (by simp [heq])

/-- The source of a transaction. -/
def transactionSource (m : Month) (c : CategoryId) (k : MovementKind) (id : TransactionId) : Source :=
  ⟨m, c, k, .transaction id⟩

theorem recompute_transaction {c : CategoryId} {k : MovementKind} {id : TransactionId}
    {t : Transaction} (ht : db.transactions.lookup id = some t) :
    recompute db current (transactionSource m c k id) =
      if t.month = m then rowWants db (t.row id) c k else .ok 0 := by
  simp only [recompute, transactionSource, ht]
  rfl

/-- The transaction sources of a kind add up to what the rows of the month want. -/
theorem sum_transactionSources (h : Recomputed db current m) (c : CategoryId) (k : MovementKind) :
    ((db.transactions.keys.map (transactionSource m c k)).map fun s =>
        valueOf (recompute db current s)).sum =
      ((db.rows.filter fun r => r.month = m).map fun r => valueOf (rowWants db r c k)).sum ∧
    ∀ r ∈ db.rows, r.month = m → rowWants db r c k = .ok (valueOf (rowWants db r c k)) := by
  constructor
  · have hentry : ∀ e ∈ db.transactions.entries,
        valueOf (recompute db current (transactionSource m c k e.1)) =
          if (e.2.row e.1).month = m then valueOf (rowWants db (e.2.row e.1) c k) else 0 := by
      rintro ⟨id, t⟩ he
      rw [recompute_transaction (AList.mem_entries_iff.1 he)]
      change valueOf (if t.month = m then _ else _) = if t.month = m then _ else _
      split <;> rfl
    unfold Database.rows AList.keys List.keys
    rw [List.map_map, List.map_map]
    generalize db.transactions.entries = entries at hentry
    induction entries with
    | nil => rfl
    | cons e es ih =>
      have hrest := ih fun x hx => hentry x (List.mem_cons_of_mem _ hx)
      have hhead := hentry e List.mem_cons_self
      simp only [List.map_cons, List.sum_cons, Function.comp_apply, List.filter_cons] at hrest ⊢
      rw [hhead, hrest]
      by_cases hm : (e.2.row e.1).month = m
      · simp [hm]
      · simp [hm]
  · intro r hr hm
    obtain ⟨t, ht, hrow⟩ := mem_rows.1 hr
    have hbalance := h (transactionSource m c k r.id) rfl
    have hmonth : t.month = m := by
      rw [← hm, hrow]
      rfl
    rw [recompute_transaction ht, if_pos hmonth, ← hrow] at hbalance
    exact ok_valueOf hbalance

theorem transactionSources_nodup (m : Month) (c : CategoryId) (k : MovementKind) :
    (db.transactions.keys.map (transactionSource m c k)).Nodup :=
  db.transactions.keys_nodup.map fun a b hab => by simpa [transactionSource] using hab

/-- A transaction that is gone has no effect. -/
theorem recompute_gone {s : Source} {id : TransactionId} (hs : s.key = .transaction id)
    (hout : s ∉ db.transactions.keys.map (transactionSource s.month s.category s.kind)) :
    recompute db current s = .ok 0 := by
  obtain ⟨m, c, k, key⟩ := s
  cases hs
  have hnone : db.transactions.lookup id = none := by
    refine Option.not_isSome_iff_eq_none.1 fun hsome => hout (List.mem_map.2 ⟨id, ?_, rfl⟩)
    exact AList.mem_keys.1 (AList.lookup_isSome.1 hsome)
  simp [recompute, hnone]

/-- Spending and reallocations: the sum over the rows of the month. -/
theorem movementTotal_rows (hsound : MovementsSound today db) (h : Recomputed db current m)
    (c : CategoryId) {k : MovementKind} (hk : k = .spending ∨ k = .reallocation) :
    movementTotal db m c k =
      ((db.rows.filter fun r => r.month = m).map fun r => valueOf (rowWants db r c k)).sum := by
  rw [movementTotal_eq h (transactionSources_nodup m c k), (sum_transactionSources h c k).1]
  · intro s hs
    obtain ⟨id, _, rfl⟩ := List.mem_map.1 hs
    exact ⟨rfl, rfl, rfl⟩
  · intro e he hm hc hkind hout
    obtain ⟨hwell, _⟩ := hsound e he
    have hkey : ∃ id, e.key.key = .transaction id := by
      obtain ⟨⟨m', c', k', key⟩, amount, note⟩ := e
      obtain rfl : k' = k := hkind
      cases key with
      | transaction id => exact ⟨id, rfl⟩
      | _ => rcases hk with rfl | rfl <;> exact hwell.2.elim
    obtain ⟨id, hid⟩ := hkey
    refine recompute_gone hid ?_
    rw [hm, hc, hkind]
    exact hout

/-- The funding of the month is its expectation. -/
theorem movementTotal_funding (hsound : MovementsSound today db) (h : Recomputed db current m) :
    movementTotal db m UNALLOCATED .funding =
      ((db.planIncome.lookup m).map (·.amountEur)).getD 0 := by
  have hsingle := movementTotal_single h (fundingSource m) rfl fun e he hm hc hk hne => by
    obtain ⟨hwell, _⟩ := hsound e he
    refine absurd ?_ hne
    obtain ⟨⟨m', c', k', key⟩, amount, note⟩ := e
    obtain rfl : m' = m := hm
    obtain rfl : c' = UNALLOCATED := hc
    obtain rfl : k' = .funding := hk
    cases key with
    | expected m'' =>
      obtain ⟨_, rfl, _⟩ := hwell
      rfl
    | _ => exact hwell.2.elim
  have hvalue : recompute db current (fundingSource m) =
      .ok (((db.planIncome.lookup m).map (·.amountEur)).getD 0) := by
    simp [recompute, fundingSource]
  rw [hvalue, valueOf_ok] at hsingle
  exact hsingle

/-- What Unallocated gives to the categories is the sum of their allocations. -/
theorem movementTotal_allocations (hsound : MovementsSound today db) (h : Recomputed db current m) :
    ∃ al, monthAllocations db m = .ok al ∧
      movementTotal db m UNALLOCATED .allocation = 0 - (al.map (·.2)).sum := by
  have hsingle := movementTotal_single h (allocationsSource m) rfl fun e he hm hc hk hne => by
    obtain ⟨hwell, _⟩ := hsound e he
    refine absurd ?_ hne
    obtain ⟨⟨m', c', k', key⟩, amount, note⟩ := e
    obtain rfl : m' = m := hm
    obtain rfl : c' = UNALLOCATED := hc
    obtain rfl : k' = .allocation := hk
    cases key with
    | allocations m'' =>
      obtain ⟨_, rfl, _⟩ := hwell
      rfl
    | allocation m'' c =>
      obtain ⟨_, _, heq, hne, _⟩ := hwell
      exact absurd heq hne
    | _ => exact hwell.2.elim
  have hbalance := h (allocationsSource m) rfl
  have hvalue : recompute db current (allocationsSource m) =
      (monthAllocations db m).map fun al => 0 - (al.map (·.2)).sum := by
    simp [recompute, allocationsSource]
  rw [hvalue] at hbalance hsingle
  cases hal : monthAllocations db m with
  | error e =>
    rw [hal] at hbalance
    cases hbalance
  | ok al =>
    rw [hal] at hsingle
    exact ⟨al, rfl, hsingle⟩

/-- The allocation of a category is its effective one. -/
theorem movementTotal_allocation (hsound : MovementsSound today db) (h : Recomputed db current m)
    {c : CategoryId} (hc : c ∈ (budgetCategories db).map Prod.fst) :
    monthlyAllocation db c m = some (movementTotal db m c .allocation) := by
  have hbudget := mem_budgetCategories.1 hc
  have hsingle := movementTotal_single h (allocationSource m c) rfl fun e he hm hc' hk hne => by
    obtain ⟨hwell, _⟩ := hsound e he
    refine absurd ?_ hne
    obtain ⟨⟨m', c', k', key⟩, amount, note⟩ := e
    obtain rfl : m' = m := hm
    obtain rfl : c' = c := hc'
    obtain rfl : k' = .allocation := hk
    cases key with
    | allocation m'' c'' =>
      obtain ⟨_, rfl, rfl, _⟩ := hwell
      rfl
    | allocations m'' => exact absurd hwell.2.2 hbudget.2
    | _ => exact hwell.2.elim
  have hbalance := h (allocationSource m c) rfl
  have hvalue : recompute db current (allocationSource m c) =
      Except.fromOption (monthlyAllocation db c m) "Missing allocation" := by
    simp [recompute, allocationSource, allocationWants, hbudget]
  rw [hvalue] at hbalance hsingle
  cases hplan : monthlyAllocation db c m with
  | none =>
    rw [hplan] at hbalance
    cases hbalance
  | some amount =>
    rw [hplan] at hsingle
    change movementTotal db m c .allocation = valueOf (.ok amount) at hsingle
    rw [hsingle, valueOf_ok]

/-- A kind of movement without effects in the month. -/
theorem movementTotal_zero (h : Recomputed db current m) {c : CategoryId} {k : MovementKind}
    (hall : ∀ e ∈ db.movements, e.key.month = m → e.key.category = c → e.key.kind = k →
      recompute db current e.key = .ok 0) : movementTotal db m c k = 0 := by
  have hnil : movementTotal db m c k = (([] : List Source).map _).sum :=
    movementTotal_eq h .nil (by simp) fun e he hm hc hk _ => hall e he hm hc hk
  exact hnil

/-- Legacy receipts and those of other months bring no excess. -/
theorem monthExcess_zero {plan eur : Decimal} {m : Month} {rs : List MatchedReceipt} :
    ∀ {received v : Decimal}, (∀ r ∈ rs, ¬ (r.treatment ≠ .legacy ∧ r.date.month = m)) →
      monthExcess plan eur m received rs = .ok v → v = 0 := by
  induction rs with
  | nil =>
    intro received v _ hv
    exact (Except.ok.inj hv).symm
  | cons r rs ih =>
    intro received v hnone hv
    simp only [monthExcess, Except.bind_eq_ok, Except.pure_eq_ok] at hv
    obtain ⟨_, _, _, _, rest, hrest, rfl⟩ := hv
    rw [if_neg (hnone r List.mem_cons_self), zero_add]
    exact ih (fun r' hr' => hnone r' (List.mem_cons_of_mem _ hr')) hrest

/-- The allocations that the entries of a month show are the planned ones, when the recorded ones
agree with them. -/
theorem allocations_eq {f : Month} {b : Balances} {xs : List (CategoryId × Category)}
    {cs : List BudgetCategorySnapshot} {al : List (CategoryId × Decimal)}
    (hcs : List.Forall₂ (fun c r => openCategory db f m b c = .ok r) xs cs)
    (hal : List.Forall₂ (fun c a => (Except.fromOption (monthlyAllocation db c.1 m)
      "Missing allocation").map (fun amount => (c.1, amount)) = .ok a) xs al)
    (hshown : ∀ c ∈ xs, ∀ planned, monthlyAllocation db c.1 m = some planned →
      (if inLedger db m && materialized db m then movementTotal db m c.1 .allocation else planned) =
        planned) :
    ∀ {amounts : List Decimal}, List.Forall₂ (fun r a =>
      Except.fromOption r.monthlyEur "Missing allocation" = .ok a) cs amounts →
      al.map (·.2) = amounts := by
  induction hcs generalizing al with
  | nil =>
    intro amounts hamounts
    cases hal
    cases hamounts
    rfl
  | @cons c _ _ _ hc _ ih =>
    intro amounts hamounts
    cases hal with
    | cons ha hal =>
      cases hamounts with
      | cons hr hamounts =>
        simp only [openCategory, Except.bind_eq_ok, Except.pure_eq_ok, Except.fromOption_eq_ok] at hc
        obtain ⟨_, _, planned, hplan, _, _, rfl⟩ := hc
        rw [hshown c List.mem_cons_self planned hplan] at hr
        rw [hplan] at ha
        obtain rfl : (_, planned) = _ := Except.ok.inj ha
        obtain rfl : planned = _ := Except.ok.inj hr
        rw [List.map_cons, ih hal (fun c hc => hshown c (List.mem_cons_of_mem _ hc)) hamounts]

end BudgetLedger
