import Presto.Conversion
import Presto.Expectations

/-!
# Excess over an expectation

`sync` gives every receipt of an expectation the part of the plan that it covers, as a difference of
two rounded shares; what it brings beyond that part is excess of its month. The shares telescope, so
the excess of all months is what was received less one rounded share (`excess_telescopes`). The
shortfall of a completion is the rounded share of the part that is left, and the two roundings add up
to the plan unless both are ties (`shares_add_iff`).
-/

/-- Adding a delta adds it to the sum of the map. -/
theorem total_addDelta {κ : Type} [DecidableEq κ] (map : Table κ Decimal) (key : κ) (delta : Decimal) :
    ((addDelta map key delta).total fun _ x => x) = (map.total fun _ x => x) + delta := by
  unfold addDelta
  cases h : map.lookup key with
  | none =>
    rw [AList.total_insert_new h, Option.getD_none, zero_add, add_comm]
  | some x =>
    rw [AList.total_replace h, Option.getD_some, add_sub_cancel_left]

/-- The sum of a map is the sum of what it has at every key. -/
theorem total_eq_sum {κ : Type} [DecidableEq κ] (map : Table κ Decimal) {S : Finset κ}
    (hS : ∀ k, (map.lookup k).isSome = true → k ∈ S) :
    (map.total fun _ x => x) = ∑ k ∈ S, deltaAt map k := by
  have hswap : ∀ l : List (Sigma fun _ : κ => Decimal),
      (∑ k ∈ S, (l.map fun e => if e.1 = k then e.2 else 0).sum)
        = (l.map fun e => ∑ k ∈ S, if e.1 = k then e.2 else 0).sum := by
    intro l
    induction l with
    | nil => simp
    | cons e l ih => simp only [List.map_cons, List.sum_cons, Finset.sum_add_distrib, ih]
  have hkey : ∀ k, deltaAt map k = map.total fun a x => if a = k then x else 0 := by
    intro k
    rw [AList.total_single k fun a x _ hne => if_neg hne, deltaAt]
    cases map.lookup k with
    | none => rfl
    | some x => simp
  simp only [hkey]
  refine Eq.trans ?_ (hswap map.entries).symm
  show (map.total fun _ x => x) = map.total fun a x => ∑ k ∈ S, if a = k then x else 0
  refine AList.total_congr fun a x hax => ?_
  rw [Finset.sum_ite_eq, if_pos (hS a (by rw [hax]; rfl))]

theorem exists_proportional (a n : Decimal) {d : Decimal} (hd : d ≠ 0) :
    ∃ e, proportional a n d = .ok e := by
  have hnum : d.asRatio.numerator ≠ 0 := fun h => hd (Decimal.eq_zero_of_coefficient h)
  obtain ⟨r, hr, _⟩ := Ratio.divide_of_ne (a.asRatio.multiply n.asRatio) d.asRatio
    (Ratio.multiply_denominator (asRatio_denominator_pos a).ne' (asRatio_denominator_pos n).ne') hnum
  refine ⟨r.roundDecimal 2 postingRoundingMode, ?_⟩
  rw [proportional, Except.bind_eq_ok]
  exact ⟨r, hr, rfl⟩

namespace BudgetLedger

open Budget Server

variable {plan eur : Decimal}

/-! ## Shares of a plan -/

theorem exists_fundingPortion (native plan eur : Decimal) :
    ∃ portion, fundingPortion native plan eur = .ok portion := by
  unfold fundingPortion
  split
  · exact ⟨0, rfl⟩
  · exact exists_proportional native eur (by assumption)

theorem fundingPortion_within {native portion : Decimal}
    (h : fundingPortion native plan eur = .ok portion) : portion.Within 2 := by
  unfold fundingPortion at h
  split at h
  · cases h
    exact Decimal.Within.zero 2
  · exact proportional_within h

/-- A share is posted in the cents nearest to it. -/
theorem fundingPortion_halfEven {native portion : Decimal} (hplan : plan ≠ 0)
    (h : fundingPortion native plan eur = .ok portion) :
    HalfEven (native.toRat * eur.toRat / plan.toRat * 100) portion.cents := by
  rw [fundingPortion, if_neg hplan] at h
  exact proportional_halfEven h

theorem fundingPortion_zero (plan eur : Decimal) : fundingPortion 0 plan eur = .ok 0 := by
  obtain ⟨portion, h⟩ := exists_fundingPortion 0 plan eur
  rw [h, Except.ok.injEq]
  by_cases hplan : plan = 0
  · rw [fundingPortion, if_pos hplan, Except.ok.injEq] at h
    exact h.symm
  · have hround := fundingPortion_halfEven hplan h
    rw [Decimal.toRat_zero, zero_mul, zero_div, zero_mul] at hround
    refine (Decimal.cents_inj (fundingPortion_within h) (Decimal.Within.zero 2)).1 ?_
    exact hround.unique (HalfEven.int 0)

/-- The covered part of a plan is what was received, at most the plan. -/
theorem sub_positive_eq_min (plan received : Decimal) :
    plan - (plan - received).positive = min plan received := by
  rw [Decimal.positive_eq_max]
  rcases le_total plan received with h | h
  · rw [max_eq_right (sub_nonpos.2 h), min_eq_left h, sub_zero]
  · rw [max_eq_left (sub_nonneg.2 h), min_eq_right h, sub_sub_cancel]

theorem covered_eq (plan eur received : Decimal) :
    covered plan eur received = fundingPortion (min plan received) plan eur := by
  rw [covered, sub_positive_eq_min]

/-- Nothing covers nothing. -/
theorem covered_zero (hplan : 0 ≤ plan) (eur : Decimal) : covered plan eur 0 = .ok 0 := by
  rw [covered_eq, min_eq_right hplan]
  exact fundingPortion_zero plan eur

/-! ## The excess of all months -/

/-- The excess of the receipts so far is what they brought, less the share they cover. -/
theorem excessSteps_total {receipts : List MatchedReceipt}
    (hlegacy : ∀ r ∈ receipts, r.treatment ≠ .legacy) :
    ∀ {acc acc' : Decimal × Table Month Decimal} {before : Decimal},
      receipts.foldlM (excessStep plan eur) acc = .ok acc' → covered plan eur acc.1 = .ok before →
      ∃ after, covered plan eur (acc.1 + (receipts.map (·.native)).sum) = .ok after ∧
        (acc'.2.total fun _ x => x) =
          (acc.2.total fun _ x => x) + (receipts.map (·.actualEur)).sum - (after - before) := by
  induction receipts with
  | nil =>
    intro acc acc' before h hbefore
    rw [List.foldlM_nil, Except.pure_eq_ok] at h
    subst h
    exact ⟨before, by simpa using hbefore, by simp⟩
  | cons r receipts ih =>
    intro acc acc' before h hbefore
    rw [List.foldlM_cons, Except.bind_eq_ok] at h
    obtain ⟨mid, h1, h2⟩ := h
    simp only [excessStep, Except.bind_eq_ok, Except.pure_eq_ok] at h1
    obtain ⟨covers, hcovers, before', hbefore', rfl⟩ := h1
    obtain rfl : before' = before := Except.ok.inj (hbefore'.symm.trans hbefore)
    obtain ⟨after, hafter, htotal⟩ := ih (fun x hx => hlegacy x (List.mem_cons_of_mem _ hx)) h2 hcovers
    refine ⟨after, ?_, ?_⟩
    · rw [List.map_cons, List.sum_cons, ← add_assoc]
      exact hafter
    · rw [htotal, if_neg (hlegacy r List.mem_cons_self), total_addDelta, List.map_cons, List.sum_cons]
      abel

/-- **Excess telescopes.** Over all months it is what the receipts brought, less the share of the plan
that their sum covers. -/
theorem excess_telescopes {receipts : List MatchedReceipt} {wanted : Table Month Decimal}
    (hplan : 0 ≤ plan) (hlegacy : ∀ r ∈ receipts, r.treatment ≠ .legacy)
    (h : excessWanted plan eur receipts = .ok wanted) :
    ∃ portion, fundingPortion (min plan (receipts.map (·.native)).sum) plan eur = .ok portion ∧
      (wanted.total fun _ x => x) = (receipts.map (·.actualEur)).sum - portion := by
  rw [excessWanted, Except.map_eq_ok] at h
  obtain ⟨acc, hacc, rfl⟩ := h
  obtain ⟨portion, hportion, htotal⟩ := excessSteps_total hlegacy hacc (covered_zero hplan eur)
  rw [covered_eq, zero_add] at hportion
  refine ⟨portion, hportion, ?_⟩
  rw [htotal, AList.total_empty, zero_add, sub_zero]

/-! ## Complementary shares -/

/-- The shares of the covered part and of the rest add up to the plan, unless both are ties and the
plan has an odd number of cents. -/
theorem shares_add_iff {part portion rest : Decimal} (heur : eur.Within 2) (hplan : plan ≠ 0)
    (hportion : fundingPortion part plan eur = .ok portion)
    (hrest : fundingPortion (plan - part) plan eur = .ok rest) :
    portion + rest = eur ↔
      ¬ (Odd eur.cents ∧ Halfway (part.toRat * eur.toRat / plan.toRat * 100)) := by
  have hplanq : plan.toRat ≠ 0 := fun h => hplan (Decimal.toRat_injective (h.trans Decimal.toRat_zero.symm))
  have hcomplement : (plan - part).toRat * eur.toRat / plan.toRat * 100 =
      eur.cents - part.toRat * eur.toRat / plan.toRat * 100 := by
    rw [Decimal.toRat_sub, Decimal.cents_toRat heur]
    field_simp
  have hround := fundingPortion_halfEven hplan hrest
  rw [hcomplement] at hround
  rw [← HalfEven.add_eq_iff (fundingPortion_halfEven hplan hportion) hround,
    ← Decimal.cents_add (fundingPortion_within hportion) (fundingPortion_within hrest)]
  exact (Decimal.cents_inj ((fundingPortion_within hportion).add (fundingPortion_within hrest))
    heur).symm

/-! ## What `sync` records -/

variable {today : Date} {db db' : Database}

/-- A covered source has its recomputed balance once the targets are settled. -/
theorem Covered.balance {j : List Movement} {current : Month} {ts : List (Source × Decimal)}
    {s : Source} (h : Covered j db current ts s) (hts : ∀ t ∈ ts, Sourced db current t)
    (operation : Option OperationId) :
    recompute db current s = .ok (Journal.balance (Journal.settleAll j ts operation) s) := by
  by_cases hs : s ∈ ts.map Prod.fst
  · obtain ⟨t, ht, rfl⟩ := List.mem_map.1 hs
    have hvalue := (hts t ht).value
    rw [Journal.balance_settleAll operation _ ⟨t, ht, rfl⟩ fun u hu he => ?_]
    · exact hvalue
    · have hu := (hts u hu).value
      rw [he, hvalue] at hu
      exact (Except.ok.inj hu).symm
  · have hidle := h.resolve_left hs
    rw [Journal.balance_settleAll_of_notMem operation _
      fun t ht he => hs (List.mem_map.2 ⟨t, ht, he⟩), hidle.balance]
    exact hidle.value

/-- The excess recorded in an open month is the wanted one, also before the ledger start. -/
theorem sync_excess {operation : Option OperationId} {m e : Month}
    (h : sync db today operation = .ok db') (hstart : db.start.isSome = true)
    (hsound : Sound today db) (hplanned : (db'.planIncome.lookup e).isSome = true)
    (hopen : db.isClosed m = false) :
    recompute db' today.month (excessSource m e) =
      .ok (Journal.balance db'.movements (excessSource m e)) := by
  obtain ⟨s, hs⟩ := Option.isSome_iff_exists.1 hstart
  unfold sync at h
  rw [hs] at h
  simp only [Except.bind_eq_ok] at h
  obtain ⟨db₁, h1, h2⟩ := h
  obtain ⟨hcal, _, _⟩ := hsound.start s hs
  obtain ⟨ts, hw⟩ : ∃ ts, Walked today operation _ ts db db₁ :=
    walk_walked h1 (fun m hm => (Month.mem_through hcal).1 hm) hs hsound
  have hsound₁ := hw.settled.changes.sound hsound
  have hstart₁ : db₁.start.isSome = true := by rw [hw.settled.start_eq]; exact hstart
  obtain ⟨us, rfl, hu, hcu⟩ := expectations_settled h2 hstart₁ hsound₁
  have hmem : e ∈ plannedMonths db₁ := by
    rw [plannedMonths, (List.perm_insertionSort _ _).mem_iff]
    exact AList.mem_keys.1 (AList.lookup_isSome.1 hplanned)
  have hcovered := hcu (excessSource m e) e hmem (by rw [hw.settled.isClosed_eq]; exact hopen) (.inl rfl)
  exact hcovered.balance (fun t ht => (hu t ht).1) operation

/-- The excess over an expectation that the ledger has recorded, in all months. -/
def recordedExcess (db : Database) (e : Month) : Decimal :=
  Journal.volume db.movements fun s => s.key = .excess e

/-- It is the sum of a map that agrees with the balance of every month. -/
theorem recordedExcess_eq (hsound : MovementsSound today db) {e : Month} {wanted : Table Month Decimal}
    (h : ∀ m, Journal.balance db.movements (excessSource m e) = deltaAt wanted m) :
    recordedExcess db e = wanted.total fun _ x => x := by
  let months : Finset Month := (db.movements.map (·.key.month)).toFinset ∪ wanted.keys.toFinset
  have hbooked : ∀ x ∈ db.movements, x.key.key = .excess e →
      x.key ∈ months.image fun m => excessSource m e := by
    intro x hx hkey
    refine Finset.mem_image.2 ⟨x.key.month, ?_, ((hsound x hx).1.excess hkey).symm⟩
    exact Finset.mem_union_left _ (List.mem_toFinset.2 (List.mem_map_of_mem hx))
  have hwanted : ∀ m, (wanted.lookup m).isSome = true → m ∈ months := fun m hm =>
    Finset.mem_union_right _ (List.mem_toFinset.2 (AList.mem_keys.1 (AList.lookup_isSome.1 hm)))
  calc recordedExcess db e
      = ∑ s ∈ (months.image fun m => excessSource m e) with s.key = .excess e,
          Journal.balance db.movements s := Journal.volume_eq_sum _ _ _ hbooked
    _ = ∑ s ∈ months.image fun m => excessSource m e, Journal.balance db.movements s := by
        rw [Finset.filter_true_of_mem]
        intro s hs
        obtain ⟨m, _, rfl⟩ := Finset.mem_image.1 hs
        rfl
    _ = ∑ m ∈ months, Journal.balance db.movements (excessSource m e) :=
        Finset.sum_image fun m _ m' _ hmm => congrArg Source.month hmm
    _ = ∑ m ∈ months, deltaAt wanted m := Finset.sum_congr rfl fun m _ => h m
    _ = wanted.total fun _ x => x := (total_eq_sum wanted hwanted).symm

/-- No list of receipts makes the walk fail. -/
theorem exists_excessWanted (plan eur : Decimal) (receipts : List MatchedReceipt) :
    ∃ wanted, excessWanted plan eur receipts = .ok wanted := by
  have hsteps : ∀ acc, ∃ acc', receipts.foldlM (excessStep plan eur) acc = .ok acc' := by
    induction receipts with
    | nil => exact fun acc => ⟨acc, rfl⟩
    | cons r receipts ih =>
      intro acc
      obtain ⟨before, hbefore⟩ := exists_fundingPortion (plan - (plan - acc.1).positive) plan eur
      obtain ⟨after, hafter⟩ :=
        exists_fundingPortion (plan - (plan - (acc.1 + r.native)).positive) plan eur
      obtain ⟨acc', h⟩ := ih (acc.1 + r.native, if r.treatment = .legacy then acc.2
        else addDelta acc.2 r.date.month (r.actualEur - (after - before)))
      refine ⟨acc', ?_⟩
      rw [List.foldlM_cons, Except.bind_eq_ok]
      refine ⟨_, ?_, h⟩
      simp only [excessStep, Except.bind_eq_ok, Except.pure_eq_ok]
      exact ⟨after, hafter, before, hbefore, rfl⟩
  obtain ⟨acc', h⟩ := hsteps (0, ∅)
  exact ⟨acc'.2, by rw [excessWanted, h]; rfl⟩

/-- The recomputed excess of a month is what the walk wants there. -/
theorem recompute_excess {e current m : Month} {row : PlanIncome} {receipts : List MatchedReceipt}
    {wanted : Table Month Decimal} (hrow : db.planIncome.lookup e = some row)
    (hreceipts : matchedReceipts db e current row.amount row.currency row.amountEur = .ok receipts)
    (hwanted : excessWanted row.amount row.amountEur receipts = .ok wanted) :
    recompute db current (excessSource m e) = .ok (deltaAt wanted m) := by
  rw [excessWanted, Except.map_eq_ok] at hwanted
  obtain ⟨acc, hacc, rfl⟩ := hwanted
  obtain ⟨x, hx, hd⟩ := (excessSteps_ok hacc).1 m
  have h0 : deltaAt (∅ : Table Month Decimal) m = 0 := rfl
  rw [h0, zero_add] at hd
  simp only [recompute, excessSource, excessWants, hrow, and_self, if_true, Except.bind_eq_ok]
  exact ⟨receipts, hreceipts, by rw [hx, hd]⟩

end BudgetLedger

/-- An amount of zero is worth nothing. -/
theorem accountBalanceEur_zero {c : Currency} {asOf : Date} {rs : List RateObservation} {eur : Decimal}
    (h : accountBalanceEur 0 c asOf rs = .ok eur) : eur = 0 := by
  simp only [accountBalanceEur, Except.bind_eq_ok, Except.pure_eq_ok] at h
  obtain ⟨quote, _, ratio, hratio, rfl⟩ := h
  have hden := Ratio.divide_denominator_pos hratio (asRatio_denominator_pos 0)
  refine Ratio.roundDecimal_exact _ hden.ne' ?_ (Decimal.Within.zero 2)
  rw [Ratio.value_divide hratio, Decimal.value_asRatio, Decimal.toRat_zero, zero_div]

namespace Server

open Budget BudgetLedger

variable {today : Date} {db db' : Database} {call : Call} {response : Response}

/-! ## Completions -/

/-- The share of the plan that receipts worth `received` cover is half-way between two cents of a
plan with an odd number of cents. -/
def SplitsCent (row : PlanIncome) (received : Decimal) : Prop :=
  Odd row.amountEur.cents ∧
    Halfway ((min row.amount received).toRat * row.amountEur.toRat / row.amount.toRat * 100)

/-- The plan, its excess and its shortfall make up what was received, unless a cent is split. -/
theorem PricedRow.balances_iff {m : Month} {row : PlanIncome} (hp : PricedRow db m row)
    {receipts : List MatchedReceipt} {wanted : Table Month Decimal} {shortfall : Decimal}
    (hlegacy : ∀ r ∈ receipts, r.treatment ≠ .legacy)
    (hwanted : excessWanted row.amount row.amountEur receipts = .ok wanted)
    (hshortfall : fundingPortion (row.amount - (receipts.map (·.native)).sum).positive row.amount
      row.amountEur = .ok shortfall) :
    row.amountEur + (wanted.total fun _ x => x) - shortfall = (receipts.map (·.actualEur)).sum ↔
      ¬ SplitsCent row (receipts.map (·.native)).sum := by
  obtain ⟨hamount, heur⟩ := hp
  obtain ⟨portion, hportion, htotal⟩ := excess_telescopes hamount hlegacy hwanted
  generalize (receipts.map (·.native)).sum = received at *
  generalize (receipts.map (·.actualEur)).sum = actual at *
  have hrest : (row.amount - received).positive = row.amount - min row.amount received := by
    rw [← sub_positive_eq_min, sub_sub_cancel]
  rw [hrest] at hshortfall
  have hbalance : row.amountEur + (actual - portion) - shortfall = actual ↔
      portion + shortfall = row.amountEur := by
    constructor
    · intro h
      have h' := sub_eq_zero.2 h
      rw [← sub_eq_zero, ← neg_eq_zero, ← h']
      abel
    · intro h
      rw [← h]
      abel
  rw [htotal, hbalance]
  by_cases hzero : row.amount = 0
  · rw [fundingPortion, if_pos hzero, Except.ok.injEq] at hportion hshortfall
    rw [hzero] at heur
    have hnone : row.amountEur = 0 := accountBalanceEur_zero heur
    refine iff_of_true ?_ ?_
    · rw [← hportion, ← hshortfall, hnone, add_zero]
    · rintro ⟨hodd, _⟩
      rw [hnone] at hodd
      revert hodd
      decide
  · exact shares_add_iff (accountBalanceEur_within heur) hzero hportion hshortfall

/-- What an accepted completion records: the row with its shortfall, the share of what was not
received, and the wanted excess in every open month. -/
theorem completeIncome_recorded {p : CompleteIncomeRequest} (hsound : Sound call.clock.today db)
    (h : handle db call = .ok (db', response)) (hrequest : call.request = .complete p)
    (hnew : db.operations.lookup p.operationId = none) {row : PlanIncome}
    {receipts : List MatchedReceipt} (hrow : db'.planIncome.lookup p.expectedMonth = some row)
    (hreceipts : matchedReceipts db' p.expectedMonth call.clock.today.month row.amount row.currency
      row.amountEur = .ok receipts) :
    ∃ shortfall, response = .completed p.expectedMonth call.clock.today.month shortfall ∧
      row.completionShortfallEur = some shortfall ∧
      fundingPortion (row.amount - (receipts.map (·.native)).sum).positive row.amount row.amountEur
        = .ok shortfall ∧
      ∀ m, db'.isClosed m = false →
        recompute db' call.clock.today.month (excessSource m p.expectedMonth) =
          .ok (Journal.balance db'.movements (excessSource m p.expectedMonth)) := by
  obtain ⟨clock, actor, request⟩ := call
  obtain rfl : request = .complete p := hrequest
  simp only [handle, completeIncome, Except.bind_eq_ok] at h
  obtain ⟨_, _, h⟩ := h
  rcases once_ok h with ⟨old, hold, _⟩ | ⟨_, db₂, hb, rfl⟩
  · rw [hnew] at hold
    cases hold
  obtain ⟨db₁, q, e, h1, hopen, hle, hq, hpending, hincome, hs, hresponse⟩ := completeBody_ok hb
  have hc : Changes clock.today db (planSet db₁ p.expectedMonth
      (completed q clock.today.month e.outstandingEur p.operationId)) :=
    (sync_changes h1 hsound).tail (.completePlan p.operationId hq hpending hle hopen hincome)
  have hsound₁ := hc.sound hsound
  have hplanned : (planSet db₁ p.expectedMonth (completed q clock.today.month e.outstandingEur
      p.operationId)).planIncome.lookup p.expectedMonth =
        some (completed q clock.today.month e.outstandingEur p.operationId) := AList.lookup_insert _
  obtain ⟨start, hstart⟩ : ∃ start, (planSet db₁ p.expectedMonth (completed q clock.today.month
      e.outstandingEur p.operationId)).start = some start := by
    obtain ⟨_, start, hstart, _⟩ := hsound₁.plans p.expectedMonth (by rw [hplanned]; rfl)
    exact ⟨start, hstart⟩
  obtain ⟨ts, hts⟩ := sync_synced hs hstart hsound₁
  -- the row is the completed one, and the receipts are those of the income
  have hkept := hts.settled.plans _ _ hplanned
  obtain rfl : completed q clock.today.month e.outstandingEur p.operationId = row :=
    Option.some.inj (hkept.symm.trans hrow)
  obtain ⟨P, M, hdb⟩ := sync_frame hs
  have hsame : matchedReceipts db₁ p.expectedMonth clock.today.month q.amount q.currency q.amountEur
      = .ok receipts := by
    rw [← hreceipts, hdb]
    rfl
  obtain ⟨q', receipts', hq', hreceipts', _, _, _, _, _, _, _, hout⟩ := income_ok hincome
  obtain rfl : q = q' := Option.some.inj (hq.symm.trans hq')
  obtain rfl : receipts = receipts' := Except.ok.inj (hsame.symm.trans hreceipts')
  rw [hpending] at hout
  refine ⟨e.outstandingEur, hresponse, rfl, hout, fun m hm => ?_⟩
  have hopen₁ : (planSet db₁ p.expectedMonth (completed q clock.today.month e.outstandingEur
      p.operationId)).isClosed m = false := by
    rw [hdb] at hm
    exact hm
  -- recording the operation leaves the ledger as the pass left it
  have hexcess := sync_excess hs (Option.isSome_iff_exists.2 ⟨start, hstart⟩) hsound₁
    (Option.isSome_iff_exists.2 ⟨_, hkept⟩) hopen₁
  exact hexcess

end Server
