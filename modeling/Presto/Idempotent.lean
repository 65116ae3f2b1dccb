import Presto.UpToDate

/-!
# A second sync changes nothing

After a `sync` the ledger is at rest: the sources of open months have their recomputed balances, so
every target of another walk over the months and the expectations is settled (`post_settled`). That
the next walk computes its targets at all follows from the last one, which computed them from the same
facts: what `sync` and the end of a call write is no fact of an open month (`Follows`). The calls that
do not synchronise change no fact either, so the ledger rests until the day ends (`AtRest.step`).
-/

namespace Except

variable {ε : Type} {α σ : Type}

/-- Every turn of a loop that succeeds starts from a state that the turns before it have kept. -/
theorem exists_kept_step {f : σ → α → Except ε σ} {P : σ → Prop} {l : List α} :
    ∀ {s s' : σ}, l.foldlM f s = .ok s' → P s →
      (∀ a ∈ l, ∀ s s', P s → f s a = .ok s' → P s') →
      ∀ a ∈ l, ∃ s₁ s₂, P s₁ ∧ f s₁ a = .ok s₂ := by
  induction l with
  | nil =>
    intro s s' _ _ _ a ha
    cases ha
  | cons x l ih =>
    intro s s' h hs hstep a ha
    rw [List.foldlM_cons, bind_eq_ok] at h
    obtain ⟨s₁, h1, h2⟩ := h
    rcases List.mem_cons.1 ha with rfl | ha
    · exact ⟨s, s₁, hs, h1⟩
    · exact ih h2 (hstep x List.mem_cons_self s s₁ hs h1)
        (fun b hb => hstep b (List.mem_cons_of_mem _ hb)) a ha

/-- A loop whose turns leave the state as it is. -/
theorem foldlM_fixed {f : σ → α → Except ε σ} {l : List α} {s : σ}
    (h : ∀ a ∈ l, f s a = .ok s) : l.foldlM f s = .ok s := by
  induction l with
  | nil => rfl
  | cons a l ih =>
    rw [List.foldlM_cons, h a List.mem_cons_self]
    exact ih fun b hb => h b (List.mem_cons_of_mem _ hb)

end Except

namespace BudgetLedger

open Budget Server

variable {today : Date} {operation operation' : Option OperationId} {db db' : Database} {m : Month}

/-! ## Settled targets -/

/-- A source with the wanted balance gets no movement. -/
theorem movement_settled {t : Source × Decimal} (h : Journal.balance db.movements t.1 = t.2) :
    movement operation db t = .ok db := by
  unfold movement
  rw [if_pos (by rw [h, sub_self])]

theorem post_settled {ts : List (Source × Decimal)}
    (h : ∀ t ∈ ts, Journal.balance db.movements t.1 = t.2) : post operation db ts = .ok db :=
  Except.foldlM_fixed fun t ht => movement_settled (h t ht)

/-- A target that is recomputed has the balance of its source. -/
theorem Sourced.settled_of_balance {current : Month} {t : Source × Decimal}
    (ht : Sourced db current t)
    (h : recompute db current t.1 = .ok (Journal.balance db.movements t.1)) :
    Journal.balance db.movements t.1 = t.2 := by
  rw [ht.value] at h
  exact (Except.ok.inj h).symm

/-! ## The targets do not depend on what `sync` writes -/

/-- `db'` comes from `db` by what `sync` writes and what a call records after it. Closed months stay
closed. -/
structure Follows (db db' : Database) : Prop where
  frame : ∃ P M O R S C V, db' = { db with
    planIncome := P, movements := M, operations := O, revisions := R, snapshots := S, closures := C,
    coverageClosures := V }
  isOpen : ∀ m, db'.isClosed m = false → db.isClosed m = false

namespace Follows

theorem of_writes (h : WritesPlan db db') : Follows db db' := by
  obtain ⟨P, M, rfl⟩ := h
  exact ⟨⟨_, _, _, _, _, _, _, rfl⟩, fun m hm => hm⟩

theorem trans {db'' : Database} (h : Follows db db') (h' : Follows db' db'') : Follows db db'' := by
  obtain ⟨⟨P, M, O, R, S, C, V, rfl⟩, hopen⟩ := h
  obtain ⟨⟨P', M', O', R', S', C', V', rfl⟩, hopen'⟩ := h'
  exact ⟨⟨_, _, _, _, _, _, _, rfl⟩, fun m hm => hopen m (hopen' m hm)⟩

theorem start_eq (h : Follows db db') : db'.start = db.start := by
  obtain ⟨⟨P, M, O, R, S, C, V, rfl⟩, -⟩ := h
  rfl

theorem monthAllocations_eq (h : Follows db db') (m : Month) :
    monthAllocations db' m = monthAllocations db m := by
  obtain ⟨⟨P, M, O, R, S, C, V, rfl⟩, -⟩ := h
  rfl

/-- The movements only say which transactions have been booked. -/
theorem transactionTargets_ok (h : Follows db db') {ts : List (Source × Decimal)}
    (hts : transactionTargets db m = .ok ts) : ∃ ts', transactionTargets db' m = .ok ts' := by
  obtain ⟨⟨P, M, O, R, S, C, V, rfl⟩, -⟩ := h
  simp only [transactionTargets, Except.bind_eq_ok] at hts
  obtain ⟨wanted, hwanted, -⟩ := hts
  exact ⟨_, Except.bind_eq_ok.2 ⟨wanted, hwanted, rfl⟩⟩

/-- The movements only say in which months excess has been booked, and the closures which targets
are left out. -/
theorem expectationTargets_ok {current : Month} (h : Follows db db')
    (hplan : db'.planIncome = db.planIncome) {ts : List (Source × Decimal)}
    (hts : expectationTargets db current m = .ok ts) :
    ∃ ts', expectationTargets db' current m = .ok ts' := by
  obtain ⟨⟨P, M, O, R, S, C, V, rfl⟩, -⟩ := h
  obtain rfl : P = db.planIncome := hplan
  simp only [expectationTargets, Except.bind_eq_ok] at hts
  obtain ⟨row, hrow, receipts, hreceipts, wanted, hwanted, settlement, hsettlement, -⟩ := hts
  exact ⟨_, Except.bind_eq_ok.2 ⟨row, hrow, Except.bind_eq_ok.2 ⟨receipts, hreceipts,
    Except.bind_eq_ok.2 ⟨wanted, hwanted, Except.bind_eq_ok.2 ⟨settlement, hsettlement, rfl⟩⟩⟩⟩⟩

end Follows

/-- The targets of a `sync` can be computed. -/
structure Computes (today : Date) (start : Month) (db : Database) : Prop where
  months : ∀ m, m.Calendar → start ≤ m → m ≤ today.month → db.isClosed m = false →
    ∃ al tx, monthAllocations db m = .ok al ∧ transactionTargets db m = .ok tx
  expectations : ∀ m ∈ plannedMonths db, ∃ ts, expectationTargets db today.month m = .ok ts

/-- Excess and settlements have their recomputed balances, in whatever open month they fall. -/
def ExpectedRecomputed (today : Date) (db : Database) : Prop :=
  ∀ m ∈ plannedMonths db, ∀ s, db.isClosed s.month = false →
    (s.key = .excess m ∨ s.key = .complete m) →
      recompute db today.month s = .ok (Journal.balance db.movements s)

/-- A ledger at rest on a day: it is up to date, and the next `sync` can compute its targets. -/
structure AtRest (today : Date) (db : Database) : Prop where
  upToDate : ∀ start, db.start = some start → UpToDateAt db start today.month
  expected : db.start.isSome = true → ExpectedRecomputed today db
  computes : ∀ start, db.start = some start → Computes today start db

theorem ensureIncome_writes (h : ensureIncome db m = .ok db') : WritesPlan db db' := by
  obtain ⟨P, rfl, _⟩ := ensureIncome_ok h
  exact ⟨P, db.movements, rfl⟩

theorem settled_writes (db : Database) (ts : List (Source × Decimal))
    (operation : Option OperationId) : WritesPlan db (settled db ts operation) :=
  ⟨db.planIncome, _, rfl⟩

theorem syncMonth_writes (h : syncMonth operation db m = .ok db') : WritesPlan db db' := by
  cases hopen : db.isClosed m with
  | true =>
    rw [syncMonth, if_pos hopen, Except.ok.injEq] at h
    exact h ▸ .refl db
  | false =>
    obtain ⟨db₁, plan, al, tx, h1, -, -, htx, hdb'⟩ := syncMonth_ok h hopen
    rw [hdb' (transactionTargets_month htx)]
    exact (ensureIncome_writes h1).trans (settled_writes db₁ _ operation)

/-! ## The second walk over the months -/

/-- A turn of a ledger at rest leaves it as it is. -/
theorem syncMonth_again {start : Month} (hrest : AtRest today db) (hsound : Sound today db)
    (hs : db.start = some start) (hm : m.Calendar) (hle : start ≤ m) (hreached : m ≤ today.month) :
    syncMonth operation db m = .ok db := by
  cases hopen : db.isClosed m with
  | true => rw [syncMonth, if_pos hopen]
  | false =>
    obtain ⟨plan, hplan⟩ :=
      Option.isSome_iff_exists.1 ((hrest.upToDate start hs).planned m hm hle hreached hopen)
    obtain ⟨al, tx, hal, htx⟩ := (hrest.computes start hs).months m hm hle hreached hopen
    have hsettled : ∀ t, Sourced db today.month t → t.1.month = m →
        Journal.balance db.movements t.1 = t.2 := fun t ht hmonth =>
      ht.settled_of_balance ((hrest.upToDate start hs).recomputed m hm hle hreached hopen t.1 hmonth)
    have hplanTargets : ∀ t ∈ planTargets m plan al, Journal.balance db.movements t.1 = t.2 := by
      intro t ht
      obtain ⟨hsourced, hmonth, -⟩ := planTargets_sourced hplan hal hm today.month ht
      exact hsettled t hsourced hmonth
    have htransactions : ∀ t ∈ tx, Journal.balance db.movements t.1 = t.2 := by
      intro t ht
      obtain ⟨hsourced, hmonth, -⟩ := (transactionTargets_ok htx hm
        (fun e he => (hsound.movements e he).1) today.month).1 t ht
      exact hsettled t hsourced hmonth
    have hcorrections : ∀ t ∈ (correctionItems db m).map fun i => (correctionSource m i, 0 - i.2.2),
        Journal.balance db.movements t.1 = t.2 := by
      intro t ht
      obtain ⟨i, hi, rfl⟩ := List.mem_map.1 ht
      exact hsettled _ (correctionTargets_sourced hm hsound.corrections today.month hi) rfl
    simp only [planTargets, List.cons_append, List.forall_mem_cons, List.forall_mem_append,
      List.forall_mem_map, List.not_mem_nil, false_imp_iff, implies_true, and_true] at hplanTargets
    obtain ⟨hfunding, hallocations, htotal⟩ := hplanTargets
    have hensured : ensureIncome db m = .ok db := by rw [ensureIncome, hplan]
    have hbooked : syncTransactions operation db m = .ok db := by
      rw [syncTransactions, htx]
      exact post_settled htransactions
    rw [syncMonth, if_neg (by simp [hopen])]
    refine Except.bind_eq_ok.2 ⟨db, hensured, Except.bind_eq_ok.2 ⟨plan,
      Except.fromOption_eq_ok.2 hplan, Except.bind_eq_ok.2 ⟨db, movement_settled hfunding,
        Except.bind_eq_ok.2 ⟨al, hal, Except.bind_eq_ok.2 ⟨db, post_settled ?_,
          Except.bind_eq_ok.2 ⟨db, movement_settled htotal, Except.bind_eq_ok.2 ⟨db, hbooked,
            post_settled hcorrections⟩⟩⟩⟩⟩⟩⟩
    intro t ht
    obtain ⟨a, ha, rfl⟩ := List.mem_map.1 ht
    exact hallocations a ha

/-! ## The second walk over the expectations -/

theorem expectationTargets_keys {current : Month} {ts : List (Source × Decimal)}
    (h : expectationTargets db current m = .ok ts) :
    ∀ t ∈ ts, t.1.key = .excess m ∨ t.1.key = .complete m := by
  simp only [expectationTargets, Except.bind_eq_ok, Except.pure_eq_ok] at h
  obtain ⟨row, _, _, _, wanted, _, settlement, hsettlement, rfl⟩ := h
  intro t ht
  rcases List.mem_append.1 (List.mem_filter.1 ht).1 with ht | ht
  · rcases List.mem_append.1 ht with ht | ht
    · obtain ⟨_, _, rfl⟩ := List.mem_map.1 ht
      exact .inl rfl
    · obtain ⟨_, _, rfl⟩ := List.mem_map.1 ht
      exact .inl rfl
  · unfold settlementTargets at hsettlement
    split at hsettlement
    · cases hsettlement
      cases ht
    · simp only [Except.bind_eq_ok, Except.pure_eq_ok] at hsettlement
      obtain ⟨_, _, rfl⟩ := hsettlement
      rw [List.mem_singleton.1 ht]
      exact .inr rfl

theorem syncExpectation_frame {current : Month}
    (h : syncExpectation current operation db m = .ok db') :
    ∃ M, db' = { db with movements := M } := by
  rw [syncExpectation, Except.bind_eq_ok] at h
  obtain ⟨ts, -, hpost⟩ := h
  refine Except.foldlM_induction (fun x => ∃ M, x = { db with movements := M }) hpost
    ⟨db.movements, rfl⟩ fun t _ s s' hs hstep => ?_
  obtain ⟨M, rfl⟩ := hs
  obtain ⟨M', rfl⟩ := movement_frame hstep
  exact ⟨M', rfl⟩

/-- A turn on an expectation of a ledger at rest leaves it as it is. -/
theorem syncExpectation_again {start : Month} (hrest : AtRest today db) (hsound : Sound today db)
    (hs : db.start = some start) (hm : m ∈ plannedMonths db) :
    syncExpectation today.month operation db m = .ok db := by
  obtain ⟨ts, hts⟩ := (hrest.computes start hs).expectations m hm
  have hsome : db.start.isSome = true := by rw [hs]; rfl
  refine Except.bind_eq_ok.2 ⟨ts, hts, post_settled fun t ht => ?_⟩
  obtain ⟨hall, -⟩ := expectationTargets_ok hts hsound.dates hsound.movements hsound.completions
  obtain ⟨hsourced, -, hopen⟩ := hall t ht
  exact hsourced.settled_of_balance
    (hrest.expected hsome m hm t.1 hopen (expectationTargets_keys hts t ht))

/-- **A `sync` of a ledger at rest writes nothing**, whichever operation it is for. -/
theorem AtRest.sync_eq (hrest : AtRest today db) (hsound : Sound today db)
    (operation : Option OperationId) : sync db today operation = .ok db := by
  cases hs : db.start with
  | none => rw [sync, hs]
  | some start =>
    have hcal := (hsound.start start hs).1
    rw [sync, hs]
    refine Except.bind_eq_ok.2 ⟨db, Except.foldlM_fixed fun m hm => ?_,
      Except.foldlM_fixed fun m hm => syncExpectation_again hrest hsound hs hm⟩
    obtain ⟨hcalm, hle, hreached⟩ := (Month.mem_through hcal).1 hm
    exact syncMonth_again hrest hsound hs hcalm hle hreached

/-! ## Sync -/

/-- The balances of the expectations are recomputed, in whatever open month they fall. -/
theorem expectations_balance {ms : List Month}
    (h : ms.foldlM (syncExpectation today.month operation) db = .ok db')
    (hstart : db.start.isSome = true) (hsound : Sound today db) {s : Source} (hm : m ∈ ms)
    (hopen : db.isClosed s.month = false) (hkey : s.key = .excess m ∨ s.key = .complete m) :
    recompute db' today.month s = .ok (Journal.balance db'.movements s) := by
  obtain ⟨us, rfl, hu, hcu⟩ := expectations_settled h hstart hsound
  by_cases hmem : s ∈ us.map Prod.fst
  · obtain ⟨t, ht, rfl⟩ := List.mem_map.1 hmem
    have hvalue := (hu t ht).1.value
    have hbalance : Journal.balance (settled db us operation).movements t.1 = t.2 :=
      Journal.balance_settleAll operation _ ⟨t, ht, rfl⟩ fun u hmemu he => by
        have hu' := (hu u hmemu).1.value
        rw [he, hvalue] at hu'
        exact (Except.ok.inj hu').symm
    rw [hbalance]
    exact hvalue
  · have hidle := (hcu s m hm hopen hkey).resolve_left hmem
    have hsame : Journal.balance (settled db us operation).movements s =
        Journal.balance db.movements s :=
      Journal.balance_settleAll_of_notMem operation _
        fun t ht he => hmem (List.mem_map.2 ⟨t, ht, he⟩)
    rw [hsame, hidle.balance]
    exact hidle.value

/-- The two walks of a `sync`. -/
structure Walks (today : Date) (operation : Option OperationId) (start : Month)
    (db db₁ db' : Database) : Prop where
  months : (Month.through start today.month).foldlM (syncMonth operation) db = .ok db₁
  expectations : (plannedMonths db₁).foldlM (syncExpectation today.month operation) db₁ = .ok db'
  writes : WritesPlan db db₁
  frame : ∃ M, db' = { db₁ with movements := M }

theorem sync_walks {start : Month} (h : sync db today operation = .ok db')
    (hs : db.start = some start) : ∃ db₁, Walks today operation start db db₁ db' := by
  unfold sync at h
  simp only [hs, Except.bind_eq_ok] at h
  obtain ⟨db₁, h1, h2⟩ := h
  refine ⟨db₁, h1, h2, ?_, ?_⟩
  · exact Except.foldlM_induction (WritesPlan db) h1 (.refl db)
      fun m _ x x' hx hturn => hx.trans (syncMonth_writes hturn)
  · refine Except.foldlM_induction (fun x => ∃ M, x = { db₁ with movements := M }) h2
      ⟨db₁.movements, rfl⟩ fun m _ x x' hx hturn => ?_
    obtain ⟨M, rfl⟩ := hx
    obtain ⟨M', rfl⟩ := syncExpectation_frame hturn
    exact ⟨M', rfl⟩

theorem sync_expected (h : sync db today operation = .ok db') (hsound : Sound today db)
    (hstart : db.start.isSome = true) : ExpectedRecomputed today db' := by
  intro m hm s hopen hkey
  obtain ⟨start, hs⟩ := Option.isSome_iff_exists.1 hstart
  obtain ⟨db₁, hwalks⟩ := sync_walks h hs
  have hsound₁ : Sound today db₁ := by
    obtain ⟨us, hwalked⟩ := walk_walked hwalks.months
      (fun m hm => (Month.mem_through (hsound.start start hs).1).1 hm) hs hsound
    exact hwalked.settled.changes.sound hsound
  have hstart₁ : db₁.start.isSome = true := by
    rw [(Follows.of_writes hwalks.writes).start_eq]
    exact hstart
  obtain ⟨M, rfl⟩ := hwalks.frame
  exact expectations_balance hwalks.expectations hstart₁ hsound₁ hm hopen hkey

/-- What one `sync` computed can be computed after it. -/
theorem sync_computes {db₀ : Database} {start : Month} (h : sync db₀ today operation = .ok db)
    (hs : db₀.start = some start) (hcal : start.Calendar) (hfollows : Follows db db')
    (hplan : db'.planIncome = db.planIncome) : Computes today start db' := by
  obtain ⟨db₁, hwalks⟩ := sync_walks h hs
  constructor
  · intro m hm hle hreached hopen
    obtain ⟨s₁, s₂, hkept, hturn⟩ := Except.exists_kept_step hwalks.months (.refl db₀)
      (fun m _ x x' hx hturn => WritesPlan.trans hx (syncMonth_writes hturn)) m
      ((Month.mem_through hcal).2 ⟨hm, hle, hreached⟩)
    have hfrom : Follows s₁ db' := by
      refine Follows.trans (.of_writes ?_) hfollows
      obtain ⟨P, M, rfl⟩ := hkept
      obtain ⟨P', M', rfl⟩ := sync_frame h
      exact ⟨P', M', rfl⟩
    obtain ⟨db₂, plan, al, tx, hensure, -, hal, htx, -⟩ := syncMonth_ok hturn (hfrom.isOpen m hopen)
    have hfrom₂ : Follows (settled db₂ (planTargets m plan al) operation) db' := by
      obtain ⟨P₁, M₁, rfl⟩ := ensureIncome_writes hensure
      obtain ⟨⟨P, M, O, R, S, C, V, rfl⟩, hmono⟩ := hfrom
      exact ⟨⟨P, M, O, R, S, C, V, rfl⟩, hmono⟩
    obtain ⟨tx', htx'⟩ := hfrom₂.transactionTargets_ok htx
    refine ⟨al, tx', ?_, htx'⟩
    rw [hfrom₂.monthAllocations_eq]
    exact hal
  · intro m hm
    obtain ⟨M, rfl⟩ := hwalks.frame
    have hkeys : m ∈ plannedMonths db₁ := by
      rw [plannedMonths, hplan] at hm
      exact hm
    obtain ⟨s₁, s₂, ⟨M₁, rfl⟩, hturn⟩ := Except.exists_kept_step hwalks.expectations
      (P := fun x => ∃ M, x = { db₁ with movements := M }) ⟨db₁.movements, rfl⟩
      (fun m _ x x' hx hturn => by
        obtain ⟨M, rfl⟩ := hx
        obtain ⟨M', rfl⟩ := syncExpectation_frame hturn
        exact ⟨M', rfl⟩) m hkeys
    rw [syncExpectation, Except.bind_eq_ok] at hturn
    obtain ⟨ts, hts, -⟩ := hturn
    have hfrom : Follows { db₁ with movements := M₁ } db' :=
      Follows.trans (.of_writes ⟨db₁.planIncome, M, rfl⟩) hfollows
    exact hfrom.expectationTargets_ok hplan hts

/-! ## Calls that change no facts -/

/-- Rows of reconciliations have no effects. -/
theorem foldlM_transactionEffect_filter (l : List LedgerRow) : ∀ wanted,
    (l.filter fun r => r.kind ≠ .reconciliation).foldlM (transactionEffect db) wanted =
      l.foldlM (transactionEffect db) wanted := by
  induction l with
  | nil => exact fun _ => rfl
  | cons r l ih =>
    intro wanted
    by_cases hr : r.kind = .reconciliation
    · have hidle : transactionEffect db wanted r = .ok wanted := by
        rw [transactionEffect, if_pos (.inr hr)]
      rw [List.filter_cons_of_neg (by simp [hr]), List.foldlM_cons, hidle]
      exact ih wanted
    · rw [List.filter_cons_of_pos (by simp [hr]), List.foldlM_cons, List.foldlM_cons]
      exact bind_congr fun _ => ih _

namespace SameFacts

variable {d : Month} (h : SameFacts d db db')

include h

theorem monthAllocations_eq (hm : m ≤ d) : monthAllocations db' m = monthAllocations db m := by
  have hallocation := h.allocations
  obtain ⟨O, P, T, R, A, B, L, rfl⟩ := h.plan
  unfold monthAllocations
  refine Except.mapM_congr fun x _ => ?_
  rw [hallocation x.1 _ hm]

theorem transactionTargets_eq : transactionTargets db' m = transactionTargets db m := by
  have hrows : ∀ x : Database, ((x.rows.filter fun r => r.month = m).filter
      fun r => r.kind ≠ .reconciliation) =
        (x.rows.filter fun r => r.kind ≠ .reconciliation).filter fun r => r.month = m := by
    intro x
    rw [List.filter_filter, List.filter_filter]
    exact List.filter_congr fun r _ => Bool.and_comm _ _
  have hwanted : (db'.rows.filter fun r => r.month = m).foldlM (transactionEffect db') ∅ =
      (db.rows.filter fun r => r.month = m).foldlM (transactionEffect db) ∅ := by
    rw [← foldlM_transactionEffect_filter, hrows, h.rows, ← hrows, foldlM_transactionEffect_filter]
    obtain ⟨O, P, T, R, A, B, L, rfl⟩ := h.plan
    rfl
  unfold transactionTargets
  rw [hwanted]
  obtain ⟨O, P, T, R, A, B, L, rfl⟩ := h.plan
  rfl

theorem expectationTargets_eq (current : Month) :
    expectationTargets db' current m = expectationTargets db current m := by
  have hmatched := h.matchedReceipts_eq
  obtain ⟨O, P, T, R, A, B, L, rfl⟩ := h.plan
  unfold expectationTargets
  simp only [hmatched]
  rfl

theorem recompute_expected {s : Source} (hs : s.key = .excess m ∨ s.key = .complete m)
    (current : Month) : recompute db' current s = recompute db current s := by
  have hmatched := h.matchedReceipts_eq
  obtain ⟨O, P, T, R, A, B, L, rfl⟩ := h.plan
  obtain ⟨m', c, k, key⟩ := s
  rcases hs with rfl | rfl
  · simp only [recompute, excessWants, hmatched]
  · rfl

end SameFacts

theorem AtRest.sameFacts (hrest : AtRest today db) (h : SameFacts today.month db db') :
    AtRest today db' := by
  have hplan : db'.planIncome = db.planIncome ∧ db'.start = db.start ∧
      db'.movements = db.movements ∧ ∀ m, db'.isClosed m = db.isClosed m := by
    obtain ⟨O, P, T, R, A, B, L, rfl⟩ := h.plan
    exact ⟨rfl, rfl, rfl, fun _ => rfl⟩
  obtain ⟨hplan, hstart, hmovements, hclosed⟩ := hplan
  have hplanned : plannedMonths db' = plannedMonths db := by rw [plannedMonths, hplan]; rfl
  refine ⟨fun start hs => ?_, fun hs => ?_, fun start hs => ⟨?_, ?_⟩⟩
  · exact (hrest.upToDate start (hstart ▸ hs)).sameFacts h
  · intro m hm s hopen hkey
    rw [h.recompute_expected hkey, hmovements]
    exact hrest.expected (hstart ▸ hs) m (hplanned ▸ hm) s (hclosed _ ▸ hopen) hkey
  · intro m hm hle hreached hopen
    rw [h.monthAllocations_eq hreached, h.transactionTargets_eq]
    exact (hrest.computes start (hstart ▸ hs)).months m hm hle hreached (hclosed m ▸ hopen)
  · intro m hm
    rw [h.expectationTargets_eq]
    exact (hrest.computes start (hstart ▸ hs)).expectations m (hplanned ▸ hm)

end BudgetLedger

namespace Server

open Budget BudgetLedger

variable {today : Date} {db db' : Database} {response : Response}

/-- A call that synchronises leaves the ledger at rest. -/
theorem Worked.atRest (h : Worked today db db') (hsound : Sound today db) : AtRest today db' := by
  refine ⟨fun start hs => h.upToDateAt hsound hs, fun hs => ?_, fun start hs => ?_⟩
  · obtain ⟨-, db₁, db₂, operation, hc₁, hsync, hc₂, htrails⟩ := h
    have hopen := fun {m} => hc₂.toExtends.open_of_open (m := m)
    rw [htrails.start] at hs
    have hs₁ : db₁.start.isSome = true := by
      rw [← (Follows.of_writes (sync_frame hsync)).start_eq]
      exact hs
    have hexpected := sync_expected hsync (hc₁.sound hsound) hs₁
    obtain ⟨O, R, S, C, V, rfl⟩ := htrails
    exact fun m hm s ho hkey => hexpected m hm s (hopen ho) hkey
  · obtain ⟨-, db₁, db₂, operation, hc₁, hsync, hc₂, htrails⟩ := h
    have hopen := fun m => hc₂.toExtends.open_of_open (m := m)
    rw [htrails.start, (Follows.of_writes (sync_frame hsync)).start_eq] at hs
    have hcal := ((hc₁.sound hsound).start start hs).1
    obtain ⟨O, R, S, C, V, rfl⟩ := htrails
    exact sync_computes hsync hs hcal ⟨⟨_, _, _, _, _, _, _, rfl⟩, hopen⟩ rfl

/-- A ledger at rest stays at rest while the day lasts. -/
theorem AtRest.step {call : Call} (hrest : AtRest call.clock.today db)
    (hsound : Sound call.clock.today db) : AtRest call.clock.today (step db call) := by
  unfold Server.step
  split
  · rename_i db' response hh
    by_cases hs : Synchronises db call
    · exact ((handle_worked hh hsound).2 hs).atRest hsound
    · exact hrest.sameFacts (handle_sameFacts hh hsound hs le_rfl)
  · exact hrest

/-- **Reading writes nothing.** Once a call has synchronised, a read of the finance page leaves the
database as it is, movements included, after whatever calls follow on the same day. -/
theorem refresh_unchanged {call : Call} (hreach : Reachable today db) (hv : call.clock.today.Valid)
    (hle : today ≤ call.clock.today) (h : handle db call = .ok (db', response))
    (hsync : Synchronises db call) {db'' : Database}
    (hrun : Run call.clock.today db' call.clock.today db'') {clock : Clock}
    (hclock : clock.today = call.clock.today) : refresh db'' clock = .ok (db'', .refreshed) := by
  have hsound := hreach.sound.later hv hle
  have hworked := (handle_worked h hsound).2 hsync
  have key := hrun.induct (I := fun d db => Sound d db ∧ (d = call.clock.today → AtRest d db))
    ⟨hworked.changes.sound hsound, fun _ => hworked.atRest hsound⟩
    fun d₁ db₁ c hrun₁ hv₁ hle₁ _ hs => by
      have hl := hs.1.later hv₁ hle₁
      refine ⟨(step_changes c hl).sound hl, fun hday => ?_⟩
      have hsame : d₁ = c.clock.today := le_antisymm hle₁ (hday ▸ hrun₁.le)
      exact AtRest.step (hsame ▸ hs.2 (hsame.trans hday)) hl
  have hquiet := (key.2 rfl).sync_eq key.1 none
  rw [refresh, hclock, hquiet]
  rfl

/-! Something is bought in November, and the account is counted later that day. -/

def boughtToday : Call := callOn november 2 (.create (spend 101 201 ⟨november, 2⟩ 10))

def countedToday : Call :=
  callOn november 2 (.reconcile ⟨110, ⟨october, 31⟩, none, none, [⟨1, 1000, 210, 1⟩]⟩)

theorem refresh_unchanged_november :
    let db := step (run (household 1000) opened) boughtToday
    let db' := step db countedToday
    (handle db countedToday).isOk = true ∧
      refresh db' countedToday.clock = .ok (db', .refreshed) := by
  intro db db'
  have hreach : Reachable ⟨october, 2⟩ (run (household 1000) opened) :=
    household_reachable 1000 (by decide : Chronological _ opened)
  obtain ⟨response, h⟩ : ∃ response, handle (run (household 1000) opened) boughtToday =
      .ok (db, response) := exists_ok_of_step (by decide +kernel)
  have hrun : Run ⟨november, 2⟩ db ⟨november, 2⟩ db' :=
    .step (.refl ⟨november, 2⟩ db) countedToday (by decide) (by decide) trivial
  have hsync : Synchronises (run (household 1000) opened) boughtToday := by decide +kernel
  exact ⟨by decide +kernel, refresh_unchanged hreach (by decide) (by decide) h hsync hrun rfl⟩

end Server
