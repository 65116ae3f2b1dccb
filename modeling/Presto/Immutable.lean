import Presto.Divisions
import Presto.Unallocated

/-!
# A close is immutable

Whatever is done after a month is closed, its movements, its frozen results and its frozen coverage
stay, and `history_at` and `coverage` read them back. The month after starts from the balances that
were frozen. No operation needs the triggers of `0014` for this: `sync` writes to open months only.
-/

namespace BudgetLedger

open Budget Server

variable {today : Date} {db : Database} {m start : Month}

/-- The abort of the triggers on closed months (`0014_budget_plan_ledger.sql:41`). -/
def closedMonth : String := "budget month is closed"

/-- **The trigger never aborts `sync`**, whatever the tables hold. -/
theorem sync_avoids_closed (db : Database) (today : Date) (operation : Option OperationId) :
    sync db today operation ≠ .error closedMonth :=
  sync_avoids (by decide : closedMonth ∉ readErrors) db operation today

/-! ## Reading a closed month -/

theorem exists_calculateFrom {first : Option Month} {current : Month} {ms : List Month}
    (h : ∀ m ∈ ms, ∀ b p, ∃ e, monthSnapshot db first b p m = .ok e) :
    ∀ b p, ∃ hs, calculateFrom db first current ms b p = .ok hs := by
  induction ms with
  | nil => exact fun _ _ => ⟨[], rfl⟩
  | cons m ms ih =>
    intro b p
    obtain ⟨e, he⟩ := h m List.mem_cons_self b p
    obtain ⟨rest, hrest⟩ := ih (fun m hm => h m (List.mem_cons_of_mem _ hm))
      (b.overlay e.categories) (p || (isDynamic first m && !db.isClosed m && decide (m < current)))
    refine ⟨e :: rest, ?_⟩
    simp only [calculateFrom, Except.bind_eq_ok, Except.pure_eq_ok]
    exact ⟨e, he, rest, hrest, rfl⟩

/-- Closed months with a frozen balance are never refused. -/
theorem exists_applyFrom {hs : List BudgetMonthSnapshot}
    (h : ∀ e ∈ hs, start ≤ e.month → e.status = .closed ∧
      ∀ u, ∃ v, frozenUnallocated u e.categories = .ok v) :
    ∀ u, ∃ r, applyFrom db start u hs = .ok r := by
  induction hs with
  | nil => exact fun _ => ⟨[], rfl⟩
  | cons e hs ih =>
    intro u
    have hrest := ih fun e he => h e (List.mem_cons_of_mem _ he)
    rw [applyFrom]
    split
    · obtain ⟨r, hr⟩ := hrest u
      exact ⟨e :: r, by rw [hr]; rfl⟩
    · obtain ⟨hstatus, hfrozen⟩ := h e List.mem_cons_self (not_lt.1 (by assumption))
      obtain ⟨v, hv⟩ := hfrozen u
      obtain ⟨r, hr⟩ := hrest v
      rw [if_pos hstatus, hv]
      exact ⟨e :: r, by
        simp only [Except.bind_eq_ok, Except.pure_eq_ok]
        exact ⟨v, rfl, r, hr, rfl⟩⟩

/-- Up to a closed month nothing is calculated: the history is always there. -/
theorem exists_historyAt_closed (hsound : Sound today db) (hfrozen : FrozenSound db)
    (hclosed : db.isClosed m = true) : ∃ history, historyAt db m today.month = .ok history := by
  obtain ⟨hcal, hlt, f, hf, hfm, hbefore⟩ := hsound.closures m hclosed
  have hfcal := (hsound.imports f (firstMonth_mem hf)).1
  have hmonths : ∀ x ∈ historyMonths db m, x < f ∨ db.isClosed x = true := by
    intro x hx
    have hxcal := historyMonths_calendar hsound hx
    have hxm : x ≤ m := by
      rcases mem_historyMonths.1 hx with ⟨_, h⟩ | ⟨f', hf', h⟩
      · exact h
      · exact ((Month.mem_through (hsound.imports f' (firstMonth_mem hf')).1).1 h).2.2
    rcases lt_or_ge x f with h | h
    · exact .inl h
    · right
      rcases hxm.lt_or_eq with hlt | rfl
      · exact hbefore x hxcal h hlt
      · exact hclosed
  have hsnapshots : ∀ x ∈ historyMonths db m, ∀ b p,
      ∃ e, monthSnapshot db (firstMonth db) b p x = .ok e := by
    intro x hx b p
    unfold monthSnapshot
    rcases hmonths x hx with h | h
    · cases db.closures.lookup x with
      | some k => exact ⟨_, rfl⟩
      | none =>
        rw [hf]
        exact ⟨_, if_neg (not_le.2 h)⟩
    · obtain ⟨k, hk⟩ := Option.isSome_iff_exists.1 h
      rw [hk]
      exact ⟨_, rfl⟩
  obtain ⟨hs, hhs⟩ : ∃ hs, calculateFrom db (firstMonth db) today.month (historyMonths db m)
      (openingBalances db) false = .ok hs := exists_calculateFrom hsnapshots _ _
  have hcalculate : calculate db m today.month = .ok hs := by
    simp only [calculate, Except.bind_eq_ok, Except.ensure_eq_ok]
    exact ⟨(), ⟨hcal, hsound.valid.1⟩, (), hlt.le, hhs⟩
  have hentries := calculateFrom_forall₂ hhs
  unfold historyAt applyLedger
  rw [hcalculate]
  cases hstate : db.ledgerState with
  | none => exact ⟨hs, rfl⟩
  | some state =>
    refine exists_applyFrom (fun e he hle => ?_) _
    obtain ⟨x, hx, b, p, hsnap⟩ := hentries.exists_left he
    have hstart : db.start = some state.startMonth := by simp [Database.start, hstate]
    obtain ⟨_, _, f', hf', hfs⟩ := hsound.start _ hstart
    obtain rfl : f' = f := Option.some.inj (hf'.symm.trans hf)
    rw [(monthSnapshot_ok hsnap).1] at hle
    obtain ⟨k, hk⟩ := Option.isSome_iff_exists.1
      ((hmonths x hx).resolve_left (not_lt.2 (hfs.trans hle)))
    simp only [monthSnapshot, hk, Except.ok.injEq] at hsnap
    subst hsnap
    refine ⟨rfl, fun u => ?_⟩
    unfold frozenUnallocated
    cases hfind : k.snapshot.find? fun c => c.categoryId = UNALLOCATED with
    | none => exact ⟨u, rfl⟩
    | some r =>
      obtain ⟨v, hv⟩ := Option.isSome_iff_exists.1
        ((hfrozen x k hk).remaining r (List.mem_of_find?_eq_some hfind))
      exact ⟨v, Except.fromOption_eq_ok.2 hv⟩

/-- **A closed month is read back** as it was frozen. -/
theorem categories_closed (hsound : Sound today db) (hfrozen : FrozenSound db) {k : Closure}
    (hk : db.closures.lookup m = some k) : categories db today m = .ok k.snapshot := by
  have hclosed : db.isClosed m = true := by simp [Database.isClosed, hk]
  obtain ⟨history, hh⟩ := exists_historyAt_closed hsound hfrozen hclosed
  obtain ⟨hcal, _, f, hf, hfm, _⟩ := hsound.closures m hclosed
  have hmem : m ∈ historyMonths db m := mem_historyMonths.2 (.inr ⟨f, hf,
    (Month.mem_through (hsound.imports f (firstMonth_mem hf)).1).2 ⟨hcal, hfm, le_rfl⟩⟩)
  obtain ⟨e, he, hof⟩ := (historyAt_forall₂ hh).exists_right hmem
  simp only [categories, Except.bind_eq_ok, Except.fromOption_eq_ok]
  refine ⟨history, hh, ?_⟩
  cases hfind : history.find? fun e => e.month = m with
  | none =>
    have hnot := List.find?_eq_none.1 hfind e he
    exact absurd (decide_eq_true hof.month) hnot
  | some e' =>
    have hmonth : e'.month = m := by simpa using List.find?_some hfind
    obtain ⟨m', _, hof'⟩ := (historyAt_forall₂ hh).exists_left (List.mem_of_find?_eq_some hfind)
    obtain rfl : m' = m := hof'.month.symm.trans hmonth
    rw [hof'.closed hk]
    rfl

end BudgetLedger

namespace Server

open Budget BudgetLedger

variable {today today' : Date} {db db' : Database} {m : Month}

/-! ## What a closed month keeps -/

/-- The rows of month `m` are the same. -/
structure KeepsMonth (m : Month) (db db' : Database) : Prop where
  movements : db'.movements.filter (fun e => e.key.month = m) =
    db.movements.filter fun e => e.key.month = m
  closure : db'.closures.lookup m = db.closures.lookup m
  snapshots : ∀ c, db'.snapshots.lookup (c, m) = db.snapshots.lookup (c, m)
  frozenCoverage : db'.coverageClosures.lookup m = db.coverageClosures.lookup m
  recorded : inLedger db' m = inLedger db m

theorem KeepsMonth.refl (m : Month) (db : Database) : KeepsMonth m db db :=
  ⟨rfl, rfl, fun _ => rfl, rfl, rfl⟩

theorem KeepsMonth.trans {db'' : Database} (h : KeepsMonth m db db') (h' : KeepsMonth m db' db'') :
    KeepsMonth m db db'' where
  movements := h'.movements.trans h.movements
  closure := h'.closure.trans h.closure
  snapshots c := (h'.snapshots c).trans (h.snapshots c)
  frozenCoverage := h'.frozenCoverage.trans h.frozenCoverage
  recorded := h'.recorded.trans h.recorded

theorem KeepsMonth.isClosed (h : KeepsMonth m db db') : db'.isClosed m = db.isClosed m := by
  unfold Database.isClosed
  rw [h.closure]

/-- The ledger starts in the current month, which is after every closed one. -/
theorem Change.inLedger_eq (h : Change today db db') (hm : m < today.month) :
    inLedger db' m = inLedger db m := by
  cases h with
  | startLedger hstart _ _ _ _ _ =>
    have hbefore : inLedger db m = false := by simp [inLedger, Database.start, hstart]
    rw [hbefore]
    simp [inLedger, Database.start, hm]
  | _ => rfl

/-- **One change** keeps a closed month. -/
theorem Change.keepsMonth (h : Change today db db') (hclosed : db.isClosed m = true)
    (hm : m < today.month) : KeepsMonth m db db' where
  movements := by
    obtain ⟨new, hnew, hopen⟩ := h.toExtends.movements
    have hnone : new.filter (fun e => e.key.month = m) = [] := by
      refine List.filter_eq_nil_iff.2 fun e he hmonth => ?_
      have := hopen e he
      rw [of_decide_eq_true hmonth, hclosed] at this
      cases this
    rw [hnew, List.filter_append, hnone, List.append_nil]
  closure := by
    obtain ⟨k, hk⟩ := Option.isSome_iff_exists.1 hclosed
    rw [h.toExtends.closures m k hk, hk]
  snapshots c := by
    refine (h.toExtends.snapshots c m).resolve_right fun hnew => ?_
    rw [hclosed] at hnew
    cases hnew.1
  frozenCoverage := h.toExtends.coverageClosures m hclosed
  recorded := h.inLedger_eq hm

theorem Changes.keepsMonth (h : Changes today db db') (hclosed : db.isClosed m = true)
    (hm : m < today.month) : KeepsMonth m db db' := by
  induction h with
  | refl => exact .refl m db
  | tail _ hc ih => exact ih.trans (hc.keepsMonth (ih.isClosed.trans hclosed) hm)

/-- **A whole run** keeps a closed month. -/
theorem Run.keepsMonth (hsound : Sound today db) (hrun : Run today db today' db')
    (hclosed : db.isClosed m = true) : KeepsMonth m db db' := by
  have hm := (hsound.closures m hclosed).2.1
  have key := hrun.induct (I := fun d db' => Sound d db' ∧ m < d.month ∧ KeepsMonth m db db')
    ⟨hsound, hm, .refl m db⟩ fun d₁ db₁ call _ hv hle _ hs => by
      obtain ⟨hs₁, hm₁, hkeeps⟩ := hs
      have hl := hs₁.later hv hle
      have hc := step_changes call hl
      have hm₂ := hm₁.trans_le (Date.month_mono hle)
      exact ⟨hc.sound hl, hm₂,
        hkeeps.trans (Changes.keepsMonth hc (hkeeps.isClosed.trans hclosed) hm₂)⟩
  exact key.2.2

/-! ## What a close freezes -/

/-- From the ledger start on, coverage is frozen with the results; and what is frozen are categories
of the budget, and Unallocated from the ledger start on. -/
structure ClosesWhole (db : Database) : Prop where
  coverage : ∀ m, db.isClosed m = true → inLedger db m = true →
    (db.coverageClosures.lookup m).isSome = true
  categories : ∀ m k, db.closures.lookup m = some k → ∀ r ∈ k.snapshot,
    r.categoryId ∈ (budgetCategories db).map Prod.fst ∨
      (r.categoryId = UNALLOCATED ∧ inLedger db m = true)

theorem coverage_isSome {cs : List BudgetCategorySnapshot} {cov : Option Coverage}
    (h : coverage db today m cs = .ok cov) (hin : inLedger db m = true) : cov.isSome = true := by
  unfold coverage at h
  rw [if_pos hin] at h
  split at h
  · cases h
    rfl
  · simp only [Except.bind_eq_ok, Except.pure_eq_ok] at h
    obtain ⟨_, _, _, _, _, _, rfl⟩ := h
    rfl

theorem Change.closesWhole (h : Change today db db') (hsound : Sound today db)
    (hI : ClosesWhole db) : ClosesWhole db' := by
  have hx := h.toExtends
  have hbefore : ∀ m, db.isClosed m = true → m < today.month := fun m hm =>
    (hsound.closures m hm).2.1
  have hbudget : ∀ c ∈ (budgetCategories db).map Prod.fst, c ∈ (budgetCategories db').map Prod.fst := by
    intro c hc
    rw [mem_budgetCategories] at hc ⊢
    exact ⟨hx.isRealCategory hc.1, hc.2⟩
  have hcoverage : ∀ m, db.isClosed m = true → inLedger db' m = true →
      (db'.coverageClosures.lookup m).isSome = true := by
    intro m hm hin
    rw [h.inLedger_eq (hbefore m hm)] at hin
    rw [hx.coverageClosures m hm]
    exact hI.coverage m hm hin
  have hcategories : ∀ m k, db.closures.lookup m = some k → ∀ r ∈ k.snapshot,
      r.categoryId ∈ (budgetCategories db').map Prod.fst ∨
        (r.categoryId = UNALLOCATED ∧ inLedger db' m = true) := by
    intro m k hk r hr
    rcases hI.categories m k hk r hr with hc | ⟨hu, hin⟩
    · exact .inl (hbudget _ hc)
    · exact .inr ⟨hu, by rwa [h.inLedger_eq (hbefore m (by simp [Database.isClosed, hk]))]⟩
  cases h with
  | @close m first cs cov operation hm hopen hf hle hcal hbefore hcategories' hexist hcov =>
    obtain ⟨_, entry, _, _, hentry, rfl⟩ := categories_ok hcategories'
    refine ⟨fun m' hm' hin => ?_, fun m' k hk r hr => ?_⟩
    · by_cases hmm : m' = m
      · subst hmm
        obtain ⟨c, rfl⟩ := Option.isSome_iff_exists.1 (coverage_isSome hcov hin)
        simp [freezeCoverage]
      · refine hcoverage m' ?_ hin
        simpa [Database.isClosed, AList.lookup_insert_of, hmm] using hm'
    · change (db.closures.insert m _).lookup m' = some k at hk
      rw [AList.lookup_insert_of] at hk
      split at hk
      · rename_i hmm
        cases hk
        subst hmm
        have hmem := List.mem_map_of_mem (f := (·.categoryId)) hr
        rcases hentry.ids hopen with hids | ⟨hin, hids⟩
        · exact .inl (hids ▸ hmem)
        · rw [hids, List.mem_append, List.mem_singleton] at hmem
          exact hmem.imp id fun hu => ⟨hu, hin⟩
      · exact hcategories m' k hk r hr
  | _ => exact ⟨hcoverage, hcategories⟩

theorem Reachable.closesWhole (h : Reachable today db) : ClosesWhole db :=
  h.of_changes (I := ClosesWhole)
    (fun _ _ himp => by
      refine ⟨fun m hm => ?_, fun m k hk => ?_⟩
      · simp [Database.isClosed, himp.closures] at hm
      · rw [himp.closures] at hk
        cases hk)
    fun _ _ _ hsound hc hI => hc.closesWhole hsound hI

/-! ## The month after a close -/

/-- Unallocated starts from its frozen balance. -/
theorem unallocated_carried (hsound : Sound today db) (hfrozen : FrozenSound db)
    {through current : Month} {history : List BudgetMonthSnapshot}
    (hh : historyAt db through current = .ok history) {e : BudgetMonthSnapshot} (he : e ∈ history)
    (hopen : db.isClosed e.month = false) {k : Closure}
    (hk : db.closures.lookup e.month.previous = some k) {f : Month} (hf : firstMonth db = some f)
    (hlt : f < e.month) (hin : inLedger db e.month.previous = true) {r : BudgetCategorySnapshot}
    (hr : r ∈ k.snapshot) (hid : r.categoryId = UNALLOCATED) :
    ∃ r' ∈ e.categories, r'.categoryId = UNALLOCATED ∧ r'.carryoverEur = r.remainingEur := by
  obtain ⟨start, hstart, hle⟩ := (Option.any_eq_true _ _).1 hin
  obtain ⟨state, hstate, rfl⟩ := Option.map_eq_some_iff.1 hstart
  have hle := of_decide_eq_true hle
  have hcal : e.month.Calendar := by
    obtain ⟨m, hm, hof⟩ := (historyAt_forall₂ hh).exists_left he
    rw [hof.month]
    exact historyMonths_calendar hsound hm
  have hsm : state.startMonth ≤ e.month := hle.trans (Month.previous_lt hcal).le
  obtain ⟨xs, ys, hs, snapshot, v, components, hsplit, hbefore, hfold, ⟨b, p, hsnap⟩, _, _, _, heq⟩ :=
    historyAt_carried hh he rfl hopen hstate hsm
  -- the month before is the last one that was carried over
  obtain ⟨zs, rfl⟩ := historyMonths_previous hsound hsplit hf hlt
  obtain ⟨hs₁, hs₂, rfl, _, hlast⟩ := hbefore.append_left
  obtain ⟨h₀, rest, ⟨b₀, p₀, hsnap₀⟩, hnil, rfl⟩ := List.forall₂_cons_left_iff.1 hlast
  cases hnil
  simp only [monthSnapshot, hk, Except.ok.injEq] at hsnap₀
  subst hsnap₀
  simp only [List.foldlM_append, List.foldlM_cons, List.foldlM_nil, Except.bind_eq_ok,
    Except.pure_eq_ok] at hfold
  obtain ⟨u, _, v', hcarry, rfl⟩ := hfold
  rw [carryMonth, if_neg (not_lt.2 hle), if_pos rfl] at hcarry
  have hbalance : unallocatedBalance k.snapshot = r.remainingEur := by
    have hk' := hfrozen _ k hk
    have hover : Balances.overlay (fun _ => none) k.snapshot r.categoryId = r.remainingEur :=
      Balances.overlay_of_mem hk'.nodup hr (hk'.remaining r hr)
    rw [hid] at hover
    simpa [Balances.overlay, unallocatedBalance] using hover
  obtain ⟨w, hw⟩ := Option.isSome_iff_exists.1 ((hfrozen _ k hk).remaining r hr)
  rw [hw] at hbalance ⊢
  rw [frozenUnallocated_eq hcarry hbalance] at heq
  refine ⟨unallocatedSnapshot w (movementKinds.map components).sum (components .reallocation), ?_, rfl,
    rfl⟩
  rw [heq]
  exact List.mem_append_right _ (List.mem_singleton.2 rfl)

/-- Every category that was frozen starts the month after from its frozen balance. -/
theorem carried_after_close (hreach : Reachable today db) {through current : Month}
    {history : List BudgetMonthSnapshot} (hh : historyAt db through current = .ok history)
    {e : BudgetMonthSnapshot} (he : e ∈ history) (hopen : db.isClosed e.month = false) {k : Closure}
    (hk : db.closures.lookup e.month.previous = some k) {r : BudgetCategorySnapshot}
    (hr : r ∈ k.snapshot) :
    ∃ r' ∈ e.categories, r'.categoryId = r.categoryId ∧ r'.carryoverEur = r.remainingEur := by
  have hsound := hreach.sound
  have hfrozen := hreach.frozenSound
  obtain ⟨m, hm, hof⟩ := (historyAt_forall₂ hh).exists_left he
  obtain rfl : m = e.month := hof.month.symm
  have hcal := historyMonths_calendar hsound hm
  obtain ⟨_, _, f, hf, hfp, _⟩ := hsound.closures e.month.previous (by simp [Database.isClosed, hk])
  have hlt : f < e.month := hfp.trans_lt (Month.previous_lt hcal)
  rcases hreach.closesWhole.categories _ k hk r hr with hc | ⟨hid, hin⟩
  · obtain ⟨r', hr', hid'⟩ := List.mem_map.1 (hof.mem hopen hc)
    have hreal : r'.categoryId ≠ UNALLOCATED := fun h => unallocated_notMem db (h ▸ hid' ▸ hc)
    have hchain := category_chain hreach hh he (hof.status hopen hf hlt.le) hr' hreal
    obtain ⟨e₀, he₀, hmonth₀, hcarried, _⟩ := hchain.2.1 (by
      rw [hf]
      exact fun h => hlt.ne (Option.some.inj h))
    obtain ⟨m₀, _, hof₀⟩ := (historyAt_forall₂ hh).exists_left he₀
    obtain rfl : m₀ = e.month.previous := hof₀.month.symm.trans hmonth₀
    refine ⟨r', hr', hid', hcarried r ?_ hid'.symm⟩
    rw [hof₀.closed hk]
    exact hr
  · obtain ⟨r', hr', hid', hcarried⟩ :=
      unallocated_carried hsound hfrozen hh he hopen hk hf hlt hin hr hid
    exact ⟨r', hr', hid'.trans hid.symm, hcarried⟩

/-! ## The close -/

/-- The closed months are a contiguous prefix of the months from the first canonical one. -/
def ClosedPrefix (db : Database) : Prop :=
  ∀ m, db.isClosed m = true → ∃ first, firstMonth db = some first ∧ first ≤ m ∧
    ∀ m', m'.Calendar → first ≤ m' → m' ≤ m → db.isClosed m' = true

/-- What every later state reads of a month that was closed with the results `k`. -/
structure ReadsFrozen (m : Month) (k : Closure) (coverageOf : Option Coverage) (today : Date)
    (db : Database) : Prop where
  categories : categories db today m = .ok k.snapshot
  history : ∀ through history, historyAt db through today.month = .ok history → ∀ e ∈ history,
    e.month = m → e = ⟨m, k.snapshot, .closed, false⟩
  coverage : ∀ cs, coverage db today m cs = .ok coverageOf

/-- The coverage of a closed month: the frozen one, and none before the ledger. -/
def closedCoverage (db : Database) (m : Month) : Option Coverage :=
  if inLedger db m then
    (db.coverageClosures.lookup m).map fun frozen => { frozen with frozen := true }
  else none

theorem KeepsMonth.closedCoverage_eq (h : KeepsMonth m db db') :
    closedCoverage db' m = closedCoverage db m := by
  unfold closedCoverage
  rw [h.recorded, h.frozenCoverage]

theorem coverage_closed (hwhole : ClosesWhole db) (hclosed : db.isClosed m = true)
    (cs : List BudgetCategorySnapshot) :
    coverage db today m cs = .ok (closedCoverage db m) := by
  unfold coverage closedCoverage
  split
  · obtain ⟨frozen, hfrozen⟩ := Option.isSome_iff_exists.1 (hwhole.coverage m hclosed (by assumption))
    rw [hfrozen]
    rfl
  · rfl

theorem Reachable.readsFrozen (h : Reachable today db) {k : Closure}
    (hk : db.closures.lookup m = some k) {day : Date} (hday : day.Valid) (hle : today ≤ day) :
    ReadsFrozen m k (closedCoverage db m) day db where
  categories := categories_closed (h.sound.later hday hle) h.frozenSound hk
  history through history hh e he hmonth := by
    obtain ⟨m', _, hof⟩ := (historyAt_forall₂ hh).exists_left he
    obtain rfl : m' = m := hof.month.symm.trans hmonth
    exact hof.closed hk
  coverage := coverage_closed h.closesWhole (by simp [Database.isClosed, hk])

theorem Sound.closedPrefix (h : Sound today db) : ClosedPrefix db := by
  intro m hm
  obtain ⟨_, _, f, hf, hle, hbefore⟩ := h.closures m hm
  refine ⟨f, hf, hle, fun m' hcal hfm' hm' => ?_⟩
  rcases hm'.lt_or_eq with hlt | rfl
  · exact hbefore m' hcal hfm' hlt
  · exact hm

/-- **A close is immutable and chained.** Once a month is closed with the results `k`, every later
state holds the same movements, results and coverage of it and reads them back, on any day; its
closed months are a prefix; and an open month after a closed one starts from the frozen balances.
`sync` never meets the trigger, whatever the tables hold. -/
theorem close_immutable (hreach : Reachable today db) {k : Closure}
    (hk : db.closures.lookup m = some k) :
    (∃ coverageOf, ∀ today' db', Run today db today' db' →
      KeepsMonth m db db' ∧
      (∀ day : Date, day.Valid → today' ≤ day → ReadsFrozen m k coverageOf day db') ∧
      ClosedPrefix db' ∧
      ∀ through current history, historyAt db' through current = .ok history → ∀ e ∈ history,
        db'.isClosed e.month = false → ∀ k', db'.closures.lookup e.month.previous = some k' →
          ∀ r ∈ k'.snapshot, ∃ r' ∈ e.categories,
            r'.categoryId = r.categoryId ∧ r'.carryoverEur = r.remainingEur) ∧
      ∀ (db' : Database) (day : Date) (operation : Option OperationId),
        sync db' day operation ≠ .error closedMonth := by
  refine ⟨⟨closedCoverage db m, fun today' db' hrun => ?_⟩, sync_avoids_closed⟩
  have hclosed : db.isClosed m = true := by simp [Database.isClosed, hk]
  have hkeeps := Run.keepsMonth hreach.sound hrun hclosed
  have hreach' : Reachable today' db' := by
    obtain ⟨d₀, db₀, himp, hrun₀⟩ := hreach
    exact ⟨d₀, db₀, himp, hrun₀.trans hrun⟩
  refine ⟨hkeeps, fun day hday hle => ?_, hreach'.sound.closedPrefix,
    fun _ _ _ hh e he hopen k' hk' r hr => carried_after_close hreach' hh he hopen hk' hr⟩
  rw [← hkeeps.closedCoverage_eq]
  exact hreach'.readsFrozen (hkeeps.closure.trans hk) hday hle

/-! October is counted and closed; then something is bought in November. -/

def closedOctober : List Call := opened ++ [
  callOn november 2 (.reconcile ⟨110, ⟨october, 31⟩, none, none, [⟨1, 1000, 210, 0⟩]⟩),
  callOn november 4 (.close ⟨120, october⟩)]

def boughtLater : Call := callOn november 5 (.create (spend 101 201 ⟨november, 5⟩ 10))

theorem close_immutable_october :
    let db := run (household 1000) closedOctober
    let db' := step db boughtLater
    (handle db boughtLater).isOk = true ∧ ∃ k coverageOf, KeepsMonth october db db' ∧
      ReadsFrozen october k coverageOf ⟨december, 1⟩ db' := by
  intro db db'
  have hreach : Reachable ⟨november, 4⟩ db :=
    household_reachable 1000 (by decide : Chronological _ closedOctober)
  obtain ⟨k, hk⟩ := Option.isSome_iff_exists.1
    (by decide +kernel : (db.closures.lookup october).isSome = true)
  obtain ⟨coverageOf, hlater⟩ := (close_immutable hreach hk).1
  have hrun : Run ⟨november, 4⟩ db ⟨november, 5⟩ db' :=
    .step (.refl ⟨november, 4⟩ db) boughtLater (by decide) (by decide) trivial
  obtain ⟨hkeeps, hreads, _⟩ := hlater _ _ hrun
  exact ⟨by decide +kernel, k, coverageOf, hkeeps, hreads ⟨december, 1⟩ (by decide) (by decide)⟩

end Server
