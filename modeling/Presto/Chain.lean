import Presto.Balanced
import Presto.Frozen

/-!
# The chain of category balances

Within a month the results of a category add up; from month to month they are carried over; and
from the ledger start on, what a month adds is what its movements add.
-/

namespace Budget

variable {c : CategoryId}

theorem Balances.after_append (balances : Balances) (xs ys : List BudgetMonthSnapshot) :
    balances.after (xs ++ ys) = (balances.after xs).after ys :=
  List.foldl_append

/-- Months without a balance of the category leave it as it was. -/
theorem Balances.after_silent {history : List BudgetMonthSnapshot} :
    ∀ {balances : Balances}, (∀ h ∈ history, ∀ r ∈ h.categories, r.categoryId = c →
      r.remainingEur = none) → balances.after history c = balances c := by
  induction history with
  | nil => intro _ _; rfl
  | cons h hs ih =>
    intro balances hsilent
    have hrest : (balances.overlay h.categories).after hs c = balances.overlay h.categories c :=
      ih fun h' hh' => hsilent h' (List.mem_cons_of_mem _ hh')
    refine hrest.trans ?_
    unfold Balances.overlay
    cases hf : h.categories.find? fun x => x.categoryId = c with
    | none => rfl
    | some r =>
      have hid : r.categoryId = c := by simpa using List.find?_some hf
      have hnone := hsilent h List.mem_cons_self r (List.mem_of_find?_eq_some hf) hid
      simp [hnone]

/-- A month with a balance of the category leaves that balance. -/
theorem Balances.overlay_of_mem {balances : Balances} {cs : List BudgetCategorySnapshot}
    (hnodup : (cs.map (·.categoryId)).Nodup) {r : BudgetCategorySnapshot} (hr : r ∈ cs)
    (hsome : r.remainingEur.isSome = true) :
    balances.overlay cs r.categoryId = r.remainingEur := by
  unfold Balances.overlay
  cases hf : cs.find? fun x => x.categoryId = r.categoryId with
  | none => simpa using List.find?_eq_none.1 hf r hr
  | some x =>
    have hid : x.categoryId = r.categoryId := by simpa using List.find?_some hf
    obtain rfl := List.inj_on_of_nodup_map hnodup (List.mem_of_find?_eq_some hf) hr hid
    obtain ⟨v, hv⟩ := Option.isSome_iff_exists.1 hsome
    simp [hv]

theorem Balances.overlay_congr {b b' : Balances} {cs : List BudgetCategorySnapshot}
    (h : b c = b' c) : b.overlay cs c = b'.overlay cs c := by
  unfold Balances.overlay
  rw [h]

end Budget

namespace BudgetLedger

open Budget

variable {db : Database} {c : CategoryId}

/-- The Unallocated entry does not change the balance of another category. -/
theorem Applied.overlay {start : Month} {h h' : BudgetMonthSnapshot} (happ : Applied db start h h')
    (hc : c ≠ UNALLOCATED) {b b' : Balances} (hb : b c = b' c) :
    b.overlay h'.categories c = b'.overlay h.categories c := by
  rcases happ.categories with ⟨rfl, _⟩ | ⟨_, _, carry, components, _, hcat⟩
  · exact Balances.overlay_congr hb
  · unfold Balances.overlay
    rw [hcat, List.find?_append, hb]
    have hnone : [unallocatedSnapshot carry (movementKinds.map components).sum
        (components .reallocation)].find? (fun x => x.categoryId = c) = none := by
      simp [unallocatedSnapshot, Ne.symm hc]
    rw [hnone, Option.or_none]

theorem Applied.after {start : Month} {hs hs' : List BudgetMonthSnapshot}
    (happ : List.Forall₂ (Applied db start) hs hs') (hc : c ≠ UNALLOCATED) :
    ∀ {b b' : Balances}, b c = b' c → b.after hs' c = b'.after hs c := by
  induction happ with
  | nil => exact fun hb => hb
  | cons happ _ ih => exact fun hb => ih (happ.overlay hc hb)

/-- One entry of `history_at`, calculated from the balances `b`. -/
def EntryFrom (db : Database) (m : Month) (b : Balances) (e : BudgetMonthSnapshot) : Prop :=
  ∃ p h, monthSnapshot db (firstMonth db) b p m = .ok h ∧
    ((db.ledgerState = none ∧ e = h) ∨ ∃ s, db.start = some s ∧ Applied db s h e)

theorem EntryFrom.entryOf {m : Month} {b : Balances} {e : BudgetMonthSnapshot}
    (h : EntryFrom db m b e) : EntryOf db m e := by
  obtain ⟨p, h₀, hs, hcase⟩ := h
  exact ⟨b, p, h₀, hs, hcase⟩

/-- Every entry of `history_at` is calculated from what the entries before it left. -/
theorem historyAt_split {through current m : Month} {history : List BudgetMonthSnapshot}
    {xs ys : List Month} (h : historyAt db through current = .ok history)
    (hm : historyMonths db through = xs ++ m :: ys) :
    ∃ h₁ e h₂ b, history = h₁ ++ e :: h₂ ∧ List.Forall₂ (EntryOf db) xs h₁ ∧ EntryFrom db m b e ∧
      ∀ c, c ≠ UNALLOCATED → b c = (openingBalances db).after h₁ c := by
  unfold historyAt calculate at h
  simp only [Except.bind_eq_ok, Except.ensure_eq_ok] at h
  obtain ⟨calculated, ⟨_, _, _, _, hc⟩, ha⟩ := h
  rw [hm] at hc
  obtain ⟨k₁, k₂, p, rfl, h1, h2⟩ := calculateFrom_append hc
  simp only [calculateFrom, Except.bind_eq_ok, Except.pure_eq_ok] at h2
  obtain ⟨snapshot, hs, k₃, _, rfl⟩ := h2
  have hentries := calculateFrom_forall₂ h1
  unfold applyLedger at ha
  cases hl : db.ledgerState with
  | none =>
    simp only [hl, Except.ok.injEq] at ha
    subst ha
    refine ⟨k₁, snapshot, k₃, _, rfl, hentries.imp fun m h hm => ?_, ⟨p, snapshot, hs, .inl ⟨hl, rfl⟩⟩,
      fun c _ => rfl⟩
    obtain ⟨b, q, hq⟩ := hm
    exact ⟨b, q, h, hq, .inl ⟨hl, rfl⟩⟩
  | some state =>
    simp only [hl] at ha
    have hstart : db.start = some state.startMonth := by simp [Database.start, hl]
    have happ := applyFrom_forall₂ ha
    obtain ⟨h₁, hrest, rfl, happ₁, happ₂⟩ := happ.append_left
    cases happ₂ with
    | cons happe happ₃ =>
      refine ⟨h₁, _, _, _, rfl, hentries.comp (fun m h h' hm ha => ?_) happ₁,
        ⟨p, snapshot, hs, .inr ⟨_, hstart, happe⟩⟩, fun c hc => (Applied.after happ₁ hc rfl).symm⟩
      obtain ⟨b, q, hq⟩ := hm
      exact ⟨b, q, h, hq, .inr ⟨_, hstart, ha⟩⟩

/-- The entry of an open month and a category is the calculated one. -/
theorem EntryFrom.openCategory {m : Month} {b : Balances} {e : BudgetMonthSnapshot}
    (he : EntryFrom db m b e) (hstatus : e.status = .openMonth) {r : BudgetCategorySnapshot}
    (hr : r ∈ e.categories) (hc : r.categoryId ≠ UNALLOCATED) :
    db.isClosed m = false ∧ ∃ f c, firstMonth db = some f ∧ f ≤ m ∧
      c ∈ budgetCategories db ∧ r.categoryId = c.1 ∧ Budget.openCategory db f m b c = .ok r := by
  obtain ⟨p, h₀, hs, hcase⟩ := he
  have hcalc : h₀.status = .openMonth → ∀ r ∈ h₀.categories, db.isClosed m = false ∧
      ∃ f c, firstMonth db = some f ∧ f ≤ m ∧ c ∈ budgetCategories db ∧ r.categoryId = c.1 ∧
        Budget.openCategory db f m b c = .ok r := by
    intro hst r hr
    obtain ⟨_, ⟨_, _, hst', _⟩ | ⟨hopen, f, hf, hle, _, hm⟩ | ⟨_, _, hst', _⟩⟩ := monthSnapshot_ok hs
    · rw [hst'] at hst
      cases hst
    · obtain ⟨c, hcm, hcr⟩ := (Except.mapM_eq_ok hm).exists_left hr
      exact ⟨hopen, f, c, hf, hle, hcm, openCategory_id hcr, hcr⟩
    · rw [hst'] at hst
      cases hst
  rcases hcase with ⟨_, rfl⟩ | ⟨s, _, happ⟩
  · exact hcalc hstatus r hr
  · have hst : h₀.status = .openMonth := happ.status.symm.trans hstatus
    rcases happ.categories with ⟨rfl, _⟩ | ⟨_, _, _, _, _, hcat⟩
    · exact hcalc hst r hr
    · rw [hcat, List.mem_append, List.mem_singleton] at hr
      rcases hr with hr | rfl
      · exact hcalc hst r hr
      · exact absurd rfl hc

end BudgetLedger

namespace Server

open Budget BudgetLedger

variable {today : Date} {db db' : Database}

/-! ## Corrections and their movements -/

/-- The movements of a correction mirror its items, in every open month of the ledger. -/
def CorrectionsBooked (db : Database) : Prop :=
  ∀ start, db.start = some start → ∀ m, m.Calendar → start ≤ m → db.isClosed m = false →
    ∀ op c, Journal.balance db.movements (correctionSource m (op, c, 0)) =
      correctionWants db op c m

theorem Worked.correctionsBooked (h : Worked today db db') (hsound : Sound today db) :
    CorrectionsBooked db' := by
  intro start hstart m hc hle hopen op c
  have hsound' : Sound today db' := h.changes.sound hsound
  by_cases hm : m ≤ today.month
  · have hbalance := h.balance hsound hstart (s := correctionSource m (op, c, 0)) hc hle hm hopen
    simp only [recompute, correctionSource] at hbalance
    exact (Except.ok.inj hbalance).symm
  · -- nothing is dated after the current month
    rw [Journal.balance_eq_zero, correctionWants_of_notMem]
    · rintro ⟨r, hr, rfl, _⟩
      exact hm (hsound'.corrections op r hr).2.1
    · intro x hx hk
      have hreached := (hsound'.movements x hx).2
      rw [hk] at hreached
      exact hm hreached

theorem CorrectionsBooked.step (h : CorrectionsBooked db) (call : Call)
    (hsound : Sound call.clock.today db) : CorrectionsBooked (step db call) := by
  unfold Server.step
  split
  · rename_i db' response hh
    by_cases hs : Synchronises db call
    · exact ((handle_worked hh hsound).2 hs).correctionsBooked hsound
    · obtain ⟨_, _, _, _, _, _, _, rfl⟩ := handle_unsynced hh hsound hs
      exact h
  · exact h

theorem Reachable.correctionsBooked (h : Reachable today db) : CorrectionsBooked db := by
  obtain ⟨d₀, db₀, himp, hrun⟩ := h
  have key := hrun.induct (I := fun d db => Sound d db ∧ CorrectionsBooked db)
    ⟨himp.sound, fun start hstart => ?_⟩ fun _ _ call _ hv hle _ hs => by
      have hl := hs.1.later hv hle
      exact ⟨(step_changes call hl).sound hl, hs.2.step call hl⟩
  · exact key.2
  · rw [Database.start, himp.ledgerState] at hstart
    cases hstart

/-- What the movements of a month add for its corrections is what the correction table subtracts. -/
theorem movementTotal_correction (hsound : Sound today db) (hbooked : CorrectionsBooked db)
    {start m : Month} (hstart : db.start = some start) (hc : m.Calendar) (hle : start ≤ m)
    (hopen : db.isClosed m = false) (c : CategoryId) :
    movementTotal db m c .correction = -correctionTotal db m c := by
  have hvolume : movementTotal db m c .correction =
      ((db.corrections.keys.map fun op => correctionSource m (op, c, 0)).map
        (Journal.balance db.movements)).sum := by
    refine Journal.volume_eq_sum_map _ _ ?_ ?_ ?_
    · refine db.corrections.keys_nodup.map fun a b hab => ?_
      simpa [correctionSource] using hab
    · intro k hk
      obtain ⟨op, _, rfl⟩ := List.mem_map.1 hk
      exact ⟨rfl, rfl, rfl⟩
    · rintro e he ⟨rfl, rfl, hkind⟩ hout
      refine absurd ?_ hout
      obtain ⟨hwell, _⟩ := hsound.movements e he
      obtain ⟨⟨m, c, k, key⟩, amount, note⟩ := e
      cases hkind
      cases key with
      | correction op c' =>
        obtain ⟨_, rfl, r, hr, _⟩ := hwell
        refine List.mem_map.2 ⟨op, ?_, rfl⟩
        exact AList.mem_keys.1 (AList.lookup_isSome.1 (by simp [hr]))
      | _ => exact hwell.2.elim
  rw [hvolume, List.map_map]
  have hwants : db.corrections.keys.map ((Journal.balance db.movements) ∘ fun op =>
      correctionSource m (op, c, 0)) = db.corrections.keys.map fun op => correctionWants db op c m :=
    List.map_congr_left fun op _ => hbooked start hstart m hc hle hopen op c
  rw [hwants]
  -- both sides are sums over the rows of the table
  have hlookup : ∀ e ∈ db.corrections.entries, correctionWants db e.1 c m =
      -(((if e.2.appliedMonth = m then e.2.items else []).filter fun i => i.1 = c).map
        Prod.snd).sum := by
    rintro ⟨op, r⟩ he
    have hr : db.corrections.lookup op = some r := AList.mem_entries_iff.1 he
    simp only [correctionWants, hr]
    split
    · rw [zero_sub]
    · simp
  unfold correctionTotal correctionItems AList.keys List.keys
  rw [List.map_map]
  generalize db.corrections.entries = entries at hlookup ⊢
  induction entries with
  | nil => simp
  | cons e es ih =>
    have hrest := ih fun x hx => hlookup x (List.mem_cons_of_mem _ hx)
    have hhead := hlookup e List.mem_cons_self
    simp only [List.map_cons, List.sum_cons, Function.comp_apply] at hrest ⊢
    rw [hhead, hrest]
    by_cases hm : e.2.appliedMonth = m
    · simp [hm, List.filter_append, List.filter_map, Function.comp_def]
      abel
    · simp [hm]

/-! ## The month before -/

/-- The months of the history are calendar months. -/
theorem historyMonths_calendar (hsound : Sound today db) {through m : Month}
    (hm : m ∈ historyMonths db through) : m.Calendar := by
  rcases mem_historyMonths.1 hm with ⟨⟨c, hc⟩, _⟩ | ⟨f, hf, hmem⟩
  · exact (hsound.categories.2.2 c m hc).1
  · exact ((Month.mem_through (hsound.imports f (firstMonth_mem hf)).1).1 hmem).1

/-- After the first month, the entry of a month follows the entry of the month before. -/
theorem historyMonths_previous (hsound : Sound today db) {through m f : Month}
    {xs ys : List Month} (hm : historyMonths db through = xs ++ m :: ys)
    (hf : firstMonth db = some f) (hlt : f < m) : ∃ zs, xs = zs ++ [m.previous] := by
  have hmem : m ∈ historyMonths db through := by simp [hm]
  have hcal : m.Calendar := historyMonths_calendar hsound hmem
  have hfcal := (hsound.imports f (firstMonth_mem hf)).1
  obtain ⟨hpcal, hfp, hpm⟩ := Month.previous_spec hcal hfcal hlt
  have hthrough : m ≤ through := by
    rcases mem_historyMonths.1 hmem with ⟨_, h⟩ | ⟨f', hf', h⟩
    · exact h
    · exact ((Month.mem_through (hsound.imports f' (firstMonth_mem hf')).1).1 h).2.2
  have hp : m.previous ∈ historyMonths db through :=
    mem_historyMonths.2 (.inr ⟨f, hf, (Month.mem_through hfcal).2 ⟨hpcal, hfp, hpm.le.trans hthrough⟩⟩)
  have hsorted := historyMonths_sorted db through
  rw [hm, List.pairwise_append] at hsorted
  obtain ⟨hxs, htail, hbefore⟩ := hsorted
  have hpxs : m.previous ∈ xs := by
    rw [hm, List.mem_append, List.mem_cons] at hp
    rcases hp with hp | hp | hp
    · exact hp
    · exact absurd hp hpm.ne
    · exact absurd hpm (not_lt.2 ((List.pairwise_cons.1 htail).1 _ hp).le)
  rcases List.eq_nil_or_concat' xs with rfl | ⟨zs, last, rfl⟩
  · cases hpxs
  -- the last month before `m` is no later than the one before it, and no earlier
  have hlast : last < m := hbefore last (by simp) m List.mem_cons_self
  have hlastmem : last ∈ historyMonths db through := by simp [hm]
  have hlastcal : last.Calendar := historyMonths_calendar hsound hlastmem
  have hle := (Month.previous_spec hcal hlastcal hlast).2.1
  refine ⟨zs, ?_⟩
  rcases List.mem_append.1 hpxs with hz | hz
  · have hlt' := (List.pairwise_append.1 hxs).2.2 _ hz last (by simp)
    exact absurd hle (not_le.2 hlt')
  · rw [List.mem_singleton.1 hz]

/-- An entry before the first month has no balance of a category that was created after a close. -/
theorem silent_before_close (hsound : Sound today db) (hfrozen : FrozenSound db) {m m' : Month}
    {k : Closure} {e : BudgetMonthSnapshot} (hk : db.closures.lookup m = some k) (hle : m' < m)
    (he : EntryOf db m' e) (hcal : m'.Calendar) {c : CategoryId}
    (hc : c ∈ (budgetCategories db).map Prod.fst) (hout : c ∉ k.snapshot.map (·.categoryId))
    {r : BudgetCategorySnapshot} (hr : r ∈ e.categories) (hid : r.categoryId = c) :
    r.remainingEur = none := by
  have hnone := ((hfrozen m k hk).later c hc hout).1 m' hle.le
  obtain ⟨_, _, f, hf, hfm, hbeforeClosed⟩ :=
    hsound.closures m (by simp [Database.isClosed, hk])
  cases hk' : db.closures.lookup m' with
  | some k' =>
    rw [he.closed hk'] at hr
    have hkept := (hfrozen m' k' hk').kept r hr
    rw [hid, hnone] at hkept
    cases hkept
  | none =>
    have hopen : db.isClosed m' = false := by simp [Database.isClosed, hk']
    have hbefore : m' < f := by
      refine not_le.1 fun hge => ?_
      rw [hbeforeClosed m' hcal hge hle] at hopen
      cases hopen
    obtain ⟨b, p, h₀, hs, hcase⟩ := he
    have hcalc : ∀ r ∈ h₀.categories, r.categoryId = c → r.remainingEur = none := by
      intro r hr hid
      obtain ⟨_, ⟨_, hk'', _⟩ | ⟨_, f', hf', hle', _⟩ | ⟨_, _, _, hm⟩⟩ := monthSnapshot_ok hs
      · rw [hk'] at hk''
        cases hk''
      · rw [hf] at hf'
        cases hf'
        exact absurd hle' (not_le.2 hbefore)
      · rw [hm] at hr
        obtain ⟨x, _, rfl⟩ := List.mem_map.1 hr
        simp only [historicalCategory] at hid ⊢
        rw [hid, hnone]
        rfl
    rcases hcase with ⟨_, rfl⟩ | ⟨s, _, happ⟩
    · exact hcalc r hr hid
    · rcases happ.categories with ⟨rfl, _⟩ | ⟨_, _, _, _, _, hcat⟩
      · exact hcalc r hr hid
      · rw [hcat, List.mem_append, List.mem_singleton] at hr
        rcases hr with hr | rfl
        · exact hcalc r hr hid
        · subst hid
          exact absurd hc (unallocated_notMem db)

/-! ## The chain -/

/-- The results of a category in a month add up. -/
def AddsUp (r : BudgetCategorySnapshot) : Prop :=
  ∃ carryover monthly adjustment netSpending correction, r.carryoverEur = some carryover ∧
    r.monthlyEur = some monthly ∧ r.adjustmentEur = some adjustment ∧
    r.netSpendingEur = some netSpending ∧ r.correctionEur = some correction ∧
    r.availableEur = some (carryover + monthly + adjustment) ∧
    r.remainingEur = some (carryover + monthly + adjustment - netSpending) ∧
    r.expenseEur = some (netSpending + correction)

/-- The carryover is what the month before left; for a category created after that month was
closed it is the stored opening. -/
def CarriedOver (db : Database) (history : List BudgetMonthSnapshot) (m : Month)
    (r : BudgetCategorySnapshot) : Prop :=
  ∃ e ∈ history, e.month = m.previous ∧
    (∀ r₀ ∈ e.categories, r₀.categoryId = r.categoryId → r.carryoverEur = r₀.remainingEur) ∧
    (r.categoryId ∉ e.categories.map (·.categoryId) → db.isClosed e.month = true ∧
      ∃ f, firstMonth db = some f ∧ r.carryoverEur = db.openings.lookup (r.categoryId, f))

/-- What a month adds to a category is what the movements of the given kinds add, and `plan`. -/
def Moved (db : Database) (m : Month) (r : BudgetCategorySnapshot) (kinds : List MovementKind)
    (plan : Option Decimal) : Prop :=
  ∃ carryover remaining planned, r.carryoverEur = some carryover ∧ r.remainingEur = some remaining ∧
    plan = some planned ∧
    remaining - carryover = planned + (kinds.map (movementTotal db m r.categoryId)).sum

/-- **The category chain.** In every open month the results of a category add up, the carryover is
what the month before left, and from the ledger start on the month adds what its movements add; a
month that is not materialised yet has its recurring allocation in place of allocation movements. -/
theorem category_chain (hreach : Reachable today db) {through current : Month}
    {history : List BudgetMonthSnapshot} (h : historyAt db through current = .ok history)
    {e : BudgetMonthSnapshot} (he : e ∈ history) (hstatus : e.status = .openMonth)
    {r : BudgetCategorySnapshot} (hr : r ∈ e.categories) (hc : r.categoryId ≠ UNALLOCATED) :
    AddsUp r ∧ (firstMonth db ≠ some e.month → CarriedOver db history e.month r) ∧
      ∀ start, db.start = some start → start ≤ e.month →
        ((db.planIncome.lookup e.month).isSome = true →
          Moved db e.month r [.allocation, .spending, .reallocation, .correction] (some 0)) ∧
        (db.planIncome.lookup e.month = none →
          Moved db e.month r [.spending, .reallocation, .correction]
            (monthlyAllocation db r.categoryId e.month)) := by
  have hsound := hreach.sound
  have hfrozen := hreach.frozenSound
  -- the balances that the entry was calculated from
  obtain ⟨m, hm, hentry⟩ := (historyAt_forall₂ h).exists_left he
  obtain ⟨xs, ys, hsplit⟩ := List.append_of_mem hm
  obtain ⟨h₁, e', h₂, b, rfl, hbefore, hfrom, hb⟩ := historyAt_split h hsplit
  have hmonths : ∀ {ms : List Month} {hs : List BudgetMonthSnapshot},
      List.Forall₂ (EntryOf db) ms hs → hs.map (·.month) = ms := by
    intro ms hs hall
    induction hall with
    | nil => rfl
    | cons ha _ ih => rw [List.map_cons, ha.month, ih]
  have hsorted := historyMonths_sorted db through
  obtain rfl : e' = e := by
    have hnodup : ((h₁ ++ e' :: h₂).map (·.month)).Nodup := by
      rw [hmonths (historyAt_forall₂ h)]
      exact hsorted.imp fun h => h.ne
    exact List.inj_on_of_nodup_map hnodup (by simp) he (hfrom.entryOf.month.trans hentry.month.symm)
  obtain ⟨hopen, f, c, hf, hle, hcm, hid, hcat⟩ := hfrom.openCategory hstatus hr hc
  have hbudget : r.categoryId ∈ (budgetCategories db).map Prod.fst :=
    List.mem_map.2 ⟨c, hcm, hid.symm⟩
  have hmcal : m.Calendar := historyMonths_calendar hsound hm
  rw [hentry.month]
  simp only [openCategory, Except.bind_eq_ok, Except.pure_eq_ok, Except.fromOption_eq_ok] at hcat
  obtain ⟨carryover, hcarry, planned, hplanned, activity, _, rfl⟩ := hcat
  simp only at hid hc hbudget
  refine ⟨⟨carryover, _, _, _, _, rfl, rfl, rfl, rfl, rfl, rfl, rfl, rfl⟩, fun hne => ?_,
    fun start hstart hsm => ?_⟩
  · -- the entry before
    have hfm : f < m := lt_of_le_of_ne hle fun heq => hne (by rw [hf, heq])
    obtain ⟨zs, rfl⟩ := historyMonths_previous hsound hsplit hf hfm
    obtain ⟨hprevcal, hfprev, hprev⟩ :=
      Month.previous_spec hmcal (hsound.imports f (firstMonth_mem hf)).1 hfm
    obtain ⟨h₀, hlast, rfl, hearlier, hlast'⟩ := hbefore.append_left
    cases hlast' with
    | @cons _ e₀ _ _ he₀ hnil =>
    cases hnil
    have hbal : some carryover =
        ((openingBalances db).after h₀).overlay e₀.categories c.1 := by
      rw [← hcarry, carryoverOf, if_neg hfm.ne', hb _ hc, Balances.after_append]
      rfl
    have hfacts : (e₀.categories.map (·.categoryId)).Nodup ∧
        ∀ r₀ ∈ e₀.categories, r₀.remainingEur.isSome = true := by
      cases hk : db.closures.lookup m.previous with
      | some k =>
        rw [he₀.closed hk]
        exact ⟨(hfrozen _ k hk).nodup, (hfrozen _ k hk).remaining⟩
      | none =>
        have hopen₀ : db.isClosed m.previous = false := by simp [Database.isClosed, hk]
        exact ⟨he₀.nodup hopen₀, fun r₀ => he₀.remaining hopen₀ hf hfprev⟩
    refine ⟨e₀, by simp, he₀.month, fun r₀ hr₀ hid₀ => ?_, fun hout => ?_⟩
    · have hid₀ : r₀.categoryId = c.1 := hid₀
      rw [← hid₀, Balances.overlay_of_mem hfacts.1 hr₀ (hfacts.2 r₀ hr₀)] at hbal
      exact hbal
    · have hout : c.1 ∉ e₀.categories.map (·.categoryId) := hout
      cases hk : db.closures.lookup m.previous with
      | none => exact absurd (he₀.mem (by simp [Database.isClosed, hk]) hbudget) hout
      | some k =>
        refine ⟨by rw [he₀.month]; simp [Database.isClosed, hk], f, hf, ?_⟩
        rw [he₀.closed hk] at hout hbal
        have hsilent : ∀ h' ∈ h₀, ∀ r' ∈ h'.categories, r'.categoryId = c.1 →
            r'.remainingEur = none := by
          intro h' hh' r' hr' hid'
          obtain ⟨m', hm', he'⟩ := hearlier.exists_left hh'
          have hlt : m' < m.previous := by
            rw [hsplit, List.append_assoc, List.pairwise_append] at hsorted
            exact hsorted.2.2 m' hm' _ (by simp)
          have hmem' : m' ∈ historyMonths db through := by simp [hsplit, hm']
          have hcal' : m'.Calendar := historyMonths_calendar hsound hmem'
          exact silent_before_close hsound hfrozen hk hlt he' hcal' hbudget hout hr' hid'
        have hnone : k.snapshot.find? (fun x => x.categoryId = c.1) = none := by
          rw [List.find?_eq_none]
          intro x hx
          simpa using fun hid' : x.categoryId = c.1 => hout (hid' ▸ List.mem_map_of_mem hx)
        simp only [Balances.overlay, hnone, Option.bind_none, Option.none_or] at hbal
        rw [Balances.after_silent hsilent, openingBalances, hf] at hbal
        exact hbal
  · -- the movements of the month
    have hin : inLedger db m = true := by
      simp [inLedger, hstart, hsm]
    have hcorrection :=
      movementTotal_correction hsound hreach.correctionsBooked hstart hmcal hsm hopen c.1
    constructor
    · intro hplan
      have hmat : materialized db m = true := hplan
      refine ⟨_, _, 0, rfl, rfl, rfl, ?_⟩
      simp only [hin, hmat, Bool.and_self, if_true, List.map_cons, List.map_nil, List.sum_cons,
        List.sum_nil, hcorrection]
      abel
    · intro hplan
      have hmat : materialized db m = false := by simp [materialized, hplan]
      refine ⟨_, _, planned, rfl, rfl, hplanned, ?_⟩
      simp only [hin, hmat, Bool.and_false, Bool.false_eq_true, if_false, if_true, List.map_cons,
        List.map_nil, List.sum_cons, List.sum_nil, hcorrection]
      abel

/-- The open entry of a month for a category, when the history has one with the property `p`. -/
theorem exists_entry {db : Database} {m : Month} {c : CategoryId}
    {p : BudgetCategorySnapshot → Bool}
    (h : ((historyAt db m m).toOption.any fun history => history.any fun e =>
      decide (e.month = m ∧ e.status = .openMonth) && e.categories.any fun r =>
        decide (r.categoryId = c) && p r) = true) :
    ∃ history e r, historyAt db m m = .ok history ∧ e ∈ history ∧ e.month = m ∧
      e.status = .openMonth ∧ r ∈ e.categories ∧ r.categoryId = c ∧ p r = true := by
  obtain ⟨history, hok, hany⟩ := Except.exists_ok_of_any h
  obtain ⟨e, he, hfacts⟩ := List.any_eq_true.1 hany
  obtain ⟨hm, hcategories⟩ := Bool.and_eq_true_iff.1 hfacts
  obtain ⟨r, hr, hfound⟩ := List.any_eq_true.1 hcategories
  obtain ⟨hid, hp⟩ := Bool.and_eq_true_iff.1 hfound
  have hmonth := of_decide_eq_true hm
  exact ⟨history, e, r, hok, he, hmonth.1, hmonth.2, hr, of_decide_eq_true hid, hp⟩

theorem category_chain_october :
    let db := run (household 1000) opened
    ∃ history e r, historyAt db october october = .ok history ∧ e ∈ history ∧ r ∈ e.categories ∧
      AddsUp r ∧ Moved db october r [.allocation, .spending, .reallocation, .correction] (some 0) := by
  intro db
  have hreach : Reachable ⟨october, 2⟩ db := household_reachable 1000 (by decide : Chronological _ opened)
  obtain ⟨history, e, r, hh, he, hmonth, hstatus, hr, hid, _⟩ :=
    @exists_entry db october 1 (fun _ => true) (by decide +kernel)
  have hchain := category_chain hreach hh he hstatus hr (by rw [hid]; decide)
  rw [hmonth] at hchain
  exact ⟨history, e, r, hh, he, hr, hchain.1, (hchain.2.2 october (by decide +kernel) le_rfl).1
    (by decide +kernel)⟩

/-- November has begun, and nothing has synchronised yet. -/
def monthBegun : List Call := opened ++ [callOn november 1 (.delete ⟨102, 200, 1, []⟩)]

/-- A month that is not materialised yet has an allocation, but no movement of it. -/
theorem movements_lag : ¬ ∀ (today : Date) (db : Database) (through : Month)
    (history : List BudgetMonthSnapshot) (e : BudgetMonthSnapshot) (r : BudgetCategorySnapshot)
    (start : Month), Reachable today db → historyAt db through today.month = .ok history →
      e ∈ history → e.status = .openMonth → r ∈ e.categories → r.categoryId ≠ UNALLOCATED →
      db.start = some start → start ≤ e.month →
      Moved db e.month r [.allocation, .spending, .reallocation, .correction] (some 0) := by
  intro hall
  let db := run (household 1000) monthBegun
  have hreach : Reachable ⟨november, 1⟩ db :=
    household_reachable 1000 (by decide : Chronological _ monthBegun)
  obtain ⟨history, e, r, hh, he, hmonth, hstatus, hr, hid, hvalues⟩ :=
    @exists_entry db november 1
      (fun r => decide (r.carryoverEur = some 300 ∧ r.remainingEur = some 500)) (by decide +kernel)
  have hstart : db.start = some october := by decide +kernel
  have hnone : ([.allocation, .spending, .reallocation, .correction].map
      (movementTotal db november 1)).sum = 0 := by decide +kernel
  obtain ⟨carryover, remaining, planned, hcarry, hremaining, hplan, hmoved⟩ := hall _ db november
    history e r october hreach hh he hstatus hr (by rw [hid]; decide) hstart
    (by rw [hmonth]; decide)
  obtain ⟨h300, h500⟩ := of_decide_eq_true hvalues
  cases hplan
  rw [hcarry] at h300
  rw [hremaining] at h500
  cases h300
  cases h500
  rw [hid, hmonth, hnone] at hmoved
  exact absurd hmoved (by decide)

end Server
