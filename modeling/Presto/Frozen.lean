import Presto.Handlers

/-!
# Frozen results

A closed month keeps one entry for every category that took part in the budget when it was closed,
each with its remaining balance. A category created later has an opening instead, and no frozen
entry up to that month.
-/

namespace BudgetLedger

open Budget

variable {db : Database} {m f : Month} {e : BudgetMonthSnapshot}

/-- An open or historical month lists the categories of the budget. -/
theorem monthSnapshot_ids {b : Balances} {p : Bool}
    (hs : monthSnapshot db (firstMonth db) b p m = .ok e) (hopen : db.isClosed m = false) :
    e.categories.map (·.categoryId) = (budgetCategories db).map Prod.fst := by
  obtain ⟨_, ⟨k, hk, _⟩ | ⟨_, f, _, _, _, hm⟩ | ⟨_, _, _, hm⟩⟩ := monthSnapshot_ok hs
  · simp [Database.isClosed, hk] at hopen
  · exact openCategories_id hm
  · rw [hm, List.map_map]
    rfl

/-- Its entry lists them too, and Unallocated after them from the ledger start on. -/
theorem EntryOf.ids (he : EntryOf db m e) (hopen : db.isClosed m = false) :
    e.categories.map (·.categoryId) = (budgetCategories db).map Prod.fst ∨
      (inLedger db m = true ∧
        e.categories.map (·.categoryId) = (budgetCategories db).map Prod.fst ++ [UNALLOCATED]) := by
  obtain ⟨b, p, h₀, hs, hcase⟩ := he
  have hids := monthSnapshot_ids hs hopen
  rcases hcase with ⟨_, rfl⟩ | ⟨s, hstart, happ⟩
  · exact .inl hids
  · rcases happ.categories with ⟨rfl, _⟩ | ⟨hle, _, _, _, _, hcat⟩
    · exact .inl hids
    · right
      rw [(monthSnapshot_ok hs).1] at hle
      refine ⟨by simp [inLedger, hstart, hle], ?_⟩
      rw [hcat, List.map_append, hids]
      rfl

theorem unallocated_notMem (db : Database) : UNALLOCATED ∉ (budgetCategories db).map Prod.fst :=
  fun h => (mem_budgetCategories.1 h).2 rfl

theorem EntryOf.nodup (he : EntryOf db m e) (hopen : db.isClosed m = false) :
    (e.categories.map (·.categoryId)).Nodup := by
  rcases he.ids hopen with hids | ⟨_, hids⟩
  · rw [hids]
    exact budgetCategories_nodup db
  · rw [hids, List.nodup_append]
    refine ⟨budgetCategories_nodup db, by simp, ?_⟩
    rintro c hc _ hu rfl
    rw [List.mem_singleton.1 hu] at hc
    exact unallocated_notMem db hc

theorem EntryOf.mem (he : EntryOf db m e) (hopen : db.isClosed m = false) {c : CategoryId}
    (hc : c ∈ (budgetCategories db).map Prod.fst) : c ∈ e.categories.map (·.categoryId) := by
  rcases he.ids hopen with hids | ⟨_, hids⟩
  · rwa [hids]
  · rw [hids]
    exact List.mem_append_left _ hc

/-- Every category of an open month has a remaining balance. -/
theorem EntryOf.remaining (he : EntryOf db m e) (hopen : db.isClosed m = false)
    (hf : firstMonth db = some f) (hle : f ≤ m) {r : BudgetCategorySnapshot}
    (hr : r ∈ e.categories) : r.remainingEur.isSome = true := by
  obtain ⟨b, p, h₀, hs, hcase⟩ := he
  have hcalc : ∀ r ∈ h₀.categories, r.remainingEur.isSome = true := by
    intro r hr
    obtain ⟨_, ⟨k, hk, _⟩ | ⟨_, f, _, _, _, hm⟩ | ⟨_, hlt, _⟩⟩ := monthSnapshot_ok hs
    · simp [Database.isClosed, hk] at hopen
    · obtain ⟨c, _, hc⟩ := (Except.mapM_eq_ok hm).exists_left hr
      simp only [openCategory, Except.bind_eq_ok, Except.pure_eq_ok] at hc
      obtain ⟨_, _, _, _, _, _, rfl⟩ := hc
      rfl
    · exact absurd (hlt f hf) (not_lt.2 hle)
  rcases hcase with ⟨_, rfl⟩ | ⟨s, _, happ⟩
  · exact hcalc r hr
  · rcases happ.categories with ⟨rfl, _⟩ | ⟨_, _, _, _, _, hcat⟩
    · exact hcalc r hr
    · rw [hcat, List.mem_append, List.mem_singleton] at hr
      rcases hr with hr | rfl
      · exact hcalc r hr
      · rfl

end BudgetLedger

namespace Server

open Budget BudgetLedger

variable {today : Date} {db db' : Database}

/-- The frozen result `k` of month `m`. -/
structure FrozenAt (db : Database) (m : Month) (k : Closure) : Prop where
  nodup : (k.snapshot.map (·.categoryId)).Nodup
  remaining : ∀ r ∈ k.snapshot, r.remainingEur.isSome = true
  kept : ∀ r ∈ k.snapshot, (db.snapshots.lookup (r.categoryId, m)).isSome = true
  later : ∀ c ∈ (budgetCategories db).map Prod.fst, c ∉ k.snapshot.map (·.categoryId) →
    (∀ m' ≤ m, db.snapshots.lookup (c, m') = none) ∧
      ∃ f, firstMonth db = some f ∧ (db.openings.lookup (c, f)).isSome = true

def FrozenSound (db : Database) : Prop :=
  ∀ m k, db.closures.lookup m = some k → FrozenAt db m k

theorem Imported.frozenSound (h : Imported today db) : FrozenSound db := by
  intro m k hk
  rw [h.closures] at hk
  cases hk

/-- Later openings keep a frozen result as it is. -/
theorem FrozenAt.mono {m : Month} {k : Closure} (h : FrozenAt db m k)
    (hsnapshots : db'.snapshots = db.snapshots) (hfirst : firstMonth db' = firstMonth db)
    (hopenings : Keeps db.openings db'.openings)
    (hnew : ∀ c ∈ (budgetCategories db').map Prod.fst, c ∈ (budgetCategories db).map Prod.fst ∨
      ((∀ m', db.snapshots.lookup (c, m') = none) ∧
        ∃ f, firstMonth db = some f ∧ (db'.openings.lookup (c, f)).isSome = true)) :
    FrozenAt db' m k where
  nodup := h.nodup
  remaining := h.remaining
  kept := by
    rw [hsnapshots]
    exact h.kept
  later := by
    intro c hc hout
    rw [hsnapshots, hfirst]
    rcases hnew c hc with hc | ⟨hnone, hopening⟩
    · obtain ⟨hnone, f, hf, hopening⟩ := h.later c hc hout
      exact ⟨hnone, f, hf, hopenings.isSome hopening⟩
    · exact ⟨fun m' _ => hnone m', hopening⟩

theorem lookup_freezeSnapshots_mem {m : Month} {c : CategoryId} {cs : List BudgetCategorySnapshot} :
    ∀ {t : Table (CategoryId × Month) MonthSnapshot},
      (c ∈ cs.map (·.categoryId) ∨ (t.lookup (c, m)).isSome = true) →
      ((freezeSnapshots m t cs).lookup (c, m)).isSome = true := by
  induction cs with
  | nil =>
    intro t h
    exact h.resolve_left (by simp)
  | cons x xs ih =>
    intro t h
    refine ih ?_
    rw [AList.lookup_insert_of]
    by_cases hx : c = x.categoryId
    · right
      simp [hx]
    · rw [if_neg (by simp [hx])]
      rcases h with h | h
      · left
        simpa [hx] using h
      · exact .inr h

theorem Change.frozenSound (h : Change today db db') (hsound : Sound today db)
    (hI : FrozenSound db) : FrozenSound db' := by
  have hfirst := h.toExtends.firstMonth_eq
  have hopenings := h.toExtends.openings
  cases h with
  | @addCategory id x first amount hnew hid hreal hf _ _ _ hsnapshots =>
    intro m k hk
    refine (hI m k hk).mono rfl hfirst hopenings fun c hc => ?_
    by_cases he : c = id
    · subst he
      exact .inr ⟨hsnapshots, first, hf, by simp⟩
    · left
      rw [mem_budgetCategories] at hc ⊢
      refine ⟨?_, hc.2⟩
      have hreal := hc.1
      simpa [Database.isRealCategory, AList.lookup_insert_of, he] using hreal
  | startLedger _ _ _ _ _ _ =>
    intro m k hk
    refine (hI m k hk).mono rfl hfirst hopenings fun c hc => .inl ?_
    rw [mem_budgetCategories] at hc ⊢
    refine ⟨?_, hc.2⟩
    have hreal := hc.1
    simpa [Database.isRealCategory, AList.lookup_insert_of, hc.2] using hreal
  | @close m first cs cov operation hm hopen hf hle hcal hbefore hcategories hexist _ =>
    intro m' k hk
    obtain ⟨_, entry, _, _, hentry, rfl⟩ := categories_ok hcategories
    change (db.closures.insert m _).lookup m' = some k at hk
    rw [AList.lookup_insert_of] at hk
    split at hk
    · -- the month that is closed now
      rename_i hmm
      cases hk
      subst hmm
      refine ⟨hentry.nodup hopen, fun r hr => hentry.remaining hopen hf hle hr, fun r hr => ?_,
        fun c hc hout => absurd (hentry.mem hopen hc) hout⟩
      exact lookup_freezeSnapshots_mem (.inl (List.mem_map_of_mem hr))
    · -- an earlier one
      rename_i hmm
      have hk' := hI m' k hk
      have hlt : m' < m := by
        obtain ⟨_, _, f', hf', _, hbeforeClosed⟩ :=
          hsound.closures m' (by simp [Database.isClosed, hk])
        rw [hf] at hf'
        cases hf'
        refine lt_of_le_of_ne (not_lt.1 fun hlt => ?_) hmm
        have hclosed := hbeforeClosed m hcal hle hlt
        rw [hopen] at hclosed
        cases hclosed
      refine ⟨hk'.nodup, hk'.remaining, fun r hr => ?_, fun c hc hout => ?_⟩
      · change ((freezeSnapshots m db.snapshots _).lookup _).isSome = true
        rw [lookup_freezeSnapshots hlt.ne]
        exact hk'.kept r hr
      · obtain ⟨hnone, hopening⟩ := hk'.later c hc hout
        refine ⟨fun m'' hle'' => ?_, hopening⟩
        change (freezeSnapshots m db.snapshots _).lookup _ = none
        rw [lookup_freezeSnapshots (hle''.trans_lt hlt).ne]
        exact hnone m'' hle''
  | _ =>
    intro m k hk
    exact (hI m k hk).mono rfl hfirst hopenings fun c hc => .inl hc

theorem Changes.frozenSound (h : Changes today db db') (hsound : Sound today db)
    (hI : FrozenSound db) : FrozenSound db' := by
  induction h with
  | refl => exact hI
  | tail hc hstep ih => exact hstep.frozenSound (Changes.sound hc hsound) ih

/-- **Every reachable database has sound frozen results.** -/
theorem Reachable.frozenSound (h : Reachable today db) : FrozenSound db := by
  obtain ⟨d₀, db₀, himp, hrun⟩ := h
  have key := hrun.induct (I := fun d db => Sound d db ∧ FrozenSound db)
    ⟨himp.sound, himp.frozenSound⟩ fun _ _ call _ hv hle _ hs => by
      have hl := hs.1.later hv hle
      have hc := step_changes call hl
      exact ⟨hc.sound hl, hc.frozenSound hl hs.2⟩
  exact key.2

end Server
