import Presto.Committed

/-!
# The ids of an archive

An identity map covers its archive once it was made (`identityMap_covers`), and a map that covers it is
read back as it is (`identityMap_of_covers`): every command plans the archive with the same ids
(`plan_stable`). The ids that are drawn come on top of those that were there (`identityMap_ids`), so no
two things have one (`ids_distinct`).
-/

namespace Admin

open Relational (Consistent contents)
open Server.Backup (FinanceTable schema tableSchema)
open Server.Backup.FinanceTable

/-! ## The identity map -/

section

variable {newId : Nat → String} {s : List (String × String) × Nat} {keys : List String}
  {key : String}

theorem orInsert_isSome (newId : Nat → String) (s : List (String × String) × Nat) (key : String) :
    ((orInsert newId s key).1.lookup key).isSome = true := by
  unfold orInsert
  by_cases h : (s.1.lookup key).isSome = true
  · rw [if_pos h]
    exact h
  · rw [if_neg h]
    simp

/-- A key that has an id keeps it. -/
theorem lookup_orInsert (newId : Nat → String) {other id : String}
    (h : s.1.lookup other = some id) : (orInsert newId s key).1.lookup other = some id := by
  unfold orInsert
  by_cases hkey : (s.1.lookup key).isSome = true
  · rw [if_pos hkey]
    exact h
  · rw [if_neg hkey]
    have hne : (other == key) = false := by
      simp only [beq_eq_false_iff_ne]
      rintro rfl
      exact hkey (by simp [h])
    simp only [List.lookup_cons, hne]
    exact h

theorem lookup_foldl_orInsert (newId : Nat → String) {other id : String} :
    ∀ {s : List (String × String) × Nat}, s.1.lookup other = some id →
      (keys.foldl (orInsert newId) s).1.lookup other = some id := by
  induction keys with
  | nil => exact fun h => h
  | cons key keys ih => exact fun h => ih (lookup_orInsert newId h)

theorem foldl_orInsert_isSome (newId : Nat → String) :
    ∀ {s : List (String × String) × Nat}, ∀ key ∈ keys,
      ((keys.foldl (orInsert newId) s).1.lookup key).isSome = true := by
  induction keys with
  | nil =>
    intro s key hkey
    cases hkey
  | cons first keys ih =>
    intro s key hkey
    rcases List.mem_cons.1 hkey with rfl | hkey
    · obtain ⟨id, hid⟩ := Option.isSome_iff_exists.1 (orInsert_isSome newId s key)
      rw [List.foldl_cons, lookup_foldl_orInsert newId hid]
      rfl
    · exact ih key hkey

/-- Keys that have ids draw none. -/
theorem foldl_orInsert_of_isSome (newId : Nat → String)
    (h : ∀ key ∈ keys, (s.1.lookup key).isSome = true) : keys.foldl (orInsert newId) s = s := by
  induction keys with
  | nil => rfl
  | cons key keys ih =>
    have hfirst : orInsert newId s key = s := by
      rw [orInsert, if_pos (h key List.mem_cons_self)]
    rw [List.foldl_cons, hfirst]
    exact ih fun k hk => h k (List.mem_cons_of_mem _ hk)

/-- The ids that are drawn come on top of those that were there. -/
theorem foldl_orInsert_ids (newId : Nat → String) (keys : List String) :
    ∀ {s : List (String × String) × Nat},
    ∃ n, (keys.foldl (orInsert newId) s).2 = s.2 + n ∧
      ((keys.foldl (orInsert newId) s).1.map Prod.snd).Perm
        ((List.range' s.2 n).map newId ++ s.1.map Prod.snd) := by
  induction keys with
  | nil => exact ⟨0, rfl, .refl _⟩
  | cons key keys ih =>
    intro s
    obtain ⟨n, hn, hperm⟩ := @ih (orInsert newId s key)
    rw [List.foldl_cons]
    by_cases h : (s.1.lookup key).isSome = true
    · have hsame : orInsert newId s key = s := by rw [orInsert, if_pos h]
      rw [hsame] at hn hperm ⊢
      exact ⟨n, hn, hperm⟩
    · have hnew : orInsert newId s key = ((key, newId s.2) :: s.1, s.2 + 1) := by
        rw [orInsert, if_neg h]
      rw [hnew] at hn hperm ⊢
      refine ⟨n + 1, by rw [hn]; omega, hperm.trans ?_⟩
      simp only [List.range'_succ, List.map_cons, List.cons_append]
      exact List.perm_middle

end

/-- All ids of a map. -/
def SavedIdentities.all (saved : SavedIdentities) : List String :=
  saved.importRunId :: (saved.ids.accountIds.map Prod.snd ++ saved.ids.categoryIds.map Prod.snd ++
    saved.ids.transactionIds.map Prod.snd)

/-- The map belongs to the archive and has an id for every account, category and populated row that
needs one. -/
structure Covers (archive : Archive) (saved : SavedIdentities) : Prop where
  version : saved.schemaVersion = 1
  digest : saved.sourceSha256 = archive.exportSha256
  accounts : ∃ column, requiredColumn (headerMap archive.bundle.sheets.accounts) "Name" "Accounts" =
    .ok column ∧ ∀ name ∈ sheetNames archive.bundle.sheets.accounts 1 column,
      (saved.ids.accountIds.lookup name).isSome = true
  categories : ∀ name ∈ sheetNames archive.bundle.sheets.budgets 2
    (categoryNameColumn archive.bundle.sheets.budgets),
      (saved.ids.categoryIds.lookup name).isSome = true
  transactions : ∀ number ∈ unidentifiedRows archive.bundle,
    (saved.ids.transactionIds.lookup number).isSome = true

variable {external : External} {archives : String → Archive} {archive : Archive}
  {directory : String} {options : ImportOptions} {s s' : Workspace} {saved : SavedIdentities}

theorem openIdentityMap_ok {newId : Nat → String} {before : Option SavedIdentities} {drawn n : Nat}
    (h : openIdentityMap newId archive drawn before = .ok (saved, n)) :
    saved.schemaVersion = 1 ∧ saved.sourceSha256 = archive.exportSha256 := by
  cases before with
  | none =>
    cases h
    exact ⟨rfl, rfl⟩
  | some before =>
    simp only [openIdentityMap] at h
    by_cases hother : before.schemaVersion ≠ 1 ∨ before.sourceSha256 ≠ archive.exportSha256
    · rw [if_pos hother] at h
      cases h
    · rw [if_neg hother] at h
      cases h
      simpa using hother

/-- What is saved covers the archive. -/
theorem identityMap_covers {newId : Nat → String} {before : Option SavedIdentities} {drawn n : Nat}
    (h : identityMap newId archive before drawn = .ok (saved, n)) : Covers archive saved := by
  simp only [identityMap, Except.bind_eq_ok, Except.pure_eq_ok, Prod.mk.injEq] at h
  obtain ⟨⟨start, m⟩, hstart, column, hcolumn, rfl, -⟩ := h
  obtain ⟨hversion, hdigest⟩ := openIdentityMap_ok hstart
  exact {
    version := hversion
    digest := hdigest
    accounts := ⟨column, hcolumn, foldl_orInsert_isSome newId⟩
    categories := foldl_orInsert_isSome newId
    transactions := foldl_orInsert_isSome newId }

/-- A map that covers the archive is read back as it is, and no id is drawn. -/
theorem identityMap_of_covers (newId : Nat → String) (h : Covers archive saved) (drawn : Nat) :
    identityMap newId archive (some saved) drawn = .ok (saved, drawn) := by
  obtain ⟨column, hcolumn, haccounts⟩ := h.accounts
  have hstart : openIdentityMap newId archive drawn (some saved) = .ok (saved, drawn) := by
    simp [openIdentityMap, h.version, h.digest]
  have hfold : ∀ {keys : List String} {ids : List (String × String)} (n : Nat),
      (∀ key ∈ keys, (ids.lookup key).isSome = true) →
        keys.foldl (orInsert newId) (ids, n) = (ids, n) := by
    intro keys ids n hids
    apply foldl_orInsert_of_isSome
    exact hids
  simp only [identityMap, Except.bind_eq_ok, Except.pure_eq_ok]
  refine ⟨(saved, drawn), hstart, column, hcolumn, ?_⟩
  simp only [hfold _ haccounts, hfold _ h.categories, hfold _ h.transactions]

/-- The ids of a map are those that were saved, and newly drawn ones. -/
theorem identityMap_ids {newId : Nat → String} {before : Option SavedIdentities} {drawn n : Nat}
    (h : identityMap newId archive before drawn = .ok (saved, n)) :
    ∃ k, n = drawn + k ∧
      saved.all.Perm ((List.range' drawn k).map newId ++ (before.map (·.all)).getD []) := by
  simp only [identityMap, Except.bind_eq_ok, Except.pure_eq_ok, Prod.mk.injEq] at h
  obtain ⟨⟨start, m⟩, hstart, column, -, rfl, rfl⟩ := h
  obtain ⟨k₀, hm, hall⟩ : ∃ k₀, m = drawn + k₀ ∧
      start.all = (List.range' drawn k₀).map newId ++ (before.map (·.all)).getD [] := by
    cases before with
    | none =>
      cases hstart
      exact ⟨1, rfl, rfl⟩
    | some before =>
      simp only [openIdentityMap] at hstart
      by_cases hother : before.schemaVersion ≠ 1 ∨ before.sourceSha256 ≠ archive.exportSha256
      · rw [if_pos hother] at hstart
        cases hstart
      · rw [if_neg hother] at hstart
        cases hstart
        exact ⟨0, rfl, rfl⟩
  obtain ⟨k₁, h₁, hperm₁⟩ := foldl_orInsert_ids newId
    (sheetNames archive.bundle.sheets.accounts 1 column) (s := (start.ids.accountIds, m))
  generalize (sheetNames archive.bundle.sheets.accounts 1 column).foldl (orInsert newId)
    (start.ids.accountIds, m) = accounts at h₁ hperm₁ ⊢
  obtain ⟨k₂, h₂, hperm₂⟩ := foldl_orInsert_ids newId
    (sheetNames archive.bundle.sheets.budgets 2
      (categoryNameColumn archive.bundle.sheets.budgets))
    (s := (start.ids.categoryIds, accounts.2))
  generalize (sheetNames archive.bundle.sheets.budgets 2
    (categoryNameColumn archive.bundle.sheets.budgets)).foldl (orInsert newId)
      (start.ids.categoryIds, accounts.2) = categories at h₂ hperm₂ ⊢
  obtain ⟨k₃, h₃, hperm₃⟩ := foldl_orInsert_ids newId (unidentifiedRows archive.bundle)
    (s := (start.ids.transactionIds, categories.2))
  generalize (unidentifiedRows archive.bundle).foldl (orInsert newId)
    (start.ids.transactionIds, categories.2) = transactions at h₃ hperm₃ ⊢
  simp only at h₁ h₂ h₃ hperm₁ hperm₂ hperm₃
  subst hm
  rw [h₁] at h₂ hperm₂
  rw [h₂] at h₃ hperm₃
  refine ⟨k₀ + k₁ + k₂ + k₃, h₃.trans (by omega), List.perm_iff_count.2 fun id => ?_⟩
  -- the ranges of the three loops and of the new map are one
  have hrange : ((List.range' drawn (k₀ + k₁ + k₂ + k₃)).map newId).count id =
      ((List.range' drawn k₀).map newId).count id +
        ((List.range' (drawn + k₀) k₁).map newId).count id +
        ((List.range' (drawn + k₀ + k₁) k₂).map newId).count id +
        ((List.range' (drawn + k₀ + k₁ + k₂) k₃).map newId).count id := by
    simp only [← List.count_append, ← List.map_append, List.range'_append_1, Nat.add_assoc]
  have hstarts := congrArg (List.count id) hall
  have hcount₁ := hperm₁.count_eq id
  have hcount₂ := hperm₂.count_eq id
  have hcount₃ := hperm₃.count_eq id
  simp only [SavedIdentities.all, List.count_cons, List.count_append] at *
  omega

/-! ## What a command does -/

theorem planCommand_database (external : External) (archives : String → Archive)
    (directory : String) (s : Workspace) :
    (planCommand external archives directory s).2.database = s.database := by
  unfold planCommand
  split <;> rfl

/-- A plan comes from a map that covers the archive and is saved. -/
theorem planCommand_ok {plan : ImportPlan}
    (h : planCommand external archives directory s = (.ok (saved, plan), s')) :
    Covers (archives directory) saved ∧ s'.identities directory = some saved ∧
      buildPlan external.tools (archives directory).bundle saved.ids = .ok plan := by
  unfold planCommand at h
  split at h
  · cases h
  · rename_i identities drawn hidentities
    simp only [Prod.mk.injEq, Except.map_eq_ok] at h
    obtain ⟨⟨found, hplan, rfl, rfl⟩, rfl⟩ := h
    exact ⟨identityMap_covers hidentities, Function.update_self .., hplan⟩

/-- A map that covers its archive stays beside it, whatever is planned. -/
theorem planCommand_identities (hcovers : Covers (archives directory) saved)
    (hs : s.identities directory = some saved) (other : String) :
    (planCommand external archives other s).2.identities directory = some saved := by
  unfold planCommand
  by_cases hother : other = directory
  · subst hother
    rw [hs, identityMap_of_covers _ hcovers]
    exact Function.update_self ..
  · split
    · exact hs
    · rw [← hs]
      exact Function.update_of_ne (Ne.symm hother) ..

/-- The plan of an archive with a map that covers it. -/
theorem planCommand_of_covers (external : External) {plan : ImportPlan}
    (hcovers : Covers (archives directory) saved)
    (hs : s.identities directory = some saved)
    (hplan : buildPlan external.tools (archives directory).bundle saved.ids = .ok plan) :
    (planCommand external archives directory s).1 = .ok (saved, plan) := by
  unfold planCommand
  rw [hs, identityMap_of_covers _ hcovers]
  simp only [hplan]
  rfl

/-- A commit was tried on a plan that passed the checks before it. -/
structure Tried (external : External) (archives : String → Archive) (directory : String)
    (s : Workspace) (saved : SavedIdentities) (plan : ImportPlan) (drawn : Nat)
    (result : Except String FinanceDatabase) : Prop where
  covers : Covers (archives directory) saved
  planned : buildPlan external.tools (archives directory).bundle saved.ids = .ok plan
  valid : plan.validationIssues = []
  checkpoints : plan.accountCheckpointsPresent = true
  result : commitImport external (archives directory) saved plan drawn
    (s.database.getD fun _ => []) = result

/-- What an import does: it stops before the database, or tries to commit. -/
theorem importCommand_cases (external : External) (archives : String → Archive) (directory : String)
    (options : ImportOptions) (s : Workspace) :
    (importCommand external archives directory options s).2.identities =
        (planCommand external archives directory s).2.identities ∧
      (planCommand external archives directory s).2.drawn ≤
        (importCommand external archives directory options s).2.drawn ∧
      ((((∃ e, (importCommand external archives directory options s).1 = .error e) ∨
            (options.commit = false ∧
              (importCommand external archives directory options s).1 = .ok .dryRun)) ∧
          (importCommand external archives directory options s).2.database = s.database) ∨
        ∃ saved plan drawn result, Tried external archives directory s saved plan drawn result ∧
          (planCommand external archives directory s).2.identities directory = some saved ∧
          (importCommand external archives directory options s).1 =
            result.map (fun _ => .committed) ∧
          (importCommand external archives directory options s).2.database =
            some (result.toOption.getD (s.database.getD fun _ => []))) := by
  have hdatabase := planCommand_database external archives directory s
  unfold importCommand
  cases hplan : planCommand external archives directory s with
  | mk found s₁ =>
    rw [hplan] at hdatabase
    cases found with
    | error e => exact ⟨rfl, le_rfl, .inl ⟨.inl ⟨_, rfl⟩, hdatabase⟩⟩
    | ok found =>
      obtain ⟨saved, plan⟩ := found
      simp only
      split
      · exact ⟨rfl, le_rfl, .inl ⟨.inl ⟨_, rfl⟩, hdatabase⟩⟩
      · split
        · exact ⟨rfl, le_rfl, .inl ⟨.inl ⟨_, rfl⟩, hdatabase⟩⟩
        · split
          · rename_i hdry
            exact ⟨rfl, le_rfl, .inl ⟨.inr ⟨hdry, rfl⟩, hdatabase⟩⟩
          · split
            · exact ⟨rfl, le_rfl, .inl ⟨.inl ⟨_, rfl⟩, hdatabase⟩⟩
            · rename_i hcheckpoints hcommit hvalid
              obtain ⟨hcovers, hsaved, hbuilt⟩ := planCommand_ok hplan
              have htried : Tried external archives directory s saved plan s₁.drawn
                  (commitImport external (archives directory) saved plan s₁.drawn
                    (s.database.getD fun _ => [])) := {
                covers := hcovers
                planned := hbuilt
                valid := by simpa using hvalid
                checkpoints := by
                  simp only [Bool.not_eq_false] at hcommit
                  simpa [hcommit] using hcheckpoints
                result := rfl }
              rw [hdatabase]
              cases hresult : commitImport external (archives directory) saved plan s₁.drawn
                  (s.database.getD fun _ => []) with
              | error e =>
                rw [hresult] at htried
                exact ⟨rfl, Nat.le_add_right _ _, .inr ⟨saved, plan, s₁.drawn, _, htried, hsaved, rfl, rfl⟩⟩
              | ok db =>
                rw [hresult] at htried
                exact ⟨rfl, Nat.le_add_right _ _, .inr ⟨saved, plan, s₁.drawn, _, htried, hsaved, rfl, rfl⟩⟩

theorem verifyCommand_database (external : External) (archives : String → Archive)
    (directory : String) (s : Workspace) :
    (verifyCommand external archives directory s).2 =
      (planCommand external archives directory s).2 := by
  unfold verifyCommand
  cases planCommand external archives directory s with
  | mk found s₁ =>
    cases found with
    | error e => rfl
    | ok found =>
      simp only
      split
      · rfl
      · split
        · rfl
        · split <;> rfl

/-! ## No id is given twice -/

/-- The ids of the maps were drawn, and no two of them are the same. -/
structure DistinctIds (external : External) (s : Workspace) : Prop where
  drawn : ∀ directory saved, s.identities directory = some saved →
    ∀ id ∈ saved.all, ∃ k < s.drawn, external.newId k = id
  nodup : ∀ directory saved, s.identities directory = some saved → saved.all.Nodup
  disjoint : ∀ directory other saved saved', directory ≠ other →
    s.identities directory = some saved → s.identities other = some saved' →
      saved.all.Disjoint saved'.all

theorem DistinctIds.later (h : DistinctIds external s) (hidentities : s'.identities = s.identities)
    (hdrawn : s.drawn ≤ s'.drawn) : DistinctIds external s' where
  drawn directory saved hs id hid := by
    rw [hidentities] at hs
    obtain ⟨k, hk, hnew⟩ := h.drawn directory saved hs id hid
    exact ⟨k, by omega, hnew⟩
  nodup directory saved hs := by
    rw [hidentities] at hs
    exact h.nodup directory saved hs
  disjoint directory other saved saved' hne hs hs' := by
    rw [hidentities] at hs hs'
    exact h.disjoint directory other saved saved' hne hs hs'

/-- A map that gets new ids has no id twice and none of another map. -/
theorem DistinctIds.update (h : DistinctIds external s) (hnew : Function.Injective external.newId)
    {k : Nat} (hperm : saved.all.Perm ((List.range' s.drawn k).map external.newId ++
      ((s.identities directory).map (·.all)).getD [])) :
    DistinctIds external { s with
      identities := Function.update s.identities directory (some saved), drawn := s.drawn + k } := by
  have hold : ∀ id ∈ ((s.identities directory).map (·.all)).getD [],
      ∃ before, s.identities directory = some before ∧ id ∈ before.all := by
    intro id hid
    cases hbefore : s.identities directory with
    | none =>
      rw [hbefore] at hid
      cases hid
    | some before =>
      rw [hbefore] at hid
      exact ⟨before, rfl, hid⟩
  have hmem : ∀ id ∈ saved.all, (∃ i, s.drawn ≤ i ∧ i < s.drawn + k ∧ external.newId i = id) ∨
      ∃ before, s.identities directory = some before ∧ id ∈ before.all := by
    intro id hid
    rcases List.mem_append.1 (hperm.subset hid) with hid | hid
    · obtain ⟨i, hi, rfl⟩ := List.mem_map.1 hid
      exact .inl ⟨i, (List.mem_range'_1.1 hi).1, (List.mem_range'_1.1 hi).2, rfl⟩
    · exact .inr (hold id hid)
  -- an id that another map has was drawn before
  have hothers : ∀ other saved', directory ≠ other → s.identities other = some saved' →
      saved.all.Disjoint saved'.all := by
    intro other saved' hne hs' id hid hid'
    rcases hmem id hid with ⟨i, hi, -, rfl⟩ | ⟨before, hbefore, hid⟩
    · obtain ⟨j, hj, hij⟩ := h.drawn other saved' hs' _ hid'
      have heq := hnew hij
      omega
    · exact h.disjoint directory other before saved' hne hbefore hs' hid hid'
  have hnodup : saved.all.Nodup := by
    rw [hperm.nodup_iff, List.nodup_append']
    refine ⟨List.Nodup.map hnew List.nodup_range', ?_, ?_⟩
    · cases hbefore : s.identities directory with
      | none => exact List.nodup_nil
      | some before => exact h.nodup directory before hbefore
    · intro id hid hid'
      obtain ⟨i, hi, rfl⟩ := List.mem_map.1 hid
      obtain ⟨before, hbefore, hid'⟩ := hold _ hid'
      obtain ⟨j, hj, hij⟩ := h.drawn directory before hbefore _ hid'
      have heq := hnew hij
      have hle := (List.mem_range'_1.1 hi).1
      omega
  refine ⟨fun other saved' hs' id hid => ?_, fun other saved' hs' => ?_,
    fun first second saved₁ saved₂ hne hs₁ hs₂ => ?_⟩
  · by_cases hother : other = directory
    · subst hother
      simp only [Function.update_self, Option.some.injEq] at hs'
      subst hs'
      rcases hmem id hid with ⟨i, -, hi, hid⟩ | ⟨before, hbefore, hid⟩
      · exact ⟨i, hi, hid⟩
      · obtain ⟨j, hj, hid⟩ := h.drawn other before hbefore id hid
        exact ⟨j, Nat.lt_add_right k hj, hid⟩
    · simp only [Function.update_of_ne hother] at hs'
      obtain ⟨j, hj, hid⟩ := h.drawn other saved' hs' id hid
      exact ⟨j, Nat.lt_add_right k hj, hid⟩
  · by_cases hother : other = directory
    · subst hother
      simp only [Function.update_self, Option.some.injEq] at hs'
      exact hs' ▸ hnodup
    · simp only [Function.update_of_ne hother] at hs'
      exact h.nodup other saved' hs'
  · by_cases hfirst : first = directory
    · subst hfirst
      simp only [Function.update_self, Option.some.injEq] at hs₁
      simp only [Function.update_of_ne (Ne.symm hne)] at hs₂
      exact hs₁ ▸ hothers second saved₂ hne hs₂
    · simp only [Function.update_of_ne hfirst] at hs₁
      by_cases hsecond : second = directory
      · subst hsecond
        simp only [Function.update_self, Option.some.injEq] at hs₂
        exact hs₂ ▸ (hothers first saved₁ (Ne.symm hfirst) hs₁).symm
      · simp only [Function.update_of_ne hsecond] at hs₂
        exact h.disjoint first second saved₁ saved₂ hne hs₁ hs₂

theorem DistinctIds.planCommand (h : DistinctIds external s)
    (hnew : Function.Injective external.newId) (directory : String) :
    DistinctIds external (planCommand external archives directory s).2 := by
  unfold Admin.planCommand
  split
  · exact h
  · rename_i saved drawn hsaved
    obtain ⟨k, rfl, hperm⟩ := identityMap_ids hsaved
    exact h.update hnew hperm

/-- **Distinct ids.** Where no id is drawn twice, the accounts, categories, transactions and imports
of all archives have different ids, whatever commands have run. -/
theorem ids_distinct (hnew : Function.Injective external.newId) (database : Option FinanceDatabase)
    (commands : List Command) :
    DistinctIds external (runCommands external archives ⟨fun _ => none, database, 0⟩ commands) := by
  have hrun : ∀ s, DistinctIds external s →
      DistinctIds external (runCommands external archives s commands) := by
    induction commands with
    | nil => exact fun s hs => hs
    | cons command commands ih =>
      intro s hs
      apply ih
      cases command with
      | importArchive directory options =>
        obtain ⟨hidentities, hdrawn, -⟩ := importCommand_cases external archives directory options s
        exact (hs.planCommand hnew directory).later hidentities hdrawn
      | verifyArchive directory =>
        simp only [runCommand, verifyCommand_database]
        exact hs.planCommand hnew directory
  apply hrun
  constructor <;> simp

/-! ## The plan of an archive does not change -/

/-- A map that covers its archive stays beside it in a run. -/
theorem runCommands_identities (hcovers : Covers (archives directory) saved)
    (hs : s.identities directory = some saved) (commands : List Command) :
    (runCommands external archives s commands).identities directory = some saved := by
  induction commands generalizing s with
  | nil => exact hs
  | cons command commands ih =>
    apply ih
    cases command with
    | importArchive other options =>
      simp only [runCommand, (importCommand_cases external archives other options s).1]
      exact planCommand_identities hcovers hs other
    | verifyArchive other =>
      simp only [runCommand, verifyCommand_database]
      exact planCommand_identities hcovers hs other

/-- **One plan**: whatever commands run after an archive was planned, every later command plans it
with the same ids, so that a commit inserts and a verification compares what a dry run showed. -/
theorem plan_stable {plan : ImportPlan}
    (h : planCommand external archives directory s = (.ok (saved, plan), s'))
    (commands : List Command) :
    (planCommand external archives directory (runCommands external archives s' commands)).1 =
      .ok (saved, plan) := by
  obtain ⟨hcovers, hsaved, hplan⟩ := planCommand_ok h
  exact planCommand_of_covers _ hcovers (runCommands_identities hcovers hsaved commands) hplan

/-! The archive with one account, one category and one expense, and a second archive. -/

def lunchExternal : External where
  tools := textTools
  affinity := Server.Backup.septemberExternal.affinity
  newId n := String.ofList (List.replicate n '0')
  now _ := "2026-09-01T08:00:00.000Z"
  transactionJson t := t.id
  sourceCellsJson _ := "[]"
  artifactsJson _ := "null"
  manifestJson archive := archive.bundle.currentCanonicalMonth
  countsJson _ := "null"

def lunchFiles (directory : String) : Archive where
  exportSha256 := directory
  sourceSpreadsheetId := "workbook"
  testWorkbook := false
  transactionsTitle := "Transactions"
  accountsTitle := "Accounts"
  exchangeRatesTitle := "Exchange rates"
  bundle := { lunchArchive with
    sheets := { lunchArchive.sheets with accountCheckpoints := some ⟨35, []⟩ } }

def commitOptions : ImportOptions := ⟨true, false, false⟩

def emptyWorkspace : Workspace := ⟨fun _ => none, none, 0⟩

theorem lunchExternal_newId : Function.Injective lunchExternal.newId := by
  intro m n h
  have hlength := congrArg (fun s => s.toList.length) h
  simpa [lunchExternal] using hlength

/-- A second import and a verification in between. -/
def lunchCommands : List Command :=
  [.importArchive "dinner" commitOptions, .verifyArchive "lunch", .importArchive "lunch" commitOptions]

theorem ids_distinct_lunch : DistinctIds lunchExternal
    (runCommands lunchExternal lunchFiles ⟨fun _ => none, none, 0⟩ lunchCommands) :=
  ids_distinct lunchExternal_newId none lunchCommands

theorem plan_stable_lunch : ∃ saved plan,
    (planCommand lunchExternal lunchFiles "lunch" emptyWorkspace).1 = .ok (saved, plan) ∧
      (planCommand lunchExternal lunchFiles "lunch" (runCommands lunchExternal lunchFiles
        (planCommand lunchExternal lunchFiles "lunch" emptyWorkspace).2 lunchCommands)).1 =
          .ok (saved, plan) := by
  obtain ⟨⟨saved, plan⟩, hplan⟩ : ∃ planned,
      (planCommand lunchExternal lunchFiles "lunch" emptyWorkspace).1 = .ok planned :=
    Except.exists_ok (by decide +kernel)
  exact ⟨saved, plan, hplan, plan_stable (Prod.ext hplan rfl) lunchCommands⟩

end Admin
