import Mathlib.Data.List.AList
import Mathlib.Algebra.BigOperators.Group.List.Basic
import Mathlib.Algebra.Group.Basic
import Mathlib.Tactic.Abel

/-!
# Keyed tables

A table with a primary key is an association list whose keys are distinct (`AList`), so two rows
with one key cannot be built. This file adds what statements over whole tables need: the **total**
of a quantity over the rows, and how it changes when one row is inserted, replaced or deleted.
-/

/-- Rows of type `α` under a primary key of type `κ`. -/
abbrev Table (κ α : Type*) := AList (fun _ : κ => α)

namespace List

/-- Leaving out elements that add nothing does not change a sum. -/
theorem sum_map_filter {α M : Type*} [AddCommMonoid M] {p : α → Bool} {f : α → M}
    (h : ∀ a, p a = false → f a = 0) {l : List α} : ((l.filter p).map f).sum = (l.map f).sum := by
  induction l with
  | nil => rfl
  | cons a l ih =>
    rw [map_cons, sum_cons, ← ih]
    cases hp : p a with
    | true => rw [filter_cons_of_pos hp, map_cons, sum_cons]
    | false => rw [filter_cons_of_neg (by simp [hp]), h a hp, zero_add]

end List

namespace AList

variable {κ α M : Type*}

/-- The sum of `f` over all rows. -/
def total [AddCommMonoid M] (t : Table κ α) (f : κ → α → M) : M :=
  (t.entries.map fun e => f e.1 e.2).sum

@[simp] theorem total_empty [AddCommMonoid M] (f : κ → α → M) :
    total (∅ : Table κ α) f = 0 := by
  simp [total]

variable [DecidableEq κ]

/-- `UPDATE ... WHERE key = a`: nothing happens when the row is missing. -/
def modify (t : Table κ α) (a : κ) (g : α → α) : Table κ α :=
  match t.lookup a with
  | some b => t.insert a (g b)
  | none => t

theorem mem_entries_iff {t : Table κ α} {a : κ} {b : α} :
    (⟨a, b⟩ : Sigma fun _ : κ => α) ∈ t.entries ↔ t.lookup a = some b :=
  mem_lookup_iff.symm

theorem lookup_insert_of (t : Table κ α) (a a' : κ) (b : α) :
    (t.insert a b).lookup a' = if a' = a then some b else t.lookup a' := by
  by_cases h : a' = a
  · subst h; simp
  · simp [h]

theorem lookup_erase_of (t : Table κ α) (a a' : κ) :
    (t.erase a).lookup a' = if a' = a then none else t.lookup a' := by
  by_cases h : a' = a
  · subst h; simp
  · simp [h]

theorem lookup_modify (t : Table κ α) (a a' : κ) (g : α → α) :
    (t.modify a g).lookup a' = if a' = a then (t.lookup a').map g else t.lookup a' := by
  unfold modify
  cases h : t.lookup a with
  | some b =>
    by_cases e : a' = a
    · subst e; simp [h]
    · simp [e]
  | none =>
    by_cases e : a' = a
    · subst e; simp [h]
    · simp [e]

/-- `DELETE ... WHERE NOT p`: the rows that satisfy `p` stay. -/
def retain (t : Table κ α) (p : κ → α → Bool) : Table κ α where
  entries := t.entries.filter fun e => p e.1 e.2
  nodupKeys := t.nodupKeys.sublist List.filter_sublist

theorem lookup_retain {t : Table κ α} {p : κ → α → Bool} {a : κ} {b : α} :
    (t.retain p).lookup a = some b ↔ t.lookup a = some b ∧ p a b = true := by
  rw [← mem_entries_iff, ← mem_entries_iff]
  exact List.mem_filter

/-- A row that is present can be brought to the front. -/
theorem perm_cons_erase {t : Table κ α} {a : κ} {b : α} (h : t.lookup a = some b) :
    t.entries.Perm (⟨a, b⟩ :: (t.erase a).entries) := by
  have hn : (insert a b t).entries.Nodup := (insert a b t).nodupKeys.nodup
  refine (List.perm_ext_iff_of_nodup t.nodupKeys.nodup hn).2 fun e => ?_
  obtain ⟨x, y⟩ := e
  rw [mem_entries_iff, mem_entries_iff, lookup_insert_of]
  by_cases hx : x = a
  · subst hx; simp [h]
  · simp [hx]

/-- The only row that a filter leaves. -/
theorem of_filter_eq_singleton {t : Table κ α} {p : (Sigma fun _ : κ => α) → Bool}
    {e : Sigma fun _ : κ => α} (h : t.entries.filter p = [e]) :
    t.lookup e.1 = some e.2 ∧ p e = true ∧
      ∀ a b, t.lookup a = some b → p ⟨a, b⟩ = true → (⟨a, b⟩ : Sigma fun _ : κ => α) = e := by
  have hmem : e ∈ t.entries.filter p := by
    rw [h]
    exact List.mem_cons_self
  obtain ⟨hin, hp⟩ := List.mem_filter.1 hmem
  refine ⟨mem_entries_iff.1 hin, hp, fun a b hl hp' => ?_⟩
  have hother : (⟨a, b⟩ : Sigma fun _ : κ => α) ∈ t.entries.filter p :=
    List.mem_filter.2 ⟨mem_entries_iff.2 hl, hp'⟩
  rw [h, List.mem_singleton] at hother
  exact hother

/-- A row that a filter leaves out, before and after, does not count for it. -/
theorem filter_insert {t : Table κ α} {a : κ} {b : α} {p : (Sigma fun _ : κ => α) → Bool}
    (hnew : p ⟨a, b⟩ = false) (hold : ∀ b', t.lookup a = some b' → p ⟨a, b'⟩ = false) :
    (t.insert a b).entries.filter p = t.entries.filter p := by
  have hkerase : ∀ l : List (Sigma fun _ : κ => α), (∀ b', ⟨a, b'⟩ ∈ l → p ⟨a, b'⟩ = false) →
      (l.kerase a).filter p = l.filter p := by
    intro l
    induction l with
    | nil => intro _; rfl
    | cons e l ih =>
      intro h
      have hrest : (l.kerase a).filter p = l.filter p :=
        ih fun b' hb' => h b' (List.mem_cons_of_mem _ hb')
      by_cases hx : a = e.1
      · have hy : p e = false := by
          obtain ⟨x, y⟩ := e
          subst hx
          exact h y List.mem_cons_self
        rw [List.kerase_cons_eq hx, List.filter_cons_of_neg (by simp [hy])]
      · rw [List.kerase_cons_ne hx, List.filter_cons, List.filter_cons, hrest]
  rw [entries_insert, List.filter_cons_of_neg (by simp [hnew])]
  exact hkerase _ fun b' hb' => hold b' (mem_entries_iff.1 hb')

/-- Putting in the only row that a filter selects. -/
theorem filter_insert_only {t : Table κ α} {a : κ} {b : α} {p : (Sigma fun _ : κ => α) → Bool}
    (hnew : p ⟨a, b⟩ = true)
    (honly : ∀ e ∈ t.entries.filter p, e.1 = a) : (t.insert a b).entries.filter p = [⟨a, b⟩] := by
  have hrest : (t.erase a).entries.filter p = [] := by
    refine List.filter_eq_nil_iff.2 fun e he hp => ?_
    obtain ⟨x, y⟩ := e
    rw [mem_entries_iff, lookup_erase_of] at he
    split at he
    · cases he
    · rename_i hx
      exact hx (honly ⟨x, y⟩ (List.mem_filter.2 ⟨mem_entries_iff.2 he, hp⟩))
  rw [entries_insert, List.filter_cons_of_pos hnew]
  exact congrArg _ hrest

/-- A row that a projection leaves out can be put in. -/
theorem filterMap_insert_new {β : Type*} {t : Table κ α} {a : κ} {b : α}
    {f : (Sigma fun _ : κ => α) → Option β} (h : t.lookup a = none) (hnew : f ⟨a, b⟩ = none) :
    (t.insert a b).entries.filterMap f = t.entries.filterMap f := by
  rw [entries_insert_of_notMem (lookup_eq_none.1 h), List.filterMap_cons_none hnew]

/-- A row can be replaced by one with the same projection. -/
theorem filterMap_replace {β : Type*} {t : Table κ α} {a : κ} {b b₀ : α}
    {f : (Sigma fun _ : κ => α) → Option β} (h : t.lookup a = some b₀)
    (hsame : f ⟨a, b⟩ = f ⟨a, b₀⟩) :
    ((t.insert a b).entries.filterMap f).Perm (t.entries.filterMap f) := by
  have hperm := (perm_cons_erase h).filterMap f
  refine List.Perm.trans (List.Perm.of_eq ?_) hperm.symm
  rw [entries_insert, List.filterMap_cons, List.filterMap_cons, hsame]
  rfl

/-- A row that a projection leaves out can be taken away. -/
theorem filterMap_erase {β : Type*} {t : Table κ α} {a : κ} {b : α}
    {f : (Sigma fun _ : κ => α) → Option β} (h : t.lookup a = some b) (hold : f ⟨a, b⟩ = none) :
    ((t.erase a).entries.filterMap f).Perm (t.entries.filterMap f) := by
  have hperm := (perm_cons_erase h).filterMap f
  rw [List.filterMap_cons_none hold] at hperm
  exact hperm.symm

section Total

variable [AddCommMonoid M]

theorem total_insert (t : Table κ α) (a : κ) (b : α) (f : κ → α → M) :
    total (t.insert a b) f = f a b + total (t.erase a) f := by
  rw [total, AList.entries_insert, List.map_cons, List.sum_cons]
  rfl

theorem total_insert_new {t : Table κ α} {a : κ} (h : t.lookup a = none) (b : α) (f : κ → α → M) :
    total (t.insert a b) f = f a b + total t f := by
  rw [total, entries_insert_of_notMem (lookup_eq_none.1 h), List.map_cons, List.sum_cons, total]

theorem total_erase {t : Table κ α} {a : κ} {b : α} (h : t.lookup a = some b) (f : κ → α → M) :
    total t f = f a b + total (t.erase a) f := by
  simpa [total] using ((perm_cons_erase h).map fun e => f e.1 e.2).sum_eq

theorem total_congr {t : Table κ α} {f g : κ → α → M}
    (h : ∀ a b, t.lookup a = some b → f a b = g a b) : total t f = total t g := by
  unfold total
  congr 1
  exact List.map_congr_left fun e he => h e.1 e.2 (mem_entries_iff.1 he)

theorem total_zero {t : Table κ α} {f : κ → α → M}
    (h : ∀ a b, t.lookup a = some b → f a b = 0) : total t f = 0 := by
  have hzero : total t f = total t fun _ _ => 0 := total_congr h
  simpa [total] using hzero

/-- A total that only one row can feed is that row's value. -/
theorem total_single {t : Table κ α} (a : κ) {f : κ → α → M}
    (h : ∀ x y, t.lookup x = some y → x ≠ a → f x y = 0) :
    total t f = (t.lookup a).elim 0 (f a) := by
  cases ha : t.lookup a with
  | none =>
    refine total_zero fun x y hxy => h x y hxy ?_
    rintro rfl
    simp [ha] at hxy
  | some b =>
    have hrest : total (t.erase a) f = 0 := total_zero fun x y hxy => by
      rw [lookup_erase_of] at hxy
      split at hxy
      · cases hxy
      · exact h x y hxy (by assumption)
    rw [total_erase ha, hrest, add_zero, Option.elim_some]

end Total

theorem total_replace [AddCommGroup M] {t : Table κ α} {a : κ} {b₀ : α} (h : t.lookup a = some b₀)
    (b : α) (f : κ → α → M) : total (t.insert a b) f = total t f + (f a b - f a b₀) := by
  rw [total_insert, total_erase h]
  abel

theorem total_delete [AddCommGroup M] {t : Table κ α} {a : κ} {b : α} (h : t.lookup a = some b)
    (f : κ → α → M) : total (t.erase a) f = total t f - f a b := by
  rw [total_erase h]
  abel

end AList
