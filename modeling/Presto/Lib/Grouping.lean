import Mathlib.Data.List.Induction
import Presto.Lib.Table
import Presto.Lib.Fallible

/-!
# Rows grouped under keys

A loop that files each row under its group, where the row replaces the one with its own key
(`collect`). What a group holds at the end depends on its own rows alone (`lookup_groups`), and is the
last row of every key (`mem_latest`).
-/

namespace Grouping

variable {α κ γ : Type*} [DecidableEq κ] [DecidableEq γ] {key : α → κ} {a x : α} {l rows : List α}

/-! ## One group -/

/-- Replace the first item with the same key, or append. -/
def upsert (key : α → κ) : List α → α → List α
  | [], a => [a]
  | x :: l, a => if key x = key a then a :: l else x :: upsert key l a

theorem map_upsert (key : α → κ) (l : List α) (a : α) : (upsert key l a).map key =
    if key a ∈ l.map key then l.map key else l.map key ++ [key a] := by
  induction l with
  | nil => simp [upsert]
  | cons x l ih =>
    by_cases h : key x = key a
    · simp [upsert, h]
    · have hne : ¬ key a = key x := fun he => h he.symm
      simp only [upsert, if_neg h, List.map_cons, ih, List.mem_cons, hne, false_or]
      by_cases hmem : key a ∈ l.map key
      · simp [hmem]
      · simp [hmem]

theorem nodup_upsert (h : (l.map key).Nodup) (a : α) : ((upsert key l a).map key).Nodup := by
  rw [map_upsert]
  by_cases hmem : key a ∈ l.map key
  · rwa [if_pos hmem]
  · rw [if_neg hmem]
    exact h.append (List.nodup_singleton _) (by simpa using hmem)

theorem mem_upsert (h : (l.map key).Nodup) :
    x ∈ upsert key l a ↔ x = a ∨ (x ∈ l ∧ key x ≠ key a) := by
  induction l with
  | nil => simp [upsert]
  | cons y l ih =>
    obtain ⟨hy, hl⟩ := List.nodup_cons.1 h
    by_cases he : key y = key a
    · have hother : x ∈ l → key x ≠ key a := by
        intro hx hxa
        exact hy (List.mem_map.2 ⟨x, hx, hxa.trans he.symm⟩)
      rw [upsert, if_pos he, List.mem_cons, List.mem_cons]
      constructor
      · rintro (rfl | hx)
        · exact .inl rfl
        · exact .inr ⟨.inr hx, hother hx⟩
      · rintro (rfl | ⟨rfl | hx, hne⟩)
        · exact .inl rfl
        · exact absurd he hne
        · exact .inr hx
    · rw [upsert, if_neg he, List.mem_cons, ih hl, List.mem_cons]
      constructor
      · rintro (rfl | rfl | ⟨hx, hne⟩)
        · exact .inr ⟨.inl rfl, he⟩
        · exact .inl rfl
        · exact .inr ⟨.inr hx, hne⟩
      · rintro (rfl | ⟨rfl | hx, hne⟩)
        · exact .inr (.inl rfl)
        · exact .inl rfl
        · exact .inr (.inr ⟨hx, hne⟩)

/-- The last row of every key, in the order in which the keys came first. -/
def latest (key : α → κ) (rows : List α) : List α := rows.foldl (upsert key) []

theorem latest_append (rows : List α) (a : α) :
    latest key (rows ++ [a]) = upsert key (latest key rows) a := by
  simp [latest]

theorem nodup_latest (key : α → κ) (rows : List α) : ((latest key rows).map key).Nodup := by
  induction rows using List.reverseRecOn with
  | nil => simp [latest]
  | append_singleton rows a ih =>
    rw [latest_append]
    exact nodup_upsert ih a

theorem mem_map_latest {k : κ} : k ∈ (latest key rows).map key ↔ k ∈ rows.map key := by
  induction rows using List.reverseRecOn with
  | nil => simp [latest]
  | append_singleton rows a ih =>
    rw [latest_append, map_upsert, List.map_append, List.mem_append]
    by_cases hmem : key a ∈ (latest key rows).map key
    · rw [if_pos hmem, ih]
      constructor
      · exact .inl
      · rintro (h | h)
        · exact h
        · obtain rfl : k = key a := by simpa using h
          exact ih.1 hmem
    · rw [if_neg hmem, List.mem_append, ih]
      rfl

/-- An item is the last row of its key. -/
theorem mem_latest : x ∈ latest key rows ↔
    ∃ older newer, rows = older ++ x :: newer ∧ ∀ y ∈ newer, key y ≠ key x := by
  induction rows using List.reverseRecOn generalizing x with
  | nil => simp [latest]
  | append_singleton rows a ih =>
    rw [latest_append, mem_upsert (nodup_latest key rows), ih]
    constructor
    · rintro (rfl | ⟨⟨older, newer, rfl, hnewer⟩, hne⟩)
      · exact ⟨rows, [], rfl, by simp⟩
      · refine ⟨older, newer ++ [a], by simp, fun y hy => ?_⟩
        rcases List.mem_append.1 hy with hy | hy
        · exact hnewer y hy
        · rw [List.mem_singleton.1 hy]
          exact hne.symm
    · rintro ⟨older, newer, hrows, hnewer⟩
      rcases List.eq_nil_or_concat newer with rfl | ⟨newer, b, rfl⟩
      · obtain ⟨-, ha⟩ := List.append_inj' hrows rfl
        exact .inl (List.cons.inj ha).1.symm
      · rw [List.concat_eq_append, ← List.cons_append, ← List.append_assoc] at hrows
        obtain ⟨rfl, hb⟩ := List.append_inj' hrows rfl
        obtain rfl : a = b := (List.cons.inj hb).1
        refine .inr ⟨⟨older, newer, rfl, fun y hy => hnewer y (by simp [hy])⟩, ?_⟩
        exact (hnewer a (by simp)).symm

/-! ## The groups -/

/-- File a row under its group. -/
def collect (key : α → κ) (t : Table γ (List α)) (row : γ × α) : Table γ (List α) :=
  t.insert row.1 (upsert key ((t.lookup row.1).getD []) row.2)

def groups (key : α → κ) (rows : List (γ × α)) : Table γ (List α) :=
  rows.foldl (collect key) ∅

theorem groups_append (rows : List (γ × α)) (row : γ × α) :
    groups key (rows ++ [row]) = collect key (groups key rows) row := by
  simp [groups]

theorem mem_keys_groups {rows : List (γ × α)} {g : γ} :
    g ∈ (groups key rows).keys ↔ g ∈ rows.map Prod.fst := by
  induction rows using List.reverseRecOn with
  | nil => simp [groups]
  | append_singleton rows row ih =>
    rw [groups_append, collect, List.map_append, List.mem_append, ← ih, ← AList.mem_keys,
      ← AList.mem_keys, AList.mem_insert]
    constructor
    · rintro (rfl | h)
      · exact .inr (List.mem_singleton.2 rfl)
      · exact .inl h
    · rintro (h | h)
      · exact .inr h
      · exact .inl (List.mem_singleton.1 h)

/-- A group holds the last row of every key among its own rows. -/
theorem lookup_groups (key : α → κ) (rows : List (γ × α)) (g : γ) :
    ((groups key rows).lookup g).getD [] =
      latest key ((rows.filter fun row => row.1 = g).map Prod.snd) := by
  induction rows using List.reverseRecOn with
  | nil => simp [groups, latest]
  | append_singleton rows row ih =>
    rw [groups_append, collect, AList.lookup_insert_of, List.filter_append, List.map_append]
    by_cases h : g = row.1
    · subst h
      rw [if_pos rfl, Option.getD_some, ih]
      simp [latest]
    · have hne : ¬ row.1 = g := fun he => h he.symm
      rw [if_neg h, ih]
      simp [hne]

end Grouping
