import Mathlib.Data.List.Induction
import Mathlib.Order.Bounds.Basic
import Mathlib.Order.MinMax

/-!
# Optimal string alignment

An alignment of two lists is a sequence of edits that leads from one to the other and touches each
place once. Its last edit is one of five (`Edits.concat_inv`), so the least cost for two lists is
found from the least costs for the lists without their last one or two elements (`isLeast_concat`).
-/

/-- One edit, by the part it replaces, the part it puts there and its cost. -/
inductive Edit {α : Type*} : List α → List α → Nat → Prop
  | keep (a : α) : Edit [a] [a] 0
  | substitute (a b : α) : Edit [a] [b] 1
  | delete (a : α) : Edit [a] [] 1
  | insert (b : α) : Edit [] [b] 1
  | transpose (a b : α) : Edit [a, b] [b, a] 1

/-- Edits of consecutive parts, with the sum of their costs. -/
inductive Edits {α : Type*} : List α → List α → Nat → Prop
  | nil : Edits [] [] 0
  | concat {xs ys us vs : List α} {m n : Nat} (edits : Edits xs ys m) (edit : Edit us vs n) :
    Edits (xs ++ us) (ys ++ vs) (m + n)

variable {α : Type*} {xs ys us vs : List α} {x y : α} {m n : Nat}

theorem Edit.symm (h : Edit us vs n) : Edit vs us n := by
  cases h with
  | keep a => exact .keep a
  | substitute a b => exact .substitute b a
  | delete a => exact .insert a
  | insert b => exact .delete b
  | transpose a b => exact .transpose b a

namespace Edits

theorem symm (h : Edits xs ys n) : Edits ys xs n := by
  induction h with
  | nil => exact .nil
  | concat _ edit ih => exact .concat ih edit.symm

theorem keep (h : Edits xs ys n) (x : α) : Edits (xs ++ [x]) (ys ++ [x]) n :=
  h.concat (.keep x)

theorem substitute (h : Edits xs ys n) (x y : α) : Edits (xs ++ [x]) (ys ++ [y]) (n + 1) :=
  h.concat (.substitute x y)

theorem delete (h : Edits xs ys n) (x : α) : Edits (xs ++ [x]) ys (n + 1) := by
  have := h.concat (.delete x)
  rwa [List.append_nil] at this

theorem insert (h : Edits xs ys n) (y : α) : Edits xs (ys ++ [y]) (n + 1) :=
  (h.symm.delete y).symm

theorem transpose (h : Edits xs ys n) (x y : α) :
    Edits (xs ++ [y] ++ [x]) (ys ++ [x] ++ [y]) (n + 1) := by
  have := h.concat (.transpose y x)
  rwa [← List.append_cons, ← List.append_cons]

theorem refl (xs : List α) : Edits xs xs 0 := by
  induction xs using List.reverseRecOn with
  | nil => exact .nil
  | append_singleton xs x ih => exact ih.keep x

/-- Only what is kept costs nothing. -/
theorem eq_of_zero (h : Edits xs ys n) (hn : n = 0) : xs = ys := by
  induction h with
  | nil => rfl
  | concat _ edit ih =>
    obtain ⟨hm, hedit⟩ := Nat.add_eq_zero_iff.1 hn
    rw [ih hm]
    cases edit with
    | keep => rfl
    | _ => cases hedit

theorem nil_left (h : Edits xs ys n) (hx : xs = []) : n = ys.length := by
  induction h with
  | nil => rfl
  | concat _ edit ih =>
    obtain ⟨hxs, hus⟩ := List.append_eq_nil_iff.1 hx
    cases edit with
    | insert b => rw [ih hxs, List.length_append, List.length_singleton]
    | _ => cases hus

theorem of_nil_left (ys : List α) : Edits [] ys ys.length := by
  induction ys using List.reverseRecOn with
  | nil => exact .nil
  | append_singleton ys y ih =>
    rw [List.length_append, List.length_singleton]
    exact ih.insert y

/-- **The last edit** of an alignment of two lists that are not empty. -/
theorem concat_inv (h : Edits (xs ++ [x]) (ys ++ [y]) n) :
    (x = y ∧ Edits xs ys n) ∨
    (∃ m, n = m + 1 ∧ (Edits xs ys m ∨ Edits xs (ys ++ [y]) m ∨ Edits (xs ++ [x]) ys m ∨
      ∃ xs' ys', xs = xs' ++ [y] ∧ ys = ys' ++ [x] ∧ Edits xs' ys' m)) := by
  generalize hl : xs ++ [x] = l at h
  generalize hr : ys ++ [y] = r at h
  cases h with
  | nil => exact absurd hl (by simp)
  | @concat as bs us vs m k edits edit =>
    cases edit with
    | keep a =>
      obtain ⟨rfl, hx⟩ := List.append_inj' hl rfl
      obtain ⟨rfl, hy⟩ := List.append_inj' hr rfl
      cases hx
      cases hy
      exact .inl ⟨rfl, edits⟩
    | substitute a b =>
      obtain ⟨rfl, -⟩ := List.append_inj' hl rfl
      obtain ⟨rfl, -⟩ := List.append_inj' hr rfl
      exact .inr ⟨m, rfl, .inl edits⟩
    | delete a =>
      obtain ⟨rfl, -⟩ := List.append_inj' hl rfl
      rw [List.append_nil] at hr ⊢
      exact .inr ⟨m, rfl, .inr (.inl (hr ▸ edits))⟩
    | insert b =>
      obtain ⟨rfl, -⟩ := List.append_inj' hr rfl
      rw [List.append_nil] at hl ⊢
      exact .inr ⟨m, rfl, .inr (.inr (.inl (hl ▸ edits)))⟩
    | transpose a b =>
      rw [List.append_cons as] at hl
      rw [List.append_cons bs] at hr
      obtain ⟨rfl, hx⟩ := List.append_inj' hl rfl
      obtain ⟨rfl, hy⟩ := List.append_inj' hr rfl
      cases hx
      cases hy
      exact .inr ⟨m, rfl, .inr (.inr (.inr ⟨as, bs, rfl, rfl, edits⟩))⟩

end Edits

/-- The least cost of aligning two lists. -/
def OptimalAlignment (xs ys : List α) (d : Nat) : Prop := IsLeast {n | Edits xs ys n} d

namespace OptimalAlignment

variable {d d₀ d₁ d₂ d₃ : Nat}

theorem unique (h : OptimalAlignment xs ys m) (h' : OptimalAlignment xs ys n) : m = n :=
  IsLeast.unique h h'

theorem symm (h : OptimalAlignment xs ys d) : OptimalAlignment ys xs d :=
  ⟨Edits.symm h.1, fun _ hn => h.2 (Edits.symm hn)⟩

theorem eq_zero_iff (h : OptimalAlignment xs ys d) : d = 0 ↔ xs = ys := by
  constructor
  · exact Edits.eq_of_zero h.1
  · rintro rfl
    exact Nat.le_zero.1 (h.2 (Edits.refl xs))

theorem nil_left (ys : List α) : OptimalAlignment [] ys ys.length :=
  ⟨.of_nil_left ys, fun _ hn => (Edits.nil_left hn rfl).ge⟩

theorem nil_right (xs : List α) : OptimalAlignment xs [] xs.length := (nil_left xs).symm

variable [DecidableEq α]

/-- The cost for two lists from the costs without the last elements, when these do not swap. -/
theorem concat (h₀ : OptimalAlignment xs ys d₀) (h₁ : OptimalAlignment xs (ys ++ [y]) d₁)
    (h₂ : OptimalAlignment (xs ++ [x]) ys d₂)
    (hswap : ∀ xs' ys', xs = xs' ++ [y] → ys ≠ ys' ++ [x]) :
    OptimalAlignment (xs ++ [x]) (ys ++ [y])
      (min (min (d₂ + 1) (d₁ + 1)) (d₀ + if x = y then 0 else 1)) := by
  constructor
  · rcases min_choice (min (d₂ + 1) (d₁ + 1)) (d₀ + if x = y then 0 else 1) with h | h <;> rw [h]
    · rcases min_choice (d₂ + 1) (d₁ + 1) with h | h <;> rw [h]
      · exact Edits.insert h₂.1 y
      · exact Edits.delete h₁.1 x
    · by_cases hxy : x = y
      · subst hxy
        rw [if_pos rfl]
        exact Edits.keep h₀.1 x
      · rw [if_neg hxy]
        exact Edits.substitute h₀.1 x y
  · intro n hn
    rcases Edits.concat_inv hn with ⟨hxy, hn⟩ | ⟨m, rfl, hm | hm | hm | ⟨xs', ys', hxs, hys, -⟩⟩
    · have := h₀.2 hn
      rw [if_pos hxy]
      omega
    · have := h₀.2 hm
      split <;> omega
    · have := h₁.2 hm
      omega
    · have := h₂.2 hm
      omega
    · exact absurd hys (hswap xs' ys' hxs)

/-- The same when they do. -/
theorem concat_swap (h₀ : OptimalAlignment (xs ++ [y]) (ys ++ [x]) d₀)
    (h₁ : OptimalAlignment (xs ++ [y]) (ys ++ [x] ++ [y]) d₁)
    (h₂ : OptimalAlignment (xs ++ [y] ++ [x]) (ys ++ [x]) d₂) (h₃ : OptimalAlignment xs ys d₃) :
    OptimalAlignment (xs ++ [y] ++ [x]) (ys ++ [x] ++ [y])
      (min (min (min (d₂ + 1) (d₁ + 1)) (d₀ + if x = y then 0 else 1)) (d₃ + 1)) := by
  constructor
  · rcases min_choice (min (min (d₂ + 1) (d₁ + 1)) (d₀ + if x = y then 0 else 1)) (d₃ + 1)
      with h | h <;> rw [h]
    · rcases min_choice (min (d₂ + 1) (d₁ + 1)) (d₀ + if x = y then 0 else 1) with h | h <;> rw [h]
      · rcases min_choice (d₂ + 1) (d₁ + 1) with h | h <;> rw [h]
        · exact Edits.insert h₂.1 y
        · exact Edits.delete h₁.1 x
      · by_cases hxy : x = y
        · subst hxy
          rw [if_pos rfl]
          exact Edits.keep h₀.1 x
        · rw [if_neg hxy]
          exact Edits.substitute h₀.1 x y
    · exact Edits.transpose h₃.1 x y
  · intro n hn
    rcases Edits.concat_inv hn with ⟨hxy, hn⟩ | ⟨m, rfl, hm | hm | hm | ⟨xs', ys', hxs, hys, hm⟩⟩
    · have := h₀.2 hn
      rw [if_pos hxy]
      omega
    · have := h₀.2 hm
      split <;> omega
    · have := h₁.2 hm
      omega
    · have := h₂.2 hm
      omega
    · obtain ⟨rfl, -⟩ := List.append_inj' hxs rfl
      obtain ⟨rfl, -⟩ := List.append_inj' hys rfl
      have := h₃.2 hm
      omega

end OptimalAlignment
