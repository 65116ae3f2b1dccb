import Mathlib.Data.List.GetD
import Presto.Lib.Alignment

/-!
# The description matcher's `editDistance` (`core/DescriptionSuggestions.kt:60-76`)

| source               | model          |
|----------------------|----------------|
| body of the `i` loop | `nextRow`      |
| `editDistance`       | `editDistance` |

A Kotlin string is a list of UTF-16 units, of which only the equality matters here. Before round `i`
the row `previous` holds the distances from the first `i` units of `a` to the prefixes of `b`, and
`beforePrevious` those from the first `i - 1` (`rows_spec`). At first both are one array; the second
one is not read before `i = 1`, and no row is written once the next one is begun.
-/

namespace Entry

variable {α : Type} [DecidableEq α]

/-- One turn of the inner loop: it fills in `current[j + 1]`. -/
def fillCell (a b : List α) (i : Nat) (previous beforePrevious : List Nat) (current : List Nat)
    (j : Nat) : List Nat :=
  let cell := min (min (current.getD j 0 + 1) (previous.getD (j + 1) 0 + 1))
    (previous.getD j 0 + if a[i]? = b[j]? then 0 else 1)
  current.set (j + 1)
    (if 0 < i ∧ 0 < j ∧ a[i]? = b[j - 1]? ∧ a[i - 1]? = b[j]? then
      min cell (beforePrevious.getD (j - 1) 0 + 1)
    else cell)

def nextRow (a b : List α) (i : Nat) (previous beforePrevious : List Nat) : List Nat :=
  (List.range b.length).foldl (fillCell a b i previous beforePrevious)
    ((List.replicate (b.length + 1) 0).set 0 (i + 1))

def editDistance (a b : List α) : Nat :=
  let rows := (List.range a.length).foldl (fun rows i => (nextRow a b i rows.1 rows.2, rows.1))
    (List.range (b.length + 1), List.range (b.length + 1))
  rows.1.getD b.length 0

example : editDistance "ca".toList "abc".toList = 3 := by decide

/-! ## Rows are distances of prefixes -/

/-- An invariant of a loop over `0 until n`. -/
theorem foldl_range_induct {β : Type} {f : β → Nat → β} {I : Nat → β → Prop} {s : β} (start : I 0 s)
    {n : Nat} (turn : ∀ i < n, ∀ s, I i s → I (i + 1) (f s i)) : I n ((List.range n).foldl f s) := by
  induction n with
  | zero => exact start
  | succ n ih =>
    rw [List.range_succ, List.foldl_append, List.foldl_cons, List.foldl_nil]
    exact turn n (Nat.lt_succ_self n) _ (ih fun i hi => turn i (Nat.lt_succ_of_lt hi))

/-- The row has the distances from a list to the prefixes of `b` of at most `k` units. -/
structure RowOf (xs b : List α) (k : Nat) (row : List Nat) : Prop where
  length : row.length = b.length + 1
  cell : ∀ j ≤ k, OptimalAlignment xs (b.take j) (row.getD j 0)

variable {a b : List α}

omit [DecidableEq α] in
theorem rowOf_nil (b : List α) : RowOf [] b b.length (List.range (b.length + 1)) where
  length := List.length_range
  cell j hj := by
    have hcell : (List.range (b.length + 1)).getD j 0 = (b.take j).length := by
      rw [List.getD_eq_getElem _ _ (by rw [List.length_range]; omega), List.getElem_range,
        List.length_take, Nat.min_eq_left hj]
    rw [hcell]
    exact .nil_left _

omit [DecidableEq α] in
theorem rowOf_start {i : Nat} (hi : i < a.length) (b : List α) :
    RowOf (a.take (i + 1)) b 0 ((List.replicate (b.length + 1) 0).set 0 (i + 1)) where
  length := by rw [List.length_set, List.length_replicate]
  cell j hj := by
    obtain rfl := Nat.le_zero.1 hj
    have hcell : ((List.replicate (b.length + 1) 0).set 0 (i + 1)).getD 0 0
        = (a.take (i + 1)).length := by
      rw [List.getD_eq_getElem _ _ (by simp), List.getElem_set_self, List.length_take,
        Nat.min_eq_left hi]
    rw [hcell, List.take_zero]
    exact .nil_right _

/-- The rows above the one that is filled in. -/
structure RowsAbove (a b : List α) (i : Nat) (previous beforePrevious : List Nat) : Prop where
  previous : RowOf (a.take i) b b.length previous
  beforePrevious : 0 < i → RowOf (a.take (i - 1)) b b.length beforePrevious

omit [DecidableEq α] in
theorem getElem?_eq_iff {k l : List α} {i j : Nat} (hi : i < k.length) (hj : j < l.length) :
    k[i]? = l[j]? ↔ k[i] = l[j] := by
  rw [List.getElem?_eq_getElem hi, List.getElem?_eq_getElem hj, Option.some.injEq]

omit [DecidableEq α] in
/-- The last unit of a prefix is the one before its end. -/
theorem take_eq_concat {l xs : List α} {i : Nat} {x : α} (hi : i < l.length)
    (h : l.take i = xs ++ [x]) : ∃ k, i = k + 1 ∧ l[k]? = some x := by
  cases i with
  | zero => exact absurd h (by simp)
  | succ k =>
    rw [List.take_succ_eq_append_getElem (Nat.lt_of_succ_lt hi)] at h
    obtain ⟨-, hx⟩ := List.append_inj' h rfl
    refine ⟨k, rfl, ?_⟩
    rw [List.getElem?_eq_getElem (Nat.lt_of_succ_lt hi), (List.cons.inj hx).1]

theorem fillCell_spec {i j : Nat} {previous beforePrevious current : List Nat} (hi : i < a.length)
    (hj : j < b.length) (habove : RowsAbove a b i previous beforePrevious)
    (h : RowOf (a.take (i + 1)) b j current) :
    RowOf (a.take (i + 1)) b (j + 1) (fillCell a b i previous beforePrevious current j) := by
  have h₀ := habove.previous.cell j hj.le
  have h₁ := habove.previous.cell (j + 1) hj
  have h₂ := h.cell j le_rfl
  refine ⟨by rw [fillCell, List.length_set, h.length], fun k hk => ?_⟩
  rcases Nat.lt_or_ge k (j + 1) with hlt | hge
  · -- an earlier cell
    rw [fillCell, List.getD_eq_getElem?_getD, List.getElem?_set_ne (by omega),
      ← List.getD_eq_getElem?_getD]
    exact h.cell k (by omega)
  · obtain rfl : k = j + 1 := by omega
    rw [fillCell, List.getD_eq_getElem?_getD,
      List.getElem?_set_self (by rw [h.length]; omega), Option.getD_some]
    rw [List.take_succ_eq_append_getElem hj] at h₁ ⊢
    rw [List.take_succ_eq_append_getElem hi] at h₂ ⊢
    simp only [getElem?_eq_iff hi hj]
    by_cases hswap : 0 < i ∧ 0 < j ∧ a[i]? = b[j - 1]? ∧ a[i - 1]? = b[j]?
    · rw [if_pos hswap]
      obtain ⟨hi0, hj0, hab, hba⟩ := hswap
      obtain ⟨i, rfl⟩ : ∃ k, i = k + 1 := ⟨i - 1, by omega⟩
      obtain ⟨j, rfl⟩ : ∃ k, j = k + 1 := ⟨j - 1, by omega⟩
      have h₃ : OptimalAlignment (a.take i) (b.take j) (beforePrevious.getD j 0) :=
        (habove.beforePrevious hi0).cell j (by omega)
      have hab' : b[j] = a[i + 1] := ((getElem?_eq_iff hi (Nat.lt_of_succ_lt hj)).1 hab).symm
      have hba' : a[i] = b[j + 1] := (getElem?_eq_iff (Nat.lt_of_succ_lt hi) hj).1 hba
      have ha : a.take (i + 1) = a.take i ++ [b[j + 1]] := by
        rw [List.take_succ_eq_append_getElem (Nat.lt_of_succ_lt hi), hba']
      have hb : b.take (j + 1) = b.take j ++ [a[i + 1]] := by
        rw [List.take_succ_eq_append_getElem (Nat.lt_of_succ_lt hj), hab']
      rw [ha, hb] at h₀ h₁ h₂ ⊢
      exact h₀.concat_swap h₁ h₂ h₃
    · rw [if_neg hswap]
      refine h₀.concat h₁ h₂ fun xs' ys' hxs hys => hswap ?_
      obtain ⟨i, rfl, hai⟩ := take_eq_concat hi hxs
      obtain ⟨j, rfl, hbj⟩ := take_eq_concat hj hys
      refine ⟨Nat.succ_pos i, Nat.succ_pos j, ?_, ?_⟩
      · rw [List.getElem?_eq_getElem hi]
        exact hbj.symm
      · rw [List.getElem?_eq_getElem hj]
        exact hai

theorem nextRow_spec {i : Nat} {previous beforePrevious : List Nat} (hi : i < a.length)
    (habove : RowsAbove a b i previous beforePrevious) :
    RowOf (a.take (i + 1)) b b.length (nextRow a b i previous beforePrevious) :=
  foldl_range_induct (I := RowOf (a.take (i + 1)) b) (rowOf_start hi b)
    fun _ hj _ h => fillCell_spec hi hj habove h

theorem rows_spec (a b : List α) :
    let rows := (List.range a.length).foldl (fun rows i => (nextRow a b i rows.1 rows.2, rows.1))
      (List.range (b.length + 1), List.range (b.length + 1))
    RowsAbove a b a.length rows.1 rows.2 := by
  refine foldl_range_induct (I := fun i (rows : List Nat × List Nat) => RowsAbove a b i rows.1 rows.2)
    ⟨?_, fun h => absurd h (Nat.lt_irrefl 0)⟩ fun i hi rows h => ?_
  · rw [List.take_zero]
    exact rowOf_nil b
  exact ⟨nextRow_spec hi h, fun _ => h.previous⟩

/-- **The matcher's distance** is the least cost of an alignment. -/
theorem editDistance_optimal (a b : List α) :
    OptimalAlignment a b (editDistance a b) ∧ editDistance a b = editDistance b a ∧
      (editDistance a b = 0 ↔ a = b) := by
  have key : ∀ a b : List α, OptimalAlignment a b (editDistance a b) := by
    intro a b
    have h := (rows_spec a b).previous.cell b.length le_rfl
    rwa [List.take_length, List.take_length] at h
  exact ⟨key a b, (key a b).unique (key b a).symm, (key a b).eq_zero_iff⟩

end Entry
