import Mathlib.Data.List.Basic
import Mathlib.Data.List.Nodup
import Mathlib.Data.List.Sort

/-!
# Joins, orders and pages of a query

`LEFT JOIN`, `ORDER BY` and `LIMIT .. OFFSET ..` on lists of rows. A join on a key of the table keeps
the rows as they are (`leftJoin_eq_map`), an order whose keys tell the rows apart leaves one way to
list them (`eq_orderBy`), and the pages of a list follow one another (`flatMap_page`).
-/

namespace Query

variable {α β κ : Type}

/-! ## Joins -/

/-- `rows LEFT JOIN table ON on`. -/
def leftJoin (rows : List α) (table : List β) (on : α → β → Bool) : List (α × Option β) :=
  rows.flatMap fun a =>
    match table.filter (on a) with
    | [] => [(a, none)]
    | b :: bs => (b :: bs).map fun b => (a, some b)

/-- Rows that agree in a key of the table are one. -/
theorem filter_of_key {table : List β} {key : β → κ} (hkey : (table.map key).Nodup) {p : β → Bool}
    {k : κ} (hp : ∀ b ∈ table, p b = true → key b = k) : (table.filter p).length ≤ 1 := by
  induction table with
  | nil => exact Nat.zero_le 1
  | cons b table ih =>
    rw [List.map_cons, List.nodup_cons] at hkey
    have htable := ih hkey.2 fun b' hb' => hp b' (List.mem_cons_of_mem b hb')
    by_cases hb : p b = true
    · have hrest : table.filter p = [] := by
        rw [List.filter_eq_nil_iff]
        intro b' hb' hpb'
        refine hkey.1 ?_
        rw [hp b List.mem_cons_self hb, ← hp b' (List.mem_cons_of_mem b hb') hpb']
        exact List.mem_map_of_mem hb'
      rw [List.filter_cons_of_pos hb, hrest]
      exact le_rfl
    · rwa [List.filter_cons_of_neg hb]

/-- A reference to a key finds one row at most. -/
theorem filter_of_ref [DecidableEq κ] {table : List β} {key : β → κ} (hkey : (table.map key).Nodup)
    (ref : Option κ) : (table.filter fun b => some (key b) = ref).length ≤ 1 := by
  cases ref with
  | none => simp
  | some k => exact filter_of_key hkey fun b _ hb => Option.some.inj (of_decide_eq_true hb)

/-- **A join on a key** adds to every row what the key finds. -/
theorem leftJoin_eq_map {rows : List α} {table : List β} {on : α → β → Bool}
    (hone : ∀ a ∈ rows, (table.filter (on a)).length ≤ 1) :
    leftJoin rows table on = rows.map fun a => (a, table.find? (on a)) := by
  unfold leftJoin
  rw [List.map_eq_flatMap]
  refine List.flatMap_congr fun a ha => ?_
  have hlength := hone a ha
  cases hfilter : table.filter (on a) with
  | nil =>
    have hfind : table.find? (on a) = none := by
      rw [← List.head?_filter, hfilter, List.head?_nil]
    rw [hfind]
  | cons b bs =>
    rw [hfilter, List.length_cons] at hlength
    obtain rfl := List.length_eq_zero_iff.1 (Nat.le_zero.1 (Nat.le_of_succ_le_succ hlength))
    have hfind : table.find? (on a) = some b := by
      rw [← List.head?_filter, hfilter, List.head?_cons]
    rw [hfind]
    rfl

/-! ## Orders -/

section Order

variable [LinearOrder κ] {key : α → κ} {rows : List α}

/-- `ORDER BY key`. -/
def orderBy (key : α → κ) (rows : List α) : List α :=
  rows.mergeSort fun a b => decide (key a ≤ key b)

theorem orderBy_perm (key : α → κ) (rows : List α) : (orderBy key rows).Perm rows :=
  List.mergeSort_perm _ _

theorem orderBy_sorted (key : α → κ) (rows : List α) :
    (orderBy key rows).Pairwise fun a b => key a ≤ key b := by
  refine (List.pairwise_mergeSort ?_ ?_ rows).imp fun h => of_decide_eq_true h
  · intro a b c hab hbc
    exact decide_eq_true (le_trans (of_decide_eq_true hab) (of_decide_eq_true hbc))
  · intro a b
    rw [Bool.or_eq_true, decide_eq_true_iff, decide_eq_true_iff]
    exact le_total _ _

theorem orderBy_map (f : β → α) (key : α → κ) (rows : List β) :
    orderBy key (rows.map f) = (orderBy (key ∘ f) rows).map f := by
  unfold orderBy
  rw [List.map_mergeSort]
  intro a _ b _
  rfl

/-- **One order**: however a list is sorted by such keys, it is sorted this way. -/
theorem eq_orderBy (hkeys : ∀ a ∈ rows, ∀ b ∈ rows, key a = key b → a = b) {sorted : List α}
    (hperm : sorted.Perm rows) (hsorted : sorted.Pairwise fun a b => key a ≤ key b) :
    sorted = orderBy key rows := by
  refine List.Perm.eq_of_pairwise (fun a b ha hb hab hba => ?_) hsorted (orderBy_sorted key rows)
    (hperm.trans (orderBy_perm key rows).symm)
  exact hkeys a (hperm.subset ha) b ((orderBy_perm key rows).subset hb) (le_antisymm hab hba)

end Order

/-! ## Pages -/

/-- `LIMIT size OFFSET offset`. -/
def limit (size offset : Nat) (rows : List α) : List α := (rows.drop offset).take size

/-- **The pages of a list.** -/
theorem flatMap_page (size k : Nat) (rows : List α) :
    (List.range k).flatMap (fun i => limit size (i * size) rows) = rows.take (k * size) := by
  induction k with
  | zero => rw [Nat.zero_mul, List.take_zero]; rfl
  | succ k ih =>
    rw [List.range_succ, List.flatMap_append, ih, List.flatMap_singleton, Nat.succ_mul, List.take_add]
    rfl

theorem limit_nil_of_le {size offset : Nat} {rows : List α} (h : rows.length ≤ offset) :
    limit size offset rows = [] := by
  rw [limit, List.drop_of_length_le h, List.take_nil]

end Query
