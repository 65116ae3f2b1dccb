import Mathlib.Data.List.Sort

/-!
# Sorted lists and their beginnings

A property that passes down a sorted list holds of a beginning of it, and sorting commutes with taking
the elements that have it.
-/

namespace List

variable {α : Type} {r : α → α → Prop}

/-- What passes down a sorted list holds of a beginning of it. -/
theorem Pairwise.filter_append {p : α → Bool} {l : List α} (h : l.Pairwise r)
    (hdown : ∀ a b, r a b → p b = true → p a = true) :
    l.filter p ++ l.filter (fun a => !p a) = l := by
  induction l with
  | nil => rfl
  | cons a l ih =>
    obtain ⟨ha, hl⟩ := pairwise_cons.1 h
    cases hp : p a with
    | true =>
      rw [filter_cons_of_pos hp, filter_cons_of_neg (by simp [hp]), cons_append, ih hl]
    | false =>
      -- nothing that follows has the property
      have hnone : ∀ b ∈ l, p b = false := by
        intro b hb
        refine Bool.eq_false_iff.2 fun hpb => ?_
        rw [hdown a b (ha b hb) hpb] at hp
        cases hp
      rw [filter_cons_of_neg (by simp [hp]), filter_cons_of_pos (by simp [hp]),
        filter_eq_nil_iff.2 fun b hb => by simp [hnone b hb], nil_append,
        filter_eq_self.2 fun b hb => by simp [hnone b hb]]

theorem Pairwise.rel_of_mem_take_drop {l : List α} (h : l.Pairwise r) {n : Nat} {a b : α}
    (ha : a ∈ l.take n) (hb : b ∈ l.drop n) : r a b := by
  rw [← take_append_drop n l, pairwise_append] at h
  exact h.2.2 a ha b hb

/-- Behind the first `n` there are `n` in front. -/
theorem Pairwise.le_countP {l : List α} (h : l.Pairwise r) {n : Nat} {b : α} (hb : b ∈ l.drop n)
    {p : α → Bool} (hp : ∀ a, r a b → p a = true) : n ≤ l.countP p := by
  have hlt : n < l.length := by
    have := length_pos_of_mem hb
    rw [length_drop] at this
    omega
  have hall : (l.take n).countP p = n := by
    rw [countP_eq_length.2 fun a ha => hp a (h.rel_of_mem_take_drop ha hb), length_take]
    omega
  calc n = (l.take n).countP p := hall.symm
    _ ≤ l.countP p := (take_sublist n l).countP_le

/-- Sorting by a key. -/
instance totalByKey {κ : Type} [LinearOrder κ] (key : α → κ) : Std.Total fun a b => key a ≤ key b :=
  ⟨fun _ _ => le_total _ _⟩

instance transByKey {κ : Type} [LinearOrder κ] (key : α → κ) :
    IsTrans α fun a b => key a ≤ key b :=
  ⟨fun _ _ _ => le_trans⟩

variable [DecidableRel r] [Std.Total r] [IsTrans α r]

/-- Lists with the same elements, equally often, are sorted alike. -/
theorem Perm.insertionSort_eq {l l' : List α} (h : l.Perm l')
    (hanti : ∀ a ∈ l, ∀ b ∈ l, r a b → r b a → a = b) :
    l.insertionSort r = l'.insertionSort r := by
  have hperm : (l.insertionSort r).Perm (l'.insertionSort r) :=
    (perm_insertionSort r l).trans (h.trans (perm_insertionSort r l').symm)
  refine hperm.eq_of_pairwise (fun a b ha hb hab hba => ?_) (pairwise_insertionSort r l)
    (pairwise_insertionSort r l')
  exact hanti a ((mem_insertionSort r).1 ha) b (h.mem_iff.2 ((mem_insertionSort r).1 hb)) hab hba

omit [Std.Total r] in
/-- Insertion leaves the order of what it does not touch. -/
theorem Pairwise.filter_orderedInsert {l : List α} (h : l.Pairwise r) (p : α → Bool) (a : α) :
    (l.orderedInsert r a).filter p =
      if p a then (l.filter p).orderedInsert r a else l.filter p := by
  induction l with
  | nil => cases hp : p a <;> simp [hp]
  | cons b l ih =>
    obtain ⟨hb, hl⟩ := pairwise_cons.1 h
    by_cases hab : r a b
    · rw [orderedInsert_cons_of_le _ _ hab, filter_cons]
      -- what is left of the list begins behind the element
      have hfront : ∀ c ∈ (b :: l).filter p, r a c := by
        intro c hc
        rcases mem_cons.1 (mem_of_mem_filter hc) with rfl | hc
        · exact hab
        · exact IsTrans.trans _ _ _ hab (hb c hc)
      cases hrest : (b :: l).filter p with
      | nil => simp
      | cons c rest =>
        rw [orderedInsert_cons_of_le _ _ (hfront c (by simp [hrest]))]
    · rw [orderedInsert_of_not_le _ _ hab, filter_cons, filter_cons, ih hl]
      cases hpa : p a with
      | false => simp
      | true =>
        cases hpb : p b with
        | false => simp
        | true => simp [hab]

/-- **Sorting is stable**: it commutes with taking the elements that have a property. -/
theorem filter_insertionSort (p : α → Bool) (l : List α) :
    (l.insertionSort r).filter p = (l.filter p).insertionSort r := by
  induction l with
  | nil => rfl
  | cons a l ih =>
    rw [insertionSort_cons, (pairwise_insertionSort r l).filter_orderedInsert, ih, filter_cons]
    cases hp : p a <;> simp

theorem insertionSort_filter {l : List α} (p : α → Bool)
    (hanti : ∀ a ∈ l, ∀ b ∈ l, r a b → r b a → a = b) :
    (l.filter p).insertionSort r = (l.insertionSort r).filter p := by
  have hperm : ((l.filter p).insertionSort r).Perm ((l.insertionSort r).filter p) :=
    (perm_insertionSort r _).trans ((perm_insertionSort r l).filter p).symm
  refine hperm.eq_of_pairwise (fun a b ha hb hab hba => ?_) (pairwise_insertionSort r _)
    ((pairwise_insertionSort r l).filter p)
  have ha' := mem_of_mem_filter ((mem_insertionSort r).1 ha)
  have hb' := (mem_insertionSort r).1 (mem_of_mem_filter hb)
  exact hanti a ha' b hb' hab hba

end List
