import Mathlib.Algebra.BigOperators.Group.Finset.Piecewise
import Mathlib.Algebra.BigOperators.Group.List.Basic
import Mathlib.Tactic.Abel

/-!
# Append-only difference journals

A journal never rewrites a row. A source whose effect should be `wanted` is **settled**: the
difference to what the journal already holds under its key is appended, and nothing at all when
the two agree. The balance of a key is the sum of its rows, so after a settlement it is `wanted`
however often the source changed before.
-/

namespace Journal

/-- One row: the source it books, the booked difference, and an annotation. -/
structure Entry (κ G μ : Type*) where
  key : κ
  amount : G
  note : μ
deriving DecidableEq

section

variable {κ G μ : Type*} [DecidableEq κ] [AddCommGroup G] [DecidableEq G]

/-- The sum of the rows whose key satisfies `p`. -/
def volume (j : List (Entry κ G μ)) (p : κ → Prop) [DecidablePred p] : G :=
  ((j.filter fun e => p e.key).map Entry.amount).sum

/-- The sum of the rows of one key. -/
def balance (j : List (Entry κ G μ)) (k : κ) : G := volume j (· = k)

/-- Append what is missing to make the balance of `k` equal to `wanted`. -/
def settle (j : List (Entry κ G μ)) (k : κ) (wanted : G) (note : μ) : List (Entry κ G μ) :=
  if wanted - balance j k = 0 then j else j ++ [⟨k, wanted - balance j k, note⟩]

/-- Settle several sources one after the other. -/
def settleAll (j : List (Entry κ G μ)) (ts : List (κ × G)) (note : μ) : List (Entry κ G μ) :=
  ts.foldl (fun j t => settle j t.1 t.2 note) j

omit [DecidableEq κ] [DecidableEq G] in
@[simp] theorem volume_nil (p : κ → Prop) [DecidablePred p] :
    volume ([] : List (Entry κ G μ)) p = 0 := rfl

omit [DecidableEq κ] [DecidableEq G] in
theorem volume_append (j l : List (Entry κ G μ)) (p : κ → Prop) [DecidablePred p] :
    volume (j ++ l) p = volume j p + volume l p := by
  simp [volume]

omit [DecidableEq κ] [DecidableEq G] in
theorem volume_cons (e : Entry κ G μ) (j : List (Entry κ G μ)) (p : κ → Prop) [DecidablePred p] :
    volume (e :: j) p = (if p e.key then e.amount else 0) + volume j p := by
  by_cases h : p e.key <;> simp [volume, h]

omit [DecidableEq G] in
theorem balance_append (j l : List (Entry κ G μ)) (k : κ) :
    balance (j ++ l) k = balance j k + balance l k := volume_append j l _

omit [DecidableEq G] in
theorem balance_cons (e : Entry κ G μ) (j : List (Entry κ G μ)) (k : κ) :
    balance (e :: j) k = (if e.key = k then e.amount else 0) + balance j k := volume_cons e j _

omit [DecidableEq G] in
theorem balance_eq_zero {j : List (Entry κ G μ)} {k : κ} (h : ∀ e ∈ j, e.key ≠ k) :
    balance j k = 0 := by
  have : j.filter (fun e => e.key = k) = [] := by simpa using h
  simp [balance, volume, this]

omit [DecidableEq κ] [DecidableEq G] in
theorem volume_eq_zero {j : List (Entry κ G μ)} {p : κ → Prop} [DecidablePred p]
    (h : ∀ e ∈ j, ¬ p e.key) : volume j p = 0 := by
  have : j.filter (fun e => p e.key) = [] := by simpa using h
  simp [volume, this]

/-- **Settlement.** The settled key has the wanted balance, every other key keeps its own. -/
theorem balance_settle (j : List (Entry κ G μ)) (k k' : κ) (w : G) (n : μ) :
    balance (settle j k w n) k' = if k' = k then w else balance j k' := by
  unfold settle
  by_cases h0 : w - balance j k = 0
  · rw [if_pos h0]
    split
    · subst_vars; exact (sub_eq_zero.1 h0).symm
    · rfl
  · rw [if_neg h0, balance_append, balance_cons]
    by_cases hk : k' = k
    · subst hk; simp [balance]
    · simp [hk, Ne.symm hk, balance]

/-- Settling to the balance that is already there writes nothing. -/
theorem settle_of_balance {j : List (Entry κ G μ)} {k : κ} {w : G} (h : balance j k = w) (n : μ) :
    settle j k w n = j := by
  simp [settle, h]

theorem mem_settle {j : List (Entry κ G μ)} {k : κ} {w : G} {n : μ} {e : Entry κ G μ}
    (h : e ∈ settle j k w n) : e ∈ j ∨ (e.key = k ∧ e.note = n) := by
  unfold settle at h
  split at h
  · exact .inl h
  · rcases List.mem_append.1 h with h | h
    · exact .inl h
    · rw [List.mem_singleton] at h
      subst h
      exact .inr ⟨rfl, rfl⟩

@[simp] theorem settleAll_nil (j : List (Entry κ G μ)) (n : μ) : settleAll j [] n = j := rfl

theorem settleAll_cons (j : List (Entry κ G μ)) (t : κ × G) (ts : List (κ × G)) (n : μ) :
    settleAll j (t :: ts) n = settleAll (settle j t.1 t.2 n) ts n := rfl

theorem settleAll_append (j : List (Entry κ G μ)) (ts us : List (κ × G)) (n : μ) :
    settleAll j (ts ++ us) n = settleAll (settleAll j ts n) us n := by
  simp [settleAll]

/-- A key no target names keeps its balance. -/
theorem balance_settleAll_of_notMem {k : κ} {ts : List (κ × G)} (n : μ) :
    ∀ j : List (Entry κ G μ), (∀ t ∈ ts, t.1 ≠ k) → balance (settleAll j ts n) k = balance j k := by
  induction ts with
  | nil => intro j _; rfl
  | cons t ts ih =>
    intro j h
    have ht : k ≠ t.1 := Ne.symm (h t List.mem_cons_self)
    rw [settleAll_cons, ih _ fun u hu => h u (List.mem_cons_of_mem _ hu), balance_settle, if_neg ht]

/-- When all targets of a key agree, that is its balance afterwards. -/
theorem balance_settleAll {k : κ} {w : G} {ts : List (κ × G)} (n : μ) :
    ∀ j : List (Entry κ G μ), (∃ t ∈ ts, t.1 = k) → (∀ t ∈ ts, t.1 = k → t.2 = w) →
      balance (settleAll j ts n) k = w := by
  induction ts with
  | nil => rintro j ⟨t, ht, _⟩; cases ht
  | cons t ts ih =>
    intro j hex hall
    have hrest : ∀ u ∈ ts, u.1 = k → u.2 = w := fun u hu => hall u (List.mem_cons_of_mem _ hu)
    rw [settleAll_cons]
    by_cases hlater : ∃ u ∈ ts, u.1 = k
    · exact ih _ hlater hrest
    · -- the head is the last target of `k`
      have hnot : ∀ u ∈ ts, u.1 ≠ k := fun u hu e => hlater ⟨u, hu, e⟩
      obtain ⟨u, hu, hk⟩ := hex
      rcases List.mem_cons.1 hu with rfl | hu
      · rw [balance_settleAll_of_notMem n _ hnot, balance_settle, if_pos hk.symm]
        exact hall u List.mem_cons_self hk
      · exact absurd hk (hnot u hu)

theorem mem_settleAll {ts : List (κ × G)} {n : μ} {e : Entry κ G μ} :
    ∀ {j : List (Entry κ G μ)}, e ∈ settleAll j ts n →
      e ∈ j ∨ ((∃ t ∈ ts, t.1 = e.key) ∧ e.note = n) := by
  induction ts with
  | nil => intro j h; exact .inl h
  | cons t ts ih =>
    intro j h
    rcases ih h with h | ⟨⟨u, hu, hk⟩, hn⟩
    · rcases mem_settle h with h | ⟨hk, hn⟩
      · exact .inl h
      · exact .inr ⟨⟨t, List.mem_cons_self, hk.symm⟩, hn⟩
    · exact .inr ⟨⟨u, List.mem_cons_of_mem _ hu, hk⟩, hn⟩

/-- Targets that already hold write nothing. -/
theorem settleAll_filter {p : κ → Prop} [DecidablePred p] {ts : List (κ × G)} (n : μ) :
    ∀ {j : List (Entry κ G μ)}, (∀ t ∈ ts, p t.1 → balance j t.1 = t.2) →
      (settleAll j ts n).filter (fun e => p e.key) = j.filter fun e => p e.key := by
  induction ts with
  | nil => intro j _; rfl
  | cons t ts ih =>
    intro j h
    rw [settleAll_cons]
    by_cases hp : p t.1
    · rw [settle_of_balance (h t List.mem_cons_self hp)]
      exact ih fun u hu => h u (List.mem_cons_of_mem _ hu)
    · rw [ih fun u hu hpu => ?_]
      · unfold settle
        split
        · rfl
        · simp [hp]
      · have hne : u.1 ≠ t.1 := fun he => hp (he ▸ hpu)
        rw [balance_settle, if_neg hne]
        exact h u (List.mem_cons_of_mem _ hu) hpu

omit [DecidableEq G] in
/-- A volume is the sum of the balances of the keys it covers. -/
theorem volume_eq_sum (j : List (Entry κ G μ)) (p : κ → Prop) [DecidablePred p] (S : Finset κ)
    (hS : ∀ e ∈ j, p e.key → e.key ∈ S) : volume j p = ∑ k ∈ S with p k, balance j k := by
  induction j with
  | nil => simp [balance]
  | cons e j ih =>
    have ih := ih fun e he => hS e (List.mem_cons_of_mem _ he)
    rw [volume_cons, ih]
    simp only [balance_cons, Finset.sum_add_distrib, Finset.sum_ite_eq]
    congr 1
    by_cases hp : p e.key
    · simp [hp, hS e List.mem_cons_self hp]
    · simp [hp]

omit [DecidableEq G] in
/-- The same over a list that names the keys once, keys without a balance left out. -/
theorem volume_eq_sum_map (j : List (Entry κ G μ)) (p : κ → Prop) [DecidablePred p] {ks : List κ}
    (hnodup : ks.Nodup) (hp : ∀ k ∈ ks, p k)
    (hall : ∀ e ∈ j, p e.key → e.key ∉ ks → balance j e.key = 0) :
    volume j p = (ks.map (balance j)).sum := by
  have hsub : ks.toFinset ⊆ (ks.toFinset ∪ (j.map Entry.key).toFinset).filter p := by
    intro k hk
    simp only [Finset.mem_filter, Finset.mem_union]
    exact ⟨.inl hk, hp k (List.mem_toFinset.1 hk)⟩
  rw [volume_eq_sum j p (ks.toFinset ∪ (j.map Entry.key).toFinset) fun e he _ =>
    Finset.mem_union_right _ (List.mem_toFinset.2 (List.mem_map_of_mem he)),
    ← List.sum_toFinset _ hnodup]
  refine (Finset.sum_subset hsub fun k hk hout => ?_).symm
  obtain ⟨hk, hpk⟩ := Finset.mem_filter.1 hk
  have hout : k ∉ ks := fun h => hout (List.mem_toFinset.2 h)
  rcases Finset.mem_union.1 hk with hk | hk
  · exact absurd (List.mem_toFinset.1 hk) hout
  · obtain ⟨e, he, rfl⟩ := List.mem_map.1 (List.mem_toFinset.1 hk)
    exact hall e he hpk hout

omit [DecidableEq κ] [DecidableEq G] in
theorem volume_iff {j : List (Entry κ G μ)} {p q : κ → Prop} [DecidablePred p] [DecidablePred q]
    (h : ∀ e ∈ j, p e.key ↔ q e.key) : volume j p = volume j q := by
  unfold volume
  rw [List.filter_congr fun e he => decide_eq_decide.2 (h e he)]

omit [DecidableEq κ] [DecidableEq G] in
/-- A volume split in two. -/
theorem volume_split (j : List (Entry κ G μ)) (p q : κ → Prop) [DecidablePred p] [DecidablePred q] :
    volume j p = volume j (fun s => p s ∧ q s) + volume j fun s => p s ∧ ¬ q s := by
  induction j with
  | nil => simp
  | cons e j ih =>
    simp only [volume_cons, ih]
    by_cases hp : p e.key <;> by_cases hq : q e.key <;> simp [hp, hq] <;> abel

omit [DecidableEq κ] [DecidableEq G] in
/-- A volume split into classes, each named once. -/
theorem volume_eq_sum_classes {γ : Type*} [DecidableEq γ] (j : List (Entry κ G μ)) (p : κ → Prop)
    [DecidablePred p] (f : κ → γ) {ks : List γ} (hnodup : ks.Nodup)
    (hall : ∀ e ∈ j, p e.key → f e.key ∈ ks) :
    volume j p = (ks.map fun k => volume j fun s => p s ∧ f s = k).sum := by
  induction j with
  | nil => simp
  | cons e j ih =>
    have hrest := ih fun x hx => hall x (List.mem_cons_of_mem _ hx)
    have hhead : (ks.map fun k => if p e.key ∧ f e.key = k then e.amount else 0).sum =
        if p e.key then e.amount else 0 := by
      by_cases hp : p e.key
      · have hmem : f e.key ∈ ks := hall e List.mem_cons_self hp
        have hone := List.sum_map_ite_eq ks (fun _ => e.amount) (fun _ => 0) (f e.key)
        simp only [hp, true_and, if_true, eq_comm (a := f e.key)]
        rw [hone, List.count_eq_one_of_mem hnodup hmem, one_nsmul]
        simp
      · simp [hp]
    simp only [volume_cons, List.sum_map_add]
    rw [hhead, ← hrest]

omit [DecidableEq G] in
end

end Journal
