import Presto.Lib.Fallible
import Mathlib.Data.List.Perm.Basic

/-!
# Loops that account for what they read

A loop lays the keys of its items down, or marks them. When every step accounts for its own item the
loop accounts for all of them: a loop that ends without marks has laid down each key once, and a key
that is not laid down is marked.
-/

/-- Where the state of a loop keeps the keys it has laid down and the keys it has marked. -/
structure Tally (σ κ : Type) where
  placed : σ → List κ
  marked : σ → List κ

namespace Tally

open scoped List

variable {ε σ α κ : Type} {t : Tally σ κ} {s s₁ s₂ : σ} {ks ls : List κ}

/-- From `s₁` to `s₂` each of the keys is laid down once or put aside with a mark. -/
def Accounts (t : Tally σ κ) (ks : List κ) (s₁ s₂ : σ) : Prop :=
  ∃ aside, (t.placed s₂ ++ aside).Perm (ks ++ t.placed s₁) ∧ aside ⊆ t.marked s₂ ∧
    t.marked s₁ ⊆ t.marked s₂

namespace Accounts

theorem refl (t : Tally σ κ) (s : σ) : t.Accounts [] s s :=
  ⟨[], by simp, List.nil_subset _, List.Subset.refl _⟩

/-- A key is laid down. -/
theorem lay {k : κ} (h : (t.placed s₂).Perm (k :: t.placed s₁)) (hmarked : t.marked s₁ ⊆ t.marked s₂) :
    t.Accounts [k] s₁ s₂ :=
  ⟨[], by simpa using h, List.nil_subset _, hmarked⟩

/-- A key is marked. -/
theorem mark {k : κ} (h : t.placed s₂ = t.placed s₁) (hk : k ∈ t.marked s₂)
    (hmarked : t.marked s₁ ⊆ t.marked s₂) : t.Accounts [k] s₁ s₂ := by
  refine ⟨[k], ?_, by simpa using hk, hmarked⟩
  rw [h]
  exact List.perm_append_comm

theorem trans (h : t.Accounts ks s s₁) (h' : t.Accounts ls s₁ s₂) :
    t.Accounts (ks ++ ls) s s₂ := by
  obtain ⟨aside, hperm, haside, hmarked⟩ := h
  obtain ⟨aside', hperm', haside', hmarked'⟩ := h'
  refine ⟨aside' ++ aside, ?_, ?_, fun k hk => hmarked' (hmarked hk)⟩
  · calc t.placed s₂ ++ (aside' ++ aside)
      _ = (t.placed s₂ ++ aside') ++ aside := (List.append_assoc _ _ _).symm
      _ ~ (ls ++ t.placed s₁) ++ aside := hperm'.append_right aside
      _ = ls ++ (t.placed s₁ ++ aside) := List.append_assoc _ _ _
      _ ~ ls ++ (ks ++ t.placed s) := hperm.append_left ls
      _ = (ls ++ ks) ++ t.placed s := (List.append_assoc _ _ _).symm
      _ ~ (ks ++ ls) ++ t.placed s := List.perm_append_comm.append_right _
  · intro k hk
    rcases List.mem_append.1 hk with hk | hk
    · exact haside' hk
    · exact hmarked' (haside hk)

/-- A loop without marks has laid down each key once. -/
theorem perm_of_unmarked (h : t.Accounts ks s₁ s₂) (hnone : t.marked s₂ = []) :
    (t.placed s₂).Perm (ks ++ t.placed s₁) := by
  obtain ⟨aside, hperm, haside, -⟩ := h
  rw [hnone, List.subset_nil] at haside
  simpa [haside] using hperm

/-- What is not laid down is marked. -/
theorem marked_of_notMem (h : t.Accounts ks s₁ s₂) {k : κ} (hk : k ∈ ks)
    (hout : k ∉ t.placed s₂) : k ∈ t.marked s₂ := by
  obtain ⟨aside, hperm, haside, -⟩ := h
  have hall := hperm.mem_iff.2 (List.mem_append_left _ hk)
  exact haside ((List.mem_append.1 hall).resolve_left hout)

end Accounts

/-- A loop accounts for the keys of the items it wants, when its steps do. -/
theorem foldlM_accounts {f : σ → α → Except ε σ} {wanted : α → Bool} {key : α → κ} {l : List α}
    (hstep : ∀ a ∈ l, ∀ s s', f s a = .ok s' →
      t.Accounts (if wanted a then [key a] else []) s s') :
    ∀ {s s' : σ}, l.foldlM f s = .ok s' → t.Accounts ((l.filter wanted).map key) s s' := by
  induction l with
  | nil =>
    intro s s' h
    rw [List.foldlM_nil, Except.pure_eq_ok] at h
    exact h ▸ Accounts.refl t s
  | cons a l ih =>
    intro s s' h
    rw [List.foldlM_cons, Except.bind_eq_ok] at h
    obtain ⟨s₁, h1, h2⟩ := h
    have hfirst := hstep a List.mem_cons_self s s₁ h1
    have hrest := ih (fun b hb => hstep b (List.mem_cons_of_mem _ hb)) h2
    have hboth := hfirst.trans hrest
    rw [List.filter_cons]
    split at hboth <;> rename_i hwanted
    · simpa [hwanted] using hboth
    · simpa [hwanted] using hboth

end Tally
