import Mathlib.Data.List.Forall2

/-!
# Fallible programs

Inversion of programs in `Except`: a sequence that succeeds is a chain of steps that succeed, a
guard that succeeds is a condition that holds, and what every step of a loop preserves the loop
preserves. A map that succeeds relates its elements to its results.
-/

namespace List.Forall₂

variable {α β γ : Type*} {R : α → β → Prop} {S : β → γ → Prop}

theorem exists_left {l : List α} {m : List β} (h : Forall₂ R l m) {b : β} (hb : b ∈ m) :
    ∃ a ∈ l, R a b := by
  induction h with
  | nil => cases hb
  | cons hab _ ih =>
    rcases List.mem_cons.1 hb with rfl | hb
    · exact ⟨_, List.mem_cons_self, hab⟩
    · obtain ⟨a, ha, hr⟩ := ih hb
      exact ⟨a, List.mem_cons_of_mem _ ha, hr⟩

theorem exists_right {l : List α} {m : List β} (h : Forall₂ R l m) {a : α} (ha : a ∈ l) :
    ∃ b ∈ m, R a b := by
  induction h with
  | nil => cases ha
  | cons hab _ ih =>
    rcases List.mem_cons.1 ha with rfl | ha
    · exact ⟨_, List.mem_cons_self, hab⟩
    · obtain ⟨b, hb, hr⟩ := ih ha
      exact ⟨b, List.mem_cons_of_mem _ hb, hr⟩

theorem comp {T : α → γ → Prop} (hT : ∀ a b c, R a b → S b c → T a c) :
    ∀ {l : List α} {m : List β} {n : List γ}, Forall₂ R l m → Forall₂ S m n → Forall₂ T l n
  | _, _, _, .nil, .nil => .nil
  | _, _, _, .cons h hs, .cons k ks => .cons (hT _ _ _ h k) (comp hT hs ks)

theorem append_left {xs ys : List α} : ∀ {l : List β}, Forall₂ R (xs ++ ys) l →
    ∃ l₁ l₂, l = l₁ ++ l₂ ∧ Forall₂ R xs l₁ ∧ Forall₂ R ys l₂ := by
  induction xs with
  | nil => exact fun h => ⟨[], _, rfl, .nil, h⟩
  | cons x xs ih =>
    intro l h
    cases h with
    | cons hx hrest =>
      obtain ⟨l₁, l₂, rfl, h₁, h₂⟩ := ih hrest
      exact ⟨_ :: l₁, l₂, rfl, .cons hx h₁, h₂⟩

end List.Forall₂

namespace Except

universe u

variable {ε : Type} {α β σ : Type u}

theorem bind_eq_ok {x : Except ε α} {f : α → Except ε β} {b : β} :
    (x >>= f) = .ok b ↔ ∃ a, x = .ok a ∧ f a = .ok b := by
  cases x <;> simp [bind, Except.bind]

theorem pure_eq_ok {a b : α} : (pure a : Except ε α) = .ok b ↔ a = b := by
  simp [pure, Except.pure]

theorem map_eq_ok {x : Except ε α} {f : α → β} {b : β} :
    x.map f = .ok b ↔ ∃ a, x = .ok a ∧ f a = b := by
  cases x <;> simp [Except.map]

theorem mapError_eq_ok {ε' : Type} {x : Except ε α} {g : ε → ε'} {a : α} :
    x.mapError g = .ok a ↔ x = .ok a := by
  cases x <;> simp [Except.mapError]

/-- Stop with `e` unless `p` holds. -/
def ensure (p : Prop) [Decidable p] (e : ε) : Except ε PUnit.{u + 1} :=
  if p then .ok ⟨⟩ else .error e

theorem ensure_eq_ok {p : Prop} [Decidable p] {e : ε} {x : PUnit.{u + 1}} :
    ensure p e = .ok x ↔ p := by
  unfold ensure
  split <;> simp_all

/-- Stop with `e` when the value is missing. -/
def fromOption (o : Option α) (e : ε) : Except ε α :=
  match o with
  | some a => .ok a
  | none => .error e

theorem fromOption_eq_ok {o : Option α} {e : ε} {a : α} : fromOption o e = .ok a ↔ o = some a := by
  cases o <;> simp [fromOption]

theorem ite_error_eq_ok {p : Prop} [Decidable p] {e : ε} {x : Except ε α} {a : α} :
    (if p then .error e else x) = .ok a ↔ ¬ p ∧ x = .ok a := by
  split <;> simp_all

/-- What every successful step of a loop preserves, the loop preserves. -/
theorem foldlM_induction {f : σ → β → Except ε σ} (P : σ → Prop) {l : List β} :
    ∀ {s s' : σ}, l.foldlM f s = .ok s' → P s →
      (∀ a ∈ l, ∀ s s', P s → f s a = .ok s' → P s') → P s' := by
  induction l with
  | nil =>
    intro s s' h hs _
    rw [List.foldlM_nil, pure_eq_ok] at h
    exact h ▸ hs
  | cons a l ih =>
    intro s s' h hs hstep
    rw [List.foldlM_cons, bind_eq_ok] at h
    obtain ⟨s₁, h1, h2⟩ := h
    exact ih h2 (hstep a List.mem_cons_self s s₁ hs h1)
      fun b hb => hstep b (List.mem_cons_of_mem _ hb)

/-- A loop whose steps never fail succeeds. -/
theorem exists_foldlM_ok {f : σ → β → Except ε σ} {l : List β}
    (h : ∀ a ∈ l, ∀ s, ∃ s', f s a = .ok s') (s : σ) : ∃ s', l.foldlM f s = .ok s' := by
  induction l generalizing s with
  | nil => exact ⟨s, rfl⟩
  | cons a l ih =>
    obtain ⟨s₁, h1⟩ := h a List.mem_cons_self s
    obtain ⟨s', h2⟩ := ih (fun b hb => h b (List.mem_cons_of_mem _ hb)) s₁
    refine ⟨s', ?_⟩
    rw [List.foldlM_cons, h1]
    exact h2

/-- Every step of a loop that succeeds has succeeded. -/
theorem exists_step_of_foldlM {f : σ → β → Except ε σ} {l : List β} :
    ∀ {s s' : σ}, l.foldlM f s = .ok s' → ∀ a ∈ l, ∃ s₁ s₂, f s₁ a = .ok s₂ := by
  induction l with
  | nil => intro s s' _ a ha; cases ha
  | cons x l ih =>
    intro s s' h a ha
    rw [List.foldlM_cons, bind_eq_ok] at h
    obtain ⟨s₁, h1, h2⟩ := h
    rcases List.mem_cons.1 ha with rfl | ha
    · exact ⟨s, s₁, h1⟩
    · exact ih h2 a ha

theorem mapM_eq_ok {f : α → Except ε β} {l : List α} :
    ∀ {r : List β}, l.mapM f = .ok r → List.Forall₂ (fun a b => f a = .ok b) l r := by
  induction l with
  | nil =>
    intro r h
    rw [List.mapM_nil, pure_eq_ok] at h
    exact h ▸ .nil
  | cons a l ih =>
    intro r h
    simp only [List.mapM_cons, bind_eq_ok, pure_eq_ok] at h
    obtain ⟨b, hb, bs, hbs, rfl⟩ := h
    exact .cons hb (ih hbs)

theorem mapM_of_forall₂ {f : α → Except ε β} {l : List α} {r : List β}
    (h : List.Forall₂ (fun a b => f a = .ok b) l r) : l.mapM f = .ok r := by
  induction h with
  | nil => rfl
  | cons hb _ ih =>
    simp only [List.mapM_cons, bind_eq_ok, pure_eq_ok]
    exact ⟨_, hb, _, ih, rfl⟩

/-- A loop that computes a value and then files it computes all of them and then files them. -/
theorem foldlM_bind_pure_eq_ok {f : α → Except ε β} {g : σ → β → σ} {l : List α} :
    ∀ {s t : σ}, l.foldlM (fun s a => do let b ← f a; return g s b) s = .ok t ↔
      ∃ bs, l.mapM f = .ok bs ∧ bs.foldl g s = t := by
  induction l with
  | nil =>
    intro s t
    simp [pure_eq_ok]
  | cons a l ih =>
    intro s t
    simp only [List.foldlM_cons, List.mapM_cons, bind_eq_ok, pure_eq_ok]
    constructor
    · rintro ⟨s₁, ⟨b, hb, rfl⟩, h⟩
      obtain ⟨bs, hbs, rfl⟩ := ih.1 h
      exact ⟨b :: bs, ⟨b, hb, bs, hbs, rfl⟩, rfl⟩
    · rintro ⟨_, ⟨b, hb, bs, hbs, rfl⟩, rfl⟩
      exact ⟨g s b, ⟨b, hb, rfl⟩, ih.2 ⟨bs, hbs, rfl⟩⟩

/-- A map over the elements with a property that the values show gives the values that show it. -/
theorem mapM_filter {f : α → Except ε β} {p : α → Bool} {q : β → Bool} {l : List α}
    (hpq : ∀ a ∈ l, ∀ b, f a = .ok b → p a = q b) :
    ∀ {r : List β}, l.mapM f = .ok r → (l.filter p).mapM f = .ok (r.filter q) := by
  induction l with
  | nil =>
    intro r h
    rw [List.mapM_nil, pure_eq_ok] at h
    subst h
    rfl
  | cons a l ih =>
    intro r h
    simp only [List.mapM_cons, bind_eq_ok, pure_eq_ok] at h
    obtain ⟨b, hb, bs, hbs, rfl⟩ := h
    have hrest := ih (fun c hc => hpq c (List.mem_cons_of_mem _ hc)) hbs
    rw [List.filter_cons, List.filter_cons, hpq a List.mem_cons_self b hb]
    cases q b with
    | false => exact hrest
    | true => simp [List.mapM_cons, hb, hrest, bind_eq_ok]

theorem mapM_congr {f g : α → Except ε β} {l : List α} (h : ∀ a ∈ l, f a = g a) :
    l.mapM f = l.mapM g := by
  induction l with
  | nil => rfl
  | cons a l ih =>
    rw [List.mapM_cons, List.mapM_cons, h a List.mem_cons_self,
      ih fun b hb => h b (List.mem_cons_of_mem _ hb)]

/-- A map whose function never fails is the pure map. -/
theorem mapM_eq_ok_map {f : α → Except ε β} {g : α → β} {l : List α}
    (h : ∀ a ∈ l, f a = .ok (g a)) : l.mapM f = .ok (l.map g) := by
  induction l with
  | nil => rfl
  | cons a l ih =>
    rw [List.mapM_cons, h a List.mem_cons_self, ih fun b hb => h b (List.mem_cons_of_mem _ hb)]
    rfl

/-- A map whose function never fails succeeds. -/
theorem exists_mapM_ok {f : α → Except ε β} {l : List α} (h : ∀ a ∈ l, ∃ b, f a = .ok b) :
    ∃ r, l.mapM f = .ok r := by
  induction l with
  | nil => exact ⟨[], rfl⟩
  | cons a l ih =>
    obtain ⟨b, hb⟩ := h a List.mem_cons_self
    obtain ⟨r, hr⟩ := ih fun x hx => h x (List.mem_cons_of_mem _ hx)
    refine ⟨b :: r, ?_⟩
    rw [List.mapM_cons, hb, hr]
    rfl

/-- Every result of a map comes from an element. -/
theorem exists_of_mem_mapM {f : α → Except ε β} {l : List α} {r : List β} (h : l.mapM f = .ok r)
    {b : β} (hb : b ∈ r) : ∃ a ∈ l, f a = .ok b :=
  (mapM_eq_ok h).exists_left hb

/-- Every element has a result. -/
theorem exists_mem_of_mapM {f : α → Except ε β} {l : List α} {r : List β} (h : l.mapM f = .ok r)
    {a : α} (ha : a ∈ l) : ∃ b ∈ r, f a = .ok b :=
  (mapM_eq_ok h).exists_right ha

theorem toOption_eq_some {x : Except ε α} {a : α} : x.toOption = some a ↔ x = .ok a := by
  cases x <;> simp [Except.toOption]

theorem exists_ok {x : Except ε α} (h : x.isOk = true) : ∃ a, x = .ok a := by
  cases x with
  | error e => cases h
  | ok a => exact ⟨a, rfl⟩

/-- A result that passes a test is there. -/
theorem exists_ok_of_any {x : Except ε α} {p : α → Bool} (h : x.toOption.any p = true) :
    ∃ a, x = .ok a ∧ p a = true := by
  cases x with
  | error e => cases h
  | ok a => exact ⟨a, rfl, h⟩

end Except
