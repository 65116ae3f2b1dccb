import Mathlib.Data.List.Basic

/-!
# Single use

A log of events, newest first, seen from one key: the key is opened at most once, with some data, and
closed at most once afterwards. What an event does to the key is a `Mark`; where the key stands after
a log is its `Phase`. In an `Orderly` log a use closes a live key, so there is at most one, and none
after another event closed the key.
-/

namespace SingleUse

variable {E α : Type*}

/-- What an event does to the key. -/
inductive Mark (α : Type*)
  | opened (a : α)
  | closed
  | none

inductive Phase (α : Type*)
  | fresh
  | live (a : α)
  | spent

/-- Closing a key that was never opened does nothing. -/
def Phase.next : Phase α → Mark α → Phase α
  | .fresh, .opened a => .live a
  | .live _, .closed => .spent
  | p, _ => p

/-- Where the key stands after a log. -/
def phase (mark : E → Mark α) : List E → Phase α
  | [] => .fresh
  | e :: l => (phase mark l).next (mark e)

/-- A key is opened when it is fresh, and a use closes it while it is live. -/
def Orderly (mark : E → Mark α) (uses : E → Bool) : List E → Prop
  | [] => True
  | e :: l => ((∃ a, mark e = .opened a) → phase mark l = .fresh) ∧
      (uses e = true → mark e = .closed ∧ ∃ a, phase mark l = .live a) ∧ Orderly mark uses l

variable {mark : E → Mark α} {uses : E → Bool} {l newer older : List E} {e : E} {a : α}

theorem phase_cons (mark : E → Mark α) (e : E) (l : List E) :
    phase mark (e :: l) = (phase mark l).next (mark e) := rfl

/-- An event that does nothing to the key. -/
theorem phase_cons_none (h : mark e = .none) (l : List E) : phase mark (e :: l) = phase mark l := by
  rw [phase_cons, h]
  cases phase mark l <;> rfl

theorem Orderly.cons_none (h : mark e = .none) (hu : uses e = false) (hl : Orderly mark uses l) :
    Orderly mark uses (e :: l) := by
  refine ⟨?_, ?_, hl⟩
  · rintro ⟨a, ha⟩
    rw [h] at ha
    cases ha
  · intro he
    rw [hu] at he
    cases he

theorem Orderly.cons_fresh (hu : uses e = false) (hfresh : phase mark l = .fresh)
    (hl : Orderly mark uses l) : Orderly mark uses (e :: l) := by
  refine ⟨fun _ => hfresh, fun he => ?_, hl⟩
  rw [hu] at he
  cases he

theorem Orderly.cons_closed (h : mark e = .closed)
    (hlive : uses e = true → ∃ a, phase mark l = .live a) (hl : Orderly mark uses l) :
    Orderly mark uses (e :: l) := by
  refine ⟨?_, fun he => ⟨h, hlive he⟩, hl⟩
  rintro ⟨a, ha⟩
  rw [h] at ha
  cases ha

theorem phase_live_opened : ∀ {l : List E}, phase mark l = .live a → ∃ e ∈ l, mark e = .opened a := by
  intro l
  induction l with
  | nil => intro h; cases h
  | cons e l ih =>
    intro h
    rw [phase_cons] at h
    cases hp : phase mark l with
    | fresh =>
      cases he : mark e with
      | opened b =>
        rw [hp, he] at h
        cases h
        exact ⟨e, List.mem_cons_self, he⟩
      | closed => rw [hp, he] at h; cases h
      | none => rw [hp, he] at h; cases h
    | live b =>
      have hab : b = a := by
        rw [hp] at h
        cases he : mark e <;> rw [he] at h <;> cases h <;> rfl
      obtain ⟨e', he', hopened⟩ := ih (hab ▸ hp)
      exact ⟨e', List.mem_cons_of_mem _ he', hopened⟩
    | spent => rw [hp] at h; cases he : mark e <;> rw [he] at h <;> cases h

theorem phase_ne_fresh_of_opened (h : ∃ e ∈ l, ∃ a, mark e = .opened a) : phase mark l ≠ .fresh := by
  induction l with
  | nil => simp at h
  | cons e l ih =>
    rw [phase_cons]
    obtain ⟨e', he', a, ha⟩ := h
    rcases List.mem_cons.1 he' with rfl | he'
    · rw [ha]
      cases phase mark l <;> simp [Phase.next]
    · have hne := ih ⟨e', he', a, ha⟩
      cases hp : phase mark l with
      | fresh => exact absurd hp hne
      | live b => cases mark e <;> simp [Phase.next]
      | spent => cases mark e <;> simp [Phase.next]

theorem phase_spent_append (h : phase mark older = .spent) : phase mark (newer ++ older) = .spent := by
  induction newer with
  | nil => exact h
  | cons e newer ih =>
    rw [List.cons_append, phase_cons, ih]
    cases mark e <;> rfl

theorem Orderly.suffix : ∀ {newer : List E}, Orderly mark uses (newer ++ older) →
    Orderly mark uses older := by
  intro newer
  induction newer with
  | nil => exact id
  | cons e newer ih => exact fun h => ih h.2.2

theorem Orderly.no_use_of_spent (h : Orderly mark uses (newer ++ older))
    (hspent : phase mark older = .spent) : ∀ e ∈ newer, uses e = false := by
  induction newer with
  | nil => simp
  | cons e newer ih =>
    intro e' he'
    rcases List.mem_cons.1 he' with rfl | he'
    · by_contra hu
      obtain ⟨_, a, ha⟩ := h.2.1 (by simpa using hu)
      have hlater : phase mark (newer ++ older) = .spent := phase_spent_append hspent
      have hspent_live : (Phase.spent : Phase α) = .live a := hlater.symm.trans ha
      cases hspent_live
    · exact ih h.2.2 e' he'

/-- Once an opened key is closed it is not used again. -/
theorem Orderly.no_use_after_closed (h : Orderly mark uses (newer ++ e :: older))
    (he : mark e = .closed) (hopened : ∃ e ∈ older, ∃ a, mark e = .opened a) :
    ∀ e ∈ newer, uses e = false := by
  refine h.no_use_of_spent ?_
  have hne := phase_ne_fresh_of_opened hopened
  rw [phase_cons, he]
  cases hp : phase mark older with
  | fresh => exact absurd hp hne
  | live a => rfl
  | spent => rfl

/-- An opened key stays live until it is closed. -/
theorem phase_live_cons (h : phase mark l = .live a) (he : mark e ≠ .closed) :
    phase mark (e :: l) = .live a := by
  rw [phase_cons, h]
  cases hm : mark e with
  | closed => exact absurd hm he
  | opened b => rfl
  | none => rfl

/-- Closing a key that was opened spends it. -/
theorem phase_closed (he : mark e = .closed) (hopened : ∃ e ∈ older, ∃ a, mark e = .opened a) :
    phase mark (e :: older) = .spent := by
  have hne := phase_ne_fresh_of_opened hopened
  rw [phase_cons, he]
  cases hp : phase mark older with
  | fresh => exact absurd hp hne
  | live a => rfl
  | spent => rfl

/-- Every use, of which there may be many, finds its key live. -/
def WhileLive (mark : E → Mark α) (uses : E → Bool) : List E → Prop
  | [] => True
  | e :: l => (uses e = true → ∃ a, phase mark l = .live a) ∧ WhileLive mark uses l

theorem WhileLive.cons_unused (hu : uses e = false) (hl : WhileLive mark uses l) :
    WhileLive mark uses (e :: l) := by
  refine ⟨fun he => ?_, hl⟩
  rw [hu] at he
  cases he

theorem WhileLive.suffix : ∀ {newer : List E}, WhileLive mark uses (newer ++ older) →
    WhileLive mark uses older := by
  intro newer
  induction newer with
  | nil => exact id
  | cons e newer ih => exact fun h => ih h.2

/-- Once an opened key is closed it is not used again. -/
theorem WhileLive.no_use_after_closed (h : WhileLive mark uses (newer ++ e :: older))
    (he : mark e = .closed) (hopened : ∃ e ∈ older, ∃ a, mark e = .opened a) :
    ∀ e ∈ newer, uses e = false := by
  have hspent := phase_closed he hopened
  induction newer with
  | nil => simp
  | cons e' newer ih =>
    intro x hx
    rcases List.mem_cons.1 hx with rfl | hx
    · by_contra hu
      obtain ⟨a, ha⟩ := h.1 (by simpa using hu)
      have hlater : phase mark (newer ++ e :: older) = .spent := phase_spent_append hspent
      cases hlater.symm.trans ha
    · exact ih h.2 x hx

/-- A key is used at most once, and not at all as long as it is not spent. -/
theorem Orderly.countP_uses (h : Orderly mark uses l) :
    l.countP uses ≤ 1 ∧ (phase mark l ≠ .spent → l.countP uses = 0) := by
  induction l with
  | nil => simp
  | cons e l ih =>
    obtain ⟨hopened, hused, hl⟩ := h
    obtain ⟨hle, hzero⟩ := ih hl
    cases hu : uses e with
    | true =>
      obtain ⟨hclosed, a, ha⟩ := hused hu
      have h0 : l.countP uses = 0 := hzero (by rw [ha]; simp)
      have hspent : phase mark (e :: l) = .spent := by rw [phase_cons, hclosed, ha]; rfl
      refine ⟨?_, fun hne => absurd hspent hne⟩
      simp [hu, h0]
    | false =>
      rw [List.countP_cons_of_neg (by simp [hu])]
      refine ⟨hle, fun hne => hzero fun hspent => hne ?_⟩
      rw [phase_cons, hspent]
      cases mark e <;> rfl

end SingleUse
