import Presto.Lib.Fallible

/-!
# Programs that avoid an error

A program may fail, but not with this error. A sequence avoids it when every step does on what the
steps before return, so a program avoids an error that none of its steps raises.
-/

namespace Except

universe u

variable {ε : Type} {α β σ : Type u} {e : ε}

/-- The program does not end with the error `e`. -/
def Avoids (e : ε) (x : Except ε α) : Prop := x ≠ .error e

theorem avoids_ok (a : α) : Avoids e (.ok a : Except ε α) := by
  intro h
  cases h

theorem avoids_pure (a : α) : Avoids e (pure a : Except ε α) := avoids_ok a

theorem avoids_error {e' : ε} (h : e' ≠ e) : Avoids e (.error e' : Except ε α) := by
  intro h'
  exact h (Except.error.inj h')

theorem avoids_of_ok {x : Except ε α} (h : ∃ a, x = .ok a) : Avoids e x := by
  obtain ⟨a, rfl⟩ := h
  exact avoids_ok a

theorem Avoids.bind {x : Except ε α} {f : α → Except ε β} (hx : Avoids e x)
    (hf : ∀ a, x = .ok a → Avoids e (f a)) : Avoids e (x >>= f) := by
  cases x with
  | error e' => exact avoids_error fun h => hx (by rw [h])
  | ok a => exact hf a rfl

theorem Avoids.map {x : Except ε α} (hx : Avoids e x) (f : α → β) : Avoids e (x.map f) := by
  cases x with
  | error e' => exact avoids_error fun h => hx (by rw [h])
  | ok a => exact avoids_ok (f a)

theorem avoids_ensure {p : Prop} [Decidable p] {e' : ε} (h : e' ≠ e) :
    Avoids e (ensure p e' : Except ε PUnit.{u + 1}) := by
  unfold ensure
  split
  · exact avoids_ok _
  · exact avoids_error h

theorem avoids_fromOption {o : Option α} {e' : ε} (h : e' ≠ e) : Avoids e (fromOption o e') := by
  cases o with
  | none => exact avoids_error h
  | some a => exact avoids_ok a

/-- A loop avoids what each of its turns avoids. -/
theorem avoids_foldlM {f : σ → β → Except ε σ} {l : List β} (h : ∀ s, ∀ b ∈ l, Avoids e (f s b)) :
    ∀ s, Avoids e (l.foldlM f s) := by
  induction l with
  | nil => exact fun s => avoids_pure s
  | cons b l ih =>
    intro s
    rw [List.foldlM_cons]
    exact (h s b List.mem_cons_self).bind fun s' _ =>
      ih (fun s b hb => h s b (List.mem_cons_of_mem _ hb)) s'

theorem avoids_mapM {f : α → Except ε β} {l : List α} (h : ∀ a ∈ l, Avoids e (f a)) :
    Avoids e (l.mapM f) := by
  induction l with
  | nil => exact avoids_pure _
  | cons a l ih =>
    rw [List.mapM_cons]
    exact (h a List.mem_cons_self).bind fun _ _ =>
      (ih fun a ha => h a (List.mem_cons_of_mem _ ha)).bind fun _ _ => avoids_pure _

end Except
