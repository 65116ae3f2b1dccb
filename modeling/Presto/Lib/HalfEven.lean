import Mathlib.Algebra.Order.Field.Rat
import Mathlib.Algebra.Ring.Int.Parity
import Mathlib.Tactic.Linarith
import Mathlib.Tactic.Ring

/-!
# Rounding half to even

`HalfEven x n`: the integer `n` is nearest to the rational `x`, and of two integers equally near it is
the even one. The relation is a function of `x`; what two roundings of complementary shares add up to
depends on ties only.
-/

/-- `x` lies half-way between two integers. -/
def Halfway (x : ℚ) : Prop := ∃ j : ℤ, 2 * x = 2 * j + 1

/-- `n` is `x` rounded half to even. -/
def HalfEven (x : ℚ) (n : ℤ) : Prop :=
  (n - 1 / 2 < x ∧ x < n + 1 / 2) ∨ ((2 * x = 2 * n + 1 ∨ 2 * x = 2 * n - 1) ∧ Even n)

namespace HalfEven

variable {x y : ℚ} {n m k : ℤ}

/-- An integer is its own rounding. -/
theorem int (n : ℤ) : HalfEven n n := by
  left
  constructor <;> linarith

theorem between (h : HalfEven x n) : n - 1 / 2 ≤ x ∧ x ≤ n + 1 / 2 := by
  rcases h with ⟨h1, h2⟩ | ⟨h | h, _⟩
  · exact ⟨h1.le, h2.le⟩
  · constructor <;> linarith
  · constructor <;> linarith

/-- At a tie the rounding is even. -/
theorem even (h : HalfEven x n) (hx : Halfway x) : Even n := by
  obtain ⟨j, hj⟩ := hx
  rcases h with ⟨h1, h2⟩ | ⟨_, he⟩
  · -- strictly between two halves there is no half
    have hlo : 2 * n - 1 < 2 * j + 1 := by
      have hq : ((2 * n - 1 : ℤ) : ℚ) < ((2 * j + 1 : ℤ) : ℚ) := by
        push_cast
        linarith
      exact_mod_cast hq
    have hhi : 2 * j + 1 < 2 * n + 1 := by
      have hq : ((2 * j + 1 : ℤ) : ℚ) < ((2 * n + 1 : ℤ) : ℚ) := by
        push_cast
        linarith
      exact_mod_cast hq
    omega
  · exact he

/-- Two roundings of one number agree. -/
theorem unique (h : HalfEven x n) (h' : HalfEven x m) : n = m := by
  -- otherwise the number is half-way between them, and both are even
  have key : ∀ {a b : ℤ}, HalfEven x a → HalfEven x b → ¬ a < b := by
    intro a b ha hb hlt
    have h1 := ha.between.2
    have h2 := hb.between.1
    have hle : (a : ℚ) + 1 ≤ b := by exact_mod_cast hlt
    have hmid : 2 * x = 2 * a + 1 := by linarith
    have heven : Even a ∧ Even b := ⟨ha.even ⟨a, hmid⟩, hb.even ⟨a, hmid⟩⟩
    have hb1 : (b : ℚ) = a + 1 := by linarith
    have hb2 : b = a + 1 := by exact_mod_cast hb1
    obtain ⟨⟨p, hp⟩, q, hq⟩ := heven
    omega
  rcases lt_trichotomy n m with hlt | heq | hgt
  · exact absurd hlt (key h h')
  · exact heq
  · exact absurd hgt (key h' h)

/-- Away from ties the rounding is the nearest integer. -/
theorem strict (h : HalfEven x n) (hx : ¬ Halfway x) : n - 1 / 2 < x ∧ x < n + 1 / 2 := by
  rcases h with h | ⟨h | h, _⟩
  · exact h
  · exact absurd ⟨n, h⟩ hx
  · exact absurd ⟨n - 1, by push_cast; linarith⟩ hx

/-- **Complementary shares.** The roundings of two shares of an integer add up to it, unless both are
ties and the integer is odd. -/
theorem add_eq_iff (hn : HalfEven x n) (hm : HalfEven (k - x) m) :
    n + m = k ↔ ¬ (Odd k ∧ Halfway x) := by
  by_cases hx : Halfway x
  · have hy : Halfway (k - x) := by
      obtain ⟨j, hj⟩ := hx
      exact ⟨k - j - 1, by push_cast; linarith⟩
    obtain ⟨⟨p, hp⟩, q, hq⟩ : Even n ∧ Even m := ⟨hn.even hx, hm.even hy⟩
    constructor
    · rintro hsum ⟨⟨r, hr⟩, _⟩
      omega
    · intro hnot
      have heven : Even k := by
        by_contra hk
        exact hnot ⟨Int.not_even_iff_odd.1 hk, hx⟩
      obtain ⟨r, hr⟩ := heven
      have h1 := hn.between
      have h2 := hm.between
      have hlo : (k : ℚ) - 1 ≤ n + m := by linarith
      have hhi : (n : ℚ) + m ≤ k + 1 := by linarith
      have hlo' : k - 1 ≤ n + m := by exact_mod_cast hlo
      have hhi' : n + m ≤ k + 1 := by exact_mod_cast hhi
      omega
  · have hy : ¬ Halfway (k - x) := by
      rintro ⟨j, hj⟩
      exact hx ⟨k - j - 1, by push_cast; linarith⟩
    have h1 := hn.strict hx
    have h2 := hm.strict hy
    have hlo : (k : ℚ) - 1 < n + m := by linarith
    have hhi : (n : ℚ) + m < k + 1 := by linarith
    have hlo' : k - 1 < n + m := by exact_mod_cast hlo
    have hhi' : n + m < k + 1 := by exact_mod_cast hhi
    exact ⟨fun _ h => hx h.2, fun _ => by omega⟩

/-- A number rounds to `n` when it is near enough. -/
theorem iff_abs : HalfEven x n ↔ |x - n| < 1 / 2 ∨ (|x - n| = 1 / 2 ∧ Even n) := by
  constructor
  · rintro (⟨h1, h2⟩ | ⟨h, he⟩)
    · left
      rw [abs_lt]
      constructor <;> linarith
    · right
      refine ⟨?_, he⟩
      rw [abs_eq (by norm_num)]
      rcases h with h | h
      · left; linarith
      · right; linarith
  · rintro (h | ⟨h, he⟩)
    · left
      rw [abs_lt] at h
      constructor <;> linarith
    · right
      refine ⟨?_, he⟩
      rw [abs_eq (by norm_num)] at h
      rcases h with h | h
      · left; linarith
      · right; linarith

end HalfEven

/-- A factor that rounding removes from `n`. -/
def Negligible (rate : ℚ) (n : ℤ) : Prop :=
  |(rate - 1) * n| < 1 / 2 ∨ (|(rate - 1) * n| = 1 / 2 ∧ Even n)

theorem negligible_iff {rate : ℚ} {n : ℤ} : Negligible rate n ↔ HalfEven (n * rate) n := by
  have hdiff : n * rate - n = (rate - 1) * n := by ring
  rw [HalfEven.iff_abs, hdiff, Negligible]

/-- Two numbers that round to the same integer. -/
def SameRounding (x y : ℚ) : Prop := ∃ n, HalfEven x n ∧ HalfEven y n

theorem HalfEven.same_iff {x y : ℚ} {n : ℤ} (h : HalfEven x n) : SameRounding x y ↔ HalfEven y n := by
  constructor
  · rintro ⟨m, hm, hy⟩
    rwa [h.unique hm]
  · intro hy
    exact ⟨n, h, hy⟩
