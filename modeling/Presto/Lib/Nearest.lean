import Presto.Lib.HalfEven

/-!
# Rounding to an integer

`Nearest x n`: no integer is nearer to `x` than `n`. Ties are what tells the modes apart: half to even
(`HalfEven`), half away from zero (`HalfAway`), and truncation (`Truncated`), which is not a nearest
integer at all. Each of them is a `Rounding`: monotone, odd and the identity on integers.
-/

/-- A way to round: monotone, odd, and the identity on integers. -/
structure Rounding (R : ℚ → ℤ → Prop) : Prop where
  mono : ∀ {x y : ℚ} {n m : ℤ}, R x n → R y m → x ≤ y → n ≤ m
  neg : ∀ {x : ℚ} {n : ℤ}, R x n → R (-x) (-n)
  int : ∀ n : ℤ, R n n

namespace Rounding

variable {R : ℚ → ℤ → Prop} {x : ℚ} {n m : ℤ}

theorem unique (hR : Rounding R) (h : R x n) (h' : R x m) : n = m :=
  le_antisymm (hR.mono h h' le_rfl) (hR.mono h' h le_rfl)

end Rounding

/-- No integer is nearer to `x`. -/
def Nearest (x : ℚ) (n : ℤ) : Prop := ∀ m : ℤ, |x - n| ≤ |x - m|

/-- Nearest, and of two the one farther from zero. -/
def HalfAway (x : ℚ) (n : ℤ) : Prop := Nearest x n ∧ (Halfway x → |x| < |(n : ℚ)|)

/-- The integer part, on the side of zero. -/
def Truncated (x : ℚ) (n : ℤ) : Prop := |(n : ℚ)| ≤ |x| ∧ |x - n| < 1 ∧ 0 ≤ x * n

variable {x y : ℚ} {n m : ℤ}

theorem nearest_iff : Nearest x n ↔ |x - n| ≤ 1 / 2 := by
  constructor
  · intro h
    have h1 := h (n + 1)
    have h2 := h (n - 1)
    push_cast at h1 h2
    rw [abs_le]
    rcases abs_cases (x - n) with ⟨e, _⟩ | ⟨e, _⟩ <;>
      rcases abs_cases (x - (n + 1)) with ⟨e1, _⟩ | ⟨e1, _⟩ <;>
      rcases abs_cases (x - (n - 1)) with ⟨e2, _⟩ | ⟨e2, _⟩ <;>
      constructor <;> linarith
  · intro h m
    by_cases hm : m = n
    · rw [hm]
    · rw [abs_le] at h
      -- any other integer is at least one half away
      have hfar : (1 : ℚ) / 2 ≤ |x - m| := by
        rcases lt_or_gt_of_ne hm with hlt | hgt
        · have hle : (m : ℚ) + 1 ≤ n := by exact_mod_cast hlt
          exact le_abs.2 (.inl (by linarith))
        · have hle : (n : ℚ) + 1 ≤ m := by exact_mod_cast hgt
          exact le_abs.2 (.inr (by linarith))
      exact (abs_le.2 h).trans hfar

theorem Nearest.between (h : Nearest x n) : n - 1 / 2 ≤ x ∧ x ≤ n + 1 / 2 := by
  have habs := abs_le.1 (nearest_iff.1 h)
  constructor <;> linarith

theorem Nearest.neg (h : Nearest x n) : Nearest (-x) (-n) := by
  rw [nearest_iff] at h ⊢
  have heq : -x - ((-n : ℤ) : ℚ) = -(x - n) := by
    push_cast
    ring
  rwa [heq, abs_neg]

theorem Nearest.int (n : ℤ) : Nearest n n := by
  rw [nearest_iff, sub_self, abs_zero]
  norm_num

theorem halfway_neg : Halfway (-x) ↔ Halfway x := by
  constructor
  · rintro ⟨j, hj⟩
    exact ⟨-j - 1, by push_cast; linarith⟩
  · rintro ⟨j, hj⟩
    exact ⟨-j - 1, by push_cast; linarith⟩

theorem not_halfway_int (n : ℤ) : ¬ Halfway n := by
  rintro ⟨j, hj⟩
  have hz : 2 * n = 2 * j + 1 := by exact_mod_cast hj
  omega

/-- Nearest integers of growing numbers fall only at a common tie, from above to below. -/
theorem Nearest.mono_or (hn : Nearest x n) (hm : Nearest y m) (hle : x ≤ y) :
    n ≤ m ∨ (x = y ∧ n = m + 1 ∧ x = m + 1 / 2) := by
  by_contra hnot
  rw [not_or, not_le] at hnot
  have h1 := hn.between.1
  have h2 := hm.between.2
  have hlt : (m : ℚ) + 1 ≤ n := by exact_mod_cast hnot.1
  have hn1 : (n : ℚ) = m + 1 := by linarith
  exact hnot.2 ⟨by linarith, by exact_mod_cast hn1, by linarith⟩

theorem halfEven_iff_nearest : HalfEven x n ↔ Nearest x n ∧ (Halfway x → Even n) := by
  rw [nearest_iff]
  constructor
  · intro h
    refine ⟨?_, h.even⟩
    have hb := h.between
    rw [abs_le]
    constructor <;> linarith
  · rintro ⟨h, he⟩
    rw [HalfEven.iff_abs]
    rcases h.lt_or_eq with hlt | heq
    · exact .inl hlt
    · refine .inr ⟨heq, he ?_⟩
      rcases (abs_eq (by norm_num)).1 heq with h' | h'
      · exact ⟨n, by linarith⟩
      · exact ⟨n - 1, by push_cast; linarith⟩

theorem HalfEven.rounding : Rounding HalfEven where
  mono {x y n m} hn hm hle := by
    rw [halfEven_iff_nearest] at hn hm
    rcases hn.1.mono_or hm.1 hle with h | ⟨rfl, rfl, hx⟩
    · exact h
    · have htie : Halfway x := ⟨m, by rw [hx]; ring⟩
      obtain ⟨p, hp⟩ := hn.2 htie
      obtain ⟨q, hq⟩ := hm.2 htie
      omega
  neg h := by
    rw [halfEven_iff_nearest] at h ⊢
    exact ⟨h.1.neg, fun hx => (h.2 (halfway_neg.1 hx)).neg⟩
  int := HalfEven.int

theorem HalfAway.rounding : Rounding HalfAway where
  mono {x y n m} hn hm hle := by
    rcases hn.1.mono_or hm.1 hle with h | ⟨rfl, rfl, hx⟩
    · exact h
    · have htie : Halfway x := ⟨m, by rw [hx]; ring⟩
      have h1 := hn.2 htie
      have h2 := hm.2 htie
      rw [hx] at h1 h2
      push_cast at h1
      rcases le_or_gt 0 m with hm0 | hm0
      · have hq : (0 : ℚ) ≤ m := by exact_mod_cast hm0
        rw [abs_of_nonneg hq, abs_of_nonneg (by linarith)] at h2
        linarith
      · have hq : (m : ℚ) + 1 ≤ 0 := by exact_mod_cast hm0
        rw [abs_of_nonpos hq, abs_of_nonpos (by linarith)] at h1
        linarith
  neg h := by
    refine ⟨h.1.neg, fun hx => ?_⟩
    have hlt := h.2 (halfway_neg.1 hx)
    push_cast
    rwa [abs_neg, abs_neg]
  int n := ⟨Nearest.int n, fun h => absurd h (not_halfway_int n)⟩

theorem Truncated.rounding : Rounding Truncated where
  mono {x y n m} hn hm hle := by
    by_contra hnot
    have hlt : m + 1 ≤ n := by omega
    have hq : (m : ℚ) + 1 ≤ n := by exact_mod_cast hlt
    obtain ⟨hn1, hn2, hn3⟩ := hn
    obtain ⟨hm1, hm2, hm3⟩ := hm
    rw [abs_lt] at hn2 hm2
    rcases le_or_gt n 0 with hn0 | hn0
    · -- the lower bound is negative, and so is what it is the truncation of
      have hm0 : (m : ℚ) < 0 := by
        have hz : m < 0 := by omega
        exact_mod_cast hz
      have hy : y ≤ 0 := by
        by_contra hpos
        exact absurd hm3 (not_le.2 (mul_neg_of_pos_of_neg (not_le.1 hpos) hm0))
      rw [abs_of_neg hm0, abs_of_nonpos hy] at hm1
      linarith
    · have hnq : (0 : ℚ) < n := by exact_mod_cast hn0
      have hx : 0 ≤ x := by
        by_contra hneg
        exact absurd hn3 (not_le.2 (mul_neg_of_neg_of_pos (not_le.1 hneg) hnq))
      rw [abs_of_pos hnq, abs_of_nonneg hx] at hn1
      linarith
  neg {x n} h := by
    obtain ⟨h1, h2, h3⟩ := h
    have heq : -x - ((-n : ℤ) : ℚ) = -(x - n) := by
      push_cast
      ring
    refine ⟨?_, ?_, ?_⟩
    · push_cast
      rwa [abs_neg, abs_neg]
    · rwa [heq, abs_neg]
    · push_cast
      rwa [neg_mul_neg]
  int n := ⟨le_rfl, by simp, mul_self_nonneg _⟩

/-! ## Rounding an integer and a fraction -/

section

variable {q : ℤ} {t : ℚ}

theorem nearest_up (h : 1 / 2 ≤ t) (h1 : t < 1) : Nearest (q + t) (q + 1) := by
  rw [nearest_iff, abs_le]
  push_cast
  constructor <;> linarith

theorem nearest_down (h0 : 0 ≤ t) (h : t ≤ 1 / 2) : Nearest (q + t) q := by
  rw [nearest_iff, abs_le]
  constructor <;> linarith

/-- The only tie is at one half. -/
theorem halfway_add_iff (h0 : 0 ≤ t) (h1 : t < 1) : Halfway (q + t) ↔ t = 1 / 2 := by
  constructor
  · rintro ⟨j, hj⟩
    have hlo : 2 * q ≤ 2 * j + 1 := by
      have hq : (2 * q : ℚ) ≤ 2 * j + 1 := by linarith
      exact_mod_cast hq
    have hhi : 2 * j + 1 < 2 * q + 2 := by
      have hq : (2 * j + 1 : ℚ) < 2 * q + 2 := by linarith
      exact_mod_cast hq
    obtain rfl : j = q := by omega
    linarith
  · rintro rfl
    exact ⟨q, by ring⟩

theorem HalfEven.fraction (h0 : 0 ≤ t) (h1 : t < 1) :
    HalfEven (q + t) (if 1 / 2 < t ∨ (t = 1 / 2 ∧ ¬ Even q) then q + 1 else q) := by
  rw [halfEven_iff_nearest, halfway_add_iff h0 h1]
  split
  · rename_i h
    rcases h with h | ⟨h, hodd⟩
    · exact ⟨nearest_up h.le h1, fun h' => absurd h' h.ne'⟩
    · exact ⟨nearest_up h.ge h1, fun _ => Int.even_add_one.2 hodd⟩
  · rename_i h
    rw [not_or, not_lt] at h
    exact ⟨nearest_down h0 h.1, fun h' => not_not.1 fun hodd => h.2 ⟨h', hodd⟩⟩

theorem HalfAway.fraction (hq : 0 ≤ q) (h0 : 0 ≤ t) (h1 : t < 1) :
    HalfAway (q + t) (if 1 / 2 ≤ t then q + 1 else q) := by
  have hq' : (0 : ℚ) ≤ q := by exact_mod_cast hq
  unfold HalfAway
  rw [halfway_add_iff h0 h1]
  split
  · rename_i h
    refine ⟨nearest_up h h1, fun _ => ?_⟩
    push_cast
    rw [abs_of_nonneg (by linarith), abs_of_nonneg (by linarith)]
    linarith
  · rename_i h
    rw [not_le] at h
    exact ⟨nearest_down h0 h.le, fun h' => absurd h' h.ne⟩

theorem Truncated.fraction (hq : 0 ≤ q) (h0 : 0 ≤ t) (h1 : t < 1) : Truncated (q + t) q := by
  have hq' : (0 : ℚ) ≤ q := by exact_mod_cast hq
  refine ⟨?_, ?_, by positivity⟩
  · rw [abs_of_nonneg hq', abs_of_nonneg (by linarith)]
    linarith
  · rw [abs_lt]
    constructor <;> linarith

end
