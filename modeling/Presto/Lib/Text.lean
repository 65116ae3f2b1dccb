import Mathlib.Data.List.Basic
import Mathlib.Data.List.DropRight
import Mathlib.Data.Nat.Basic
import Mathlib.Tactic.IntervalCases

/-!
# Texts as lists of characters

Trimming, and numbers read from decimal digits: `Nat.toDigits` writes a number, `Nat.ofDigitChars`
reads one back, and the two agree up to leading zeros.
-/

namespace Text

/-- `White_Space` of Unicode. -/
def isWhiteSpace (c : Char) : Bool :=
  (9 ≤ c.toNat && c.toNat ≤ 13) || c.toNat ∈ [0x20, 0x85, 0xA0, 0x1680, 0x2028, 0x2029, 0x202F,
    0x205F, 0x3000] || (0x2000 ≤ c.toNat && c.toNat ≤ 0x200A)

/-- The text without the white space around it. -/
def trim (text : List Char) : List Char := (text.dropWhile isWhiteSpace).rdropWhile isWhiteSpace

theorem trim_eq_self {text : List Char} (h : ∀ c ∈ text, isWhiteSpace c = false) :
    trim text = text := by
  unfold trim
  have hleft : text.dropWhile isWhiteSpace = text := by
    cases text with
    | nil => rfl
    | cons c cs => exact List.dropWhile_cons_of_neg (by simp [h c List.mem_cons_self])
  rw [hleft, List.rdropWhile_eq_self_iff]
  intro hne
  simp [h _ (List.getLast_mem hne)]

/-! ## Digits -/

theorem digit_cases {c : Char} (h : c.isDigit = true) : ∃ n < 10, c = Nat.digitChar n := by
  rw [Char.isDigit_iff_toNat] at h
  obtain ⟨hlo, hhi⟩ := h
  have hc : c = Char.ofNat c.toNat := (Char.ofNat_toNat c).symm
  refine ⟨c.toNat - 48, ?_, ?_⟩
  · change 48 ≤ c.toNat at hlo
    change c.toNat ≤ 57 at hhi
    omega
  · change 48 ≤ c.toNat at hlo
    change c.toNat ≤ 57 at hhi
    rw [hc]
    generalize c.toNat = n at hlo hhi ⊢
    interval_cases n <;> rfl

theorem isWhiteSpace_of_isDigit {c : Char} (h : c.isDigit = true) : isWhiteSpace c = false := by
  obtain ⟨n, hn, rfl⟩ := digit_cases h
  interval_cases n <;> rfl

/-- One more digit at the end. -/
theorem ofDigitChars_concat (digits : List Char) {n : Nat} (hn : n < 10) :
    Nat.ofDigitChars 10 (digits ++ [Nat.digitChar n]) 0 = 10 * Nat.ofDigitChars 10 digits 0 + n := by
  rw [Nat.ofDigitChars_append, Nat.ofDigitChars_cons_digitChar_of_lt_ten hn, Nat.ofDigitChars_nil]

theorem ofDigitChars_lt {digits : List Char} (h : digits.all Char.isDigit = true) :
    Nat.ofDigitChars 10 digits 0 < 10 ^ digits.length := by
  induction digits using List.reverseRecOn with
  | nil => simp
  | append_singleton digits c ih =>
    rw [List.all_append, Bool.and_eq_true] at h
    obtain ⟨n, hn, rfl⟩ := digit_cases (by simpa using h.2)
    have hlt := ih h.1
    rw [ofDigitChars_concat digits hn, List.length_append, List.length_singleton, pow_succ]
    omega

/-- Only zeros read as zero. -/
theorem ofDigitChars_eq_zero {digits : List Char} (h : digits.all Char.isDigit = true) :
    Nat.ofDigitChars 10 digits 0 = 0 ↔ ∀ c ∈ digits, c = '0' := by
  induction digits using List.reverseRecOn with
  | nil => simp
  | append_singleton digits c ih =>
    rw [List.all_append, Bool.and_eq_true] at h
    obtain ⟨n, hn, rfl⟩ := digit_cases (by simpa using h.2)
    rw [ofDigitChars_concat digits hn]
    constructor
    · intro hz d hd
      rcases List.mem_append.1 hd with hd | hd
      · exact (ih h.1).1 (by omega) d hd
      · rw [List.mem_singleton.1 hd, Nat.digitChar_eq_zero]
        omega
    · intro hall
      have hlast := hall _ (List.mem_append_right digits (List.mem_singleton_self _))
      have hrest := (ih h.1).2 fun d hd => hall d (List.mem_append_left _ hd)
      rw [Nat.digitChar_eq_zero] at hlast
      omega

/-- The digits without the zeros before them; one zero when there is nothing else. -/
def stripZeros (digits : List Char) : List Char :=
  match digits.dropWhile (· = '0') with
  | [] => ['0']
  | stripped => stripped

theorem stripZeros_ne_nil (digits : List Char) : stripZeros digits ≠ [] := by
  unfold stripZeros
  split
  · exact List.cons_ne_nil _ _
  · assumption

theorem stripZeros_concat {digits : List Char} (c : Char) (h : ¬ ∀ d ∈ digits, d = '0') :
    stripZeros (digits ++ [c]) = stripZeros digits ++ [c] := by
  have hne : digits.dropWhile (· = '0') ≠ [] := fun hnil =>
    h fun d hd => by simpa using List.dropWhile_eq_nil_iff.1 hnil d hd
  have hmore : (digits ++ [c]).dropWhile (· = '0') = digits.dropWhile (· = '0') ++ [c] := by
    rw [List.dropWhile_append, if_neg (by simpa [List.isEmpty_iff] using hne)]
  obtain ⟨d, rest, hd⟩ := List.exists_cons_of_ne_nil hne
  simp only [stripZeros, hmore, hd, List.cons_append]

/-- **What digits read as is written without their leading zeros.** -/
theorem toDigits_ofDigitChars {digits : List Char} (h : digits.all Char.isDigit = true) :
    Nat.toDigits 10 (Nat.ofDigitChars 10 digits 0) = stripZeros digits := by
  induction digits using List.reverseRecOn with
  | nil => rfl
  | append_singleton digits c ih =>
    rw [List.all_append, Bool.and_eq_true] at h
    obtain ⟨n, hn, rfl⟩ := digit_cases (by simpa using h.2)
    rw [ofDigitChars_concat digits hn]
    by_cases hz : ∀ d ∈ digits, d = '0'
    · rw [(ofDigitChars_eq_zero h.1).2 hz, Nat.mul_zero, Nat.zero_add, Nat.toDigits_of_lt_base hn]
      have hdrop : digits.dropWhile (· = '0') = [] :=
        List.dropWhile_eq_nil_iff.2 fun d hd => by simp [hz d hd]
      rw [stripZeros, List.dropWhile_append, hdrop]
      by_cases h0 : n = 0
      · subst h0
        rfl
      · have hc : Nat.digitChar n ≠ '0' := fun h => h0 (Nat.digitChar_eq_zero.1 h)
        simp [hc]
    · have hpos : 0 < Nat.ofDigitChars 10 digits 0 :=
        Nat.pos_of_ne_zero fun h0 => hz ((ofDigitChars_eq_zero h.1).1 h0)
      rw [stripZeros_concat _ hz, ← ih h.1, ← Nat.toDigits_append_toDigits (by decide) hpos hn,
        Nat.toDigits_of_lt_base hn]

/-- No zero stands before the digits, except a single one. -/
theorem head_stripZeros (digits : List Char) :
    stripZeros digits = ['0'] ∨ (stripZeros digits).head? ≠ some '0' := by
  unfold stripZeros
  split
  · exact .inl rfl
  · right
    intro h
    have hnot := List.head?_dropWhile_not (fun c => decide (c = '0')) digits
    rw [h] at hnot
    exact absurd hnot (by decide)

theorem head_toDigits (n : Nat) :
    Nat.toDigits 10 n = ['0'] ∨ (Nat.toDigits 10 n).head? ≠ some '0' := by
  have hall : (Nat.toDigits 10 n).all Char.isDigit = true :=
    List.all_eq_true.2 fun _ hc => Nat.isDigit_of_mem_toDigits (by decide) (by decide) hc
  have h := head_stripZeros (Nat.toDigits 10 n)
  rwa [← toDigits_ofDigitChars hall, Nat.ofDigitChars_ten_toDigits] at h

theorem getLast_toDigits (n : Nat) :
    (Nat.toDigits 10 n).getLast? = some (Nat.digitChar (n % 10)) := by
  rw [Nat.toDigits_eq_if (by decide)]
  split
  · rename_i h
    rw [Nat.mod_eq_of_lt h]
    rfl
  · rw [List.getLast?_append, List.getLast?_singleton, Option.some_or]

theorem all_isDigit_toDigits (n : Nat) : (Nat.toDigits 10 n).all Char.isDigit = true :=
  List.all_eq_true.2 fun _ hc => Nat.isDigit_of_mem_toDigits (by decide) (by decide) hc

theorem all_isDigit_replicate (n : Nat) : (List.replicate n '0').all Char.isDigit = true := by
  rw [List.all_replicate]
  split <;> rfl

/-- No digits are lost: zeros come back in front. -/
theorem replicate_stripZeros {digits : List Char} (hne : digits ≠ []) :
    List.replicate (digits.length - (stripZeros digits).length) '0' ++ stripZeros digits = digits := by
  have hzeros : digits.takeWhile (· = '0')
      = List.replicate (digits.takeWhile (· = '0')).length '0' :=
    List.eq_replicate_of_mem fun c hc => by simpa using List.mem_takeWhile_imp hc
  have hsplit := List.takeWhile_append_dropWhile (p := (· = '0')) (l := digits)
  have hlength := congrArg List.length hsplit
  rw [List.length_append] at hlength
  unfold stripZeros
  split
  · rename_i hnil
    rw [hnil, List.append_nil] at hsplit
    rw [hsplit] at hzeros
    have hpos := List.length_pos_of_ne_nil hne
    obtain ⟨n, hn⟩ := Nat.exists_eq_add_of_lt hpos
    rw [Nat.zero_add] at hn
    rw [List.length_singleton, hn, Nat.add_sub_cancel, ← List.replicate_succ', ← hn, ← hzeros]
  · rw [show digits.length - (digits.dropWhile (· = '0')).length
      = (digits.takeWhile (· = '0')).length by omega, ← hzeros, hsplit]

/-! ## Order -/

theorem ofDigitChars_cons (c : Char) (digits : List Char) :
    Nat.ofDigitChars 10 (c :: digits) 0
      = 10 ^ digits.length * (c.toNat - 48) + Nat.ofDigitChars 10 digits 0 := by
  rw [Nat.ofDigitChars_cons, Nat.ofDigitChars_eq_ofDigitChars_zero, Nat.mul_zero, Nat.zero_add]
  rfl

theorem digit_lt_iff {a b : Char} (ha : a.isDigit = true) (hb : b.isDigit = true) :
    a < b ↔ a.toNat - 48 < b.toNat - 48 := by
  have hzero : 48 ≤ a.toNat ∧ 48 ≤ b.toNat :=
    ⟨(Char.isDigit_iff_toNat.1 ha).1, (Char.isDigit_iff_toNat.1 hb).1⟩
  rw [Char.lt_def, UInt32.lt_iff_toNat_lt]
  show a.toNat < b.toNat ↔ _
  omega

theorem digit_inj {a b : Char} (ha : a.isDigit = true) (hb : b.isDigit = true)
    (h : a.toNat - 48 = b.toNat - 48) : a = b := by
  have hzero : 48 ≤ a.toNat ∧ 48 ≤ b.toNat :=
    ⟨(Char.isDigit_iff_toNat.1 ha).1, (Char.isDigit_iff_toNat.1 hb).1⟩
  have heq : a.toNat = b.toNat := by omega
  rw [← Char.ofNat_toNat a, heq, Char.ofNat_toNat]

/-- Of digits of equal length the order of the texts is the order of the numbers. -/
theorem lt_iff_ofDigitChars {left right : List Char} (hl : left.all Char.isDigit = true)
    (hr : right.all Char.isDigit = true) (hlen : left.length = right.length) :
    left < right ↔ Nat.ofDigitChars 10 left 0 < Nat.ofDigitChars 10 right 0 := by
  induction left generalizing right with
  | nil =>
    cases right with
    | nil => exact iff_of_false (List.lt_irrefl _) (lt_irrefl _)
    | cons b right => cases hlen
  | cons a left ih =>
    cases right with
    | nil => cases hlen
    | cons b right =>
      rw [List.all_cons, Bool.and_eq_true] at hl hr
      have hlen : left.length = right.length := Nat.succ.inj hlen
      have hlt := ofDigitChars_lt hl.2
      have hrt := ofDigitChars_lt hr.2
      rw [List.cons_lt_cons_iff, ih hl.2 hr.2 hlen, digit_lt_iff hl.1 hr.1, ofDigitChars_cons,
        ofDigitChars_cons, hlen]
      rw [hlen] at hlt
      constructor
      · rintro (h | ⟨rfl, h⟩)
        · have hmul : 10 ^ right.length * (a.toNat - 48 + 1) ≤ 10 ^ right.length * (b.toNat - 48) :=
            Nat.mul_le_mul_left _ h
          rw [Nat.mul_succ] at hmul
          omega
        · omega
      · intro h
        rcases lt_trichotomy (a.toNat - 48) (b.toNat - 48) with hab | hab | hab
        · exact .inl hab
        · rw [hab] at h
          exact .inr ⟨digit_inj hl.1 hr.1 hab, by omega⟩
        · have hmul : 10 ^ right.length * (b.toNat - 48 + 1) ≤ 10 ^ right.length * (a.toNat - 48) :=
            Nat.mul_le_mul_left _ hab
          rw [Nat.mul_succ] at hmul
          omega

/-- Texts that start with parts of equal length are compared by these first. -/
theorem append_lt_append {a b x y : List Char} (hlen : a.length = b.length) :
    a ++ x < b ++ y ↔ a < b ∨ (a = b ∧ x < y) := by
  induction a generalizing b with
  | nil =>
    obtain rfl := List.length_eq_zero_iff.1 hlen.symm
    simp
  | cons c a ih =>
    cases b with
    | nil => cases hlen
    | cons d b =>
      rw [List.cons_append, List.cons_append, List.cons_lt_cons_iff, List.cons_lt_cons_iff,
        ih (Nat.succ.inj hlen), List.cons.injEq]
      tauto

/-! ## Numbers -/

/-- Decimal digits, at least one. -/
def parseNat (text : List Char) : Option Nat :=
  if text ≠ [] ∧ text.all Char.isDigit then some (Nat.ofDigitChars 10 text 0) else none

/-- An unsigned machine integer below `bound`: a plus sign may stand before it. -/
def parseUnsigned (bound : Nat) (text : List Char) : Option Nat :=
  let digits := match text with
    | '+' :: rest => rest
    | rest => rest
  (parseNat digits).filter (· < bound)

/-- A signed machine integer from `-bound` to `bound - 1`. -/
def parseSigned (bound : Nat) (text : List Char) : Option Int :=
  match text with
  | '-' :: rest => (parseNat rest).bind fun n => if n ≤ bound then some (-n : Int) else none
  | '+' :: rest => (parseNat rest).bind fun n => if n < bound then some (n : Int) else none
  | rest => (parseNat rest).bind fun n => if n < bound then some (n : Int) else none

theorem parseNat_digits {text : List Char} (hne : text ≠ []) (h : text.all Char.isDigit = true) :
    parseNat text = some (Nat.ofDigitChars 10 text 0) :=
  if_pos ⟨hne, h⟩

/-- Digits carry no sign. -/
theorem parseSigned_digits {bound : Nat} {text : List Char} (hne : text ≠ [])
    (h : text.all Char.isDigit = true) :
    parseSigned bound text = if Nat.ofDigitChars 10 text 0 < bound
      then some (Nat.ofDigitChars 10 text 0 : Int) else none := by
  unfold parseSigned
  split
  · exact absurd h (by simp)
  · exact absurd h (by simp)
  · rw [parseNat_digits hne h]
    rfl

theorem parseUnsigned_digits {bound : Nat} {text : List Char} (hne : text ≠ [])
    (h : text.all Char.isDigit = true) :
    parseUnsigned bound text = (some (Nat.ofDigitChars 10 text 0)).filter (· < bound) := by
  unfold parseUnsigned
  split
  · exact absurd h (by simp)
  · show (parseNat text).filter (· < bound) = _
    rw [parseNat_digits hne h]

theorem parseUnsigned_plus {bound : Nat} {text : List Char} (hne : text ≠ [])
    (h : text.all Char.isDigit = true) :
    parseUnsigned bound ('+' :: text) = (some (Nat.ofDigitChars 10 text 0)).filter (· < bound) := by
  show (parseNat text).filter (· < bound) = _
  rw [parseNat_digits hne h]

/-- What is read is digits, perhaps behind a plus sign. -/
theorem parseUnsigned_eq_some {bound n : Nat} {text : List Char}
    (h : parseUnsigned bound text = some n) :
    ∃ digits : List Char, digits ≠ [] ∧ digits.all Char.isDigit = true ∧
      Nat.ofDigitChars 10 digits 0 = n ∧ n < bound ∧ (text = digits ∨ text = '+' :: digits) := by
  have key : ∀ {digits : List Char}, (parseNat digits).filter (· < bound) = some n →
      digits ≠ [] ∧ digits.all Char.isDigit = true ∧ Nat.ofDigitChars 10 digits 0 = n ∧ n < bound := by
    intro digits hd
    rw [Option.filter_eq_some_iff] at hd
    obtain ⟨hn, hlt⟩ := hd
    unfold parseNat at hn
    split at hn
    · rename_i hcond
      exact ⟨hcond.1, hcond.2, Option.some.inj hn, of_decide_eq_true hlt⟩
    · cases hn
  unfold parseUnsigned at h
  split at h
  · rename_i rest
    obtain ⟨hne, hall, hn, hlt⟩ := key h
    exact ⟨rest, hne, hall, hn, hlt, .inr rfl⟩
  · obtain ⟨hne, hall, hn, hlt⟩ := key h
    exact ⟨_, hne, hall, hn, hlt, .inl rfl⟩

/-- The text without its sign. -/
def unsigned : List Char → List Char
  | '-' :: rest => rest
  | '+' :: rest => rest
  | rest => rest

end Text
