import Presto.Admin.ExactDecimal

/-!
# The importer's decimals are the server's

Both sides accept the same texts. On the side of the importer sums are carried and borrowed digit by
digit; read as numbers, its digits are the coefficients of the server.
-/

namespace Admin

/-! ## Digits, the last one first -/

/-- The number that reversed digits write. -/
def value (digits : List Char) : Nat := Nat.ofDigitChars 10 digits.reverse 0

@[simp] theorem value_nil : value [] = 0 := rfl

theorem digitOf_digitChar {n : Nat} (hn : n < 10) : digitOf (Nat.digitChar n) = n :=
  Nat.toNat_digitChar_sub_48_of_lt_ten hn

theorem digitOf_lt {c : Char} (h : c.isDigit = true) : digitOf c < 10 := by
  obtain ⟨n, hn, rfl⟩ := Text.digit_cases h
  rwa [digitOf_digitChar hn]

theorem value_cons {c : Char} {digits : List Char} (h : c.isDigit = true) :
    value (c :: digits) = 10 * value digits + digitOf c := by
  obtain ⟨n, hn, rfl⟩ := Text.digit_cases h
  rw [value, List.reverse_cons, Text.ofDigitChars_concat _ hn, digitOf_digitChar hn]
  rfl

theorem value_digitChar (digits : List Char) {n : Nat} (hn : n < 10) :
    value (Nat.digitChar n :: digits) = 10 * value digits + n := by
  rw [value, List.reverse_cons, Text.ofDigitChars_concat _ hn]
  rfl

theorem isDigit_digitChar {n : Nat} (hn : n < 10) : (Nat.digitChar n).isDigit = true := by
  rw [Nat.isDigit_digitChar]
  exact decide_eq_true hn

/-- **Carrying.** The loop writes the sum and the carry. -/
theorem value_addReversed {left right : List Char} {carry : Nat}
    (hl : left.all Char.isDigit = true) (hr : right.all Char.isDigit = true) (hc : carry ≤ 1) :
    value (addReversed left right carry) = value left + value right + carry ∧
      (addReversed left right carry).all Char.isDigit = true := by
  induction left, right, carry using addReversed.induct with
  | case1 =>
    unfold addReversed
    exact ⟨rfl, rfl⟩
  | case2 carry h0 =>
    unfold addReversed
    rw [if_neg h0, value_digitChar _ (by omega)]
    refine ⟨by simp, ?_⟩
    simp [isDigit_digitChar (show carry < 10 by omega)]
  | case3 carry a left sum ih =>
    rw [List.all_cons, Bool.and_eq_true] at hl
    have ha := digitOf_lt hl.1
    obtain ⟨hv, hd⟩ := ih hl.2 hr (by omega)
    unfold addReversed
    rw [value_digitChar _ (Nat.mod_lt _ (by decide)), hv, value_cons hl.1]
    refine ⟨?_, ?_⟩
    · rw [value_nil]
      omega
    · rw [List.all_cons, isDigit_digitChar (Nat.mod_lt _ (by decide)), hd]
      rfl
  | case4 carry b right sum ih =>
    rw [List.all_cons, Bool.and_eq_true] at hr
    have hb := digitOf_lt hr.1
    obtain ⟨hv, hd⟩ := ih hl hr.2 (by omega)
    unfold addReversed
    rw [value_digitChar _ (Nat.mod_lt _ (by decide)), hv, value_cons hr.1]
    refine ⟨?_, ?_⟩
    · rw [value_nil]
      omega
    · rw [List.all_cons, isDigit_digitChar (Nat.mod_lt _ (by decide)), hd]
      rfl
  | case5 carry a left b right sum ih =>
    rw [List.all_cons, Bool.and_eq_true] at hl hr
    have ha := digitOf_lt hl.1
    have hb := digitOf_lt hr.1
    obtain ⟨hv, hd⟩ := ih hl.2 hr.2 (by omega)
    unfold addReversed
    rw [value_digitChar _ (Nat.mod_lt _ (by decide)), hv, value_cons hl.1, value_cons hr.1]
    refine ⟨by omega, ?_⟩
    rw [List.all_cons, isDigit_digitChar (Nat.mod_lt _ (by decide)), hd]
    rfl

/-- The first digit of the number taken away, and the rest of it. -/
theorem value_head_tail {digits : List Char} (h : digits.all Char.isDigit = true) :
    value digits = 10 * value digits.tail + (digits.head?.map digitOf).getD 0 ∧
      (digits.head?.map digitOf).getD 0 < 10 ∧ digits.tail.all Char.isDigit = true := by
  cases digits with
  | nil => exact ⟨rfl, by decide, rfl⟩
  | cons c digits =>
    rw [List.all_cons, Bool.and_eq_true] at h
    exact ⟨value_cons h.1, digitOf_lt h.1, h.2⟩

/-- **Borrowing.** What the loop writes makes up the difference. -/
theorem value_subtractReversed {larger smaller : List Char} {borrow : Nat}
    (hl : larger.all Char.isDigit = true) (hs : smaller.all Char.isDigit = true) (hb : borrow ≤ 1)
    (hle : value smaller + borrow ≤ value larger) :
    value (subtractReversed larger smaller borrow) + value smaller + borrow = value larger ∧
      (subtractReversed larger smaller borrow).all Char.isDigit = true := by
  induction larger generalizing smaller borrow with
  | nil =>
    rw [value_nil] at hle ⊢
    exact ⟨by simp only [subtractReversed, value_nil]; omega, rfl⟩
  | cons a larger ih =>
    rw [List.all_cons, Bool.and_eq_true] at hl
    obtain ⟨hval, hdigit, htail⟩ := value_head_tail hs
    have ha := digitOf_lt hl.1
    rw [value_cons hl.1] at hle ⊢
    rw [hval] at hle ⊢
    rw [subtractReversed]
    split
    · rename_i hlt
      obtain ⟨hv, hd⟩ := ih hl.2 htail le_rfl (by omega)
      rw [value_digitChar _ (by omega), List.all_cons, isDigit_digitChar (by omega), hd]
      exact ⟨by omega, rfl⟩
    · rename_i hge
      obtain ⟨hv, hd⟩ := ih hl.2 htail (Nat.zero_le 1) (by omega)
      rw [value_digitChar _ (by omega), List.all_cons, isDigit_digitChar (by omega), hd]
      exact ⟨by omega, rfl⟩

/-! ## Magnitudes -/

/-- The number that digits write. -/
def magnitude (digits : List Char) : Nat := Nat.ofDigitChars 10 digits 0

theorem magnitude_stripZeros {digits : List Char} (h : digits.all Char.isDigit = true) :
    magnitude (Text.stripZeros digits) = magnitude digits := by
  rw [magnitude, ← Text.toDigits_ofDigitChars h, Nat.ofDigitChars_ten_toDigits]
  rfl

theorem all_stripZeros {digits : List Char} (h : digits.all Char.isDigit = true) :
    (Text.stripZeros digits).all Char.isDigit = true := by
  rw [← Text.toDigits_ofDigitChars h]
  exact Text.all_isDigit_toDigits _

theorem addMagnitudes_spec {left right : List Char} (hl : left.all Char.isDigit = true)
    (hr : right.all Char.isDigit = true) :
    magnitude (addMagnitudes left right) = magnitude left + magnitude right ∧
      (addMagnitudes left right).all Char.isDigit = true := by
  have hl' : left.reverse.all Char.isDigit = true := by rwa [List.all_reverse]
  have hr' : right.reverse.all Char.isDigit = true := by rwa [List.all_reverse]
  obtain ⟨hv, hd⟩ := value_addReversed hl' hr' (Nat.zero_le 1)
  refine ⟨?_, by rwa [addMagnitudes, List.all_reverse]⟩
  simpa [value, magnitude, addMagnitudes] using hv

theorem popZeros_spec {digits : List Char} (h : digits.all Char.isDigit = true) :
    magnitude (popZeros digits) = magnitude digits ∧ (popZeros digits).all Char.isDigit = true := by
  induction digits using popZeros.induct with
  | case1 c rest ih =>
    rw [List.all_cons, Bool.and_eq_true] at h
    obtain ⟨hm, hd⟩ := ih h.2
    unfold popZeros
    refine ⟨hm.trans ?_, hd⟩
    show _ = Nat.ofDigitChars 10 ('0' :: c :: rest) 0
    rw [Nat.ofDigitChars_cons]
    rfl
  | case2 digits hne =>
    have hsame : popZeros digits = digits := by
      unfold popZeros
      split
      · exact absurd rfl (hne _ _)
      · rfl
    rw [hsame]
    exact ⟨rfl, h⟩

theorem subtractMagnitudes_spec {larger smaller : List Char} (hl : larger.all Char.isDigit = true)
    (hs : smaller.all Char.isDigit = true) (hle : magnitude smaller ≤ magnitude larger) :
    magnitude (subtractMagnitudes larger smaller) + magnitude smaller = magnitude larger ∧
      (subtractMagnitudes larger smaller).all Char.isDigit = true := by
  have hl' : larger.reverse.all Char.isDigit = true := by rwa [List.all_reverse]
  have hs' : smaller.reverse.all Char.isDigit = true := by rwa [List.all_reverse]
  obtain ⟨hv, hd⟩ := value_subtractReversed hl' hs' (Nat.zero_le 1)
    (by simpa [value, magnitude] using hle)
  have hd' : (subtractReversed larger.reverse smaller.reverse 0).reverse.all Char.isDigit = true := by
    rwa [List.all_reverse]
  obtain ⟨hm, hall⟩ := popZeros_spec hd'
  refine ⟨?_, hall⟩
  rw [subtractMagnitudes, hm]
  simpa [value, magnitude] using hv

/-! ## Comparing -/

theorem length_toDigits_mono {m n : Nat} (h : m ≤ n) :
    (Nat.toDigits 10 m).length ≤ (Nat.toDigits 10 n).length :=
  (Nat.length_toDigits_le_iff (by decide) Nat.length_toDigits_pos).2
    (h.trans_lt ((Nat.length_toDigits_le_iff (by decide) Nat.length_toDigits_pos).1 le_rfl))

/-- **Comparing.** Length first, then text, is the order of the numbers. -/
theorem compareMagnitudes_spec {left right : List Char} (hl : left.all Char.isDigit = true)
    (hr : right.all Char.isDigit = true) :
    compareMagnitudes left right = compare (magnitude left) (magnitude right) := by
  have hlen : ∀ {a b : List Char}, a.all Char.isDigit = true → b.all Char.isDigit = true →
      (trimLeadingZeros a).length < (trimLeadingZeros b).length → magnitude a < magnitude b := by
    intro a b ha hb h
    by_contra hle
    have hmono := length_toDigits_mono (not_lt.1 hle)
    rw [magnitude, magnitude, Text.toDigits_ofDigitChars ha, Text.toDigits_ofDigitChars hb] at hmono
    exact absurd h (not_lt.2 hmono)
  show (compare (trimLeadingZeros left).length (trimLeadingZeros right).length).then
    (compareOfLessAndEq (trimLeadingZeros left) (trimLeadingZeros right)) = _
  rcases lt_trichotomy (trimLeadingZeros left).length (trimLeadingZeros right).length
    with h | h | h
  · rw [compare_lt_iff_lt.2 h, compare_lt_iff_lt.2 (hlen hl hr h)]
    rfl
  · rw [compare_eq_iff_eq.2 h]
    show compareOfLessAndEq (Text.stripZeros left) (Text.stripZeros right) = _
    have hlt := Text.lt_iff_ofDigitChars (all_stripZeros hl) (all_stripZeros hr) h
    change _ ↔ magnitude (Text.stripZeros left) < magnitude (Text.stripZeros right) at hlt
    rw [magnitude_stripZeros hl, magnitude_stripZeros hr] at hlt
    have heq : Text.stripZeros left = Text.stripZeros right ↔ magnitude left = magnitude right := by
      rw [← Text.toDigits_ofDigitChars hl, ← Text.toDigits_ofDigitChars hr]
      refine ⟨fun h => ?_, fun h => congrArg (Nat.toDigits 10) h⟩
      rw [magnitude, ← Nat.ofDigitChars_ten_toDigits (n := Nat.ofDigitChars 10 left 0), h,
        Nat.ofDigitChars_ten_toDigits, magnitude]
    unfold compareOfLessAndEq
    rw [if_congr hlt rfl (if_congr heq rfl rfl)]
    rfl
  · rw [compare_gt_iff_gt.2 h, compare_gt_iff_gt.2 (hlen hr hl h)]
    rfl

/-! ## Writing -/

/-- The decimal that digits with a sign and a scale stand for. -/
def ExactDecimal.toDecimal (x : ExactDecimal) : Decimal :=
  .normalized (if x.negative then -magnitude x.digits else magnitude x.digits) x.scale

theorem insertPoint_concat (digits : List Char) (scale : Nat) :
    Decimal.insertPoint (digits ++ ['0']) (scale + 1) = Decimal.insertPoint digits scale ++ ['0'] := by
  unfold Decimal.insertPoint
  have hpad : List.replicate (scale + 1 + 1 - (digits ++ ['0']).length) '0' ++ (digits ++ ['0'])
      = List.replicate (scale + 1 - digits.length) '0' ++ digits ++ ['0'] := by
    rw [List.length_append, List.length_singleton, Nat.add_sub_add_right, List.append_assoc]
  rw [hpad]
  generalize hpadded : List.replicate (scale + 1 - digits.length) '0' ++ digits = padded
  have hlen : scale < padded.length := by
    rw [← hpadded, List.length_append, List.length_replicate]
    omega
  have hcut : (padded ++ ['0']).length - (scale + 1) = padded.length - scale := by
    rw [List.length_append, List.length_singleton, Nat.add_sub_add_right]
  dsimp only
  rw [hcut, List.take_append_of_le_length (by omega), List.drop_append_of_le_length (by omega),
    List.append_assoc, List.cons_append]

theorem getLast_insertPoint {digits : List Char} {scale : Nat} (h : 0 < digits.length) :
    (Decimal.insertPoint digits (scale + 1)).getLast? = digits.getLast? := by
  unfold Decimal.insertPoint
  generalize hpadded : List.replicate (scale + 1 + 1 - digits.length) '0' ++ digits = padded
  obtain ⟨c, hc⟩ : ∃ c, digits.getLast? = some c :=
    ⟨_, List.getLast?_eq_some_getLast (List.ne_nil_of_length_pos h)⟩
  have hlast : padded.getLast? = digits.getLast? := by
    rw [← hpadded, List.getLast?_append, hc, Option.some_or]
  have hlen : scale + 1 < padded.length := by
    rw [← hpadded, List.length_append, List.length_replicate]
    omega
  have hdrop : (padded.drop (padded.length - (scale + 1))).getLast? = digits.getLast? := by
    rw [List.getLast?_drop, if_neg (by omega), hlast]
  dsimp only
  rw [List.getLast?_append, List.getLast?_cons, hdrop, hc]
  rfl

/-- What the importer writes of a positive number and a scale. -/
def scaledText (n scale : Nat) : List Char :=
  if 0 < scale then withPoint (Nat.toDigits 10 n) scale else Nat.toDigits 10 n

/-- A zero at the end of the fraction is not written. -/
theorem scaledText_mul (m scale : Nat) (hm : 0 < m) :
    scaledText (10 * m) (scale + 1) = scaledText m scale := by
  have hdigits : Nat.toDigits 10 (10 * m) = Nat.toDigits 10 m ++ ['0'] := by
    have h := Nat.toDigits_append_toDigits (by decide : 1 < 10) hm (by decide : 0 < 10)
    rw [Nat.toDigits_zero] at h
    exact h.symm
  have hdrop : ∀ text : List Char,
      (text ++ ['0']).rdropWhile (· = '0') = text.rdropWhile (· = '0') := fun text =>
    List.rdropWhile_concat_pos _ _ _ (by decide)
  unfold scaledText
  rw [if_pos (Nat.succ_pos scale), hdigits]
  unfold withPoint
  rw [insertPoint_concat, hdrop]
  split
  · rfl
  · rename_i hscale
    obtain rfl : scale = 0 := by omega
    have hlen : 0 < (Nat.toDigits 10 m).length := Nat.length_toDigits_pos
    have hpoint : Decimal.insertPoint (Nat.toDigits 10 m) 0 = Nat.toDigits 10 m ++ ['.'] := by
      unfold Decimal.insertPoint
      have hzero : 0 + 1 - (Nat.toDigits 10 m).length = 0 := by omega
      simp [hzero]
    have hkeep : (Nat.toDigits 10 m ++ ['.']).rdropWhile (· = '0') = Nat.toDigits 10 m ++ ['.'] :=
      List.rdropWhile_concat_neg _ _ _ (by decide)
    rw [hpoint, hkeep]
    simp

/-- Other fractions are written as they are. -/
theorem scaledText_of_not_dvd {n scale : Nat} (hn : ¬ 10 ∣ n) :
    scaledText n (scale + 1) = Decimal.insertPoint (Nat.toDigits 10 n) (scale + 1) := by
  have hlast := @getLast_insertPoint (Nat.toDigits 10 n) scale Nat.length_toDigits_pos
  rw [Text.getLast_toDigits] at hlast
  have hmod : n % 10 < 10 := Nat.mod_lt _ (by decide)
  have hpoint : Nat.digitChar (n % 10) ≠ '.' := (Decimal.digit_ne (isDigit_digitChar hmod)).1
  have hkeep : (Decimal.insertPoint (Nat.toDigits 10 n) (scale + 1)).rdropWhile (· = '0')
      = Decimal.insertPoint (Nat.toDigits 10 n) (scale + 1) := by
    rw [List.rdropWhile_eq_self_iff]
    intro hne hzero
    rw [List.getLast?_eq_some_getLast hne, Option.some.injEq] at hlast
    rw [hlast, decide_eq_true_eq, Nat.digitChar_eq_zero] at hzero
    exact hn (Nat.dvd_of_mod_eq_zero hzero)
  unfold scaledText withPoint
  rw [if_pos (Nat.succ_pos scale), hkeep, if_neg]
  rw [hlast, Option.some.injEq]
  exact hpoint

/-- **Writing.** Stripping zeros from the text is normalising the coefficient. -/
theorem scaledText_eq {n : Nat} (hn : 0 < n) (scale : Nat) :
    scaledText n scale = (Decimal.normalized n scale).magnitudeText := by
  induction scale generalizing n with
  | zero => rfl
  | succ scale ih =>
    unfold Decimal.normalized
    by_cases h : 10 ∣ n
    · obtain ⟨m, rfl⟩ := h
      have hdvd : (10 : Int) ∣ ((10 * m : Nat) : Int) := ⟨m, by push_cast; rfl⟩
      have hdiv : ((10 * m : Nat) : Int) / 10 = m := by omega
      rw [scaledText_mul m scale (by omega), dif_pos hdvd, hdiv]
      exact ih (by omega)
    · have hdvd : ¬ (10 : Int) ∣ n := fun h' => h (by exact_mod_cast h')
      rw [scaledText_of_not_dvd h, dif_neg hdvd]
      rfl

theorem normalized_neg (n : Int) (scale : Nat) :
    Decimal.normalized (-n) scale = -Decimal.normalized n scale := by
  apply Decimal.toRat_injective
  rw [Decimal.toRat_neg, Decimal.toRat_normalized, Decimal.toRat_normalized]
  push_cast
  ring

theorem magnitudeText_neg (d : Decimal) : (-d).magnitudeText = d.magnitudeText := by
  show Decimal.magnitudeText d.negated = _
  unfold Decimal.magnitudeText Decimal.negated
  rw [Int.natAbs_neg]

/-- The importer writes the text of the server. -/
theorem formatExactDecimal_eq {x : ExactDecimal} (h : x.digits.all Char.isDigit = true) :
    formatExactDecimal x = x.toDecimal.format := by
  have htrim : trimLeadingZeros x.digits = Nat.toDigits 10 (magnitude x.digits) :=
    (Text.toDigits_ofDigitChars h).symm
  unfold formatExactDecimal ExactDecimal.toDecimal
  simp only [htrim]
  generalize magnitude x.digits = n
  rcases Nat.eq_zero_or_pos n with rfl | hn
  · have hzero : Decimal.normalized (if x.negative then -((0 : Nat) : Int) else (0 : Nat)) x.scale = 0 := by
      apply Decimal.toRat_injective
      rw [Decimal.toRat_normalized, Decimal.toRat_zero]
      simp
    rw [hzero]
    rfl
  · have hne : Nat.toDigits 10 n ≠ ['0'] := fun h => by
      have hval := congrArg (fun ds => Nat.ofDigitChars 10 ds 0) h
      simp only [Nat.ofDigitChars_ten_toDigits] at hval
      have hval : n = 0 := hval
      omega
    rw [if_neg hne]
    have htext := scaledText_eq hn x.scale
    unfold scaledText at htext
    rw [htext, Decimal.format]
    have hpos : 0 < (Decimal.normalized n x.scale).toRat := by
      rw [Decimal.toRat_normalized]
      exact div_pos (by exact_mod_cast hn) (by positivity)
    cases x.negative with
    | true =>
      have hneg : (-Decimal.normalized n x.scale).coefficient < 0 := by
        rw [← Decimal.toRat_neg_iff, Decimal.toRat_neg]
        linarith
      rw [if_pos rfl, if_pos rfl, normalized_neg, if_pos hneg, magnitudeText_neg]
    | false =>
      have hneg : ¬ (Decimal.normalized n x.scale).coefficient < 0 := by
        rw [← Decimal.toRat_neg_iff]
        linarith
      rw [if_neg Bool.false_ne_true, if_neg Bool.false_ne_true, if_neg hneg]

/-! ## Reading -/

open DecimalText

/-- The digits that are read, with the zeros of a positive exponent. -/
def readDigits (value : String) : List Char :=
  digits value ++ List.replicate (-DecimalText.scale value).toNat '0'

/-- Every character of an accepted mantissa but the point is a digit. -/
theorem all_isDigit_digits {value : String}
    (h : (mantissa value).all (fun c => c = '.' || c.isDigit) = true) :
    (digits value).all Char.isDigit = true := by
  rw [List.all_eq_true] at h ⊢
  intro c hc
  rw [digits, List.mem_filter] at hc
  have hpoint : c ≠ '.' := by simpa using hc.2
  simpa [hpoint] using h c hc.1

theorem validDecimalText_iff (value : String) :
    validDecimalText value = true ↔
      (exponents value).length ≤ 1 ∧
      (∀ e ∈ exponents value, (Text.parseSigned (2 ^ 31) e).isSome = true) ∧
      (mantissa value).all (fun c => c = '.' || c.isDigit) = true ∧
      (mantissa value).count '.' ≤ 1 ∧ digits value ≠ [] := by
  obtain ⟨m, es, hparts⟩ := List.exists_cons_of_ne_nil
    (List.splitOnP_ne_nil (fun c => decide (c = 'e' ∨ c = 'E')) (Text.unsigned (text value)))
  have hm : mantissa value = m := by
    rw [mantissa, Decimal.splitExponent, hparts, List.headD_cons]
  have hes : exponents value = es := by
    rw [exponents, Decimal.splitExponent, hparts, List.tail_cons]
  have hsplit : Decimal.splitExponent (Text.unsigned (Text.trim value.toList)) = m :: es := hparts
  have hempty : Text.trim value.toList = [] → m = [] := by
    intro hnil
    rw [hnil] at hsplit
    exact (List.cons.inj hsplit).1.symm
  unfold validDecimalText
  simp only [hsplit, Bool.and_eq_true, decide_eq_true_eq, List.headD_cons, List.length_cons]
  rw [hm, hes]
  -- a digit is counted iff something besides the point is left
  have hdigits : m.all (fun c => c = '.' || c.isDigit) = true →
      (0 < m.countP Char.isDigit ↔ digits value ≠ []) := by
    intro hall
    rw [List.all_eq_true] at hall
    rw [List.countP_pos_iff, digits, hm, ne_eq, List.filter_eq_nil_iff]
    push Not
    refine exists_congr fun c => and_congr_right fun hc => ?_
    have hcase := hall c hc
    by_cases hpoint : c = '.'
    · subst hpoint
      decide
    · simpa [hpoint] using hcase
  constructor
  · rintro ⟨⟨⟨⟨⟨_, hlen⟩, hnumeric⟩, hall⟩, hcount⟩, hpoint⟩
    have hlen' : es.length ≤ 1 := by omega
    refine ⟨hlen', ?_, hall, hpoint, (hdigits hall).1 hcount⟩
    cases es with
    | nil => simp
    | cons e es =>
      obtain rfl := List.length_eq_zero_iff.1 (Nat.le_zero.1 (Nat.le_of_succ_le_succ hlen'))
      simpa using hnumeric
  · rintro ⟨hlen, hnumeric, hall, hpoint, hne⟩
    have hcount := (hdigits hall).2 hne
    refine ⟨⟨⟨⟨⟨?_, by omega⟩, ?_⟩, hall⟩, hcount⟩, hpoint⟩
    · intro hnil
      rw [hempty hnil] at hcount
      exact absurd hcount (by decide)
    · cases es with
      | nil => rfl
      | cons e es =>
        obtain rfl := List.length_eq_zero_iff.1 (Nat.le_zero.1 (Nat.le_of_succ_le_succ hlen))
        simpa using hnumeric

/-- **The importer accepts what the server accepts**, and reads the same digits. -/
theorem parseExactDecimal_ok {value : String} {x : ExactDecimal} :
    parseExactDecimal value = .ok x ↔ Accepted value ∧
      x = ⟨decide ((text value).head? = some '-'), Text.stripZeros (readDigits value),
        (DecimalText.scale value).toNat⟩ := by
  have hexponent : ((Decimal.splitExponent (Text.unsigned (Text.trim value.toList)))[1]?.bind
      (Text.parseSigned (2 ^ 31))).getD 0 = exponent value := by
    rw [exponent, exponents, text]
    cases Decimal.splitExponent (Text.unsigned (Text.trim value.toList)) with
    | nil => rfl
    | cons m es => cases es <;> rfl
  simp only [parseExactDecimal, hexponent, Except.bind_eq_ok, Except.ensure_eq_ok,
    Except.pure_eq_ok, exists_const, validDecimalText_iff]
  constructor
  · rintro ⟨⟨hlen, hnumeric, hall, hpoint, hne⟩, hsmall, hscale, rfl⟩
    exact ⟨⟨hlen, hnumeric, hsmall, hall, hpoint, hne, hscale⟩, rfl⟩
  · rintro ⟨h, rfl⟩
    exact ⟨⟨h.exponents, h.numeric, h.characters, h.point, h.digits⟩, h.small, h.scale, rfl⟩

theorem all_isDigit_readDigits {value : String} (h : Accepted value) :
    (readDigits value).all Char.isDigit = true := by
  rw [readDigits, List.all_append, Bool.and_eq_true]
  exact ⟨all_isDigit_digits h.characters, Text.all_isDigit_replicate _⟩

/-- What both sides read of an accepted text. -/
theorem parse_both {value : String} (h : Accepted value) :
    ∃ x d, parseExactDecimal value = .ok x ∧ Decimal.parse value = .ok d ∧
      x.digits.all Char.isDigit = true ∧ x.toDecimal = d := by
  refine ⟨_, _, parseExactDecimal_ok.2 ⟨h, rfl⟩, Decimal.parse_ok.2 ⟨h, rfl⟩,
    all_stripZeros (all_isDigit_readDigits h), ?_⟩
  unfold ExactDecimal.toDecimal readCoefficient
  rw [magnitude_stripZeros (all_isDigit_readDigits h)]
  by_cases hneg : (text value).head? = some '-'
  · rw [if_pos (decide_eq_true hneg), if_pos hneg]
    rfl
  · rw [if_neg fun h => hneg (of_decide_eq_true h), if_neg hneg]
    rfl

theorem parse_neither {value : String} (h : ¬ Accepted value) :
    (∃ e, parseExactDecimal value = .error e) ∧ ∃ e, Decimal.parse value = .error e := by
  constructor
  · cases hx : parseExactDecimal value with
    | error e => exact ⟨e, rfl⟩
    | ok x => exact absurd (parseExactDecimal_ok.1 hx).1 h
  · cases hd : Decimal.parse value with
    | error e => exact ⟨e, rfl⟩
    | ok d => exact absurd (Decimal.parse_ok.1 hd).1 h

/-! ## Adding and negating -/

theorem magnitude_zeros (digits : List Char) (n : Nat) :
    magnitude (digits ++ List.replicate n '0') = 10 ^ n * magnitude digits := by
  rw [magnitude, Nat.ofDigitChars_append, Nat.ofDigitChars_replicate_zero]
  rfl

theorem all_zeros {digits : List Char} (h : digits.all Char.isDigit = true) (n : Nat) :
    (digits ++ List.replicate n '0').all Char.isDigit = true := by
  rw [List.all_append, Bool.and_eq_true]
  exact ⟨h, Text.all_isDigit_replicate n⟩

/-- The sign and digits of a sum, by the signs and digits of its terms. -/
def signedSum (leftNegative rightNegative : Bool) (left right : List Char) : Bool × List Char :=
  if leftNegative = rightNegative then (leftNegative, addMagnitudes left right)
  else match compareMagnitudes left right with
    | .gt => (leftNegative, subtractMagnitudes left right)
    | .lt => (rightNegative, subtractMagnitudes right left)
    | .eq => (false, ['0'])

def signed (negative : Bool) (n : Nat) : Int := if negative then -n else n

/-- **Schoolbook addition of signed digits is addition.** -/
theorem signedSum_spec {left right : List Char} (hl : left.all Char.isDigit = true)
    (hr : right.all Char.isDigit = true) (ln rn : Bool) :
    signed (signedSum ln rn left right).1 (magnitude (signedSum ln rn left right).2)
        = signed ln (magnitude left) + signed rn (magnitude right) ∧
      (signedSum ln rn left right).2.all Char.isDigit = true := by
  unfold signedSum
  split
  · rename_i hsame
    subst hsame
    obtain ⟨hsum, hall⟩ := addMagnitudes_spec hl hr
    refine ⟨?_, hall⟩
    rw [hsum]
    cases ln with
    | true =>
      simp only [signed, if_true]
      push_cast
      ring
    | false =>
      simp only [signed, Bool.false_eq_true, if_false]
      push_cast
      rfl
  · rename_i hdiff
    rw [compareMagnitudes_spec hl hr]
    rcases lt_trichotomy (magnitude left) (magnitude right) with h | h | h
    · rw [compare_lt_iff_lt.2 h]
      obtain ⟨hsub, hall⟩ := subtractMagnitudes_spec hr hl h.le
      refine ⟨?_, hall⟩
      show signed rn (magnitude (subtractMagnitudes right left)) = _
      rw [← hsub]
      cases ln <;> cases rn <;> simp_all [signed] <;> omega
    · rw [compare_eq_iff_eq.2 h]
      have hzero : magnitude ['0'] = 0 := rfl
      refine ⟨?_, rfl⟩
      rw [h]
      cases ln <;> cases rn <;> simp_all [signed]
    · rw [compare_gt_iff_gt.2 h]
      obtain ⟨hsub, hall⟩ := subtractMagnitudes_spec hl hr h.le
      refine ⟨?_, hall⟩
      show signed ln (magnitude (subtractMagnitudes left right)) = _
      rw [← hsub]
      cases ln <;> cases rn <;> simp_all [signed] <;> omega

theorem toRat_toDecimal (x : ExactDecimal) :
    x.toDecimal.toRat = signed x.negative (magnitude x.digits) / 10 ^ x.scale := by
  rw [ExactDecimal.toDecimal, Decimal.toRat_normalized]
  rfl

/-- **Sums.** The importer writes the sum of the server. -/
theorem addExactDecimals_eq {left right : String} {a b : Decimal}
    (ha : Decimal.parse left = .ok a) (hb : Decimal.parse right = .ok b) :
    addExactDecimals left right = .ok (a + b).format := by
  obtain ⟨x, a', hx, ha', hxdigits, hxa⟩ := parse_both (Decimal.parse_ok.1 ha).1
  obtain ⟨y, b', hy, hb', hydigits, hyb⟩ := parse_both (Decimal.parse_ok.1 hb).1
  obtain rfl : a' = a := Except.ok.inj (ha'.symm.trans ha)
  obtain rfl : b' = b := Except.ok.inj (hb'.symm.trans hb)
  subst hxa hyb
  obtain ⟨hsum, hall⟩ := signedSum_spec (all_zeros hxdigits (max x.scale y.scale - x.scale))
    (all_zeros hydigits (max x.scale y.scale - y.scale)) x.negative y.negative
  generalize hs : signedSum x.negative y.negative
    (x.digits ++ List.replicate (max x.scale y.scale - x.scale) '0')
    (y.digits ++ List.replicate (max x.scale y.scale - y.scale) '0') = s at hsum hall
  have hresult : addExactDecimals left right
      = .ok (formatExactDecimal ⟨s.1, trimLeadingZeros s.2, max x.scale y.scale⟩) := by
    rw [addExactDecimals, hx, hy, ← hs]
    rfl
  have hdecimal : (⟨s.1, trimLeadingZeros s.2, max x.scale y.scale⟩ : ExactDecimal).toDecimal
      = x.toDecimal + y.toDecimal := by
    apply Decimal.toRat_injective
    rw [Decimal.toRat_add, toRat_toDecimal, toRat_toDecimal, toRat_toDecimal]
    simp only [trimLeadingZeros, magnitude_stripZeros hall]
    rw [hsum, magnitude_zeros, magnitude_zeros]
    obtain ⟨p, hp⟩ := Nat.exists_eq_add_of_le (le_max_left x.scale y.scale)
    obtain ⟨q, hq⟩ := Nat.exists_eq_add_of_le (le_max_right x.scale y.scale)
    have hp' : max x.scale y.scale - x.scale = p := by omega
    have hq' : max x.scale y.scale - y.scale = q := by omega
    rw [hp', hq']
    have hscaled : ∀ (negative : Bool) (n k : Nat),
        (signed negative (10 ^ k * n) : ℚ) = 10 ^ k * signed negative n := by
      intro negative n k
      cases negative <;> simp [signed]
    push_cast
    rw [hscaled, hscaled, add_div]
    congr 1
    · rw [hp, pow_add]
      field_simp
    · rw [hq, pow_add]
      field_simp
  rw [hresult, formatExactDecimal_eq (all_stripZeros hall), hdecimal]

theorem any_ne_zero {digits : List Char} (h : digits.all Char.isDigit = true) :
    digits.any (· ≠ '0') = true ↔ magnitude digits ≠ 0 := by
  rw [magnitude, ne_eq, Text.ofDigitChars_eq_zero h, List.any_eq_true]
  push Not
  simp

/-- **Negation.** -/
theorem negateDecimal_eq {value : String} {d : Decimal} (h : Decimal.parse value = .ok d) :
    negateDecimal value = .ok (-d).format := by
  obtain ⟨x, d', hx, hd', hdigits, rfl⟩ := parse_both (Decimal.parse_ok.1 h).1
  obtain rfl : x.toDecimal = d := Except.ok.inj (hd'.symm.trans h)
  have hresult : negateDecimal value = .ok (formatExactDecimal
      (if x.digits.any (· ≠ '0') then { x with negative := !x.negative } else x)) := by
    rw [negateDecimal, hx]
    rfl
  rw [hresult]
  split
  · rw [formatExactDecimal_eq (x := { x with negative := !x.negative }) hdigits]
    have hneg : ({ x with negative := !x.negative } : ExactDecimal).toDecimal = -x.toDecimal := by
      apply Decimal.toRat_injective
      rw [Decimal.toRat_neg, toRat_toDecimal, toRat_toDecimal]
      cases x.negative <;> simp [signed] <;> ring
    rw [hneg]
  · rename_i hzero
    have hmagnitude : magnitude x.digits = 0 := by
      by_contra hne
      exact hzero ((any_ne_zero hdigits).2 hne)
    have hself : x.toDecimal = 0 := by
      apply Decimal.toRat_injective
      rw [toRat_toDecimal, hmagnitude, Decimal.toRat_zero]
      cases x.negative <;> simp [signed]
    rw [formatExactDecimal_eq hdigits, hself]
    rfl

/-! ## Zero and sign -/

theorem decimalIsZero_eq {value : String} {d : Decimal} (h : Decimal.parse value = .ok d) :
    decimalIsZero value = .ok (decide (d = 0)) := by
  obtain ⟨x, d', hx, hd', hdigits, rfl⟩ := parse_both (Decimal.parse_ok.1 h).1
  obtain rfl : x.toDecimal = d := Except.ok.inj (hd'.symm.trans h)
  have hresult : decimalIsZero value = .ok (!x.digits.any (· ≠ '0')) := by
    rw [decimalIsZero, hx]
    rfl
  have hzero : x.toDecimal = 0 ↔ magnitude x.digits = 0 := by
    rw [← Decimal.toRat_injective.eq_iff, Decimal.toRat_zero, toRat_toDecimal, div_eq_zero_iff]
    have hpow : ((10 : ℚ) ^ x.scale) ≠ 0 := by positivity
    cases x.negative <;> simp [signed]
  rw [hresult, Except.ok.injEq]
  rw [Bool.eq_iff_iff, decide_eq_true_iff, hzero, Bool.not_eq_true', ← Bool.not_eq_true,
    any_ne_zero hdigits, not_not]

/-- The white space, the sign and the rest of a text. -/
theorem toList_parts (value : String) : ∃ before sign after : List Char,
    value.toList = before ++ (sign ++ Text.unsigned (text value)) ++ after ∧
      (∀ c ∈ before, Text.isWhiteSpace c = true) ∧ (∀ c ∈ after, Text.isWhiteSpace c = true) ∧
      (∀ c ∈ sign, c = '-' ∨ c = '+') ∧ sign ++ Text.unsigned (text value) = text value := by
  obtain ⟨sign, hsign, hall⟩ : ∃ sign, sign ++ Text.unsigned (text value) = text value ∧
      ∀ c ∈ sign, c = '-' ∨ c = '+' := by
    unfold Text.unsigned
    split
    · rename_i rest h
      exact ⟨['-'], h.symm, by simp⟩
    · rename_i rest h
      exact ⟨['+'], h.symm, by simp⟩
    · exact ⟨[], rfl, by simp⟩
  refine ⟨value.toList.takeWhile Text.isWhiteSpace, sign,
    (value.toList.dropWhile Text.isWhiteSpace).rtakeWhile Text.isWhiteSpace, ?_, ?_, ?_, hall, hsign⟩
  · rw [hsign, text, Text.trim, List.append_assoc, List.rdropWhile_append_rtakeWhile,
      List.takeWhile_append_dropWhile]
  · exact fun c hc => List.mem_takeWhile_imp hc
  · exact fun c hc => List.mem_rtakeWhile_imp hc

/-- The mantissa is what stands before the first exponent mark. -/
theorem headD_splitExponent (chars : List Char) :
    (Decimal.splitExponent chars).headD [] = chars.takeWhile fun c => c ≠ 'e' && c ≠ 'E' := by
  induction chars with
  | nil => rfl
  | cons c chars ih =>
    unfold Decimal.splitExponent at ih ⊢
    rw [List.splitOnP_cons_eq_if_modifyHead]
    by_cases hc : c = 'e' ∨ c = 'E'
    · rw [if_pos (decide_eq_true hc)]
      rcases hc with rfl | rfl <;> rfl
    · rw [if_neg (by simpa using hc)]
      obtain ⟨m, es, hparts⟩ := List.exists_cons_of_ne_nil
        (List.splitOnP_ne_nil (fun c => decide (c = 'e' ∨ c = 'E')) chars)
      rw [hparts, List.headD_cons] at ih
      rw [hparts, List.modifyHead_cons, List.headD_cons, ih]
      rw [not_or] at hc
      simp [hc.1, hc.2]

/-- White space and signs hold no digit. -/
theorem not_digit_of_whiteSpace {c : Char} (h : Text.isWhiteSpace c = true) : c.isDigit = false := by
  by_contra hd
  rw [Bool.not_eq_false] at hd
  rw [Text.isWhiteSpace_of_isDigit hd] at h
  cases h

/-- The digits other than zero before the exponent mark are those of the mantissa. -/
theorem any_before_exponent (value : String) :
    ((value.toList.takeWhile fun c => c ≠ 'e' && c ≠ 'E').any fun c => c.isDigit && c ≠ '0') = true
      ↔ (mantissa value).any (fun c => c.isDigit && c ≠ '0') = true := by
  obtain ⟨before, sign, after, hvalue, hbefore, hafter, hsign, -⟩ := toList_parts value
  have hmark : ∀ {c : Char}, Text.isWhiteSpace c = true → c ≠ 'e' ∧ c ≠ 'E' := by
    intro c hc
    constructor
    · rintro rfl
      exact absurd hc (by decide)
    · rintro rfl
      exact absurd hc (by decide)
  have hfirst : ∀ c ∈ before ++ sign, (c ≠ 'e' && c ≠ 'E') = true ∧ c.isDigit = false := by
    intro c hc
    rcases List.mem_append.1 hc with hc | hc
    · have hne := hmark (hbefore c hc)
      exact ⟨by simp [hne.1, hne.2], not_digit_of_whiteSpace (hbefore c hc)⟩
    · rcases hsign c hc with rfl | rfl <;> exact ⟨by decide, by decide⟩
  have hnone : ∀ {l : List Char}, (∀ c ∈ l, c.isDigit = false) →
      (l.any fun c => c.isDigit && c ≠ '0') = false := by
    intro l hl
    rw [List.any_eq_false]
    intro c hc
    simp [hl c hc]
  rw [hvalue, ← List.append_assoc, List.append_assoc,
    List.takeWhile_append_of_pos fun c hc => (hfirst c hc).1, List.any_append,
    hnone fun c hc => (hfirst c hc).2, Bool.false_or, mantissa, headD_splitExponent,
    List.takeWhile_append]
  split
  · rename_i hall
    have hself := (List.takeWhile_prefix _).eq_of_length hall
    have hrest : (after.takeWhile fun c => c ≠ 'e' && c ≠ 'E').any (fun c => c.isDigit && c ≠ '0')
        = false :=
      hnone fun c hc => not_digit_of_whiteSpace (hafter c ((List.takeWhile_subset _) hc))
    rw [List.any_append, hrest, Bool.or_false, hself]
  · exact Iff.rfl

/-- The first character that is not white space starts the trimmed text. -/
theorem head_text {value : String} (h : text value ≠ []) :
    (value.toList.dropWhile Text.isWhiteSpace).head? = (text value).head? := by
  obtain ⟨rest, hrest⟩ : text value <+: value.toList.dropWhile Text.isWhiteSpace :=
    List.rdropWhile_prefix _ _
  rw [← hrest, List.head?_append_of_ne_nil _ h]

theorem text_ne_nil {value : String} (h : Accepted value) : text value ≠ [] := by
  intro hnil
  apply h.digits
  rw [digits, mantissa, hnil]
  rfl

/-- The digits of a mantissa are zeros iff the number it writes is. -/
theorem any_mantissa {value : String} (h : Accepted value) :
    (mantissa value).any (fun c => c.isDigit && c ≠ '0') = true ↔ magnitude (readDigits value) ≠ 0 := by
  rw [← any_ne_zero (all_isDigit_readDigits h), readDigits, List.any_append, Bool.or_eq_true]
  have hzeros : (List.replicate (-DecimalText.scale value).toNat '0').any (fun c => c ≠ '0') = false := by
    rw [List.any_eq_false]
    intro c hc
    simp [List.eq_of_mem_replicate hc]
  rw [hzeros]
  have hall := h.characters
  rw [List.all_eq_true] at hall
  simp only [List.any_eq_true, digits, List.mem_filter, Bool.and_eq_true, decide_eq_true_eq,
    Bool.false_eq_true, or_false]
  constructor
  · rintro ⟨c, hc, hdigit, hzero⟩
    refine ⟨c, ⟨hc, ?_⟩, hzero⟩
    rintro rfl
    exact absurd hdigit (by decide)
  · rintro ⟨c, ⟨hc, hpoint⟩, hzero⟩
    refine ⟨c, hc, ?_, hzero⟩
    simpa [hpoint] using hall c hc

theorem positiveDecimal_eq {value : String} {d : Decimal} (h : Decimal.parse value = .ok d) :
    positiveDecimal value = decide (0 < d.toRat) := by
  obtain ⟨x, d', hx, hd', -, rfl⟩ := parse_both (Decimal.parse_ok.1 h).1
  obtain rfl : x.toDecimal = d := Except.ok.inj (hd'.symm.trans h)
  obtain ⟨hacc, rfl⟩ := parseExactDecimal_ok.1 hx
  have hvalid : validDecimalText value = true :=
    (validDecimalText_iff value).2
      ⟨hacc.exponents, hacc.numeric, hacc.characters, hacc.point, hacc.digits⟩
  rw [positiveDecimal, head_text (text_ne_nil hacc), hvalid, Bool.and_true, Bool.eq_iff_iff,
    Bool.and_eq_true, any_before_exponent, any_mantissa hacc, decide_eq_true_iff, decide_eq_true_iff,
    toRat_toDecimal]
  have hpow : (0 : ℚ) < 10 ^ (DecimalText.scale value).toNat := by positivity
  rw [lt_div_iff₀ hpow, zero_mul, magnitude_stripZeros (all_isDigit_readDigits hacc)]
  by_cases hneg : (text value).head? = some '-'
  · simp [hneg, signed]
  · simp [hneg, signed, Nat.pos_iff_ne_zero]

/-! ## Both sides -/

/-- The text of an exact decimal the importer read. -/
def exactDecimalText (value : String) : Except String String := do
  let value ← parseExactDecimal value
  return formatExactDecimal value

theorem exactDecimalText_eq {value : String} {d : Decimal} (h : Decimal.parse value = .ok d) :
    exactDecimalText value = .ok d.format := by
  obtain ⟨x, d', hx, hd', hdigits, rfl⟩ := parse_both (Decimal.parse_ok.1 h).1
  obtain rfl : x.toDecimal = d := Except.ok.inj (hd'.symm.trans h)
  rw [exactDecimalText, hx, ← formatExactDecimal_eq hdigits]
  rfl

theorem isOk_parseExactDecimal (value : String) :
    (parseExactDecimal value).isOk = (Decimal.parse value).isOk := by
  by_cases h : Accepted value
  · obtain ⟨x, d, hx, hd, -⟩ := parse_both h
    rw [hx, hd]
    rfl
  · obtain ⟨⟨e, he⟩, e', he'⟩ := parse_neither h
    rw [he, he']
    rfl

theorem isOk_decimalIsZero (value : String) :
    (decimalIsZero value).isOk = (parseExactDecimal value).isOk := by
  unfold decimalIsZero
  cases parseExactDecimal value <;> rfl

/-- **The importer calculates as the server.** -/
theorem exactDecimal_agrees (left right : String) :
    (parseExactDecimal left).isOk = (Decimal.parse left).isOk ∧
    (decimalIsZero left).isOk = (Decimal.parse left).isOk ∧
    (addExactDecimals left right).toOption = (addDecimalText left right).toOption ∧
    (negateDecimal left).toOption = ((Decimal.parse left).map fun d => (-d).format).toOption ∧
    (exactDecimalText left).toOption = ((Decimal.parse left).map Decimal.format).toOption ∧
    ∀ d, Decimal.parse left = .ok d →
      decimalIsZero left = .ok (decide (decimalValue left = 0)) ∧
      positiveDecimal left = decide (0 < decimalValue left) := by
  have hparse := isOk_parseExactDecimal left
  refine ⟨hparse, (isOk_decimalIsZero left).trans hparse, ?_, ?_, ?_, ?_⟩
  · by_cases hl : Accepted left
    · obtain ⟨x, a, -, ha, -⟩ := parse_both hl
      by_cases hr : Accepted right
      · obtain ⟨y, b, -, hb, -⟩ := parse_both hr
        rw [addExactDecimals_eq ha hb, addDecimalText, ha, hb]
        rfl
      · obtain ⟨⟨e, he⟩, e', he'⟩ := parse_neither hr
        obtain ⟨x, hx⟩ : ∃ x, parseExactDecimal left = .ok x := ⟨_, parseExactDecimal_ok.2 ⟨hl, rfl⟩⟩
        rw [addExactDecimals, addDecimalText, hx, ha, he, he']
        rfl
    · obtain ⟨⟨e, he⟩, e', he'⟩ := parse_neither hl
      rw [addExactDecimals, addDecimalText, he, he']
      rfl
  · by_cases h : Accepted left
    · obtain ⟨x, d, -, hd, -⟩ := parse_both h
      rw [negateDecimal_eq hd, hd]
      rfl
    · obtain ⟨⟨e, he⟩, e', he'⟩ := parse_neither h
      rw [negateDecimal, he, he']
      rfl
  · by_cases h : Accepted left
    · obtain ⟨x, d, -, hd, -⟩ := parse_both h
      rw [exactDecimalText_eq hd, hd]
      rfl
    · obtain ⟨⟨e, he⟩, e', he'⟩ := parse_neither h
      rw [exactDecimalText, he, he']
      rfl
  · intro d hd
    have hvalue := Decimal.toRat_parse hd
    rw [decimalIsZero_eq hd, positiveDecimal_eq hd, hvalue]
    refine ⟨congrArg Except.ok (decide_eq_decide.2 ?_), rfl⟩
    rw [← hvalue, ← Decimal.toRat_injective.eq_iff, Decimal.toRat_zero]

/-- A carry through the point, and a fraction without whole digits. -/
theorem exactDecimal_agrees_carry :
    (addExactDecimals "9.95" "+.05").toOption = some "10" ∧
      positiveDecimal "9.95" = decide (0 < decimalValue "9.95") := by
  have hparse : Decimal.parse "9.95" = .ok ⟨995, 2, by decide⟩ := by decide +kernel
  have hsum : addDecimalText "9.95" "+.05" = .ok "10" := by decide +kernel
  obtain ⟨-, -, hadd, -, -, h⟩ := exactDecimal_agrees "9.95" "+.05"
  rw [hsum] at hadd
  exact ⟨hadd, (h _ hparse).2⟩

end Admin
