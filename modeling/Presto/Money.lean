import Presto.Literals
import Presto.Rounding

/-!
# Money literals on the phone and in the browser

Both readers look for the same number, the part of the text between its first and its last character
of numbers (`core`). They differ in the white space and the letters that they take away around it, and
in what they do with a number that has more than two decimals: the phone wants none, and the browser
wants the hundredfold to be within `1e-7` of an integer. **`parseMoney_eq_iff`: the two agree on a
text exactly when they surround its number alike, or it is no amount of cents and the browser finds it
too far from one.**
-/

namespace Amounts

/-- The part of a text that begins and ends with a character of numbers. -/
def core (text : List Char) : List Char :=
  (text.dropWhile fun c => !isNumeric c).rdropWhile fun c => !isNumeric c

/-- Around a number there is nothing of a number. -/
theorem Reader.Surrounded.core {r : Reader} {body text : List Char} (h : r.Surrounded body text)
    (hbody : Ends isNumeric body) : core text = body := by
  obtain ⟨before, front, back, after, rfl, hbefore, hafter, hfront, hback⟩ := h
  have htrims : ∀ c, r.trims c = true → (!isNumeric c) = true := fun c hc => by
    rw [(r.trims_plain c hc).1, Bool.not_false]
  have hfront' : ∀ c ∈ front, (!isNumeric c) = true := by
    rcases hfront with rfl | ⟨mark, gaps, hm, hg, rfl⟩
    · simp
    · intro c hc
      rcases List.mem_append.1 hc with hc | hc
      · rw [(hm.plain.2 c hc).1, Bool.not_false]
      · exact htrims c (r.gap_trims c (hg c hc))
  have hback' : ∀ c ∈ back, (!isNumeric c) = true := by
    rcases hback with rfl | ⟨gaps, mark, hg, hm, rfl⟩
    · simp
    · intro c hc
      rcases List.mem_append.1 hc with hc | hc
      · exact htrims c (r.gap_trims c (hg c hc))
      · rw [(hm.plain.2 c hc).1, Bool.not_false]
  have htext : before ++ (front ++ body ++ back) ++ after
      = (before ++ front) ++ body ++ (back ++ after) := by simp only [List.append_assoc]
  rw [Amounts.core, htext]
  refine hbody.strip (fun c hc => by simp [hc]) ?_ ?_
  · intro c hc
    rcases List.mem_append.1 hc with hc | hc
    · exact htrims c (hbefore c hc)
    · exact hfront' c hc
  · intro c hc
    rcases List.mem_append.1 hc with hc | hc
    · exact hback' c hc
    · exact htrims c (hafter c hc)

/-- A literal is read off its core. -/
theorem Reader.localized_core {r : Reader} {text : List Char} {value : Decimal} :
    r.localized text = some value ↔ r.Surrounded (Amounts.core text) text ∧
      Denotes (Amounts.core text) value := by
  rw [Reader.localized_iff]
  constructor
  · rintro ⟨body, hs, hd⟩
    rw [hs.core hd.ends]
    exact ⟨hs, hd⟩
  · exact fun ⟨hs, hd⟩ => ⟨_, hs, hd⟩

/-- A text denotes one number at most. -/
theorem Denotes.unique {text : List Char} {v w : Decimal} (hv : Denotes text v)
    (hw : Denotes text w) : v = w :=
  Option.some.inj ((Reader.number_iff (r := phone)).2 hv ▸ (Reader.number_iff (r := phone)).2 hw)

/-! ## Cents -/

/-- An amount of whole cents, up to the bound. -/
def InCents (value : Decimal) : Prop := value.Within 2 ∧ |value.toRat| ≤ bound.toRat

/-- So close to an amount of cents that the browser takes it for one. -/
def NearCents (value : Decimal) : Prop :=
  ∃ n : ℤ, |n| ≤ 2 ^ 53 - 1 ∧ |value.toRat * 100 - n| ≤ 1 / 10 ^ 7

theorem toRat_bound : bound.toRat = (2 ^ 53 - 1) / 100 := by
  rw [bound, Decimal.toRat_normalized]
  norm_num

theorem toRat_unsigned (a : Decimal) : a.unsigned.toRat = |a.toRat| := by
  unfold Decimal.unsigned
  split
  · rename_i h
    rw [Decimal.isNegative_iff, Decimal.lt_iff, Decimal.toRat_zero] at h
    rw [Decimal.toRat_neg, abs_of_neg h]
  · rename_i h
    rw [Decimal.isNegative_iff, Decimal.lt_iff, Decimal.toRat_zero, not_lt] at h
    rw [abs_of_nonneg h]

/-- Rounding leaves cents alone. -/
theorem setScale2_eq {value : Decimal} (h : value.Within 2) : setScale2 value = value := by
  refine Ratio.roundDecimal_exact _ (by positivity) ?_ h
  simp [Ratio.value, Decimal.toRat]

/-- What the phone takes for money, when it is not a formula. -/
theorem parseMoney_literal {text : List Char} (h : isFormula text = false) {money : Decimal} :
    parseMoney text = some money ↔ phone.localized text = some money ∧ InCents money := by
  have hbound : ∀ value : Decimal, ¬ bound < value.unsigned ↔ |value.toRat| ≤ bound.toRat := by
    intro value
    rw [Decimal.lt_iff, toRat_unsigned, not_lt]
  simp only [parseMoney, parseAmount, h, Bool.false_eq_true, if_false, false_and, or_false,
    Option.bind_eq_some_iff, parseLocalized]
  constructor
  · rintro ⟨value, hvalue, hmoney⟩
    split at hmoney
    · cases hmoney
    · rename_i hcond
      rw [not_or, not_not, hbound] at hcond
      rw [setScale2_eq hcond.1] at hmoney
      cases hmoney
      exact ⟨hvalue, hcond⟩
  · rintro ⟨hvalue, hcents⟩
    refine ⟨money, hvalue, ?_⟩
    rw [if_neg, setScale2_eq hcents.1]
    rw [not_or, not_not, hbound]
    exact hcents

/-! ## The browser -/

theorem Reader.trim_trim (r : Reader) (text : List Char) : r.trim (r.trim text) = r.trim text := by
  have hleft : (r.trim text).dropWhile r.trims = r.trim text := by
    have hlead := List.rdropWhile_prefix r.trims (text.dropWhile r.trims)
    rw [show (text.dropWhile r.trims).rdropWhile r.trims = r.trim text from rfl] at hlead
    cases htrim : r.trim text with
    | nil => rfl
    | cons c rest =>
      rw [htrim] at hlead
      obtain ⟨more, hmore⟩ := hlead
      have hhead := List.head?_dropWhile_not r.trims text
      rw [← hmore] at hhead
      exact List.dropWhile_cons_of_neg (by simpa using hhead)
  conv_lhs => rw [Reader.trim, hleft]
  exact List.rdropWhile_idempotent _ _

theorem Reader.localized_trim (r : Reader) (text : List Char) :
    r.localized (r.trim text) = r.localized text := by
  simp only [Reader.localized, Reader.strip, r.trim_trim]

end Amounts

namespace AmountInput

open Amounts

/-- A number near an amount of cents is rounded to it. -/
theorem cents_eq {value : Decimal} {n : ℤ} (h : |value.toRat * 100 - n| ≤ 1 / 10 ^ 7) :
    cents value = n := by
  rw [abs_le] at h
  rw [cents, Int.floor_eq_iff]
  norm_num at h ⊢
  constructor <;> linarith [h.1, h.2]

theorem nearCents_iff {value : Decimal} :
    NearCents value ↔
      isSafeInteger (cents value) = true ∧ |value.toRat * 100 - cents value| ≤ 1 / 10 ^ 7 := by
  have hsafe : ∀ n : ℤ, isSafeInteger n = true ↔ |n| ≤ 2 ^ 53 - 1 := by
    intro n
    rw [isSafeInteger, decide_eq_true_eq, Int.abs_eq_natAbs]
    omega
  constructor
  · rintro ⟨n, hn, hnear⟩
    rw [cents_eq hnear, hsafe]
    exact ⟨hn, hnear⟩
  · rintro ⟨hn, hnear⟩
    exact ⟨_, (hsafe _).1 hn, hnear⟩

/-- What the browser takes for money, when it is not a formula. -/
theorem parseMoneyAmount_literal {parseFormula : List Char → Option Decimal} {text : List Char}
    (h : (web.trim text).head? ≠ some '=') {money : Decimal} :
    parseMoneyAmount parseFormula text = some money ↔
      ∃ value, web.localized text = some value ∧ NearCents value ∧
        money = .normalized (cents value) 2 := by
  unfold parseMoneyAmount parseAmount
  simp only [if_neg h, parseLocalizedNumber, web.localized_trim, Option.bind_eq_some_iff]
  refine exists_congr fun value => and_congr_right fun _ => ?_
  rw [nearCents_iff]
  split
  · rename_i hcond
    rw [Option.some.injEq, eq_comm]
    exact ⟨fun h => ⟨hcond, h⟩, And.right⟩
  · rename_i hcond
    exact ⟨fun h => (nomatch h), fun h => absurd h.1 hcond⟩

/-- An amount of cents is near itself, and is not changed. -/
theorem near_of_inCents {value : Decimal} (h : InCents value) :
    NearCents value ∧ Decimal.normalized (cents value) 2 = value := by
  obtain ⟨hscale, hbound⟩ := h
  have hcents := Decimal.cents_toRat hscale
  have hnear : |value.toRat * 100 - value.cents| ≤ 1 / 10 ^ 7 := by
    rw [hcents, sub_self, abs_zero]
    positivity
  refine ⟨⟨value.cents, ?_, hnear⟩, Decimal.toRat_injective ?_⟩
  · rw [toRat_bound, le_div_iff₀ (by norm_num), ← abs_of_pos (show (0 : ℚ) < 100 by norm_num),
      ← abs_mul, ← hcents] at hbound
    exact_mod_cast hbound
  · rw [cents_eq hnear, Decimal.toRat_normalized, hcents]
    norm_num

/-- The number of the text, if it has one, is in cents and both platforms take away what stands
around it or neither does; or it is not, and the browser does not take it for cents either. -/
def SameMoney (text : List Char) : Prop :=
  ∀ value, Denotes (core text) value →
    (InCents value → (phone.Surrounded (core text) text ↔ web.Surrounded (core text) text)) ∧
    (¬ InCents value → ¬ (web.Surrounded (core text) text ∧ NearCents value))

/-- **The two platforms read a literal alike exactly when they find the same around its number, and
no further decimals that the browser overlooks.** -/
theorem parseMoney_eq_iff (parseFormula : List Char → Option Decimal) (text : List Char)
    (hphone : isFormula text = false) (hweb : (web.trim text).head? ≠ some '=') :
    parseMoney text = parseMoneyAmount parseFormula text ↔ SameMoney text := by
  have hphone_iff : ∀ money, parseMoney text = some money ↔
      (phone.Surrounded (core text) text ∧ Denotes (core text) money) ∧ InCents money := by
    intro money
    rw [parseMoney_literal hphone, Reader.localized_core]
  have hweb_iff : ∀ money, parseMoneyAmount parseFormula text = some money ↔
      ∃ value, (web.Surrounded (core text) text ∧ Denotes (core text) value) ∧ NearCents value ∧
        money = .normalized (cents value) 2 := by
    intro money
    rw [parseMoneyAmount_literal hweb]
    simp only [Reader.localized_core]
  constructor
  · intro h value hvalue
    refine ⟨fun hcents => ?_, fun hcents => ?_⟩
    · obtain ⟨hnear, hsame⟩ := near_of_inCents hcents
      constructor
      · intro hs
        have hmoney := (hphone_iff value).2 ⟨⟨hs, hvalue⟩, hcents⟩
        rw [h, hweb_iff] at hmoney
        obtain ⟨other, ⟨hs', -⟩, -⟩ := hmoney
        exact hs'
      · intro hs
        have hmoney := (hweb_iff value).2 ⟨value, ⟨hs, hvalue⟩, hnear, hsame.symm⟩
        rw [← h, hphone_iff] at hmoney
        exact hmoney.1.1
    · rintro ⟨hs, hnear⟩
      have hmoney := (hweb_iff _).2 ⟨value, ⟨hs, hvalue⟩, hnear, rfl⟩
      rw [← h, hphone_iff] at hmoney
      -- the phone would have found the number itself
      rw [← hmoney.1.2.unique hvalue] at hcents
      exact hcents hmoney.2
  · intro h
    refine Option.ext fun money => ?_
    rw [hphone_iff, hweb_iff]
    constructor
    · rintro ⟨⟨hs, hvalue⟩, hcents⟩
      have hsame := (h money hvalue).1 hcents
      obtain ⟨hnear, heq⟩ := near_of_inCents hcents
      exact ⟨money, ⟨hsame.1 hs, hvalue⟩, hnear, heq.symm⟩
    · rintro ⟨value, ⟨hs, hvalue⟩, hnear, rfl⟩
      by_cases hcents : InCents value
      · have hsame := (h value hvalue).1 hcents
        rw [(near_of_inCents hcents).2]
        exact ⟨⟨hsame.2 hs, hvalue⟩, hcents⟩
      · exact absurd ⟨hs, hnear⟩ ((h value hvalue).2 hcents)

theorem same_euro : SameMoney ['€', ' ', '1', ',', '5'] :=
  (parseMoney_eq_iff (fun _ => none) ['€', ' ', '1', ',', '5'] (by decide) (by decide)).1
    (by decide +kernel)

/-- Ten decimals, of which only the browser overlooks the last: there `1.0000000001` is `1.00`. -/
theorem overlooked_decimal :
    ¬ ∀ (parseFormula : List Char → Option Decimal) (text : List Char), isFormula text = false →
      (web.trim text).head? ≠ some '=' →
      parseMoney text = parseMoneyAmount parseFormula text := by
  intro h
  have hsame := h (fun _ => none) ['1', '.', '0', '0', '0', '0', '0', '0', '0', '0', '0', '1']
    (by decide) (by decide)
  revert hsame
  decide +kernel

/-! ## Texts with characters that both platforms know -/

theorem surrounded_of {r s : Reader} {body text : List Char} (h : r.Surrounded body text)
    (htrims : ∀ c ∈ text, r.trims c = true → s.trims c = true)
    (hgap : ∀ c ∈ text, r.gap c = true → s.gap c = true)
    (hletter : ∀ c ∈ text, ∀ l, r.letter c l = true → s.letter c l = true) :
    s.Surrounded body text := by
  obtain ⟨before, front, back, after, rfl, hbefore, hafter, hfront, hback⟩ := h
  have hmark : ∀ mark : List Char, (∀ c ∈ mark, c ∈ before ++ (front ++ body ++ back) ++ after) →
      r.Mark mark → s.Mark mark := by
    intro mark hsub hm
    refine hm.imp_right fun ⟨code, hcode, hall⟩ => ⟨code, hcode, ?_⟩
    rw [List.forall₂_iff_zip] at hall ⊢
    exact ⟨hall.1, fun {a b} hab => hletter a (hsub a (List.of_mem_zip hab).1) b (hall.2 hab)⟩
  refine ⟨before, front, back, after, rfl, fun c hc => htrims c (by simp [hc]) (hbefore c hc),
    fun c hc => htrims c (by simp [hc]) (hafter c hc), ?_, ?_⟩
  · rcases hfront with hnil | ⟨mark, gaps, hm, hg, rfl⟩
    · exact .inl hnil
    · exact .inr ⟨mark, gaps, hmark mark (fun c hc => by simp [hc]) hm,
        fun c hc => hgap c (by simp [hc]) (hg c hc), rfl⟩
  · rcases hback with hnil | ⟨gaps, mark, hg, hm, rfl⟩
    · exact .inl hnil
    · exact .inr ⟨gaps, mark, fun c hc => hgap c (by simp [hc]) (hg c hc),
        hmark mark (fun c hc => by simp [hc]) hm, rfl⟩

/-- A character that both platforms class alike. -/
def Common (c : Char) : Prop :=
  phone.trims c = web.trims c ∧ phone.gap c = web.gap c ∧ ∀ l, phone.letter c l = web.letter c l

/-- **Where the platforms class every character alike, only overlooked decimals divide them.** -/
theorem sameMoney_of_common {text : List Char} (h : ∀ c ∈ text, Common c) :
    SameMoney text ↔ ∀ value, Denotes (core text) value → ¬ InCents value →
      ¬ (web.Surrounded (core text) text ∧ NearCents value) := by
  have hsame : phone.Surrounded (core text) text ↔ web.Surrounded (core text) text := by
    constructor
    · exact fun hs => surrounded_of hs (fun c hc ht => (h c hc).1 ▸ ht)
        (fun c hc hg => (h c hc).2.1 ▸ hg) fun c hc l hl => (h c hc).2.2 l ▸ hl
    · exact fun hs => surrounded_of hs (fun c hc ht => (h c hc).1.symm ▸ ht)
        (fun c hc hg => (h c hc).2.1.symm ▸ hg) fun c hc l hl => ((h c hc).2.2 l).symm ▸ hl
  exact forall₂_congr fun value _ => ⟨And.right, fun hnear => ⟨fun _ => hsame, hnear⟩⟩

end AmountInput
