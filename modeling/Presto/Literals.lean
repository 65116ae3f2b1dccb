import Presto.Lib.Joined
import Presto.Web.AmountInput

/-!
# The grammar of literals

`Reading text whole fraction`: the text without its sign is a number of these digits, either
ungrouped with at most one separator, or in complete groups. `Surrounded` is what may stand around a
number. **`localized_iff`: a reader takes a text for a number iff it is one so surrounded, and the
value is the number's.** Both platforms read the same numbers; they differ in what may surround them.
-/

namespace Amounts

/-! ## Numbers -/

def Digits (text : List Char) : Prop := text ≠ [] ∧ text.all Char.isDigit = true

/-- A first group of one to three digits, and groups of three. -/
def CompleteGroups (groups : List (List Char)) : Prop :=
  ∃ first rest, groups = first :: rest ∧ Digits first ∧ first.length ≤ 3 ∧
    ∀ group ∈ rest, Digits group ∧ group.length = 3

/-- The digits of a number before and after its decimal mark. -/
inductive Reading : List Char → List Char → List Char → Prop
  | whole {text : List Char} : Digits text → Reading text text []
  | decimal {separator : Char} {whole fraction : List Char} :
      isSeparator separator = true → Digits (whole ++ fraction) →
      Reading (whole ++ separator :: fraction) whole fraction
  /-- One separator more than once. -/
  | repeated {separator : Char} {text : List Char} {groups : List (List Char)} :
      isSeparator separator = true → JoinedBy (· = separator) text groups → 3 ≤ groups.length →
      CompleteGroups groups → Reading text groups.flatten []
  /-- One separator between groups, the other one behind them. -/
  | mixed {grouping separator : Char} {text fraction : List Char} {groups : List (List Char)} :
      isSeparator grouping = true → isSeparator separator = true → grouping ≠ separator →
      JoinedBy (· = grouping) text groups → 2 ≤ groups.length → CompleteGroups groups →
      Digits fraction → Reading (text ++ separator :: fraction) groups.flatten fraction
  | spaced {text : List Char} {groups : List (List Char)} :
      JoinedBy isGroupSpace text groups → 2 ≤ groups.length → CompleteGroups groups →
      Reading text groups.flatten []
  | spacedDecimal {separator : Char} {text fraction : List Char} {groups : List (List Char)} :
      isSeparator separator = true → JoinedBy isGroupSpace text groups → 2 ≤ groups.length →
      CompleteGroups groups → Digits fraction →
      Reading (text ++ separator :: fraction) groups.flatten fraction

/-- A text with its sign, if it has one. -/
inductive Signed : List Char → Bool → List Char → Prop
  | none (text : List Char) : Signed text false text
  | plus (text : List Char) : Signed ('+' :: text) false text
  | minus (text : List Char) : Signed ('-' :: text) true text

/-- The number of these digits, as many of them behind the decimal mark as the fraction has. -/
def magnitude (whole fraction : List Char) : ℚ :=
  Nat.ofDigitChars 10 (whole ++ fraction) 0 / 10 ^ fraction.length

/-- The text is a number, and this is its value. -/
def Denotes (text : List Char) (value : Decimal) : Prop :=
  ∃ negative body whole fraction, Signed text negative body ∧ Reading body whole fraction ∧
    value.toRat = if negative then -magnitude whole fraction else magnitude whole fraction

theorem toRat_decimalOf (negative : Bool) (whole fraction : List Char) :
    (Reader.decimalOf negative whole fraction).toRat
      = if negative then -magnitude whole fraction else magnitude whole fraction := by
  unfold Reader.decimalOf magnitude
  rw [Decimal.toRat_normalized]
  cases negative
  · simp
  · simp [neg_div]

/-! ### Digits and separators -/

theorem digit_plain {c : Char} (h : c.isDigit = true) :
    isSeparator c = false ∧ isSign c = false ∧ isGroupSpace c = false := by
  obtain ⟨n, hn, rfl⟩ := Text.digit_cases h
  interval_cases n <;> decide

theorem separator_cases {c : Char} (h : isSeparator c = true) : c = '.' ∨ c = ',' := by
  simpa [isSeparator] using h

theorem separator_plain {c : Char} (h : isSeparator c = true) :
    c.isDigit = false ∧ isSign c = false ∧ isGroupSpace c = false := by
  rcases separator_cases h with rfl | rfl <;> decide

theorem groupSpace_plain {c : Char} (h : isGroupSpace c = true) :
    c.isDigit = false ∧ isSeparator c = false ∧ isSign c = false := by
  simp only [isGroupSpace, Bool.or_eq_true, decide_eq_true_eq] at h
  rcases h with (rfl | rfl) | rfl <;> decide

theorem digits_iff {text : List Char} : Reader.digits text = true ↔ Digits text := by
  simp [Reader.digits, Digits]

theorem Digits.all {text : List Char} (h : Digits text) : ∀ c ∈ text, c.isDigit = true :=
  List.all_eq_true.1 h.2

theorem Digits.append {left right : List Char} (hl : Digits left) (hr : Digits right) :
    Digits (left ++ right) := by
  refine ⟨by simp [hl.1], ?_⟩
  rw [List.all_append, Bool.and_eq_true]
  exact ⟨hl.2, hr.2⟩

theorem completeGroups_iff {groups : List (List Char)} :
    Reader.completeGroups groups = true ↔ CompleteGroups groups := by
  cases groups with
  | nil => simp [Reader.completeGroups, CompleteGroups]
  | cons first rest =>
    have hfirst : Digits first ↔ 1 ≤ first.length ∧ first.all Char.isDigit = true := by
      rw [Digits, ← List.length_pos_iff]
      exact Iff.rfl
    have hrest : (∀ group ∈ rest, Digits group ∧ group.length = 3) ↔
        (rest.all fun group => group.length = 3 && group.all Char.isDigit) = true := by
      rw [List.all_eq_true]
      refine forall₂_congr fun group _ => ?_
      rw [Bool.and_eq_true, decide_eq_true_eq]
      refine ⟨fun h => ⟨h.2, h.1.2⟩, fun h => ⟨⟨?_, h.2⟩, h.1⟩⟩
      rintro rfl
      simp at h
    rw [Reader.completeGroups, Bool.and_eq_true, Bool.and_eq_true, Bool.and_eq_true,
      decide_eq_true_eq, decide_eq_true_eq]
    constructor
    · rintro ⟨⟨⟨hpos, hle⟩, hall⟩, h⟩
      exact ⟨first, rest, rfl, hfirst.2 ⟨hpos, hall⟩, hle, hrest.2 h⟩
    · rintro ⟨_, _, heq, hd, hle, h⟩
      obtain ⟨rfl, rfl⟩ := List.cons.inj heq
      obtain ⟨hpos, hall⟩ := hfirst.1 hd
      exact ⟨⟨⟨hpos, hle⟩, hall⟩, hrest.1 h⟩

theorem CompleteGroups.digits {groups : List (List Char)} (h : CompleteGroups groups) :
    ∀ group ∈ groups, Digits group := by
  obtain ⟨first, rest, rfl, hfirst, -, hrest⟩ := h
  intro group hgroup
  rcases List.mem_cons.1 hgroup with rfl | hgroup
  · exact hfirst
  · exact (hrest group hgroup).1

theorem CompleteGroups.flatten {groups : List (List Char)} (h : CompleteGroups groups) :
    Digits groups.flatten := by
  refine ⟨?_, ?_⟩
  · obtain ⟨first, rest, rfl, hfirst, -⟩ := h
    simp [hfirst.1]
  · rw [List.all_eq_true]
    intro c hc
    obtain ⟨group, hgroup, hc⟩ := List.mem_flatten.1 hc
    exact (h.digits group hgroup).all c hc

/-- Groups have no separator of theirs inside. -/
theorem CompleteGroups.parts {groups : List (List Char)} (h : CompleteGroups groups)
    {p : Char → Bool} (hp : ∀ c, p c = true → c.isDigit = false) :
    ∀ group ∈ groups, ∀ c ∈ group, p c = false := by
  intro group hgroup c hc
  by_contra hpc
  have hdigit := (h.digits group hgroup).all c hc
  rw [hp c (by simpa using hpc)] at hdigit
  exact Bool.false_ne_true hdigit

theorem CompleteGroups.mem {groups : List (List Char)} (h : CompleteGroups groups)
    {p : Char → Bool} {text : List Char} (htext : JoinedBy p text groups) :
    ∀ c ∈ text, c.isDigit = true ∨ p c = true := by
  intro c hc
  rcases htext.mem hc with ⟨group, hgroup, hc⟩ | hc
  · exact .inl ((h.digits group hgroup).all c hc)
  · exact .inr hc

/-! ### Numbers without groups -/

/-- What is left when the groups are joined: digits, or digits around a dot. -/
inductive Plain : List Char → List Char → List Char → Prop
  | whole {text : List Char} : Digits text → Plain text text []
  | decimal {whole fraction : List Char} :
      Digits (whole ++ fraction) → Plain (whole ++ '.' :: fraction) whole fraction

theorem takeWhile_digits {whole fraction : List Char} (h : ∀ c ∈ whole, c.isDigit = true) :
    (whole ++ '.' :: fraction).takeWhile Char.isDigit = whole ∧
      (whole ++ '.' :: fraction).dropWhile Char.isDigit = '.' :: fraction := by
  have hdot : ¬ ('.' : Char).isDigit = true := by decide
  constructor
  · rw [List.takeWhile_append_of_pos h, List.takeWhile_cons_of_neg hdot, List.append_nil]
  · rw [List.dropWhile_append_of_pos h, List.dropWhile_cons_of_neg hdot]

theorem Plain.split {text whole fraction : List Char} (h : Plain text whole fraction) :
    text.takeWhile Char.isDigit = whole ∧ (text.dropWhile Char.isDigit).drop 1 = fraction := by
  cases h with
  | whole h =>
    exact ⟨List.takeWhile_eq_self_iff.2 h.all, by rw [List.dropWhile_eq_nil_iff.2 h.all]; rfl⟩
  | decimal h =>
    obtain ⟨htake, hdrop⟩ := @takeWhile_digits _ fraction fun c hc =>
      h.all c (List.mem_append_left _ hc)
    exact ⟨htake, by rw [hdrop]; rfl⟩

theorem plainNumber_iff {text : List Char} :
    Reader.plainNumber text = true ↔ ∃ whole fraction, Plain text whole fraction := by
  constructor
  · intro h
    have htext := List.takeWhile_append_dropWhile (p := Char.isDigit) (l := text)
    have hwhole : ∀ c ∈ text.takeWhile Char.isDigit, c.isDigit = true :=
      fun c hc => List.mem_takeWhile_imp hc
    unfold Reader.plainNumber at h
    generalize text.takeWhile Char.isDigit = whole at h htext hwhole
    generalize text.dropWhile Char.isDigit = rest at h htext
    cases rest with
    | nil =>
      rw [List.append_nil] at htext
      subst htext
      exact ⟨whole, [], .whole ⟨by simpa using h, List.all_eq_true.2 hwhole⟩⟩
    | cons c fraction =>
      simp only [Bool.and_eq_true, decide_eq_true_eq, Bool.or_eq_true] at h
      obtain ⟨⟨rfl, hfraction⟩, hne⟩ := h
      subst htext
      refine ⟨whole, fraction, .decimal ⟨?_, ?_⟩⟩
      · rw [ne_eq, List.append_eq_nil_iff]
        tauto
      · rw [List.all_append, Bool.and_eq_true]
        exact ⟨List.all_eq_true.2 hwhole, hfraction⟩
  · rintro ⟨whole, fraction, h⟩
    unfold Reader.plainNumber
    cases h with
    | whole h => simp [List.dropWhile_eq_nil_iff.2 h.all, List.takeWhile_eq_self_iff.2 h.all, h.1]
    | decimal h =>
      obtain ⟨htake, hdrop⟩ := @takeWhile_digits _ fraction fun c hc =>
        h.all c (List.mem_append_left _ hc)
      have hall := h.2
      have hne := h.1
      rw [List.all_append, Bool.and_eq_true] at hall
      rw [htake, hdrop]
      simp only [hall.2, Bool.and_eq_true, Bool.or_eq_true, decide_eq_true_eq]
      rw [ne_eq, List.append_eq_nil_iff] at hne
      tauto

/-! ### Groups -/

/-- The other separator. -/
theorem separator_ne {a b : Char} (ha : isSeparator a = true) (hb : isSeparator b = true)
    (hne : a ≠ b) : (if b = '.' then ',' else '.') = a := by
  rcases separator_cases ha with rfl | rfl <;> rcases separator_cases hb with rfl | rfl
  · exact absurd rfl hne
  · rfl
  · rfl
  · exact absurd rfl hne

theorem Digits.no_separator {text : List Char} (h : Digits text) {c : Char}
    (hc : isSeparator c = true) : ∀ d ∈ text, decide (d = c) = false := by
  intro d hd
  rw [decide_eq_false_iff_not]
  rintro rfl
  have hdigit := h.all d hd
  rw [(separator_plain hc).1] at hdigit
  exact Bool.false_ne_true hdigit

/-- The last separator is found behind the groups. -/
theorem getLast_separator {whole fraction : List Char} {separator : Char}
    (hs : isSeparator separator = true) (hf : Digits fraction) :
    ((whole ++ separator :: fraction).filter isSeparator).getLast? = some separator := by
  have hnil : fraction.filter isSeparator = [] :=
    List.filter_eq_nil_iff.2 fun c hc => by simp [(digit_plain (hf.all c hc)).1]
  rw [List.filter_append, List.filter_cons_of_pos hs, hnil, List.getLast?_append]
  rfl

theorem joinMixed_eq {whole fraction : List Char} {grouping separator : Char}
    {groups : List (List Char)} (hg : isSeparator grouping = true)
    (hs : isSeparator separator = true) (hne : grouping ≠ separator)
    (hwhole : JoinedBy (· = grouping) whole groups) (hgroups : CompleteGroups groups)
    (hf : Digits fraction) :
    Reader.joinMixed (whole ++ separator :: fraction) = some (groups.flatten ++ '.' :: fraction) := by
  have hlast := @getLast_separator whole _ _ hs hf
  have hmark : (if ((whole ++ separator :: fraction).filter isSeparator).getLast? = some '.'
      then '.' else ',') = separator := by
    rw [hlast]
    rcases separator_cases hs with rfl | rfl <;> rfl
  have hwhole_plain : ∀ c ∈ whole, decide (c = separator) = false := by
    intro c hc
    rw [decide_eq_false_iff_not]
    rintro rfl
    rcases hgroups.mem hwhole c hc with hd | hd
    · rw [(separator_plain hs).1] at hd
      exact Bool.false_ne_true hd
    · exact hne (of_decide_eq_true hd).symm
  have hsplit : (whole ++ separator :: fraction).splitOnP (· = separator) = [whole, fraction] := by
    rw [List.splitOnP_append_cons_of_forall_mem hwhole_plain separator (by simp),
      List.splitOnP_eq_singleton (hf.no_separator hs)]
  have hparts : whole.splitOnP (· = grouping) = groups :=
    hwhole.splitOnP_eq (hgroups.parts fun c hc => by
      rw [of_decide_eq_true hc]
      exact (separator_plain hg).1)
  unfold Reader.joinMixed
  simp only [hmark, separator_ne hg hs hne, hsplit, hparts]
  rw [if_pos]
  rw [Bool.and_eq_true]
  exact ⟨digits_iff.2 hf, completeGroups_iff.2 hgroups⟩

theorem reading_of_joinMixed {text plain : List Char} (h : Reader.joinMixed text = some plain)
    (hdot : '.' ∈ text) (hcomma : ',' ∈ text) :
    ∃ whole fraction, Reading text whole fraction ∧ Plain plain whole fraction := by
  unfold Reader.joinMixed at h
  simp only at h
  generalize hmark : (if (text.filter isSeparator).getLast? = some '.' then '.' else ',') = separator at h
  have hs : isSeparator separator = true := by
    rw [← hmark]
    split <;> rfl
  generalize hother : (if separator = '.' then ',' else '.') = grouping at h
  have hg : isSeparator grouping = true := by
    rw [← hother]
    split <;> rfl
  have hne : grouping ≠ separator := by
    rw [← hother]
    rcases separator_cases hs with rfl | rfl <;> decide
  have hmem : grouping ∈ text := by
    rcases separator_cases hg with rfl | rfl
    · exact hdot
    · exact hcomma
  have hjoined := JoinedBy.splitOnP (· = separator) text
  split at h
  · rename_i whole fraction hsplit
    rw [hsplit] at hjoined
    split at h
    · rename_i hcond
      rw [Bool.and_eq_true, digits_iff, completeGroups_iff] at hcond
      obtain ⟨hf, hgroups⟩ := hcond
      have hwhole := JoinedBy.splitOnP (· = grouping) whole
      generalize whole.splitOnP (· = grouping) = groups at h hgroups hwhole
      cases h
      obtain ⟨a, ha, rfl⟩ := hjoined.eq_of_two
      obtain rfl : a = separator := of_decide_eq_true ha
      have hlen : 2 ≤ groups.length := by
        by_contra hlt
        obtain ⟨group, rfl⟩ : ∃ group, groups = [group] :=
          List.length_eq_one_iff.1 (by have := List.length_pos_iff.2 hwhole.ne_nil; omega)
        obtain rfl := hwhole.eq_of_single
        -- one group has only digits, and the grouping mark is somewhere
        have hdigits := (hgroups.digits whole (by simp)).no_separator hg
        rcases List.mem_append.1 hmem with hm | hm
        · simpa using hdigits _ hm
        · rcases List.mem_cons.1 hm with hm | hm
          · exact hne hm
          · simpa using hf.no_separator hg _ hm
      exact ⟨groups.flatten, fraction, .mixed hg hs hne hwhole hlen hgroups hf,
        .decimal (hgroups.flatten.append hf)⟩
    · cases h
  · cases h

/-- A text without separators. -/
def Unseparated (text : List Char) : Prop := ∀ c ∈ text, isSeparator c = false

theorem Unseparated.ne {text : List Char} (h : Unseparated text) {c : Char}
    (hc : isSeparator c = true) : ∀ d ∈ text, decide (d = c) = false := by
  intro d hd
  rw [decide_eq_false_iff_not]
  rintro rfl
  rw [h d hd] at hc
  exact Bool.false_ne_true hc

theorem Unseparated.map {text : List Char} (h : Unseparated text) :
    text.map Reader.commaToDot = text := by
  conv_rhs => rw [← List.map_id text]
  refine List.map_congr_left fun c hc => ?_
  have hcomma := h.ne (c := ',') rfl c hc
  rw [decide_eq_false_iff_not] at hcomma
  exact if_neg hcomma

theorem Digits.unseparated {text : List Char} (h : ∀ c ∈ text, c.isDigit = true) :
    Unseparated text := fun c hc => (digit_plain (h c hc)).1

theorem split_unseparated {text : List Char} (h : Unseparated text) : Reader.split text = [text] := by
  have hdot : ¬ text.contains '.' = true := fun hc =>
    Bool.false_ne_true ((h _ (List.contains_iff_mem.1 hc)).symm.trans rfl)
  have hcomma : ¬ text.contains ',' = true := fun hc =>
    Bool.false_ne_true ((h _ (List.contains_iff_mem.1 hc)).symm.trans rfl)
  rw [Reader.split, if_neg hdot, if_neg hcomma]

/-- A text with separators of one kind is split by them. -/
theorem split_eq {text : List Char} {separator : Char} (hs : isSeparator separator = true)
    (hmem : separator ∈ text) (hone : ∀ c ∈ text, isSeparator c = true → c = separator) :
    Reader.split text = text.splitOnP (· = separator) := by
  unfold Reader.split
  rcases separator_cases hs with rfl | rfl
  · rw [if_pos (List.contains_iff_mem.2 hmem)]
  · have hdot : ¬ text.contains '.' = true := fun hc =>
      absurd (hone _ (List.contains_iff_mem.1 hc) rfl) (by decide)
    rw [if_neg hdot, if_pos (List.contains_iff_mem.2 hmem)]

/-- Without both separators, a text has none or only one kind. -/
theorem separator_or {text : List Char} (h : ¬ ('.' ∈ text ∧ ',' ∈ text)) :
    Unseparated text ∨ ∃ separator, isSeparator separator = true ∧ separator ∈ text ∧
      ∀ c ∈ text, isSeparator c = true → c = separator := by
  by_cases hdot : '.' ∈ text
  · refine .inr ⟨'.', rfl, hdot, fun c hc hsep => ?_⟩
    rcases separator_cases hsep with rfl | rfl
    · rfl
    · exact absurd ⟨hdot, hc⟩ h
  · by_cases hcomma : ',' ∈ text
    · refine .inr ⟨',', rfl, hcomma, fun c hc hsep => ?_⟩
      rcases separator_cases hsep with rfl | rfl
      · exact absurd hc hdot
      · rfl
    · refine .inl fun c hc => ?_
      by_contra hsep
      rcases separator_cases (by simpa using hsep) with rfl | rfl
      · exact hdot hc
      · exact hcomma hc

theorem unseparated_append {left right : List Char} (hl : Unseparated left)
    (hr : Unseparated right) {separator : Char} :
    ∀ c ∈ left ++ separator :: right, isSeparator c = true → c = separator := by
  intro c hc hsep
  rcases List.mem_append.1 hc with hc | hc
  · rw [hl c hc] at hsep
    cases hsep
  · rcases List.mem_cons.1 hc with rfl | hc
    · rfl
    · rw [hr c hc] at hsep
      cases hsep

theorem joinRepeated_unseparated {text : List Char} (h : Unseparated text) :
    Reader.joinRepeated text = some text := by
  unfold Reader.joinRepeated
  simp only [split_unseparated h, h.map]
  exact if_neg (by simp)

theorem joinRepeated_decimal {left right : List Char} {separator : Char}
    (hs : isSeparator separator = true) (hl : Unseparated left) (hr : Unseparated right) :
    Reader.joinRepeated (left ++ separator :: right) = some (left ++ '.' :: right) := by
  have hsplit : Reader.split (left ++ separator :: right) = [left, right] := by
    rw [split_eq hs (by simp) (unseparated_append hl hr),
      List.splitOnP_append_cons_of_forall_mem (hl.ne hs) separator (by simp),
      List.splitOnP_eq_singleton (hr.ne hs)]
  have hdot : Reader.commaToDot separator = '.' := by
    rcases separator_cases hs with rfl | rfl <;> rfl
  unfold Reader.joinRepeated
  simp only [hsplit, List.map_append, List.map_cons, hl.map, hr.map, hdot]
  exact if_neg (by simp)

theorem joinRepeated_repeated {text : List Char} {groups : List (List Char)} {separator : Char}
    (hs : isSeparator separator = true) (h : JoinedBy (· = separator) text groups)
    (hlen : 3 ≤ groups.length) (hgroups : CompleteGroups groups) :
    Reader.joinRepeated text = some groups.flatten := by
  have hone : ∀ c ∈ text, isSeparator c = true → c = separator := by
    intro c hc hsep
    rcases hgroups.mem h c hc with hd | hd
    · rw [(digit_plain hd).1] at hsep
      cases hsep
    · exact of_decide_eq_true hd
  obtain ⟨c, hc, hsep⟩ := h.exists_separator (by omega)
  obtain rfl : c = separator := of_decide_eq_true hsep
  have hsplit : Reader.split text = groups := by
    rw [split_eq hs hc hone]
    refine h.splitOnP_eq (hgroups.parts fun d hd => ?_)
    rw [of_decide_eq_true hd]
    exact (separator_plain hs).1
  unfold Reader.joinRepeated
  simp only [hsplit]
  rw [if_pos (by omega), if_pos (completeGroups_iff.2 hgroups)]

/-- What comes of a text with separators of one kind: its groups are joined, or it had at most one. -/
theorem of_joinRepeated {text joined : List Char} (hone : ¬ ('.' ∈ text ∧ ',' ∈ text))
    (h : Reader.joinRepeated text = some joined) :
    (∃ separator groups, isSeparator separator = true ∧ JoinedBy (· = separator) text groups ∧
        3 ≤ groups.length ∧ CompleteGroups groups ∧ joined = groups.flatten) ∨
      (Unseparated text ∧ joined = text) ∨
      ∃ separator left right, isSeparator separator = true ∧ Unseparated left ∧
        Unseparated right ∧ text = left ++ separator :: right ∧ joined = left ++ '.' :: right := by
  rcases separator_or hone with hplain | ⟨separator, hs, hmem, hone⟩
  · rw [joinRepeated_unseparated hplain] at h
    cases h
    exact .inr (.inl ⟨hplain, rfl⟩)
  · have hsplit := split_eq hs hmem hone
    have hjoined := JoinedBy.splitOnP (· = separator) text
    have hparts := JoinedBy.splitOnP_parts (· = separator) text
    rw [← hsplit] at hjoined hparts
    by_cases hlen : 2 < (Reader.split text).length
    · unfold Reader.joinRepeated at h
      simp only [if_pos hlen] at h
      split at h
      · rename_i hgroups
        cases h
        exact .inl ⟨separator, _, hs, hjoined, hlen, completeGroups_iff.1 hgroups, rfl⟩
      · cases h
    · right; right
      generalize Reader.split text = groups at hlen hjoined hparts
      have hpart : ∀ part ∈ groups, (∀ c ∈ part, c ∈ text) → Unseparated part := by
        intro part hpart hsub c hc
        by_contra hsep
        have hceq := hone c (hsub c hc) (by simpa using hsep)
        have := hparts part hpart c hc
        simp [hceq] at this
      rcases groups with _ | ⟨left, _ | ⟨right, _ | ⟨third, more⟩⟩⟩
      · exact absurd rfl hjoined.ne_nil
      · -- a single part would have the separator in it
        obtain rfl := hjoined.eq_of_single
        have := hparts text (by simp) separator hmem
        simp at this
      · obtain ⟨a, ha, rfl⟩ := hjoined.eq_of_two
        obtain rfl : a = separator := of_decide_eq_true ha
        have hl := hpart left (by simp) fun c hc => by simp [hc]
        have hr := hpart right (by simp) fun c hc => by simp [hc]
        rw [joinRepeated_decimal hs hl hr] at h
        exact ⟨a, left, right, hs, hl, hr, rfl, (Option.some.inj h).symm⟩
      · simp at hlen

/-! ### Spaces between groups -/

theorem before_dot {left right : List Char} (h : Unseparated left) :
    (left ++ '.' :: right).takeWhile (· ≠ '.') = left ∧
      (left ++ '.' :: right).dropWhile (· ≠ '.') = '.' :: right := by
  have hne : ∀ c ∈ left, decide (c ≠ '.') = true := by
    intro c hc
    have := h.ne (c := '.') rfl c hc
    simpa using this
  constructor
  · rw [List.takeWhile_append_of_pos hne, List.takeWhile_cons_of_neg (by simp), List.append_nil]
  · rw [List.dropWhile_append_of_pos hne, List.dropWhile_cons_of_neg (by simp)]

theorem no_dot {text : List Char} (h : Unseparated text) :
    text.takeWhile (· ≠ '.') = text ∧ text.dropWhile (· ≠ '.') = [] := by
  have hne : ∀ c ∈ text, decide (c ≠ '.') = true := by
    intro c hc
    have := h.ne (c := '.') rfl c hc
    simpa using this
  exact ⟨List.takeWhile_eq_self_iff.2 hne, List.dropWhile_eq_nil_iff.2 hne⟩

theorem spacedNumber_iff {text : List Char} (h : Unseparated text) :
    Reader.spacedNumber text = true ↔
      2 ≤ (text.splitOnP isGroupSpace).length ∧ CompleteGroups (text.splitOnP isGroupSpace) := by
  unfold Reader.spacedNumber
  simp only [(no_dot h).1, (no_dot h).2, Bool.and_eq_true, decide_eq_true_eq, completeGroups_iff,
    and_true]

theorem spacedNumber_decimal_iff {left right : List Char} (h : Unseparated left) :
    Reader.spacedNumber (left ++ '.' :: right) = true ↔
      2 ≤ (left.splitOnP isGroupSpace).length ∧ CompleteGroups (left.splitOnP isGroupSpace) ∧
        Digits right := by
  unfold Reader.spacedNumber
  simp only [(before_dot h).1, (before_dot h).2, Bool.and_eq_true, decide_eq_true_eq,
    completeGroups_iff, digits_iff, and_assoc]

/-- Group spaces are between digits only. -/
theorem CompleteGroups.unseparated {groups : List (List Char)} (h : CompleteGroups groups)
    {text : List Char} (htext : JoinedBy isGroupSpace text groups) : Unseparated text := by
  intro c hc
  rcases h.mem htext c hc with hd | hd
  · exact (digit_plain hd).1
  · exact (groupSpace_plain hd).2.1

theorem CompleteGroups.splitOnP {groups : List (List Char)} (h : CompleteGroups groups)
    {text : List Char} (htext : JoinedBy isGroupSpace text groups) :
    text.splitOnP isGroupSpace = groups :=
  htext.splitOnP_eq (h.parts fun _ hc => (groupSpace_plain hc).1)

theorem Digits.filter {text : List Char} (h : Digits text) :
    text.filter (fun c => !isGroupSpace c) = text :=
  List.filter_eq_self.2 fun c hc => by simp [(digit_plain (h.all c hc)).2.2]

namespace Reader

variable {r : Reader}

theorem blank_of_digit {c : Char} (h : c.isDigit = true) : ¬ r.blank c = true := by
  intro hb
  have hplain := r.blank_plain c hb
  simp [isNumeric, h] at hplain

/-- A text without white space between its digits is left alone. -/
theorem joinSpaced_of_plain {text whole fraction : List Char} (h : Plain text whole fraction) :
    r.joinSpaced text = some text := by
  have hdot : ¬ r.blank '.' = true := by
    intro hb
    have hplain := r.blank_plain '.' hb
    simp [isNumeric, isSeparator] at hplain
  have hany : ¬ text.any r.blank = true := by
    rw [List.any_eq_true]
    rintro ⟨c, hc, hb⟩
    cases h with
    | whole h => exact blank_of_digit (h.all c hc) hb
    | decimal h =>
      rcases List.mem_append.1 hc with hc | hc
      · exact blank_of_digit (h.all c (List.mem_append_left _ hc)) hb
      · rcases List.mem_cons.1 hc with rfl | hc
        · exact hdot hb
        · exact blank_of_digit (h.all c (List.mem_append_right _ hc)) hb
  rw [joinSpaced, if_neg hany]

theorem any_blank {text : List Char} {groups : List (List Char)}
    (h : JoinedBy isGroupSpace text groups) (hlen : 2 ≤ groups.length) (more : List Char) :
    (text ++ more).any r.blank = true := by
  obtain ⟨c, hc, hspace⟩ := h.exists_separator hlen
  exact List.any_eq_true.2 ⟨c, List.mem_append_left _ hc, r.groupSpace_blank c hspace⟩

theorem joinSpaced_spaced {text : List Char} {groups : List (List Char)}
    (h : JoinedBy isGroupSpace text groups) (hlen : 2 ≤ groups.length)
    (hgroups : CompleteGroups groups) : r.joinSpaced text = some groups.flatten := by
  have hblank := any_blank (r := r) h hlen []
  rw [List.append_nil] at hblank
  rw [joinSpaced, if_pos hblank, if_pos ((spacedNumber_iff (hgroups.unseparated h)).2
    (by rw [hgroups.splitOnP h]; exact ⟨hlen, hgroups⟩)),
    h.filter (hgroups.parts fun _ hc => (groupSpace_plain hc).1)]

theorem joinSpaced_decimal {text fraction : List Char} {groups : List (List Char)}
    (h : JoinedBy isGroupSpace text groups) (hlen : 2 ≤ groups.length)
    (hgroups : CompleteGroups groups) (hf : Digits fraction) :
    r.joinSpaced (text ++ '.' :: fraction) = some (groups.flatten ++ '.' :: fraction) := by
  rw [joinSpaced, if_pos (any_blank h hlen _),
    if_pos ((spacedNumber_decimal_iff (hgroups.unseparated h)).2
      (by rw [hgroups.splitOnP h]; exact ⟨hlen, hgroups, hf⟩)),
    List.filter_append, h.filter (hgroups.parts fun _ hc => (groupSpace_plain hc).1),
    List.filter_cons_of_pos (by decide), hf.filter]

/-! ### What `ungroup` accepts -/

theorem not_mem_both {text : List Char} {separator : Char}
    (h : ∀ c ∈ text, isSeparator c = true → c = separator) : ¬ ('.' ∈ text ∧ ',' ∈ text) := by
  rintro ⟨hdot, hcomma⟩
  have hd := h _ hdot rfl
  have hc := h _ hcomma rfl
  rw [← hd] at hc
  exact absurd hc (by decide)

theorem ungroup_one {text : List Char} (h : ¬ ('.' ∈ text ∧ ',' ∈ text)) :
    r.ungroup text = (joinRepeated text).bind r.joinSpaced := by
  rw [ungroup, if_neg]
  rwa [Bool.and_eq_true, List.contains_iff_mem, List.contains_iff_mem]

theorem ungroup_both {text : List Char} (h : '.' ∈ text ∧ ',' ∈ text) :
    r.ungroup text = joinMixed text := by
  rw [ungroup, if_pos]
  rwa [Bool.and_eq_true, List.contains_iff_mem, List.contains_iff_mem]

theorem Plain.of_append {left right whole fraction : List Char} (hl : Unseparated left)
    (h : Plain (left ++ '.' :: right) whole fraction) :
    left = whole ∧ right = fraction ∧ Digits (whole ++ fraction) := by
  generalize heq : left ++ '.' :: right = text at h
  cases h with
  | whole h =>
    have hd := h.all '.' (by simp [← heq])
    cases hd
  | decimal h =>
    have hw : Unseparated whole := Digits.unseparated fun c hc => h.all c (List.mem_append_left _ hc)
    have htake := (@before_dot _ right hl).1
    have hdrop := (@before_dot _ right hl).2
    rw [heq, (before_dot hw).1] at htake
    rw [heq, (before_dot hw).2] at hdrop
    exact ⟨htake.symm, (List.cons.inj hdrop).2.symm, h⟩

theorem Plain.of_unseparated {text whole fraction : List Char} (ht : Unseparated text)
    (h : Plain text whole fraction) : text = whole ∧ fraction = [] ∧ Digits text := by
  cases h with
  | whole h => exact ⟨rfl, rfl, h⟩
  | decimal h => exact absurd (ht '.' (by simp)) (by decide)

theorem reading_of_ungroup {text plain whole fraction : List Char}
    (h : r.ungroup text = some plain) (hplain : Plain plain whole fraction) :
    Reading text whole fraction := by
  by_cases hboth : '.' ∈ text ∧ ',' ∈ text
  · rw [ungroup_both hboth] at h
    obtain ⟨whole', fraction', hreading, hplain'⟩ := reading_of_joinMixed h hboth.1 hboth.2
    rw [← hplain.split.1, ← hplain.split.2, hplain'.split.1, hplain'.split.2]
    exact hreading
  · rw [ungroup_one hboth, Option.bind_eq_some_iff] at h
    obtain ⟨joined, hjoin, h⟩ := h
    rcases of_joinRepeated hboth hjoin with ⟨separator, groups, hs, htext, hlen, hgroups, rfl⟩ |
      ⟨hone, rfl⟩ | ⟨separator, left, right, hs, hl, hr, rfl, rfl⟩
    · rw [joinSpaced_of_plain (.whole hgroups.flatten)] at h
      cases h
      obtain ⟨rfl, rfl, -⟩ :=
        Plain.of_unseparated (Digits.unseparated hgroups.flatten.all) hplain
      exact .repeated hs htext hlen hgroups
    · unfold joinSpaced at h
      split at h
      · split at h
        · rename_i hspaced
          obtain ⟨hlen, hgroups⟩ := (spacedNumber_iff hone).1 hspaced
          have htext := JoinedBy.splitOnP isGroupSpace joined
          have hparts := JoinedBy.splitOnP_parts isGroupSpace joined
          rw [htext.filter hparts] at h
          cases h
          obtain ⟨rfl, rfl, -⟩ :=
            Plain.of_unseparated (Digits.unseparated hgroups.flatten.all) hplain
          exact .spaced htext hlen hgroups
        · cases h
      · cases h
        obtain ⟨rfl, rfl, hd⟩ := Plain.of_unseparated hone hplain
        exact .whole hd
    · unfold joinSpaced at h
      split at h
      · split at h
        · rename_i hspaced
          obtain ⟨hlen, hgroups, hf⟩ := (spacedNumber_decimal_iff hl).1 hspaced
          have htext := JoinedBy.splitOnP isGroupSpace left
          have hparts := JoinedBy.splitOnP_parts isGroupSpace left
          rw [List.filter_append, htext.filter hparts, List.filter_cons_of_pos (by decide),
            hf.filter] at h
          cases h
          obtain ⟨rfl, rfl, -⟩ := Plain.of_append (Digits.unseparated hgroups.flatten.all) hplain
          exact .spacedDecimal hs htext hlen hgroups hf
        · cases h
      · cases h
        obtain ⟨rfl, rfl, hd⟩ := Plain.of_append hl hplain
        exact .decimal hs hd

theorem ungroup_of_reading {text whole fraction : List Char} (h : Reading text whole fraction) :
    ∃ plain, r.ungroup text = some plain ∧ Plain plain whole fraction := by
  cases h with
  | whole h =>
    refine ⟨text, ?_, .whole h⟩
    have hone := Digits.unseparated h.all
    rw [ungroup_one fun hboth => absurd (hone _ hboth.1) (by decide), joinRepeated_unseparated hone]
    exact joinSpaced_of_plain (.whole h)
  | decimal hs h =>
    refine ⟨_, ?_, .decimal h⟩
    have hl : Unseparated whole :=
      Digits.unseparated fun c hc => h.all c (List.mem_append_left _ hc)
    have hr : Unseparated fraction :=
      Digits.unseparated fun c hc => h.all c (List.mem_append_right _ hc)
    rw [ungroup_one (not_mem_both (unseparated_append hl hr)), joinRepeated_decimal hs hl hr]
    exact joinSpaced_of_plain (.decimal h)
  | @repeated separator _ groups hs htext hlen hgroups =>
    refine ⟨groups.flatten, ?_, .whole hgroups.flatten⟩
    have hone : ∀ c ∈ text, isSeparator c = true → c = separator := by
      intro c hc hsep
      rcases hgroups.mem htext c hc with hd | hd
      · rw [(digit_plain hd).1] at hsep
        cases hsep
      · exact of_decide_eq_true hd
    rw [ungroup_one (not_mem_both hone), joinRepeated_repeated hs htext hlen hgroups]
    exact joinSpaced_of_plain (.whole hgroups.flatten)
  | @mixed grouping separator text _ groups hg hs hne htext hlen hgroups hf =>
    refine ⟨groups.flatten ++ '.' :: fraction, ?_, .decimal (hgroups.flatten.append hf)⟩
    obtain ⟨c, hc, hgrouping⟩ := htext.exists_separator hlen
    obtain rfl : c = grouping := of_decide_eq_true hgrouping
    have hboth : '.' ∈ text ++ separator :: fraction ∧ ',' ∈ text ++ separator :: fraction := by
      rcases separator_cases hg with rfl | rfl <;> rcases separator_cases hs with rfl | rfl
      · exact absurd rfl hne
      · exact ⟨List.mem_append_left _ hc, by simp⟩
      · exact ⟨by simp, List.mem_append_left _ hc⟩
      · exact absurd rfl hne
    rw [ungroup_both hboth]
    exact joinMixed_eq hg hs hne htext hgroups hf
  | @spaced _ groups htext hlen hgroups =>
    refine ⟨groups.flatten, ?_, .whole hgroups.flatten⟩
    have hone := hgroups.unseparated htext
    rw [ungroup_one fun hboth => absurd (hone _ hboth.1) (by decide), joinRepeated_unseparated hone]
    exact joinSpaced_spaced htext hlen hgroups
  | @spacedDecimal separator text _ groups hs htext hlen hgroups hf =>
    refine ⟨groups.flatten ++ '.' :: fraction, ?_, .decimal (hgroups.flatten.append hf)⟩
    have hl := hgroups.unseparated htext
    have hr := Digits.unseparated hf.all
    rw [ungroup_one (not_mem_both (unseparated_append hl hr)), joinRepeated_decimal hs hl hr]
    exact joinSpaced_decimal htext hlen hgroups hf

/-- **A text becomes a plain number iff it is a reading of it.** -/
theorem ungroup_iff {text whole fraction : List Char} :
    (∃ plain, r.ungroup text = some plain ∧ Plain plain whole fraction) ↔
      Reading text whole fraction :=
  ⟨fun ⟨_, h, hplain⟩ => reading_of_ungroup h hplain, ungroup_of_reading⟩

/-! ### Signs -/

theorem splitSign_signed (text : List Char) : Signed text (splitSign text).1 (splitSign text).2 := by
  unfold splitSign
  cases text with
  | nil => exact .none []
  | cons c text =>
    simp only
    split
    · rename_i h
      simp only [isSign, Bool.or_eq_true, decide_eq_true_eq] at h
      rcases h with rfl | rfl
      · exact .plus text
      · exact .minus text
    · exact .none (c :: text)

end Reader

theorem CompleteGroups.ends {groups : List (List Char)} (h : CompleteGroups groups)
    {p : Char → Bool} {text : List Char} (htext : JoinedBy p text groups) : Ends Char.isDigit text :=
  Ends.joined htext fun group hgroup => .of_all (h.digits group hgroup).1 (h.digits group hgroup).all

/-- A number begins and ends with a digit or a separator. -/
theorem Reading.ends {text whole fraction : List Char} (h : Reading text whole fraction) :
    Ends (fun c => c.isDigit || isSeparator c) text := by
  have hdigit : ∀ {text}, Ends Char.isDigit text → Ends (fun c => c.isDigit || isSeparator c) text := by
    rintro text ⟨⟨a, rest, ha, hda⟩, ⟨init, b, hb, hdb⟩⟩
    exact ⟨⟨a, rest, ha, by simp [hda]⟩, ⟨init, b, hb, by simp [hdb]⟩⟩
  have hdigits : ∀ {text}, Digits text → Ends Char.isDigit text := fun h => .of_all h.1 h.all
  cases h with
  | whole h => exact hdigit (hdigits h)
  | decimal hs h =>
    refine .of_all (by simp) fun c hc => ?_
    rcases List.mem_append.1 hc with hc | hc
    · simp [h.all c (List.mem_append_left _ hc)]
    · rcases List.mem_cons.1 hc with rfl | hc
      · simp [hs]
      · simp [h.all c (List.mem_append_right _ hc)]
  | repeated hs htext hlen hgroups => exact hdigit (hgroups.ends htext)
  | @mixed grouping separator text _ groups hg hs hne htext hlen hgroups hf =>
    have hends := (hgroups.ends htext).append (hdigits hf) [separator]
    rw [List.append_assoc] at hends
    exact hdigit hends
  | spaced htext hlen hgroups => exact hdigit (hgroups.ends htext)
  | @spacedDecimal separator text _ groups hs htext hlen hgroups hf =>
    have hends := (hgroups.ends htext).append (hdigits hf) [separator]
    rw [List.append_assoc] at hends
    exact hdigit hends

theorem Signed.splitSign {text body whole fraction : List Char} {negative : Bool}
    (h : Signed text negative body) (hbody : Reading body whole fraction) :
    Reader.splitSign text = (negative, body) := by
  cases h with
  | none =>
    obtain ⟨c, rest, rfl, hc⟩ := hbody.ends.first
    have hsign : isSign c = false := by
      rcases Bool.or_eq_true_iff.1 hc with hc | hc
      · exact (digit_plain hc).2.1
      · exact (separator_plain hc).2.1
    simp [Reader.splitSign, hsign]
  | plus => rfl
  | minus => rfl

/-- **The number of a text is the one that the text denotes.** -/
theorem Reader.number_iff {r : Reader} {text : List Char} {value : Decimal} :
    r.number text = some value ↔ Denotes text value := by
  unfold Reader.number
  simp only [Option.map_eq_some_iff, Option.filter_eq_some_iff, plainNumber_iff]
  constructor
  · rintro ⟨plain, ⟨hungroup, whole, fraction, hplain⟩, rfl⟩
    refine ⟨_, _, whole, fraction, Reader.splitSign_signed text,
      Reader.reading_of_ungroup hungroup hplain, ?_⟩
    rw [Reader.toBigDecimal, hplain.split.1, hplain.split.2, toRat_decimalOf]
  · rintro ⟨negative, body, whole, fraction, hsigned, hreading, hvalue⟩
    obtain ⟨plain, hungroup, hplain⟩ := Reader.ungroup_of_reading (r := r) hreading
    rw [hsigned.splitSign hreading]
    refine ⟨plain, ⟨hungroup, whole, fraction, hplain⟩, Decimal.toRat_injective ?_⟩
    rw [Reader.toBigDecimal, hplain.split.1, hplain.split.2, toRat_decimalOf, hvalue]

/-- With its sign, a number begins and ends with a character of numbers. -/
theorem Denotes.ends {text : List Char} {value : Decimal} (h : Denotes text value) :
    Ends isNumeric text := by
  obtain ⟨negative, body, whole, fraction, hsigned, hreading, -⟩ := h
  have hbody : Ends isNumeric body := by
    obtain ⟨⟨a, rest, ha, hda⟩, ⟨init, b, hb, hdb⟩⟩ := hreading.ends
    exact ⟨⟨a, rest, ha, by rw [isNumeric, hda, Bool.true_or]⟩,
      ⟨init, b, hb, by rw [isNumeric, hdb, Bool.true_or]⟩⟩
  cases hsigned with
  | none => exact hbody
  | plus => exact hbody.cons rfl
  | minus => exact hbody.cons rfl

/-! ## What stands around a number -/

namespace Reader

variable (r : Reader)

/-- A currency's symbol, or its code as the platform matches letters. -/
def Mark (mark : List Char) : Prop :=
  (∃ symbol ∈ SYMBOLS, mark = [symbol]) ∨
    ∃ code ∈ CODES, List.Forall₂ (fun c l => r.letter c l = true) mark code

/-- White space around the text, and between the number and a mark before or after it. -/
def Surrounded (body text : List Char) : Prop :=
  ∃ before front back after : List Char,
    text = before ++ (front ++ body ++ back) ++ after ∧
    (∀ c ∈ before, r.trims c = true) ∧ (∀ c ∈ after, r.trims c = true) ∧
    (front = [] ∨ ∃ mark gaps, r.Mark mark ∧ (∀ c ∈ gaps, r.gap c = true) ∧ front = mark ++ gaps) ∧
    (back = [] ∨ ∃ gaps mark, (∀ c ∈ gaps, r.gap c = true) ∧ r.Mark mark ∧ back = gaps ++ mark)

variable {r}

theorem isMark_iff {mark : List Char} : r.isMark mark = true ↔ r.Mark mark := by
  have hlength : ∀ code ∈ CODES, code.length = 3 := by decide
  unfold isMark Mark
  rw [Bool.or_eq_true, List.any_eq_true, List.any_eq_true, or_comm]
  refine or_congr ?_ ?_
  · simp
  · refine exists_congr fun code => and_congr_right fun hcode => ?_
    rw [List.forall₂_iff_zip, hlength code hcode, Bool.and_eq_true, decide_eq_true_eq,
      List.all_eq_true]
    exact and_congr_right fun _ => ⟨fun h {a b} hab => h (a, b) hab, fun h p hp => h hp⟩

/-- What is known of the marks, also when they are read backwards. -/
structure MarkSet (q : List Char → Bool) : Prop where
  length : ∀ mark, q mark = true → mark.length = 3 ∨ mark.length = 1
  plain : ∀ mark, q mark = true → ∀ c ∈ mark, isNumeric c = false
  symbol : ∀ c, q [c] = true → c ∈ SYMBOLS
  code : ∀ mark, q mark = true → mark.length = 3 → ∀ c ∈ mark, c ∉ SYMBOLS

theorem Mark.cases {mark : List Char} (h : r.Mark mark) :
    (mark.length = 1 ∧ ∀ c ∈ mark, c ∈ SYMBOLS) ∨
      (mark.length = 3 ∧ ∀ c ∈ mark, isNumeric c = false ∧ c ∉ SYMBOLS ∧ r.trims c = false) := by
  have hlength : ∀ code ∈ CODES, code.length = 3 := by decide
  rcases h with ⟨symbol, hsymbol, rfl⟩ | ⟨code, hcode, h⟩
  · exact .inl ⟨rfl, by simpa using hsymbol⟩
  · refine .inr ⟨h.length_eq.trans (hlength code hcode), fun c hc => ?_⟩
    obtain ⟨l, hl, hcl⟩ := h.exists_right hc
    exact r.letter_plain c code hcode l hl hcl

theorem symbol_plain {c : Char} (h : c ∈ SYMBOLS) : isNumeric c = false ∧ r.trims c = false := by
  have hplain : (SYMBOLS.all fun c => !isNumeric c) = true := by decide
  refine ⟨by simpa using List.all_eq_true.1 hplain c h, ?_⟩
  rw [Bool.eq_false_iff]
  exact fun ht => (r.trims_plain c ht).2 h

theorem Mark.plain {mark : List Char} (h : r.Mark mark) :
    mark ≠ [] ∧ ∀ c ∈ mark, isNumeric c = false ∧ r.trims c = false := by
  rcases h.cases with ⟨hlen, hall⟩ | ⟨hlen, hall⟩
  · exact ⟨List.ne_nil_of_length_eq_add_one hlen, fun c hc => symbol_plain (hall c hc)⟩
  · exact ⟨List.ne_nil_of_length_eq_add_one hlen, fun c hc => ⟨(hall c hc).1, (hall c hc).2.2⟩⟩

theorem markSet : MarkSet r.isMark where
  length mark h := (isMark_iff.1 h).cases.symm.imp And.left And.left
  plain mark h c hc := ((isMark_iff.1 h).plain.2 c hc).1
  symbol c h := by
    rcases (isMark_iff.1 h).cases with ⟨-, hall⟩ | ⟨hlen, -⟩
    · exact hall c (by simp)
    · simp at hlen
  code mark h hlen c hc := by
    rcases (isMark_iff.1 h).cases with ⟨hone, -⟩ | ⟨-, hall⟩
    · omega
    · exact (hall c hc).2.1

theorem markSet_reverse : MarkSet fun mark => r.isMark mark.reverse where
  length mark h := by simpa using markSet.length _ h
  plain mark h c hc := markSet.plain _ h c (by simpa using hc)
  symbol c h := markSet.symbol c h
  code mark h hlen c hc := markSet.code _ h (by simpa using hlen) c (by simpa using hc)

/-- A mark in front is taken away, with the white space after it. -/
theorem stripMark_mark {q : List Char → Bool} (hq : MarkSet q) {mark gaps text : List Char}
    (hmark : q mark = true) (hgaps : ∀ c ∈ gaps, r.gap c = true)
    (htext : ∃ c rest, text = c :: rest ∧ isNumeric c = true) :
    r.stripMark q (mark ++ (gaps ++ text)) = text := by
  obtain ⟨c, rest, rfl, hc⟩ := htext
  have hrest : (gaps ++ c :: rest).dropWhile r.gap = c :: rest := by
    have hgap : ¬ r.gap c = true := fun hg => by
      rw [(r.trims_plain c (r.gap_trims c hg)).1] at hc
      cases hc
    rw [List.dropWhile_append_of_pos hgaps, List.dropWhile_cons_of_neg hgap]
  unfold stripMark
  rcases hq.length mark hmark with hlen | hlen
  · rw [List.take_left' hlen, List.drop_left' hlen, if_pos hmark, hrest]
  · obtain ⟨symbol, rfl⟩ := List.length_eq_one_iff.1 hlen
    have hthree : ¬ q (([symbol] ++ (gaps ++ c :: rest)).take 3) = true := by
      intro h
      rcases hq.length _ h with hl | hl
      · exact hq.code _ h hl symbol (by simp) (hq.symbol symbol hmark)
      · simp only [List.length_take, List.length_append, List.length_cons] at hl
        omega
    rw [if_neg hthree, List.take_left' hlen, List.drop_left' hlen, if_pos hmark, hrest]

theorem stripMark_none {q : List Char → Bool} (hq : MarkSet q) {text : List Char}
    (htext : ∃ c rest, text = c :: rest ∧ isNumeric c = true) : r.stripMark q text = text := by
  obtain ⟨c, rest, rfl, hc⟩ := htext
  have hnot : ∀ n, ¬ q ((c :: rest).take (n + 1)) = true := by
    intro n h
    rw [hq.plain _ h c (by simp)] at hc
    cases hc
  rw [stripMark, if_neg (hnot 2), if_neg (hnot 0)]

/-- What is taken away in front. -/
theorem exists_front (q : List Char → Bool) (text : List Char) :
    ∃ front, text = front ++ r.stripMark q text ∧
      (front = [] ∨ ∃ mark gaps, q mark = true ∧ (∀ c ∈ gaps, r.gap c = true) ∧
        front = mark ++ gaps) := by
  have key : ∀ n, text = (text.take n ++ (text.drop n).takeWhile r.gap)
      ++ (text.drop n).dropWhile r.gap := by
    intro n
    rw [List.append_assoc, List.takeWhile_append_dropWhile, List.take_append_drop]
  unfold stripMark
  split
  · rename_i h
    exact ⟨_, key 3, .inr ⟨_, _, h, fun c hc => List.mem_takeWhile_imp hc, rfl⟩⟩
  · split
    · rename_i h
      exact ⟨_, key 1, .inr ⟨_, _, h, fun c hc => List.mem_takeWhile_imp hc, rfl⟩⟩
    · exact ⟨[], rfl, .inl rfl⟩

theorem exists_trim (text : List Char) :
    ∃ before after, text = before ++ r.trim text ++ after ∧
      (∀ c ∈ before, r.trims c = true) ∧ ∀ c ∈ after, r.trims c = true := by
  refine ⟨text.takeWhile r.trims, (text.dropWhile r.trims).rtakeWhile r.trims, ?_,
    fun c hc => List.mem_takeWhile_imp hc, fun c hc => List.mem_rtakeWhile_imp hc⟩
  rw [trim, List.append_assoc, List.rdropWhile_append_rtakeWhile, List.takeWhile_append_dropWhile]

theorem surrounded_strip (text : List Char) : r.Surrounded (r.strip text) text := by
  obtain ⟨before, after, htext, hbefore, hafter⟩ := exists_trim (r := r) text
  obtain ⟨front, hfront, hmark⟩ := exists_front (r := r) r.isMark (r.trim text)
  obtain ⟨back, hback, hmark'⟩ := exists_front (r := r) (fun mark => r.isMark mark.reverse)
    (r.stripMark r.isMark (r.trim text)).reverse
  refine ⟨before, front, back.reverse, after, ?_, hbefore, hafter, ?_, ?_⟩
  · have hinner : r.stripMark r.isMark (r.trim text) = r.strip text ++ back.reverse := by
      rw [strip, ← List.reverse_append, ← hback, List.reverse_reverse]
    rw [List.append_assoc front, ← hinner, ← hfront, ← htext]
  · exact hmark.imp_right fun ⟨mark, gaps, hm, hg, heq⟩ => ⟨mark, gaps, isMark_iff.1 hm, hg, heq⟩
  · rcases hmark' with rfl | ⟨mark, gaps, hm, hg, rfl⟩
    · exact .inl rfl
    · exact .inr ⟨gaps.reverse, mark.reverse, by simpa using hg, isMark_iff.1 hm, by simp⟩

/-- Nothing more is taken away than what stands around the number. -/
theorem strip_eq {body text : List Char} (h : r.Surrounded body text)
    (hbody : Ends isNumeric body) : r.strip text = body := by
  obtain ⟨before, front, back, after, rfl, hbefore, hafter, hfront, hback⟩ := h
  have hnumeric : ∀ c, isNumeric c = true → (!r.trims c) = true := by
    intro c hc
    rw [Bool.not_eq_true', Bool.eq_false_iff]
    intro ht
    rw [(r.trims_plain c ht).1] at hc
    cases hc
  have hmark : ∀ mark, r.Mark mark → Ends (fun c => !r.trims c) mark := fun mark hm =>
    .of_all hm.plain.1 fun c hc => by simp [(hm.plain.2 c hc).2]
  have hplain : Ends (fun c => !r.trims c) body := by
    obtain ⟨⟨a, rest, ha, hda⟩, ⟨init, b, hb, hdb⟩⟩ := hbody
    exact ⟨⟨a, rest, ha, hnumeric a hda⟩, ⟨init, b, hb, hnumeric b hdb⟩⟩
  -- marks and numbers are no white space, so that `trim` leaves all three
  have hinner : Ends (fun c => !r.trims c) (front ++ body ++ back) := by
    have hright : Ends (fun c => !r.trims c) (body ++ back) := by
      rcases hback with rfl | ⟨gaps, mark, -, hm, rfl⟩
      · rwa [List.append_nil]
      · rw [← List.append_assoc]
        exact hplain.append (hmark mark hm) gaps
    rcases hfront with rfl | ⟨mark, gaps, hm, -, rfl⟩
    · exact hright
    · have := (hmark mark hm).append hright gaps
      rwa [← List.append_assoc] at this
  have htrim : r.trim (before ++ (front ++ body ++ back) ++ after) = front ++ body ++ back :=
    hinner.strip (fun c hc => by simpa using hc) hbefore hafter
  have hfirst : ∃ c rest, body ++ back = c :: rest ∧ isNumeric c = true := by
    obtain ⟨c, rest, rfl, hc⟩ := hbody.first
    exact ⟨c, rest ++ back, rfl, hc⟩
  have hlast : ∃ c rest, body.reverse = c :: rest ∧ isNumeric c = true := by
    obtain ⟨init, c, rfl, hc⟩ := hbody.last
    exact ⟨c, init.reverse, by simp, hc⟩
  have hstrip : r.stripMark r.isMark (front ++ (body ++ back)) = body ++ back := by
    rcases hfront with rfl | ⟨mark, gaps, hm, hg, rfl⟩
    · exact stripMark_none markSet hfirst
    · rw [List.append_assoc]
      exact stripMark_mark markSet (isMark_iff.2 hm) hg hfirst
  have hback_strip : r.stripMark (fun mark => r.isMark mark.reverse) (body ++ back).reverse
      = body.reverse := by
    rcases hback with rfl | ⟨gaps, mark, hg, hm, rfl⟩
    · rw [List.append_nil]
      exact stripMark_none markSet_reverse hlast
    · rw [List.reverse_append, List.reverse_append, List.append_assoc]
      exact stripMark_mark markSet_reverse (by simpa using isMark_iff.2 hm) (by simpa using hg) hlast
  unfold strip
  simp only [htrim]
  rw [List.append_assoc front, hstrip, hback_strip, List.reverse_reverse]

/-- **A reader takes a text for a number iff it is one, so surrounded.** -/
theorem localized_iff {text : List Char} {value : Decimal} :
    r.localized text = some value ↔ ∃ body, r.Surrounded body text ∧ Denotes body value := by
  unfold localized
  rw [number_iff]
  constructor
  · exact fun h => ⟨_, surrounded_strip text, h⟩
  · rintro ⟨body, hsurrounded, hdenotes⟩
    rwa [strip_eq hsurrounded hdenotes.ends]

end Reader

/-- **`parseLocalized` accepts the literals of the grammar**, with the values that they denote. -/
theorem parseLocalized_iff (text : List Char) (value : Decimal) :
    parseLocalized text = some value ↔ ∃ body, phone.Surrounded body text ∧ Denotes body value :=
  Reader.localized_iff

end Amounts
