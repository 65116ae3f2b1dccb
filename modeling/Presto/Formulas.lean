import Presto.Money

/-!
# The grammar of formulas

`Chain isOp U` is a row of operands of `U` with operators between them, grouped to the left; a
formula is a chain of chains of `Unary`. **`parse_iff`: `Formula.parse` stops, and it accepts the
formulas of at most 256 characters in which nothing is divided by zero, with their values.** The
parser goes down one level for each sign and each parenthesis, so the proofs about it go by the depth
that is left, and those about its loop by the chain.
-/

namespace Amounts.Formula

/-! ## Expressions -/

inductive Operator
  | add
  | subtract
  | multiply
  | divide
deriving DecidableEq

def operatorOf (c : Char) : Operator :=
  if c = '+' then .add
  else if c = '-' then .subtract
  else if c = '*' ∨ c = '×' then .multiply
  else .divide

/-- The arithmetic of the phone; a quotient by zero is none. -/
def Operator.apply : Operator → Decimal → Decimal → Decimal
  | add, a, b => a + b
  | subtract, a, b => a - b
  | multiply, a, b => times a b
  | divide, a, b => (Formula.divide a b).toOption.getD 0

inductive Expr
  | literal (value : Decimal)
  | sign (negative : Bool) (operand : Expr)
  | binary (operator : Operator) (left right : Expr)

namespace Expr

def value : Expr → Decimal
  | literal value => value
  | sign negative operand => if negative then -operand.value else operand.value
  | binary operator left right => operator.apply left.value right.value

/-- Nothing is divided by zero. -/
def Defined : Expr → Prop
  | literal _ => True
  | sign _ operand => operand.Defined
  | binary operator left right =>
    left.Defined ∧ right.Defined ∧ (operator = .divide → right.value ≠ 0)

def Divides : Expr → Prop
  | literal _ => False
  | sign _ operand => operand.Divides
  | binary operator left right => operator = .divide ∨ left.Divides ∨ right.Divides

/-- The value in exact arithmetic. -/
def exact : Expr → ℚ
  | literal value => value.toRat
  | sign negative operand => if negative then -operand.exact else operand.exact
  | binary .add left right => left.exact + right.exact
  | binary .subtract left right => left.exact - right.exact
  | binary .multiply left right => left.exact * right.exact
  | binary .divide left right => left.exact / right.exact

end Expr

/-! ## The grammar -/

def Blanks (gaps : List Char) : Prop := ∀ c ∈ gaps, Entry.isWhitespace c = true

/-- Operands, and operators between them; what is left of an operator is computed first. -/
inductive Chain (isOp : Char → Bool) (U : List Char → Expr → Prop) : List Char → Expr → Prop
  | single {text : List Char} {e : Expr} : U text e → Chain isOp U text e
  | snoc {left gaps right : List Char} {op : Char} {e e' : Expr} :
      Chain isOp U left e → Blanks gaps → isOp op = true → U right e' →
      Chain isOp U (left ++ (gaps ++ op :: right)) (.binary (operatorOf op) e e')

/-- A run of digits and separators that is a number. -/
def IsLiteral (token : List Char) (value : Decimal) : Prop :=
  (∀ c ∈ token, (c.isDigit || isSeparator c) = true) ∧ parseLocalized token = some value

inductive Unary : List Char → Expr → Prop
  | sign {gaps text : List Char} {c : Char} {e : Expr} :
      Blanks gaps → isSign c = true → Unary text e →
      Unary (gaps ++ c :: text) (.sign (decide (c = '-')) e)
  | parens {gaps text gaps' : List Char} {e : Expr} :
      Blanks gaps → Chain isSign (Chain isTimes Unary) text e → Blanks gaps' →
      Unary (gaps ++ '(' :: (text ++ (gaps' ++ [')']))) e
  | literal {gaps token : List Char} {value : Decimal} :
      Blanks gaps → IsLiteral token value → Unary (gaps ++ token) (.literal value)

/-- Sums of products. -/
abbrev Sum : List Char → Expr → Prop := Chain isSign (Chain isTimes Unary)

/-- A formula, and white space after it. -/
def Derives (text : List Char) (e : Expr) : Prop :=
  ∃ formula gaps, text = formula ++ gaps ∧ Sum formula e ∧ Blanks gaps

/-! ## Operators -/

theorem toRat_times (a b : Decimal) : (times a b).toRat = a.toRat * b.toRat := by
  rw [times, Decimal.toRat_normalized, Decimal.toRat, Decimal.toRat, pow_add]
  push_cast
  rw [div_mul_div_comm]

/-- **Without a division the value is exact.** -/
theorem Expr.value_exact (e : Expr) (h : ¬ e.Divides) : e.value.toRat = e.exact := by
  induction e with
  | literal value => rfl
  | sign negative operand ih =>
    cases negative
    · exact ih h
    · exact (Decimal.toRat_neg _).trans (congrArg (- ·) (ih h))
  | binary operator left right ihl ihr =>
    simp only [Expr.Divides, not_or] at h
    obtain ⟨hop, hl, hr⟩ := h
    cases operator with
    | add => exact (Decimal.toRat_add _ _).trans (congrArg₂ (· + ·) (ihl hl) (ihr hr))
    | subtract => exact (Decimal.toRat_sub _ _).trans (congrArg₂ (· - ·) (ihl hl) (ihr hr))
    | multiply => exact (toRat_times _ _).trans (congrArg₂ (· * ·) (ihl hl) (ihr hr))
    | divide => exact absurd rfl hop

theorem divide_eq (a b : Decimal) :
    divide a b = if b = 0 then .error .invalid else .ok (Operator.divide.apply a b) := by
  by_cases hb : b = 0
  · rw [if_pos hb, divide, if_pos hb]
  · obtain ⟨quotient, hq⟩ : ∃ quotient, divide a b = .ok quotient := by
      by_cases ha : a = 0
      · exact ⟨0, by rw [divide, if_neg hb, if_pos ha]⟩
      · exact ⟨_, by rw [divide, if_neg hb, if_neg ha]⟩
    rw [if_neg hb, Operator.apply, hq]
    rfl

/-- What is asked of the step of a loop. -/
structure Applies (isOp : Char → Bool)
    (apply : Char → Decimal → Decimal → Except Stop Decimal) : Prop where
  step : ∀ op, isOp op = true → ∀ a b, apply op a b =
    if operatorOf op = .divide ∧ b = 0 then .error .invalid else .ok ((operatorOf op).apply a b)
  plain : ∀ op, isOp op = true →
    Entry.isWhitespace op = false ∧ op.isDigit = false ∧ isSeparator op = false

theorem addition_applies : Applies isSign addition where
  step op hop a b := by
    simp only [isSign, Bool.or_eq_true, decide_eq_true_eq] at hop
    rcases hop with rfl | rfl <;> rfl
  plain op hop := by
    simp only [isSign, Bool.or_eq_true, decide_eq_true_eq] at hop
    rcases hop with rfl | rfl <;> decide

theorem multiplication_applies : Applies isTimes multiplication where
  step op hop a b := by
    simp only [isTimes, Bool.or_eq_true, decide_eq_true_eq] at hop
    rcases hop with ((rfl | rfl) | rfl) | rfl
    · rfl
    · refine (divide_eq a b).trans ?_
      simp [operatorOf]
    · rfl
    · refine (divide_eq a b).trans ?_
      simp [operatorOf]
  plain op hop := by
    simp only [isTimes, Bool.or_eq_true, decide_eq_true_eq] at hop
    rcases hop with ((rfl | rfl) | rfl) | rfl <;> decide

/-! ## White space -/

theorem exists_spaces (text : List Char) : ∃ gaps, Blanks gaps ∧ text = gaps ++ spaces text :=
  ⟨text.takeWhile Entry.isWhitespace, fun _ hc => List.mem_takeWhile_imp hc,
    (List.takeWhile_append_dropWhile).symm⟩

theorem spaces_append {gaps : List Char} (h : Blanks gaps) (text : List Char) :
    spaces (gaps ++ text) = spaces text := List.dropWhile_append_of_pos h

theorem spaces_cons {c : Char} (h : Entry.isWhitespace c = false) (text : List Char) :
    spaces (c :: text) = c :: text := List.dropWhile_cons_of_neg (by simp [h])

theorem spaces_spaces (text : List Char) : spaces (spaces text) = spaces text :=
  List.dropWhile_idempotent _ _

theorem length_spaces_le (text : List Char) : (spaces text).length ≤ text.length :=
  (List.dropWhile_suffix _).length_le

/-! ## The loop -/

section
variable {operand : List Char → Parsed} {isOp : Char → Bool}
  {apply : Char → Decimal → Decimal → Except Stop Decimal} {U : List Char → Expr → Prop}

/-- An operand reads what the grammar has, and perhaps white space after it. -/
def Reads (operand : List Char → Parsed) (U : List Char → Expr → Prop) : Prop :=
  ∀ text value rest, operand text = .ok (value, rest) →
    ∃ read gaps e, text = read ++ (gaps ++ rest) ∧ Blanks gaps ∧ U read e ∧ e.Defined ∧ e.value = value

theorem Blanks.append {left right : List Char} (hl : Blanks left) (hr : Blanks right) :
    Blanks (left ++ right) := fun c hc => (List.mem_append.1 hc).elim (hl c) (hr c)

theorem chain_reads (happly : Applies isOp apply) (hU : Reads operand U) {fuel : Nat} :
    ∀ {before gaps text rest : List Char} {e : Expr} {value : Decimal},
      Chain isOp U before e → e.Defined → Blanks gaps →
      chain operand isOp apply fuel e.value text = .ok (value, rest) →
      ∃ read gaps' e', before ++ (gaps ++ text) = read ++ (gaps' ++ rest) ∧ Blanks gaps' ∧
        Chain isOp U read e' ∧ e'.Defined ∧ e'.value = value := by
  induction fuel with
  | zero => exact fun _ _ _ h => nomatch h
  | succ fuel ih =>
    intro before gaps text rest e value hbefore he hgaps h
    obtain ⟨more, hmore, htext⟩ := exists_spaces text
    rw [chain] at h
    generalize spaces text = after at h htext
    subst htext
    rw [← List.append_assoc gaps]
    cases after with
    | nil =>
      cases h
      exact ⟨before, _, e, rfl, hgaps.append hmore, hbefore, he, rfl⟩
    | cons op after =>
      simp only at h
      split at h
      · rename_i hop
        simp only [Except.bind_eq_ok] at h
        obtain ⟨⟨right, after'⟩, hright, result, happlied, h⟩ := h
        obtain ⟨read, gaps', e', rfl, hgaps', hread, he', rfl⟩ := hU _ _ _ hright
        rw [happly.step op hop] at happlied
        split at happlied
        · cases happlied
        · rename_i hzero
          cases happlied
          have hnext := ih (e := .binary (operatorOf op) e e')
            (hbefore.snoc (hgaps.append hmore) hop hread)
            ⟨he, he', fun hdiv h0 => hzero ⟨hdiv, h0⟩⟩ hgaps' h
          rwa [List.append_assoc before, List.append_assoc (gaps ++ more), List.cons_append] at hnext
      · cases h
        exact ⟨before, _, e, rfl, hgaps.append hmore, hbefore, he, rfl⟩

theorem operands_reads (happly : Applies isOp apply) (hU : Reads operand U) :
    Reads (operands operand isOp apply) (Chain isOp U) := by
  intro text value rest h
  simp only [operands, Except.bind_eq_ok] at h
  obtain ⟨⟨first, after⟩, hfirst, h⟩ := h
  obtain ⟨read, gaps, e, rfl, hgaps, hread, he, rfl⟩ := hU _ _ _ hfirst
  exact chain_reads happly hU (.single hread) he hgaps h

/-- An operand takes all that the grammar has, where `follow` holds of the text behind it, and goes
on to `after`. -/
def Takes (operand : List Char → Parsed) (U : List Char → Expr → Prop)
    (follow : List Char → Prop) (after : List Char → List Char) (text : List Char) : Prop :=
  ∀ e, U text e → e.Defined → ∀ rest, follow rest → operand (text ++ rest) = .ok (e.value, after rest)

variable {follow : List Char → Prop} {after : List Char → List Char}

/-- What an operand leaves: the text behind it, perhaps without its white space. -/
structure Leaves (isOp : Char → Bool) (follow : List Char → Prop)
    (after : List Char → List Char) : Prop where
  spaces : ∀ rest, Formula.spaces (after rest) = Formula.spaces rest
  op : ∀ {gaps : List Char} {op : Char} (text : List Char), Blanks gaps → isOp op = true →
    follow (gaps ++ op :: text)

theorem chain_spaces {text other : List Char} (h : spaces text = spaces other) (fuel : Nat)
    (result : Decimal) :
    chain operand isOp apply fuel result text = chain operand isOp apply fuel result other := by
  cases fuel with
  | zero => rfl
  | succ fuel => rw [chain, chain, h]

/-- The loop goes through a chain, one turn for each operator. -/
theorem exists_turns (happly : Applies isOp apply) (hafter : Leaves isOp follow after)
    {text : List Char} {e : Expr} (h : Chain isOp U text e) (he : e.Defined)
    (hU : ∀ part : List Char, part.length ≤ text.length → Takes operand U follow after part) :
    ∃ first turns, ∃ middle : List Char → List Char, ∀ rest, follow rest →
      operand (text ++ rest) = .ok (first, middle rest) ∧
      turns + (spaces rest).length ≤ (middle rest).length ∧
      ∀ fuel, chain operand isOp apply (turns + fuel) first (middle rest)
        = chain operand isOp apply fuel e.value rest := by
  induction h with
  | @single text e hread =>
    refine ⟨e.value, 0, after, fun rest hrest => ⟨hU text le_rfl e hread he rest hrest, ?_, fun fuel => ?_⟩⟩
    · rw [Nat.zero_add, ← hafter.spaces]
      exact length_spaces_le _
    · rw [Nat.zero_add]
      exact chain_spaces (hafter.spaces rest) fuel _
  | @snoc left gaps right op e e' hleft hgaps hop hright ih =>
    obtain ⟨hel, her, hzero⟩ := he
    obtain ⟨first, turns, middle, hturns⟩ := ih hel fun part hpart => hU part (hpart.trans (by simp))
    refine ⟨first, turns + 1, fun rest => middle (gaps ++ op :: (right ++ rest)), fun rest hrest => ?_⟩
    obtain ⟨hfirst, hlen, hloop⟩ := hturns (gaps ++ op :: (right ++ rest)) (hafter.op _ hgaps hop)
    have hspaces : spaces (gaps ++ op :: (right ++ rest)) = op :: (right ++ rest) := by
      rw [spaces_append hgaps, spaces_cons (happly.plain op hop).1]
    rw [hspaces] at hlen
    refine ⟨?_, ?_, fun fuel => ?_⟩
    · rw [List.append_assoc, List.append_assoc, List.cons_append]
      exact hfirst
    · show turns + 1 + (spaces rest).length ≤ (middle (gaps ++ op :: (right ++ rest))).length
      have hrest_le := length_spaces_le rest
      simp only [List.length_cons, List.length_append] at hlen
      omega
    · rw [Nat.add_assoc, hloop, Nat.add_comm 1 fuel, chain, hspaces]
      have hoperand := hU right (by simp; omega) e' hright her rest hrest
      have hstep := happly.step op hop e.value e'.value
      rw [if_neg fun h0 => hzero h0.1 h0.2] at hstep
      simp only [hop, if_true, hoperand]
      show (apply op e.value e'.value >>= fun result =>
        chain operand isOp apply fuel result (after rest)) = _
      rw [hstep]
      exact chain_spaces (hafter.spaces rest) fuel _

/-- A chain is taken whole, and the white space after it. -/
theorem operands_takes (happly : Applies isOp apply) (hafter : Leaves isOp follow after)
    {text : List Char}
    (hU : ∀ part : List Char, part.length ≤ text.length → Takes operand U follow after part) :
    Takes (operands operand isOp apply) (Chain isOp U)
      (fun rest => follow rest ∧ ∀ c ∈ (spaces rest).head?, isOp c = false) spaces text := by
  rintro e h he rest ⟨hrest, hend⟩
  obtain ⟨first, turns, middle, hturns⟩ := exists_turns happly hafter h he hU
  obtain ⟨hfirst, hlen, hloop⟩ := hturns rest hrest
  have hfuel : (middle rest).length + 1 = turns + ((middle rest).length - turns + 1) := by omega
  rw [operands, hfirst]
  show chain operand isOp apply ((middle rest).length + 1) first (middle rest) = _
  rw [hfuel, hloop, chain]
  cases hspaces : spaces rest with
  | nil => rfl
  | cons c more =>
    rw [hspaces] at hend
    have hop : isOp c = false := hend c rfl
    simp only [hop, Bool.false_eq_true, if_false]

end

/-- What may come after an operand: nothing that a number could go on with. -/
def Stops (rest : List Char) : Prop := ∀ c ∈ rest.head?, (c.isDigit || isSeparator c) = false

theorem stops_blanks {gaps rest : List Char} (hgaps : Blanks gaps) (hrest : Stops rest) :
    Stops (gaps ++ rest) := by
  cases gaps with
  | nil => exact hrest
  | cons c gaps =>
    intro d hd
    obtain rfl : c = d := by simpa using hd
    have hplain := (whitespace_plain c (hgaps c (by simp))).1
    simp only [isNumeric, Bool.or_eq_false_iff] at hplain
    rw [hplain.1.1, hplain.1.2]
    rfl

theorem stops_cons {c : Char} (hc : (c.isDigit || isSeparator c) = false) (text : List Char) :
    Stops (c :: text) := by
  intro d hd
  obtain rfl : c = d := by simpa using hd
  exact hc

theorem Applies.stops {isOp : Char → Bool}
    {apply : Char → Decimal → Decimal → Except Stop Decimal} (h : Applies isOp apply)
    {gaps : List Char} {op : Char} (hgaps : Blanks gaps) (hop : isOp op = true) (text : List Char) :
    Stops (gaps ++ op :: text) := by
  refine stops_blanks hgaps (stops_cons ?_ text)
  rw [(h.plain op hop).2.1, (h.plain op hop).2.2]
  rfl

/-! ## Literals -/

theorem matchLiteral_prefix (text : List Char) :
    matchLiteral text <+: text ∧
      ∀ c ∈ matchLiteral text, (c.isDigit || isSeparator c) = true := by
  cases text with
  | nil => exact ⟨List.prefix_rfl, by simp [matchLiteral]⟩
  | cons c text =>
    unfold matchLiteral
    simp only
    split
    · rename_i hc
      refine ⟨(List.cons_prefix_cons.2 ⟨rfl, List.takeWhile_prefix _⟩), fun d hd => ?_⟩
      rcases List.mem_cons.1 hd with rfl | hd
      · rw [hc, Bool.true_or]
      · exact List.mem_takeWhile_imp (p := fun c => c.isDigit || isSeparator c) hd
    · split
      · rename_i hc
        rw [Bool.and_eq_true] at hc
        refine ⟨(List.cons_prefix_cons.2 ⟨rfl, List.takeWhile_prefix _⟩), fun d hd => ?_⟩
        rcases List.mem_cons.1 hd with rfl | hd
        · rw [hc.1, Bool.or_true]
        · rw [List.mem_takeWhile_imp hd, Bool.true_or]
      · exact ⟨List.nil_prefix, by simp⟩

/-- A literal reads a run of digits and separators. -/
theorem exists_of_literal {text rest : List Char} {value : Decimal}
    (h : literal text = .ok (value, rest)) :
    ∃ token, text = token ++ rest ∧ IsLiteral token value := by
  obtain ⟨hlead, hall⟩ := matchLiteral_prefix text
  unfold literal at h
  simp only at h
  split at h
  · cases h
  · split at h
    · cases h
    · rename_i number hnumber
      cases h
      exact ⟨matchLiteral text, (List.prefix_iff_eq_append.1 hlead).symm, hall, hnumber⟩

theorem isDigit_head {c : Char} {text left right : List Char} (h : Ends Char.isDigit left)
    (heq : c :: text = left ++ right) : c.isDigit = true := by
  obtain ⟨d, rest, rfl, hd⟩ := h.first
  rw [(List.cons.inj heq).1]
  exact hd

/-- A number that does not begin with a digit has a separator and nothing but digits after it. -/
theorem reading_head {c : Char} {text whole fraction : List Char}
    (h : Reading (c :: text) whole fraction) : c.isDigit = true ∨ Digits text := by
  generalize heq : c :: text = full at h
  cases h with
  | whole h =>
    subst heq
    exact .inl (h.all c (by simp))
  | @decimal separator _ _ hs h =>
    cases whole with
    | nil => exact .inr ((List.cons.inj heq).2 ▸ h)
    | cons d whole => exact .inl ((List.cons.inj heq).1 ▸ h.all d (by simp))
  | repeated hs htext hlen hgroups =>
    exact .inl (isDigit_head (hgroups.ends htext) (heq.trans (List.append_nil _).symm))
  | mixed hg hs hne htext hlen hgroups hf => exact .inl (isDigit_head (hgroups.ends htext) heq)
  | spaced htext hlen hgroups =>
    exact .inl (isDigit_head (hgroups.ends htext) (heq.trans (List.append_nil _).symm))
  | spacedDecimal hs htext hlen hgroups hf => exact .inl (isDigit_head (hgroups.ends htext) heq)

/-- What a token denotes by itself. -/
theorem IsLiteral.denotes {token : List Char} {value : Decimal} (h : IsLiteral token value) :
    Denotes token value := by
  obtain ⟨hall, hvalue⟩ := h
  have hdenotes := (Reader.localized_core.1 hvalue).2
  have hcore : core token = token := by
    have hnil : token ≠ [] := by
      rintro rfl
      obtain ⟨c, rest, hc, -⟩ := hdenotes.ends.first
      cases hc
    have hends : Ends isNumeric token := .of_all hnil fun c hc => by rw [isNumeric, hall c hc, Bool.true_or]
    have hstrip := hends.strip (q := fun c => !isNumeric c) (fun c hc => by simp [hc]) (List.forall_mem_nil _)
      (List.forall_mem_nil _)
    rwa [List.nil_append, List.append_nil] at hstrip
  rwa [hcore] at hdenotes

/-- The token is matched whole, up to what no number goes on with. -/
theorem matchLiteral_append {token rest : List Char} {value : Decimal} (h : IsLiteral token value)
    (hrest : Stops rest) : matchLiteral (token ++ rest) = token := by
  obtain ⟨negative, body, whole, fraction, hsigned, hreading, -⟩ := h.denotes
  obtain rfl : token = body := by
    cases hsigned with
    | none => rfl
    | plus => exact absurd (h.1 '+' (by simp)) (by decide)
    | minus => exact absurd (h.1 '-' (by simp)) (by decide)
  have htake : ∀ {p : Char → Bool} {text : List Char}, (∀ c ∈ text, p c = true) →
      (∀ c, (c.isDigit || isSeparator c) = false → p c = false) →
      (text ++ rest).takeWhile p = text := by
    intro p text htext hp
    rw [List.takeWhile_append_of_pos htext]
    cases rest with
    | nil => rw [List.takeWhile_nil, List.append_nil]
    | cons c rest =>
      rw [List.takeWhile_cons_of_neg (by simp [hp c (hrest c rfl)]), List.append_nil]
  cases token with
  | nil =>
    obtain ⟨c, more, hc, -⟩ := hreading.ends.first
    cases hc
  | cons c text =>
    rw [List.cons_append, matchLiteral]
    have hall : ∀ d ∈ text, (d.isDigit || isSeparator d) = true := fun d hd => h.1 d (by simp [hd])
    by_cases hc : c.isDigit = true
    · rw [if_pos hc, htake hall fun _ h => h]
    · have hdigits := (reading_head hreading).resolve_left hc
      have hsep : isSeparator c = true := by
        have := h.1 c (by simp)
        rwa [Bool.or_eq_true, or_iff_right hc] at this
      have hrun := htake hdigits.all fun c hc => (Bool.or_eq_false_iff.1 hc).1
      rw [if_neg hc, hrun, if_pos]
      rw [hsep, Bool.true_and, decide_eq_true_eq]
      exact hdigits.1

theorem literal_takes {token rest : List Char} {value : Decimal} (h : IsLiteral token value)
    (hrest : Stops rest) : literal (token ++ rest) = .ok (value, rest) := by
  have hne : token ≠ [] := by
    rintro rfl
    obtain ⟨c, more, hc, -⟩ := h.denotes.ends.first
    cases hc
  unfold literal
  simp only [matchLiteral_append h hrest, if_neg hne, h.2, List.drop_left]

/-! ## Signs and parentheses -/

theorem expression_reads {operand : List Char → Parsed} (h : Reads operand Unary) :
    Reads (expression operand) Sum :=
  operands_reads addition_applies (operands_reads multiplication_applies h)

/-- **What the parser reads is a formula.** -/
theorem unary_reads (depth : Nat) : Reads (unary depth) Unary := by
  induction depth with
  | zero => exact fun _ _ _ h => nomatch h
  | succ depth ih =>
    intro text value rest h
    obtain ⟨gaps, hgaps, htext⟩ := exists_spaces text
    rw [unary] at h
    generalize spaces text = after at h htext
    subst htext
    cases after with
    | nil => cases h
    | cons c after =>
      simp only at h
      split at h
      · rename_i hc
        simp only [Except.bind_eq_ok] at h
        obtain ⟨⟨v, more⟩, hv, h⟩ := h
        obtain ⟨read, gaps', e, rfl, hgaps', hread, he, rfl⟩ := ih _ _ _ hv
        cases h
        refine ⟨gaps ++ c :: read, gaps', .sign (decide (c = '-')) e, by simp, hgaps',
          .sign hgaps hc hread, he, ?_⟩
        simp [Expr.value]
      · split at h
        · rename_i hc
          subst hc
          simp only [Except.bind_eq_ok] at h
          obtain ⟨⟨v, more⟩, hv, h⟩ := h
          obtain ⟨read, gaps', e, rfl, hgaps', hread, he, rfl⟩ := expression_reads ih _ _ _ hv
          obtain ⟨gaps'', hgaps'', hmore⟩ := exists_spaces more
          unfold close at h
          split at h
          · rename_i tail hspaces
            cases h
            rw [hspaces] at hmore
            subst hmore
            refine ⟨_, [], e, ?_, fun _ h => absurd h List.not_mem_nil,
              .parens hgaps hread (hgaps'.append hgaps''), he, rfl⟩
            simp
          · cases h
        · obtain ⟨token, htoken, hliteral⟩ := exists_of_literal h
          rw [htoken]
          exact ⟨gaps ++ token, [], .literal value, by simp, fun _ h => absurd h List.not_mem_nil,
            .literal hgaps hliteral, trivial, rfl⟩

/-- What may come after a formula: white space, and a character that is no operator. -/
def Closes (rest : List Char) : Prop :=
  (Stops rest ∧ ∀ c ∈ (spaces rest).head?, isTimes c = false) ∧
    ∀ c ∈ (spaces rest).head?, isSign c = false

theorem unary_leaves : Leaves isTimes Stops id where
  spaces _ := rfl
  op text hgaps hop := multiplication_applies.stops hgaps hop text

theorem term_leaves :
    Leaves isSign (fun rest => Stops rest ∧ ∀ c ∈ (spaces rest).head?, isTimes c = false) spaces where
  spaces := spaces_spaces
  op {gaps op} text hgaps hop := by
    refine ⟨addition_applies.stops hgaps hop text, fun c hc => ?_⟩
    rw [spaces_append hgaps, spaces_cons (addition_applies.plain op hop).1] at hc
    obtain rfl : op = c := by simpa using hc
    simp only [isSign, Bool.or_eq_true, decide_eq_true_eq] at hop
    rcases hop with rfl | rfl <;> decide

theorem expression_takes {operand : List Char → Parsed} {text : List Char}
    (h : ∀ part : List Char, part.length ≤ text.length → Takes operand Unary Stops id part) :
    Takes (expression operand) Sum Closes spaces text :=
  operands_takes addition_applies term_leaves fun _ hpart =>
    operands_takes multiplication_applies unary_leaves fun _ hless => h _ (hless.trans hpart)

theorem closes_of_blanks {gaps : List Char} (h : Blanks gaps) : Closes gaps := by
  have hspaces : spaces gaps = [] := List.dropWhile_eq_nil_iff.2 h
  have hstops := @stops_blanks gaps [] h fun c hc => nomatch hc
  rw [List.append_nil] at hstops
  refine ⟨⟨hstops, ?_⟩, ?_⟩
  all_goals
    rw [hspaces]
    exact fun c hc => nomatch hc

theorem closes_paren {gaps : List Char} (h : Blanks gaps) (rest : List Char) :
    Closes (gaps ++ ')' :: rest) := by
  have hspaces : spaces (gaps ++ ')' :: rest) = ')' :: rest := by
    rw [spaces_append h, spaces_cons (by decide)]
  refine ⟨⟨stops_blanks h (stops_cons (by decide) rest), ?_⟩, ?_⟩
  all_goals
    rw [hspaces]
    intro c hc
    obtain rfl : ')' = c := by simpa using hc
    decide

/-- **A formula is read whole**, when there is a level for each of its characters. -/
theorem unary_takes (depth : Nat) :
    ∀ text : List Char, text.length < depth → Takes (unary depth) Unary Stops id text := by
  induction depth with
  | zero => exact fun _ h => absurd h (Nat.not_lt_zero _)
  | succ depth ih =>
    intro text hlen e h he rest hrest
    rw [unary]
    cases h with
    | @sign gaps text c e hgaps hc hread =>
      have hplain := (addition_applies.plain c hc).1
      have hless : text.length < depth := by
        simp only [List.length_append, List.length_cons] at hlen
        omega
      rw [List.append_assoc, spaces_append hgaps, List.cons_append, spaces_cons hplain]
      simp only [hc, if_true, ih text hless e hread he rest hrest, Expr.value, decide_eq_true_eq]
      rfl
    | @parens gaps text gaps' e hgaps hread hgaps' =>
      have hparts : ∀ part : List Char, part.length ≤ text.length →
          Takes (unary depth) Unary Stops id part := by
        intro part hpart
        simp only [List.length_append, List.length_cons] at hlen
        exact ih part (by omega)
      have hinner := expression_takes hparts e hread he (gaps' ++ ')' :: rest)
        (closes_paren hgaps' rest)
      have hspaces : spaces (gaps' ++ ')' :: rest) = ')' :: rest := by
        rw [spaces_append hgaps', spaces_cons (by decide)]
      have hclose : close e.value (')' :: rest) = .ok (e.value, rest) := by
        rw [close, spaces_cons (by decide)]
        rfl
      have htext : '(' :: (text ++ (gaps' ++ [')'])) ++ rest
          = '(' :: (text ++ (gaps' ++ ')' :: rest)) := by simp
      rw [List.append_assoc, spaces_append hgaps, htext, spaces_cons (by decide)]
      have hsign : isSign '(' = false := by decide
      simp only [hsign, Bool.false_eq_true, if_false, if_true, hinner, hspaces]
      exact hclose
    | @literal gaps token value hgaps hliteral =>
      obtain ⟨c, more, rfl, -⟩ := hliteral.denotes.ends.first
      have hc := hliteral.1 c (by simp)
      have hnumeric : isNumeric c = true := by rw [isNumeric, hc, Bool.true_or]
      have hwhite : Entry.isWhitespace c = false := by
        rw [Bool.eq_false_iff]
        intro hw
        rw [(whitespace_plain c hw).1] at hnumeric
        cases hnumeric
      have hsign : isSign c = false := by
        rcases Bool.or_eq_true_iff.1 hc with hc | hc
        · exact (digit_plain hc).2.1
        · exact (separator_plain hc).2.1
      have hparen : c ≠ '(' := by
        rintro rfl
        exact absurd hc (by decide)
      rw [List.append_assoc, spaces_append hgaps, List.cons_append, spaces_cons hwhite]
      simp only [hsign, Bool.false_eq_true, if_false, if_neg hparen]
      exact literal_takes hliteral hrest

/-! ## No level is missing -/

/-- The reader of operands has levels for texts of this length. -/
def Fuelled (operand : List Char → Parsed) (n : Nat) : Prop :=
  ∀ text : List Char, text.length ≤ n → operand text ≠ .error .fuel

theorem Reads.length_le {operand : List Char → Parsed} {U : List Char → Expr → Prop}
    (h : Reads operand U) {text rest : List Char} {value : Decimal}
    (htext : operand text = .ok (value, rest)) : rest.length ≤ text.length := by
  obtain ⟨read, gaps, e, rfl, -⟩ := h _ _ _ htext
  simp only [List.length_append]
  omega

theorem bind_ne_fuel {α β : Type} {x : Except Stop α} {f : α → Except Stop β}
    (hx : x ≠ .error .fuel) (hf : ∀ a, x = .ok a → f a ≠ .error .fuel) :
    (x >>= f) ≠ .error .fuel := by
  cases x with
  | error stop => exact fun h => hx (congrArg Except.error (Except.error.inj h))
  | ok a => exact hf a rfl

section
variable {operand : List Char → Parsed} {isOp : Char → Bool}
  {apply : Char → Decimal → Decimal → Except Stop Decimal} {U : List Char → Expr → Prop}

theorem chain_fuelled (happly : Applies isOp apply) (hU : Reads operand U) {n : Nat}
    (h : Fuelled operand n) {fuel : Nat} :
    ∀ {text : List Char} {result : Decimal}, text.length < fuel → text.length ≤ n →
      chain operand isOp apply fuel result text ≠ .error .fuel := by
  induction fuel with
  | zero => exact fun hlt => absurd hlt (Nat.not_lt_zero _)
  | succ fuel ih =>
    intro text result hlt hle
    have hspaces := length_spaces_le text
    rw [chain]
    cases hafter : spaces text with
    | nil => exact fun h => nomatch h
    | cons op after =>
      rw [hafter, List.length_cons] at hspaces
      simp only
      split
      · rename_i hop
        refine bind_ne_fuel (h after (by omega)) fun ⟨right, more⟩ hright => ?_
        have hmore := hU.length_le hright
        have hless : more.length < fuel := by omega
        have hmore_le : more.length ≤ n := by omega
        refine bind_ne_fuel ?_ fun value _ => ih hless hmore_le
        rw [happly.step op hop]
        split <;> exact fun h => nomatch h
      · exact fun h => nomatch h

theorem operands_fuelled (happly : Applies isOp apply) (hU : Reads operand U) {n : Nat}
    (h : Fuelled operand n) : Fuelled (operands operand isOp apply) n := by
  intro text hle
  refine bind_ne_fuel (h text hle) fun ⟨first, after⟩ hfirst => ?_
  exact chain_fuelled happly hU h (Nat.lt_succ_self _) ((hU.length_le hfirst).trans hle)

theorem expression_fuelled {n : Nat} (hU : Reads operand Unary) (h : Fuelled operand n) :
    Fuelled (expression operand) n :=
  operands_fuelled addition_applies (operands_reads multiplication_applies hU)
    (operands_fuelled multiplication_applies hU h)

end

theorem literal_ne_fuel (text : List Char) : literal text ≠ .error .fuel := by
  unfold literal
  simp only
  split
  · exact fun h => nomatch h
  · split <;> exact fun h => nomatch h

theorem unary_fuelled (depth : Nat) : Fuelled (unary (depth + 1)) depth := by
  induction depth with
  | zero =>
    intro text hle
    obtain rfl := List.length_eq_zero_iff.1 (Nat.le_zero.1 hle)
    exact fun h => nomatch h
  | succ depth ih =>
    intro text hle
    have hspaces := length_spaces_le text
    rw [unary]
    cases hafter : spaces text with
    | nil => exact literal_ne_fuel []
    | cons c after =>
      rw [hafter, List.length_cons] at hspaces
      have hless : after.length ≤ depth := by omega
      simp only
      split
      · exact bind_ne_fuel (ih after hless) fun _ _ h => nomatch h
      · split
        · refine bind_ne_fuel (expression_fuelled (unary_reads _) ih after hless) fun ⟨v, more⟩ _ => ?_
          unfold close
          simp only
          split <;> exact fun h => nomatch h
        · exact literal_ne_fuel _

/-! ## Formulas -/

theorem parse_ne_fuel (text : List Char) : parse text ≠ .error .fuel := by
  refine bind_ne_fuel ?_ fun _ _ => ?_
  · unfold Except.ensure
    split <;> exact fun h => nomatch h
  · refine bind_ne_fuel
      (expression_fuelled (unary_reads _) (unary_fuelled text.length) text le_rfl) fun ⟨v, more⟩ _ => ?_
    refine bind_ne_fuel ?_ fun _ _ h => nomatch h
    unfold Except.ensure
    split <;> exact fun h => nomatch h

theorem parse_eq_ok {text : List Char} {value : Decimal} :
    parse text = .ok value ↔ utf16Length text ≤ 256 ∧
      ∃ rest, expression (unary (text.length + 1)) text = .ok (value, rest) ∧ spaces rest = [] := by
  simp only [parse, Except.bind_eq_ok, Except.ensure_eq_ok]
  constructor
  · rintro ⟨_, hlen, ⟨v, rest⟩, hread, _, hspaces, h⟩
    cases h
    exact ⟨hlen, rest, hread, hspaces⟩
  · rintro ⟨hlen, rest, hread, hspaces⟩
    exact ⟨⟨⟩, hlen, (value, rest), hread, ⟨⟩, hspaces, rfl⟩

/-- **Formulas**: the parser stops, it accepts what the grammar derives where nothing is divided by
zero, and what it returns is the value, which is exact when nothing is divided. -/
theorem parse_iff (text : List Char) (value : Decimal) :
    parse text ≠ .error .fuel ∧
      (parse text = .ok value ↔ utf16Length text ≤ 256 ∧
        ∃ e, Derives text e ∧ e.Defined ∧ e.value = value ∧
          (¬ e.Divides → value.toRat = e.exact)) := by
  refine ⟨parse_ne_fuel text, ?_⟩
  rw [parse_eq_ok]
  refine and_congr_right fun _ => ⟨?_, ?_⟩
  · rintro ⟨rest, hread, hspaces⟩
    obtain ⟨formula, gaps, e, rfl, hgaps, hderives, he, rfl⟩ :=
      expression_reads (unary_reads _) _ _ _ hread
    have hrest : Blanks rest := List.dropWhile_eq_nil_iff.1 hspaces
    exact ⟨e, ⟨formula, gaps ++ rest, rfl, hderives, hgaps.append hrest⟩, he, rfl, e.value_exact⟩
  · rintro ⟨e, ⟨formula, gaps, rfl, hderives, hgaps⟩, he, rfl, -⟩
    have hparts : ∀ part : List Char, part.length ≤ formula.length →
        Takes (unary ((formula ++ gaps).length + 1)) Unary Stops id part := by
      intro part hpart
      refine unary_takes _ part ?_
      simp only [List.length_append]
      omega
    have htake := expression_takes hparts e hderives he gaps (closes_of_blanks hgaps)
    refine ⟨spaces gaps, htake, ?_⟩
    rw [spaces_spaces]
    exact List.dropWhile_eq_nil_iff.2 hgaps

end Amounts.Formula
