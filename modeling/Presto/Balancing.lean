import Presto.Overlay

/-!
# Balancing the budgets

A suggestion moves money from a category with budget left to one that is overdrawn, as much as one of
the two needs (`suggestBalance_spec`). Saved and laid over the balances it leaves one of them at zero,
so fewer balances are non-zero after every move, while no balance changes its sign and their sum stays
(`Move.balances`). When nothing is suggested, no budget is overdrawn or none has anything left.
-/

namespace Entry

/-! ## What is suggested -/

section Chosen

variable {α : Type} {pick : List α → Option α} {p q : α → Bool} {l : List α}

theorem chosen_some (hpick : ∀ l x, pick l = some x → x ∈ l) (hpq : ∀ x, p x = true → q x = true)
    {x : α} (h : (l.find? p).or (pick (l.filter q)) = some x) : x ∈ l ∧ q x = true := by
  rw [Option.or_eq_some_iff] at h
  rcases h with h | ⟨-, h⟩
  · exact ⟨List.mem_of_find?_eq_some h, hpq x (List.find?_some h)⟩
  · exact List.mem_filter.1 (hpick _ _ h)

theorem chosen_none (hpick : ∀ l, pick l = none → l = [])
    (h : (l.find? p).or (pick (l.filter q)) = none) : ∀ x ∈ l, q x = false := by
  rw [Option.or_eq_none_iff] at h
  intro x hx
  by_contra hq
  have hmem : x ∈ l.filter q := List.mem_filter.2 ⟨hx, by simpa using hq⟩
  rw [hpick _ h.2] at hmem
  cases hmem

end Chosen

/-- A category of the budget. -/
def IsBudget (categories : List Category) (c : Category) : Prop := c ∈ categories ∧ c.system = false

/-- The move of an amount from a donor to a recipient. -/
structure Move (categories : List Category) (d r : Category) (amount : Decimal) : Prop where
  donor : IsBudget categories d
  recipient : IsBudget categories r
  differ : d.categoryId ≠ r.categoryId
  surplus : 0 < d.remaining
  overdrawn : r.remaining < 0
  amount : amount = min d.remaining (-r.remaining)

variable {categories : List Category} {donor recipient : Option CategoryId}

/-- **What is suggested**, and when nothing is. -/
theorem suggestBalance_spec (hids : (categories.map (·.categoryId)).Nodup) :
    (∃ d r, (suggestBalance categories donor recipient).source = some d ∧
      (suggestBalance categories donor recipient).destination = some r ∧
      Move categories d r (suggestBalance categories donor recipient).amount) ∨
    (((suggestBalance categories donor recipient).source = none ∨
        (suggestBalance categories donor recipient).destination = none) ∧
      (suggestBalance categories donor recipient).amount = 0 ∧
      ((∀ c, IsBudget categories c → 0 ≤ c.remaining) ∨
        ∀ c, IsBudget categories c → c.remaining ≤ 0)) := by
  have hbudget : ∀ c, c ∈ categories.filter (fun c => !c.system) ↔ IsBudget categories c := by
    intro c
    rw [List.mem_filter, Bool.not_eq_true', IsBudget]
  unfold suggestBalance
  dsimp only
  generalize hdestination : ((categories.filter fun c => !c.system).find? fun c =>
      some c.categoryId = recipient ∧ c.remaining < 0).or
    (((categories.filter fun c => !c.system).filter fun c => c.remaining < 0).argmin
      Category.remaining) = destination
  generalize hsource : ((categories.filter fun c => !c.system).find? fun c =>
      some c.categoryId = donor ∧ decide (some c.categoryId ≠ destination.map (·.categoryId)) = true ∧
        0 < c.remaining).or
    (((categories.filter fun c => !c.system).filter fun c =>
      decide (some c.categoryId ≠ destination.map (·.categoryId)) = true ∧ 0 < c.remaining).argmax
        Category.remaining) = source
  have hmin : ∀ (l : List Category) x, l.argmin Category.remaining = some x → x ∈ l :=
    fun _ _ h => List.argmin_mem h
  have hmax : ∀ (l : List Category) x, l.argmax Category.remaining = some x → x ∈ l :=
    fun _ _ h => List.argmax_mem h
  cases destination with
  | none =>
    refine .inr ⟨.inr rfl, by cases source <;> rfl, .inl fun c hc => ?_⟩
    have := chosen_none (fun l => List.argmin_eq_none.1) hdestination c ((hbudget c).2 hc)
    simpa using this
  | some r =>
    obtain ⟨hr, hneg⟩ := chosen_some hmin (by simp) hdestination
    rw [decide_eq_true_iff] at hneg
    cases source with
    | none =>
      refine .inr ⟨.inl rfl, rfl, .inr fun c hc => ?_⟩
      have := chosen_none (fun l => List.argmax_eq_none.1) hsource c ((hbudget c).2 hc)
      by_contra hpos
      have hid : c.categoryId = r.categoryId := by simpa [not_le.1 hpos] using this
      have hcr : c = r := List.inj_on_of_nodup_map hids hc.1 ((hbudget r).1 hr).1 hid
      rw [hcr] at hpos
      exact hpos hneg.le
    | some d =>
      obtain ⟨hd, hpos⟩ := chosen_some hmax (by simp) hsource
      rw [decide_eq_true_iff, decide_eq_true_iff] at hpos
      exact .inl ⟨d, r, rfl, rfl, (hbudget d).1 hd, (hbudget r).1 hr, by simpa using hpos.1, hpos.2, hneg,
        rfl⟩

/-! ## One move -/

/-- An entry that saves a suggestion, in the month of the budgets. -/
structure Saves (month : Month) (suggestion : BalanceSuggestion) (t : Transaction) : Prop where
  kind : t.kind = .reallocate
  month : t.effectiveDate.month = month
  inputCurrency : t.inputCurrency = some .eur
  correctsTransactionId : t.correctsTransactionId = none
  fromCategoryId : t.fromCategoryId = suggestion.source.map (·.categoryId)
  toCategoryId : t.toCategoryId = suggestion.destination.map (·.categoryId)
  amount : t.amount = suggestion.amount

/-- What a move adds to a balance. -/
def moveDelta (d r : Category) (amount : Decimal) (c : Category) : Decimal :=
  if c.categoryId = d.categoryId then -amount
  else if c.categoryId = r.categoryId then amount else 0

def moved (d r : Category) (amount : Decimal) (c : Category) : Category :=
  { c with remainingEur := c.remainingEur.map (· + moveDelta d r amount c) }

theorem budgetOverlay_saves {month : Month} {suggestion : BalanceSuggestion} {t : Transaction}
    {d r : Category} (h : Saves month suggestion t) (hsource : suggestion.source = some d)
    (hdestination : suggestion.destination = some r) (categories : List Category) :
    budgetOverlay categories t 1 month = categories.map (moved d r suggestion.amount) := by
  have hoverlays : overlays t month = true := by
    simp [overlays, h.inputCurrency, h.correctsTransactionId, h.month]
  unfold budgetOverlay
  rw [if_pos hoverlays]
  apply List.map_congr_left
  intro c _
  have hdelta : overlayDelta t ((1 : Int) • t.amount) c.categoryId
      = moveDelta d r suggestion.amount c := by
    rw [overlayDelta, h.kind, one_smul, h.amount, h.fromCategoryId, h.toCategoryId, hsource,
      hdestination]
    simp only [Option.map_some, Option.some.injEq, moveDelta, eq_comm]
  simp only [hdelta, h.kind, moved, reduceCtorEq, if_false]

/-- A balance moves towards zero, and not past it. -/
def Nearer (before after : Decimal) : Prop :=
  (0 ≤ before → 0 ≤ after ∧ after ≤ before) ∧ (before ≤ 0 → before ≤ after ∧ after ≤ 0)

theorem Nearer.refl (x : Decimal) : Nearer x x := ⟨fun h => ⟨h, le_rfl⟩, fun h => ⟨le_rfl, h⟩⟩

theorem Nearer.trans {x y z : Decimal} (h : Nearer x y) (h' : Nearer y z) : Nearer x z :=
  ⟨fun hx => ⟨(h'.1 (h.1 hx).1).1, (h'.1 (h.1 hx).1).2.trans (h.1 hx).2⟩,
    fun hx => ⟨(h.2 hx).1.trans (h'.2 (h.2 hx).2).1, (h'.2 (h.2 hx).2).2⟩⟩

/-- The same categories with balances nearer to zero. -/
def NearerBalances : List Category → List Category → Prop :=
  List.Forall₂ fun c c' => c'.categoryId = c.categoryId ∧ c'.name = c.name ∧
    Nearer c.remaining c'.remaining

/-- The balances that are known and belong to categories of different ids. -/
structure Balances (categories : List Category) : Prop where
  ids : (categories.map (·.categoryId)).Nodup
  known : ∀ c ∈ categories, c.remainingEur.isSome = true

def total (categories : List Category) : Decimal := (categories.map Category.remaining).sum

/-- The budgets whose balance is not zero. -/
def unsettled (c : Category) : Bool := !c.system && c.remaining ≠ 0

section Moved

variable {d r : Category} {amount : Decimal}

@[simp] theorem moved_categoryId (c : Category) : (moved d r amount c).categoryId = c.categoryId := rfl

@[simp] theorem moved_name (c : Category) : (moved d r amount c).name = c.name := rfl

@[simp] theorem moved_system (c : Category) : (moved d r amount c).system = c.system := rfl

theorem moved_remaining {c : Category} (h : c.remainingEur.isSome = true) :
    (moved d r amount c).remaining = c.remaining + moveDelta d r amount c := by
  obtain ⟨x, hx⟩ := Option.isSome_iff_exists.1 h
  simp [moved, Category.remaining, hx]

theorem Balances.moved (h : Balances categories) : Balances (categories.map (moved d r amount)) where
  ids := by
    rw [List.map_map]
    exact h.ids
  known c hc := by
    obtain ⟨c, hmem, rfl⟩ := List.mem_map.1 hc
    simpa [Entry.moved] using h.known c hmem

theorem Move.amount_pos (h : Move categories d r amount) : 0 < amount := by
  rw [h.amount]
  exact lt_min h.surplus (neg_pos.2 h.overdrawn)

theorem Move.le_donor (h : Move categories d r amount) : amount ≤ d.remaining :=
  h.amount ▸ min_le_left _ _

theorem Move.le_recipient (h : Move categories d r amount) : amount ≤ -r.remaining :=
  h.amount ▸ min_le_right _ _

theorem moveDelta_donor (d r : Category) (amount : Decimal) : moveDelta d r amount d = -amount :=
  if_pos rfl

theorem Move.moveDelta_recipient (h : Move categories d r amount) : moveDelta d r amount r = amount := by
  rw [moveDelta, if_neg h.differ.symm, if_pos rfl]

/-- A category is the donor, the recipient or none of them. -/
theorem Move.cases (hb : Balances categories) (h : Move categories d r amount) {c : Category}
    (hc : c ∈ categories) : c = d ∨ c = r ∨ moveDelta d r amount c = 0 := by
  by_cases hd : c.categoryId = d.categoryId
  · exact .inl (List.inj_on_of_nodup_map hb.ids hc h.donor.1 hd)
  · by_cases hr : c.categoryId = r.categoryId
    · exact .inr (.inl (List.inj_on_of_nodup_map hb.ids hc h.recipient.1 hr))
    · exact .inr (.inr (by rw [moveDelta, if_neg hd, if_neg hr]))

theorem Move.nearer (hb : Balances categories) (h : Move categories d r amount) {c : Category}
    (hc : c ∈ categories) : Nearer c.remaining (moved d r amount c).remaining := by
  rw [moved_remaining (hb.known c hc)]
  rcases h.cases hb hc with rfl | rfl | hzero
  · rw [moveDelta_donor, ← sub_eq_add_neg]
    refine ⟨fun _ => ⟨sub_nonneg.2 h.le_donor, sub_le_self _ h.amount_pos.le⟩, fun hle => ?_⟩
    exact absurd h.surplus hle.not_gt
  · rw [h.moveDelta_recipient]
    refine ⟨fun hle => absurd h.overdrawn hle.not_gt, fun _ => ⟨?_, ?_⟩⟩
    · exact le_add_of_nonneg_right h.amount_pos.le
    · rw [← add_neg_cancel c.remaining]
      gcongr
      exact h.le_recipient
  · rw [hzero, add_zero]
    exact .refl _

/-- The donor or the recipient is settled. -/
theorem Move.settles (h : Move categories d r amount) :
    d.remaining + moveDelta d r amount d = 0 ∨ r.remaining + moveDelta d r amount r = 0 := by
  rw [moveDelta_donor, h.moveDelta_recipient, h.amount]
  rcases le_total d.remaining (-r.remaining) with hle | hle
  · exact .inl (by rw [min_eq_left hle, add_neg_cancel])
  · exact .inr (by rw [min_eq_right hle, add_neg_cancel])

theorem sum_map_single {κ : Type} [DecidableEq κ] {l : List κ} (hl : l.Nodup) {a : κ} (ha : a ∈ l)
    (x : Decimal) : (l.map fun i => if i = a then x else 0).sum = x := by
  induction l with
  | nil => cases ha
  | cons b l ih =>
    obtain ⟨hb, hl⟩ := List.nodup_cons.1 hl
    rw [List.map_cons, List.sum_cons]
    by_cases hba : b = a
    · have hrest : (l.map fun i => if i = a then x else 0).sum = 0 := by
        refine List.sum_eq_zero fun y hy => ?_
        obtain ⟨i, hi, rfl⟩ := List.mem_map.1 hy
        exact if_neg fun hia : i = a => hb (hba.trans hia.symm ▸ hi)
      rw [if_pos hba, hrest, add_zero]
    · rw [if_neg hba, ih hl (List.mem_of_ne_of_mem (Ne.symm hba) ha), zero_add]

/-- **What is taken is what is given.** -/
theorem Move.total_eq (hb : Balances categories) (h : Move categories d r amount) :
    total (categories.map (moved d r amount)) = total categories := by
  have hremaining : (categories.map (moved d r amount)).map Category.remaining
      = categories.map fun c => c.remaining + moveDelta d r amount c := by
    rw [List.map_map]
    exact List.map_congr_left fun c hc => moved_remaining (hb.known c hc)
  have hsplit : ∀ c, moveDelta d r amount c = (if c.categoryId = d.categoryId then -amount else 0) +
      if c.categoryId = r.categoryId then amount else 0 := by
    intro c
    unfold moveDelta
    by_cases hd : c.categoryId = d.categoryId
    · rw [if_pos hd, if_pos hd, if_neg (hd ▸ h.differ), add_zero]
    · rw [if_neg hd, if_neg hd, zero_add]
  have htaken := sum_map_single hb.ids (List.mem_map_of_mem h.donor.1) (-amount)
  have hgiven := sum_map_single hb.ids (List.mem_map_of_mem h.recipient.1) amount
  rw [List.map_map] at htaken hgiven
  have hdeltas : (categories.map (moveDelta d r amount)).sum = 0 := by
    rw [List.map_congr_left fun c _ => hsplit c, List.sum_map_add]
    exact (congrArg₂ (· + ·) htaken hgiven).trans (neg_add_cancel _)
  rw [total, hremaining, List.sum_map_add, total]
  exact (congrArg _ hdeltas).trans (add_zero _)

theorem countP_lt {α : Type} {p q : α → Bool} {l : List α} {a : α} (hle : ∀ x ∈ l, q x = true → p x = true)
    (ha : a ∈ l) (hp : p a = true) (hq : q a = false) : l.countP q < l.countP p := by
  obtain ⟨l₁, l₂, rfl⟩ := List.append_of_mem ha
  have h₁ := List.countP_mono_left fun x hx => hle x (List.mem_append_left _ hx)
  have h₂ := List.countP_mono_left fun x hx =>
    hle x (List.mem_append_right _ (List.mem_cons_of_mem a hx))
  rw [List.countP_append, List.countP_append, List.countP_cons, List.countP_cons, hp, hq]
  simp only [if_true, Bool.false_eq_true, if_false]
  omega

end Moved

/-- How many budgets are not settled. -/
def unsettledCount (categories : List Category) : Nat := categories.countP unsettled

theorem unsettled_iff {c : Category} : unsettled c = true ↔ c.system = false ∧ c.remaining ≠ 0 := by
  rw [unsettled, Bool.and_eq_true, Bool.not_eq_true', decide_eq_true_iff]

section Moved

variable {d r : Category} {amount : Decimal}

/-- **Every move settles a budget**, and it needs two that are not. -/
theorem Move.fewer (hb : Balances categories) (h : Move categories d r amount) :
    unsettledCount (categories.map (moved d r amount)) < unsettledCount categories ∧
      2 ≤ unsettledCount categories := by
  have hkeeps : ∀ c ∈ categories, (unsettled ∘ moved d r amount) c = true → unsettled c = true := by
    intro c hc hopen
    obtain ⟨hsystem, hne⟩ := unsettled_iff.1 hopen
    refine unsettled_iff.2 ⟨hsystem, fun hzero => hne ?_⟩
    have hnearer := h.nearer hb hc
    exact le_antisymm (hnearer.2 hzero.le).2 (hnearer.1 hzero.ge).1
  have hd : unsettled d = true := unsettled_iff.2 ⟨h.donor.2, h.surplus.ne'⟩
  have hr : unsettled r = true := unsettled_iff.2 ⟨h.recipient.2, h.overdrawn.ne⟩
  have hsettled : ∀ c ∈ categories, c.remaining + moveDelta d r amount c = 0 →
      (unsettled ∘ moved d r amount) c = false := by
    intro c hc hzero
    rw [Function.comp_apply, ← Bool.not_eq_true, unsettled_iff, moved_remaining (hb.known c hc)]
    exact fun hopen => hopen.2 hzero
  constructor
  · rw [unsettledCount, unsettledCount, List.countP_map]
    rcases h.settles with hzero | hzero
    · exact countP_lt hkeeps h.donor.1 hd (hsettled d h.donor.1 hzero)
    · exact countP_lt hkeeps h.recipient.1 hr (hsettled r h.recipient.1 hzero)
  · have hrest : categories.countP (fun c => unsettled c && c.categoryId ≠ d.categoryId)
        < unsettledCount categories := by
      refine countP_lt (fun c _ hc => ?_) h.donor.1 hd (by simp)
      exact (Bool.and_eq_true_iff.1 hc).1
    have hother : 0 < categories.countP fun c => unsettled c && c.categoryId ≠ d.categoryId := by
      rw [List.countP_pos_iff]
      exact ⟨r, h.recipient.1, by simp [hr, h.differ.symm]⟩
    omega

theorem Move.nearerBalances (hb : Balances categories) (h : Move categories d r amount) :
    NearerBalances categories (categories.map (moved d r amount)) := by
  rw [NearerBalances, List.forall₂_map_right_iff, List.forall₂_same]
  exact fun c hc => ⟨rfl, rfl, h.nearer hb hc⟩

end Moved

theorem NearerBalances.refl (categories : List Category) : NearerBalances categories categories :=
  List.forall₂_same.2 fun _ _ => ⟨rfl, rfl, .refl _⟩

theorem NearerBalances.trans {as bs cs : List Category} (h : NearerBalances as bs)
    (h' : NearerBalances bs cs) : NearerBalances as cs := by
  induction h generalizing cs with
  | nil => exact h'
  | cons hab _ ih =>
    cases h' with
    | cons hbc hrest =>
      exact .cons ⟨hbc.1.trans hab.1, hbc.2.1.trans hab.2.1, hab.2.2.trans hbc.2.2⟩ (ih hrest)

/-! ## Runs -/

/-- The balances with the last donor and the last recipient. -/
structure BalanceState where
  categories : List Category
  donor : Option CategoryId
  recipient : Option CategoryId

def BalanceState.suggestion (s : BalanceState) : BalanceSuggestion :=
  suggestBalance s.categories s.donor s.recipient

/-- `n` suggestions saved one after the other. -/
inductive BalanceRun (month : Month) (s : BalanceState) : Nat → BalanceState → Prop
  | start : BalanceRun month s 0 s
  | move {n : Nat} {s' : BalanceState} {d r : Category} {t : Transaction} (run : BalanceRun month s n s')
    (source : s'.suggestion.source = some d) (destination : s'.suggestion.destination = some r)
    (saves : Saves month s'.suggestion t) :
    BalanceRun month s (n + 1)
      ⟨budgetOverlay s'.categories t 1 month, some d.categoryId, some r.categoryId⟩

/-- Nothing is suggested, and no budget is overdrawn or none has anything left. -/
structure BalanceState.Settled (s : BalanceState) : Prop where
  suggestion : s.suggestion.source = none ∨ s.suggestion.destination = none
  amount : s.suggestion.amount = 0
  budgets : (∀ c, IsBudget s.categories c → 0 ≤ c.remaining) ∨
    ∀ c, IsBudget s.categories c → c.remaining ≤ 0

/-- The draft of the budget screen (`Ui.kt:304`), saved. -/
def balancingEntry (month : Month) (suggestion : BalanceSuggestion) : Transaction :=
  { id := 0
    kind := .reallocate
    effectiveDate := month.lastDate
    description := "Month-end budget balancing"
    amount := suggestion.amount
    inputCurrency := some .eur
    occurredAt := none
    toAmount := none
    toCurrency := none
    fromCategory := suggestion.source.map (·.name)
    toCategory := suggestion.destination.map (·.name)
    fromCategoryId := suggestion.source.map (·.categoryId)
    toCategoryId := suggestion.destination.map (·.categoryId)
    fromAccount := none
    toAccount := none
    fromAccountId := none
    toAccountId := none
    revision := 1
    canEdit := true
    correctsTransactionId := none
    incomeTreatment := none
    expectedIncomeMonth := none
    pending := true }

theorem balancingEntry_saves (month : Month) (suggestion : BalanceSuggestion) :
    Saves month suggestion (balancingEntry month suggestion) := ⟨rfl, rfl, rfl, rfl, rfl, rfl, rfl⟩

theorem suggestion_move {s : BalanceState} (hb : Balances s.categories) {d r : Category}
    (hsource : s.suggestion.source = some d) (hdestination : s.suggestion.destination = some r) :
    Move s.categories d r s.suggestion.amount := by
  rcases @suggestBalance_spec _ s.donor s.recipient hb.ids with ⟨d', r', hs, hd, hmove⟩ | ⟨hnone, -⟩
  · obtain rfl := Option.some.inj (hsource.symm.trans hs)
    obtain rfl := Option.some.inj (hdestination.symm.trans hd)
    exact hmove
  · rcases hnone with hnone | hnone
    · exact absurd (hsource.symm.trans hnone) (by simp)
    · exact absurd (hdestination.symm.trans hnone) (by simp)

variable {month : Month} {s s' : BalanceState} {n : Nat}

/-- What a run keeps. -/
structure Balancing (s : BalanceState) (n : Nat) (s' : BalanceState) : Prop where
  balances : Balances s'.categories
  total : total s'.categories = total s.categories
  nearer : NearerBalances s.categories s'.categories
  count : unsettledCount s'.categories + n ≤ unsettledCount s.categories
  moves : n ≤ unsettledCount s.categories - 1

theorem BalanceRun.balancing (hb : Balances s.categories) (h : BalanceRun month s n s') :
    Balancing s n s' := by
  induction h with
  | start => exact ⟨hb, rfl, .refl _, le_rfl, Nat.zero_le _⟩
  | move _ source destination saves ih =>
    have hmove := suggestion_move ih.balances source destination
    have hfewer := hmove.fewer ih.balances
    have hcount := ih.count
    rw [budgetOverlay_saves saves source destination]
    refine ⟨ih.balances.moved, (hmove.total_eq ih.balances).trans ih.total,
      ih.nearer.trans (hmove.nearerBalances ih.balances), ?_, ?_⟩
    · show unsettledCount (List.map _ _) + _ ≤ _
      omega
    · omega

/-- A state of a run is settled, or the run goes on. -/
theorem BalanceRun.progress (hb : Balances s.categories) (h : BalanceRun month s n s') :
    s'.Settled ∨ ∃ s'', BalanceRun month s (n + 1) s'' := by
  have hbalancing := h.balancing hb
  rcases @suggestBalance_spec _ s'.donor s'.recipient hbalancing.balances.ids
    with ⟨d, r, hs, hd, -⟩ | ⟨hnone, hzero, hend⟩
  · exact .inr ⟨_, h.move hs hd (balancingEntry_saves month _)⟩
  · exact .inl ⟨hnone, hzero, hend⟩

/-- **Balancing ends**, with the money where it is. -/
theorem balancing_settles (month : Month) (s : BalanceState) (hb : Balances s.categories) :
    (∀ n s', BalanceRun month s n s' →
      n ≤ unsettledCount s.categories - 1 ∧ total s'.categories = total s.categories ∧
      NearerBalances s.categories s'.categories ∧
      (s'.Settled ∨ ∃ d r, s'.suggestion.source = some d ∧ s'.suggestion.destination = some r ∧
        d ∈ s'.categories ∧ r ∈ s'.categories ∧ 0 < s'.suggestion.amount ∧
        s'.suggestion.amount ≤ d.remaining ∧ s'.suggestion.amount ≤ -r.remaining)) ∧
    ∃ n s', BalanceRun month s n s' ∧ s'.Settled := by
  constructor
  · intro n s' h
    have hbalancing := h.balancing hb
    refine ⟨hbalancing.moves, hbalancing.total, hbalancing.nearer, ?_⟩
    rcases @suggestBalance_spec _ s'.donor s'.recipient hbalancing.balances.ids
      with ⟨d, r, hs, hd, hmove⟩ | ⟨hnone, hzero, hend⟩
    · exact .inr ⟨d, r, hs, hd, hmove.donor.1, hmove.recipient.1, hmove.amount_pos, hmove.le_donor,
        hmove.le_recipient⟩
    · exact .inl ⟨hnone, hzero, hend⟩
  · -- a run that is not settled can be made longer, and no run is longer than the balances allow
    by_contra hnever
    have hlong : ∀ n, ∃ s', BalanceRun month s n s' := by
      intro n
      induction n with
      | zero => exact ⟨s, .start⟩
      | succ n ih =>
        obtain ⟨s', h⟩ := ih
        exact (h.progress hb).resolve_left fun hsettled => hnever ⟨n, s', h, hsettled⟩
    obtain ⟨s', h⟩ := hlong (unsettledCount s.categories + 1)
    have := (h.balancing hb).moves
    omega

/-- Food has too little, rent and fun have something left. -/
def overspent : BalanceState :=
  ⟨[⟨1, "Food", none, some (-30)⟩, ⟨2, "Rent", none, some 20⟩, ⟨3, "Fun", none, some 25⟩], none, none⟩

theorem balancing_settles_overspent :
    ∃ n s', BalanceRun (.of 2026 10) overspent n s' ∧ s'.Settled ∧ n ≤ 2 ∧ total s'.categories = 15 := by
  have hb : Balances overspent.categories := ⟨by decide, by decide⟩
  obtain ⟨hruns, n, s', hrun, hsettled⟩ := balancing_settles (.of 2026 10) overspent hb
  obtain ⟨hmoves, htotal, -, -⟩ := hruns n s' hrun
  have hcount : unsettledCount overspent.categories = 3 := by decide +kernel
  have hsum : total overspent.categories = 15 := by decide +kernel
  rw [hcount] at hmoves
  exact ⟨n, s', hrun, hsettled, hmoves, htotal.trans hsum⟩

/-- The category of income is overdrawn, and is left out. -/
def incomeOverdrawn : BalanceState :=
  ⟨[⟨1000001, "Income", none, some (-5)⟩, ⟨1, "Food", none, some 3⟩], none, none⟩

/-- It stays overdrawn beside a budget with something left, since nothing is ever suggested. -/
theorem balancing_system :
    Balances incomeOverdrawn.categories ∧
    ¬ ∃ n s', BalanceRun (.of 2026 10) incomeOverdrawn n s' ∧
      ((∀ c ∈ s'.categories, 0 ≤ c.remaining) ∨ ∀ c ∈ s'.categories, c.remaining ≤ 0) := by
  have hnone : incomeOverdrawn.suggestion.destination = none := by decide +kernel
  have hstays : ∀ n s', BalanceRun (.of 2026 10) incomeOverdrawn n s' → s' = incomeOverdrawn := by
    intro n s' h
    induction h with
    | start => rfl
    | move _ _ destination _ ih =>
      rw [ih, hnone] at destination
      cases destination
  refine ⟨⟨by decide, by decide⟩, ?_⟩
  rintro ⟨n, s', hrun, hend⟩
  rw [hstays n s' hrun] at hend
  exact absurd hend (by decide +kernel)

end Entry
