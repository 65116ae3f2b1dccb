import Presto.Phone.Entry

/-!
# Overlays of queued entries

An overlay shifts the balances of each category by an amount that depends on the entry only
(`budgetOverlay_eq`), so overlays add up, in any order. `rebuild` shifts the cached balances once for
every queued write that they do not count yet, whether the answer to it arrived or was lost.

Which writes the cached balances count, and which entry stands in the place of a queued one, is said
by the state before the writes: `held` has its entries and `before` its balances.
-/

namespace Entry

/-! ## Shifts -/

/-- By how much remaining budget and expenses move, category by category. -/
abbrev Effect := CategoryId → Decimal × Decimal

def shift (f : Effect) (categories : List Category) : List Category :=
  categories.map fun c => { c with
    remainingEur := c.remainingEur.map (· + (f c.categoryId).1)
    expenseEur := c.expenseEur.map (· + (f c.categoryId).2) }

theorem shift_zero (categories : List Category) : shift 0 categories = categories := by
  unfold shift
  conv_rhs => rw [← List.map_id categories]
  apply List.map_congr_left
  intro c _
  simp

theorem shift_shift (f g : Effect) (categories : List Category) :
    shift f (shift g categories) = shift (g + f) categories := by
  unfold shift
  rw [List.map_map]
  apply List.map_congr_left
  intro c _
  simp only [Function.comp_apply, Option.map_map, Pi.add_apply, Prod.fst_add, Prod.snd_add]
  congr 2 <;>
  · funext x
    exact add_assoc _ _ _

/-- What an entry moves. -/
def effect (month : Month) (t : Transaction) : Effect := fun c =>
  if overlays t month then
    (overlayDelta t t.amount c, if t.kind = .expense then -overlayDelta t t.amount c else 0)
  else 0

theorem overlayDelta_smul (t : Transaction) (direction : Int) (amount : Decimal) (c : CategoryId) :
    overlayDelta t (direction • amount) c = direction • overlayDelta t amount c := by
  unfold overlayDelta
  cases t.kind with
  | expense => dsimp only; split <;> simp
  | income => dsimp only; split <;> simp
  | reallocate => dsimp only; split <;> [skip; split] <;> simp
  | transfer => simp
  | reconciliation => simp

/-- **An overlay is a shift.** -/
theorem budgetOverlay_eq (categories : List Category) (t : Transaction) (direction : Int)
    (month : Month) :
    budgetOverlay categories t direction month = shift (direction • effect month t) categories := by
  unfold budgetOverlay effect
  by_cases h : overlays t month = true
  · rw [if_pos h]
    apply List.map_congr_left
    intro c _
    simp only [overlayDelta_smul, Pi.smul_apply, h, if_true, Prod.smul_fst, Prod.smul_snd]
    split
    · simp only [smul_neg, sub_eq_add_neg]
    · simp
  · rw [if_neg h]
    have hzero : (direction • fun c => if overlays t month = true then
        (overlayDelta t t.amount c, if t.kind = .expense then -overlayDelta t t.amount c else 0)
        else 0 : Effect) = 0 := by
      funext c
      simp [h]
    rw [hzero, shift_zero]

/-- **An overlay and its reverse.** -/
theorem budgetOverlay_reverse (categories : List Category) (t : Transaction) (direction : Int)
    (month : Month) :
    budgetOverlay (budgetOverlay categories t direction month) t (-direction) month = categories := by
  rw [budgetOverlay_eq, budgetOverlay_eq, shift_shift, neg_smul, add_neg_cancel, shift_zero]

/-! ## Writes over a state -/

/-- Two copies of an entry. A row of the server also names the system's category on the other side of
an expense or an income, where the phone's own row has none. -/
structure SameEntry (a b : Transaction) : Prop where
  kind : a.kind = b.kind
  effectiveDate : a.effectiveDate = b.effectiveDate
  amount : a.amount = b.amount
  inputCurrency : a.inputCurrency = b.inputCurrency
  correctsTransactionId : a.correctsTransactionId = b.correctsTransactionId
  incomeTreatment : a.incomeTreatment = b.incomeTreatment
  fromCategoryId : a.kind = .expense ∨ a.kind = .reallocate → a.fromCategoryId = b.fromCategoryId
  toCategoryId : a.kind = .income ∨ a.kind = .reallocate → a.toCategoryId = b.toCategoryId

/-- The other side of an entry is not looked at. -/
theorem SameEntry.effect_eq {a b : Transaction} (h : SameEntry a b) (month : Month) :
    effect month a = effect month b := by
  have hdelta : ∀ c, overlayDelta a a.amount c = overlayDelta b b.amount c := by
    intro c
    unfold overlayDelta
    rw [← h.kind, h.amount, h.incomeTreatment]
    cases hkind : a.kind with
    | expense => rw [h.fromCategoryId (.inl hkind)]
    | income => rw [h.toCategoryId (.inl hkind)]
    | reallocate => rw [h.fromCategoryId (.inr hkind), h.toCategoryId (.inr hkind)]
    | transfer => rfl
    | reconciliation => rfl
  funext c
  unfold effect overlays
  rw [h.kind, h.effectiveDate, h.inputCurrency, h.correctsTransactionId, hdelta c]

/-- One write: the overlay of the entry it replaces is taken away, its own is put on. -/
def replaced (held : TransactionId → Option Transaction) (month : Month)
    (categories : List Category) (op : OutboxRow) : List Category :=
  overlayOver (held op.optimistic.id) op.optimistic month categories

/-- Writes, one after the other. -/
def afterWrites (held : TransactionId → Option Transaction) (month : Month) (ops : List OutboxRow)
    (categories : List Category) : List Category :=
  ops.foldl (replaced held month) categories

/-- What a write moves. -/
def net (held : TransactionId → Option Transaction) (month : Month) (op : OutboxRow) : Effect :=
  effect month op.optimistic - ((held op.optimistic.id).map (effect month)).getD 0

theorem overlayOver_eq (previous : Option Transaction) (t : Transaction) (month : Month)
    (categories : List Category) :
    overlayOver previous t month categories
      = shift (effect month t - (previous.map (effect month)).getD 0) categories := by
  cases previous with
  | none =>
    rw [overlayOver, budgetOverlay_eq, one_smul, Option.map_none, Option.getD_none, sub_zero]
  | some p =>
    rw [overlayOver, budgetOverlay_eq, budgetOverlay_eq, shift_shift, one_smul, neg_smul, one_smul,
      Option.map_some, Option.getD_some, neg_add_eq_sub]

theorem replaced_eq (held : TransactionId → Option Transaction) (month : Month)
    (categories : List Category) (op : OutboxRow) :
    replaced held month categories op = shift (net held month op) categories :=
  overlayOver_eq _ _ _ _

theorem afterWrites_eq (held : TransactionId → Option Transaction) (month : Month)
    (ops : List OutboxRow) (categories : List Category) :
    afterWrites held month ops categories = shift (ops.map (net held month)).sum categories := by
  unfold afterWrites
  induction ops generalizing categories with
  | nil => rw [List.map_nil, List.sum_nil, shift_zero, List.foldl_nil]
  | cons op ops ih =>
    rw [List.foldl_cons, ih, replaced_eq, shift_shift, List.map_cons, List.sum_cons]

/-- The row of the cached page with an id. -/
def pageRow (base : Snapshot) (id : TransactionId) : Option Transaction :=
  (associateById base.recentTransactions).lookup id

/-- The cached page has the row of a write: it moves what was sent, or it was confirmed to the phone
at its revision or a later one. -/
def OnPage (base : Snapshot) (op : OutboxRow) : Prop :=
  ∃ c, pageRow base op.optimistic.id = some c ∧
    (effect base.budgetMonth c = effect base.budgetMonth op.optimistic ∨
      op.status = .acknowledged ∧ op.confirmedRevision.getD 1 ≤ c.revision)

/-- The cached state does not count a write: where its row is on the page it is the one that the
write replaces; where it is not, there is none if the page is complete, else what the original moves is
still counted. -/
structure NotYet (base : Snapshot) (held : TransactionId → Option Transaction) (op : OutboxRow) :
    Prop where
  shown : ∀ c, pageRow base op.optimistic.id = some c → held op.optimistic.id = some c ∧
    ¬ (op.status = .acknowledged ∧ op.confirmedRevision.getD 1 ≤ c.revision)
  complete : pageRow base op.optimistic.id = none →
    base.transactionCount ≤ base.recentTransactions.length → held op.optimistic.id = none
  beyond : pageRow base op.optimistic.id = none →
    base.recentTransactions.length < base.transactionCount →
    (held op.optimistic.id).map (effect base.budgetMonth)
      = op.original.map (effect base.budgetMonth)

/-! ## The loop -/

/-- What one turn moves: nothing for a write that is counted already. -/
theorem overlayRow_eq {base : Snapshot} {held : TransactionId → Option Transaction}
    {applied : OutboxRow → Bool} {op : OutboxRow}
    {acc : List Category × Table TransactionId Transaction}
    (hrow : acc.2.lookup op.optimistic.id = pageRow base op.optimistic.id)
    (happlied : applied op = true → OnPage base op)
    (hqueued : applied op = false → NotYet base held op) :
    (overlayRow base acc op).1
      = shift (if applied op then 0 else net held base.budgetMonth op) acc.1 := by
  unfold overlayRow
  dsimp only
  rw [hrow]
  cases happ : applied op with
  | true =>
    obtain ⟨c, hc, hsame⟩ := happlied happ
    rw [if_pos rfl, shift_zero, hc, Option.any_some]
    split
    · rfl
    · rename_i hskip
      -- a lost answer: the row on the page is taken away and put on again
      rcases hsame with hsame | hsame
      · dsimp only
        rw [previousOf, Option.some_or, overlayOver_eq, Option.map_some, Option.getD_some,
          hsame, sub_self, shift_zero]
      · exact absurd ⟨hsame.1, decide_eq_true hsame.2⟩ hskip
  | false =>
    have hnot := hqueued happ
    rw [if_neg Bool.false_ne_true, net]
    cases hc : pageRow base op.optimistic.id with
    | some c =>
      obtain ⟨hheld, hskip⟩ := hnot.shown c hc
      rw [if_neg (by rwa [Option.any_some, decide_eq_true_iff]), previousOf, Option.some_or, hheld]
      dsimp only
      rw [overlayOver_eq]
    | none =>
      rw [if_neg (by simp), previousOf, Option.none_or]
      dsimp only
      rw [overlayOver_eq]
      by_cases hmore : base.recentTransactions.length < base.transactionCount
      · have hkept : (op.original.filter fun _ => base.recentTransactions.length < base.transactionCount)
            = op.original := by
          cases op.original <;> simp [Option.filter, hmore]
        rw [hkept, hnot.beyond hc hmore]
      · have hnone : (op.original.filter fun _ => base.recentTransactions.length < base.transactionCount)
            = none := by
          cases op.original <;> simp [Option.filter, hmore]
        rw [hnone, hnot.complete hc (not_lt.1 hmore)]

theorem overlayRow_lookup (base : Snapshot) (acc : List Category × Table TransactionId Transaction)
    {op : OutboxRow} {id : TransactionId} (hid : id ≠ op.optimistic.id) :
    (overlayRow base acc op).2.lookup id = acc.2.lookup id := by
  unfold overlayRow
  dsimp only
  split
  · rfl
  · exact AList.lookup_insert_ne hid

/-- **The queue as a whole.** -/
theorem foldl_overlayRow {base : Snapshot} {held : TransactionId → Option Transaction}
    {applied : OutboxRow → Bool} {ops : List OutboxRow}
    {acc : List Category × Table TransactionId Transaction}
    (hids : (ops.map (·.optimistic.id)).Nodup)
    (hrows : ∀ op ∈ ops, acc.2.lookup op.optimistic.id = pageRow base op.optimistic.id)
    (happlied : ∀ op ∈ ops, applied op = true → OnPage base op)
    (hqueued : ∀ op ∈ ops, applied op = false → NotYet base held op) :
    (ops.foldl (overlayRow base) acc).1
      = shift (ops.map fun op => if applied op then 0 else net held base.budgetMonth op).sum acc.1 := by
  induction ops generalizing acc with
  | nil => rw [List.map_nil, List.sum_nil, shift_zero, List.foldl_nil]
  | cons op ops ih =>
    rw [List.map_cons, List.nodup_cons] at hids
    have hstep := overlayRow_eq (hrows op List.mem_cons_self) (happlied op List.mem_cons_self)
      (hqueued op List.mem_cons_self)
    have hrest : ∀ o ∈ ops, (overlayRow base acc op).2.lookup o.optimistic.id
        = pageRow base o.optimistic.id := by
      intro o ho
      rw [overlayRow_lookup base acc (fun heq => hids.1 (heq ▸ List.mem_map_of_mem ho))]
      exact hrows o (List.mem_cons_of_mem _ ho)
    rw [List.foldl_cons, ih hids.2 hrest (fun o ho => happlied o (List.mem_cons_of_mem _ ho))
      (fun o ho => hqueued o (List.mem_cons_of_mem _ ho)), hstep, shift_shift, List.map_cons,
      List.sum_cons]

/-- The writes that are counted and those that are not. -/
theorem sum_filter_add {applied : OutboxRow → Bool} (f : OutboxRow → Effect) (ops : List OutboxRow) :
    ((ops.filter applied).map f).sum + (ops.map fun op => if applied op then 0 else f op).sum
      = (ops.map f).sum := by
  induction ops with
  | nil => simp
  | cons op ops ih =>
    rw [List.map_cons, List.map_cons, List.sum_cons, List.sum_cons, ← ih]
    by_cases h : applied op = true
    · rw [List.filter_cons_of_pos h, List.map_cons, List.sum_cons, if_pos h, zero_add, add_assoc]
    · rw [List.filter_cons_of_neg h, if_neg h]
      exact add_left_comm _ _ _

/-- **Every write once.** -/
theorem rebuild_counts_once {base : Snapshot} {held : TransactionId → Option Transaction}
    {applied : OutboxRow → Bool} {ops : List OutboxRow} {before : List Category}
    (hids : (ops.map (·.optimistic.id)).Nodup)
    (hbase : base.budgets = afterWrites held base.budgetMonth (ops.filter applied) before)
    (happlied : ∀ op ∈ ops, applied op = true → OnPage base op)
    (hqueued : ∀ op ∈ ops, applied op = false → NotYet base held op) :
    (rebuild base ops).budgets = afterWrites held base.budgetMonth ops before ∧
    ∀ categories t direction month,
      budgetOverlay (budgetOverlay categories t direction month) t (-direction) month
        = categories := by
  refine ⟨?_, budgetOverlay_reverse⟩
  have hloop : (ops.foldl (overlayRow base) (base.budgets, associateById base.recentTransactions)).1
      = _ := foldl_overlayRow hids (fun _ _ => rfl) happlied hqueued
  show (ops.foldl (overlayRow base) _).1 = _
  rw [hloop, hbase, afterWrites_eq, afterWrites_eq, shift_shift, sum_filter_add]

/-- An expense on the food budget in October 2026, as the phone shows it. -/
def food (id : TransactionId) (amount : Decimal) : Transaction :=
  ⟨id, .expense, ⟨.of 2026 10, 3⟩, "food", amount, some .eur, none, none, none, some "Food", none, some 1,
    none, some "Cash", none, some 1, none, 1, true, none, none, none, false⟩

/-- The same expense, as the server lists it: with the system's category and account. -/
def listed (id : TransactionId) (amount : Decimal) : Transaction :=
  { food id amount with
    toCategory := some "Expense"
    toCategoryId := some 1000002
    toAccount := some "Expense"
    toAccountId := some 9 }

theorem listed_same (id : TransactionId) (amount : Decimal) :
    SameEntry (listed id amount) { food id amount with pending := true } :=
  ⟨rfl, rfl, rfl, rfl, rfl, rfl, fun _ => rfl, fun h => by rcases h with h | h <;> cases h⟩

/-- A queued expense. -/
def queued (operation : OperationId) (t : Transaction) (original : Option Transaction) : OutboxRow :=
  ⟨operation, ⟨operation, t.id, t.kind, t.effectiveDate, t.description, t.amount, none, true, some .eur,
      none, t.fromCategoryId, none, t.fromAccountId, none, none, none, none,
      original.map (·.revision), none⟩,
    { t with pending := true }, original, original.isSome, .pending, none, none⟩

def foodBudget (remaining : Decimal) : List Category := [⟨1, "Food", none, some remaining⟩]

/-- A page with an expense whose answer was lost and one that is to be edited. -/
def lostPage : Snapshot := ⟨.of 2026 10, 2, [listed 8 10, listed 7 100], foodBudget 190, []⟩

/-- The answer to an expense of 10 EUR was lost, and one of 100 EUR is to become 40 EUR: both count
once. -/
theorem rebuild_counts_once_lost :
    (rebuild lostPage [queued 20 (food 8 10) none, queued 21 (food 7 40) (some (listed 7 100))]).budgets
      = foodBudget 250 := by
  have hcount := (@rebuild_counts_once lostPage
    (fun id => if id = 7 then some (listed 7 100) else none) (fun op => op.optimistic.id = 8)
    [queued 20 (food 8 10) none, queued 21 (food 7 40) (some (listed 7 100))] (foodBudget 200)
    (by decide) (by decide +kernel) ?_ ?_).1
  · rw [hcount]
    decide +kernel
  · intro op hop happlied
    have hlunch : op = queued 20 (food 8 10) none := by
      simp only [List.mem_cons, List.not_mem_nil, or_false] at hop
      rcases hop with rfl | rfl
      · rfl
      · exact absurd happlied (by decide)
    rw [hlunch]
    exact ⟨listed 8 10, by decide +kernel, .inl ((listed_same 8 10).effect_eq _)⟩
  · intro op hop hqueued
    have hedit : op = queued 21 (food 7 40) (some (listed 7 100)) := by
      simp only [List.mem_cons, List.not_mem_nil, or_false] at hop
      rcases hop with rfl | rfl
      · exact absurd hqueued (by decide)
      · rfl
    have hpage : pageRow lostPage 7 = some (listed 7 100) := by decide +kernel
    rw [hedit]
    refine ⟨fun c hc => ?_, fun hc => ?_, fun hc => ?_⟩
    · obtain rfl := Option.some.inj (hpage.symm.trans hc)
      exact ⟨rfl, by decide⟩
    · cases hpage.symm.trans hc
    · cases hpage.symm.trans hc

/-- An edit of an entry that was deleted meanwhile: its original is not taken away. -/
theorem rebuild_deleted_original :
    (rebuild ⟨.of 2026 10, 0, [], foodBudget 200, []⟩
      [queued 21 (food 7 40) (some (listed 7 100))]).budgets = foodBudget 160 ∧
    overlayOver (some (listed 7 100)) (food 7 40) (.of 2026 10) (foodBudget 200) = foodBudget 260 ∧
    foodBudget 160 ≠ foodBudget 260 := by
  decide +kernel

end Entry
