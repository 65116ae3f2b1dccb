import Presto.Sound

/-!
# The ledger recomputed from the facts

`recompute db current s` is the effect that the facts in the tables ask for under the source `s`,
with the receipts up to the month `current`. It reads no movement. `sync` is compared with it: every
target that `sync` settles is the recomputed one, and the sources it does not settle have none.
-/

namespace BudgetLedger

open Budget

/-! ## The recomputation -/

/-- What one side of a row brings to a category. -/
def sideWants (r : LedgerRow) (side : Option CategoryId) (eur : Option Decimal) (incoming : Bool)
    (category : CategoryId) : Except String Decimal :=
  if side = some category then do
    let amount ← (if r.kind = .reallocate then .ok r.amountDecimal.unsigned
      else Except.fromOption eur "Missing category valuation")
    return if incoming then amount else -amount
  else .ok 0

/-- What both sides of a row bring to a category that is real. -/
def sidesWant (db : Database) (r : LedgerRow) (category : CategoryId) : Except String Decimal :=
  if db.isRealCategory category then do
    let out ← sideWants r r.fromCategoryId r.fromEur false category
    let back ← sideWants r r.toCategoryId r.toEur true category
    return out + back
  else .ok 0

/-- The kind of movement that the sides of a row book. -/
def sideKind (r : LedgerRow) : MovementKind :=
  if r.kind = .reallocate then .reallocation else .spending

/-- Does the row book its sides, as an expense, a reallocation, a refund or income from before the
ledger? -/
def booksSides (db : Database) (r : LedgerRow) : Bool :=
  match r.kind with
  | .transfer | .reconciliation => false
  | .expense | .reallocate => true
  | .income =>
    let treatment := (db.receipts.lookup r.id).map (·.treatment)
    decide (treatment = some .refund ∨ treatment = some .legacy)

/-- Does the row fund Unallocated directly? -/
def booksIncome (db : Database) (r : LedgerRow) : Bool :=
  let treatment := (db.receipts.lookup r.id).map (·.treatment)
  decide (r.kind = .income) && decide (treatment = some .unexpected ∨ treatment = none)

/-- The effect of a row on a category under a kind of movement. -/
def rowWants (db : Database) (r : LedgerRow) (category : CategoryId) (kind : MovementKind) :
    Except String Decimal :=
  if booksSides db r = true ∧ kind = sideKind r then sidesWant db r category
  else if booksIncome db r = true ∧ kind = .income ∧ category = UNALLOCATED then
    Except.fromOption r.toEur "Missing income valuation"
  else .ok 0

/-- The part of a plan that receipts worth `received` cover. -/
def covered (plan eur received : Decimal) : Except String Decimal :=
  fundingPortion (plan - (plan - received).positive) plan eur

/-- What the receipts of a month bring beyond the plan, `received` having come before them. -/
def monthExcess (plan eur : Decimal) (month : Month) :
    Decimal → List MatchedReceipt → Except String Decimal
  | _, [] => .ok 0
  | received, r :: rs => do
    let after ← covered plan eur (received + r.native)
    let before ← covered plan eur received
    let rest ← monthExcess plan eur month (received + r.native) rs
    return (if r.treatment ≠ .legacy ∧ r.date.month = month then r.actualEur - (after - before)
      else 0) + rest

/-- The salary excess over the expectation `expected` that falls into a month. -/
def excessWants (db : Database) (current expected month : Month) : Except String Decimal :=
  match db.planIncome.lookup expected with
  | none => .ok 0
  | some row => do
    let receipts ← matchedReceipts db expected current row.amount row.currency row.amountEur
    monthExcess row.amount row.amountEur month 0 receipts

/-- The shortfall that the expectation `expected` gives up in a month. -/
def settlementWants (db : Database) (expected month : Month) : Except String Decimal :=
  match db.planIncome.lookup expected with
  | none => .ok 0
  | some row =>
    if row.completedMonth = some month then
      (Except.fromOption row.completionShortfallEur "Missing completion amount").map (0 - ·)
    else .ok 0

/-- The correction that an operation applies to a category in a month. -/
def correctionWants (db : Database) (operation : OperationId) (category : CategoryId)
    (month : Month) : Decimal :=
  match db.corrections.lookup operation with
  | none => 0
  | some r =>
    if r.appliedMonth = month then
      0 - ((r.items.filter fun i => i.1 = category).map Prod.snd).sum
    else 0

/-- The latest effective allocation of a category, nothing for categories without a budget. -/
def allocationWants (db : Database) (category : CategoryId) (month : Month) :
    Except String Decimal :=
  if db.isRealCategory category = true ∧ category ≠ UNALLOCATED then
    Except.fromOption (monthlyAllocation db category month) "Missing allocation"
  else .ok 0

/-- **The effect that the facts ask for under a source.** -/
def recompute (db : Database) (current : Month) (s : Source) : Except String Decimal :=
  match s.key with
  | .expected m =>
    if s.kind = .funding ∧ s.category = UNALLOCATED ∧ m = s.month then
      .ok (((db.planIncome.lookup m).map (·.amountEur)).getD 0)
    else .ok 0
  | .allocation m c =>
    if s.kind = .allocation ∧ s.category = c ∧ m = s.month then allocationWants db c m else .ok 0
  | .allocations m =>
    if s.kind = .allocation ∧ s.category = UNALLOCATED ∧ m = s.month then
      (monthAllocations db m).map fun allocations => 0 - (allocations.map (·.2)).sum
    else .ok 0
  | .transaction id =>
    match db.transactions.lookup id with
    | none => .ok 0
    | some t =>
      if t.month = s.month then rowWants db (t.row id) s.category s.kind else .ok 0
  | .correction operation c =>
    if s.kind = .correction ∧ s.category = c then .ok (correctionWants db operation c s.month)
    else .ok 0
  | .excess m =>
    if s.kind = .income ∧ s.category = UNALLOCATED then excessWants db current m s.month else .ok 0
  | .complete m =>
    if s.kind = .settlement ∧ s.category = UNALLOCATED then settlementWants db m s.month else .ok 0

/-- Movements are no facts. -/
theorem recompute_movements (db : Database) (ms : List Movement) (current : Month) (s : Source) :
    recompute { db with movements := ms } current s = recompute db current s := rfl

/-- The sources that the walk over the months settles. -/
def Monthly (s : Source) : Prop :=
  match s.key with
  | .excess _ | .complete _ => False
  | _ => True

/-- Apart from excess and settlements, the only expectation that counts is the month's own. -/
theorem recompute_planIncome {db : Database} {P : Table Month PlanIncome} {s : Source}
    (hs : Monthly s) (hP : P.lookup s.month = db.planIncome.lookup s.month) (current : Month) :
    recompute { db with planIncome := P } current s = recompute db current s := by
  obtain ⟨m, c, k, key⟩ := s
  cases key with
  | expected m' =>
    simp only [recompute]
    split
    · rename_i h
      obtain ⟨_, _, rfl⟩ := h
      rw [hP]
    · rfl
  | excess _ => exact hs.elim
  | complete _ => exact hs.elim
  | _ => rfl

theorem correctionWants_of_notMem {db : Database} {op : OperationId} {c : CategoryId} {m : Month}
    (h : ¬ ∃ r, db.corrections.lookup op = some r ∧ r.appliedMonth = m ∧ ∃ i ∈ r.items, i.1 = c) :
    correctionWants db op c m = 0 := by
  unfold correctionWants
  cases hl : db.corrections.lookup op with
  | none => rfl
  | some r =>
    simp only
    split
    · rename_i hm
      have hnil : r.items.filter (fun i => i.1 = c) = [] := by
        rw [List.filter_eq_nil_iff]
        intro i hi hc
        exact h ⟨r, hl, hm, i, hi, of_decide_eq_true hc⟩
      simp [hnil]
    · rfl

/-- A category that is not real gets nothing from the sides of a row. -/
theorem rowWants_of_not_real {db : Database} {r : LedgerRow} {c : CategoryId} {k : MovementKind}
    (hk : k ≠ .income) (h : ¬ ((k = .spending ∨ k = .reallocation) ∧ db.isRealCategory c = true)) :
    rowWants db r c k = .ok 0 := by
  have hcases : sideKind r = .spending ∨ sideKind r = .reallocation := by
    unfold sideKind
    split <;> simp
  unfold rowWants
  split
  · rename_i hs
    have hc : ¬ db.isRealCategory c = true := fun hc => h ⟨hs.2 ▸ hcases, hc⟩
    simp [sidesWant, hc]
  · simp [hk]

theorem rowWants_income {db : Database} {r : LedgerRow} {c : CategoryId} (h : c ≠ UNALLOCATED) :
    rowWants db r c .income = .ok 0 := by
  have hcases : sideKind r = .spending ∨ sideKind r = .reallocation := by
    unfold sideKind
    split <;> simp
  unfold rowWants
  rw [if_neg, if_neg (by simp [h])]
  rintro ⟨_, hs⟩
  rcases hcases with e | e <;> simp [e] at hs

/-- Nothing is asked for under a source that is not one of the ledger's. -/
theorem recompute_of_not_wellSourced {db : Database} {s : Source} (hc : s.month.Calendar)
    (h : ¬ Server.WellSourced db s) (current : Month) : recompute db current s = .ok 0 := by
  obtain ⟨m, c, k, key⟩ := s
  have h : ¬ _ := fun h' => h ⟨hc, h'⟩
  cases key with
  | expected m' =>
    simp only [recompute]
    rw [if_neg]
    rintro ⟨rfl, rfl, rfl⟩
    exact h ⟨rfl, rfl⟩
  | allocation m' c' =>
    simp only [recompute, allocationWants]
    split
    · rename_i hk
      obtain ⟨rfl, rfl, rfl⟩ := hk
      rw [if_neg]
      rintro ⟨h1, h2⟩
      exact h ⟨rfl, rfl, h2, h1⟩
    · rfl
  | allocations m' =>
    simp only [recompute]
    rw [if_neg]
    rintro ⟨rfl, rfl, rfl⟩
    exact h ⟨rfl, rfl⟩
  | transaction id =>
    simp only [recompute]
    split
    · rfl
    · split
      · by_cases hk : k = .income
        · subst hk
          exact rowWants_income h
        · refine rowWants_of_not_real hk ?_
          rintro ⟨rfl | rfl, hr⟩
          · exact h hr
          · exact h hr
      · rfl
  | correction op c' =>
    simp only [recompute]
    split
    · rename_i hk
      obtain ⟨rfl, rfl⟩ := hk
      rw [correctionWants_of_notMem]
      intro hex
      exact h ⟨rfl, hex⟩
    · rfl
  | excess m' =>
    simp only [recompute, excessWants]
    split
    · rename_i hk
      obtain ⟨rfl, rfl⟩ := hk
      cases hl : db.planIncome.lookup m' with
      | none => rfl
      | some row => exact absurd ⟨rfl, by simp [hl]⟩ h
    · rfl
  | complete m' =>
    simp only [recompute, settlementWants]
    split
    · rename_i hk
      obtain ⟨rfl, rfl⟩ := hk
      cases hl : db.planIncome.lookup m' with
      | none => rfl
      | some row =>
        simp only
        rw [if_neg]
        exact fun hc => h ⟨rfl, row, hl, hc⟩
    · rfl

/-! ## Transactions -/

/-- The entry that a running map has for one key of a row: what the row wants there. -/
def Agrees (db : Database) (r : LedgerRow) (wanted : Wanted) : Prop :=
  ∀ c k, rowWants db r c k = .ok (deltaAt wanted ⟨r.month, c, k, .transaction r.id⟩)

/-- One side of a row adds what it wants to its category, and touches nothing else. -/
theorem sideEffect_ok {db : Database} {r : LedgerRow} {side : Option CategoryId}
    {eur : Option Decimal} {incoming : Bool} {wanted wanted' : Wanted}
    (h : sideEffect db r side eur incoming wanted = .ok wanted') :
    (∀ c, db.isRealCategory c = true → ∃ x, sideWants r side eur incoming c = .ok x ∧
      deltaAt wanted' ⟨r.month, c, sideKind r, .transaction r.id⟩
        = deltaAt wanted ⟨r.month, c, sideKind r, .transaction r.id⟩ + x) ∧
    (∀ s, wanted'.lookup s ≠ wanted.lookup s → ∃ c, db.isRealCategory c = true ∧
      s = ⟨r.month, c, sideKind r, .transaction r.id⟩) := by
  unfold sideEffect at h
  cases hf : side.filter db.isRealCategory with
  | none =>
    simp only [hf, Except.ok.injEq] at h
    subst h
    refine ⟨fun c hc => ⟨0, ?_, by simp⟩, fun s hs => absurd rfl hs⟩
    have hne : side ≠ some c := by
      rintro rfl
      simp [Option.filter, hc] at hf
    simp [sideWants, hne]
  | some c₀ =>
    obtain ⟨hside, hreal⟩ : side = some c₀ ∧ db.isRealCategory c₀ = true := by
      cases side with
      | none => simp at hf
      | some c => simp only [Option.filter] at hf; split at hf <;> simp_all
    simp only [hf, Except.bind_eq_ok, Except.pure_eq_ok] at h
    obtain ⟨amount, ha, rfl⟩ := h
    have hkind : (if r.kind = .reallocate then MovementKind.reallocation else .spending)
        = sideKind r := rfl
    simp only [hkind]
    refine ⟨fun c hc => ?_, fun s hs => ⟨c₀, hreal, ?_⟩⟩
    · rw [deltaAt_addDelta]
      by_cases hcc : c = c₀
      · subst hcc
        refine ⟨if incoming then amount else -amount, ?_, by simp⟩
        rw [sideWants, if_pos hside, Except.bind_eq_ok]
        exact ⟨amount, ha, rfl⟩
      · refine ⟨0, ?_, by simp [hcc]⟩
        rw [sideWants, if_neg]
        rw [hside]
        exact fun e => hcc (Option.some.inj e).symm
    · by_contra hne
      exact hs ((AList.lookup_insert_of _ _ _ _).trans (if_neg hne))

/-- The sources that a row can book. -/
def RowSource (db : Database) (r : LedgerRow) (s : Source) : Prop :=
  s.month = r.month ∧ s.key = .transaction r.id ∧
    ((s.kind = .income ∧ s.category = UNALLOCATED) ∨
      (s.kind = sideKind r ∧ db.isRealCategory s.category = true))

/-- The three cases of a row, named by what it books. -/
theorem transactionEffect_eq (db : Database) (wanted : Wanted) (r : LedgerRow) :
    transactionEffect db wanted r =
      if booksSides db r then do
        let wanted ← sideEffect db r r.fromCategoryId r.fromEur false wanted
        sideEffect db r r.toCategoryId r.toEur true wanted
      else if booksIncome db r then
        (Except.fromOption r.toEur "Missing income valuation").map fun amount =>
          wanted.insert ⟨r.month, UNALLOCATED, .income, .transaction r.id⟩ amount
      else .ok wanted := by
  unfold transactionEffect booksSides booksIncome
  cases hk : r.kind with
  | income =>
    cases ht : (db.receipts.lookup r.id).map (·.treatment) with
    | none => simp
    | some treatment => cases treatment <;> simp
  | _ => simp

theorem bothSides_ok {db : Database} {r : LedgerRow} {wanted mid wanted' : Wanted}
    (h1 : sideEffect db r r.fromCategoryId r.fromEur false wanted = .ok mid)
    (h2 : sideEffect db r r.toCategoryId r.toEur true mid = .ok wanted')
    (hnew : ∀ s, s.key = .transaction r.id → wanted.lookup s = none) :
    (∀ c, sidesWant db r c
      = .ok (deltaAt wanted' ⟨r.month, c, sideKind r, .transaction r.id⟩)) ∧
    ∀ s, wanted'.lookup s ≠ wanted.lookup s → ∃ c, db.isRealCategory c = true ∧
      s = ⟨r.month, c, sideKind r, .transaction r.id⟩ := by
  obtain ⟨a1, f1⟩ := sideEffect_ok h1
  obtain ⟨a2, f2⟩ := sideEffect_ok h2
  have frame : ∀ s, wanted'.lookup s ≠ wanted.lookup s → ∃ c, db.isRealCategory c = true ∧
      s = ⟨r.month, c, sideKind r, .transaction r.id⟩ := by
    intro s hs
    by_cases h2 : wanted'.lookup s = mid.lookup s
    · exact f1 s (h2 ▸ hs)
    · exact f2 s h2
  refine ⟨fun c => ?_, frame⟩
  cases hc : db.isRealCategory c with
  | true =>
    obtain ⟨x, hx, e1⟩ := a1 c hc
    obtain ⟨y, hy, e2⟩ := a2 c hc
    rw [e2, e1, deltaAt_of_none (hnew _ rfl), zero_add]
    simp [sidesWant, hc, hx, hy, bind, Except.bind, pure, Except.pure]
  | false =>
    have hsame : wanted'.lookup ⟨r.month, c, sideKind r, .transaction r.id⟩ = none := by
      rw [← hnew ⟨r.month, c, sideKind r, .transaction r.id⟩ rfl]
      by_contra hne
      obtain ⟨c', hc', e⟩ := frame _ hne
      simp only [Source.mk.injEq] at e
      rw [← e.2.1, hc] at hc'
      cases hc'
    rw [deltaAt_of_none hsame]
    simp [sidesWant, hc]

/-- **One transaction.** After its turn the map holds what the row wants; other keys are untouched. -/
theorem transactionEffect_ok {db : Database} {r : LedgerRow} {wanted wanted' : Wanted}
    (h : transactionEffect db wanted r = .ok wanted')
    (hnew : ∀ s, s.key = .transaction r.id → wanted.lookup s = none) :
    Agrees db r wanted' ∧
    ∀ s, wanted'.lookup s ≠ wanted.lookup s → RowSource db r s := by
  rw [transactionEffect_eq] at h
  -- an untouched key has no entry
  have untouched : ∀ s, s.key = .transaction r.id → wanted'.lookup s = wanted.lookup s →
      deltaAt wanted' s = 0 := fun s hs e => deltaAt_of_none (e.trans (hnew s hs))
  cases hsides : booksSides db r with
  | true =>
    rw [if_pos hsides, Except.bind_eq_ok] at h
    obtain ⟨mid, h1, h2⟩ := h
    obtain ⟨hwants, hframe⟩ := bothSides_ok h1 h2 hnew
    have hbooks : booksIncome db r = false := by
      unfold booksSides at hsides
      unfold booksIncome
      cases hk : r.kind with
      | income =>
        rw [hk] at hsides
        rcases of_decide_eq_true hsides with hs | hs <;> simp [hs]
      | _ => rfl
    refine ⟨fun c k => ?_, fun s hs => ?_⟩
    · by_cases hk : k = sideKind r
      · subst hk
        simp [rowWants, hsides, hwants c]
      · rw [untouched _ rfl]
        · simp [rowWants, hbooks, hk]
        · by_contra hne
          obtain ⟨c', _, e⟩ := hframe _ hne
          simp only [Source.mk.injEq] at e
          exact hk e.2.2.1
    · obtain ⟨c, hc, rfl⟩ := hframe s hs
      exact ⟨rfl, rfl, .inr ⟨rfl, hc⟩⟩
  | false =>
    rw [if_neg (by simp [hsides])] at h
    cases hbooks : booksIncome db r with
    | true =>
      rw [if_pos hbooks, Except.map_eq_ok] at h
      obtain ⟨amount, ha, rfl⟩ := h
      refine ⟨fun c k => ?_, fun s hs => ?_⟩
      · by_cases hck : k = .income ∧ c = UNALLOCATED
        · obtain ⟨rfl, rfl⟩ := hck
          simp [rowWants, hsides, hbooks, ha, deltaAt]
        · rw [untouched _ rfl, rowWants, if_neg (by simp [hsides]), if_neg (by simp [hck])]
          refine (AList.lookup_insert_of _ _ _ _).trans (if_neg fun e => ?_)
          simp only [Source.mk.injEq] at e
          exact hck ⟨e.2.2.1, e.2.1⟩
      · rw [AList.lookup_insert_of] at hs
        split at hs
        · subst_vars
          exact ⟨rfl, rfl, .inl ⟨rfl, rfl⟩⟩
        · exact absurd rfl hs
    | false =>
      rw [if_neg (by simp [hbooks]), Except.ok.injEq] at h
      subst h
      refine ⟨fun c k => ?_, fun s hs => absurd rfl hs⟩
      rw [untouched _ rfl rfl]
      simp [rowWants, hsides, hbooks]

/-- All transactions of a list with distinct ids. -/
theorem transactionEffects_ok {db : Database} {rs : List LedgerRow} :
    ∀ {wanted wanted' : Wanted}, rs.foldlM (transactionEffect db) wanted = .ok wanted' →
      (rs.map (·.id)).Nodup → (∀ r ∈ rs, ∀ s, s.key = .transaction r.id → wanted.lookup s = none) →
      (∀ r ∈ rs, Agrees db r wanted') ∧
      ∀ s, wanted'.lookup s ≠ wanted.lookup s → ∃ r ∈ rs, RowSource db r s := by
  induction rs with
  | nil =>
    intro wanted wanted' h _ _
    rw [List.foldlM_nil, Except.pure_eq_ok] at h
    subst h
    exact ⟨by simp, fun s hs => absurd rfl hs⟩
  | cons r rs ih =>
    intro wanted wanted' h hnd hnew
    rw [List.foldlM_cons, Except.bind_eq_ok] at h
    obtain ⟨mid, h1, h2⟩ := h
    rw [List.map_cons, List.nodup_cons] at hnd
    have hdistinct : ∀ r' ∈ rs, r'.id ≠ r.id := fun r' hr' e =>
      hnd.1 (List.mem_map.2 ⟨r', hr', e⟩)
    obtain ⟨ha, hf⟩ := transactionEffect_ok h1 (hnew r List.mem_cons_self)
    have hmid : ∀ r' ∈ rs, ∀ s, s.key = .transaction r'.id → mid.lookup s = none := by
      intro r' hr' s hs
      by_contra hne
      have hchanged : mid.lookup s ≠ wanted.lookup s := by
        rw [hnew r' (List.mem_cons_of_mem _ hr') s hs]
        exact hne
      have hkey := (hf s hchanged).2.1
      rw [hs] at hkey
      exact hdistinct r' hr' (by simpa using hkey)
    obtain ⟨ha', hf'⟩ := ih h2 hnd.2 hmid
    refine ⟨fun r' hr' => ?_, fun s hs => ?_⟩
    · rcases List.mem_cons.1 hr' with rfl | hr'
      · -- later rows leave its keys alone
        intro c k
        have hkeep : wanted'.lookup ⟨r'.month, c, k, .transaction r'.id⟩
            = mid.lookup ⟨r'.month, c, k, .transaction r'.id⟩ := by
          by_contra hne
          obtain ⟨r₂, hr₂, hsrc⟩ := hf' _ hne
          have hid : r'.id = r₂.id := by simpa using hsrc.2.1
          exact hdistinct r₂ hr₂ hid.symm
        rw [ha c k, deltaAt, deltaAt, hkeep]
      · exact ha' r' hr'
    · by_cases h2 : wanted'.lookup s = mid.lookup s
      · exact ⟨r, List.mem_cons_self, hf s (h2 ▸ hs)⟩
      · obtain ⟨r₂, hr₂, hsrc⟩ := hf' s h2
        exact ⟨r₂, List.mem_cons_of_mem _ hr₂, hsrc⟩

theorem mem_rows {db : Database} {r : LedgerRow} :
    r ∈ db.rows ↔ ∃ t, db.transactions.lookup r.id = some t ∧ r = t.row r.id := by
  unfold Database.rows
  rw [List.mem_map]
  constructor
  · rintro ⟨⟨id, t⟩, he, rfl⟩
    exact ⟨t, AList.mem_entries_iff.1 he, rfl⟩
  · rintro ⟨t, ht, hr⟩
    exact ⟨⟨r.id, t⟩, AList.mem_entries_iff.2 ht, hr.symm⟩

theorem row_mem_rows {db : Database} {id : TransactionId} {t : Transaction}
    (h : db.transactions.lookup id = some t) : t.row id ∈ db.rows :=
  mem_rows.2 ⟨t, h, rfl⟩

theorem rows_nodup (db : Database) : (db.rows.map (·.id)).Nodup := by
  have h : db.rows.map (·.id) = db.transactions.keys := by
    simp [Database.rows, AList.keys, List.keys, Transaction.row, Function.comp_def]
  rw [h]
  exact db.transactions.keys_nodup

open Server (WellSourced)

theorem RowSource.wellSourced {db : Database} {r : LedgerRow} {s : Source} (h : RowSource db r s)
    (hc : s.month.Calendar) : WellSourced db s := by
  obtain ⟨m, c, k, key⟩ := s
  obtain ⟨_, rfl, hkind⟩ := h
  refine ⟨hc, ?_⟩
  rcases hkind with ⟨rfl, h⟩ | ⟨rfl, h⟩
  · exact h
  · have hcases : sideKind r = .reallocation ∨ sideKind r = .spending := by
      unfold sideKind
      split <;> simp
    rcases hcases with e | e <;> simpa only [e] using h

/-- What a list of targets has to do with the facts: each target is the recomputed effect of a
well-formed source of the ledger. -/
structure Sourced (db : Database) (current : Month) (t : Source × Decimal) : Prop where
  source : WellSourced db t.1
  value : recompute db current t.1 = .ok t.2

/-- A source that needs no target: nothing is booked under it and nothing is asked for. -/
structure Idle (j : List Movement) (db : Database) (current : Month) (s : Source) : Prop where
  balance : Journal.balance j s = 0
  value : recompute db current s = .ok 0

/-- A source that is settled, or need not be. -/
def Covered (j : List Movement) (db : Database) (current : Month) (ts : List (Source × Decimal))
    (s : Source) : Prop :=
  s ∈ ts.map Prod.fst ∨ Idle j db current s

/-- **The transactions of a month.** -/
theorem transactionTargets_ok {db : Database} {m : Month} {ts : List (Source × Decimal)}
    (h : transactionTargets db m = .ok ts) (hm : m.Calendar)
    (hsound : ∀ e ∈ db.movements, WellSourced db e.key) (current : Month) :
    (∀ t ∈ ts, Sourced db current t ∧ t.1.month = m ∧ ∃ id, t.1.key = .transaction id) ∧
    ∀ s id, s.month = m → s.key = .transaction id → Covered db.movements db current ts s := by
  unfold transactionTargets at h
  simp only [Except.bind_eq_ok, Except.pure_eq_ok] at h
  obtain ⟨wanted, hw, rfl⟩ := h
  have hrows : ((db.rows.filter fun r => r.month = m).map (·.id)).Nodup :=
    (rows_nodup db).sublist (List.filter_sublist.map _)
  obtain ⟨hagrees, hframe⟩ := transactionEffects_ok hw hrows fun _ _ _ _ => rfl
  have hbooked : ∀ s, (wanted.lookup s).isSome = true →
      ∃ r ∈ db.rows.filter fun r => r.month = m, RowSource db r s := fun s hs => by
    refine hframe s fun e => ?_
    rw [e] at hs
    cases hs
  -- the map holds the recomputed effect of every transaction source of the month
  have hvalue : ∀ s id, s.month = m → s.key = .transaction id →
      recompute db current s = .ok (deltaAt wanted s) := by
    rintro ⟨m', c, k, key⟩ id hsm rfl
    cases hsm
    have hnone : (∀ t, db.transactions.lookup id = some t → t.month ≠ m') →
        deltaAt wanted ⟨m', c, k, .transaction id⟩ = 0 := by
      intro hno
      refine deltaAt_of_none (Option.not_isSome_iff_eq_none.1 fun hs => ?_)
      obtain ⟨r, hr, _, hkey, _⟩ := hbooked _ hs
      obtain ⟨hr, hmonth⟩ := List.mem_filter.1 hr
      obtain ⟨t, ht, hrow⟩ := mem_rows.1 hr
      have hid : id = r.id := by simpa using hkey
      refine hno t (hid ▸ ht) ?_
      rw [hrow] at hmonth
      exact of_decide_eq_true hmonth
    simp only [recompute]
    cases hl : db.transactions.lookup id with
    | none => rw [hnone (by simp [hl])]
    | some t =>
      simp only
      split
      · rename_i ht
        cases ht
        exact hagrees (t.row id) (List.mem_filter.2 ⟨row_mem_rows hl, by
          simp [LedgerRow.month, Transaction.row, Transaction.month]⟩) c k
      · rename_i ht
        rw [hnone fun t' ht' => by rw [hl] at ht'; cases ht'; exact ht]
  have hgone : ∀ s, s ∈ ((db.movements.map (·.key)).filter (isTransactionSource m)).dedup ↔
      (∃ e ∈ db.movements, e.key = s) ∧ s.month = m ∧ ∃ id, s.key = .transaction id := by
    intro s
    rw [List.mem_dedup, List.mem_filter, List.mem_map, isTransactionSource]
    cases s.key <;> simp
  constructor
  · intro t ht
    rw [List.mem_append, List.mem_map, List.mem_map] at ht
    rcases ht with ⟨⟨s, x⟩, he, rfl⟩ | ⟨s, hs, rfl⟩
    · have hl : wanted.lookup s = some x := AList.mem_entries_iff.1 he
      obtain ⟨r, hr, hsrc⟩ := hbooked s (by simp [hl])
      have hmonth : s.month = m := hsrc.1.trans (by simpa using (List.mem_filter.1 hr).2)
      refine ⟨⟨hsrc.wellSourced (hmonth ▸ hm), ?_⟩, hmonth, r.id, hsrc.2.1⟩
      rw [hvalue s r.id hmonth hsrc.2.1]
      simp [deltaAt, hl]
    · obtain ⟨hs, hnone⟩ := List.mem_filter.1 hs
      obtain ⟨⟨e, he, rfl⟩, hmonth, id, hkey⟩ := (hgone _).1 hs
      refine ⟨⟨hsound e he, ?_⟩, hmonth, id, hkey⟩
      rw [hvalue _ id hmonth hkey, deltaAt_of_none (by simpa using hnone)]
  · intro s id hmonth hkey
    cases hl : wanted.lookup s with
    | some x =>
      left
      rw [List.map_append, List.mem_append]
      left
      rw [List.mem_map]
      exact ⟨(s, x), List.mem_map.2 ⟨⟨s, x⟩, AList.mem_entries_iff.2 hl, rfl⟩, rfl⟩
    | none =>
      by_cases hb : ∃ e ∈ db.movements, e.key = s
      · left
        rw [List.map_append, List.mem_append]
        right
        rw [List.mem_map]
        refine ⟨(s, 0), List.mem_map.2 ⟨s, List.mem_filter.2 ⟨(hgone s).2 ⟨hb, hmonth, id, hkey⟩, ?_⟩,
          rfl⟩, rfl⟩
        simp [hl]
      · right
        refine ⟨Journal.balance_eq_zero fun e he hk => hb ⟨e, he, hk⟩, ?_⟩
        rw [hvalue s id hmonth hkey, deltaAt_of_none hl]

/-! ## Excess and settlement -/

/-- The running map of excess holds the recomputed excess of every month. -/
theorem excessSteps_ok {plan eur : Decimal} {rs : List MatchedReceipt} :
    ∀ {acc acc' : Decimal × Table Month Decimal}, rs.foldlM (excessStep plan eur) acc = .ok acc' →
      (∀ m, ∃ x, monthExcess plan eur m acc.1 rs = .ok x ∧
        deltaAt acc'.2 m = deltaAt acc.2 m + x) ∧
      ∀ m, (acc'.2.lookup m).isSome = true →
        (acc.2.lookup m).isSome = true ∨ ∃ r ∈ rs, r.date.month = m := by
  induction rs with
  | nil =>
    intro acc acc' h
    rw [List.foldlM_nil, Except.pure_eq_ok] at h
    subst h
    exact ⟨fun m => ⟨0, rfl, by simp⟩, fun m hm => .inl hm⟩
  | cons r rs ih =>
    intro acc acc' h
    rw [List.foldlM_cons, Except.bind_eq_ok] at h
    obtain ⟨mid, h1, h2⟩ := h
    simp only [excessStep, Except.bind_eq_ok, Except.pure_eq_ok] at h1
    obtain ⟨after, hafter, before, hbefore, rfl⟩ := h1
    obtain ⟨hsum, hmonths⟩ := ih h2
    constructor
    · intro m
      obtain ⟨x, hx, hd⟩ := hsum m
      refine ⟨(if r.treatment ≠ .legacy ∧ r.date.month = m then r.actualEur - (after - before)
        else 0) + x, ?_, ?_⟩
      · simp only [monthExcess, Except.bind_eq_ok, Except.pure_eq_ok]
        exact ⟨after, hafter, before, hbefore, x, hx, rfl⟩
      · rw [hd]
        by_cases hl : r.treatment = .legacy
        · simp [hl]
        · simp only [hl, if_false, deltaAt_addDelta, ne_eq, not_false_eq_true, true_and]
          by_cases hmm : r.date.month = m
          · simp [hmm, add_assoc]
          · simp [hmm, Ne.symm hmm]
    · intro m hm
      rcases hmonths m hm with hm | ⟨r', hr', hd⟩
      · by_cases hl : r.treatment = .legacy
        · exact .inl (by simpa [hl] using hm)
        · simp only [hl, if_false, addDelta] at hm
          rw [AList.lookup_insert_of] at hm
          split at hm
          · exact .inr ⟨r, List.mem_cons_self, by simp_all⟩
          · exact .inl hm
      · exact .inr ⟨r', List.mem_cons_of_mem _ hr', hd⟩

/-- The receipts of an expectation are dated when their transactions are. -/
theorem matchedReceipts_date {db : Database} {month through : Month} {amount : Decimal}
    {currency : Currency} {plannedEur : Decimal} {receipts : List MatchedReceipt}
    (h : matchedReceipts db month through amount currency plannedEur = .ok receipts)
    {r : MatchedReceipt} (hr : r ∈ receipts) :
    ∃ id t, db.transactions.lookup id = some t ∧ r.date = t.effectiveDate ∧ t.month ≤ through := by
  obtain ⟨row, hrow, hf⟩ := Except.exists_of_mem_mapM h hr
  rw [matchedRows, (List.perm_insertionSort _ _).mem_iff, List.mem_filter, isMatched] at hrow
  obtain ⟨hrow, hmatch⟩ := hrow
  obtain ⟨t, ht, e⟩ := mem_rows.1 hrow
  simp only [matchedReceipt, Except.bind_eq_ok, Except.pure_eq_ok] at hf
  obtain ⟨_, _, _, _, rfl⟩ := hf
  simp only [Bool.and_eq_true, decide_eq_true_eq] at hmatch
  rw [e] at hmatch ⊢
  exact ⟨row.id, t, ht, rfl, hmatch.1.1.2⟩

/-- **One expectation.** -/
theorem expectationTargets_ok {db : Database} {today : Date} {m : Month}
    {ts : List (Source × Decimal)} (h : expectationTargets db today.month m = .ok ts)
    (hdates : Server.DatesSound today db) (hmovements : Server.MovementsSound today db)
    (hcompletions : Server.CompletionsSound today db) :
    (∀ t ∈ ts, Sourced db today.month t ∧ t.1.month ≤ today.month ∧
      db.isClosed t.1.month = false) ∧
    ∀ s, db.isClosed s.month = false → (s.key = .excess m ∨ s.key = .complete m) →
      Covered db.movements db today.month ts s := by
  unfold expectationTargets at h
  simp only [Except.bind_eq_ok, Except.fromOption_eq_ok, Except.pure_eq_ok] at h
  obtain ⟨row, hrow, receipts, hreceipts, wanted, hwanted, settlement, hsettlement, rfl⟩ := h
  rw [excessWanted, Except.map_eq_ok] at hwanted
  obtain ⟨acc, hacc, rfl⟩ := hwanted
  obtain ⟨hsum, hmonths⟩ := excessSteps_ok hacc
  -- the map holds the recomputed excess of every month
  have hvalue : ∀ month, recompute db today.month (excessSource month m)
      = .ok (deltaAt acc.2 month) := by
    intro month
    obtain ⟨x, hx, hd⟩ := hsum month
    have h0 : deltaAt (∅ : Table Month Decimal) month = 0 := rfl
    rw [h0, zero_add] at hd
    simp only [recompute, excessSource, excessWants, hrow, and_self, if_true, Except.bind_eq_ok]
    exact ⟨receipts, hreceipts, by rw [hx, hd]⟩
  have hplan : (db.planIncome.lookup m).isSome = true := by simp [hrow]
  have hdated : ∀ month, (acc.2.lookup month).isSome = true →
      month.Calendar ∧ month ≤ today.month := by
    intro month hs
    rcases hmonths month hs with hs | ⟨r, hr, rfl⟩
    · cases hs
    · obtain ⟨id, t, ht, hd, hle⟩ := matchedReceipts_date hreceipts hr
      rw [hd]
      exact ⟨(hdates id t ht).1.1, hle⟩
  have hsettled : ∀ t, t ∈ settlement ↔ ∃ c x, row.completedMonth = some c ∧
      row.completionShortfallEur = some x ∧ t = (settlementSource c m, 0 - x) := by
    intro t
    unfold settlementTargets at hsettlement
    cases hc : row.completedMonth with
    | none => simp_all
    | some c =>
      simp only [hc, Except.bind_eq_ok, Except.fromOption_eq_ok, Except.pure_eq_ok] at hsettlement
      obtain ⟨x, hx, rfl⟩ := hsettlement
      simp [hx]
  have hbooked : ∀ month, month ∈ ((db.movements.filter fun e => e.key.key = .excess m).map
      (·.key.month)).dedup ↔ ∃ e ∈ db.movements, e.key = excessSource month m := by
    intro month
    rw [List.mem_dedup, List.mem_map]
    constructor
    · rintro ⟨e, he, rfl⟩
      obtain ⟨he, hk⟩ := List.mem_filter.1 he
      exact ⟨e, he, (hmovements e he).1.excess (of_decide_eq_true hk)⟩
    · rintro ⟨e, he, hk⟩
      exact ⟨e, List.mem_filter.2 ⟨he, by simp [hk, excessSource]⟩, by simp [hk, excessSource]⟩
  constructor
  · intro t ht
    obtain ⟨ht, hopen⟩ := List.mem_filter.1 ht
    have hopen : db.isClosed t.1.month = false := of_decide_eq_true hopen
    rw [List.mem_append, List.mem_append, List.mem_map, List.mem_map] at ht
    rcases ht with (⟨⟨month, x⟩, he, rfl⟩ | ⟨month, hg, rfl⟩) | ht
    · have hl : acc.2.lookup month = some x := AList.mem_entries_iff.1 he
      obtain ⟨hc, hle⟩ := hdated month (by simp [hl])
      refine ⟨⟨⟨hc, rfl, hplan⟩, ?_⟩, hle, hopen⟩
      rw [hvalue]
      simp [deltaAt, hl]
    · obtain ⟨hg, hnone⟩ := List.mem_filter.1 hg
      obtain ⟨e, he, hk⟩ := (hbooked month).1 hg
      obtain ⟨hsrc, hle⟩ := hmovements e he
      rw [hk] at hsrc hle
      refine ⟨⟨hsrc, ?_⟩, hle, hopen⟩
      rw [hvalue, deltaAt, Option.isNone_iff_eq_none.1 hnone]
      rfl
    · obtain ⟨c, x, hc, hx, rfl⟩ := (hsettled t).1 ht
      obtain ⟨hcal, hle, _, _⟩ := hcompletions m row hrow c hc
      refine ⟨⟨⟨hcal, rfl, row, hrow, hc⟩, ?_⟩, hle, hopen⟩
      simp [recompute, settlementSource, settlementWants, hrow, hc, hx, Except.fromOption,
        Except.map]
  · intro s hopen hkey
    have hfilter : ∀ t : Source × Decimal, t.1 = s →
        decide (db.isClosed t.1.month = false) = true := fun t ht => by simp [ht, hopen]
    rcases hkey with hkey | hkey
    · by_cases hs : s = excessSource s.month m
      · cases hl : acc.2.lookup s.month with
        | some x =>
          refine .inl (List.mem_map.2 ⟨(s, x), List.mem_filter.2 ⟨?_, hfilter _ rfl⟩, rfl⟩)
          rw [List.mem_append, List.mem_append, List.mem_map]
          exact .inl (.inl ⟨⟨s.month, x⟩, AList.mem_entries_iff.2 hl, by rw [← hs]⟩)
        | none =>
          by_cases hb : ∃ e ∈ db.movements, e.key = s
          · refine .inl (List.mem_map.2 ⟨(s, 0), List.mem_filter.2 ⟨?_, hfilter _ rfl⟩, rfl⟩)
            rw [List.mem_append, List.mem_append, List.mem_map, List.mem_map]
            rw [hs] at hb
            refine .inl (.inr ⟨s.month, List.mem_filter.2 ⟨(hbooked s.month).2 hb, ?_⟩, by rw [← hs]⟩)
            simp [hl]
          · refine .inr ⟨Journal.balance_eq_zero fun e he hk => hb ⟨e, he, hk⟩, ?_⟩
            rw [hs, hvalue, deltaAt_of_none hl]
      · refine .inr ⟨Journal.balance_eq_zero fun e he hk => hs ?_, ?_⟩
        · have := (hmovements e he).1
          rw [hk] at this
          exact this.excess hkey
        · simp only [recompute, hkey]
          rw [if_neg]
          rintro ⟨h1, h2⟩
          refine hs ?_
          obtain ⟨_, _, _, _⟩ := s
          simp_all [excessSource]
    · by_cases hs : s = settlementSource s.month m ∧ row.completedMonth = some s.month
      · obtain ⟨hs, hc⟩ := hs
        obtain ⟨x, hx⟩ := Option.isSome_iff_exists.1 (hcompletions m row hrow _ hc).2.2.2
        refine .inl (List.mem_map.2 ⟨(s, 0 - x), List.mem_filter.2 ⟨?_, hfilter _ rfl⟩, rfl⟩)
        rw [List.mem_append]
        exact .inr ((hsettled _).2 ⟨s.month, x, hc, hx, by rw [← hs]⟩)
      · refine .inr ⟨Journal.balance_eq_zero fun e he hk => hs ?_, ?_⟩
        · have := (hmovements e he).1
          rw [hk] at this
          obtain ⟨h1, p, hp, hc⟩ := this.complete hkey
          rw [hrow] at hp
          cases hp
          exact ⟨h1, hc⟩
        · simp only [recompute, hkey, settlementWants, hrow]
          split
          · rename_i hkc
            rw [if_neg]
            intro hc
            refine hs ⟨?_, hc⟩
            obtain ⟨_, _, _, _⟩ := s
            simp_all [settlementSource]
          · rfl

end BudgetLedger
