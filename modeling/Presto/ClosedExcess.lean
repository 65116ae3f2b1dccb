import Presto.Excess
import Presto.Lib.Sorted

/-!
# Excess of months that are over

The receipts of an expectation are walked in the order of their dates, so the excess of a month
depends on the receipts of that month and those before it, and on the terms of the expectation. Later
receipts do not change it; the terms of an expectation whose month is over do not change at all. What
could change the excess of a closed month is an expectation that is still open and yet counts a
receipt of the closed month. No receipt is recorded for a later month; one can only be found under the
id of a new entry (`Revives`).
-/

namespace BudgetLedger

open Budget Server

variable {today : Date} {db db' db'' : Database} {m e current : Month}

/-! ## The receipts up to a month -/

/-- The order in which receipts are walked. -/
abbrev ReceiptOrder (a b : LedgerRow) : Prop :=
  a.effectiveDate < b.effectiveDate ∨ (a.effectiveDate = b.effectiveDate ∧ a.id ≤ b.id)

theorem receiptOrder_iff {a b : LedgerRow} :
    ReceiptOrder a b ↔ toLex (a.effectiveDate, a.id) ≤ toLex (b.effectiveDate, b.id) := by
  rw [Prod.Lex.le_iff]
  exact Iff.rfl

instance : Std.Total ReceiptOrder where
  total a b := by
    rw [receiptOrder_iff, receiptOrder_iff]
    exact le_total _ _

instance : IsTrans LedgerRow ReceiptOrder where
  trans a b c hab hbc := by
    rw [receiptOrder_iff] at *
    exact hab.trans hbc

/-- Different rows of a database are never tied. -/
theorem receiptOrder_antisymm {a b : LedgerRow} (ha : a ∈ db.rows) (hb : b ∈ db.rows)
    (hab : ReceiptOrder a b) (hba : ReceiptOrder b a) : a = b := by
  rw [receiptOrder_iff] at hab hba
  have hid : a.id = b.id := congrArg (fun x => (ofLex x).2) (le_antisymm hab hba)
  obtain ⟨t, ht, hrow⟩ := mem_rows.1 ha
  obtain ⟨t', ht', hrow'⟩ := mem_rows.1 hb
  rw [hid, ht'] at ht
  cases ht
  rw [hrow, hrow', hid]

theorem matchedRows_eq (db : Database) (e current : Month) :
    matchedRows db e current = (db.rows.filter (isMatched db e current)).insertionSort ReceiptOrder :=
  rfl

theorem mem_matchedRows {r : LedgerRow} : r ∈ matchedRows db e current ↔
    r ∈ db.rows ∧ isMatched db e current r = true := by
  rw [matchedRows_eq, List.mem_insertionSort, List.mem_filter]

/-- The receipts up to a month are the first ones of the receipts up to a later month. -/
theorem matchedRows_split (db : Database) (e : Month) (hle : m ≤ current) :
    ∃ late, matchedRows db e current = matchedRows db e m ++ late ∧ ∀ r ∈ late, m < r.month := by
  have hfilter : (db.rows.filter (isMatched db e current)).filter (fun r => r.month ≤ m) =
      db.rows.filter (isMatched db e m) := by
    rw [List.filter_filter]
    refine List.filter_congr fun r _ => ?_
    unfold isMatched
    by_cases hr : r.month ≤ m
    · simp [hr, hr.trans hle]
    · simp [hr]
  have hearly : (matchedRows db e current).filter (fun r => r.month ≤ m) = matchedRows db e m := by
    rw [matchedRows_eq, matchedRows_eq, ← hfilter]
    refine (List.insertionSort_filter _ fun a ha b hb => ?_).symm
    exact receiptOrder_antisymm (List.mem_filter.1 ha).1 (List.mem_filter.1 hb).1
  have hsorted : (matchedRows db e current).Pairwise ReceiptOrder := List.pairwise_insertionSort _ _
  refine ⟨(matchedRows db e current).filter fun r => !decide (r.month ≤ m), ?_, fun r hr => ?_⟩
  · rw [← hearly]
    refine (hsorted.filter_append fun a b hab hb => ?_).symm
    rw [decide_eq_true_eq] at hb ⊢
    refine (Date.month_mono ?_).trans hb
    rcases hab with hlt | ⟨heq, _⟩
    · exact hlt.le
    · exact heq.le
  · have hnot := (List.mem_filter.1 hr).2
    rw [Bool.not_eq_true', decide_eq_false_iff_not, not_le] at hnot
    exact hnot

theorem matchedReceipt_date {amount plannedEur : Decimal} {currency : Currency} {row : LedgerRow}
    {r : MatchedReceipt} (h : matchedReceipt db amount currency plannedEur row = .ok r) :
    r.date = row.effectiveDate := by
  simp only [matchedReceipt, Except.bind_eq_ok, Except.pure_eq_ok] at h
  obtain ⟨_, _, _, _, rfl⟩ := h
  rfl

theorem matchedReceipts_split {amount plannedEur : Decimal} {currency : Currency}
    {receipts : List MatchedReceipt} (hle : m ≤ current)
    (h : matchedReceipts db e current amount currency plannedEur = .ok receipts) :
    ∃ early late, receipts = early ++ late ∧
      matchedReceipts db e m amount currency plannedEur = .ok early ∧
      ∀ r ∈ late, m < r.date.month := by
  obtain ⟨rows, hrows, hlater⟩ := matchedRows_split db e hle
  rw [matchedReceipts, hrows, List.mapM_append] at h
  simp only [Except.bind_eq_ok, Except.pure_eq_ok] at h
  obtain ⟨early, h1, late, h2, rfl⟩ := h
  refine ⟨early, late, rfl, h1, fun r hr => ?_⟩
  obtain ⟨row, hrow, hmatched⟩ := Except.exists_of_mem_mapM h2 hr
  rw [matchedReceipt_date hmatched]
  exact hlater row hrow

theorem exists_covered (plan eur received : Decimal) : ∃ share, covered plan eur received = .ok share :=
  exists_fundingPortion _ _ _

theorem exists_monthExcess (plan eur : Decimal) (m : Month) (receipts : List MatchedReceipt) :
    ∀ received, ∃ x, monthExcess plan eur m received receipts = .ok x := by
  induction receipts with
  | nil => exact fun _ => ⟨0, rfl⟩
  | cons r receipts ih =>
    intro received
    obtain ⟨after, hafter⟩ := exists_covered plan eur (received + r.native)
    obtain ⟨before, hbefore⟩ := exists_covered plan eur received
    obtain ⟨rest, hrest⟩ := ih (received + r.native)
    simp only [monthExcess, Except.bind_eq_ok, Except.pure_eq_ok]
    exact ⟨_, after, hafter, before, hbefore, rest, hrest, rfl⟩

/-- Receipts of later months bring no excess to a month. -/
theorem monthExcess_append {plan eur : Decimal} {early late : List MatchedReceipt}
    (hlate : ∀ r ∈ late, m < r.date.month) : ∀ received,
      monthExcess plan eur m received (early ++ late) = monthExcess plan eur m received early := by
  induction early with
  | nil =>
    intro received
    obtain ⟨v, hv⟩ := exists_monthExcess plan eur m late received
    have hzero : v = 0 := by
      refine monthExcess_zero (fun r hr hpast => ?_) hv
      exact absurd hpast.2 (hlate r hr).ne'
    rw [List.nil_append, hv, hzero]
    rfl
  | cons r early ih =>
    intro received
    simp only [List.cons_append, monthExcess, ih]

/-- **The wanted excess of a month is that of the receipts up to the month.** -/
theorem recompute_upTo {x : Decimal} (hle : m ≤ current)
    (h : recompute db current (excessSource m e) = .ok x) :
    recompute db m (excessSource m e) = .ok x := by
  simp only [recompute, excessSource, excessWants, and_self, if_true] at h ⊢
  cases hrow : db.planIncome.lookup e with
  | none =>
    rw [hrow] at h
    exact h
  | some row =>
    simp only [hrow, Except.bind_eq_ok] at h ⊢
    obtain ⟨receipts, hreceipts, hx⟩ := h
    obtain ⟨early, late, rfl, hearly, hlate⟩ := matchedReceipts_split hle hreceipts
    rw [monthExcess_append hlate] at hx
    exact ⟨early, hearly, hx⟩

/-- Where the excess of one month is known, that of every month is. -/
theorem exists_recompute {k : Month} {y : Decimal}
    (h : recompute db current (excessSource k e) = .ok y) (m : Month) :
    ∃ x, recompute db current (excessSource m e) = .ok x := by
  simp only [recompute, excessSource, excessWants, and_self, if_true] at h ⊢
  cases hrow : db.planIncome.lookup e with
  | none => exact ⟨0, rfl⟩
  | some row =>
    simp only [hrow, Except.bind_eq_ok] at h ⊢
    obtain ⟨receipts, hreceipts, _⟩ := h
    obtain ⟨x, hx⟩ := exists_monthExcess row.amount row.amountEur m receipts 0
    exact ⟨x, receipts, hreceipts, hx⟩

/-- Once all receipts have come, the current month does not matter. -/
theorem recompute_all {d : Month} (hrows : ∀ r ∈ db.rows, r.kind = .income → r.month ≤ d)
    (hle : d ≤ current) : recompute db current (excessSource m e) = recompute db d (excessSource m e) := by
  have hmatched : matchedRows db e current = matchedRows db e d := by
    refine congrArg (List.insertionSort _) (List.filter_congr fun r hr => ?_)
    unfold isMatched
    by_cases hk : r.kind = .income
    · have hd := hrows r hr hk
      simp [hd, hd.trans hle]
    · simp [hk]
  simp only [recompute, excessSource, excessWants, matchedReceipts, hmatched, and_self, if_true]

/-- Without receipts there is no excess, whatever the terms. -/
theorem recompute_of_unmatched (h : matchedRows db e current = []) :
    recompute db current (excessSource m e) = .ok 0 := by
  simp only [recompute, excessSource, excessWants, matchedReceipts, h, and_self, if_true]
  cases db.planIncome.lookup e with
  | none => rfl
  | some row => rfl

theorem recompute_of_unplanned (h : db.planIncome.lookup e = none) :
    recompute db current (excessSource m e) = .ok 0 := by
  simp only [recompute, excessSource, excessWants, h, and_self, if_true]

/-! ## What the excess of a month depends on -/

/-- No receipt of the months up to `m` settles an expectation of a month after its own. -/
def OrderedThrough (db : Database) (m : Month) : Prop :=
  ∀ id t r e, db.transactions.lookup id = some t → t.kind = .income → t.month ≤ m →
    db.receipts.lookup id = some r → r.expectedMonth = some e → e ≤ t.month

/-- Two databases with the same receipts up to the month `m`, and the same terms for the expectations
of these months. -/
structure SamePast (m : Month) (db db' : Database) : Prop where
  incomes : ∀ id t, t.kind = .income → t.month ≤ m →
    (db'.transactions.lookup id = some t ↔ db.transactions.lookup id = some t)
  receipts : ∀ id t, db.transactions.lookup id = some t → t.kind = .income → t.month ≤ m →
    db'.receipts.lookup id = db.receipts.lookup id
  currencies : ∀ a, (db'.accounts.lookup a).map (·.currency) = (db.accounts.lookup a).map (·.currency)
  plans : ∀ e ≤ m, ∀ p, db.planIncome.lookup e = some p → ∃ p', db'.planIncome.lookup e = some p' ∧
    p'.amount = p.amount ∧ p'.currency = p.currency ∧ p'.amountEur = p.amountEur

namespace SamePast

theorem refl (m : Month) (db : Database) : SamePast m db db where
  incomes _ _ _ _ := Iff.rfl
  receipts _ _ _ _ _ := rfl
  currencies _ := rfl
  plans _ _ p hp := ⟨p, hp, rfl, rfl, rfl⟩

theorem trans (h : SamePast m db db') (h' : SamePast m db' db'') : SamePast m db db'' where
  incomes id t hk hle := (h'.incomes id t hk hle).trans (h.incomes id t hk hle)
  receipts id t ht hk hle :=
    (h'.receipts id t ((h.incomes id t hk hle).2 ht) hk hle).trans (h.receipts id t ht hk hle)
  currencies a := (h'.currencies a).trans (h.currencies a)
  plans e he p hp := by
    obtain ⟨p₁, hp₁, ha₁, hc₁, hm₁⟩ := h.plans e he p hp
    obtain ⟨p₂, hp₂, ha₂, hc₂, hm₂⟩ := h'.plans e he p₁ hp₁
    exact ⟨p₂, hp₂, ha₂.trans ha₁, hc₂.trans hc₁, hm₂.trans hm₁⟩

/-- Tables that agree. -/
theorem of_eq (ht : db'.transactions = db.transactions) (hr : db'.receipts = db.receipts)
    (ha : ∀ a, (db'.accounts.lookup a).map (·.currency) = (db.accounts.lookup a).map (·.currency))
    (hp : db'.planIncome = db.planIncome) : SamePast m db db' where
  incomes id t _ _ := by rw [ht]
  receipts id t _ _ _ := by rw [hr]
  currencies := ha
  plans e _ p hpe := ⟨p, by rw [hp, hpe], rfl, rfl, rfl⟩

theorem orderedThrough (h : SamePast m db db') (hord : OrderedThrough db m) :
    OrderedThrough db' m := by
  intro id t r e ht hk hle hr he
  have ht' := (h.incomes id t hk hle).1 ht
  rw [h.receipts id t ht' hk hle] at hr
  exact hord id t r e ht' hk hle hr he

variable (h : SamePast m db db')
include h

theorem isMatched_iff {r : LedgerRow} : r ∈ db'.rows ∧ isMatched db' e m r = true ↔
    r ∈ db.rows ∧ isMatched db e m r = true := by
  have hsome : ∀ a, (db'.accounts.lookup a).isSome = (db.accounts.lookup a).isSome := by
    intro a
    have hc := congrArg Option.isSome (h.currencies a)
    rwa [Option.isSome_map, Option.isSome_map] at hc
  by_cases hcounts : r.kind = .income ∧ r.month ≤ m
  · obtain ⟨hk, hle⟩ := hcounts
    have hrow : ∀ t, db.transactions.lookup r.id = some t → r = t.row r.id →
        isMatched db' e m r = isMatched db e m r := by
      intro t ht hrow
      have hkt : t.kind = .income := by
        rw [hrow] at hk
        exact hk
      have hmt : t.month ≤ m := by
        rw [hrow] at hle
        exact hle
      unfold isMatched
      simp only [hsome, h.receipts r.id t ht hkt hmt]
    rw [mem_rows, mem_rows]
    constructor
    · rintro ⟨⟨t, ht, he⟩, hmatched⟩
      have ht' := (h.incomes r.id t (by rw [he] at hk; exact hk) (by rw [he] at hle; exact hle)).1 ht
      exact ⟨⟨t, ht', he⟩, hrow t ht' he ▸ hmatched⟩
    · rintro ⟨⟨t, ht, he⟩, hmatched⟩
      have ht' := (h.incomes r.id t (by rw [he] at hk; exact hk) (by rw [he] at hle; exact hle)).2 ht
      exact ⟨⟨t, ht', he⟩, (hrow t ht he).symm ▸ hmatched⟩
  · have hnot : ∀ x, isMatched x e m r = false := by
      intro x
      refine Bool.eq_false_iff.2 fun hm => hcounts ?_
      simp only [isMatched, Bool.and_eq_true, decide_eq_true_eq] at hm
      exact hm.1.1
    simp [hnot]

theorem matchedRows_eq : matchedRows db' e m = matchedRows db e m := by
  have hnodup : ∀ x : Database, (x.rows.filter (isMatched x e m)).Nodup := fun x =>
    ((rows_nodup x).of_map _).filter _
  have hperm : (db'.rows.filter (isMatched db' e m)).Perm (db.rows.filter (isMatched db e m)) := by
    refine (List.perm_ext_iff_of_nodup (hnodup db') (hnodup db)).2 fun r => ?_
    rw [List.mem_filter, List.mem_filter]
    exact h.isMatched_iff
  rw [BudgetLedger.matchedRows_eq, BudgetLedger.matchedRows_eq]
  refine hperm.insertionSort_eq fun a ha b hb => ?_
  exact receiptOrder_antisymm (List.mem_filter.1 ha).1 (List.mem_filter.1 hb).1

theorem matchedReceipts_eq (amount plannedEur : Decimal) (currency : Currency) :
    matchedReceipts db' e m amount currency plannedEur =
      matchedReceipts db e m amount currency plannedEur := by
  unfold matchedReceipts
  rw [h.matchedRows_eq]
  refine Except.mapM_congr fun r hr => ?_
  obtain ⟨hrow, hmatched⟩ := mem_matchedRows.1 hr
  obtain ⟨t, ht, he⟩ := mem_rows.1 hrow
  have hcounts := hmatched
  simp only [isMatched, Bool.and_eq_true, decide_eq_true_eq] at hcounts
  have hreceipt : db'.receipts.lookup r.id = db.receipts.lookup r.id := by
    refine h.receipts r.id t ht ?_ ?_
    · rw [he] at hcounts
      exact hcounts.1.1.1
    · rw [he] at hcounts
      exact hcounts.1.1.2
  have hcurrency : (r.toAccountId.bind db'.accounts.lookup).bind (·.currency) =
      (r.toAccountId.bind db.accounts.lookup).bind (·.currency) := by
    cases r.toAccountId with
    | none => rfl
    | some a =>
      have hc := congrArg (fun o => o.bind id) (h.currencies a)
      simp only [Option.bind_map] at hc
      exact hc
  simp only [matchedReceipt, receiptNative, hreceipt, hcurrency]

/-- **The wanted excess of the month is the same.** -/
theorem recompute_eq (hord : OrderedThrough db m) (hreceipts : ReceiptsSound db) :
    recompute db' m (excessSource m e) = recompute db m (excessSource m e) := by
  cases hrows : matchedRows db e m with
  | nil => rw [recompute_of_unmatched hrows, recompute_of_unmatched (h.matchedRows_eq.trans hrows)]
  | cons r rows =>
    obtain ⟨hrow, hmatched⟩ := mem_matchedRows.1 (hrows ▸ List.mem_cons_self : r ∈ matchedRows db e m)
    obtain ⟨t, ht, he⟩ := mem_rows.1 hrow
    simp only [isMatched, Bool.and_eq_true, Option.any_eq_true_iff_get, decide_eq_true_eq] at hmatched
    obtain ⟨⟨⟨hk, hle⟩, _⟩, hsome, hexpected, _⟩ := hmatched
    have hreceipt : db.receipts.lookup r.id = some ((db.receipts.lookup r.id).get hsome) := by
      rw [Option.some_get]
    rw [he] at hk hle
    have hmonth : e ≤ m := (hord r.id t _ e ht hk hle hreceipt hexpected).trans hle
    obtain ⟨p, hp⟩ := Option.isSome_iff_exists.1 ((hreceipts _ _ hreceipt).2 e hexpected)
    obtain ⟨p', hp', ha, hc, hm⟩ := h.plans e hmonth p hp
    simp only [recompute, excessSource, excessWants, and_self, if_true, h.matchedReceipts_eq, hp, hp',
      ha, hc, hm]

end SamePast

end BudgetLedger

namespace Server

open Budget BudgetLedger

variable {today : Date} {db db' : Database} {call : Call} {response : Response} {m : Month}

/-! ## Closed months -/

/-- The excess recorded in a month is the one its receipts ask for. -/
structure ExcessSettled (db : Database) (m : Month) : Prop where
  ordered : OrderedThrough db m
  excess : ∀ e, recompute db m (excessSource m e) =
    .ok (Journal.balance db.movements (excessSource m e))

theorem ExcessSettled.mono (h : ExcessSettled db m) (hs : SamePast m db db')
    (hreceipts : ReceiptsSound db) (hb : ∀ e, Journal.balance db'.movements (excessSource m e) =
      Journal.balance db.movements (excessSource m e)) : ExcessSettled db' m where
  ordered := hs.orderedThrough h.ordered
  excess e := by
    rw [hs.recompute_eq h.ordered hreceipts, hb]
    exact h.excess e

/-- An open month comes after every closed one. -/
theorem IsOpen.after_closed {k : Month} (h : IsOpen db today k) (hsound : ClosuresSound today db)
    (hm : db.isClosed m = true) : m < k := by
  obtain ⟨_, _, f, hf, _, hbefore⟩ := hsound m hm
  obtain ⟨f', hf', hle⟩ := h.first
  rw [hf, Option.some.injEq] at hf'
  refine not_le.1 fun hkm => ?_
  have hclosed : db.isClosed k = true := by
    rcases hkm.eq_or_lt with rfl | hlt
    · exact hm
    · exact hbefore k h.calendar (hf' ▸ hle) hlt
  rw [h.notClosed] at hclosed
  cases hclosed

/-- Nothing is booked in a closed month. -/
theorem Extends.balance_closed (h : Extends db db') {s : Source}
    (hclosed : db.isClosed s.month = true) :
    Journal.balance db'.movements s = Journal.balance db.movements s := by
  obtain ⟨new, hnew, hopen⟩ := h.movements
  rw [hnew, Journal.balance_append, add_eq_left]
  refine Journal.balance_eq_zero fun x hx hkey => ?_
  have hx := hopen x hx
  rw [hkey, hclosed] at hx
  cases hx

theorem Extends.currency (h : Extends db db') (a : AccountId) :
    (db'.accounts.lookup a).map (·.currency) = (db.accounts.lookup a).map (·.currency) := by
  have hprofile := congrArg (Option.map AccountProfile.currency) (h.accounts a)
  rwa [Option.map_map, Option.map_map] at hprofile

/-- Writing a transaction of a later month. -/
theorem SamePast.transactions {id : TransactionId} {T : Table TransactionId Transaction}
    (hothers : ∀ id', id' ≠ id → T.lookup id' = db.transactions.lookup id')
    (hold : ∀ t, db.transactions.lookup id = some t → t.kind = .income → m < t.month)
    (hnew : ∀ t, T.lookup id = some t → t.kind = .income → m < t.month) :
    SamePast m db { db with transactions := T } where
  incomes id' t hk hle := by
    by_cases he : id' = id
    · subst he
      exact iff_of_false (fun ht => absurd (hnew t ht hk) (not_lt.2 hle))
        fun ht => absurd (hold t ht hk) (not_lt.2 hle)
    · exact iff_of_eq (congrArg (· = some t) (hothers id' he))
  receipts _ _ _ _ _ := rfl
  currencies _ := rfl
  plans _ _ p hp := ⟨p, hp, rfl, rfl, rfl⟩

/-- Writing the receipt of a transaction of a later month. -/
theorem SamePast.receiptOf {id : TransactionId} {R : Table TransactionId IncomeReceipt}
    (hothers : ∀ id', id' ≠ id → R.lookup id' = db.receipts.lookup id')
    (hlater : ∀ t, db.transactions.lookup id = some t → t.kind = .income → m < t.month) :
    SamePast m db { db with receipts := R } where
  incomes _ _ _ _ := Iff.rfl
  receipts id' t ht hk hle := by
    refine hothers id' fun he => ?_
    subst he
    exact absurd (hlater t ht hk) (not_lt.2 hle)
  currencies _ := rfl
  plans _ _ p hp := ⟨p, hp, rfl, rfl, rfl⟩

/-- Adding an expectation, or changing one without touching its terms, or one of a later month. -/
theorem SamePast.plan {e : Month} {p : PlanIncome}
    (h : ∀ q, db.planIncome.lookup e = some q → m < e ∨
      (p.amount = q.amount ∧ p.currency = q.currency ∧ p.amountEur = q.amountEur)) :
    SamePast m db { db with planIncome := db.planIncome.insert e p } where
  incomes _ _ _ _ := Iff.rfl
  receipts _ _ _ _ _ := rfl
  currencies _ := rfl
  plans e' he' q hq := by
    by_cases he : e' = e
    · subst he
      rcases h q hq with hlt | hsame
      · exact absurd hlt (not_lt.2 he')
      · exact ⟨p, AList.lookup_insert _, hsame⟩
    · exact ⟨q, (AList.lookup_insert_ne he).trans hq, rfl, rfl, rfl⟩

/-- A change after the activation keeps the receipts of a closed month. -/
theorem Change.samePast (h : Change today db db') (hsound : Sound today db)
    (hm : db.isClosed m = true) (hstart : db.start.isSome = true) : SamePast m db db' := by
  have hcurrency := h.toExtends.currency
  have hpast : m < today.month := (hsound.closures m hm).2.1
  cases h with
  | ensurePlan _ _ _ hnew _ =>
    refine SamePast.plan fun q hq => ?_
    rw [hnew] at hq
    cases hq
  | @insertTransaction id t operation hnew hopen _ _ =>
    have hlater := hopen.after_closed hsound.closures hm
    have hwritten : SamePast m db { db with transactions := db.transactions.insert id t } := by
      refine SamePast.transactions (fun id' he => AList.lookup_insert_ne he) (fun o ho _ => ?_)
        fun o ho _ => ?_
      · rw [hnew] at ho
        cases ho
      · rw [AList.lookup_insert, Option.some.injEq] at ho
        exact ho ▸ hlater
    exact hwritten.trans (.of_eq rfl rfl (fun _ => rfl) rfl)
  | @updateTransaction id old t hold _ _ hmonth hopen _ _ =>
    have hlater := hopen.after_closed hsound.closures hm
    refine SamePast.transactions (fun id' he => AList.lookup_insert_ne he) (fun o ho _ => ?_)
      fun o ho _ => ?_
    · rw [hold, Option.some.injEq] at ho
      rw [← ho, ← hmonth]
      exact hlater
    · rw [AList.lookup_insert, Option.some.injEq] at ho
      exact ho ▸ hlater
  | @eraseTransaction id old hold _ _ hopen =>
    have hlater := hopen.after_closed hsound.closures hm
    have hwritten : SamePast m db { db with transactions := db.transactions.erase id } := by
      refine SamePast.transactions (fun id' he => AList.lookup_erase_ne he) (fun o ho _ => ?_)
        fun o ho _ => ?_
      · rw [hold, Option.some.injEq] at ho
        exact ho ▸ hlater
      · rw [AList.lookup_erase] at ho
        cases ho
    exact hwritten.trans (.of_eq rfl rfl (fun _ => rfl) rfl)
  | @adjust id old t _ _ _ _ hold hkind hsame _ _ _ _ _ _ =>
    -- an adjustment is no income
    have hwritten : SamePast m db { db with transactions := db.transactions.insert id t } := by
      refine SamePast.transactions (fun id' he => AList.lookup_insert_ne he) (fun o ho hk => ?_)
        fun o ho hk => ?_
      · rw [(hsame o (hold.symm.trans ho)).1] at hk
        cases hk
      · rw [AList.lookup_insert, Option.some.injEq] at ho
        rw [← ho, hkind] at hk
        cases hk
    exact hwritten.trans (.of_eq rfl rfl hcurrency rfl)
  | setReceipt ht _ hopen _ _ _ =>
    refine SamePast.receiptOf (fun id' he => AList.lookup_insert_ne he) fun t' ht' _ => ?_
    rw [ht, Option.some.injEq] at ht'
    exact ht' ▸ hopen.after_closed hsound.closures hm
  | dropReceipt ht _ hopen _ _ =>
    refine SamePast.receiptOf (fun id' he => AList.lookup_erase_ne he) fun t' ht' _ => ?_
    rw [ht, Option.some.injEq] at ht'
    exact ht' ▸ hopen.after_closed hsound.closures hm
  | refreshPlan _ hfuture _ _ _ => exact SamePast.plan fun _ _ => .inl (hpast.trans_le hfuture)
  | completePlan _ hp _ _ _ _ =>
    refine SamePast.plan fun q hq => .inr ?_
    rw [hp, Option.some.injEq] at hq
    exact hq ▸ ⟨rfl, rfl, rfl⟩
  | startLedger hnone _ _ _ _ _ =>
    rw [Database.start, hnone] at hstart
    cases hstart
  | _ => exact .of_eq rfl rfl hcurrency rfl

/-- Nothing is expected for a month that has no expectation. -/
theorem balance_unplanned (hsound : MovementsSound today db) {e : Month}
    (h : db.planIncome.lookup e = none) : Journal.balance db.movements (excessSource m e) = 0 := by
  refine Journal.balance_eq_zero fun x hx hkey => ?_
  have hsource := (hsound x hx).1
  rw [hkey] at hsource
  obtain ⟨_, _, hplanned⟩ := hsource
  rw [h] at hplanned
  cases hplanned

theorem unplanned_inactive (hsound : PlansSound today db) (hstart : db.start = none) (e : Month) :
    db.planIncome.lookup e = none := by
  cases hp : db.planIncome.lookup e with
  | none => rfl
  | some p =>
    obtain ⟨_, s, hs, _⟩ := hsound e (by rw [hp]; rfl)
    rw [hstart] at hs
    cases hs

/-- Before the activation there are neither expectations nor receipts. -/
theorem excessSettled_inactive (hsound : Sound today db) (hstart : db.start = none) (m : Month) :
    ExcessSettled db m where
  ordered id t r e _ _ _ hr _ := by
    have hsome := (hsound.receipts id r hr).1
    rw [hstart] at hsome
    cases hsome
  excess e := by
    have hnone := unplanned_inactive hsound.plans hstart e
    rw [recompute_of_unplanned hnone, balance_unplanned hsound.movements hnone]

/-- **No change unsettles a closed month.** -/
theorem Change.excessSettled (h : Change today db db') (hsound : Sound today db)
    (hm : db.isClosed m = true) (hI : ExcessSettled db m) : ExcessSettled db' m := by
  have hb : ∀ e, Journal.balance db'.movements (excessSource m e) =
      Journal.balance db.movements (excessSource m e) := fun e => h.toExtends.balance_closed hm
  cases hstart : db.start with
  | some s => exact hI.mono (h.samePast hsound hm (by rw [hstart]; rfl)) hsound.receipts hb
  | none =>
    by_cases hstart' : db'.start = none
    · exact excessSettled_inactive (h.sound hsound) hstart' m
    have hpast : m < today.month := (hsound.closures m hm).2.1
    cases h with
    | @startLedger receipts eur opening _ _ _ hreceipts _ hplan =>
      -- the receipts of the activation month are the only ones that count
      have hcount : ∀ {id t r e}, db.transactions.lookup id = some t → t.kind = .income →
          receipts.lookup id = some r → r.expectedMonth = some e → e = today.month ∧ t.month = e := by
        intro id t r e ht hk hr he
        rw [hreceipts, ht] at hr
        simp only [hk, if_true, Option.some.injEq] at hr
        subst hr
        simp only at he
        split at he
        · rename_i hmonth
          cases he
          exact ⟨rfl, hmonth⟩
        · cases he
      refine ⟨fun id t r e ht hk _ hr he => (hcount ht hk hr he).2.ge, fun e => ?_⟩
      rw [hb e, balance_unplanned hsound.movements (unplanned_inactive hsound.plans hstart e)]
      refine recompute_of_unmatched (List.eq_nil_iff_forall_not_mem.2 fun r hr => ?_)
      obtain ⟨hrow, hmatched⟩ := mem_matchedRows.1 hr
      obtain ⟨t, ht, he⟩ := mem_rows.1 hrow
      simp only [isMatched, Bool.and_eq_true, Option.any_eq_true_iff_get, decide_eq_true_eq] at hmatched
      obtain ⟨⟨⟨hk, hle⟩, _⟩, hsome, hexpected, _⟩ := hmatched
      rw [he] at hk hle
      obtain ⟨rfl, hmonth⟩ := hcount ht hk (Option.some_get hsome).symm hexpected
      have hlater : m < t.month := hpast.trans_eq hmonth.symm
      exact absurd hle (not_le.2 hlater)
    | _ => exact absurd hstart hstart'

theorem Changes.excessSettled (h : Changes today db db') (hsound : Sound today db)
    (hm : db.isClosed m = true) (hI : ExcessSettled db m) : ExcessSettled db' m := by
  induction h with
  | refl => exact hI
  | tail hc hstep ih =>
    exact hstep.excessSettled (Changes.sound hc hsound) ((Changes.toExtends hc).isClosed hm) ih

/-! ## Receipts of later months -/

/-- The receipt of a row settles no expectation of a month after the row's. -/
def OrderedAt (db : Database) (id : TransactionId) : Prop :=
  ∀ t r e, db.transactions.lookup id = some t → t.kind ≠ .reconciliation →
    db.receipts.lookup id = some r → r.expectedMonth = some e → e ≤ t.month

def ReceiptsOrdered (db : Database) : Prop := ∀ id, OrderedAt db id

theorem ReceiptsOrdered.through (h : ReceiptsOrdered db) (m : Month) : OrderedThrough db m :=
  fun id t r e ht hk _ hr he => h id t r e ht (by rw [hk]; decide) hr he

/-- A new entry without income options, accepted for the first time, takes over the receipt that a
deleted one has left, which settles an expectation of a month after the entry's. -/
def Revives (db : Database) (call : Call) : Prop :=
  match call.request with
  | .create p => (p.incomeTreatment = none ∧ p.expectedIncomeMonth = none ∧
    db.operations.lookup p.operationId = none ∧
    (db.receipts.lookup p.transactionId).any fun r =>
      (p.kind = .income ∨ r.treatment = .legacy) ∧ r.expectedMonth.any (p.date.month < ·)) ∧
    (handle db call).isOk = true
  | _ => False

instance (db : Database) (call : Call) : Decidable (Revives db call) := match call with
  | ⟨_, _, .create _⟩ => inferInstanceAs (Decidable ((_ ∧ _ ∧ _ ∧ _) ∧ _))
  | ⟨_, _, .edit _⟩ | ⟨_, _, .delete _⟩ | ⟨_, _, .reconcile _⟩ | ⟨_, _, .correct _⟩ | ⟨_, _, .complete _⟩
  | ⟨_, _, .close _⟩ | ⟨_, _, .createCategory _⟩ | ⟨_, _, .cancelBudget _⟩ | ⟨_, _, .saveBudget _⟩
  | ⟨_, _, .saveExpectedIncome _⟩ | ⟨_, _, .refresh⟩ | ⟨_, _, .startup⟩ => inferInstanceAs (Decidable False)

/-- Receipts stay in order where no row is new. -/
theorem ReceiptsOrdered.of_eq (h : ReceiptsOrdered db) (hr : db'.receipts = db.receipts)
    (ht : ∀ id t, db'.transactions.lookup id = some t → t.kind ≠ .reconciliation →
      db.transactions.lookup id = some t) : ReceiptsOrdered db' := by
  intro id t r e hid hk hrow he
  rw [hr] at hrow
  exact h id t r e (ht id t hid hk) hk hrow he

theorem ReceiptsOrdered.same (h : ReceiptsOrdered db) (hr : db'.receipts = db.receipts)
    (ht : db'.transactions = db.transactions) : ReceiptsOrdered db' :=
  h.of_eq hr fun _ _ hid _ => ht ▸ hid

theorem ReceiptsOrdered.sync (h : ReceiptsOrdered db) {operation : Option OperationId}
    (hs : sync db today operation = .ok db') : ReceiptsOrdered db' := by
  obtain ⟨P, M, hdb⟩ := sync_frame hs
  exact h.same (by rw [hdb]) (by rw [hdb])

/-- What `receipt` records is in order; what it keeps has to be so before. -/
theorem ReceiptWritten.ordered {id : TransactionId} {treatment : Option Treatment}
    {expected : Option Month} (h : ReceiptWritten db id treatment expected db')
    (hreceipts : ReceiptsSound db) (hothers : ∀ id', id' ≠ id → OrderedAt db id')
    (hkept : treatment = Option.none → expected = Option.none → ∀ t r e,
      db.transactions.lookup id = some t → db.receipts.lookup id = some r →
      (t.kind = .income ∨ r.treatment = .legacy) → r.expectedMonth = some e → e ≤ t.month) :
    ReceiptsOrdered db' := by
  obtain ⟨P, R, hframe⟩ := h.frame
  have hsame : ∀ {id'}, db'.receipts.lookup id' = db.receipts.lookup id' → OrderedAt db id' →
      OrderedAt db' id' := by
    intro id' hreceipt hord t r e ht hk hr he
    rw [hframe] at ht
    rw [hreceipt] at hr
    exact hord t r e ht hk hr he
  intro id'
  by_cases he : id' = id
  · subst he
    cases h with
    | inactive hstart =>
      intro t r e _ _ hr _
      have hsome := (hreceipts _ r hr).1
      rw [hstart] at hsome
      cases hsome
    | dropped _ _ _ _ _ _ =>
      intro t r e _ _ hr _
      rw [AList.lookup_erase] at hr
      cases hr
    | none _ _ _ hoptions hlegacy =>
      exact fun t r e ht _ hr => hkept hoptions.1 hoptions.2 t r e ht hr (.inr (hlegacy r hr))
    | kept _ ht hkind hoptions _ =>
      intro t r e ht' _ hr
      rw [ht, Option.some.injEq] at ht'
      exact hkept hoptions.1 hoptions.2 t r e (ht' ▸ ht) hr (.inl (ht' ▸ hkind))
    | salary _ ht _ _ _ hle _ hensure _ _ =>
      intro t r e ht' _ hr hexpected
      obtain ⟨P', rfl, _, _, _⟩ := ensureIncome_ok hensure
      rw [AList.lookup_insert, Option.some.injEq] at hr
      subst hr
      obtain rfl := Option.some.inj hexpected
      obtain rfl := Option.some.inj (ht.symm.trans ht')
      exact hle
    | other _ _ _ _ _ _ =>
      intro t r e _ _ hr hexpected
      rw [AList.lookup_insert, Option.some.injEq] at hr
      subst hr
      cases hexpected
  · cases h with
    | dropped _ _ _ _ _ _ => exact hsame (AList.lookup_erase_ne he) (hothers id' he)
    | salary _ _ _ _ _ _ _ hensure _ _ =>
      obtain ⟨P', rfl, _, _, _⟩ := ensureIncome_ok hensure
      exact hsame (AList.lookup_insert_ne he) (hothers id' he)
    | other _ _ _ _ _ _ => exact hsame (AList.lookup_insert_ne he) (hothers id' he)
    | _ => exact hsame rfl (hothers id' he)

/-- **Only a revived receipt settles an expectation of a month after its own.** -/
theorem keptBy_receiptsOrdered (hsound : Sound call.clock.today db)
    (hok : (handle db call).isOk = true) (hnot : ¬ Revives db call)
    (ho : ReceiptsOrdered db) : KeptBy db call ReceiptsOrdered where
  budget _ _ _ h := h.same rfl rfl
  log _ _ h := h.same rfl rfl
  sync hs h := h.sync hs
  created {p w _ _ _ _ r v occurredAt _ _} hrequest hn hinit hfresh hc h := by
    obtain ⟨toAmount, toCategoryId, hw⟩ := normalize_ok hn
    obtain ⟨O, rfl⟩ := initializeOpenings_frame hinit
    obtain ⟨_, A, hA⟩ := postDeltas_changes hc.posted
    refine hc.receipt.ordered ?_ (fun id' he => ?_) fun htreatment hexpected t rec e ht hr hkept he => ?_
    · rw [hA]
      exact hsound.receipts
    · rw [hA]
      intro t rec e ht hk hr he'
      exact h id' t rec e ((AList.lookup_insert_ne he).symm.trans ht) hk hr he'
    · -- otherwise the entry revives the receipt
      rw [hA] at ht hr
      replace ht := (AList.lookup_insert _).symm.trans ht
      rw [Option.some.injEq] at ht
      subst ht
      refine not_lt.1 fun hlt => hnot ?_
      rw [Revives, hrequest]
      subst hw
      refine ⟨⟨htreatment, hexpected, hfresh, (Option.any_eq_true _ _).2 ⟨rec, hr, ?_⟩⟩, hok⟩
      exact decide_eq_true ⟨hkept, (Option.any_eq_true _ _).2 ⟨e, he, decide_eq_true hlt⟩⟩
  edited {p payload old _ _ _ _ _ _ _ _ _ _ _ _} _ hn hinit he h := by
    obtain ⟨O, rfl⟩ := initializeOpenings_frame hinit
    obtain ⟨_, A, hA⟩ := postDeltas_changes he.posted
    refine he.receipt.ordered ?_ (fun id' hid => ?_) fun _ _ t rec e ht hr _ hexpected => ?_
    · rw [hA]
      exact hsound.receipts
    · rw [hA]
      intro t rec e ht hk hr he'
      exact h id' t rec e ((AList.lookup_insert_ne hid).symm.trans ht) hk hr he'
    · -- an edit stays in its month
      rw [hA] at ht hr
      replace ht := (AList.lookup_insert _).symm.trans ht
      rw [Option.some.injEq] at ht
      subst ht
      exact (ho _ old rec e he.found he.kind hr hexpected).trans_eq he.month
  deleted {payload _ _ db _ _ _ _} _ _ hd h := by
    obtain ⟨_, A, hA⟩ := postDeltas_changes hd.posted
    refine h.of_eq (by rw [hA]; rfl) fun id t ht _ => ?_
    rw [hA] at ht
    replace ht : (db.transactions.erase payload.transactionId).lookup id = some t := ht
    rw [AList.lookup_erase_of] at ht
    split at ht
    · cases ht
    · exact ht
  reconciled hdate hb h := by
    obtain ⟨T, R, A, B, hdb⟩ := reconcileBody_frame hb hdate
    have hsame := reconcileBody_sameFacts call.clock.today.month hb
    exact h.of_eq (by rw [hdb]) fun id t ht hk => (hsame.lookup id t hk).1 ht
  corrected _ _ h := h.same rfl rfl
  completed _ _ _ _ h := h.same rfl rfl
  closed _ _ hclosed h := by
    have hdb := hclosed.result
    exact h.same (by rw [hdb]; rfl) (by rw [hdb]; rfl)
  incomes _ _ _ h := h.same rfl rfl
  activated {db _ _ _ _ _ _ _} _ ha h := by
    -- the incomes of the month are matched to it
    intro id t r e ht hk hr he
    change db.transactions.lookup id = some t at ht
    change (legacyReceipts db call.clock.today.month).lookup id = some r at hr
    rw [lookup_legacyReceipts, ht] at hr
    by_cases hkind : t.kind = .income
    · simp only [hkind, if_true, Option.some.injEq] at hr
      subst hr
      simp only at he
      split at he
      · rename_i hmonth
        cases he
        exact hmonth.ge
      · cases he
    · simp only [hkind, if_false] at hr
      exact h id t r e ht hk hr he

/-- A month is closed by nothing but its close. -/
theorem keptBy_closures (db : Database) (call : Call) : KeptBy db call fun x =>
    ∀ m, x.isClosed m = true → db.isClosed m = true ∨ ∃ p, call.request = .close p ∧ p.month = m where
  budget _ _ _ h := h
  log _ _ h := h
  sync hs h := by
    obtain ⟨P, M, rfl⟩ := sync_frame hs
    exact h
  created _ _ _ _ hc h := by
    obtain ⟨P, R, hR⟩ := hc.receipt.frame
    obtain ⟨_, A, hA⟩ := postDeltas_changes hc.posted
    rw [hR, hA]
    exact h
  edited _ _ _ he h := by
    obtain ⟨P, R, hR⟩ := he.receipt.frame
    obtain ⟨_, A, hA⟩ := postDeltas_changes he.posted
    rw [hR, hA]
    exact h
  deleted _ _ hd h := by
    obtain ⟨_, A, hA⟩ := postDeltas_changes hd.posted
    rw [hA]
    exact h
  reconciled hdate hb h := by
    obtain ⟨T, R, A, B, rfl⟩ := reconcileBody_frame hb hdate
    exact h
  corrected _ _ h := h
  completed _ _ _ _ h := h
  closed {p _ _ _ db₁ _ cs _} hrequest _ hclosed h := by
    intro m hm
    rw [hclosed.result] at hm
    change ((db₁.closures.insert p.month ⟨p.operationId, cs⟩).lookup m).isSome = true at hm
    by_cases he : m = p.month
    · exact .inr ⟨p, hrequest, he.symm⟩
    · rw [AList.lookup_insert_ne he] at hm
      exact h m hm
  incomes _ _ _ h := h
  activated _ _ h := h

/-- A month is closed with the excess that its receipts ask for. -/
theorem ClosedBy.excess {p : CloseRequest} {clock : Clock} {batch : OperationId × Nat} {first : Month}
    {db₁ : Database} {cs : List BudgetCategorySnapshot} {cov : Option Coverage}
    (h : ClosedBy db clock p batch first db₁ cs cov db') (hsound : Sound clock.today db) (e : Month) :
    recompute db' p.month (excessSource p.month e) =
      .ok (Journal.balance db'.movements (excessSource p.month e)) := by
  have hsound₁ : Sound clock.today db₁ := (sync_changes h.synced hsound).sound hsound
  have hsame : SamePast p.month db₁ db' := by
    rw [h.result]
    exact .of_eq rfl rfl (fun _ => rfl) rfl
  have hmovements : db'.movements = db₁.movements := by
    rw [h.result]
    rfl
  have hwanted : recompute db' p.month (excessSource p.month e) =
      recompute db₁ p.month (excessSource p.month e) := by
    rw [h.result]
    rfl
  rw [hwanted, hmovements]
  by_cases hplanned : (db₁.planIncome.lookup e).isSome = true
  · have hstart : db.start.isSome = true := by
      by_contra hnone
      rw [Option.not_isSome_iff_eq_none] at hnone
      rw [sync_inactive h.synced hnone, unplanned_inactive hsound.plans hnone e] at hplanned
      cases hplanned
    exact recompute_upTo h.before.le (sync_excess h.synced hstart hsound hplanned h.isOpen)
  · rw [Option.not_isSome_iff_eq_none] at hplanned
    rw [recompute_of_unplanned hplanned, balance_unplanned hsound₁.movements hplanned]

/-! ## Runs -/

/-- Receipts are in order, and the excess of every closed month is settled. -/
structure PastSettled (db : Database) : Prop where
  ordered : ReceiptsOrdered db
  closed : ∀ m, db.isClosed m = true → ExcessSettled db m

theorem Imported.pastSettled (h : Imported today db) : PastSettled db where
  ordered id t r e _ _ hr _ := by
    rw [h.receipts] at hr
    cases hr
  closed m hm := by
    rw [Database.isClosed, h.closures] at hm
    cases hm

/-- **A call that revives no receipt keeps the past settled.** -/
theorem PastSettled.step (h : PastSettled db) (hsound : Sound call.clock.today db)
    (hnot : ¬ Revives db call) : PastSettled (Server.step db call) := by
  unfold Server.step
  split
  · rename_i db' response hh
    have hok : (handle db call).isOk = true := by
      rw [hh]
      rfl
    have hordered :=
      handle_kept (keptBy_receiptsOrdered hsound hok hnot h.ordered) hh hsound h.ordered
    refine ⟨hordered, fun m hm => ?_⟩
    rcases handle_kept (keptBy_closures db call) hh hsound (fun m hm => .inl hm) m hm with
      hold | ⟨p, hrequest, rfl⟩
    · exact (handle_changes hh hsound).excessSettled hsound hold (h.closed m hold)
    · by_cases hold : db.isClosed p.month = true
      · exact (handle_changes hh hsound).excessSettled hsound hold (h.closed _ hold)
      -- the month is closed by this call
      obtain ⟨clock, actor, request⟩ := call
      obtain rfl : request = .close p := hrequest
      refine ⟨hordered.through _, fun e => ?_⟩
      simp only [handle, closeMonth, Except.bind_eq_ok, Except.mapError_eq_ok] at hh
      obtain ⟨_, _, db₁, hinit, hh⟩ := hh
      have hsound₁ := (initializeOpenings_changes clock.today hinit).1.sound hsound
      obtain ⟨O, rfl⟩ := initializeOpenings_frame hinit
      rcases once_ok hh with ⟨_, _, _, _, _, rfl, _⟩ | ⟨_, db₂, hb, rfl⟩
      · exact absurd hm hold
      · obtain ⟨batch, first, d₁, cs, cov, hclosed, _⟩ := closeBody_ok hb hsound₁
        have hexcess := hclosed.excess hsound₁ e
        exact hexcess
  · exact h

/-- The ledger knows the receipts of all months. -/
structure Current (today : Date) (db : Database) (start d : Month) : Prop where
  calendar : d.Calendar
  le : start ≤ d
  reached : d ≤ today.month
  upToDate : UpToDateAt db start d

theorem RunWhere.pastSettled {d₀ : Date} {db₀ : Database} (himp : Imported d₀ db₀)
    (hrun : RunWhere (fun db call => ¬ Revives db call) d₀ db₀ today db) :
    PastSettled db ∧ ∀ start, db.start = some start → ∃ d, Current today db start d := by
  have key := hrun.induct (I := fun today db => Sound today db ∧ PastSettled db ∧
      ∀ start, db.start = some start → ∃ d, Current today db start d)
    ⟨himp.sound, himp.pastSettled, fun start hstart => ?_⟩ fun _ _ call _ hv hle hnot hs => ?_
  · exact key.2
  · rw [Database.start, himp.ledgerState] at hstart
    cases hstart
  · obtain ⟨hsound, hpast, hcurrent⟩ := hs
    have hl := hsound.later hv hle
    have hsound' := (step_changes call hl).sound hl
    refine ⟨hsound', hpast.step hl hnot, fun start hstart => ?_⟩
    rcases step_upToDateAt hl hstart with hnew | ⟨hold, hkept⟩
    · exact ⟨_, hv.1, (hsound'.start start hstart).2.1, le_rfl, hnew⟩
    · obtain ⟨d, hd⟩ := hcurrent start hold
      have hreached := hd.reached.trans (Date.month_mono hle)
      exact ⟨d, hd.calendar, hd.le, hreached, hkept d hreached hd.upToDate⟩

/-- **The excess recorded in a closed month is the wanted one**, with all receipts up to today. -/
theorem PastSettled.recompute_closed {today : Date} (h : PastSettled db) (hsound : Sound today db)
    (hcurrent : ∀ start, db.start = some start → ∃ d, Current today db start d)
    (hm : db.isClosed m = true) (e : Month) :
    recompute db today.month (excessSource m e) =
      .ok (Journal.balance db.movements (excessSource m e)) := by
  cases hstart : db.start with
  | none =>
    have hnone := unplanned_inactive hsound.plans hstart e
    rw [recompute_of_unplanned hnone, balance_unplanned hsound.movements hnone]
  | some start =>
    obtain ⟨d, hd⟩ := hcurrent start hstart
    have hrows : ∀ r ∈ db.rows, r.kind = .income → r.month ≤ d := fun r hr hk =>
      hd.upToDate.rows r hr (by rw [hk]; decide)
    have hpast : m ≤ today.month := (hsound.closures m hm).2.1.le
    -- the excess of `d` is known, so that of `m` is
    have hknown : recompute db d (excessSource d e) =
        .ok (Journal.balance db.movements (excessSource d e)) := by
      by_cases hopen : db.isClosed d = true
      · exact (h.closed d hopen).excess e
      · exact hd.upToDate.recomputed d hd.calendar hd.le le_rfl (Bool.eq_false_iff.2 hopen)
          (excessSource d e) rfl
    have hsettled := (h.closed m hm).excess e
    rw [recompute_all hrows hd.reached]
    rcases le_total m d with hle | hle
    · obtain ⟨x, hx⟩ := exists_recompute hknown m
      rw [hx, ← recompute_upTo hle hx]
      exact hsettled
    · rw [← recompute_all hrows hle]
      exact hsettled

/-! ## Entries -/

/-- The month of the row that a call writes, changes or removes. -/
def Request.entryMonth (db : Database) : Request → Option Month
  | .create p => some p.date.month
  | .edit p => some p.transaction.date.month
  | .delete p => (db.transactions.lookup p.transactionId).map (·.month)
  | .reconcile _ | .correct _ | .complete _ | .close _ | .createCategory _ | .cancelBudget _
  | .saveBudget _ | .saveExpectedIncome _ | .refresh | .startup => none

/-- Expectations that are added change nothing. -/
theorem SamePast.of_sync {operation : Option OperationId} (hs : sync db today operation = .ok db') :
    SamePast m db db' := by
  have hplans := sync_plans hs
  obtain ⟨P, M, rfl⟩ := sync_frame hs
  exact ⟨fun _ _ _ _ => Iff.rfl, fun _ _ _ _ _ => rfl, fun _ => rfl,
    fun e _ p hp => ⟨p, hplans e p hp, rfl, rfl, rfl⟩⟩

theorem SamePast.of_receipt {id : TransactionId} {treatment : Option Treatment}
    {expected : Option Month} (h : ReceiptWritten db id treatment expected db')
    (hlater : ∀ t, db.transactions.lookup id = some t → t.kind = .income → m < t.month) :
    SamePast m db db' := by
  cases h with
  | dropped _ _ _ _ _ _ => exact SamePast.receiptOf (fun _ he => AList.lookup_erase_ne he) hlater
  | salary _ _ _ _ _ _ _ hensure _ _ =>
    obtain ⟨P, rfl, hkept, _⟩ := ensureIncome_ok hensure
    have hplans : SamePast m db { db with planIncome := P } :=
      ⟨fun _ _ _ _ => Iff.rfl, fun _ _ _ _ _ => rfl, fun _ => rfl,
        fun e _ p hp => ⟨p, hkept e p hp, rfl, rfl, rfl⟩⟩
    exact hplans.trans (SamePast.receiptOf (fun _ he => AList.lookup_insert_ne he) hlater)
  | other _ _ _ _ _ _ => exact SamePast.receiptOf (fun _ he => AList.lookup_insert_ne he) hlater
  | _ => exact .refl m db

/-- Posting keeps the receipts. -/
theorem SamePast.of_post {deltas : List (AccountId × Decimal)} {accounts : List AccountUpdate}
    (h : postDeltas db today deltas = .ok (db', accounts)) : SamePast m db db' := by
  obtain ⟨hc, A, hA⟩ := postDeltas_changes h
  exact .of_eq (by rw [hA]) (by rw [hA]) hc.toExtends.currency (by rw [hA])

/-- A row is written in a later month, its deltas are posted, and its receipt is recorded. -/
theorem SamePast.of_write {id : TransactionId} {t : Transaction} {R : List TransactionRevision}
    {deltas : List (AccountId × Decimal)} {accounts : List AccountUpdate} {db₁ : Database}
    {treatment : Option Treatment} {expected : Option Month}
    (hold : ∀ o, db.transactions.lookup id = some o → m < o.month) (hnew : m < t.month)
    (hp : postDeltas { db with transactions := db.transactions.insert id t, revisions := R } today
      deltas = .ok (db₁, accounts))
    (hr : ReceiptWritten db₁ id treatment expected db') : SamePast m db db' := by
  have hwritten : SamePast m db { db with transactions := db.transactions.insert id t } := by
    refine SamePast.transactions (fun _ he => AList.lookup_insert_ne he) (fun o ho _ => hold o ho)
      fun o ho _ => ?_
    rw [AList.lookup_insert, Option.some.injEq] at ho
    exact ho ▸ hnew
  have hlog : SamePast m { db with transactions := db.transactions.insert id t }
      { db with transactions := db.transactions.insert id t, revisions := R } :=
    .of_eq rfl rfl (fun _ => rfl) rfl
  refine hwritten.trans (hlog.trans ((SamePast.of_post hp).trans (SamePast.of_receipt hr fun o ho _ => ?_)))
  obtain ⟨_, A, hA⟩ := postDeltas_changes hp
  rw [hA] at ho
  replace ho := (AList.lookup_insert _).symm.trans ho
  rw [Option.some.injEq] at ho
  exact ho ▸ hnew

/-- The writes of an entry keep the receipts of the months before its own. -/
theorem keptBy_samePast {k : Month} (hk : call.request.entryMonth db = some k) (hlt : m < k) :
    KeptBy db call (SamePast m db) where
  budget _ _ _ h := h.trans (.of_eq rfl rfl (fun _ => rfl) rfl)
  log _ _ h := h.trans (.of_eq rfl rfl (fun _ => rfl) rfl)
  sync hs h := h.trans (SamePast.of_sync hs)
  created {p w _ _ _ _ _ _ _ _ _} hrequest hn _ _ hc h := by
    obtain ⟨toAmount, toCategoryId, hw⟩ := normalize_ok hn
    have hmonth : m < w.date.month := by
      rw [hrequest, Request.entryMonth, Option.some.injEq] at hk
      rw [hw]
      exact hlt.trans_eq hk.symm
    refine h.trans (SamePast.of_write (fun o ho => ?_) ?_ hc.posted hc.receipt)
    · rw [hc.fresh] at ho
      cases ho
    · exact hmonth
  edited {p payload old _ _ _ _ _ _ _ _ _ _ _ _} hrequest hn _ he h := by
    obtain ⟨toAmount, toCategoryId, hw⟩ := normalize_ok hn
    have hmonth : m < payload.transaction.date.month := by
      rw [hrequest, Request.entryMonth, Option.some.injEq] at hk
      rw [hw]
      exact hlt.trans_eq hk.symm
    refine h.trans (SamePast.of_write (fun o ho => ?_) ?_ he.posted he.receipt)
    · rw [he.found, Option.some.injEq] at ho
      rw [← ho, he.month]
      exact hmonth
    · exact hmonth
  deleted {payload old _ db' db₁ _ _ _} hrequest hinit hd h := by
    obtain ⟨O, rfl⟩ := initializeOpenings_frame hinit
    have hfound : db.transactions.lookup payload.transactionId = some old := hd.found
    have hmonth : m < old.month := by
      rw [hrequest, Request.entryMonth, hfound, Option.map_some, Option.some.injEq] at hk
      exact hlt.trans_eq hk.symm
    have hposted : SamePast m db db₁ := h.trans (SamePast.of_post hd.posted)
    have herased : SamePast m db₁ { db₁ with
        transactions := db₁.transactions.erase payload.transactionId } := by
      refine SamePast.transactions (fun _ he => AList.lookup_erase_ne he) (fun t ht _ => ?_)
        fun t ht _ => ?_
      · obtain ⟨_, A, hA⟩ := postDeltas_changes hd.posted
        rw [hA] at ht
        exact Option.some.inj (hfound.symm.trans ht) ▸ hmonth
      · rw [AList.lookup_erase] at ht
        cases ht
    exact hposted.trans (herased.trans (.of_eq rfl rfl (fun _ => rfl) rfl))
  reconciled {db₁ db₂ _ _} hdate hb h := by
    have hsame := reconcileBody_sameFacts call.clock.today.month hb
    obtain ⟨T, R, A, B, rfl⟩ := reconcileBody_frame hb hdate
    refine h.trans ⟨fun id t hkind _ => hsame.lookup id t (by rw [hkind]; decide),
      fun _ _ _ _ _ => rfl, hsame.currencies, fun _ _ p hp => ⟨p, hp, rfl, rfl, rfl⟩⟩
  corrected _ _ h := h.trans (.of_eq rfl rfl (fun _ => rfl) rfl)
  completed _ _ _ hp h := by
    refine h.trans (SamePast.plan fun q hq => .inr ?_)
    rw [hp, Option.some.injEq] at hq
    exact hq ▸ ⟨rfl, rfl, rfl⟩
  closed _ _ hclosed h := by
    rw [hclosed.result]
    exact h.trans (.of_eq rfl rfl (fun _ => rfl) rfl)
  incomes hrequest _ _ _ := by
    rw [hrequest] at hk
    cases hk
  activated hrequest _ _ := by
    rw [hrequest] at hk
    cases hk

/-- **An entry does not change the excess wanted for the months before its own.** -/
theorem recompute_entry {k : Month} (h : handle db call = .ok (db', response))
    (hsound : Sound call.clock.today db) (ho : ReceiptsOrdered db)
    (hk : call.request.entryMonth db = some k) (hlt : m < k) (e : Month) :
    recompute db' m (excessSource m e) = recompute db m (excessSource m e) :=
  (handle_kept (keptBy_samePast hk hlt) h hsound (.refl m db)).recompute_eq (ho.through m)
    hsound.receipts

/-! ## What `sync` wants -/

/-- The excess over the expectation of `e` that `sync` settles, by month, with the receipts up to
`current`. -/
def wantedExcess (db : Database) (current e : Month) : Except String (Table Month Decimal) :=
  match db.planIncome.lookup e with
  | none => .ok ∅
  | some row => do
    let receipts ← matchedReceipts db e current row.amount row.currency row.amountEur
    excessWanted row.amount row.amountEur receipts

theorem recompute_wanted {current e : Month} {wanted : Table Month Decimal}
    (h : wantedExcess db current e = .ok wanted) (m : Month) :
    recompute db current (excessSource m e) = .ok (deltaAt wanted m) := by
  unfold wantedExcess at h
  cases hrow : db.planIncome.lookup e with
  | none =>
    rw [hrow, Except.ok.injEq] at h
    rw [recompute_of_unplanned hrow, ← h]
    rfl
  | some row =>
    simp only [hrow, Except.bind_eq_ok] at h
    obtain ⟨receipts, hreceipts, hwanted⟩ := h
    exact recompute_excess hrow hreceipts hwanted

theorem exists_wanted {current e : Month} {x : Decimal}
    (h : recompute db current (excessSource m e) = .ok x) :
    ∃ wanted, wantedExcess db current e = .ok wanted := by
  simp only [recompute, excessSource, excessWants, and_self, if_true] at h
  unfold wantedExcess
  cases hrow : db.planIncome.lookup e with
  | none => exact ⟨∅, rfl⟩
  | some row =>
    simp only [hrow, Except.bind_eq_ok] at h ⊢
    obtain ⟨receipts, hreceipts, _⟩ := h
    obtain ⟨wanted, hwanted⟩ := exists_excessWanted row.amount row.amountEur receipts
    exact ⟨wanted, receipts, hreceipts, hwanted⟩

/-- No call of the run revives a receipt. -/
abbrev Unrevived : Date → Database → Date → Database → Prop :=
  RunWhere fun db call => ¬ Revives db call

/-- **Excess telescopes and the past stays settled**, in every run that revives no receipt. The excess
of all months is what the receipts brought less the share of the plan they cover; an entry leaves the
excess of the months before its own as it was; and the excess recorded in a closed month is the wanted
one. -/
theorem excess_settled {d₀ : Date} {db₀ : Database} (himp : Imported d₀ db₀)
    (hrun : Unrevived d₀ db₀ today db) :
    (∀ e row receipts, db.planIncome.lookup e = some row → (∀ r ∈ receipts, r.treatment ≠ .legacy) →
      ∃ wanted portion, excessWanted row.amount row.amountEur receipts = .ok wanted ∧
        fundingPortion (min row.amount (receipts.map (·.native)).sum) row.amount row.amountEur =
          .ok portion ∧
        (wanted.total fun _ x => x) = (receipts.map (·.actualEur)).sum - portion) ∧
    (∀ call response db' k, call.clock.today.Valid → today ≤ call.clock.today →
      handle db call = .ok (db', response) → call.request.entryMonth db = some k →
      ∀ e current wanted wanted', wantedExcess db current e = .ok wanted →
        wantedExcess db' current e = .ok wanted' →
        ∀ m < k, m ≤ current → deltaAt wanted' m = deltaAt wanted m) ∧
    ∀ m, db.isClosed m = true → ∀ e, ∃ wanted, wantedExcess db today.month e = .ok wanted ∧
      Journal.balance db.movements (excessSource m e) = deltaAt wanted m := by
  have hsound := hrun.sound himp.sound
  obtain ⟨hpast, hcurrent⟩ := RunWhere.pastSettled himp hrun
  refine ⟨fun e row receipts hrow hlegacy => ?_, ?_, fun m hm e => ?_⟩
  · have hreach : Reachable today db := ⟨d₀, db₀, himp, hrun.mono fun _ _ _ => trivial⟩
    obtain ⟨wanted, hwanted⟩ := exists_excessWanted row.amount row.amountEur receipts
    obtain ⟨portion, hportion, htotal⟩ :=
      excess_telescopes (hreach.priced.plans e row hrow).1 hlegacy hwanted
    exact ⟨wanted, portion, hwanted, hportion, htotal⟩
  · intro call response db' k hv hle h hk e current wanted wanted' hwanted hwanted' m hlt hm
    have hsame := recompute_entry h (hsound.later hv hle) hpast.ordered hk hlt e
    rw [recompute_upTo hm (recompute_wanted hwanted m),
      recompute_upTo hm (recompute_wanted hwanted' m)] at hsame
    exact Except.ok.inj hsame
  · have hclosed := hpast.recompute_closed hsound hcurrent hm e
    obtain ⟨wanted, hwanted⟩ := exists_wanted hclosed
    rw [recompute_wanted hwanted m, Except.ok.injEq] at hclosed
    exact ⟨wanted, hwanted, hclosed.symm⟩

/-- 10 EUR of salary in November, deleted, and entered again in October under the same id; October is
closed, and less than before is expected from November on. -/
def revived : List Call := opened ++ [
  callOn november 2 (.saveExpectedIncome ⟨november, 5, .eur, 7, 21⟩),
  callOn november 3 (.create (earn 22 1 ⟨november, 3⟩ 10 none)),
  callOn november 4 (.delete ⟨23, 1, 1, [(1, 1)]⟩),
  callOn november 5 (.create (earn 24 1 ⟨october, 30⟩ 10 none)),
  callOn november 6 (.reconcile ⟨25, ⟨october, 31⟩, none, none, [⟨1, 1010, 30, 3⟩]⟩),
  callOn november 7 (.close ⟨26, october⟩),
  callOn november 8 (.saveExpectedIncome ⟨november, 7, .eur, 7, 27⟩)]

/-- 3005 EUR of salary in October, which is closed. -/
def surplus : List Call := opened ++ [
  callOn october 9 (.create (earn 22 1 ⟨october, 9⟩ 3005 none)),
  callOn november 6 (.reconcile ⟨25, ⟨october, 31⟩, none, none, [⟨1, 4005, 30, 1⟩]⟩),
  callOn november 7 (.close ⟨26, october⟩)]

theorem excess_settled_surplus :
    let db := run (household 1000) surplus
    ∀ e, ∃ wanted, wantedExcess db november e = .ok wanted ∧
      Journal.balance db.movements (excessSource october e) = deltaAt wanted october := by
  intro db
  have hrun : Unrevived ⟨october, 1⟩ (household 1000) ⟨november, 7⟩ db :=
    runWhere_of_chronological (.refl _ _) (by decide : Chronological _ surplus) (by decide +kernel)
  have hclosed : db.isClosed october = true := by decide +kernel
  exact (excess_settled (household_imported 1000) hrun).2.2 october hclosed

theorem excess_unsettled : ¬ ∀ (today : Date) (db : Database), Reachable today db →
    ∀ m, db.isClosed m = true → ∀ e wanted, wantedExcess db today.month e = .ok wanted →
      Journal.balance db.movements (excessSource m e) = deltaAt wanted m := by
  intro hall
  let db := run (household 1000) revived
  have hreach : Reachable ⟨november, 8⟩ db :=
    household_reachable 1000 (by decide : Chronological _ revived)
  have hclosed : db.isClosed october = true := by decide +kernel
  have hwanted : (wantedExcess db november november).toOption.any (fun wanted =>
      Journal.balance db.movements (excessSource october november) ≠ deltaAt wanted october) = true := by
    decide +kernel
  obtain ⟨wanted, hok, hne⟩ := Except.exists_ok_of_any hwanted
  exact of_decide_eq_true hne (hall _ db hreach october hclosed november wanted hok)

/-! ## Completions -/

/-- **Completions lose no cent, unless one is split.** In a run that revives no receipt, the plan, the
recorded excess and the shortfall of a completion make up the EUR value of the receipts exactly when
the covered share of the plan is no tie, or the plan has an even number of cents. -/
theorem completion_balances_iff {d₀ : Date} {db₀ : Database} {p : CompleteIncomeRequest}
    (himp : Imported d₀ db₀) (hrun : Unrevived d₀ db₀ today db) (hvalid : call.clock.today.Valid)
    (hlater : today ≤ call.clock.today) (h : handle db call = .ok (db', response))
    (hrequest : call.request = .complete p) (hnew : db.operations.lookup p.operationId = none)
    {row : PlanIncome} {receipts : List MatchedReceipt}
    (hrow : db'.planIncome.lookup p.expectedMonth = some row)
    (hreceipts : matchedReceipts db' p.expectedMonth call.clock.today.month row.amount row.currency
      row.amountEur = .ok receipts) (hlegacy : ∀ r ∈ receipts, r.treatment ≠ .legacy) :
    ∃ shortfall, response = .completed p.expectedMonth call.clock.today.month shortfall ∧
      row.completionShortfallEur = some shortfall ∧
      (row.amountEur + recordedExcess db' p.expectedMonth - shortfall =
          (receipts.map (·.actualEur)).sum ↔
        ¬ SplitsCent row (receipts.map (·.native)).sum) := by
  have hnot : ¬ Revives db call := by
    unfold Revives
    rw [hrequest]
    exact id
  have hrun' : Unrevived d₀ db₀ call.clock.today db' :=
    step_of_ok h ▸ hrun.step call hvalid hlater hnot
  have hsound := (hrun.sound himp.sound).later hvalid hlater
  have hsound' := hrun'.sound himp.sound
  have hreach' : Reachable call.clock.today db' := ⟨d₀, db₀, himp, hrun'.mono fun _ _ _ => trivial⟩
  obtain ⟨hpast, hcurrent⟩ := RunWhere.pastSettled himp hrun'
  obtain ⟨shortfall, hresponse, hrecorded, hshortfall, hexcess⟩ :=
    completeIncome_recorded hsound h hrequest hnew hrow hreceipts
  obtain ⟨wanted, hwanted⟩ := exists_excessWanted row.amount row.amountEur receipts
  have hall : ∀ m, Journal.balance db'.movements (excessSource m p.expectedMonth) = deltaAt wanted m := by
    intro m
    have hvalue : recompute db' call.clock.today.month (excessSource m p.expectedMonth) =
        .ok (Journal.balance db'.movements (excessSource m p.expectedMonth)) := by
      cases hm : db'.isClosed m with
      | false => exact hexcess m hm
      | true => exact hpast.recompute_closed hsound' hcurrent hm p.expectedMonth
    rw [recompute_excess hrow hreceipts hwanted] at hvalue
    exact (Except.ok.inj hvalue).symm
  refine ⟨shortfall, hresponse, hrecorded, ?_⟩
  rw [recordedExcess_eq hsound'.movements hall]
  exact (hreach'.priced.plans _ _ hrow).balances_iff hlegacy hwanted hshortfall

/-- The completion of the expectation of October. -/
def completeOctober : Call := callOn october 20 (.complete ⟨23, october⟩)

/-- 1005 EUR of the 3000 EUR expected. -/
def partlyPaid : List Call := opened ++ [callOn october 9 (.create (earn 22 1 ⟨october, 9⟩ 1005 none))]

theorem completion_balances_iff_october :
    let db := step (run (household 1000) partlyPaid) completeOctober
    ∃ row receipts shortfall, db.planIncome.lookup october = some row ∧
      matchedReceipts db october october row.amount row.currency row.amountEur = .ok receipts ∧
      row.completionShortfallEur = some shortfall ∧
      (row.amountEur + recordedExcess db october - shortfall = (receipts.map (·.actualEur)).sum ↔
        ¬ SplitsCent row (receipts.map (·.native)).sum) := by
  intro db
  have hrun : Unrevived ⟨october, 1⟩ (household 1000) ⟨october, 9⟩ (run (household 1000) partlyPaid) :=
    runWhere_of_chronological (.refl _ _) (by decide : Chronological _ partlyPaid) (by decide +kernel)
  obtain ⟨response, h⟩ := @exists_ok_of_step (run (household 1000) partlyPaid)
    completeOctober (by decide +kernel)
  obtain ⟨row, hrow⟩ := Option.isSome_iff_exists.1
    (by decide +kernel : (db.planIncome.lookup october).isSome = true)
  have hreceipts : ∃ receipts,
      matchedReceipts db october october row.amount row.currency row.amountEur = .ok receipts ∧
        ∀ r ∈ receipts, r.treatment ≠ .legacy := by
    have hread : ((db.planIncome.lookup october).bind fun row => (matchedReceipts db october october
        row.amount row.currency row.amountEur).toOption).any
          (·.all fun r => decide (r.treatment ≠ .legacy)) = true := by decide +kernel
    rw [hrow, Option.bind_some] at hread
    obtain ⟨receipts, hok, hlegacy⟩ := Except.exists_ok_of_any hread
    exact ⟨receipts, hok, fun r hr => of_decide_eq_true (List.all_eq_true.1 hlegacy r hr)⟩
  obtain ⟨receipts, hreceipts, hlegacy⟩ := hreceipts
  obtain ⟨shortfall, _, hrecorded, hiff⟩ := completion_balances_iff (household_imported 1000) hrun
    (by decide) (by decide) h rfl (by decide +kernel) hrow hreceipts hlegacy
  exact ⟨row, receipts, shortfall, hrow, hreceipts, hrecorded, hiff⟩

/-- 1.26 USD, worth 1.01 EUR, are expected in October, and half of it is received. -/
def halved : List Call := [
  callOn october 1 (.saveExpectedIncome ⟨october, .normalized 126 2, .usd, 7, 10⟩),
  callOn october 2 .startup,
  callOn october 9 (.create { earn 22 1 ⟨october, 9⟩ (.normalized 63 2) none with
    currency := some .usd })]

/-- The receipt of 0.63 EUR covers 0.50 EUR of the plan, the excess is 0.13 EUR, and the shortfall of
the other half is 0.50 EUR as well: 1.01 + 0.13 - 0.50 is 0.64. -/
theorem completion_loses_cent :
    let db := step (run abroad halved) completeOctober
    Reachable ⟨october, 9⟩ (run abroad halved) ∧
      (handle (run abroad halved) completeOctober).isOk = true ∧
      (db.planIncome.lookup october).map (fun row => (row.amountEur, row.completionShortfallEur)) =
        some (.normalized 101 2, some (.normalized 50 2)) ∧
      ((db.planIncome.lookup october).bind fun row => (matchedReceipts db october october row.amount
        row.currency row.amountEur).toOption).map (·.map fun r => (r.treatment, r.actualEur)) =
          some [(.salary, .normalized 63 2)] ∧
      recordedExcess db october = .normalized 13 2 ∧
      (.normalized 101 2 : Decimal) + .normalized 13 2 - .normalized 50 2 ≠ .normalized 63 2 := by
  refine ⟨?_, by decide +kernel, by decide +kernel, by decide +kernel, by decide +kernel, by decide⟩
  exact ⟨_, _, (household_imported 1000).withAccounts _ _,
    run_of_chronological (.refl _ _) (by decide : Chronological _ halved)⟩

end Server
