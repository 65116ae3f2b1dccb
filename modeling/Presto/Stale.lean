import Presto.Preview
import Presto.Lib.Sorted

/-!
# Submissions of an outdated preview

The ledger revision of an account is raised wherever its balance is posted to. What a preview shows
of an account can also change without a posting: an edit may move a transaction to another day, and a
deletion may take away one that nets to zero at the account. Without such calls every change is
caught by the revision, and an outdated submission is refused.
-/

namespace Server

open Budget BudgetLedger

variable {today : Date} {db db' : Database} {call : Call} {response : Response} {a : AccountId}

/-! ## What a preview shows -/

/-- A listed transaction, as the preview shows it. -/
structure PreviewLine where
  id : TransactionId
  date : Date
  occurredAt : Option Timestamp
  netNative : Decimal
deriving DecidableEq

/-- The line of a transaction in a preview. -/
def PreviewLine.of (i : IncludedTransaction) : PreviewLine :=
  ⟨i.id, i.date, i.occurredAt, i.netNative⟩

/-- The balances and the transactions that the preview shows of an account. -/
structure ShownAccount where
  balanceNative : Decimal
  closingBalanceNative : Decimal
  lines : List PreviewLine
deriving DecidableEq

def PreviewAccount.shown (q : PreviewAccount) : ShownAccount :=
  ⟨q.balanceNative, q.closingBalanceNative, q.transactions.map .of⟩

/-- What a preview is about: an account, a closing date and an observation. -/
structure Viewpoint where
  account : AccountId
  closingDate : Date
  observedDate : Date
  observedAt : Timestamp
deriving DecidableEq

namespace Viewpoint

variable (p : Viewpoint)

/-- A transaction of the account after the closing date. -/
def Covers (t : Transaction) : Prop :=
  p.closingDate < t.effectiveDate ∧ (t.fromAccountId = some p.account ∨ t.toAccountId = some p.account)

instance (t : Transaction) : Decidable (p.Covers t) := inferInstanceAs (Decidable (_ ∧ _))

/-- The line of a transaction, when it is listed. -/
def line (id : TransactionId) (t : Transaction) : Option PreviewLine :=
  if p.Covers t ∧ isObserved p.observedDate (some p.observedAt) t = true then
    some ⟨id, t.effectiveDate, t.occurredAt, netEffect p.account t⟩
  else none

/-- What a transaction adds after the observation. -/
def later (t : Transaction) : Decimal :=
  if p.Covers t ∧ ¬ isObserved p.observedDate (some p.observedAt) t = true then
    netEffect p.account t
  else 0

/-- The listed transactions. -/
def lines (db : Database) : List PreviewLine :=
  db.transactions.entries.filterMap fun e => p.line e.1 e.2

/-- The activity after the observation. -/
def laterTotal (db : Database) : Decimal := db.transactions.total fun _ t => p.later t

/-- Every transaction that counts has its native amounts. -/
def Valued (db : Database) : Prop :=
  ∀ id t, db.transactions.lookup id = some t → p.Covers t →
    ∃ net, netNative p.account (t.row id) = .ok net

end Viewpoint

theorem netNative_row {r : LedgerRow} {net : Decimal} (h : netNative a r = .ok net) :
    net = (if r.toAccountId = some a then r.toNative.getD 0 else 0) -
      if r.fromAccountId = some a then r.fromNative.getD 0 else 0 := by
  simp only [netNative, Except.bind_eq_ok] at h
  obtain ⟨debit, hdebit, h⟩ := h
  have hfrom : debit = 0 - if r.fromAccountId = some a then r.fromNative.getD 0 else 0 := by
    by_cases ha : r.fromAccountId = some a
    · rw [if_pos ha, Except.map_eq_ok] at hdebit
      obtain ⟨x, hx, rfl⟩ := hdebit
      rw [Except.fromOption_eq_ok] at hx
      rw [if_pos ha, hx, Option.getD_some]
    · rw [if_neg ha] at hdebit
      cases hdebit
      rw [if_neg ha, sub_zero]
  by_cases ha : r.toAccountId = some a
  · rw [if_pos ha, Except.map_eq_ok] at h
    obtain ⟨x, hx, rfl⟩ := h
    rw [Except.fromOption_eq_ok] at hx
    rw [if_pos ha, hx, Option.getD_some, hfrom]
    abel
  · rw [if_neg ha] at h
    cases h
    rw [if_neg ha, hfrom]

/-- The net amount of a row is what it adds to the account. -/
theorem netNative_ok {id : TransactionId} {t : Transaction} {net : Decimal}
    (h : netNative a (t.row id) = .ok net) : net = netEffect a t := netNative_row h

/-- The order of the listed transactions. -/
def PreviewLine.Before (x y : PreviewLine) : Prop :=
  x.date < y.date ∨ (x.date = y.date ∧ x.id ≤ y.id)

theorem PreviewLine.Before.antisymm {x y : PreviewLine} (h : x.Before y) (h' : y.Before x) :
    x.id = y.id := by
  rcases h with h | ⟨_, h⟩
  · rcases h' with h' | ⟨h', _⟩
    · exact absurd h (lt_asymm h')
    · exact absurd h' h.ne'
  · rcases h' with h' | ⟨_, h'⟩
    · rename_i heq
      exact absurd heq h'.ne'
    · exact le_antisymm h h'

instance : Std.Total ActivityOrder where
  total x y := by
    unfold ActivityOrder
    rcases lt_trichotomy x.2.effectiveDate y.2.effectiveDate with h | h | h
    · exact .inl (.inl h)
    · rcases le_total x.1 y.1 with hid | hid
      · exact .inl (.inr ⟨h, hid⟩)
      · exact .inr (.inr ⟨h.symm, hid⟩)
    · exact .inr (.inl h)

instance : IsTrans (TransactionId × Transaction) ActivityOrder where
  trans x y z h h' := by
    unfold ActivityOrder at *
    rcases h with h | ⟨h, hid⟩
    · rcases h' with h' | ⟨h', _⟩
      · exact .inl (h.trans h')
      · exact .inl (h' ▸ h)
    · rcases h' with h' | ⟨h', hid'⟩
      · exact .inl (h ▸ h')
      · exact .inr ⟨h.trans h', hid.trans hid'⟩

section Activity

variable {p : Viewpoint} {activity : Activity}

/-- What the loop over the transactions gathers. -/
theorem activitySteps_ok {rows : List (TransactionId × Transaction)} :
    ∀ {acc acc' : Activity},
      rows.foldlM (activityStep p.account p.observedDate (some p.observedAt)) acc = .ok acc' →
      (∀ e ∈ rows, p.Covers e.2) →
      acc'.transactions.map .of
        = acc.transactions.map .of ++ rows.filterMap (fun e => p.line e.1 e.2) ∧
      acc'.throughObservation = acc.throughObservation +
        ((rows.filterMap fun e => p.line e.1 e.2).map (·.netNative)).sum ∧
      acc'.afterObservation = acc.afterObservation + (rows.map fun e => p.later e.2).sum := by
  induction rows with
  | nil =>
    intro acc acc' h _
    rw [List.foldlM_nil, Except.pure_eq_ok] at h
    subst h
    simp
  | cons e rows ih =>
    intro acc acc' h hcovers
    rw [List.foldlM_cons, Except.bind_eq_ok] at h
    obtain ⟨mid, h1, h2⟩ := h
    obtain ⟨hlines, hthrough, hafter⟩ := ih h2 fun e he => hcovers e (List.mem_cons_of_mem _ he)
    have hcover := hcovers e List.mem_cons_self
    simp only [activityStep, Except.bind_eq_ok] at h1
    obtain ⟨net, hnet, h1⟩ := h1
    have hnet := netNative_ok hnet
    subst hnet
    by_cases hobserved : isObserved p.observedDate (some p.observedAt) e.2 = true
    · rw [if_pos hobserved, Except.pure_eq_ok] at h1
      subst h1
      have hline : (e :: rows).filterMap (fun e => p.line e.1 e.2)
          = ⟨e.1, e.2.effectiveDate, e.2.occurredAt, netEffect p.account e.2⟩ ::
            rows.filterMap fun e => p.line e.1 e.2 :=
        List.filterMap_cons_some (if_pos ⟨hcover, hobserved⟩)
      have hlater : p.later e.2 = 0 := if_neg fun h => h.2 hobserved
      rw [hline]
      refine ⟨?_, ?_, ?_⟩
      · rw [hlines]
        simp [PreviewLine.of]
      · rw [hthrough, List.map_cons, List.sum_cons, add_assoc]
      · rw [hafter, List.map_cons, List.sum_cons, hlater, zero_add]
    · rw [if_neg hobserved, Except.pure_eq_ok] at h1
      subst h1
      have hline : (e :: rows).filterMap (fun e => p.line e.1 e.2)
          = rows.filterMap fun e => p.line e.1 e.2 :=
        List.filterMap_cons_none (if_neg fun h => hobserved h.2)
      have hlater : p.later e.2 = netEffect p.account e.2 := if_pos ⟨hcover, hobserved⟩
      rw [hline]
      refine ⟨hlines, hthrough, ?_⟩
      rw [hafter, List.map_cons, List.sum_cons, hlater, add_assoc]

theorem mem_activityRows {e : TransactionId × Transaction} :
    e ∈ activityRows db p.account p.closingDate ↔
      db.transactions.lookup e.1 = some e.2 ∧ p.Covers e.2 := by
  rw [activityRows, List.mem_insertionSort, List.mem_map]
  constructor
  · rintro ⟨⟨id, t⟩, hin, rfl⟩
    obtain ⟨hin, hp⟩ := List.mem_filter.1 hin
    exact ⟨AList.mem_entries_iff.1 hin, of_decide_eq_true hp⟩
  · rintro ⟨hl, hcovers⟩
    exact ⟨⟨e.1, e.2⟩, List.mem_filter.2 ⟨AList.mem_entries_iff.2 hl, decide_eq_true hcovers⟩, rfl⟩

/-- The lines of the transactions that count, in the order of the loop or not. -/
theorem activityRows_lines :
    ((activityRows db p.account p.closingDate).filterMap fun e => p.line e.1 e.2).Perm
      (p.lines db) := by
  refine ((List.perm_insertionSort _ _).filterMap _).trans (List.Perm.of_eq ?_)
  rw [List.filterMap_map, List.filterMap_filter]
  refine List.filterMap_congr fun e _ => ?_
  show (if decide (p.Covers e.2) = true then p.line e.1 e.2 else none) = p.line e.1 e.2
  by_cases h : p.Covers e.2
  · rw [if_pos (decide_eq_true h)]
  · rw [if_neg (by simpa using h), Viewpoint.line, if_neg fun h' => h h'.1]

theorem activityRows_later :
    ((activityRows db p.account p.closingDate).map fun e => p.later e.2).sum = p.laterTotal db := by
  refine (((List.perm_insertionSort ActivityOrder _).map fun e => p.later e.2).sum_eq).trans ?_
  rw [List.map_map]
  refine List.sum_map_filter fun e he => ?_
  exact if_neg fun h => of_decide_eq_false he h.1

/-- What the preview makes of the transactions. -/
theorem reconciliationActivity_shown
    (h : reconciliationActivity db p.account p.closingDate p.observedDate (some p.observedAt)
      = .ok activity) :
    p.Valued db ∧ (activity.transactions.map PreviewLine.of).Perm (p.lines db) ∧
      (activity.transactions.map PreviewLine.of).Pairwise PreviewLine.Before ∧
      activity.throughObservation = ((activity.transactions.map PreviewLine.of).map (·.netNative)).sum ∧
      activity.afterObservation = p.laterTotal db := by
  have hcovers : ∀ e ∈ activityRows db p.account p.closingDate, p.Covers e.2 :=
    fun e he => (mem_activityRows.1 he).2
  obtain ⟨hlines, hthrough, hafter⟩ := activitySteps_ok h hcovers
  simp only [List.map_nil, List.nil_append, zero_add] at hlines hthrough hafter
  refine ⟨fun id t ht hcover => ?_, ?_, ?_, ?_, hafter.trans activityRows_later⟩
  · obtain ⟨s₁, s₂, hstep⟩ := Except.exists_step_of_foldlM h (id, t) (mem_activityRows.2 ⟨ht, hcover⟩)
    simp only [activityStep, Except.bind_eq_ok] at hstep
    obtain ⟨net, hnet, _⟩ := hstep
    exact ⟨net, hnet⟩
  · rw [hlines]
    exact activityRows_lines
  · rw [hlines]
    refine List.Pairwise.filterMap _ (fun x y hxy b hb b' hb' => ?_)
      (List.pairwise_insertionSort ActivityOrder _)
    simp only [Viewpoint.line, Option.ite_none_right_eq_some] at hb hb'
    obtain ⟨_, hb⟩ := hb
    obtain ⟨_, hb'⟩ := hb'
    cases hb
    cases hb'
    exact hxy
  · rw [hthrough, hlines]

/-- Where everything is valued the preview succeeds. -/
theorem exists_reconciliationActivity (h : p.Valued db) :
    ∃ activity, reconciliationActivity db p.account p.closingDate p.observedDate (some p.observedAt)
      = .ok activity := by
  refine Except.exists_foldlM_ok (fun e he acc => ?_) _
  obtain ⟨hl, hcovers⟩ := mem_activityRows.1 he
  obtain ⟨net, hnet⟩ := h e.1 e.2 hl hcovers
  unfold activityStep
  rw [hnet]
  by_cases hobserved : isObserved p.observedDate (some p.observedAt) e.2 = true
  · exact ⟨_, if_pos hobserved⟩
  · exact ⟨_, if_neg hobserved⟩

end Activity

/-! ## When a preview shows the same -/

/-- A preview of the later database shows what one of the earlier shows. -/
structure SameView (p : Viewpoint) (db db' : Database) : Prop where
  account : db'.accounts.lookup p.account = db.accounts.lookup p.account
  prior : (priorAdjustments db' p.account p.closingDate).length
    = (priorAdjustments db p.account p.closingDate).length
  lines : (p.lines db').Perm (p.lines db)
  later : p.laterTotal db' = p.laterTotal db
  valued : p.Valued db → p.Valued db'

namespace SameView

variable {p : Viewpoint} {db'' : Database}

theorem refl (p : Viewpoint) (db : Database) : SameView p db db := ⟨rfl, rfl, .refl _, rfl, id⟩

theorem trans (h : SameView p db db') (h' : SameView p db' db'') : SameView p db db'' :=
  ⟨h'.account.trans h.account, h'.prior.trans h.prior, h'.lines.trans h.lines,
    h'.later.trans h.later, h'.valued ∘ h.valued⟩

/-- Only accounts and transactions count. -/
theorem of_eq (haccounts : db'.accounts = db.accounts)
    (htransactions : db'.transactions = db.transactions) : SameView p db db' := by
  refine ⟨by rw [haccounts], ?_, ?_, ?_, fun h id t ht => h id t (htransactions ▸ ht)⟩
  · rw [priorAdjustments, priorAdjustments, htransactions]
  · rw [Viewpoint.lines, Viewpoint.lines, htransactions]
  · rw [Viewpoint.laterTotal, Viewpoint.laterTotal, htransactions]

/-- Two lines of one id are of the same transaction. -/
theorem line_unique {x y : PreviewLine} (hx : x ∈ p.lines db) (hy : y ∈ p.lines db)
    (hid : x.id = y.id) : x = y := by
  obtain ⟨⟨i, t⟩, hi, hx⟩ := List.mem_filterMap.1 hx
  obtain ⟨⟨j, u⟩, hj, hy⟩ := List.mem_filterMap.1 hy
  have hxid : x.id = i := by
    simp only [Viewpoint.line, Option.ite_none_right_eq_some] at hx
    obtain ⟨_, hx⟩ := hx
    cases hx
    rfl
  have hyid : y.id = j := by
    simp only [Viewpoint.line, Option.ite_none_right_eq_some] at hy
    obtain ⟨_, hy⟩ := hy
    cases hy
    rfl
  obtain rfl : i = j := hxid.symm.trans (hid.trans hyid)
  obtain rfl : t = u := Option.some.inj
    ((AList.mem_entries_iff.1 hi).symm.trans (AList.mem_entries_iff.1 hj))
  exact Option.some.inj (hx.symm.trans hy)

/-- The preview of an account shows the same. -/
theorem shown (h : SameView p db db') {account : Account} {q : PreviewAccount}
    (hq : previewAccount db p.closingDate p.observedDate p.observedAt p.account account = .ok q) :
    ∃ q', previewAccount db' p.closingDate p.observedDate p.observedAt p.account account = .ok q' ∧
      q'.shown = q.shown := by
  simp only [previewAccount, Except.bind_eq_ok, Except.fromOption_eq_ok, Except.ensure_eq_ok,
    Except.pure_eq_ok] at hq
  obtain ⟨balance, hbalance, activity, hactivity, _, hone, rfl⟩ := hq
  obtain ⟨hvalued, hlines, hsorted, hthrough, hafter⟩ := reconciliationActivity_shown hactivity
  obtain ⟨activity', hactivity'⟩ := exists_reconciliationActivity (h.valued hvalued)
  obtain ⟨_, hlines', hsorted', hthrough', hafter'⟩ := reconciliationActivity_shown hactivity'
  have hsame : activity'.transactions.map PreviewLine.of = activity.transactions.map PreviewLine.of := by
    have hperm := hlines'.trans (h.lines.trans hlines.symm)
    refine hperm.eq_of_pairwise (fun x y hx hy hxy hyx => ?_) hsorted' hsorted
    have hx : x ∈ p.lines db := hlines.mem_iff.1 (hperm.mem_iff.1 hx)
    exact line_unique hx (hlines.mem_iff.1 hy) (hxy.antisymm hyx)
  have hexists : ∃ q', previewAccount db' p.closingDate p.observedDate p.observedAt p.account account
      = .ok q' := by
    simp only [previewAccount, Except.bind_eq_ok, Except.fromOption_eq_ok, Except.ensure_eq_ok,
      Except.pure_eq_ok]
    exact ⟨_, balance, hbalance, activity', hactivity', ⟨⟩, h.prior ▸ hone, rfl⟩
  obtain ⟨q', hq'⟩ := hexists
  refine ⟨q', hq', ?_⟩
  simp only [previewAccount, Except.bind_eq_ok, Except.fromOption_eq_ok, Except.ensure_eq_ok,
    Except.pure_eq_ok] at hq'
  obtain ⟨balance', hbalance', activity'', hactivity'', _, _, rfl⟩ := hq'
  obtain rfl : balance = balance' := Option.some.inj (hbalance.symm.trans hbalance')
  obtain rfl : activity' = activity'' := Except.ok.inj (hactivity'.symm.trans hactivity'')
  have htotal : activity'.throughObservation = activity.throughObservation := by
    rw [hthrough', hthrough, hsame]
  have hrest : activity'.afterObservation = activity.afterObservation := by
    rw [hafter', hafter, h.later]
  simp only [PreviewAccount.shown, hsame, htotal, hrest]

/-- A row is put in or replaced that shows what was there before. -/
theorem insert {id : TransactionId} {t : Transaction}
    (haccount : db'.accounts.lookup p.account = db.accounts.lookup p.account)
    (htransactions : db'.transactions = db.transactions.insert id t)
    (hkind : ¬ (t.kind = .reconciliation ∧ t.fromAccountId = some p.account))
    (hvalued : p.Covers t → ∃ net, netNative p.account (t.row id) = .ok net)
    (hnew : db.transactions.lookup id = none → p.line id t = none ∧ p.later t = 0)
    (hold : ∀ old, db.transactions.lookup id = some old →
      ¬ (old.kind = .reconciliation ∧ old.fromAccountId = some p.account) ∧
        p.line id t = p.line id old ∧ p.later t = p.later old) : SameView p db db' where
  account := haccount
  prior := by
    rw [priorAdjustments, priorAdjustments, htransactions, AList.filter_insert]
    · exact decide_eq_false fun h => hkind ⟨h.1, h.2.2⟩
    · exact fun old hl => decide_eq_false fun h => (hold old hl).1 ⟨h.1, h.2.2⟩
  lines := by
    rw [Viewpoint.lines, Viewpoint.lines, htransactions]
    cases hl : db.transactions.lookup id with
    | none => exact .of_eq (AList.filterMap_insert_new hl (hnew hl).1)
    | some old => exact AList.filterMap_replace hl (hold old hl).2.1
  later := by
    rw [Viewpoint.laterTotal, Viewpoint.laterTotal, htransactions]
    cases hl : db.transactions.lookup id with
    | none => rw [AList.total_insert_new hl, (hnew hl).2, zero_add]
    | some old => rw [AList.total_replace hl, (hold old hl).2.2, sub_self, add_zero]
  valued h x u hu hcovers := by
    rw [htransactions, AList.lookup_insert_of] at hu
    split at hu
    · rename_i hx
      cases hu
      rw [hx]
      exact hvalued hcovers
    · exact h x u hu hcovers

/-- A row is taken away that shows nothing. -/
theorem erase {id : TransactionId} {old : Transaction}
    (haccount : db'.accounts.lookup p.account = db.accounts.lookup p.account)
    (htransactions : db'.transactions = db.transactions.erase id)
    (hl : db.transactions.lookup id = some old) (hkind : old.kind ≠ .reconciliation)
    (hline : p.line id old = none) (hlater : p.later old = 0) : SameView p db db' where
  account := haccount
  prior := by
    have hperm := (AList.perm_cons_erase hl).filter fun e => e.2.kind = .reconciliation ∧
      e.2.effectiveDate = p.closingDate ∧ e.2.fromAccountId = some p.account
    rw [List.filter_cons_of_neg fun h => hkind (of_decide_eq_true h).1] at hperm
    rw [priorAdjustments, priorAdjustments, htransactions]
    exact (hperm.symm.map _).length_eq
  lines := by
    rw [Viewpoint.lines, Viewpoint.lines, htransactions]
    exact AList.filterMap_erase hl hline
  later := by
    rw [Viewpoint.laterTotal, Viewpoint.laterTotal, htransactions, AList.total_delete hl, hlater,
      sub_zero]
  valued h x u hu hcovers := by
    rw [htransactions, AList.lookup_erase_of] at hu
    split at hu
    · cases hu
    · exact h x u hu hcovers

end SameView

/-! ## Lines and net amounts -/

namespace Viewpoint

variable {p : Viewpoint} {t : Transaction}

/-- A transaction between other accounts shows nothing. -/
theorem line_of_other (id : TransactionId) (hfrom : t.fromAccountId ≠ some p.account)
    (hto : t.toAccountId ≠ some p.account) : p.line id t = none ∧ p.later t = 0 ∧ ¬ p.Covers t := by
  have hcovers : ¬ p.Covers t := fun h => h.2.elim hfrom hto
  exact ⟨if_neg fun h => hcovers h.1, if_neg fun h => hcovers h.1, hcovers⟩

/-- After the closing date, what is not listed is later. -/
theorem later_eq (id : TransactionId) (h : p.closingDate < t.effectiveDate) :
    p.later t = netEffect p.account t - ((p.line id t).map (·.netNative)).getD 0 := by
  by_cases hcovers : p.Covers t
  · by_cases hobserved : isObserved p.observedDate (some p.observedAt) t = true
    · rw [later, line, if_neg fun h => h.2 hobserved, if_pos ⟨hcovers, hobserved⟩]
      simp
    · rw [later, line, if_pos ⟨hcovers, hobserved⟩, if_neg fun h => hobserved h.2]
      simp
  · have hsides : t.fromAccountId ≠ some p.account ∧ t.toAccountId ≠ some p.account :=
      ⟨fun h' => hcovers ⟨h, .inl h'⟩, fun h' => hcovers ⟨h, .inr h'⟩⟩
    obtain ⟨hline, hlater, _⟩ := line_of_other id hsides.1 hsides.2
    rw [hline, hlater, netEffect, if_neg hsides.1, if_neg hsides.2]
    simp

theorem later_of_before (h : ¬ p.closingDate < t.effectiveDate) : p.later t = 0 :=
  if_neg fun h' => h h'.1.1

end Viewpoint

/-- A month end separates the months. -/
theorem Date.Valid.lastDate_lt_iff {d : Date} (h : d.Valid) (m : Month) :
    m.lastDate < d ↔ m < d.month := by
  rw [← not_le, h.le_lastDate_iff, not_le]

/-! ## Raised revisions -/

/-- The revision of an account is raised. -/
def Raised (a : AccountId) (db db' : Database) : Prop :=
  ∃ x x', db.accounts.lookup a = some x ∧ db'.accounts.lookup a = some x' ∧
    x.ledgerRevision < x'.ledgerRevision

theorem Raised.trans {db'' : Database} (h : Raised a db db') (h' : Raised a db' db'') :
    Raised a db db'' := by
  obtain ⟨x, y, hx, hy, hlt⟩ := h
  obtain ⟨y', z, hy', hz, hlt'⟩ := h'
  obtain rfl : y = y' := Option.some.inj (hy.symm.trans hy')
  exact ⟨x, z, hx, hz, hlt.trans hlt'⟩

theorem Raised.before {db₀ : Database} (h : Raised a db db')
    (hsame : db.accounts.lookup a = db₀.accounts.lookup a) : Raised a db₀ db' := by
  obtain ⟨x, x', hx, h⟩ := h
  exact ⟨x, x', hsame ▸ hx, h⟩

theorem Raised.after {db₁ : Database} (h : Raised a db db')
    (hsame : db₁.accounts.lookup a = db'.accounts.lookup a) : Raised a db db₁ := by
  obtain ⟨x, x', hx, hx', h⟩ := h
  exact ⟨x, x', hx, hsame.trans hx', h⟩

theorem postDelta_account {acc acc' : Database × List AccountUpdate} {e : AccountId × Decimal}
    (h : postDelta today acc e = .ok acc') (ha : acc.1.isActiveRealAccount a = true) :
    (e.1 = a → Raised a acc.1 acc'.1) ∧
      (e.1 ≠ a → acc'.1.accounts.lookup a = acc.1.accounts.lookup a) := by
  simp only [postDelta, Except.bind_eq_ok, Except.fromOption_eq_ok] at h
  obtain ⟨account, haccount, h⟩ := h
  split at h
  · rename_i hnot
    rw [Except.pure_eq_ok] at h
    subst h
    refine ⟨?_, fun _ => rfl⟩
    rintro rfl
    simp only [Database.isActiveRealAccount, haccount, Option.any_some, Bool.and_eq_true] at ha
    exact absurd ha hnot
  · simp only [Except.bind_eq_ok, Except.fromOption_eq_ok, Except.pure_eq_ok] at h
    obtain ⟨balance, _, _, _, rfl⟩ := h
    refine ⟨?_, fun hne => AList.lookup_insert_ne (Ne.symm hne)⟩
    rintro rfl
    exact ⟨account, _, haccount, AList.lookup_insert _, Nat.lt_succ_self _⟩

/-- Posting raises the revisions of the accounts it reaches and leaves the others alone. -/
theorem postDeltas_account {deltas : List (AccountId × Decimal)} :
    ∀ {acc acc' : Database × List AccountUpdate}, deltas.foldlM (postDelta today) acc = .ok acc' →
      acc.1.isActiveRealAccount a = true →
      (a ∈ deltas.map Prod.fst ∧ Raised a acc.1 acc'.1) ∨
        (a ∉ deltas.map Prod.fst ∧ acc'.1.accounts.lookup a = acc.1.accounts.lookup a) := by
  induction deltas with
  | nil =>
    intro acc acc' h _
    rw [List.foldlM_nil, Except.pure_eq_ok] at h
    subst h
    exact .inr ⟨by simp, rfl⟩
  | cons e deltas ih =>
    intro acc acc' h ha
    rw [List.foldlM_cons, Except.bind_eq_ok] at h
    obtain ⟨mid, h1, h2⟩ := h
    obtain ⟨hraised, hsame⟩ := postDelta_account h1 ha
    rw [List.map_cons, List.mem_cons]
    rcases ih h2 (postDelta_balance h1 ha).1 with ⟨hin, hrest⟩ | ⟨hout, hrest⟩
    · refine .inl ⟨.inr hin, ?_⟩
      by_cases he : e.1 = a
      · exact (hraised he).trans hrest
      · exact hrest.before (hsame he)
    · by_cases he : e.1 = a
      · exact .inl ⟨.inl he.symm, (hraised he).after hrest⟩
      · exact .inr ⟨fun h => h.elim (fun h => he h.symm) hout, hrest.trans (hsame he)⟩

/-- What a preview shows changes only with the revision of the account. -/
def Guarded (p : Viewpoint) (db db' : Database) : Prop :=
  Raised p.account db db' ∨ SameView p db db'

theorem Guarded.trans {p : Viewpoint} {db'' : Database} (h : Guarded p db db')
    (h' : Guarded p db' db'') : Guarded p db db'' := by
  rcases h with h | h
  · rcases h' with h' | h'
    · exact .inl (h.trans h')
    · exact .inl (h.after h'.account)
  · rcases h' with h' | h'
    · exact .inl (h'.before h.account)
    · exact .inr (h.trans h')

/-- Only accounts and transactions count. -/
theorem Guarded.between {p : Viewpoint} {db₀ db₁ : Database} (h : Guarded p db db')
    (haccounts : db.accounts = db₀.accounts) (htransactions : db.transactions = db₀.transactions)
    (haccounts' : db₁.accounts = db'.accounts) (htransactions' : db₁.transactions = db'.transactions) :
    Guarded p db₀ db₁ := by
  have hstart : Guarded p db₀ db := .inr (.of_eq haccounts htransactions)
  exact hstart.trans (h.trans (.inr (.of_eq haccounts' htransactions')))

/-- The revision of an account never falls. -/
def NeverFalls (a : AccountId) (db db' : Database) : Prop :=
  ∀ x, db.accounts.lookup a = some x → ∃ x', db'.accounts.lookup a = some x' ∧
    x.ledgerRevision ≤ x'.ledgerRevision

theorem NeverFalls.trans {db'' : Database} (h : NeverFalls a db db') (h' : NeverFalls a db' db'') :
    NeverFalls a db db'' := by
  intro x hx
  obtain ⟨y, hy, hle⟩ := h x hx
  obtain ⟨z, hz, hle'⟩ := h' y hy
  exact ⟨z, hz, hle.trans hle'⟩

theorem Change.neverFalls (h : Change today db db') : NeverFalls a db db' := by
  intro x hx
  have hposted : ∀ {id : AccountId} {account : Account} (balance : Decimal),
      db.accounts.lookup id = some account → ∃ x', (db.accounts.insert id { account with
        currentNativeBalance := some balance
        ledgerRevision := account.ledgerRevision + 1 }).lookup a = some x' ∧
      x.ledgerRevision ≤ x'.ledgerRevision := by
    intro id account balance haccount
    rw [AList.lookup_insert_of]
    by_cases hid : a = id
    · obtain rfl : x = account := Option.some.inj (hx.symm.trans (hid ▸ haccount))
      rw [if_pos hid]
      exact ⟨_, rfl, Nat.le_succ _⟩
    · rw [if_neg hid]
      exact ⟨x, hx, le_rfl⟩
  cases h with
  | adjust _ balance _ _ _ _ _ _ _ haccount => exact hposted balance haccount
  | postAccount _ balance haccount => exact hposted balance haccount
  | _ => exact ⟨x, hx, le_rfl⟩

theorem Changes.neverFalls (h : Changes today db db') : NeverFalls a db db' := by
  induction h with
  | refl => exact fun x hx => ⟨x, hx, le_rfl⟩
  | tail _ hstep ih => exact ih.trans hstep.neverFalls

theorem Reachable.neverFalls {today' : Date} (hreach : Reachable today db)
    (h : Run today db today' db') : NeverFalls a db db' := by
  have key := h.induct (I := fun d db₁ => Sound d db₁ ∧ NeverFalls a db db₁)
    ⟨hreach.sound, fun x hx => ⟨x, hx, le_rfl⟩⟩ fun _ _ call _ hv hle _ hs => by
      have hl := hs.1.later hv hle
      have hc := step_changes call hl
      exact ⟨hc.sound hl, hs.2.trans (Changes.neverFalls hc)⟩
  exact key.2

/-! ## What a call does to a view -/

theorem mem_deltaList {deltas : Table AccountId Decimal} :
    a ∈ (deltaList deltas).map Prod.fst ↔ a ∈ deltas := by
  rw [deltaList, List.map_map]
  exact AList.mem_keys.symm

theorem mem_accountDeltas {f t : AccountId} {fromNative toNative : Decimal} :
    a ∈ accountDeltas f t fromNative toNative ↔ a = f ∨ a = t := by
  simp only [accountDeltas, addDelta, AList.mem_insert]
  constructor
  · rintro (rfl | rfl | h)
    · exact .inr rfl
    · exact .inl rfl
    · exact absurd h (AList.notMem_empty _)
  · rintro (rfl | rfl)
    · exact .inr (.inl rfl)
    · exact .inl rfl

theorem deltaAt_of_notMem {deltas : Table AccountId Decimal}
    (h : a ∉ (deltaList deltas).map Prod.fst) : deltaAt deltas a = 0 :=
  deltaAt_of_none (AList.lookup_eq_none.2 (mt mem_deltaList.2 h))

/-- The row that an edit writes, as the parts of the handler compute it. -/
def editedRow (db : Database) (clock : Clock) (w : WriteRequest) (old : Transaction) :
    Except ApiError Transaction := do
  let resolved ← resolveWrite db w
  let stored ← loadStored db old
  let (valuations, _, _) ← editValuation db old w resolved
    (inputsUnchanged old stored.fromAccount stored.toAccount w resolved) stored
  let occurredAt ← editedTime clock old w
  return writtenTransaction w resolved occurredAt (old.revision + 1) valuations

/-- The edit leaves the net amount at the account as it is, and changes the line. -/
def EditHides (p : Viewpoint) (db : Database) (clock : Clock) (payload : EditRequest) : Prop :=
  ∃ w old row, normalize payload.transaction = .ok w ∧
    db.transactions.lookup w.transactionId = some old ∧ editedRow db clock w old = .ok row ∧
    netEffect p.account row = netEffect p.account old ∧
    p.line w.transactionId row ≠ p.line w.transactionId old

/-- The deletion takes away a listed transaction that nets to zero at the account. -/
def DeletionHides (p : Viewpoint) (db : Database) (payload : DeleteRequest) : Prop :=
  ∃ old, db.transactions.lookup payload.transactionId = some old ∧
    netEffect p.account old = 0 ∧ p.line payload.transactionId old ≠ none

/-- A call that is accepted for the first time and changes what is shown without a posting. -/
def Hidden (p : Viewpoint) (db : Database) (call : Call) : Prop :=
  (handle db call).isOk = true ∧
    (∀ id, call.request.operationId = some id → db.operations.lookup id = none) ∧
    match call.request with
    | .edit payload => EditHides p db call.clock payload
    | .delete payload => DeletionHides p db payload
    | .create _ | .reconcile _ | .correct _ | .complete _ | .close _ | .createCategory _
    | .cancelBudget _ | .saveBudget _ | .saveExpectedIncome _ | .refresh | .startup => False

section View

variable {p : Viewpoint} {clock : Clock}

/-- An account that is posted to is raised; one that is not is left alone. -/
theorem postDeltas_raised {deltas : List (AccountId × Decimal)} {db₀ db₁ : Database}
    {updates : List AccountUpdate} (h : postDeltas db₀ today deltas = .ok (db₁, updates))
    (hstart : db₀.accounts = db.accounts) (hend : db'.accounts = db₁.accounts)
    (ha : db.isActiveRealAccount a = true) :
    Raised a db db' ∨
      (a ∉ deltas.map Prod.fst ∧ db'.accounts.lookup a = db.accounts.lookup a) := by
  have hactive : db₀.isActiveRealAccount a = true := by
    rwa [Database.isActiveRealAccount, hstart]
  rcases postDeltas_account h hactive with ⟨_, hraised⟩ | ⟨hout, hsame⟩
  · refine .inl ((hraised.before ?_).after ?_)
    · rw [hstart]
    · rw [hend]
  · refine .inr ⟨hout, ?_⟩
    rw [hend, hsame, hstart]

/-- A creation hides nothing. -/
theorem Created.view {w : WriteRequest} {r : ResolvedWrite} {v : TransactionValuation}
    {occurredAt : Option Timestamp} {accounts : List AccountUpdate} {db₁ db₂ : Database}
    {cs : List BudgetCategorySnapshot}
    (h : Created db clock w r v occurredAt accounts db₁ db₂ db' cs)
    (ha : db.isActiveRealAccount p.account = true) :
    Guarded p db db' := by
  obtain ⟨haccounts, htransactions⟩ := h.facts
  rcases postDeltas_raised h.posted rfl haccounts ha with hraised | ⟨hout, hsame⟩
  · exact .inl hraised
  right
  rw [mem_deltaList, writeDeltas, mem_accountDeltas, not_or] at hout
  have hfrom : some r.endpoints.fromAccount.id ≠ some p.account :=
    fun h => hout.1 (Option.some.inj h).symm
  have hto : some r.endpoints.toAccount.id ≠ some p.account :=
    fun h => hout.2 (Option.some.inj h).symm
  obtain ⟨hline, hlater, hcovers⟩ := @Viewpoint.line_of_other p
    (writtenTransaction w r occurredAt 1 [storedValuation 1 v]) w.transactionId hfrom hto
  refine .insert hsame htransactions (fun h => hfrom h.2) (fun h => absurd h hcovers)
    (fun _ => ⟨hline, hlater⟩) fun old hold => ?_
  exact absurd (h.fresh.symm.trans hold) (by simp)

/-- A deletion that hides nothing. -/
theorem Deleted.view {payload : DeleteRequest} {old : Transaction} {stored : StoredEndpoints}
    {accounts : List AccountUpdate} {db₁ : Database} {cs : List BudgetCategorySnapshot}
    (h : Deleted db clock payload old stored accounts db₁ db' cs)
    (ha : db.isActiveRealAccount p.account = true) (hidden : ¬ DeletionHides p db payload) :
    Guarded p db db' := by
  obtain ⟨haccounts, htransactions⟩ := h.facts
  rcases postDeltas_raised h.posted rfl haccounts ha with hraised | ⟨hout, hsame⟩
  · exact .inl hraised
  right
  have hnet : netEffect p.account old = 0 := by
    rw [netEffect_loaded (loadStored_ok h.loaded)]
    by_contra hne
    refine hout ?_
    rw [List.map_map]
    cases hl : (accountDeltas stored.fromAccount.id stored.toAccount.id stored.fromNative
        stored.toNative).lookup p.account with
    | none => exact absurd (deltaAt_of_none hl) hne
    | some d =>
      rw [deltaAt, hl, Option.getD_some] at hne
      have hin : (p.account, d) ∈ deltaList (accountDeltas stored.fromAccount.id
          stored.toAccount.id stored.fromNative stored.toNative) :=
        List.mem_map_of_mem (AList.mem_entries_iff.2 hl)
      exact List.mem_map.2 ⟨_, List.mem_filter.2 ⟨hin, decide_eq_true hne⟩, rfl⟩
  have hline : p.line payload.transactionId old = none := by
    by_contra hne
    exact hidden ⟨old, h.found, hnet, hne⟩
  have hlater : p.later old = 0 := by
    by_cases hdate : p.closingDate < old.effectiveDate
    · rw [Viewpoint.later_eq payload.transactionId hdate, hnet, hline]
      rfl
    · exact Viewpoint.later_of_before hdate
  exact .erase hsame htransactions h.found h.kind hline hlater

/-- A row with both amounts has a net amount. -/
theorem exists_netNative {id : TransactionId} {t : Transaction} {fromNative toNative : Decimal}
    (hfrom : t.fromNative = some fromNative) (hto : t.toNative = some toNative) :
    ∃ net, netNative a (t.row id) = .ok net := by
  have hfrom' : (t.row id).fromNative = some fromNative := hfrom
  have hto' : (t.row id).toNative = some toNative := hto
  unfold netNative
  rw [hfrom', hto']
  by_cases hf : (t.row id).fromAccountId = some a
  · rw [if_pos hf]
    by_cases ht : (t.row id).toAccountId = some a
    · exact ⟨_, if_pos ht⟩
    · exact ⟨_, if_neg ht⟩
  · rw [if_neg hf]
    by_cases ht : (t.row id).toAccountId = some a
    · exact ⟨_, if_pos ht⟩
    · exact ⟨_, if_neg ht⟩

/-- An edit that hides nothing. -/
theorem Edited.view {p₀ payload : EditRequest} {old : Transaction} {r : ResolvedWrite}
    {stored : StoredEndpoints} {valuations : List ValuationRevision} {fromNative toNative : Decimal}
    {occurredAt : Option Timestamp} {accounts : List AccountUpdate} {db₁ db₂ : Database}
    {cs : List BudgetCategorySnapshot}
    (h : Edited db clock payload old r stored valuations fromNative toNative occurredAt accounts
      db₁ db₂ db' cs) (hnormal : normalize p₀.transaction = .ok payload.transaction)
    (hold : old.effectiveDate.Valid) (ha : db.isActiveRealAccount p.account = true)
    (hmonth : p.closingDate = p.closingDate.month.lastDate) (hidden : ¬ EditHides p db clock p₀) :
    Guarded p db db' := by
  obtain ⟨haccounts, htransactions⟩ := h.facts
  rcases postDeltas_raised h.posted rfl haccounts ha with hraised | ⟨hout, hsame⟩
  · exact .inl hraised
  right
  have hloaded := loadStored_ok h.loaded
  obtain ⟨v, hv, _, hfrom, hto⟩ := editValuation_full hloaded h.valued
  have hnet : netEffect p.account
      (writtenTransaction payload.transaction r occurredAt (old.revision + 1) valuations)
        = netEffect p.account old := by
    rw [netEffect_written hv hfrom hto, netEffect_loaded hloaded, ← sub_eq_zero,
      ← deltaAt_differenceMaps]
    exact deltaAt_of_notMem hout
  have hrow : editedRow db clock payload.transaction old
      = .ok (writtenTransaction payload.transaction r occurredAt (old.revision + 1) valuations) := by
    simp only [editedRow, Except.bind_eq_ok, Except.pure_eq_ok]
    exact ⟨r, h.resolved, stored, h.loaded, _, h.valued, occurredAt, h.timed, rfl⟩
  have hline : p.line payload.transaction.transactionId
      (writtenTransaction payload.transaction r occurredAt (old.revision + 1) valuations)
        = p.line payload.transaction.transactionId old := by
    by_contra hne
    exact hidden ⟨_, old, _, hnormal, h.found, hrow, hnet, hne⟩
  have hlater : p.later
      (writtenTransaction payload.transaction r occurredAt (old.revision + 1) valuations)
        = p.later old := by
    -- the edit stays in its month, so on its side of the closing date
    have hside : p.closingDate < payload.transaction.date ↔ p.closingDate < old.effectiveDate := by
      rw [hmonth, Date.Valid.lastDate_lt_iff (normalize_date hnormal),
        Date.Valid.lastDate_lt_iff hold]
      exact Iff.of_eq (congrArg _ h.month.symm)
    by_cases hdate : p.closingDate < old.effectiveDate
    · rw [Viewpoint.later_eq payload.transaction.transactionId hdate,
        Viewpoint.later_eq payload.transaction.transactionId (hside.2 hdate), hnet, hline]
    · rw [Viewpoint.later_of_before hdate, Viewpoint.later_of_before (mt hside.1 hdate)]
  refine .insert hsame htransactions (fun hk => ?_) (fun _ => ?_) (fun hnone => ?_) fun o ho => ?_
  · exact normalize_kind hnormal hk.1
  · refine @exists_netNative _ _ _ fromNative toNative ?_ ?_
    · simp [Transaction.fromNative, Transaction.latest, writtenTransaction, hv, hfrom]
    · simp [Transaction.toNative, Transaction.latest, writtenTransaction, hv, hto]
  · exact absurd (h.found.symm.trans hnone) (by simp)
  · obtain rfl : old = o := Option.some.inj (h.found.symm.trans ho)
    exact ⟨fun hk => h.kind hk.1, hline, hlater⟩

/-- Reconciling an account raises it, and changes nothing of what is shown of the others. -/
theorem Reconciled.view {payload : ReconciliationRequest} {systemAccount : WriteAccount}
    {systemCategory : CategoryId} {requested : ReconciliationAccount} {account : Account}
    {balance : Decimal} {existing : Option (TransactionId × Transaction)} {id : TransactionId}
    {activity : Activity} {v : TransactionValuation} {row : Transaction}
    (h : Reconciled db payload systemAccount systemCategory requested account balance existing id
      activity v row db') (hnames : SystemOnly db)
    (hsystem : db.isActiveRealAccount systemAccount.id = false)
    (ha : db.isActiveRealAccount p.account = true) : Guarded p db db' := by
  by_cases hid : requested.accountId = p.account
  · left
    rw [← hid, h.result]
    exact ⟨account, _, h.loaded, AList.lookup_insert _, Nat.lt_succ_self _⟩
  right
  have hsides : ∀ t : Transaction, t.fromAccountId = some requested.accountId →
      t.toAccountId ≠ some p.account → t.fromAccountId ≠ some p.account ∧
        ∀ id, p.line id t = none ∧ p.later t = 0 ∧ ¬ p.Covers t := by
    intro t hfrom hto
    have hne : t.fromAccountId ≠ some p.account := by
      rw [hfrom]
      exact fun h => hid (Option.some.inj h)
    exact ⟨hne, fun id => Viewpoint.line_of_other id hne hto⟩
  obtain ⟨hrow, hold⟩ := h.otherSide hnames hsystem ha
  obtain ⟨hfrom, hline⟩ := hsides row hrow.1 hrow.2
  have haccount : db'.accounts.lookup p.account = db.accounts.lookup p.account := by
    rw [h.result]
    exact AList.lookup_insert_ne (Ne.symm hid)
  have htransactions : db'.transactions = db.transactions.insert id row := by rw [h.result]; rfl
  refine .insert haccount htransactions (fun hk => hfrom hk.2)
    (fun hcovers => absurd hcovers (hline id).2.2) (fun _ => ⟨(hline id).1, (hline id).2.1⟩)
    fun o ho => ?_
  rcases adjustmentId_ok h.placed with ⟨e, rfl, rfl⟩ | ⟨_, _, hnone⟩
  · obtain ⟨hl, _⟩ := existingAdjustment_ok h.found
    obtain rfl : e.2 = o := Option.some.inj (hl.symm.trans ho)
    obtain ⟨hofrom, holine⟩ := hsides e.2 (hold e rfl).1 (hold e rfl).2
    refine ⟨fun hk => hofrom hk.2, ?_, ?_⟩
    · rw [(hline e.1).1, (holine e.1).1]
    · rw [(hline e.1).2.1, (holine e.1).2.1]
  · rw [hnone] at ho
    cases ho

/-- A reconciliation hides nothing. -/
theorem reconcileAccounts_view {payload : ReconciliationRequest} {systemAccount : WriteAccount}
    {systemCategory : CategoryId} {requests : List ReconciliationAccount} :
    ∀ {s s' : ReconciliationState},
      requests.foldlM (reconcileAccount clock payload systemAccount systemCategory) s = .ok s' →
      SystemOnly s.db → s.db.isActiveRealAccount systemAccount.id = false →
      s.db.isActiveRealAccount p.account = true → Guarded p s.db s'.db := by
  induction requests with
  | nil =>
    intro s s' h _ _ _
    rw [List.foldlM_nil, Except.pure_eq_ok] at h
    subst h
    exact .inr (.refl p s.db)
  | cons requested requests ih =>
    intro s s' h hnames hsystem ha
    rw [List.foldlM_cons, Except.bind_eq_ok] at h
    obtain ⟨mid, h1, h2⟩ := h
    obtain ⟨account, balance, existing, id, activity, v, row, hrec, _⟩ := reconcileAccount_ok h1
    have hactive : ∀ x, mid.db.isActiveRealAccount x = s.db.isActiveRealAccount x :=
      isActiveRealAccount_of_profile hrec.accountProfile_eq
    have hhead : Guarded p s.db mid.db := hrec.view hnames hsystem ha
    exact hhead.trans (ih h2 (hnames.of_profile hrec.accountProfile_eq)
      (hactive _ ▸ hsystem) (hactive _ ▸ ha))

/-- **A call that hides nothing** changes what a preview shows only with the revision. -/
theorem handle_view {db db' : Database} (h : handle db call = .ok (db', response))
    (hsound : Sound call.clock.today db) (ha : db.isActiveRealAccount p.account = true)
    (hmonth : p.closingDate = p.closingDate.month.lastDate) (hidden : ¬ Hidden p db call) :
    Guarded p db db' := by
  have hok : (handle db call).isOk = true := by rw [h]; rfl
  cases handle_effect h hsound with
  | replayed hid hrow hactor hresponse hinit =>
    rcases hinit with rfl | hinit
    · exact .inr (.refl p _)
    · obtain ⟨O, rfl⟩ := initializeOpenings_frame hinit
      exact .inr (.of_eq rfl rfl)
  | created hrequest hnormal hinit hfresh h hresponse =>
    obtain ⟨O, rfl⟩ := initializeOpenings_frame hinit
    exact (h.view ha).between rfl rfl rfl rfl
  | @edited q payload old _ _ _ _ _ _ _ _ _ _ _ _ hrequest hpayload hnormal hinit hfresh h hresponse =>
    obtain ⟨O, rfl⟩ := initializeOpenings_frame hinit
    have hold : old.effectiveDate.Valid := (hsound.dates _ _ h.found).1
    refine (h.view hnormal hold ha hmonth fun hedit => hidden ⟨hok, fun id hid => ?_, ?_⟩).between
      rfl rfl rfl rfl
    · rw [hrequest] at hid
      cases hid
      rw [(normalize_operationId hnormal).1] at hfresh
      exact hfresh
    · rw [hrequest]
      exact hedit
  | deleted hrequest hinit hfresh h hresponse =>
    obtain ⟨O, rfl⟩ := initializeOpenings_frame hinit
    refine (h.view ha fun hdelete => hidden ⟨hok, fun id hid => ?_, ?_⟩).between rfl rfl rfl rfl
    · rw [hrequest] at hid
      cases hid
      exact hfresh
    · rw [hrequest]
      exact hdelete
  | reconciled hrequest hnormal hinit hfresh hopen hreached hsystem hfold hresult hresponse =>
    obtain ⟨O, rfl⟩ := initializeOpenings_frame hinit
    obtain rfl := hresult
    obtain ⟨hnames, hinactive⟩ := loadSystemAccount_systemOnly hsystem
    exact (reconcileAccounts_view hfold hnames hinactive ha).between rfl rfl rfl rfl
  | quiet h hlogs hdeletion => exact .inr (.of_eq h.accounts h.transactions)

theorem step_view {db : Database} (hsound : Sound call.clock.today db)
    (ha : db.isActiveRealAccount p.account = true)
    (hmonth : p.closingDate = p.closingDate.month.lastDate) (hidden : ¬ Hidden p db call) :
    Guarded p db (step db call) := by
  unfold step
  cases h : handle db call with
  | ok r => exact handle_view h hsound ha hmonth hidden
  | error e => exact .inr (.refl p db)

/-- A run without hidden changes changes what a preview shows only with the revision. -/
theorem run_view {d : Date} (hreach : Reachable today db)
    (hrun : RunWhere (fun db call => ¬ Hidden p db call) today db d db')
    (ha : db.isActiveRealAccount p.account = true)
    (hmonth : p.closingDate = p.closingDate.month.lastDate) : Guarded p db db' := by
  have key := hrun.induct (I := fun d db₁ => Sound d db₁ ∧
      db₁.isActiveRealAccount p.account = true ∧ Guarded p db db₁)
    ⟨hreach.sound, ha, .inr (.refl p db)⟩ fun _ _ call _ hv hle hidden hs => by
      have hl := hs.1.later hv hle
      have hc := step_changes call hl
      refine ⟨hc.sound hl, ?_, hs.2.2.trans (step_view hl hs.2.1 hmonth hidden)⟩
      rw [isActiveRealAccount_of_profile hc.toExtends.accounts]
      exact hs.2.1
  exact key.2.2

end View

/-! ## Outdated submissions -/

/-- What an account of a preview is about. -/
def ReconciliationPreview.viewpoint (preview : ReconciliationPreview) (id : AccountId) : Viewpoint :=
  ⟨id, preview.closingDate, preview.observedDate, preview.observedAt⟩

/-- What a preview of the same dates and observation shows of an account, if it succeeds. -/
def shownNow (db : Database) (preview : ReconciliationPreview) (id : AccountId) :
    Option ShownAccount :=
  (db.accounts.lookup id).bind fun account =>
    (previewAccount db preview.closingDate preview.observedDate preview.observedAt id
      account).toOption.map (·.shown)

/-- **An outdated submission is refused.** When a run in which nothing is hidden has changed what a
preview showed of an account, the revision of the account is past the previewed one, whatever happens
then, and a submission of the previewed revision is not recorded. -/
theorem stale_rejected {clock : Clock} {query : PreviewQuery} {preview : ReconciliationPreview}
    {q : PreviewAccount} {d₁ d₂ : Date} {db₁ db₂ : Database} (hreach : Reachable today db)
    (hpreview : getReconciliationPreview db clock query = .ok preview) (hq : q ∈ preview.accounts)
    (hrun : RunWhere (fun db call => ¬ Hidden (preview.viewpoint q.id) db call) today db d₁ db₁)
    (hchanged : shownNow db₁ preview q.id ≠ some q.shown) (hrest : Run d₁ db₁ d₂ db₂) :
    ∃ account, db₂.accounts.lookup q.id = some account ∧ q.ledgerRevision < account.ledgerRevision ∧
      ∀ call p r, call.request = .reconcile p → r ∈ p.accounts → r.accountId = q.id →
        r.expectedRevision = q.ledgerRevision → db₂.operations.lookup p.operationId = none →
        ∃ e, handle db₂ call = .error e := by
  have hpreviewed := getReconciliationPreview_ok hpreview
  obtain ⟨account, hfrom⟩ := hpreviewed.shown q hq
  have ha : db.isActiveRealAccount q.id = true := by
    rw [Database.isActiveRealAccount, hfrom.loaded, Option.any_some, hfrom.real, hfrom.active]
    rfl
  have hrevision : account.ledgerRevision = q.ledgerRevision := by
    have hshown := hfrom.shown
    simp only [previewAccount, Except.bind_eq_ok, Except.pure_eq_ok] at hshown
    obtain ⟨_, _, _, _, _, _, hshown⟩ := hshown
    rw [← hshown]
  have hraised : Raised q.id db db₁ := by
    rcases run_view (p := preview.viewpoint q.id) hreach hrun ha hpreviewed.monthEnd with h | h
    · exact h
    · obtain ⟨q', hq', hsame⟩ := h.shown hfrom.shown
      refine absurd ?_ hchanged
      have hloaded : db₁.accounts.lookup q.id = some account := h.account.trans hfrom.loaded
      have hshown : previewAccount db₁ preview.closingDate preview.observedDate preview.observedAt
          q.id account = .ok q' := hq'
      rw [shownNow, hloaded, Option.bind_some, hshown, ← hsame]
      rfl
  obtain ⟨x, y, hx, hy, hlt⟩ := hraised
  obtain rfl : account = x := Option.some.inj (hfrom.loaded.symm.trans hx)
  obtain ⟨z, hz, hle⟩ := (hreach.trans hrun).neverFalls hrest y hy
  have hpast : q.ledgerRevision < z.ledgerRevision := by omega
  refine ⟨z, hz, hpast, fun call p r hcall hr hid hexpected hnew => ?_⟩
  obtain ⟨clock', actor, request⟩ := call
  obtain rfl : request = .reconcile p := hcall
  cases h : handle db₂ ⟨clock', actor, .reconcile p⟩ with
  | error e => exact ⟨e, rfl⟩
  | ok result =>
    obtain ⟨db₃, response⟩ := result
    obtain ⟨payload, items, hn, _, _, hrecorded⟩ := recordReconciliation_recorded h hnew
    have hin := (normalizeReconciliation_fields hn).2.2.2 r hr
    obtain ⟨account', _, _, _, _, _, hrec⟩ := hrecorded _ hin
    have hloaded : db₂.accounts.lookup q.id = some account' := hid ▸ hrec.loaded
    obtain rfl : z = account' := Option.some.inj (hz.symm.trans hloaded)
    have hcurrent : z.ledgerRevision = r.expectedRevision := hrec.current
    omega

/-- The clock of the October preview. -/
def previewing : Clock := ⟨⟨october, 5⟩, 0, fun _ _ => true⟩

/-- Another expense after the preview. -/
def another : Call := callOn october 5 (.create (spend 101 201 ⟨october, 4⟩ 10))

theorem stale_rejected_october :
    let db := run (household 1000) previewed
    ∃ account, (step db another).accounts.lookup 1 = some account ∧ 1 < account.ledgerRevision ∧
      ∀ call p r, call.request = .reconcile p → r ∈ p.accounts → r.accountId = 1 →
        r.expectedRevision = 1 → (step db another).operations.lookup p.operationId = none →
        ∃ e, handle (step db another) call = .error e := by
  intro db
  have hreach : Reachable ⟨october, 3⟩ db :=
    household_reachable 1000 (by decide : Chronological _ previewed)
  have hpreview : getReconciliationPreview db previewing ⟨⟨october, 5⟩, none⟩ = .ok octoberPreview := by
    decide +kernel
  have hrun : RunWhere (fun db call => ¬ Hidden (octoberPreview.viewpoint 1) db call) ⟨october, 3⟩ db
      ⟨october, 5⟩ (step db another) :=
    .step (.refl _ _) another (by decide) (by decide) fun h => h.2.2
  exact stale_rejected (q := ⟨1, ⟨.other 1, 0⟩, .eur, 975, 1000, -25, 0,
    [⟨200, 1, ⟨october, 3⟩, some 0, -25⟩], 1⟩) hreach hpreview List.mem_cons_self hrun
    (by decide +kernel) (.refl _ _)

/-- The expense of the preview moved to the day after. -/
def moved : Call := callOn october 5 (.edit ⟨spend 101 200 ⟨october, 4⟩ 25, 1, [(1, 1)]⟩)

/-- **A hidden change.** Moving the expense by a day changes the list of the preview and not the
revision, and the submission of the preview is recorded. -/
theorem stale_accepted :
    let db := run (household 1000) previewed
    Reachable ⟨october, 3⟩ db ∧
      getReconciliationPreview db previewing ⟨⟨october, 5⟩, none⟩ = .ok octoberPreview ∧
      shownNow db octoberPreview 1 = octoberPreview.accounts.head?.map (·.shown) ∧
      (handle db moved).isOk = true ∧
      shownNow (step db moved) octoberPreview 1 ≠ octoberPreview.accounts.head?.map (·.shown) ∧
      (handle (step db moved)
        ⟨previewing, 1, .reconcile (submission octoberPreview 110 fun a => 210 + a)⟩).isOk = true :=
  ⟨household_reachable 1000 (by decide : Chronological _ previewed), by decide +kernel,
    by decide +kernel, by decide +kernel, by decide +kernel, by decide +kernel⟩

end Server
