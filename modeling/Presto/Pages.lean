import Mathlib.Data.List.Infix
import Presto.Server.ReadModel

/-!
# Pages partition the transactions

The joins of the two queries are on primary keys, so both see each transaction once
(`named_eq`, `valued_eq`). Whatever the requested key is, the rest of the `ORDER BY` ends in the id, so
there is one order, and the pages cut it into pieces of the page size.
-/

namespace ReadModel

open Query

/-! ## One row for each transaction -/

/-- The names of the endpoints, looked up. -/
def nameRow (db : Tables) (t : TransactionRow) : Named where
  t := t
  fc := db.categories.find? fun fc => some fc.id = t.fromCategoryId
  tc := db.categories.find? fun tc => some tc.id = t.toCategoryId
  fa := db.accounts.find? fun fa => some fa.id = t.fromAccountId
  ta := db.accounts.find? fun ta => some ta.id = t.toAccountId

/-- The current valuations, looked up. -/
def valueRow (db : Tables) (t : TransactionRow) : Valued :=
  { nameRow db t with
    vf := db.valuations.find? (currentValuation db "from" t)
    vt := db.valuations.find? (currentValuation db "to" t) }

theorem named_eq (db : Tables) : named db = db.transactions.map (nameRow db) := by
  unfold named
  rw [leftJoin_eq_map fun row _ => filter_of_ref db.accounts_key row.1.1.1.toAccountId,
    leftJoin_eq_map fun row _ => filter_of_ref db.accounts_key row.1.1.fromAccountId,
    leftJoin_eq_map fun row _ => filter_of_ref db.categories_key row.1.toCategoryId,
    leftJoin_eq_map fun t _ => filter_of_ref db.categories_key t.fromCategoryId,
    List.map_map, List.map_map, List.map_map, List.map_map]
  rfl

theorem filter_currentValuation (db : Tables) (side : String) (t : TransactionRow) :
    (db.valuations.filter (currentValuation db side t)).length ≤ 1 := by
  cases hlast : lastRevision db t.id side with
  | none =>
    have hnone : db.valuations.filter (currentValuation db side t) = [] := by
      rw [List.filter_eq_nil_iff]
      intro v _
      simp [currentValuation, hlast]
    rw [hnone]
    exact Nat.zero_le 1
  | some revision =>
    refine filter_of_key (k := (t.id, side, revision)) db.valuations_key fun v _ hv => ?_
    simp only [currentValuation, hlast, Bool.and_eq_true, decide_eq_true_iff, Option.some.injEq] at hv
    rw [hv.1.1, hv.1.2, hv.2]

theorem valued_eq (db : Tables) : valued db = db.transactions.map (valueRow db) := by
  unfold valued
  rw [leftJoin_eq_map fun row _ => filter_currentValuation db "to" row.1.t,
    leftJoin_eq_map fun row _ => filter_currentValuation db "from" row.t, named_eq,
    List.map_map, List.map_map, List.map_map]
  rfl

/-! ## One order -/

variable {R : Type} [LinearOrder R]

theorem tieBreak_id {a b : TransactionRow} (h : tieBreak a = tieBreak b) : a.id = b.id :=
  congrArg (fun k : Lex (Lex (Stringᵒᵈ × Intᵒᵈ) × Stringᵒᵈ) => OrderDual.ofDual (ofLex k).2) h

omit [LinearOrder R] in
theorem ascending_id {key : TransactionRow → Key R} {a b : TransactionRow}
    (h : ascending key a = ascending key b) : a.id = b.id :=
  tieBreak_id (congrArg (fun k : Lex (Key R × _) => (ofLex k).2) h)

omit [LinearOrder R] in
theorem descending_id {key : TransactionRow → Key R} {a b : TransactionRow}
    (h : descending key a = descending key b) : a.id = b.id :=
  tieBreak_id (congrArg (fun k : Lex ((Key R)ᵒᵈ × _) => (ofLex k).2) h)

theorem ascending_le {key : TransactionRow → Key R} {a b : TransactionRow}
    (h : ascending key a ≤ ascending key b) : key a ≤ key b :=
  (Prod.Lex.le_iff.1 h).elim le_of_lt fun h => h.1.le

theorem descending_le {key : TransactionRow → Key R} {a b : TransactionRow}
    (h : descending key a ≤ descending key b) : key b ≤ key a :=
  (Prod.Lex.le_iff.1 h).elim (fun h => le_of_lt (OrderDual.toDual_lt_toDual.1 h)) fun h =>
    (OrderDual.toDual_inj.1 h.1).ge

/-- The matching transactions. -/
def matching (db : Tables) (f : TransactionFilter) : List TransactionRow :=
  db.transactions.filter fun t => f.accepts (nameRow db t)

theorem matching_ids (db : Tables) (f : TransactionFilter) :
    ((matching db f).map (·.id)).Nodup :=
  db.transactions_key.sublist (List.filter_sublist.map _)

theorem matching_inj {db : Tables} {f : TransactionFilter} {a b : TransactionRow}
    (ha : a ∈ matching db f) (hb : b ∈ matching db f) (h : a.id = b.id) : a = b :=
  List.inj_on_of_nodup_map (matching_ids db f) ha hb h

/-- Both queries see the matching transactions. -/
theorem countP_named (db : Tables) (f : TransactionFilter) :
    (named db).countP f.accepts = (matching db f).length := by
  rw [named_eq, List.countP_map, List.countP_eq_length_filter]
  rfl

theorem filter_valued (db : Tables) (f : TransactionFilter) :
    (valued db).filter (fun row => f.accepts row.toNamed) = (matching db f).map (valueRow db) := by
  rw [valued_eq, List.filter_map]
  rfl

/-- The list that the pages cut up: in the order of a key, and of the tie break below it. -/
structure Listing (db : Tables) (f : TransactionFilter) (key : TransactionRow → Key R)
    (direction : String) (rows : List TransactionRow) : Prop where
  perm : rows.Perm (matching db f)
  sorted : rows.Pairwise fun a b => if direction = "asc" then key a ≤ key b else key b ≤ key a
  /-- However SQLite lists the matching rows in the order, it lists them so. -/
  unique : ∀ rows', rows'.Perm (matching db f) →
    (rows'.Pairwise fun a b => if direction = "asc" then ascending key a ≤ ascending key b
      else descending key a ≤ descending key b) → rows' = rows
  order : orderRows key direction ((valued db).filter fun row => f.accepts row.toNamed)
    = .ok (rows.map (valueRow db))

theorem exists_listing (db : Tables) (f : TransactionFilter) (key : TransactionRow → Key R)
    {direction : String} (hdirection : direction ∈ ["asc", "desc"]) :
    ∃ rows, Listing db f key direction rows := by
  rcases List.mem_pair.1 hdirection with rfl | rfl
  · refine ⟨orderBy (ascending key) (matching db f), orderBy_perm _ _, ?_, ?_, ?_⟩
    · simp only [if_true]
      exact (orderBy_sorted _ _).imp ascending_le
    · intro rows' hperm hsorted
      simp only [if_true] at hsorted
      exact eq_orderBy (fun a ha b hb h => matching_inj ha hb (ascending_id h)) hperm hsorted
    · rw [filter_valued, orderRows, orderBy_map]
      rfl
  · refine ⟨orderBy (descending key) (matching db f), orderBy_perm _ _, ?_, ?_, ?_⟩
    · simp only [String.reduceEq, if_false]
      exact (orderBy_sorted _ _).imp descending_le
    · intro rows' hperm hsorted
      simp only [String.reduceEq, if_false] at hsorted
      exact eq_orderBy (fun a ha b hb h => matching_inj ha hb (descending_id h)) hperm hsorted
    · rw [filter_valued, orderRows, orderBy_map]
      rfl

/-! ## What is asked for and what is shown -/

/-- The fields that a page can be sorted by. -/
inductive SortField
  | date
  | description
  | type
  | amount
  | id

def SortField.name : SortField → String
  | .date => "date"
  | .description => "description"
  | .type => "type"
  | .amount => "amount"
  | .id => "id"

/-- What a field asks for. Expenses count against the amount, whatever their sign. -/
def SortField.key (reals : Reals R) (field : SortField) (t : TransactionRow) : Key R :=
  match field with
  | .date => text (t.occurredAt.getD t.effectiveDate)
  | .description => text (lower t.description)
  | .type => text t.kind
  | .amount => number (
      if t.kind = "expense" then reals.neg (reals.abs (reals.cast t.amountDecimal))
      else if t.kind = "reconciliation" then reals.neg (reals.cast t.amountDecimal)
      else reals.abs (reals.cast t.amountDecimal))
  | .id => text t.id

omit [LinearOrder R] in
theorem orderExpression_name (reals : Reals R) (field : SortField) :
    orderExpression reals field.name = .ok (field.key reals) := by
  cases field <;> rfl

/-- The name shown for a reference is that of the row it refers to. -/
def ShowsName {α : Type} (table : List α) (key name : α → String) (ref shown : Option String) : Prop :=
  ∀ n, shown = some n ↔ ∃ x ∈ table, some (key x) = ref ∧ name x = n

/-- The transaction matches the filter: it lies in the month, has the kind, has an endpoint of the name,
and the text searched for stands in its description and the names of its endpoints. -/
structure Matches (db : Tables) (f : TransactionFilter) (t : TransactionRow) : Prop where
  month : ∀ month, f.month = some month → month.toList = t.effectiveDate.toList.take 7
  search : f.search = "" ∨
    (lower f.search).toList <:+: (lower (nameRow db t).searchText).toList
  kind : ∀ kind, f.kind = some kind → t.kind = kind
  category : ∀ category, f.category = some category → ∃ c ∈ db.categories, c.name = category ∧
    (some c.id = t.fromCategoryId ∨ some c.id = t.toCategoryId)
  account : ∀ account, f.account = some account → ∃ a ∈ db.accounts, a.sourceName = account ∧
    (some a.id = t.fromAccountId ∨ some a.id = t.toAccountId)

/-- The record shows the transaction: its columns, and the names of its endpoints. -/
structure Shows (db : Tables) (t : TransactionRow) (r : RecentTransaction) : Prop where
  id : r.id = t.id
  kind : r.kind = t.kind
  effectiveDate : r.effectiveDate = t.effectiveDate
  occurredAt : r.occurredAt = t.occurredAt
  description : r.description = t.description
  amount : r.amount = t.amountDecimal
  inputCurrency : r.inputCurrency = t.inputCurrency
  toAmount : r.toAmount = t.toAmountDecimal
  toCurrency : r.toCurrency = t.toCurrency
  fromCategoryId : r.fromCategoryId = t.fromCategoryId
  toCategoryId : r.toCategoryId = t.toCategoryId
  fromAccountId : r.fromAccountId = t.fromAccountId
  toAccountId : r.toAccountId = t.toAccountId
  revision : r.revision = t.revision
  fromCategory : ShowsName db.categories (·.id) (·.name) t.fromCategoryId r.fromCategory
  toCategory : ShowsName db.categories (·.id) (·.name) t.toCategoryId r.toCategory
  fromAccount : ShowsName db.accounts (·.id) (·.sourceName) t.fromAccountId r.fromAccount
  toAccount : ShowsName db.accounts (·.id) (·.sourceName) t.toAccountId r.toAccount

/-- A reference to a key finds the row that has it. -/
theorem showsName_find {α : Type} {table : List α} {key : α → String}
    (hkey : (table.map key).Nodup) (name : α → String) (ref : Option String) :
    ShowsName table key name ref ((table.find? fun x => some (key x) = ref).map name) := by
  intro n
  rw [Option.map_eq_some_iff]
  constructor
  · rintro ⟨x, hx, hn⟩
    have href := List.find?_some hx
    exact ⟨x, List.mem_of_find?_eq_some hx, of_decide_eq_true href, hn⟩
  · rintro ⟨x, hx, href, hn⟩
    cases hfind : table.find? fun x => some (key x) = ref with
    | none => exact absurd (decide_eq_true href) (List.find?_eq_none.1 hfind x hx)
    | some y =>
      have hfound := List.find?_some hfind
      have hy : some (key y) = ref := of_decide_eq_true hfound
      have hxy : x = y := List.inj_on_of_nodup_map hkey hx (List.mem_of_find?_eq_some hfind)
        (Option.some.inj (href.trans hy.symm))
      exact ⟨y, rfl, hxy ▸ hn⟩

theorem instr_iff (text part : String) : instr text part = true ↔ part.toList <:+: text.toList := by
  rw [instr, List.any_eq_true, List.infix_iff_prefix_suffix]
  simp only [List.mem_tails, List.isPrefixOf_iff_prefix, and_comm]

/-- One of two references has the name, as the joins see it. -/
theorem named_either {α : Type} {table : List α} {key name : α → String}
    (hkey : (table.map key).Nodup) (ref ref' : Option String) (n : String) :
    ((table.find? fun x => some (key x) = ref).map name = some n ∨
      (table.find? fun x => some (key x) = ref').map name = some n) ↔
      ∃ x ∈ table, name x = n ∧ (some (key x) = ref ∨ some (key x) = ref') := by
  rw [showsName_find hkey name ref n, showsName_find hkey name ref' n]
  constructor
  · rintro (⟨x, hx, href, hn⟩ | ⟨x, hx, href, hn⟩)
    · exact ⟨x, hx, hn, .inl href⟩
    · exact ⟨x, hx, hn, .inr href⟩
  · rintro ⟨x, hx, hn, href | href⟩
    · exact .inl ⟨x, hx, href, hn⟩
    · exact .inr ⟨x, hx, href, hn⟩

/-- **What the `WHERE` clause lets through.** -/
theorem accepts_iff (db : Tables) (f : TransactionFilter) (t : TransactionRow) :
    f.accepts (nameRow db t) = true ↔ Matches db f t := by
  have hcategory : ∀ category, ((nameRow db t).fc.map (·.name) = some category ∨
      (nameRow db t).tc.map (·.name) = some category) ↔ _ := fun category =>
    named_either db.categories_key t.fromCategoryId t.toCategoryId category
  have haccount : ∀ account, ((nameRow db t).fa.map (·.sourceName) = some account ∨
      (nameRow db t).ta.map (·.sourceName) = some account) ↔ _ := fun account =>
    named_either db.accounts_key t.fromAccountId t.toAccountId account
  have hmonth : ∀ month, month7 t.effectiveDate = month ↔
      month.toList = t.effectiveDate.toList.take 7 := by
    intro month
    rw [month7, ← String.toList_inj, String.toList_ofList]
    exact eq_comm
  simp only [TransactionFilter.accepts, Bool.and_eq_true, Bool.or_eq_true, Option.all_eq_true,
    decide_eq_true_iff, instr_iff, hcategory, haccount]
  constructor
  · rintro ⟨⟨⟨⟨h1, h2⟩, h3⟩, h4⟩, h5⟩
    exact ⟨fun month h => (hmonth month).1 (h1 month h), h2, h3, h4, h5⟩
  · rintro ⟨h1, h2, h3, h4, h5⟩
    exact ⟨⟨⟨⟨fun month h => (hmonth month).2 (h1 month h), h2⟩, h3⟩, h4⟩, h5⟩

theorem shows_mapTransaction (db : Tables) (today : String) (t : TransactionRow) :
    Shows db t (mapTransaction db today (valueRow db t)) where
  id := rfl
  kind := rfl
  effectiveDate := rfl
  occurredAt := rfl
  description := rfl
  amount := rfl
  inputCurrency := rfl
  toAmount := rfl
  toCurrency := rfl
  fromCategoryId := rfl
  toCategoryId := rfl
  fromAccountId := rfl
  toAccountId := rfl
  revision := rfl
  fromCategory := showsName_find db.categories_key _ _
  toCategory := showsName_find db.categories_key _ _
  fromAccount := showsName_find db.accounts_key _ _
  toAccount := showsName_find db.accounts_key _ _

/-- The records of a list of rows, in its order. -/
theorem shows_rows (db : Tables) (today : String) (rows : List TransactionRow) :
    List.Forall₂ (Shows db) rows ((rows.map (valueRow db)).map (mapTransaction db today)) := by
  rw [List.map_map, List.forall₂_map_right_iff, List.forall₂_same]
  exact fun t _ => shows_mapTransaction db today t

theorem shows_ids {db : Tables} {rows : List TransactionRow} {shown : List RecentTransaction}
    (h : List.Forall₂ (Shows db) rows shown) : shown.map (·.id) = rows.map (·.id) := by
  induction h with
  | nil => rfl
  | cons h _ ih => rw [List.map_cons, List.map_cons, h.id, ih]

/-- **Pages partition the result.** The matching transactions are listed in one order, that of the
field asked for and of the tie break below it; the pages of any size show them one after the other,
each of them once, and end there. -/
theorem transactionsSorted_pages (reals : Reals R) (db : Tables) (f : TransactionFilter)
    (field : SortField) (direction : String) (hdirection : direction ∈ ["asc", "desc"]) :
    ∃ rows, Listing db f (field.key reals) direction rows ∧ (rows.map (·.id)).Nodup ∧
      (∀ t, t ∈ rows ↔ t ∈ db.transactions ∧ Matches db f t) ∧
      ∀ (today : String) (size : Nat), 1 ≤ size → size ≤ 100 → ∃ pages : Nat → TransactionPage,
        (∀ page, page ≠ 0 →
          transactionsSorted reals db today f page size field.name direction = .ok (pages page)) ∧
        (∀ page, (pages page).total = rows.length) ∧
        (∀ k, List.Forall₂ (Shows db) (rows.take (k * size))
          ((List.range k).flatMap fun i => (pages (i + 1)).transactions)) ∧
        (∀ k, rows.length ≤ k * size →
          List.Forall₂ (Shows db) rows
            ((List.range k).flatMap fun i => (pages (i + 1)).transactions) ∧
          (pages (k + 1)).transactions = []) := by
  have hkey := orderExpression_name reals field
  obtain ⟨rows, hrows⟩ := exists_listing db f (field.key reals) hdirection
  refine ⟨rows, hrows, (hrows.perm.map _).nodup_iff.2 (matching_ids db f), fun t => ?_, ?_⟩
  · rw [hrows.perm.mem_iff, matching, List.mem_filter, accepts_iff]
  intro today size hsize hsize'
  let pages (page : Nat) : TransactionPage :=
    { transactions := (limit size ((page - 1) * size) (rows.map (valueRow db))).map
        (mapTransaction db (month7 today))
      total := rows.length
      page := page
      pageSize := size }
  have hconcat : ∀ k, (List.range k).flatMap (fun i => (pages (i + 1)).transactions)
      = ((rows.take (k * size)).map (valueRow db)).map (mapTransaction db (month7 today)) := by
    intro k
    show (List.range k).flatMap (fun i => (limit size (i * size) _).map _) = _
    rw [← List.map_flatMap, flatMap_page, List.map_take, List.map_take, List.map_take]
  refine ⟨pages, fun page hpage => ?_, fun _ => rfl, fun k => ?_, fun k hk => ⟨?_, ?_⟩⟩
  · unfold transactionsSorted
    simp only [Except.bind_eq_ok, Except.ensure_eq_ok, Except.pure_eq_ok, exists_const]
    refine ⟨⟨hpage, hsize, hsize'⟩, field.key reals, hkey, _, hrows.order, ?_⟩
    rw [countP_named, ← hrows.perm.length_eq]
  · rw [hconcat]
    exact shows_rows db _ _
  · rw [hconcat, List.take_of_length_le hk]
    exact shows_rows db _ _
  · show (limit size (k * size) _).map _ = []
    rw [limit_nil_of_le (by rwa [List.length_map]), List.map_nil]

/-- Three payments of one day, from one row of the sheet each. -/
def payments : Tables where
  transactions := ["a", "b", "c"].map fun id =>
    ⟨id, "expense", "2000-01-15", none, "Payment", "12", some "EUR", none, none, some "food", none,
      some "bank", none, none, none, 1, "archive", 1, none⟩
  categories := [⟨"food", "Food"⟩]
  accounts := [⟨"bank", "Bank", true, true⟩]
  valuations := [⟨"a", "from", 1, some "12", some "12"⟩, ⟨"a", "from", 2, some "12", some "11"⟩]
  revisions := []
  sessions := []
  receipts := []
  corrections := []
  openings := []
  closures := []
  transactions_key := by decide
  categories_key := by decide
  accounts_key := by decide
  valuations_key := by decide

/-- Whole numbers. -/
def integers : Reals Int := ⟨fun s => s.toInt?.getD 0, fun x => -x, fun x => x.natAbs⟩

theorem transactionsSorted_pages_payments :
    ∃ first second : TransactionPage,
      transactionsSorted integers payments "2026-11-01" ⟨none, "", none, some "Food", none⟩ 1 2
        "amount" "desc" = .ok first ∧
      transactionsSorted integers payments "2026-11-01" ⟨none, "", none, some "Food", none⟩ 2 2
        "amount" "desc" = .ok second ∧
      ((first.transactions ++ second.transactions).map (·.id)).Perm ["a", "b", "c"] ∧
      second.total = 3 := by
  obtain ⟨rows, hrows, -, -, hpages⟩ := transactionsSorted_pages integers payments
    ⟨none, "", none, some "Food", none⟩ .amount "desc" (by decide)
  obtain ⟨pages, hok, htotal, -, hall⟩ := hpages "2026-11-01" 2 (by decide) (by decide)
  have hmatching : (matching payments ⟨none, "", none, some "Food", none⟩).map (·.id)
      = ["a", "b", "c"] := by decide +kernel
  have hids : (rows.map (·.id)).Perm ["a", "b", "c"] := hmatching ▸ hrows.perm.map _
  have hlength : rows.length = 3 := by
    rw [← List.length_map, hids.length_eq]
    rfl
  have hshown := (hall 2 (by omega)).1
  rw [show List.range 2 = [0, 1] from rfl, List.flatMap_cons, List.flatMap_cons, List.flatMap_nil,
    List.append_nil] at hshown
  refine ⟨pages 1, pages 2, hok 1 (by decide), hok 2 (by decide), ?_, (htotal 2).trans hlength⟩
  rw [shows_ids hshown]
  exact hids

end ReadModel
