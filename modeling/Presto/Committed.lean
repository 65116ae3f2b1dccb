import Presto.Admin.Commit
import Presto.Import
import Presto.Backup

/-!
# What an import leaves

A commit appends the rows of the plan to tables that were empty (`commitImport_ok`), so a query by the
place of a row finds that row, and the counts are those of the plan (`perfect_of_holds`).
-/

namespace Admin

open Relational (Consistent insertAll rowsFor rowsFor_append rowsFor_cons rowsFor_flatMap selectRow
  countRows contents agrees)
open Server.Backup (FinanceTable schema tableSchema schema_table)
open Server.Backup.FinanceTable

variable {external : External} {archive : Archive} {identities : SavedIdentities}
  {plan : ImportPlan} {drawn : Nat} {db db' : FinanceDatabase}

/-! ## The rows have the types of their columns -/

@[simp] theorem admits_text (name value : String) :
    (Server.Backup.text name).admits (.text value) = true := rfl

@[simp] theorem admits_optionalText (name value : String) :
    (Server.Backup.optionalText name).admits (.text value) = true := rfl

@[simp] theorem admits_integer (name : String) (n : Int) :
    (Server.Backup.integer name).admits (.integer n) = true := rfl

@[simp] theorem admits_null (name : String) :
    (Server.Backup.optionalText name).admits .null = true := rfl

@[simp] theorem admits_bindText (name : String) (value : Option String) :
    (Server.Backup.optionalText name).admits (bindText value) = true := by
  cases value <;> rfl

@[simp] theorem admits_bindFlag (name : String) (flag : Bool) :
    (Server.Backup.integer name).admits (bindFlag flag) = true := rfl

@[simp] theorem admits_bindRow (name : String) (number : Nat) :
    (Server.Backup.integer name).admits (bindRow number) = true := rfl

/-- The row has the types of its table, which has no `INTEGER PRIMARY KEY`. -/
def Insertable (r : FinanceTable × Relational.Row) : Prop :=
  (tableSchema r.1).typed r.2 = true ∧ (tableSchema r.1).rowid = none

theorem accountRows_insertable (account : AccountImport) :
    Insertable (financeAccounts, accountRow account) ∧
      Insertable (financeAccountActuals, accountActualRow account) := by
  simp [Insertable, Relational.TableSchema.typed, tableSchema, accountRow, accountActualRow]

theorem checkpointTableRow_insertable (checkpoint : AccountCheckpointImport) :
    Insertable (financeAccountBalanceCheckpoints, checkpointTableRow archive checkpoint) := by
  simp [Insertable, Relational.TableSchema.typed, tableSchema, checkpointTableRow]

theorem openingBalanceRow_insertable (opening : AccountOpeningBalanceImport) :
    Insertable (financeAccountOpeningBalances, openingBalanceRow archive opening) := by
  simp [Insertable, Relational.TableSchema.typed, tableSchema, openingBalanceRow]

theorem categoryRows_insertable (category : CategoryImport) :
    Insertable (financeCategories, categoryRow category) ∧
      Insertable (categoryBudgetPeriods, budgetPeriodRow archive category) := by
  simp [Insertable, Relational.TableSchema.typed, tableSchema, categoryRow, budgetPeriodRow]

theorem transactionRows_insertable (t : TransactionImport × Nat) :
    ∀ r ∈ transactionRows external archive t, Insertable r := by
  intro r hr
  simp only [transactionRows, List.cons_append, List.mem_cons, List.mem_append, List.mem_map] at hr
  obtain rfl | rfl | ⟨side, -, rfl⟩ | ⟨column, -, rfl⟩ := hr
  · simp [Insertable, Relational.TableSchema.typed, tableSchema, transactionRow]
  · simp [Insertable, Relational.TableSchema.typed, tableSchema, revisionRow]
  · simp [Insertable, Relational.TableSchema.typed, tableSchema, valuationRow]
  · simp [Insertable, Relational.TableSchema.typed, tableSchema, sourceCellRow]

theorem sheetRows_insertable (item : QuarantineImport) (rate : Nat × String × String) :
    Insertable (financeQuarantinedRows, quarantinedRow archive item) ∧
      Insertable (financeExchangeRateSourceRows, rateSourceRow archive rate) := by
  simp [Insertable, Relational.TableSchema.typed, tableSchema, quarantinedRow, rateSourceRow]

theorem budgetRow_insertable (budget : BudgetMonthImport) :
    Insertable (budgetMonthSnapshots, budgetRow budget) := by
  simp [Insertable, Relational.TableSchema.typed, tableSchema, budgetRow]

theorem rateRow_insertable (rate : RateImport × Nat) :
    Insertable (exchangeRates, rateRow external archive drawn rate) := by
  simp [Insertable, Relational.TableSchema.typed, tableSchema, rateRow]

theorem runRows_insertable : Insertable (financeSourceArtifacts, artifactRow external archive) ∧
    Insertable (financeImportRuns, importRunRow external archive identities plan) := by
  simp [Insertable, Relational.TableSchema.typed, tableSchema, artifactRow, importRunRow]

theorem importRowsOf_insertable :
    ∀ r ∈ importRowsOf external archive identities plan drawn, Insertable r := by
  intro r hr
  simp only [importRowsOf, List.mem_append, List.mem_flatMap, List.mem_map, List.mem_cons,
    List.not_mem_nil, or_false] at hr
  obtain (((((((((⟨account, -, rfl | rfl⟩ | ⟨checkpoint, -, rfl⟩) | ⟨opening, -, rfl⟩) |
    ⟨category, -, rfl | rfl⟩) | ⟨t, -, ht⟩) | ⟨item, -, rfl⟩) | ⟨budget, -, rfl⟩) |
    ⟨rate, -, rfl⟩) | ⟨rate, -, rfl⟩) | rfl | rfl) := hr
  · exact (accountRows_insertable account).1
  · exact (accountRows_insertable account).2
  · exact checkpointTableRow_insertable checkpoint
  · exact openingBalanceRow_insertable opening
  · exact (@categoryRows_insertable archive category).1
  · exact (categoryRows_insertable category).2
  · exact transactionRows_insertable t r ht
  · exact (sheetRows_insertable item (0, "", "")).1
  · exact budgetRow_insertable budget
  · exact (sheetRows_insertable ⟨0, "", "", ""⟩ rate).2
  · exact rateRow_insertable rate
  · exact (@runRows_insertable external archive identities plan).1
  · exact (@runRows_insertable external archive identities plan).2

/-! ## The rows of each table -/

theorem rowsFor_map {α : Type} (l : List α) (u t : FinanceTable) (f : α → Relational.Row) :
    rowsFor (l.map fun a => (u, f a)) t = if u = t then l.map f else [] := by
  induction l with
  | nil => simp
  | cons a l ih =>
    rw [List.map_cons, rowsFor_cons, ih]
    by_cases h : u = t
    · simp [h]
    · simp [h]

theorem rowsFor_pairs {α : Type} (l : List α) {u v : FinanceTable} (t : FinanceTable)
    (f g : α → Relational.Row) (huv : u ≠ v) :
    rowsFor (l.flatMap fun a => [(u, f a), (v, g a)]) t =
      if u = t then l.map f else if v = t then l.map g else [] := by
  induction l with
  | nil => simp
  | cons a l ih =>
    rw [List.flatMap_cons, rowsFor_append, ih, rowsFor_cons, rowsFor_cons]
    by_cases hu : u = t
    · subst hu
      simp [huv.symm]
    · by_cases hv : v = t
      · simp [hu, hv]
      · simp [hu, hv]

theorem map_zipIdx_fst {α β : Type} (l : List α) (f : α → β) :
    (l.zipIdx.map fun p => f p.1) = l.map f := by
  have hcomp : (fun p : α × Nat => f p.1) = f ∘ Prod.fst := rfl
  rw [hcomp, ← List.map_map, List.zipIdx_map_fst]

theorem flatMap_zipIdx_fst {α β : Type} (l : List α) (f : α → List β) :
    (l.zipIdx.flatMap fun p => f p.1) = l.flatMap f := by
  rw [List.flatMap_def, List.flatMap_def, map_zipIdx_fst]

/-- What the transactions put into each table. -/
theorem rowsFor_transactions (l : List TransactionImport) (u : FinanceTable) :
    rowsFor (l.zipIdx.flatMap (transactionRows external archive)) u =
      if financeTransactions = u then l.map (transactionRow archive)
      else if financeTransactionRevisions = u then
        l.zipIdx.map fun t => revisionRow external (external.now t.2) t.1
      else if transactionValuations = u then
        l.flatMap fun t => valuationSides.map (valuationRow external t)
      else if transactionValuationSourceCells = u then
        l.flatMap fun t => valuationColumns.map (sourceCellRow external t)
      else [] := by
  rw [rowsFor_flatMap]
  simp only [transactionRows, List.cons_append, rowsFor_cons, rowsFor_append, rowsFor_map]
  cases u with
  | financeTransactions => simpa [← List.map_eq_flatMap] using map_zipIdx_fst l _
  | financeTransactionRevisions => simp [← List.map_eq_flatMap]
  | transactionValuations =>
    simpa using flatMap_zipIdx_fst l fun t => valuationSides.map (valuationRow external t)
  | transactionValuationSourceCells =>
    simpa using flatMap_zipIdx_fst l fun t => valuationColumns.map (sourceCellRow external t)
  | _ => simp

/-- The rows of a plan for each table. -/
def plannedRows (external : External) (archive : Archive) (identities : SavedIdentities)
    (plan : ImportPlan) (drawn : Nat) : FinanceTable → List Relational.Row
  | financeAccounts => plan.accounts.map accountRow
  | financeAccountActuals => plan.accounts.map accountActualRow
  | financeAccountBalanceCheckpoints => plan.accountCheckpoints.map (checkpointTableRow archive)
  | financeAccountOpeningBalances => plan.accountOpeningBalances.map (openingBalanceRow archive)
  | financeCategories => plan.categories.map categoryRow
  | categoryBudgetPeriods => plan.categories.map (budgetPeriodRow archive)
  | financeTransactions => plan.transactions.map (transactionRow archive)
  | financeTransactionRevisions =>
    plan.transactions.zipIdx.map fun t => revisionRow external (external.now t.2) t.1
  | transactionValuations =>
    plan.transactions.flatMap fun t => valuationSides.map (valuationRow external t)
  | transactionValuationSourceCells =>
    plan.transactions.flatMap fun t => valuationColumns.map (sourceCellRow external t)
  | financeQuarantinedRows => plan.quarantined.map (quarantinedRow archive)
  | budgetMonthSnapshots => plan.budgets.map budgetRow
  | financeExchangeRateSourceRows => plan.rateRows.map (rateSourceRow archive)
  | exchangeRates => plan.normalizedRates.zipIdx.map (rateRow external archive drawn)
  | financeSourceArtifacts => [artifactRow external archive]
  | financeImportRuns => [importRunRow external archive identities plan]
  | _ => []

/-- What an import inserts into each table. -/
theorem rowsFor_importRowsOf (t : FinanceTable) :
    rowsFor (importRowsOf external archive identities plan drawn) t =
      plannedRows external archive identities plan drawn t := by
  cases t <;> simp [plannedRows, importRowsOf, rowsFor_append, rowsFor_pairs, rowsFor_map,
    rowsFor_cons, rowsFor_transactions]

/-! ## What a commit leaves -/

theorem agrees_iff {t : Relational.TableSchema FinanceTable}
    {values : List (String × Relational.Value)} {row : Relational.Row} :
    agrees t values row = true ↔ values.Forall fun c => t.value row c.1 = c.2 := by
  simp [agrees, List.forall_iff_forall_mem]

/-- The tables that an import fills hold the rows of the plan, and its run is there. -/
structure Holds (external : External) (archive : Archive) (identities : SavedIdentities)
    (plan : ImportPlan) (drawn : Nat) (db : FinanceDatabase) : Prop where
  consistent : Consistent (schema external.affinity) db
  tables : ∀ t ∈ importedTables,
    contents db t = plannedRows external archive identities plan drawn t
  run : importCount external archive db = 1

/-- A commit finds the archive imported, or fills tables that were empty. -/
theorem commitImport_ok (h : commitImport external archive identities plan drawn db = .ok db')
    (hdb : Consistent (schema external.affinity) db) :
    (0 < importCount external archive db ∧ db' = db) ∨
      ((∀ t ∈ importedTables, contents db t = []) ∧ importCount external archive db = 0 ∧
        Holds external archive identities plan drawn db' ∧
        ∀ t, contents db' t = contents db t ++ plannedRows external archive identities plan drawn t) := by
  unfold commitImport at h
  by_cases hcount : 0 < importCount external archive db
  · rw [if_pos hcount, Except.ok.injEq] at h
    exact .inl ⟨hcount, h.symm⟩
  · rw [if_neg hcount] at h
    simp only [Except.bind_eq_ok, Except.ensure_eq_ok, List.all_eq_true, List.isEmpty_iff] at h
    obtain ⟨_, hempty, hinsert⟩ := h
    obtain ⟨hrows, hdb'⟩ := Relational.insertAll_ok hinsert hdb importRowsOf_insertable
    have hcontents : ∀ t, contents db' t =
        contents db t ++ plannedRows external archive identities plan drawn t := by
      intro t
      rw [hrows, rowsFor_importRowsOf]
    have hnone : importCount external archive db = 0 := by omega
    have hrun : agrees (tableSchema financeImportRuns)
        [("source_digest", .text archive.exportSha256)]
        (importRunRow external archive identities plan) = true := agrees_iff.2 rfl
    refine .inr ⟨hempty, hnone, ⟨hdb', fun t ht => ?_, ?_⟩, hcontents⟩
    · rw [hcontents, hempty t ht, List.nil_append]
    · unfold importCount countRows at hnone ⊢
      rw [hcontents, List.countP_append, hnone, plannedRows]
      simp [hrun]

/-! ## Verification -/

theorem agrees_transaction (t : TransactionImport) : agrees (tableSchema financeTransactions)
    (sourceValues archive archive.transactionsTitle) (transactionRow archive t) = true :=
  agrees_iff.2 ⟨rfl, rfl⟩

namespace Holds

variable (h : Holds external archive identities plan drawn db)

include h

/-- A planned row is found by its key. -/
theorem selectRow_eq {t : FinanceTable} (values : List (String × Relational.Value))
    {row : Relational.Row} (ht : t ∈ importedTables)
    (hkey : values.map Prod.fst ∈ (tableSchema t).keys) (hnull : ∀ c ∈ values, c.2 ≠ .null)
    (hmem : row ∈ plannedRows external archive identities plan drawn t)
    (hrow : agrees (tableSchema t) values row = true) :
    selectRow (schema external.affinity) db t values = some row := by
  refine Relational.selectRow_eq_some (h.consistent.intact t) hkey hnull ?_ hrow
  rw [h.tables t ht]
  exact hmem

/-- A planned row is found by its place in the archive. -/
theorem selectSource_eq {t : FinanceTable} (title : String) (number : Nat) {row : Relational.Row}
    (ht : t ∈ importedTables)
    (hkey : ["source_workbook_id", "source_sheet", "source_row"] ∈ (tableSchema t).keys)
    (hmem : row ∈ plannedRows external archive identities plan drawn t)
    (hrow : agrees (tableSchema t)
      (sourceValues archive title ++ [("source_row", bindRow number)]) row = true) :
    selectSource external archive db t title number = some row := by
  refine h.selectRow_eq _ ht hkey ?_ hmem hrow
  simp [sourceValues, bindRow]

theorem transaction_source {t : TransactionImport} (ht : t ∈ plan.transactions) :
    selectSource external archive db financeTransactions archive.transactionsTitle t.sourceRow =
      some (transactionRow archive t) := by
  refine h.selectSource_eq _ _ (by decide) (by decide) (List.mem_map_of_mem ht) ?_
  exact agrees_iff.2 ⟨rfl, rfl, rfl⟩

/-- The rows of a table come from a sheet. -/
theorem countSource_eq {t : FinanceTable} (title : String) (ht : t ∈ importedTables)
    (hrows : ∀ row ∈ plannedRows external archive identities plan drawn t,
      agrees (tableSchema t) (sourceValues archive title) row = true) :
    countSource external archive db t title =
      (plannedRows external archive identities plan drawn t).length := by
  rw [← h.tables t ht]
  apply Relational.countRows_of_all
  rw [h.tables t ht]
  exact hrows

/-- The rows of a table are about transactions of the plan. -/
theorem countOfTransactions_eq {t : FinanceTable} (ht : t ∈ importedTables)
    (hrows : ∀ row ∈ plannedRows external archive identities plan drawn t,
      ∃ transaction ∈ plan.transactions,
        (tableSchema t).value row "transaction_id" = .text transaction.id) :
    countOfTransactions archive db t =
      (plannedRows external archive identities plan drawn t).length := by
  unfold countOfTransactions
  rw [← h.tables t ht, List.countP_eq_length]
  intro row hrow
  rw [h.tables t ht] at hrow
  obtain ⟨transaction, htransaction, hid⟩ := hrows row hrow
  have hmem : transactionRow archive transaction ∈ contents db financeTransactions := by
    rw [h.tables financeTransactions (by decide)]
    exact List.mem_map_of_mem htransaction
  rw [decide_eq_true_eq, hid]
  exact List.mem_map.2 ⟨_, List.mem_filter.2 ⟨hmem, agrees_transaction transaction⟩, rfl⟩

theorem missingTransactions_eq : (parity external archive plan db).missingTransactions = [] := by
  simp only [parity, List.map_eq_nil_iff, List.filter_eq_nil_iff]
  intro t ht
  simp [h.transaction_source ht]

theorem changedTransactions_eq : (parity external archive plan db).changedTransactions = [] := by
  simp only [parity, List.map_eq_nil_iff, List.filter_eq_nil_iff]
  intro t ht
  have hsame : rowHas financeTransactions (some (transactionRow archive t))
      [("original_row_fingerprint", .text t.originalRowFingerprint)] = true := agrees_iff.2 rfl
  simp [h.transaction_source ht, hsame]

theorem referenceRowMismatches_eq :
    (parity external archive plan db).referenceRowMismatches = [] := by
  simp only [parity, List.append_eq_nil_iff, List.map_eq_nil_iff, List.filter_eq_nil_iff]
  constructor
  · intro account haccount
    have hfound := h.selectRow_eq (t := financeAccounts) [("source_name", .text account.name)]
      (by decide) (by simp [tableSchema]) (by simp) (List.mem_map_of_mem haccount)
      (agrees_iff.2 rfl)
    have hsame : rowHas financeAccounts (some (accountRow account))
        [("source_row_json", .text account.sourceRowJson)] = true := agrees_iff.2 rfl
    simp [hfound, hsame]
  · intro category hcategory
    have hfound := h.selectRow_eq (t := financeCategories) [("name", .text category.name)]
      (by decide) (by simp [tableSchema]) (by simp) (List.mem_map_of_mem hcategory)
      (agrees_iff.2 rfl)
    have hsame : rowHas financeCategories (some (categoryRow category))
        [("source_row_json", .text category.sourceRowJson)] = true := agrees_iff.2 rfl
    simp [hfound, hsame]

theorem budgetRowMismatches_eq : (parity external archive plan db).budgetRowMismatches = [] := by
  simp only [parity, List.map_eq_nil_iff, List.filter_eq_nil_iff]
  intro budget hbudget
  have hfound := h.selectRow_eq (t := budgetMonthSnapshots)
    [("category_id", .text budget.categoryId), ("month", .text budget.month)] (by decide)
    (by simp [tableSchema]) (by simp) (List.mem_map_of_mem hbudget) (agrees_iff.2 ⟨rfl, rfl⟩)
  have hsame : rowHas budgetMonthSnapshots (some (budgetRow budget))
      [("source_cells_json", .text budget.sourceCellsJson),
        ("reallocation_impact_eur", .text budget.reallocationImpactEur)] = true :=
    agrees_iff.2 ⟨rfl, rfl⟩
  simp [hfound, hsame]

theorem quarantineRowMismatches_eq :
    (parity external archive plan db).quarantineRowMismatches = [] := by
  simp only [parity, List.map_eq_nil_iff, List.filter_eq_nil_iff]
  intro item hitem
  have hfound := h.selectSource_eq (t := financeQuarantinedRows)
    archive.transactionsTitle item.sourceRow (by decide) (by decide)
    (List.mem_map_of_mem hitem) (agrees_iff.2 ⟨rfl, rfl, rfl⟩)
  have hsame : rowHas financeQuarantinedRows (some (quarantinedRow archive item))
      [("original_row_fingerprint", .text item.fingerprint)] = true := agrees_iff.2 rfl
  simp [hfound, hsame]

theorem missingRateRows_eq : (parity external archive plan db).missingRateRows = [] := by
  simp only [parity, List.map_eq_nil_iff, List.filter_eq_nil_iff]
  intro rate hrate
  have hfound := h.selectSource_eq (t := financeExchangeRateSourceRows)
    archive.exchangeRatesTitle rate.1 (by decide) (by decide)
    (List.mem_map_of_mem hrate) (agrees_iff.2 ⟨rfl, rfl, rfl⟩)
  have hsame : rowHas financeExchangeRateSourceRows (some (rateSourceRow archive rate))
      [("original_row_fingerprint", .text rate.2.1)] = true := agrees_iff.2 rfl
  simp [hfound, hsame]

theorem accountCheckpointMismatches_eq :
    (parity external archive plan db).accountCheckpointMismatches = [] := by
  simp only [parity, List.map_eq_nil_iff, List.filter_eq_nil_iff]
  intro checkpoint hcheckpoint
  have hfound := h.selectRow_eq (t := financeAccountBalanceCheckpoints)
    (sourceValues archive archive.accountsTitle ++
      [("source_row", bindRow checkpoint.sourceRow),
        ("source_column", .text checkpoint.sourceColumn)]) (by decide)
    (by simp [sourceValues, tableSchema]) (by simp [sourceValues, bindRow])
    (List.mem_map_of_mem hcheckpoint)
    (agrees_iff.2 ⟨rfl, rfl, rfl, rfl⟩)
  have hsame : rowHas financeAccountBalanceCheckpoints
      (some (checkpointTableRow archive checkpoint))
      [("account_id", .text checkpoint.accountId),
        ("checkpoint_date", bindText checkpoint.checkpointDate),
        ("balance_decimal", bindText checkpoint.balanceDecimal),
        ("source_state", .text checkpoint.sourceState),
        ("source_header_json", .text checkpoint.sourceHeaderJson),
        ("source_cell_json", .text checkpoint.sourceCellJson)] = true :=
    agrees_iff.2 ⟨rfl, rfl, rfl, rfl, rfl, rfl⟩
  simp [hfound, hsame]

theorem accountOpeningBalanceMismatches_eq :
    (parity external archive plan db).accountOpeningBalanceMismatches = [] := by
  simp only [parity, List.map_eq_nil_iff, List.filter_eq_nil_iff]
  intro opening hopening
  have hfound := h.selectSource_eq (t := financeAccountOpeningBalances)
    archive.transactionsTitle opening.sourceRow (by decide) (by decide)
    (List.mem_map_of_mem hopening) (agrees_iff.2 ⟨rfl, rfl, rfl⟩)
  have hsame : rowHas financeAccountOpeningBalances (some (openingBalanceRow archive opening))
      [("account_id", .text opening.accountId), ("effective_date", .text opening.effectiveDate),
        ("balance_decimal", .text opening.balanceDecimal),
        ("original_row_fingerprint", .text opening.sourceRowFingerprint),
        ("source_row_json", .text opening.sourceRowJson)] = true :=
    agrees_iff.2 ⟨rfl, rfl, rfl, rfl, rfl⟩
  simp [hfound, hsame]

theorem sourceTransactionCount_eq : (parity external archive plan db).sourceTransactionCount =
    plan.transactions.length := by
  have hcount := h.countSource_eq (t := financeTransactions)
    archive.transactionsTitle (by decide) fun row hrow => by
      obtain ⟨t, -, rfl⟩ := List.mem_map.1 hrow
      exact agrees_transaction t
  simpa [parity, plannedRows] using hcount

theorem rateCount_eq :
    (parity external archive plan db).rateCount = plan.rateRows.length := by
  have hcount := h.countSource_eq (t := financeExchangeRateSourceRows)
    archive.exchangeRatesTitle (by decide) fun row hrow => by
      obtain ⟨rate, -, rfl⟩ := List.mem_map.1 hrow
      exact agrees_iff.2 ⟨rfl, rfl⟩
  simpa [parity, plannedRows] using hcount

theorem normalizedRateCount_eq :
    (parity external archive plan db).normalizedRateCount = plan.normalizedRates.length := by
  have hcount := h.countSource_eq (t := exchangeRates)
    archive.exchangeRatesTitle (by decide) fun row hrow => by
      obtain ⟨rate, -, rfl⟩ := List.mem_map.1 hrow
      exact agrees_iff.2 ⟨rfl, rfl⟩
  simpa [parity, plannedRows] using hcount

theorem quarantinedCount_eq :
    (parity external archive plan db).quarantinedCount = plan.quarantined.length := by
  have hcount := h.countSource_eq (t := financeQuarantinedRows)
    archive.transactionsTitle (by decide) fun row hrow => by
      obtain ⟨item, -, rfl⟩ := List.mem_map.1 hrow
      exact agrees_iff.2 ⟨rfl, rfl⟩
  simpa [parity, plannedRows] using hcount

theorem accountCheckpointCount_eq :
    (parity external archive plan db).accountCheckpointCount = plan.accountCheckpoints.length := by
  have hcount := h.countSource_eq (t := financeAccountBalanceCheckpoints)
    archive.accountsTitle (by decide) fun row hrow => by
      obtain ⟨checkpoint, -, rfl⟩ := List.mem_map.1 hrow
      exact agrees_iff.2 ⟨rfl, rfl⟩
  simpa [parity, plannedRows] using hcount

theorem accountOpeningBalanceCount_eq :
    (parity external archive plan db).accountOpeningBalanceCount =
      plan.accountOpeningBalances.length := by
  have hcount := h.countSource_eq (t := financeAccountOpeningBalances)
    archive.transactionsTitle (by decide) fun row hrow => by
      obtain ⟨opening, -, rfl⟩ := List.mem_map.1 hrow
      exact agrees_iff.2 ⟨rfl, rfl⟩
  simpa [parity, plannedRows] using hcount

theorem transactionRevisionCount_eq :
    (parity external archive plan db).transactionRevisionCount = plan.transactions.length := by
  have hcount := h.countOfTransactions_eq (t := financeTransactionRevisions) (by decide)
    fun row hrow => by
      obtain ⟨t, ht, rfl⟩ := List.mem_map.1 hrow
      exact ⟨t.1, List.fst_mem_of_mem_zipIdx ht, rfl⟩
  simpa [parity, plannedRows] using hcount

theorem valuationCount_eq :
    (parity external archive plan db).valuationCount = plan.transactions.length * 2 := by
  have hcount := h.countOfTransactions_eq (t := transactionValuations) (by decide)
    fun row hrow => by
      obtain ⟨t, ht, hside⟩ := List.mem_flatMap.1 hrow
      obtain ⟨side, -, rfl⟩ := List.mem_map.1 hside
      exact ⟨t, ht, rfl⟩
  simpa [parity, plannedRows, List.length_flatMap, valuationSides] using hcount

theorem sourceCellCount_eq :
    (parity external archive plan db).sourceCellCount = plan.transactions.length * 8 := by
  have hcount := h.countOfTransactions_eq (t := transactionValuationSourceCells) (by decide)
    fun row hrow => by
      obtain ⟨t, ht, hcolumn⟩ := List.mem_flatMap.1 hrow
      obtain ⟨column, -, rfl⟩ := List.mem_map.1 hcolumn
      exact ⟨t, ht, rfl⟩
  simpa [parity, plannedRows, List.length_flatMap, valuationColumns] using hcount

theorem wholeTableCounts_eq :
    (parity external archive plan db).budgetPeriodCount = plan.categories.length ∧
      (parity external archive plan db).accountActualCount = plan.accounts.length := by
  have hperiods := h.tables categoryBudgetPeriods (by decide)
  have hactuals := h.tables financeAccountActuals (by decide)
  simp [parity, hperiods, hactuals, plannedRows]

/-- **Verification finds the plan exactly**, where every input row is classified and the checkpoints
are archived. -/
theorem perfect (hcovered : plan.classified.length = plan.sourceTransactionInputRows)
    (hcheckpoints : plan.accountCheckpointsPresent = true) :
    (parity external archive plan db).perfect plan = true := by
  have hclassified : (parity external archive plan db).classifiedSourceRows =
      plan.sourceTransactionInputRows := by
    rw [← hcovered]
    simp [parity, ImportPlan.classified, Nat.add_assoc]
  simp [Parity.perfect, h.missingTransactions_eq, h.changedTransactions_eq,
    h.referenceRowMismatches_eq, h.budgetRowMismatches_eq, h.quarantineRowMismatches_eq,
    h.missingRateRows_eq, h.accountCheckpointMismatches_eq, h.accountOpeningBalanceMismatches_eq,
    h.sourceTransactionCount_eq, h.rateCount_eq, h.normalizedRateCount_eq, h.quarantinedCount_eq,
    h.accountCheckpointCount_eq, h.accountOpeningBalanceCount_eq, h.transactionRevisionCount_eq,
    h.valuationCount_eq, h.sourceCellCount_eq, h.wholeTableCounts_eq, hclassified, hcheckpoints]

end Holds

/-- A plan without validation issues classifies every input row. -/
theorem classified_of_valid {tools : Tools} {bundle : ArchiveBundle} {ids : IdentityMap}
    (h : buildPlan tools bundle ids = .ok plan) (hvalid : plan.validationIssues = []) :
    plan.classified.length = plan.sourceTransactionInputRows := by
  simp only [buildPlan, Except.bind_eq_ok, Except.pure_eq_ok] at h
  obtain ⟨columns, -, accounts, -, checkpoints, -, isRealColumn, -, categories, -, -, -, rows,
    hrows, impacts, -, rfl⟩ := h
  simp only [List.append_eq_nil_iff] at hvalid
  have hperm : rows.classified.Perm (populatedRows bundle) := by
    simpa [rowsTally, Rows.classified, Rows.empty] using
      (importRows_accounts hrows).perm_of_unmarked (errors_eq_nil hvalid.1.1.1)
  exact hperm.length_eq

end Admin
