import Presto.Admin.Plan
import Presto.Lib.Tally
import Mathlib.Data.List.ReduceOption

/-!
# The import loses and duplicates no row

The row loop of `build_plan` takes every populated row of the transactions: it imports it,
quarantines it, keeps it as an opening balance, or records an error for its number (`Taken`). The
loop therefore accounts for the populated rows (`importRows_accounts`), the ids it imports and the
accounts it opens are distinct, and what an imported row names is known unless an error stands for
the row (`Imported`).
-/

namespace Admin

/-! ## What names mean -/

/-- The id is that of a category with the name, up to case. -/
def CategoryNamed (tools : Tools) (categories : List CategoryImport) (name : String)
    (id : Option String) : Prop :=
  ∃ category ∈ categories,
    tools.toLowercase category.name = tools.toLowercase name ∧ id = some category.id

/-- The id is that of an account with the name, up to case. -/
def AccountNamed (tools : Tools) (accounts : List AccountImport) (name : String)
    (id : Option String) : Prop :=
  ∃ account ∈ accounts,
    tools.toLowercase account.name = tools.toLowercase name ∧ id = some account.id

/-- The transaction comes from its row, and the categories and the accounts that the row names,
other than those of the system, are among the given ones. -/
structure TransactionImport.Resolved (tools : Tools) (bundle : ArchiveBundle)
    (accounts : List AccountImport) (categories : List CategoryImport)
    (t : TransactionImport) : Prop where
  row : (t.row, t.sourceRow) ∈ bundle.sheets.transactions.numbered 1
  fromCategory : ∀ name ∈ (entryNames (ownerAction bundle t.sourceRow) t.row).fromCategory,
    CategoryNamed tools categories name t.fromCategoryId
  toCategory : ∀ name ∈ (entryNames (ownerAction bundle t.sourceRow) t.row).toCategory,
    CategoryNamed tools categories name t.toCategoryId
  fromAccount : ∀ name ∈ (entryNames (ownerAction bundle t.sourceRow) t.row).fromName,
    isSystemAccount name = false → AccountNamed tools accounts name t.fromAccountId
  toAccount : ∀ name ∈ (entryNames (ownerAction bundle t.sourceRow) t.row).toName,
    isSystemAccount name = false → AccountNamed tools accounts name t.toAccountId

variable {tools : Tools} {bundle : ArchiveBundle} {identities : IdentityMap}
  {accounts : Accounts} {categories : Categories}

theorem mem_of_lookup {β : Type} {l : List (String × β)} {k : String} {b : β}
    (h : l.lookup k = some b) : (k, b) ∈ l := by
  obtain ⟨l₁, l₂, rfl, -⟩ := List.lookup_eq_some_iff.1 h
  simp

/-- The lookup of the accounts has the accounts of the plan under their names. -/
def Accounts.Known (tools : Tools) (s : Accounts) : Prop :=
  ∀ k id, (k, id) ∈ s.lookup →
    ∃ account ∈ s.imports, tools.toLowercase account.name = k ∧ account.id = id

theorem importAccount_known {columns : AccountColumns} {s s' : Accounts} {item : Row × Nat}
    (h : importAccount tools bundle identities columns s item = .ok s') (hs : s.Known tools) :
    s'.Known tools := by
  obtain ⟨row, number⟩ := item
  simp only [importAccount] at h
  split at h
  · cases h
    exact hs
  · rename_i name _
    simp only [Except.bind_eq_ok, Except.fromOption_eq_ok, Except.ensure_eq_ok,
      Except.pure_eq_ok] at h
    obtain ⟨id, hid, -, -, -, -, -, -, rfl⟩ := h
    intro k i hmem
    rcases List.mem_cons.1 hmem with heq | hmem
    · obtain ⟨rfl, rfl⟩ := Prod.mk.inj heq
      exact ⟨_, List.mem_append_right _ (List.mem_singleton_self _), rfl, rfl⟩
    · obtain ⟨account, haccount, hname⟩ := hs k i hmem
      exact ⟨account, List.mem_append_left _ haccount, hname⟩

theorem importAccounts_known {columns : AccountColumns} {s : Accounts}
    (h : importAccounts tools bundle identities columns = .ok s) : s.Known tools := by
  simp only [importAccounts, Except.bind_eq_ok, Except.ensure_eq_ok, Except.pure_eq_ok] at h
  obtain ⟨s, hfold, -, -, rfl⟩ := h
  refine Except.foldlM_induction (Accounts.Known tools) hfold ?_ ?_
  · intro k id hmem
    cases hmem
  · intro item _ s s' hs hstep
    exact importAccount_known hstep hs

/-- The lookup of the categories has the categories of the plan under their names. -/
def Categories.Known (tools : Tools) (s : Categories) : Prop :=
  ∀ k id, (k, id) ∈ s.lookup →
    ∃ category ∈ s.imports, tools.toLowercase category.name = k ∧ category.id = id

theorem importCategory_known {nameColumn isRealColumn : Nat} {s s' : Categories}
    {item : Row × Nat}
    (h : importCategory tools identities nameColumn isRealColumn s item = .ok s')
    (hs : s.Known tools) : s'.Known tools := by
  obtain ⟨row, number⟩ := item
  simp only [importCategory] at h
  split at h
  · cases h
    exact hs
  · simp only [Except.bind_eq_ok, Except.fromOption_eq_ok, Except.ensure_eq_ok,
      Except.pure_eq_ok] at h
    obtain ⟨id, hid, -, -, -, -, rfl⟩ := h
    intro k i hmem
    rcases List.mem_cons.1 hmem with heq | hmem
    · obtain ⟨rfl, rfl⟩ := Prod.mk.inj heq
      exact ⟨_, List.mem_append_right _ (List.mem_singleton_self _), rfl, rfl⟩
    · obtain ⟨category, hcategory, hname⟩ := hs k i hmem
      exact ⟨category, List.mem_append_left _ hcategory, hname⟩

theorem importCategories_known {isRealColumn : Nat} {s : Categories}
    (h : importCategories tools bundle identities isRealColumn = .ok s) : s.Known tools := by
  refine Except.foldlM_induction (Categories.Known tools) h ?_ ?_
  · intro k id hmem
    cases hmem
  · intro item _ s s' hs hstep
    exact importCategory_known hstep hs

theorem Accounts.Known.named (h : accounts.Known tools) {name id : String}
    (hfind : accounts.lookup.lookup (tools.toLowercase name) = some id) :
    AccountNamed tools accounts.imports name (some id) := by
  obtain ⟨account, hmem, hname, rfl⟩ := h _ _ (mem_of_lookup hfind)
  exact ⟨account, hmem, hname, rfl⟩

theorem Categories.Known.named (h : categories.Known tools) {name id : String}
    (hfind : categories.lookup.lookup (tools.toLowercase name) = some id) :
    CategoryNamed tools categories.imports name (some id) := by
  obtain ⟨category, hmem, hname, rfl⟩ := h _ _ (mem_of_lookup hfind)
  exact ⟨category, hmem, hname, rfl⟩

/-! ## What the loop does with a populated row -/

/-- A row is refused with an error, quarantined, kept as an opening balance of an account without
one, or imported; an import without errors for the row names what is known. -/
inductive Taken (tools : Tools) (accounts : Accounts) (categories : Categories)
    (source : SourceRow) (id : String) (s : Rows) : Rows → Prop
  | refused (reason : String) : Taken tools accounts categories source id s
      (s.recordError reason source.number)
  | quarantined (reason : String) : Taken tools accounts categories source id s
      (s.quarantine source reason)
  | opened (opening : AccountOpeningBalanceImport) (warnings : List ImportIssue)
      (hrow : opening.sourceRow = source.number)
      (hnew : opening.accountId ∉ s.openingAccountIds) :
      Taken tools accounts categories source id s
        { s with
          accountOpeningBalances := s.accountOpeningBalances ++ [opening]
          openingAccountIds := opening.accountId :: s.openingAccountIds
          openingReviewWarnings := s.openingReviewWarnings ++ warnings }
  | imported (t : TransactionImport) (hid : t.id = id) (hrow : t.row = source.row)
      (hnumber : t.sourceRow = source.number)
      (hfromCategory : t.fromCategoryId =
        (entryNames source.ownerAction source.row).fromCategory.bind fun name =>
          categories.lookup.lookup (tools.toLowercase name))
      (htoCategory : t.toCategoryId =
        (entryNames source.ownerAction source.row).toCategory.bind fun name =>
          categories.lookup.lookup (tools.toLowercase name))
      (hfromAccount : t.fromAccountId =
        (entryNames source.ownerAction source.row).fromName.bind fun name =>
          accounts.lookup.lookup (tools.toLowercase name))
      (htoAccount : t.toAccountId =
        (entryNames source.ownerAction source.row).toName.bind fun name =>
          accounts.lookup.lookup (tools.toLowercase name)) :
      Taken tools accounts categories source id s
        { s with
          errors := s.errors ++
            (unresolvedReferences tools accounts categories
              (entryNames source.ownerAction source.row)).map fun reason =>
                (reason, source.number)
          transactions := s.transactions ++ [t] }

theorem importOpening_taken {s s' : Rows} {source : SourceRow} {id date : String}
    {names : EntryNames} (h : importOpening tools accounts s source date names = .ok s') :
    Taken tools accounts categories source id s s' := by
  unfold importOpening at h
  split at h
  · split at h
    · cases h
      exact .quarantined _
    · split at h
      · cases h
        exact .refused _
      · split at h
        · cases h
          exact .refused _
        · rename_i hnew
          rw [Except.bind_eq_ok] at h
          obtain ⟨positive, -, h⟩ := h
          rw [Except.pure_eq_ok] at h
          subst h
          exact .opened _ _ rfl hnew
  · rw [Except.bind_eq_ok] at h
    obtain ⟨zeroAmount, -, h⟩ := h
    rw [Except.pure_eq_ok] at h
    subst h
    split
    · exact .quarantined _
    · exact .refused _

theorem importEntry_taken (s : Rows) (source : SourceRow) (id date : String) :
    Taken tools accounts categories source id s
      (importEntry tools bundle accounts categories s source id date
        (entryNames source.ownerAction source.row)) := by
  simp only [importEntry]
  split
  · exact .refused _
  · split
    · split
      · exact .quarantined _
      · exact .refused _
    · split
      · exact .refused _
      · split
        · exact .refused _
        · split
          · exact .refused _
          · split
            · exact .refused _
            · refine .imported _ ?_ ?_ ?_ ?_ ?_ ?_ ?_ <;> rfl

/-- The body of the loop takes the row, with an id that no row before it has or with none. -/
theorem importPopulated_taken {s s' : Rows} {source : SourceRow}
    (h : importPopulated tools bundle identities accounts categories s source = .ok s') :
    (∃ reason, s' = s.quarantine source reason) ∨
      (∃ reason, s' = s.recordError reason source.number) ∨
      ∃ id ∉ s.seenIds,
        Taken tools accounts categories source id { s with seenIds := id :: s.seenIds } s' := by
  unfold importPopulated at h
  split at h
  · cases h
    exact .inl ⟨_, rfl⟩
  · rw [Except.bind_eq_ok] at h
    obtain ⟨found, -, h⟩ := h
    cases found with
    | none =>
      cases h
      exact .inr (.inl ⟨_, rfl⟩)
    | some id =>
      simp only at h
      split at h
      · cases h
        exact .inr (.inl ⟨_, rfl⟩)
      · rename_i hnew
        refine .inr (.inr ⟨id, hnew, ?_⟩)
        split at h
        · cases h
          exact .quarantined _
        · split at h
          · exact importOpening_taken h
          · cases h
            exact importEntry_taken _ source id _

/-! ## The loop accounts for the populated rows -/

/-- The rows that are in a list, and the rows with an error. -/
def rowsTally : Tally Rows Nat := ⟨Rows.classified, fun s => s.errors.map Prod.snd⟩

theorem recordError_accounts (s : Rows) (reason : String) (number : Nat) :
    rowsTally.Accounts [number] s (s.recordError reason number) := by
  apply Tally.Accounts.mark
  · rfl
  · simp [rowsTally, Rows.recordError]
  · intro k hk
    simp only [rowsTally, Rows.recordError, List.map_append]
    exact List.mem_append_left _ hk

theorem quarantine_accounts (s : Rows) (source : SourceRow) (reason : String) :
    rowsTally.Accounts [source.number] s (s.quarantine source reason) := by
  apply Tally.Accounts.lay
  · simp only [rowsTally, Rows.classified, Rows.quarantine, List.map_append, List.map_singleton,
      List.append_assoc, List.singleton_append]
    rw [← List.append_assoc, ← List.append_assoc]
    exact List.perm_middle
  · exact List.Subset.refl _

theorem Taken.accounted {source : SourceRow} {id : String} {s s' : Rows}
    (h : Taken tools accounts categories source id s s') :
    rowsTally.Accounts [source.number] s s' := by
  cases h with
  | refused reason => exact recordError_accounts s reason _
  | quarantined reason => exact quarantine_accounts s source reason
  | opened opening warnings hrow =>
    apply Tally.Accounts.lay
    · simp only [rowsTally, Rows.classified, List.map_append, List.map_singleton, hrow]
      rw [← List.append_assoc]
      exact List.perm_append_singleton _ _
    · exact List.Subset.refl _
  | imported t _ _ hnumber =>
    apply Tally.Accounts.lay
    · simp only [rowsTally, Rows.classified, List.map_append, List.map_singleton, hnumber,
        List.append_assoc, List.singleton_append]
      exact List.perm_middle
    · intro k hk
      simp only [rowsTally, List.map_append]
      exact List.mem_append_left _ hk

theorem importPopulated_accounts {s s' : Rows} {source : SourceRow}
    (h : importPopulated tools bundle identities accounts categories s source = .ok s') :
    rowsTally.Accounts [source.number] s s' := by
  obtain ⟨reason, rfl⟩ | ⟨reason, rfl⟩ | ⟨id, -, htaken⟩ := importPopulated_taken h
  · exact quarantine_accounts s source reason
  · exact recordError_accounts s reason _
  · exact htaken.accounted

/-- Each populated row is in one list once, or has an error. -/
theorem importRows_accounts {s : Rows}
    (h : importRows tools bundle identities accounts categories = .ok s) :
    rowsTally.Accounts (populatedRows bundle) .empty s := by
  refine Tally.foldlM_accounts ?_ h
  intro item _ s s' hstep
  unfold importRow at hstep
  split at hstep <;> rename_i hpopulated
  · rw [if_pos hpopulated]
    exact importPopulated_accounts hstep
  · cases hstep
    rw [if_neg hpopulated]
    exact .refl _ _

/-! ## What has been imported -/

theorem nodup_concat {α : Type} {l : List α} {a : α} (h : l.Nodup) (ha : a ∉ l) :
    (l ++ [a]).Nodup := by
  rw [← List.concat_eq_append]
  exact h.concat ha

/-- Ids are imported once, accounts are opened once, and what an imported row names is known unless
an error stands for the row. -/
structure Imported (tools : Tools) (bundle : ArchiveBundle) (accounts : Accounts)
    (categories : Categories) (s : Rows) : Prop where
  ids : (s.transactions.map (·.id)).Nodup
  seen : ∀ t ∈ s.transactions, t.id ∈ s.seenIds
  openings : (s.accountOpeningBalances.map (·.accountId)).Nodup
  opened : ∀ o ∈ s.accountOpeningBalances, o.accountId ∈ s.openingAccountIds
  resolved : ∀ t ∈ s.transactions,
    t.Resolved tools bundle accounts.imports categories.imports ∨
      t.sourceRow ∈ s.errors.map Prod.snd

/-- A row without unresolved references names categories that are known. -/
theorem category_found {names : EntryNames}
    (h : unresolvedReferences tools accounts categories names = []) {name : String}
    (hname : name ∈ names.categories) :
    ∃ id, categories.lookup.lookup (tools.toLowercase name) = some id := by
  rw [unresolvedReferences, List.append_eq_nil_iff, List.map_eq_nil_iff,
    List.filter_eq_nil_iff] at h
  have hsome := h.1 name hname
  exact Option.ne_none_iff_exists'.1 fun hnone => hsome (by rw [hnone]; rfl)

/-- A row without unresolved references names accounts that are known, or those of the system. -/
theorem account_found {names : EntryNames}
    (h : unresolvedReferences tools accounts categories names = []) {name : String}
    (hname : name ∈ names.accounts) (hsystem : isSystemAccount name = false) :
    ∃ id, accounts.lookup.lookup (tools.toLowercase name) = some id := by
  rw [unresolvedReferences, List.append_eq_nil_iff, List.map_eq_nil_iff, List.map_eq_nil_iff,
    List.filter_eq_nil_iff, List.filter_eq_nil_iff] at h
  have hsome := h.2 name hname
  rw [hsystem] at hsome
  exact Option.ne_none_iff_exists'.1 fun hnone => hsome (by rw [hnone]; rfl)

namespace EntryNames

variable {names : EntryNames} {name : String}

theorem fromCategory_mem (h : names.fromCategory = some name) : name ∈ names.categories := by
  simp [categories, List.reduceOption_mem_iff, h]

theorem toCategory_mem (h : names.toCategory = some name) : name ∈ names.categories := by
  simp [categories, List.reduceOption_mem_iff, h]

theorem fromName_mem (h : names.fromName = some name) : name ∈ names.accounts := by
  simp [accounts, List.reduceOption_mem_iff, h]

theorem toName_mem (h : names.toName = some name) : name ∈ names.accounts := by
  simp [accounts, List.reduceOption_mem_iff, h]

end EntryNames

/-- What the imported row names resolves when the row has no unresolved references. -/
theorem resolved_of_found {source : SourceRow} {item : Row × Nat} {t : TransactionImport}
    (haccounts : accounts.Known tools) (hcategories : categories.Known tools)
    (hsource : source = sourceRow tools bundle item)
    (hitem : item ∈ bundle.sheets.transactions.numbered 1)
    (hrow : t.row = source.row) (hnumber : t.sourceRow = source.number)
    (hfromCategory : t.fromCategoryId =
      (entryNames source.ownerAction source.row).fromCategory.bind fun name =>
        categories.lookup.lookup (tools.toLowercase name))
    (htoCategory : t.toCategoryId =
      (entryNames source.ownerAction source.row).toCategory.bind fun name =>
        categories.lookup.lookup (tools.toLowercase name))
    (hfromAccount : t.fromAccountId =
      (entryNames source.ownerAction source.row).fromName.bind fun name =>
        accounts.lookup.lookup (tools.toLowercase name))
    (htoAccount : t.toAccountId =
      (entryNames source.ownerAction source.row).toName.bind fun name =>
        accounts.lookup.lookup (tools.toLowercase name))
    (hnone : unresolvedReferences tools accounts categories
      (entryNames source.ownerAction source.row) = []) :
    t.Resolved tools bundle accounts.imports categories.imports := by
  subst hsource
  have haction : ownerAction bundle t.sourceRow = (sourceRow tools bundle item).ownerAction := by
    rw [hnumber]
    rfl
  rw [← haction, ← hrow] at hnone hfromCategory htoCategory hfromAccount htoAccount
  constructor
  · rw [hrow, hnumber]
    exact hitem
  · intro name hname
    obtain ⟨id, hid⟩ := category_found hnone (EntryNames.fromCategory_mem hname)
    rw [hfromCategory, Option.mem_def.1 hname, Option.bind_some, hid]
    exact hcategories.named hid
  · intro name hname
    obtain ⟨id, hid⟩ := category_found hnone (EntryNames.toCategory_mem hname)
    rw [htoCategory, Option.mem_def.1 hname, Option.bind_some, hid]
    exact hcategories.named hid
  · intro name hname hsystem
    obtain ⟨id, hid⟩ := account_found hnone (EntryNames.fromName_mem hname) hsystem
    rw [hfromAccount, Option.mem_def.1 hname, Option.bind_some, hid]
    exact haccounts.named hid
  · intro name hname hsystem
    obtain ⟨id, hid⟩ := account_found hnone (EntryNames.toName_mem hname) hsystem
    rw [htoAccount, Option.mem_def.1 hname, Option.bind_some, hid]
    exact haccounts.named hid

namespace Imported

variable {s s' : Rows}

theorem empty : Imported tools bundle accounts categories .empty where
  ids := List.nodup_nil
  seen _ ht := absurd ht List.not_mem_nil
  openings := List.nodup_nil
  opened _ ho := absurd ho List.not_mem_nil
  resolved _ ht := absurd ht List.not_mem_nil

theorem refused (h : Imported tools bundle accounts categories s) (reason : String)
    (number : Nat) : Imported tools bundle accounts categories (s.recordError reason number) where
  ids := h.ids
  seen := h.seen
  openings := h.openings
  opened := h.opened
  resolved t ht := (h.resolved t ht).imp_right fun hmem => by
    simp only [Rows.recordError, List.map_append]
    exact List.mem_append_left _ hmem

theorem quarantined (h : Imported tools bundle accounts categories s) (source : SourceRow)
    (reason : String) :
    Imported tools bundle accounts categories (s.quarantine source reason) where
  ids := h.ids
  seen := h.seen
  openings := h.openings
  opened := h.opened
  resolved := h.resolved

/-- A row is taken with an id that is new. -/
theorem taken {source : SourceRow} {item : Row × Nat} {id : String}
    (h : Imported tools bundle accounts categories s)
    (haccounts : accounts.Known tools) (hcategories : categories.Known tools)
    (hsource : source = sourceRow tools bundle item)
    (hitem : item ∈ bundle.sheets.transactions.numbered 1) (hnew : id ∉ s.seenIds)
    (htaken : Taken tools accounts categories source id { s with seenIds := id :: s.seenIds } s') :
    Imported tools bundle accounts categories s' := by
  have hs : Imported tools bundle accounts categories { s with seenIds := id :: s.seenIds } :=
    { h with seen := fun t ht => List.mem_cons_of_mem _ (h.seen t ht) }
  cases htaken with
  | refused reason => exact hs.refused reason _
  | quarantined reason => exact hs.quarantined source reason
  | opened opening warnings hrow hfresh =>
    constructor
    · exact hs.ids
    · exact hs.seen
    · rw [List.map_append, List.map_singleton]
      refine nodup_concat hs.openings fun hmem => hfresh ?_
      obtain ⟨o, ho, heq⟩ := List.mem_map.1 hmem
      exact heq ▸ hs.opened o ho
    · intro o ho
      rcases List.mem_append.1 ho with ho | ho
      · exact List.mem_cons_of_mem _ (hs.opened o ho)
      · rw [List.mem_singleton.1 ho]
        exact List.mem_cons_self
    · exact hs.resolved
  | imported t hid hrow hnumber hfromCategory htoCategory hfromAccount htoAccount =>
    constructor
    · rw [List.map_append, List.map_singleton, hid]
      refine nodup_concat hs.ids fun hmem => hnew ?_
      obtain ⟨u, hu, heq⟩ := List.mem_map.1 hmem
      exact heq ▸ h.seen u hu
    · intro u hu
      rcases List.mem_append.1 hu with hu | hu
      · exact hs.seen u hu
      · rw [List.mem_singleton.1 hu, hid]
        exact List.mem_cons_self
    · exact hs.openings
    · exact hs.opened
    · intro u hu
      rw [List.map_append, List.mem_append]
      rcases List.mem_append.1 hu with hu | hu
      · exact (hs.resolved u hu).imp_right .inl
      · rw [List.mem_singleton.1 hu]
        -- the errors of the row are its unresolved references
        by_cases hnone : unresolvedReferences tools accounts categories
            (entryNames source.ownerAction source.row) = []
        · exact .inl (resolved_of_found haccounts hcategories hsource hitem hrow hnumber
            hfromCategory htoCategory hfromAccount htoAccount hnone)
        · obtain ⟨reason, hreason⟩ := List.exists_mem_of_ne_nil _ hnone
          refine .inr (.inr ?_)
          rw [List.map_map, List.mem_map]
          exact ⟨reason, hreason, hnumber.symm⟩

end Imported

theorem importRows_imported {s : Rows} (haccounts : accounts.Known tools)
    (hcategories : categories.Known tools)
    (h : importRows tools bundle identities accounts categories = .ok s) :
    Imported tools bundle accounts categories s := by
  refine Except.foldlM_induction (Imported tools bundle accounts categories) h .empty ?_
  intro item hitem s s' hs hstep
  unfold importRow at hstep
  split at hstep
  · obtain ⟨reason, rfl⟩ | ⟨reason, rfl⟩ | ⟨id, hnew, htaken⟩ := importPopulated_taken hstep
    · exact hs.quarantined _ reason
    · exact hs.refused reason _
    · exact hs.taken haccounts hcategories rfl hitem hnew htaken
  · cases hstep
    exact hs

/-! ## The plan -/

/-- The rows of the plan: its transactions, quarantined rows and opening balances. -/
def ImportPlan.classified (plan : ImportPlan) : List Nat :=
  plan.transactions.map (·.sourceRow) ++ plan.quarantined.map (·.sourceRow) ++
    plan.accountOpeningBalances.map (·.sourceRow)

theorem populatedRows_nodup (bundle : ArchiveBundle) : (populatedRows bundle).Nodup := by
  have hnumbers : ((bundle.sheets.transactions.numbered 1).map Prod.snd).Nodup := by
    rw [SheetArchive.numbered, List.map_drop, List.zipIdx_map_snd]
    exact (List.drop_sublist _ _).nodup List.nodup_range'
  exact hnumbers.sublist (List.filter_sublist.map _)

theorem mem_issues {s : Rows} {number : Nat} (h : number ∈ s.errors.map Prod.snd) :
    ∃ issue ∈ s.issues, issue.sourceSheet = "Transactions" ∧ issue.sourceRow = number := by
  obtain ⟨⟨reason, _⟩, hmem, rfl⟩ := List.mem_map.1 h
  exact ⟨_, List.mem_map_of_mem ((List.mem_insertionSort _).2 hmem), rfl, rfl⟩

theorem errors_eq_nil {s : Rows} (h : s.issues = []) : s.errors.map Prod.snd = [] := by
  rw [Rows.issues, List.map_eq_nil_iff] at h
  have hperm := List.perm_insertionSort (fun a b : String × Nat => a.1 ≤ b.1) s.errors
  rw [h] at hperm
  rw [← hperm.nil_eq, List.map_nil]

/-- A plan without validation issues has each populated row in one of its three lists, once, and
nothing else; its ids are distinct, it opens an account once, and what its transactions name is in
the plan. A populated row that is in none of the lists has an issue. -/
theorem buildPlan_rows {tools : Tools} {bundle : ArchiveBundle} {identities : IdentityMap}
    {plan : ImportPlan} (h : buildPlan tools bundle identities = .ok plan) :
    (plan.validationIssues = [] →
      plan.classified.Perm (populatedRows bundle) ∧ plan.classified.Nodup ∧
        (plan.transactions.map (·.id)).Nodup ∧
        (plan.accountOpeningBalances.map (·.accountId)).Nodup ∧
        ∀ t ∈ plan.transactions, t.Resolved tools bundle plan.accounts plan.categories) ∧
      ∀ number ∈ populatedRows bundle, number ∉ plan.classified →
        ∃ issue ∈ plan.validationIssues,
          issue.sourceSheet = "Transactions" ∧ issue.sourceRow = number := by
  simp only [buildPlan, Except.bind_eq_ok, Except.pure_eq_ok] at h
  obtain ⟨columns, -, accounts, haccounts, checkpoints, -, isRealColumn, -, categories,
    hcategories, -, -, rows, hrows, impacts, -, rfl⟩ := h
  have hall := importRows_accounts hrows
  have himported := importRows_imported (importAccounts_known haccounts)
    (importCategories_known hcategories) hrows
  constructor
  · intro hnone
    simp only [List.append_eq_nil_iff] at hnone
    have herrors := errors_eq_nil hnone.1.1.1
    have hperm : rows.classified.Perm (populatedRows bundle) := by
      simpa [rowsTally, Rows.classified, Rows.empty] using hall.perm_of_unmarked herrors
    refine ⟨hperm, hperm.nodup_iff.2 (populatedRows_nodup bundle), himported.ids,
      himported.openings, ?_⟩
    intro t ht
    refine (himported.resolved t ht).resolve_right fun hmem => ?_
    rw [herrors] at hmem
    cases hmem
  · intro number hnumber hout
    obtain ⟨issue, hmem, hissue⟩ := mem_issues (hall.marked_of_notMem hnumber hout)
    exact ⟨issue, by simp only [List.append_assoc]; exact List.mem_append_left _ hmem, hissue⟩

/-! An archive with one account, one category and one expense. -/

def textCell (text : String) : Option ArchiveCell :=
  if text = "" then none
  else some ⟨none, some (.object [("stringValue", .string text)]), none, none⟩

/-- The JSON of a cell that has a text. -/
def textCellJson (cell : Option ArchiveCell) : String :=
  match cell.bind (cellText ∘ some) with
  | some text => "\x7b\"entered\":null,\"effective\":\x7b\"stringValue\":\"" ++ text ++
      "\"\x7d,\"formatted\":null,\"dataSourceFormula\":null\x7d"
  | none => "null"

def textTools : Tools where
  toLowercase text := String.ofList (text.toList.map Char.toLower)
  isUuid text := text.length = 36
  encode
    | .row row => "[" ++ String.intercalate "," (row.map textCellJson) ++ "]"
    | .cell cell => textCellJson cell
    | _ => "null"
  sha256 _ := "4ae4469627461d7660f8d480862d6a79ac5d339f665c0e91874b456f89840aa5"

def lunchRow : Row := ["2026-08-03", "Lunch", "12.50", "EUR", "", "Food", "", "Cash", "Expense"].map
  textCell

def lunchArchive : ArchiveBundle where
  currentCanonicalMonth := "2026-09"
  sheets := {
    transactions := ⟨20, [["Date"].map textCell, lunchRow]⟩
    accounts := ⟨10, [["Name", "Type", "IsReal", "Currency", "IsActive", "Balance",
      "Actual Balance", "Reconciliation Amount", "Balance (EUR)", "Actual Balance (EUR)"].map
        textCell,
      ["Cash", "Cash", "true", "EUR", "true", "10", "10", "0", "10", "10"].map textCell]⟩
    budgets := ⟨3, [["Category", "Base", "IsReal"].map textCell, [],
      ["Food", "100", "true"].map textCell]⟩
    exchangeRates := ⟨0, []⟩
    accountCheckpoints := none }
  ownerReview := ⟨[], []⟩

def lunchIdentities : IdentityMap where
  transactionIds := [("2", "01990000-0000-7000-8000-000000000001")]
  accountIds := [("Cash", "01990000-0000-7000-8000-000000000002")]
  categoryIds := [("Food", "01990000-0000-7000-8000-000000000003")]

theorem buildPlan_lunch : (buildPlan textTools lunchArchive lunchIdentities).toOption.any
    (fun plan => plan.validationIssues = [] ∧ plan.transactions.length = 1) = true := by
  decide

/-- The expense is imported, once. -/
theorem buildPlan_rows_lunch : ∃ plan,
    buildPlan textTools lunchArchive lunchIdentities = .ok plan ∧
      plan.classified.Perm (populatedRows lunchArchive) ∧ plan.classified.Nodup ∧
      (plan.transactions.map (·.id)).Nodup ∧
      (plan.accountOpeningBalances.map (·.accountId)).Nodup ∧
      ∀ t ∈ plan.transactions, t.Resolved textTools lunchArchive plan.accounts plan.categories := by
  obtain ⟨plan, hplan, hclean⟩ := Except.exists_ok_of_any buildPlan_lunch
  have hnone := (of_decide_eq_true hclean).1
  exact ⟨plan, hplan, (buildPlan_rows hplan).1 hnone⟩

end Admin
