import Presto.Server.Backup

/-!
# Backup and restore

A row survives its JSON form (`restoreRow_sqliteRowJson`), and the tables of a database with its
constraints are restored one after another: when snapshots and ledger movements are inserted, the
closures that would forbid them are not there yet (`restoreTables_runs`). Exporting again finds the
openings that the first export seeded (`seedOpeningState_again`), so the rows are the same. A rejected
upload was never committed.
-/

namespace Server.Backup

open Relational FinanceTable

variable {Body : Type}

@[simp] theorem schema_table (affinity : Affinity) (t : FinanceTable) :
    (schema affinity).table t = tableSchema t := rfl

@[simp] theorem schema_affinity (affinity : Affinity) : (schema affinity).affinity = affinity := rfl

/-! ## Opening state -/

/-- What an export does to the rows before it reads them. -/
structure Seeded (external : External Body) (db db₁ : Database FinanceTable) : Prop where
  steps : Relation.ReflTransGen (Step (schema external.affinity)) db db₁
  others : ∀ t, t ≠ budgetOpeningState → db₁ t = db t
  openings : ∀ category month, hasOpening (contents db) category month = true →
    hasOpening (contents db₁) category month = true

theorem Seeded.refl {external : External Body} (db : Database FinanceTable) :
    Seeded external db db :=
  ⟨.refl, fun _ _ => rfl, fun _ _ h => h⟩

theorem Seeded.trans {external : External Body} {db db₁ db₂ : Database FinanceTable}
    (h : Seeded external db db₁) (h' : Seeded external db₁ db₂) : Seeded external db db₂ :=
  ⟨h.steps.trans h'.steps, fun t ht => (h'.others t ht).trans (h.others t ht),
    fun c m ho => h'.openings c m (h.openings c m ho)⟩

theorem openingRow_ok {first verifiedAt : String} {snapshot opening : Row}
    (h : openingRow first verifiedAt snapshot = .ok opening) :
    ∃ category balance source,
      (tableSchema budgetMonthSnapshots).value snapshot "category_id" = .text category ∧
        opening = [.text category, .text first, .text balance, .text "verified-canonical-import",
          .text verifiedAt, .text source] := by
  have htext : ∀ {v : Value} {s : String}, textOf v = .ok s → v = .text s := by
    intro v s hv
    cases v <;> simp [textOf] at hv
    rw [hv]
  simp only [openingRow, Except.bind_eq_ok, Except.mapError_eq_ok, Except.pure_eq_ok] at h
  obtain ⟨balance, _, category, hcategory, source, _, rfl⟩ := h
  exact ⟨category, balance, source, htext hcategory, rfl⟩

/-- The snapshot of an opening gives one at any other time. -/
theorem openingRow_verifiedAt {first verifiedAt : String} {snapshot opening : Row}
    (h : openingRow first verifiedAt snapshot = .ok opening) (verifiedAt' : String) :
    ∃ opening', openingRow first verifiedAt' snapshot = .ok opening' := by
  simp only [openingRow, Except.bind_eq_ok, Except.mapError_eq_ok, Except.pure_eq_ok] at h ⊢
  obtain ⟨balance, hbalance, category, hcategory, source, hsource, _⟩ := h
  exact ⟨_, balance, hbalance, category, hcategory, source, hsource, rfl⟩

section

variable {external : External Body} {category first balance verified verifiedAt source : String}

theorem typed_opening : (tableSchema budgetOpeningState).typed [.text category, .text first,
    .text balance, .text verified, .text verifiedAt, .text source] = true := rfl

theorem opening_category : (tableSchema budgetOpeningState).value [.text category, .text first,
    .text balance, .text verified, .text verifiedAt, .text source] "category_id" =
      .text category := rfl

theorem opening_month : (tableSchema budgetOpeningState).value [.text category, .text first,
    .text balance, .text verified, .text verifiedAt, .text source] "effective_before_month" =
      .text first := rfl

theorem clashes_opening (other : Row) :
    (tableSchema budgetOpeningState).clashes [.text category, .text first, .text balance,
        .text verified, .text verifiedAt, .text source] other =
      (decide ((tableSchema budgetOpeningState).value other "category_id" = .text category) &&
        decide ((tableSchema budgetOpeningState).value other "effective_before_month" =
          .text first)) := by
  have hkeys : (tableSchema budgetOpeningState).keys =
      [["category_id", "effective_before_month"]] := rfl
  simp [TableSchema.clashes, hkeys, opening_category, opening_month, eq_comm]

/-- An opening is inserted unless the category has one. -/
theorem insertOrIgnore_opening (db : Database FinanceTable) :
    insertOrIgnore (schema external.affinity) db budgetOpeningState [.text category, .text first,
        .text balance, .text verified, .text verifiedAt, .text source] =
      if hasOpening (contents db) (.text category) first then .ok db
      else insert (schema external.affinity) db budgetOpeningState [.text category, .text first,
        .text balance, .text verified, .text verifiedAt, .text source] := by
  have hstored := TableSchema.storedRow_of_typed external.affinity
    (TableSchema.nextRowid (db budgetOpeningState))
    (@typed_opening category first balance verified verifiedAt source)
  have hclash : (contents db budgetOpeningState).any ((tableSchema budgetOpeningState).clashes
      [.text category, .text first, .text balance, .text verified, .text verifiedAt,
        .text source]) = hasOpening (contents db) (.text category) first :=
    congrArg (List.any _) (funext clashes_opening)
  simp only [insertOrIgnore, schema_table, schema_affinity, hstored, hclash]

end

/-- One turn of the loop: the category of the snapshot has an opening afterwards. -/
theorem seed_turn {external : External Body} {db db₁ : Database FinanceTable}
    {first verifiedAt : String} {snapshot opening : Row}
    (hI : ∀ t, (tableSchema t).Intact (db t))
    (hopening : openingRow first verifiedAt snapshot = .ok opening)
    (h : insertOrIgnore (schema external.affinity) db budgetOpeningState opening = .ok db₁) :
    Seeded external db db₁ ∧ hasOpening (contents db₁)
      ((tableSchema budgetMonthSnapshots).value snapshot "category_id") first = true := by
  obtain ⟨category, balance, source, hcategory, rfl⟩ := openingRow_ok hopening
  rw [insertOrIgnore_opening] at h
  rw [hcategory]
  by_cases hhas : hasOpening (contents db) (.text category) first = true
  · rw [if_pos hhas, Except.ok.injEq] at h
    subst h
    exact ⟨Seeded.refl db, hhas⟩
  · rw [if_neg hhas] at h
    have hstored := TableSchema.storedRow_of_typed external.affinity
      (TableSchema.nextRowid (db budgetOpeningState))
      (@typed_opening category first balance "verified-canonical-import" verifiedAt source)
    obtain ⟨_, _, _, _, _, n, hn, rfl⟩ := (insert_eq_ok hstored).1 h
    have hlast : ∀ x ∈ db budgetOpeningState, x.1 < n := by
      intro x hx
      rw [(TableSchema.rowidOf_spec hn).2 rfl]
      exact lt_nextRowid (hI budgetOpeningState).ordered hx
    -- the new opening is the last, so the ones before it stay
    have hcontents : contents (Function.update db budgetOpeningState (place (db budgetOpeningState)
        (n, [.text category, .text first, .text balance, .text "verified-canonical-import",
          .text verifiedAt, .text source]))) budgetOpeningState =
        contents db budgetOpeningState ++ [[.text category, .text first, .text balance,
          .text "verified-canonical-import", .text verifiedAt, .text source]] := by
      simp [contents, place_last (r := (n, _)) hlast]
    refine ⟨⟨.single (.insert h ?_), fun t ht => Function.update_of_ne ht _ _, fun c m ho => ?_⟩, ?_⟩
    · simp only [schema_table, schema_affinity, hstored]
      exact typed_opening
    · rw [hasOpening, hcontents, List.any_append, Bool.or_eq_true]
      exact .inl ho
    · rw [hasOpening, hcontents, List.any_append, Bool.or_eq_true]
      exact .inr (by simp [opening_category, opening_month])

theorem Seeded.intact {external : External Body} {db db₁ : Database FinanceTable}
    (h : Seeded external db db₁) (hI : ∀ t, (tableSchema t).Intact (db t)) :
    ∀ t, (tableSchema t).Intact (db₁ t) :=
  steps_intact h.steps hI

/-- The loop: every category with a snapshot has an opening afterwards. -/
theorem seed_loop {external : External Body} {first verifiedAt : String} {snapshots : List Row} :
    ∀ {db db₁ : Database FinanceTable}, (∀ t, (tableSchema t).Intact (db t)) →
      snapshots.foldlM (fun db snapshot => do
        let opening ← openingRow first verifiedAt snapshot
        insertOrIgnore (schema external.affinity) db budgetOpeningState opening) db = .ok db₁ →
      Seeded external db db₁ ∧ ∀ snapshot ∈ snapshots,
        (∃ opening, openingRow first verifiedAt snapshot = .ok opening) ∧
          hasOpening (contents db₁)
            ((tableSchema budgetMonthSnapshots).value snapshot "category_id") first = true := by
  induction snapshots with
  | nil =>
    intro db db₁ _ h
    rw [List.foldlM_nil, Except.pure_eq_ok] at h
    exact ⟨h ▸ Seeded.refl db, by simp⟩
  | cons snapshot snapshots ih =>
    intro db db₁ hI h
    simp only [List.foldlM_cons, Except.bind_eq_ok] at h
    obtain ⟨db', ⟨opening, hopening, hinsert⟩, hrest⟩ := h
    obtain ⟨hturn, hhas⟩ := seed_turn hI hopening hinsert
    obtain ⟨hloop, hall⟩ := ih (hturn.intact hI) hrest
    refine ⟨hturn.trans hloop, fun s hs => ?_⟩
    rcases List.mem_cons.1 hs with rfl | hs
    · exact ⟨⟨opening, hopening⟩, hloop.openings _ _ hhas⟩
    · exact hall s hs

/-- What the loop reads is what the tables hold, whatever the numbers of their rows. -/
theorem seedOpeningState_seeded {external : External Body} {verifiedAt : String}
    {db db₁ : Database FinanceTable} (hI : ∀ t, (tableSchema t).Intact (db t))
    (h : seedOpeningState external verifiedAt db = .ok db₁) : Seeded external db db₁ := by
  simp only [seedOpeningState, Except.bind_eq_ok] at h
  obtain ⟨first, _, h⟩ := h
  cases first with
  | none =>
    rw [Except.pure_eq_ok] at h
    exact h ▸ Seeded.refl db
  | some first =>
    by_cases hmissing : openingMissing (contents db) first = true
    · simp only [hmissing, if_true, Except.bind_eq_ok] at h
      obtain ⟨prior, _, hloop⟩ := h
      exact (seed_loop hI hloop).1
    · simp only [hmissing] at h
      exact Except.pure_eq_ok.1 h ▸ Seeded.refl db

/-- A loop over snapshots whose categories have openings changes nothing. -/
theorem seed_loop_again {external : External Body} {first verifiedAt verifiedAt' : String}
    {snapshots : List Row} {db : Database FinanceTable}
    (h : ∀ snapshot ∈ snapshots, (∃ opening, openingRow first verifiedAt snapshot = .ok opening) ∧
      hasOpening (contents db)
        ((tableSchema budgetMonthSnapshots).value snapshot "category_id") first = true) :
    snapshots.foldlM (fun db snapshot => do
      let opening ← openingRow first verifiedAt' snapshot
      insertOrIgnore (schema external.affinity) db budgetOpeningState opening) db = .ok db := by
  induction snapshots with
  | nil => rfl
  | cons snapshot snapshots ih =>
    obtain ⟨⟨opening, hopening⟩, hhas⟩ := h snapshot List.mem_cons_self
    obtain ⟨opening', hopening'⟩ := openingRow_verifiedAt hopening verifiedAt'
    obtain ⟨category, balance, source, hcategory, rfl⟩ := openingRow_ok hopening'
    rw [hcategory] at hhas
    have hturn : insertOrIgnore (schema external.affinity) db budgetOpeningState
        [.text category, .text first, .text balance, .text "verified-canonical-import",
          .text verifiedAt', .text source] = .ok db := by
      rw [insertOrIgnore_opening, if_pos hhas]
    rw [List.foldlM_cons, hopening']
    refine Except.bind_eq_ok.2 ⟨db, hturn, ih fun s hs => h s (List.mem_cons_of_mem _ hs)⟩

/-- **Seeding the openings again changes nothing**, at any later time and in any database with the
same rows. -/
theorem seedOpeningState_again {external : External Body} {verifiedAt verifiedAt' : String}
    {db db₁ db₂ : Database FinanceTable} (hI : ∀ t, (tableSchema t).Intact (db t))
    (h : seedOpeningState external verifiedAt db = .ok db₁) (hsame : contents db₂ = contents db₁) :
    seedOpeningState external verifiedAt' db₂ = .ok db₂ := by
  have hseeded := seedOpeningState_seeded hI h
  have hcontents : ∀ t, t ≠ budgetOpeningState → contents db₁ t = contents db t :=
    fun t ht => by rw [contents, hseeded.others t ht, contents]
  simp only [seedOpeningState, Except.bind_eq_ok] at h
  obtain ⟨first, hfirst, h⟩ := h
  have hfirst₂ : firstMonth external (contents db₂) = .ok first := by
    rw [← hfirst, hsame]
    simp only [firstMonth, hcontents financeImportRuns (by decide)]
  simp only [seedOpeningState, hfirst₂]
  cases first with
  | none => rfl
  | some first =>
    by_cases hmissing₂ : openingMissing (contents db₂) first = true
    · -- a category that is missing now was missing before, so the first loop went over all snapshots
      have hmissing : openingMissing (contents db) first = true := by
        rw [hsame] at hmissing₂
        simp only [openingMissing, List.any_eq_true, Bool.and_eq_true, Bool.not_eq_true'] at hmissing₂ ⊢
        obtain ⟨category, hcategory, hkind, hnone⟩ := hmissing₂
        rw [hcontents financeCategories (by decide)] at hcategory
        refine ⟨category, hcategory, hkind, ?_⟩
        by_contra hhas
        rw [Bool.not_eq_false] at hhas
        rw [hseeded.openings _ _ hhas] at hnone
        cases hnone
      simp only [hmissing, if_true, Except.bind_eq_ok] at h
      obtain ⟨prior, hprior, hloop⟩ := h
      have hopened := (seed_loop hI hloop).2
      have hsnapshots : openingSnapshots (contents db₂) prior = openingSnapshots (contents db) prior := by
        simp only [openingSnapshots, hsame, hcontents budgetMonthSnapshots (by decide),
          hcontents financeCategories (by decide)]
      refine Except.bind_eq_ok.2 ⟨some first, rfl, ?_⟩
      simp only [hmissing₂, if_true]
      refine Except.bind_eq_ok.2 ⟨prior, hprior, ?_⟩
      rw [hsnapshots]
      exact seed_loop_again fun snapshot hs => hsame ▸ hopened snapshot hs
    · refine Except.bind_eq_ok.2 ⟨some first, rfl, ?_⟩
      simp only [hmissing₂]
      rfl

/-! ## A row and its JSON form -/

theorem map_lookup_zip {α β : Type} [BEq α] [LawfulBEq α] {keys : List α} {values : List β}
    (hnodup : keys.Nodup) (hlength : values.length = keys.length) :
    keys.map (fun k => (keys.zip values).lookup k) = values.map some := by
  induction keys generalizing values with
  | nil => simp [List.length_eq_zero_iff.1 hlength]
  | cons k keys ih =>
    cases values with
    | nil => cases hlength
    | cons v values =>
      obtain ⟨hfresh, hrest⟩ := List.nodup_cons.1 hnodup
      have htail : keys.map (fun x => ((k :: keys).zip (v :: values)).lookup x) =
          keys.map fun x => (keys.zip values).lookup x := by
        refine List.map_congr_left fun x hx => ?_
        have hne : (x == k) = false := by
          simp only [beq_eq_false_iff_ne]
          rintro rfl
          exact hfresh hx
        simp [List.zip_cons_cons, List.lookup_cons, hne]
      rw [List.map_cons, htail, ih hrest (by simpa using hlength)]
      simp

theorem jsonExtract_valueJson (external : External Body) {c : Column} {v : Value}
    (h : c.admits v = true) : jsonExtract external (valueJson v) = v := by
  cases v with
  | blob _ => cases h
  | _ => rfl

/-- Restoring the JSON form of a row inserts the row. -/
theorem restoreRow_sqliteRowJson (external : External Body) {t : FinanceTable} {row : Row}
    (h : (tableSchema t).typed row = true) (db : Database FinanceTable) :
    restoreRow external t (sqliteRowJson t row) db =
      (insert (schema external.affinity) db t row).mapError fun _ =>
        ApiError.badRequest
          ("A row in finance snapshot table " ++ t.name ++ " could not be restored.") := by
  simp only [TableSchema.typed, Bool.and_eq_true, decide_eq_true_eq, List.all_eq_true] at h
  obtain ⟨hlength, hadmits⟩ := h
  have hnames : (tableSchema t).names.length = (tableSchema t).columns.length := by
    simp [TableSchema.names]
  have hlookup : (tableSchema t).names.map (fun column =>
      ((tableSchema t).names.zip (row.map valueJson)).lookup column) =
        (row.map valueJson).map some :=
    map_lookup_zip (tableSchema t).names_nodup (by rw [List.length_map, hlength]; exact hnames.symm)
  have hsome : ((tableSchema t).names.all fun column =>
      (((tableSchema t).names.zip (row.map valueJson)).lookup column).isSome) = true := by
    rw [List.all_eq_true]
    intro column hcolumn
    have hmem : ((tableSchema t).names.zip (row.map valueJson)).lookup column ∈
        (row.map valueJson).map some :=
      hlookup ▸ List.mem_map_of_mem hcolumn
    obtain ⟨json, _, he⟩ := List.mem_map.1 hmem
    rw [← he]
    rfl
  have hvalues : (tableSchema t).names.map (fun column => jsonExtract external
      ((((tableSchema t).names.zip (row.map valueJson)).lookup column).getD .null)) = row := by
    have hvalue : ∀ v ∈ row, jsonExtract external (valueJson v) = v := by
      intro v hv
      obtain ⟨i, hi, rfl⟩ := List.getElem_of_mem hv
      have hi' : i < (tableSchema t).columns.length := hlength ▸ hi
      have hzip : ((tableSchema t).columns[i], row[i]) ∈
          (tableSchema t).columns.zip row := by
        rw [← List.getElem_zip (h := by simp; omega)]
        exact List.getElem_mem _
      exact jsonExtract_valueJson external (hadmits _ hzip)
    calc (tableSchema t).names.map (fun column => jsonExtract external
            ((((tableSchema t).names.zip (row.map valueJson)).lookup column).getD .null))
        = ((tableSchema t).names.map fun column =>
            ((tableSchema t).names.zip (row.map valueJson)).lookup column).map
            fun json => jsonExtract external (json.getD .null) := by rw [List.map_map]; rfl
      _ = row.map fun v => jsonExtract external (valueJson v) := by
          rw [hlookup, List.map_map, List.map_map]
          rfl
      _ = row := (List.map_congr_left hvalue).trans (List.map_id row)
  have hobject : ((tableSchema t).names.zip (row.map valueJson)).length =
      (tableSchema t).names.length := by
    simp [hlength, hnames]
  simp only [restoreRow, sqliteRowJson, Json.asObject, Except.fromOption]
  change (do
    Except.ensure _ _
    _ : Except ApiError (Database FinanceTable)) = _
  rw [hvalues]
  simp only [Except.ensure, hobject, hsome, and_self, if_true]
  rfl

theorem restoreRows_ok (external : External Body) {t : FinanceTable} {rows : List Row}
    (htyped : ∀ row ∈ rows, (tableSchema t).typed row = true) :
    ∀ {db db' : Database FinanceTable},
      insertRows (schema external.affinity) db t rows = .ok db' →
      (rows.map (sqliteRowJson t)).foldlM (fun db row => restoreRow external t row db) db =
        .ok db' := by
  induction rows with
  | nil =>
    intro db db' h
    rw [insertRows, List.foldlM_nil] at h
    rw [List.map_nil, List.foldlM_nil, Except.pure_eq_ok]
    exact Except.pure_eq_ok.1 h
  | cons row rows ih =>
    intro db db' h
    rw [insertRows, List.foldlM_cons, Except.bind_eq_ok] at h
    obtain ⟨db₁, hinsert, hrest⟩ := h
    rw [List.map_cons, List.foldlM_cons, restoreRow_sqliteRowJson external
      (htyped row List.mem_cons_self), hinsert]
    exact ih (fun r hr => htyped r (List.mem_cons_of_mem _ hr)) hrest

/-! ## The loop over the tables -/

theorem mem_FINANCE_BACKUP_TABLES (t : FinanceTable) : t ∈ FINANCE_BACKUP_TABLES := by
  cases t <;> decide

/-- No table is restored twice, and the closures are restored after all rows that they lock. -/
theorem FINANCE_BACKUP_TABLES_order : FINANCE_BACKUP_TABLES.Pairwise fun t u =>
    t ≠ u ∧ (t = budgetMonthClosures → u ≠ budgetMonthSnapshots ∧ u ≠ budgetLedgerMovements) := by
  decide

/-- With no closure, no trigger refuses a row. -/
theorem allowsInsert_of_open {affinity : Affinity} {rows : FinanceTable → List Row}
    {t : FinanceTable} {row : Row}
    (h : t = budgetMonthSnapshots ∨ t = budgetLedgerMovements → rows budgetMonthClosures = []) :
    (schema affinity).allowsInsert rows t row = true := by
  cases t with
  | budgetMonthSnapshots => simp [schema, monthIsClosed, h]
  | budgetLedgerMovements => simp [schema, monthIsClosed, h]
  | _ => rfl

/-- Every table is filled from empty tables, and the commit is still to come. -/
theorem restoreTables_runs (external : External Body) {source : Database FinanceTable}
    (hsource : ∀ t, (tableSchema t).Intact (source t)) {rows : FinanceTable → List Json}
    (hrows : ∀ t, rows t = (contents source t).map (sqliteRowJson t))
    (committed : Database FinanceTable) :
    ∃ working, Session.Runs
        (FINANCE_BACKUP_TABLES.forM fun t =>
          (rows t).forM fun row => Session.execute (restoreRow external t row))
        { committed, working := fun _ => [] } ⟨⟩ { committed, working } ∧
      contents working = contents source ∧ ∀ t, (tableSchema t).Intact (working t) := by
  have hnil : ∀ t, (tableSchema t).Intact [] := fun t => ⟨.nil, by simp, by simp, .nil, by simp⟩
  let I : List FinanceTable → Connection (Database FinanceTable) → Prop := fun before c =>
    c.committed = committed ∧ ∀ t, (t ∈ before → contents c.working t = contents source t) ∧
      (t ∉ before → c.working t = []) ∧ (tableSchema t).Intact (c.working t)
  have hstep : ∀ before t after c, FINANCE_BACKUP_TABLES = before ++ t :: after → I before c →
      ∃ c', Session.Runs ((rows t).forM fun row => Session.execute (restoreRow external t row))
        c ⟨⟩ c' ∧ I (before ++ [t]) c' := by
    intro before t after c hsplit hI
    obtain ⟨hcommitted, hbefore⟩ := hI
    have horder := FINANCE_BACKUP_TABLES_order
    rw [hsplit, List.pairwise_append] at horder
    have hfresh : t ∉ before := fun ht => (horder.2.2 t ht t List.mem_cons_self).1 rfl
    have hempty : c.working t = [] := (hbefore t).2.1 hfresh
    have hopen : ∀ rows, ∀ row ∈ (source t).map Prod.snd, (schema external.affinity).allowsInsert
        (Function.update (contents c.working) t rows) t row = true := by
      intro rows row _
      refine allowsInsert_of_open fun hlocked => ?_
      have hnot : budgetMonthClosures ∉ before := by
        intro hmem
        have hne := (horder.2.2 _ hmem t List.mem_cons_self).2 rfl
        rcases hlocked with rfl | rfl
        · exact hne.1 rfl
        · exact hne.2 rfl
      have hne : budgetMonthClosures ≠ t := by
        rintro rfl
        rcases hlocked with h | h <;> cases h
      rw [Function.update_of_ne hne, contents, (hbefore _).2.1 hnot]
      rfl
    obtain ⟨filled, hinsert, hcontents, hintact⟩ :=
      insertRows_ok (s := schema external.affinity) (hsource t) hempty hopen
    have hrestore := restoreRows_ok external
      (fun row hrow => by
        obtain ⟨r, hr, rfl⟩ := List.mem_map.1 hrow
        exact (hsource t).typed r hr) hinsert
    rw [← contents, ← hrows t] at hrestore
    refine ⟨_, Session.Runs.forM_execute hrestore, hcommitted, fun u => ?_⟩
    by_cases hu : u = t
    · subst hu
      simp only [contents, Function.update_self]
      exact ⟨fun _ => hcontents, fun hnot => absurd (by simp) hnot, hintact⟩
    · simp only [contents, Function.update_of_ne hu]
      refine ⟨fun hmem => (hbefore u).1 ?_, fun hnot => (hbefore u).2.1 ?_, (hbefore u).2.2⟩
      · rcases List.mem_append.1 hmem with hmem | hmem
        · exact hmem
        · exact absurd (List.mem_singleton.1 hmem) hu
      · exact fun hmem => hnot (List.mem_append_left _ hmem)
  obtain ⟨⟨committed', working⟩, hrun, rfl, hdone⟩ :=
    Session.Runs.forM (c := { committed, working := fun _ => [] }) I hstep
      ⟨rfl, fun t => ⟨fun h => (by cases h), fun _ => rfl, hnil t⟩⟩
  exact ⟨working, hrun, funext fun t => (hdone t).1 (mem_FINANCE_BACKUP_TABLES t),
    fun t => (hdone t).2.2⟩

/-! ## What the checks of a restore see -/

theorem lookup_tables {β : Type} (f : FinanceTable → β) (t : FinanceTable) :
    (FINANCE_BACKUP_TABLES.map fun u => (u.name, f u)).lookup t.name = some (f t) := by
  cases t <;> rfl

theorem integrityCheck_of_intact (affinity : Affinity) {db : Database FinanceTable}
    (h : ∀ t, (tableSchema t).Intact (db t)) : integrityCheck affinity db = true := by
  simp only [integrityCheck, schema_table, List.all_eq_true, Bool.and_eq_true]
  intro t _
  refine ⟨fun row hrow => ?_, decide_eq_true (List.pairwise_map.2 (h t).keys)⟩
  obtain ⟨r, hr, rfl⟩ := List.mem_map.1 hrow
  exact ⟨TableSchema.notNull_of_typed ((h t).typed r hr), (h t).checked r hr⟩

theorem foreignKeyCheck_iff {affinity : Affinity} {db : Database FinanceTable} :
    foreignKeyCheck affinity db = true ↔ ReferencesHold (schema affinity) db := by
  simp only [foreignKeyCheck, ReferencesHold, List.all_eq_true, List.any_eq_true, Bool.or_eq_true,
    decide_eq_true_eq]
  exact ⟨fun h t => h t (mem_FINANCE_BACKUP_TABLES t), fun h t _ => h t⟩

theorem foreignKeyCheck_congr {affinity : Affinity} {db db' : Database FinanceTable}
    (h : contents db = contents db') :
    foreignKeyCheck affinity db = foreignKeyCheck affinity db' := by
  unfold foreignKeyCheck
  rw [h]

/-- What a restore reads from an export. -/
def exportedSnapshot (version : Int) (db : Database FinanceTable) : Snapshot where
  databaseSchemaVersion := some version
  tables := FINANCE_BACKUP_TABLES.map fun t =>
    (t.name, .array ((contents db t).map (sqliteRowJson t)))
  declaredCounts := FINANCE_BACKUP_TABLES.map fun t => (t.name, .integer (contents db t).length)

theorem exportedSnapshot_rows (version : Int) (db : Database FinanceTable) (t : FinanceTable) :
    (exportedSnapshot version db).rows t = some ((contents db t).map (sqliteRowJson t)) := by
  simp only [Snapshot.rows, exportedSnapshot, lookup_tables]
  rfl

theorem checkTable_exportedSnapshot (version : Int) (db : Database FinanceTable)
    (t : FinanceTable) : checkTable (exportedSnapshot version db) (fun _ => []) t =
      .ok (t, (contents db t).length) := by
  refine Except.bind_eq_ok.2 ⟨_, Except.fromOption_eq_ok.2 (exportedSnapshot_rows version db t),
    Except.bind_eq_ok.2 ⟨⟨⟩, Except.ensure_eq_ok.2 ?_, Except.bind_eq_ok.2
      ⟨⟨⟩, Except.ensure_eq_ok.2 rfl, ?_⟩⟩⟩
  · simp [exportedSnapshot, lookup_tables, Json.asU64]
  · simp [Pure.pure, Except.pure]

/-- An export passes the checks before the transaction. -/
theorem readSnapshot_interchange {app target : AppState Body} {request : RestoreRequest Body}
    {exportedAt : String} {db : Database FinanceTable}
    (horigin : Auth.ensureDbRequestOrigin request.headers = .ok ())
    (hsession : requireSession target request.headers = .ok ())
    (henabled : target.financeDbRestoreEnabled = true)
    (hsha : request.snapshotSha256 = some (target.external.sha256 request.body))
    (hbody : target.external.parse request.body = some (interchange app exportedAt db)) :
    readSnapshot target request = .ok (exportedSnapshot app.databaseSchemaVersion db) := by
  have hdigest : (request.snapshotSha256.filter fun value => Auth.isCredentialId value) =
      some (target.external.sha256 request.body) := by
    rw [hsha]
    simp [Option.filter, target.external.sha256_hex]
  have hcomplete : (FINANCE_BACKUP_TABLES.all fun t =>
      ((FINANCE_BACKUP_TABLES.map fun u =>
        (u.name, Json.array ((contents db u).map (sqliteRowJson u)))).lookup t.name).isSome &&
      ((FINANCE_BACKUP_TABLES.map fun u =>
        (u.name, Json.integer (contents db u).length)).lookup t.name).isSome) = true := by
    rw [List.all_eq_true]
    intro t _
    rw [lookup_tables, lookup_tables]
    rfl
  refine Except.bind_eq_ok.2 ⟨_, horigin, Except.bind_eq_ok.2 ⟨_, hsession, Except.bind_eq_ok.2
    ⟨⟨⟩, Except.ensure_eq_ok.2 henabled, Except.bind_eq_ok.2 ⟨_, Except.fromOption_eq_ok.2 hdigest,
      Except.bind_eq_ok.2 ⟨⟨⟩, Except.ensure_eq_ok.2 rfl, Except.bind_eq_ok.2
        ⟨_, Except.fromOption_eq_ok.2 hbody, ?_⟩⟩⟩⟩⟩⟩
  refine Except.bind_eq_ok.2 ⟨⟨⟩, Except.ensure_eq_ok.2 rfl, Except.bind_eq_ok.2
    ⟨_, Except.fromOption_eq_ok.2 rfl, Except.bind_eq_ok.2 ⟨_, Except.fromOption_eq_ok.2 rfl,
      Except.bind_eq_ok.2 ⟨⟨⟩, Except.ensure_eq_ok.2 ⟨?_, ?_, hcomplete⟩, rfl⟩⟩⟩⟩
  · simp
  · simp

/-- What an export that succeeds did and answered. -/
theorem getDbFinanceBackup_ok {app : AppState Body} {headers : Auth.Headers}
    {verifiedAt exportedAt : String}
    {db db₁ : Database FinanceTable} {response : BackupResponse Body}
    (h : Session.serve (getDbFinanceBackup app headers verifiedAt exportedAt) db = (.ok response, db₁)) :
    seedOpeningState app.external verifiedAt db = .ok db₁ ∧
      foreignKeyCheck app.external.affinity db₁ = true ∧
      response.body = app.external.write (interchange app exportedAt db₁) ∧
      response.sha256 = app.external.sha256 response.body := by
  obtain ⟨c, hrun, rfl⟩ := Session.Runs.of_serve h
  obtain ⟨document, c₁, hread, hrest⟩ := Session.Runs.of_bind hrun
  obtain ⟨_, c₂, hcommit, hanswer⟩ := Session.Runs.of_bind hrest
  obtain ⟨hvalid, rfl⟩ := Session.Runs.commit_iff.1 hcommit
  obtain ⟨_, d₁, h1, hread⟩ := Session.Runs.of_bind hread
  obtain ⟨_, d₂, h2, hread⟩ := Session.Runs.of_bind hread
  obtain ⟨_, d₃, h3, hread⟩ := Session.Runs.of_bind hread
  obtain ⟨_, d₄, h4, hread⟩ := Session.Runs.of_bind hread
  obtain ⟨_, rfl⟩ := Session.Runs.lift_iff.1 h1
  obtain ⟨_, rfl⟩ := Session.Runs.lift_iff.1 h2
  obtain rfl := Session.Runs.begin_iff.1 h3
  obtain ⟨working, hseed, rfl⟩ := Session.Runs.execute_iff.1 h4
  obtain ⟨hdocument, rfl⟩ := Session.Runs.query_iff.1 hread
  obtain rfl := Except.ok.inj hdocument
  simp only [Session.Runs, Pure.pure, Prod.mk.injEq, Except.ok.injEq] at hanswer
  obtain ⟨rfl, rfl⟩ := hanswer
  exact ⟨Except.mapError_eq_ok.1 hseed, hvalid, rfl, rfl⟩

/-! ## The round trip -/

/-- Restoring an export of rows that satisfy the constraints into empty tables commits these rows. -/
theorem restore_exported {target : AppState Body} {request : RestoreRequest Body}
    {source : Database FinanceTable} (hsource : ∀ t, (tableSchema t).Intact (source t))
    (hreferences : foreignKeyCheck target.external.affinity source = true)
    (hread : readSnapshot target request =
      .ok (exportedSnapshot target.databaseSchemaVersion source)) :
    ∃ restored db, Session.serve (restoreDbFinance target request) (fun _ => []) =
      (.ok restored, db) ∧ contents db = contents source := by
  have hrows : ∀ t, ((exportedSnapshot target.databaseSchemaVersion source).rows t).getD [] =
      (contents source t).map (sqliteRowJson t) := fun t => by rw [exportedSnapshot_rows]; rfl
  obtain ⟨working, hrun, hcontents, hintact⟩ :=
    restoreTables_runs target.external hsource hrows fun _ => []
  have hcounts := Except.mapM_eq_ok_map (l := FINANCE_BACKUP_TABLES) fun t _ =>
    checkTable_exportedSnapshot target.databaseSchemaVersion source t
  have hreferences' : foreignKeyCheck target.external.affinity working = true :=
    (foreignKeyCheck_congr hcontents).trans hreferences
  have hrecount : ((FINANCE_BACKUP_TABLES.map fun t => (t, (contents source t).length)).all
      fun count => (contents working count.1).length == count.2) = true := by
    rw [List.all_map, List.all_eq_true]
    intro t _
    simp [hcontents]
  have hfill : Session.Runs (fillTables target request)
      { committed := fun _ => [], working := fun _ => [] }
      (FINANCE_BACKUP_TABLES.map fun t => (t, (contents source t).length))
      { committed := fun _ => [], working } := by
    refine Session.Runs.bind (Session.Runs.lift hread _) ?_
    refine Session.Runs.bind (Session.Runs.begin _) ?_
    refine Session.Runs.bind (Session.Runs.lift ((Except.ensure_eq_ok (x := ⟨⟩)).2 rfl) _) ?_
    refine Session.Runs.bind (Session.Runs.query hcounts) ?_
    refine Session.Runs.bind hrun ?_
    refine Session.Runs.bind (Session.Runs.query ((Except.ensure_eq_ok (x := ⟨⟩)).2 hrecount)) ?_
    refine Session.Runs.bind (Session.Runs.query ((Except.ensure_eq_ok (x := ⟨⟩)).2
      ⟨integrityCheck_of_intact _ hintact, hreferences'⟩)) ?_
    exact Session.Runs.pure _ _
  have hrestore : Session.Runs (restoreDbFinance target request)
      { committed := fun _ => [], working := fun _ => [] }
      { databaseSchemaVersion := target.databaseSchemaVersion
        tableCounts := FINANCE_BACKUP_TABLES.map fun t => (t, (contents source t).length)
        sha256 := target.external.sha256 request.body } { committed := working, working } := by
    refine Session.Runs.bind hfill ?_
    refine Session.Runs.bind (Session.Runs.commit hreferences') ?_
    exact Session.Runs.pure _ _
  exact ⟨_, working, hrestore.serve, hcontents⟩

/-- A rejected upload leaves every finance table. -/
theorem restoreDbFinance_error {app : AppState Body} {request : RestoreRequest Body}
    {db : Database FinanceTable} {e : ApiError}
    (h : (Session.serve (restoreDbFinance app request) db).1 = .error e) :
    (Session.serve (restoreDbFinance app request) db).2 = db := by
  refine Session.serve_error ?_ h
  refine (Session.Uncommitted.lift _).bind fun snapshot => Session.Uncommitted.begin.bind fun _ =>
    (Session.Uncommitted.lift _).bind fun _ => (Session.Uncommitted.query _).bind fun counts => ?_
  refine (Session.Uncommitted.forM fun t _ => Session.Uncommitted.forM fun row _ =>
    Session.Uncommitted.execute _).bind fun _ => ?_
  exact (Session.Uncommitted.query _).bind fun _ => (Session.Uncommitted.query _).bind fun _ =>
    Session.Uncommitted.pure _

/-- The rows in the body of an export. -/
def exportedTables (external : External Body) (body : Body) : Option Json :=
  (external.parse body).bind fun document => document.get "tables"

/-- **Backup and restore round trip.** Whatever transactions reached the database, its export is
restored into empty tables of the same version, with the same rows in the same order in every table
(so the operations are in the order they were committed in), and the restored server exports the same
rows again. The export itself changes no row; it may add openings. A rejected upload leaves every
table as it was. -/
theorem backup_roundTrip {app : AppState Body} {headers : Auth.Headers}
    {verifiedAt exportedAt : String}
    {db db₁ : Database FinanceTable} {response : BackupResponse Body}
    (hreachable : Reachable (schema app.external.affinity) db)
    (hbackup : Session.serve (getDbFinanceBackup app headers verifiedAt exportedAt) db = (.ok response, db₁)) :
    (∀ t, t ≠ budgetOpeningState → contents db₁ t = contents db t) ∧
      (∀ (target : AppState Body) (request : RestoreRequest Body),
        target.external = app.external →
        target.databaseSchemaVersion = app.databaseSchemaVersion →
        target.financeDbRestoreEnabled = true →
        Auth.ensureDbRequestOrigin request.headers = .ok () →
        requireSession target request.headers = .ok () →
        request.body = response.body → request.snapshotSha256 = some response.sha256 →
        ∃ restored db₂, Session.serve (restoreDbFinance target request) (fun _ => []) =
            (.ok restored, db₂) ∧
          (∀ t, contents db₂ t = contents db₁ t) ∧
          ∀ headers' verifiedAt' exportedAt', target.financeDbReadEnabled = true →
            requireSession target headers' = .ok () →
            ∃ response' db₃, Session.serve (getDbFinanceBackup target headers' verifiedAt' exportedAt') db₂ =
                (.ok response', db₃) ∧
              (∀ t, contents db₃ t = contents db₁ t) ∧
              exportedTables target.external response'.body =
                exportedTables app.external response.body) ∧
      ∀ (target : AppState Body) (request : RestoreRequest Body) (db : Database FinanceTable)
        (e : ApiError), (Session.serve (restoreDbFinance target request) db).1 = .error e →
          (Session.serve (restoreDbFinance target request) db).2 = db := by
  obtain ⟨hseed, hreferences, hbody, hsha⟩ := getDbFinanceBackup_ok hbackup
  have hseeded := seedOpeningState_seeded hreachable.valid.1 hseed
  have hintact := hseeded.intact hreachable.valid.1
  refine ⟨fun t ht => by rw [contents, hseeded.others t ht, contents], ?_,
    fun _ _ _ _ h => restoreDbFinance_error h⟩
  intro target request hexternal hversion henabled horigin hsession hrequest hdigest
  have hparse : target.external.parse request.body = some (interchange app exportedAt db₁) := by
    rw [hexternal, hrequest, hbody, app.external.parse_write]
  have hsha' : request.snapshotSha256 = some (target.external.sha256 request.body) := by
    rw [hdigest, hsha, hexternal, hrequest]
  have hread := readSnapshot_interchange horigin hsession henabled hsha' hparse
  rw [← hversion] at hread
  obtain ⟨restored, db₂, hserve, hcontents⟩ := restore_exported hintact
    (by rw [hexternal]; exact hreferences) hread
  refine ⟨restored, db₂, hserve, fun t => congrFun hcontents t, fun headers' verifiedAt' exportedAt' hread' hs => ?_⟩
  have hagain : seedOpeningState target.external verifiedAt' db₂ = .ok db₂ := by
    rw [hexternal]
    exact seedOpeningState_again hreachable.valid.1 hseed hcontents
  have hreferences₂ : foreignKeyCheck target.external.affinity db₂ = true := by
    rw [hexternal, foreignKeyCheck_congr hcontents]
    exact hreferences
  have hdocument : Session.Runs (readBackup target headers' verifiedAt' exportedAt')
      { committed := db₂, working := db₂ } (interchange target exportedAt' db₂)
      { committed := db₂, working := db₂ } := by
    refine Session.Runs.bind (Session.Runs.lift hs _) ?_
    refine Session.Runs.bind (Session.Runs.lift ((Except.ensure_eq_ok (x := ⟨⟩)).2 hread') _) ?_
    refine Session.Runs.bind (Session.Runs.begin _) ?_
    refine Session.Runs.bind (Session.Runs.execute (Except.mapError_eq_ok.2 hagain)) ?_
    exact Session.Runs.query rfl
  have hanswer : Session.Runs (getDbFinanceBackup target headers' verifiedAt' exportedAt')
      { committed := db₂, working := db₂ }
      { body := target.external.write (interchange target exportedAt' db₂)
        sha256 := target.external.sha256 (target.external.write (interchange target exportedAt' db₂)) }
      { committed := db₂, working := db₂ } := by
    refine Session.Runs.bind hdocument ?_
    refine Session.Runs.bind (Session.Runs.commit hreferences₂) ?_
    exact Session.Runs.pure _ _
  refine ⟨_, db₂, hanswer.serve, fun t => congrFun hcontents t, ?_⟩
  simp only [exportedTables, hbody, app.external.parse_write, target.external.parse_write]
  simp [Json.get, Json.asObject, interchange, List.lookup_cons, hcontents]

/-- September is closed, with a movement of the plan ledger and the snapshot before it. -/
def septemberRows : List (FinanceTable × Row) :=
  [(financeImportRuns, [.text "run", .text "workbook", .text "source",
      .text "\x7b\"currentCanonicalMonth\":\"2026-09\"\x7d", .text "\x7b\x7d",
      .text "2026-09-01T08:00:00Z"]),
    (financeCategories, [.text "food", .text "Food", .integer 1, .integer 2, .text "\x7b\x7d"]),
    (budgetMonthSnapshots, [.text "food", .text "2026-08", .text "10.00", .text "25.50", .null,
      .text "literal", .text "literal", .integer 2, .text "\x7b\x7d"]),
    (financeOperations, [.text "plan", .text "ana", .text "plan:ana", .text "[]",
      .text "\x7b\x7d", .text "2026-09-02T08:00:00Z"]),
    (budgetLedgerMovements, [.integer 1, .text "2026-09", .text "food", .text "allocation",
      .text "allocation:2026-09", .text "200.00", .text "plan", .text "2026-09-02T08:00:00Z"]),
    (financeOperations, [.text "close", .text "ana", .text "close:ana", .text "[]",
      .text "\x7b\x7d", .text "2026-10-01T08:00:00Z"]),
    (budgetMonthClosures, [.text "2026-09", .text "close", .text "2026-10-01T08:00:00Z",
      .text "\x7b\x7d", .text (String.ofList (List.replicate 64 'a'))])]

/-- Bodies are documents, the digest is that of the export of `septemberRows`, and the only import
starts in September. -/
def septemberExternal : External Json where
  parse := some
  write := id
  sha256 _ := "d86868f43495cdddfaab5f2ecee7e2c2255b0d869c4895a25771dc85575c4c34"
  minify _ := "\x7b\x7d"
  currentCanonicalMonth _ := some "2026-09"
  previousMonth _ := some "2026-08"
  affinity :=
    { store := fun type v => match type, v with
        | .text, .integer n => .text (toString n)
        | _, v => v
      store_null := fun type => by cases type <;> rfl
      store_integer := fun _ => rfl
      store_text := fun _ => rfl }
  parse_write _ := rfl
  sha256_hex _ := by decide

/-- A server at which Ana is signed in. -/
def septemberApp : AppState Json where
  external := septemberExternal
  auth := ⟨["ana"], id, id⟩
  sessions := ⟨∅, AList.singleton (String.ofList (List.replicate 64 'c')) ⟨"ana", "Ana", 90, 10⟩, ∅⟩
  now := 20
  financeDbReadEnabled := true
  financeDbRestoreEnabled := true
  databaseSchemaVersion := 16

def septemberHeaders : Auth.Headers :=
  ⟨[(.pocketSession, String.ofList (List.replicate 64 'c'))], none, true, true⟩

/-- What the transaction of these insertions commits. -/
def september : Database FinanceTable :=
  match septemberRows.foldlM
    (fun db r => insert (schema septemberExternal.affinity) db r.1 r.2) (fun _ => []) with
  | .ok db => db
  | .error _ => fun _ => []

theorem september_reachable : Reachable (schema septemberExternal.affinity) september :=
  Reachable.of_inserts (l := septemberRows) rfl (by decide +kernel)
    (foreignKeyCheck_iff.1 (by decide +kernel))

theorem backup_roundTrip_september :
    ∃ response db₁ restored db₂,
      Session.serve (getDbFinanceBackup septemberApp septemberHeaders "2026-10-02T08:00:00.000Z"
        "2026-10-02T08:00:00Z") september = (.ok response, db₁) ∧
      Session.serve (restoreDbFinance septemberApp
        ⟨septemberHeaders, some response.sha256, response.body⟩) (fun _ => []) =
          (.ok restored, db₂) ∧
      ∀ t, contents db₂ t = contents db₁ t := by
  obtain ⟨response, db₁, hbackup⟩ : ∃ response db₁,
      Session.serve (getDbFinanceBackup septemberApp septemberHeaders "2026-10-02T08:00:00.000Z"
        "2026-10-02T08:00:00Z") september = (.ok response, db₁) := ⟨_, _, rfl⟩
  obtain ⟨restored, db₂, hrestore, hcontents, _⟩ :=
    (backup_roundTrip september_reachable hbackup).2.1 septemberApp
      ⟨septemberHeaders, some response.sha256, response.body⟩ rfl rfl rfl rfl rfl rfl rfl
  exact ⟨response, db₁, restored, db₂, hbackup, hrestore, hcontents⟩

end Server.Backup
