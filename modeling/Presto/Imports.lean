import Presto.Identities

/-!
# Imports in a run of commands

The first import that fills the tables is the only one: afterwards the tables are not empty, so nothing
is committed to them (`import_final`). Its identity map stays beside the archive, so verification plans
what was inserted and finds it (`verify_after_import`), also in a database that was restored from a
backup (`verify_restored`).
-/

namespace Admin

open Relational (Consistent contents)
open Server.Backup (FinanceTable schema tableSchema)
open Server.Backup.FinanceTable

variable {external : External} {archives : String → Archive} {archive : Archive}
  {directory : String} {options : ImportOptions} {s s' : Workspace} {saved : SavedIdentities}

/-! ## After an import -/

/-- The archive was imported with the map that is saved beside it. -/
structure Settled (external : External) (archives : String → Archive) (directory : String)
    (db : FinanceDatabase) (s : Workspace) : Prop where
  database : s.database = some db
  imported : ∃ saved plan drawn, s.identities directory = some saved ∧
    Covers (archives directory) saved ∧
    buildPlan external.tools (archives directory).bundle saved.ids = .ok plan ∧
    plan.validationIssues = [] ∧ plan.accountCheckpointsPresent = true ∧
    Holds external (archives directory) saved plan drawn db

variable {db db' : FinanceDatabase} {other : String}

/-- The tables of an imported database are not empty. -/
theorem Holds.not_empty {plan : ImportPlan} {drawn : Nat}
    (h : Holds external archive saved plan drawn db) :
    ¬ ∀ t ∈ importedTables, contents db t = [] := by
  intro hempty
  have hartifacts := h.tables financeSourceArtifacts (by decide)
  rw [hempty financeSourceArtifacts (by decide)] at hartifacts
  cases hartifacts

/-- Nothing is committed to an imported database. -/
theorem Holds.commitImport_eq {plan plan' : ImportPlan} {drawn drawn' : Nat}
    {saved' : SavedIdentities} {archive' : Archive} (h : Holds external archive saved plan drawn db)
    (hcommit : commitImport external archive' saved' plan' drawn' db = .ok db') :
    db' = db ∧ 0 < importCount external archive' db := by
  obtain ⟨hcount, rfl⟩ | ⟨hempty, -⟩ := commitImport_ok hcommit h.consistent
  · exact ⟨rfl, hcount⟩
  · exact absurd hempty h.not_empty

namespace Settled

variable (h : Settled external archives directory db s)

include h

theorem importCommand (other : String) (options : ImportOptions) :
    Settled external archives directory db (importCommand external archives other options s).2 := by
  obtain ⟨saved, plan, drawn, hs, hcovers, hplan, hvalid, hcheckpoints, hholds⟩ := h.imported
  obtain ⟨hidentities, -, hresult⟩ := importCommand_cases external archives other options s
  refine ⟨?_, saved, plan, drawn, ?_, hcovers, hplan, hvalid, hcheckpoints, hholds⟩
  · obtain ⟨-, hdatabase⟩ | ⟨saved', plan', drawn', result, htried, -, -, hdatabase⟩ := hresult
    · rw [hdatabase]
      exact h.database
    · have htry := htried.result
      simp only [h.database, Option.getD_some] at htry hdatabase
      cases result with
      | error e => exact hdatabase
      | ok db' => rw [hdatabase, ← (hholds.commitImport_eq htry).1]; rfl
  · rw [hidentities]
    exact planCommand_identities hcovers hs other

theorem verifyCommand (other : String) :
    Settled external archives directory db (verifyCommand external archives other s).2 := by
  obtain ⟨saved, plan, drawn, hs, himported⟩ := h.imported
  rw [verifyCommand_database]
  refine ⟨?_, saved, plan, drawn, planCommand_identities himported.1 hs other, himported⟩
  rw [planCommand_database]
  exact h.database

theorem runCommands (commands : List Command) :
    Settled external archives directory db (runCommands external archives s commands) := by
  induction commands generalizing s with
  | nil => exact h
  | cons command commands ih =>
    apply ih
    cases command with
    | importArchive other options => exact h.importCommand other options
    | verifyArchive other => exact h.verifyCommand other

/-- Another archive is refused. -/
theorem refused {options : ImportOptions} (hcommit : options.commit = true)
    (hother : importCount external (archives other) db = 0) :
    ∃ e, (Admin.importCommand external archives other options s).1 = .error e := by
  obtain ⟨_, _, _, -, -, -, -, -, hholds⟩ := h.imported
  obtain ⟨-, -, hresult⟩ := importCommand_cases external archives other options s
  obtain ⟨herror | ⟨hdry, -⟩, -⟩ | ⟨_, _, _, result, htried, -, houtcome, -⟩ := hresult
  · exact herror
  · rw [hcommit] at hdry
    cases hdry
  · have htry := htried.result
    simp only [h.database, Option.getD_some] at htry
    cases result with
    | error e => exact ⟨e, houtcome⟩
    | ok db' =>
      have hcount := (hholds.commitImport_eq htry).2
      omega

/-- Verification finds the plan exactly. -/
theorem verified : ∃ found plan saved, s.identities directory = some saved ∧
    buildPlan external.tools (archives directory).bundle saved.ids = .ok plan ∧
    (Admin.verifyCommand external archives directory s).1 = .ok (.verified found) ∧
    found.perfect plan = true := by
  obtain ⟨saved, plan, drawn, hs, hcovers, hplan, hvalid, hcheckpoints, hholds⟩ := h.imported
  have hperfect := hholds.perfect (classified_of_valid hplan hvalid) hcheckpoints
  refine ⟨parity external (archives directory) plan db, plan, saved, hs, hplan, ?_, hperfect⟩
  have hfound := planCommand_of_covers external hcovers hs hplan
  have hdatabase := planCommand_database external archives directory s
  unfold Admin.verifyCommand
  cases hplanned : planCommand external archives directory s with
  | mk found s₁ =>
    rw [hplanned] at hfound hdatabase
    simp only at hfound hdatabase
    subst hfound
    simp [hdatabase, h.database, hholds.run, hperfect]

end Settled

/-- The database of the workspace has its constraints and no import. -/
def NoImport (external : External) (s : Workspace) : Prop :=
  ∀ db, s.database = some db →
    Consistent (schema external.affinity) db ∧ contents db financeImportRuns = []

/-- An import that is committed to a database without one. -/
theorem settled_of_import (hs : NoImport external s)
    (h : (importCommand external archives directory options s).1 = .ok .committed) :
    ∃ db, Settled external archives directory db
        (importCommand external archives directory options s).2 ∧
      ∀ other, (archives other).exportSha256 ≠ (archives directory).exportSha256 →
        importCount external (archives other) db = 0 := by
  obtain ⟨hidentities, -, hresult⟩ := importCommand_cases external archives directory options s
  obtain ⟨⟨e, he⟩ | ⟨-, hdry⟩, -⟩ | ⟨saved, plan, drawn, result, htried, hsaved, houtcome,
    hdatabase⟩ := hresult
  · rw [he] at h
    cases h
  · rw [hdry] at h
    cases h
  · cases result with
    | error e =>
      rw [houtcome] at h
      cases h
    | ok db =>
      -- a database that is not there yet is created without rows
      have hstart : Consistent (schema external.affinity) (s.database.getD fun _ => []) ∧
          contents (s.database.getD fun _ => []) financeImportRuns = [] := by
        cases hdb : s.database with
        | none => exact ⟨Consistent.empty, rfl⟩
        | some db => exact hs db hdb
      have hnone : ∀ archive,
          importCount external archive (s.database.getD fun _ => []) = 0 := by
        intro archive
        simp [importCount, Relational.countRows, hstart.2]
      obtain ⟨hcount, -⟩ | ⟨-, -, hholds, hcontents⟩ := commitImport_ok htried.result hstart.1
      · rw [hnone] at hcount
        exact absurd hcount (lt_irrefl 0)
      · refine ⟨db, ⟨hdatabase, saved, plan, drawn, ?_, htried.covers, htried.planned, htried.valid,
          htried.checkpoints, hholds⟩, fun other hother => ?_⟩
        · rw [hidentities]
          exact hsaved
        · unfold importCount Relational.countRows
          rw [hcontents, hstart.2, List.nil_append, plannedRows]
          have hdigest : Relational.agrees (tableSchema financeImportRuns)
              [("source_digest", .text (archives other).exportSha256)]
              (importRunRow external (archives directory) saved plan) = false := by
            rw [Bool.eq_false_iff]
            intro hagrees
            have hvalue := agrees_iff.1 hagrees
            exact hother (Relational.Value.text.inj hvalue).symm
          simp [hdigest]

/-- **Verification after an import.** When an archive has been imported into a database without one,
verification of the archive finds the plan exactly: whatever imports and verifications, of it or of
other archives, ran in between. -/
theorem verify_after_import (hs : NoImport external s)
    (h : (importCommand external archives directory options s).1 = .ok .committed)
    (commands : List Command) :
    ∃ found plan saved,
      (runCommands external archives (importCommand external archives directory options s).2
        commands).identities directory = some saved ∧
      buildPlan external.tools (archives directory).bundle saved.ids = .ok plan ∧
      (verifyCommand external archives directory (runCommands external archives
        (importCommand external archives directory options s).2 commands)).1 =
          .ok (.verified found) ∧
      found.perfect plan = true := by
  obtain ⟨db, hsettled, -⟩ := settled_of_import hs h
  obtain ⟨found, plan, saved, hverified⟩ := (hsettled.runCommands commands).verified
  exact ⟨found, plan, saved, hverified⟩

/-- **One import.** After an archive has been imported, no command changes the database, and a commit
of another archive is refused. -/
theorem import_final (hs : NoImport external s)
    (h : (importCommand external archives directory options s).1 = .ok .committed)
    (commands : List Command) :
    (runCommands external archives (importCommand external archives directory options s).2
        commands).database = (importCommand external archives directory options s).2.database ∧
      ∀ other options', options'.commit = true →
        (archives other).exportSha256 ≠ (archives directory).exportSha256 →
          ∃ e, (importCommand external archives other options' (runCommands external archives
            (importCommand external archives directory options s).2 commands)).1 = .error e := by
  obtain ⟨db, hsettled, hothers⟩ := settled_of_import hs h
  have hafter := hsettled.runCommands commands
  refine ⟨hafter.database.trans hsettled.database.symm, fun other options' hcommit hother => ?_⟩
  exact hafter.refused hcommit (hothers other hother)

/-! ## After a restore -/

/-- Verification reads the rows of the tables that an import fills, and of the imports. -/
theorem parity_congr {plan : ImportPlan}
    (h : ∀ t ∈ importedTables, contents db' t = contents db t) :
    parity external archive plan db' = parity external archive plan db := by
  have hselect : ∀ t ∈ importedTables, ∀ values, Relational.selectRow (schema external.affinity) db'
      t values = Relational.selectRow (schema external.affinity) db t values := by
    intro t ht values
    rw [Relational.selectRow, h t ht]
    rfl
  have hcount : ∀ t ∈ importedTables, ∀ title,
      countSource external archive db' t title = countSource external archive db t title := by
    intro t ht title
    unfold countSource Relational.countRows
    rw [h t ht]
  have habout : ∀ t ∈ importedTables,
      countOfTransactions archive db' t = countOfTransactions archive db t := by
    intro t ht
    unfold countOfTransactions
    rw [h t ht, h financeTransactions (by decide)]
  unfold parity selectSource
  simp only [hselect financeTransactions (by decide), hselect financeAccounts (by decide),
    hselect financeCategories (by decide), hselect budgetMonthSnapshots (by decide),
    hselect financeQuarantinedRows (by decide),
    hselect financeExchangeRateSourceRows (by decide),
    hselect financeAccountBalanceCheckpoints (by decide),
    hselect financeAccountOpeningBalances (by decide), hcount financeTransactions (by decide),
    hcount financeQuarantinedRows (by decide), hcount financeExchangeRateSourceRows (by decide),
    hcount exchangeRates (by decide), hcount financeAccountBalanceCheckpoints (by decide),
    hcount financeAccountOpeningBalances (by decide), habout transactionValuations (by decide),
    habout financeTransactionRevisions (by decide),
    habout transactionValuationSourceCells (by decide), h categoryBudgetPeriods (by decide),
    h financeAccountActuals (by decide)]

/-- Verification in a workspace with other tables, but the same rows. -/
theorem Settled.verified_of_contents (h : Settled external archives directory db s)
    (hrows : ∀ t ∈ importedTables, contents db' t = contents db t)
    (hruns : contents db' financeImportRuns = contents db financeImportRuns) :
    ∃ found, (Admin.verifyCommand external archives directory { s with database := some db' }).1 =
      .ok (.verified found) := by
  obtain ⟨saved, plan, drawn, hs, hcovers, hplan, hvalid, hcheckpoints, hholds⟩ := h.imported
  have hperfect := hholds.perfect (classified_of_valid hplan hvalid) hcheckpoints
  have hrun : importCount external (archives directory) db' = 1 := by
    rw [← hholds.run, importCount, Relational.countRows, hruns]
    rfl
  refine ⟨parity external (archives directory) plan db, ?_⟩
  rw [← parity_congr hrows] at hperfect ⊢
  have hfound := planCommand_of_covers external
    (s := { s with database := some db' }) hcovers hs hplan
  have hdatabase := planCommand_database external archives directory { s with database := some db' }
  unfold Admin.verifyCommand
  cases hplanned : planCommand external archives directory { s with database := some db' } with
  | mk found s₁ =>
    rw [hplanned] at hfound hdatabase
    simp only at hfound hdatabase
    subst hfound
    simp [hdatabase, hrun, hperfect]

/-- **Verification after a recovery.** An archive that was imported verifies exactly also in the
database that another server restored from a backup of it. -/
theorem verify_restored {Body : Type} {app target : Server.Backup.AppState Body}
    {headers : Server.Auth.Headers} {verifiedAt exportedAt : String}
    {response : Server.Backup.BackupResponse Body} {request : Server.Backup.RestoreRequest Body}
    {db₁ : FinanceDatabase} (hs : NoImport external s)
    (h : (importCommand external archives directory options s).1 = .ok .committed)
    (commands : List Command)
    (hdb : (runCommands external archives (importCommand external archives directory options s).2
      commands).database = some db)
    (hbackup : Session.serve (Server.Backup.getDbFinanceBackup app headers verifiedAt exportedAt) db =
      (.ok response, db₁))
    (hexternal : target.external = app.external)
    (hversion : target.databaseSchemaVersion = app.databaseSchemaVersion)
    (henabled : target.financeDbRestoreEnabled = true)
    (horigin : Server.Auth.ensureDbRequestOrigin request.headers = .ok ())
    (hsession : Server.Backup.requireSession target request.headers = .ok ())
    (hbody : request.body = response.body)
    (hdigest : request.snapshotSha256 = some response.sha256) :
    ∃ restored db₂ found,
      Session.serve (Server.Backup.restoreDbFinance target request) (fun _ => []) =
        (.ok restored, db₂) ∧
      (verifyCommand external archives directory
        { runCommands external archives (importCommand external archives directory options s).2
            commands with database := some db₂ }).1 = .ok (.verified found) := by
  obtain ⟨db', hsettled, -⟩ := settled_of_import hs h
  have hafter := hsettled.runCommands commands
  obtain rfl : db' = db := Option.some.inj (hafter.database.symm.trans hdb)
  obtain ⟨_, _, _, -, -, -, -, -, hholds⟩ := hafter.imported
  have hintact : ∀ t, (tableSchema t).Intact (db' t) := hholds.consistent.intact
  obtain ⟨hseed, hreferences, hdocument, hsha⟩ := Server.Backup.getDbFinanceBackup_ok hbackup
  have hseeded := Server.Backup.seedOpeningState_seeded hintact hseed
  have hread : Server.Backup.readSnapshot target request =
      .ok (Server.Backup.exportedSnapshot target.databaseSchemaVersion db₁) := by
    rw [hversion]
    have hdigest' : request.snapshotSha256 = some (target.external.sha256 request.body) := by
      rw [hdigest, hsha, hexternal, hbody]
    have hparsed : target.external.parse request.body =
        some (Server.Backup.interchange app exportedAt db₁) := by
      rw [hexternal, hbody, hdocument, app.external.parse_write]
    exact Server.Backup.readSnapshot_interchange horigin hsession henabled hdigest' hparsed
  obtain ⟨restored, db₂, hserve, hcontents⟩ := Server.Backup.restore_exported
    (hseeded.intact hintact) (by rw [hexternal]; exact hreferences) hread
  -- the export only adds openings, which verification does not read
  have hsame : ∀ t, t ≠ budgetOpeningState → contents db₂ t = contents db' t := by
    intro t ht
    rw [hcontents, contents, hseeded.others t ht, contents]
  have hrows : ∀ t ∈ importedTables, contents db₂ t = contents db' t := by
    intro t ht
    apply hsame t
    rintro rfl
    revert ht
    decide
  obtain ⟨found, hfound⟩ := hafter.verified_of_contents hrows (hsame financeImportRuns (by decide))
  exact ⟨restored, db₂, found, hserve, hfound⟩

theorem emptyWorkspace_noImport (external : External) : NoImport external emptyWorkspace := by
  intro db hdb
  cases hdb

theorem importCommand_lunch :
    (importCommand lunchExternal lunchFiles "lunch" commitOptions emptyWorkspace).1 =
      .ok .committed := by
  decide +kernel

theorem verify_after_import_lunch : ∃ found,
    (verifyCommand lunchExternal lunchFiles "lunch" (runCommands lunchExternal lunchFiles
      (importCommand lunchExternal lunchFiles "lunch" commitOptions emptyWorkspace).2
        lunchCommands)).1 = .ok (.verified found) := by
  obtain ⟨found, _, _, -, -, hfound, -⟩ :=
    verify_after_import (emptyWorkspace_noImport _) importCommand_lunch lunchCommands
  exact ⟨found, hfound⟩

theorem import_final_lunch : ∃ e,
    (importCommand lunchExternal lunchFiles "dinner" commitOptions (runCommands lunchExternal
      lunchFiles (importCommand lunchExternal lunchFiles "lunch" commitOptions emptyWorkspace).2
        lunchCommands)).1 = .error e :=
  (import_final (emptyWorkspace_noImport _) importCommand_lunch lunchCommands).2 "dinner"
    commitOptions rfl (by decide)

/-- The database after the import. -/
def lunchDatabase : FinanceDatabase :=
  (importCommand lunchExternal lunchFiles "lunch" commitOptions emptyWorkspace).2.database.getD
    fun _ => []

theorem verify_restored_lunch : ∃ response db₁ restored db₂ found,
    Session.serve (Server.Backup.getDbFinanceBackup Server.Backup.septemberApp
      Server.Backup.septemberHeaders "2026-10-02T08:00:00.000Z" "2026-10-02T08:00:00Z")
        lunchDatabase = (.ok response, db₁) ∧
    Session.serve (Server.Backup.restoreDbFinance Server.Backup.septemberApp
      ⟨Server.Backup.septemberHeaders, some response.sha256, response.body⟩) (fun _ => []) =
        (.ok restored, db₂) ∧
    (verifyCommand lunchExternal lunchFiles "lunch"
      { (importCommand lunchExternal lunchFiles "lunch" commitOptions emptyWorkspace).2 with
        database := some db₂ }).1 = .ok (.verified found) := by
  have hdb : (importCommand lunchExternal lunchFiles "lunch" commitOptions
      emptyWorkspace).2.database = some lunchDatabase := by
    obtain ⟨db, hdb⟩ : ∃ db, (importCommand lunchExternal lunchFiles "lunch" commitOptions
      emptyWorkspace).2.database = some db := Option.isSome_iff_exists.1 (by decide +kernel)
    rw [lunchDatabase, hdb]
    rfl
  obtain ⟨response, hresponse⟩ : ∃ response,
      (Session.serve (Server.Backup.getDbFinanceBackup Server.Backup.septemberApp
        Server.Backup.septemberHeaders "2026-10-02T08:00:00.000Z" "2026-10-02T08:00:00Z")
          lunchDatabase).1 = .ok response := Except.exists_ok (by decide +kernel)
  obtain ⟨db₁, hbackup⟩ : ∃ db₁, Session.serve (Server.Backup.getDbFinanceBackup
      Server.Backup.septemberApp Server.Backup.septemberHeaders "2026-10-02T08:00:00.000Z"
        "2026-10-02T08:00:00Z") lunchDatabase = (.ok response, db₁) := ⟨_, Prod.ext hresponse rfl⟩
  obtain ⟨restored, db₂, found, hrestore, hfound⟩ :=
    @verify_restored _ _ _ _ _ _ _ Server.Backup.septemberApp Server.Backup.septemberApp _ _ _ _
      ⟨Server.Backup.septemberHeaders, some response.sha256, response.body⟩ _
      (emptyWorkspace_noImport _) importCommand_lunch [] hdb hbackup rfl rfl rfl rfl rfl rfl rfl
  exact ⟨response, db₁, restored, db₂, found, hbackup, hrestore, hfound⟩

end Admin
