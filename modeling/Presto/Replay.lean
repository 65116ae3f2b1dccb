import Presto.Log

/-!
# Repeated requests

A request is answered once. Its repetition meets the recorded operation, and the handler compares
actor, payload and a piece of evidence: a revision row, a batch, a correction, a closure. The
evidence of creations and edits is their revision row, which a later deletion removes.
-/

namespace Server

open Budget BudgetLedger

variable {today : Date} {db db' : Database} {call : Call} {response : Response}

/-! ## Openings are seeded once -/

theorem missingOpening_iff {first : Month} : missingOpening db first = true ↔
    ∃ c, db.isRealCategory c = true ∧ c ≠ UNALLOCATED ∧ db.openings.lookup (c, first) = none := by
  unfold missingOpening
  rw [List.any_eq_true]
  constructor
  · rintro ⟨c, hc, hnone⟩
    obtain ⟨hr, hu⟩ := mem_budgetCategories.1 (List.mem_map.2 ⟨c, hc, rfl⟩)
    exact ⟨c.1, hr, hu, Option.isNone_iff_eq_none.1 hnone⟩
  · rintro ⟨c, hr, hu, hnone⟩
    obtain ⟨x, hx, rfl⟩ := List.mem_map.1 (mem_budgetCategories.2 ⟨hr, hu⟩)
    exact ⟨x, hx, Option.isNone_iff_eq_none.2 hnone⟩

/-- There is nothing left to seed: no opening is missing, or all that the import can give are
there. -/
def Opened (db : Database) : Prop :=
  ∀ first, firstMonth db = some first → missingOpening db first = true →
    ∀ c s, db.snapshots.lookup (c, first.previous) = some s → db.isRealCategory c = true →
      s.remainingEur.isSome = true ∧ (db.openings.lookup (c, first)).isSome = true

/-- Seeding puts an opening for every listed snapshot. -/
theorem seedOpenings_ok {first : Month} {rows : List (CategoryId × MonthSnapshot)} :
    ∀ {db db' : Database}, rows.foldlM (seedOpening first) db = .ok db' →
      (∃ O, db' = { db with openings := O }) ∧ Keeps db.openings db'.openings ∧
      ∀ row ∈ rows, row.2.remainingEur.isSome = true ∧
        (db'.openings.lookup (row.1, first)).isSome = true := by
  induction rows with
  | nil =>
    intro db db' h
    rw [List.foldlM_nil, Except.pure_eq_ok] at h
    subst h
    exact ⟨⟨db.openings, rfl⟩, .rfl, by simp⟩
  | cons row rows ih =>
    intro db db' h
    rw [List.foldlM_cons, Except.bind_eq_ok] at h
    obtain ⟨mid, h1, h2⟩ := h
    simp only [seedOpening, Except.bind_eq_ok, Except.fromOption_eq_ok] at h1
    obtain ⟨b, hb, h1⟩ := h1
    obtain ⟨⟨O, rfl⟩, hkeep, hrows⟩ := ih h2
    have hmid : (∃ O, mid = { db with openings := O }) ∧ Keeps db.openings mid.openings ∧
        (mid.openings.lookup (row.1, first)).isSome = true := by
      cases hl : db.openings.lookup (row.1, first) with
      | some x =>
        simp only [hl, Except.pure_eq_ok] at h1
        subst h1
        exact ⟨⟨db.openings, rfl⟩, .rfl, by simp [hl]⟩
      | none =>
        simp only [hl, Except.pure_eq_ok] at h1
        subst h1
        exact ⟨⟨_, rfl⟩, .insert hl _, by simp⟩
    obtain ⟨⟨O', rfl⟩, hkeep', hsome⟩ := hmid
    refine ⟨⟨O, rfl⟩, hkeep'.trans hkeep, fun r hr => ?_⟩
    rcases List.mem_cons.1 hr with rfl | hr
    · exact ⟨by simp [hb], hkeep.isSome hsome⟩
    · exact hrows r hr

/-- A second initialisation changes nothing. -/
theorem Opened.initialized (h : Opened db) : initializeOpenings db = .ok db := by
  unfold initializeOpenings
  cases hf : firstMonth db with
  | none => rfl
  | some first =>
    simp only
    split
    · rename_i hmissing
      have hseed : ∀ rows : List (CategoryId × MonthSnapshot),
          (∀ row ∈ rows, row ∈ priorSnapshots db first) →
          rows.foldlM (seedOpening first) db = .ok db := by
        intro rows
        induction rows with
        | nil => intro _; rfl
        | cons row rows ih =>
          intro hrows
          obtain ⟨hsome, hopening⟩ : row.2.remainingEur.isSome = true ∧
              (db.openings.lookup (row.1, first)).isSome = true := by
            obtain ⟨hs, hr⟩ := mem_priorSnapshots.1 (hrows row List.mem_cons_self)
            exact h first hf hmissing row.1 row.2 hs hr
          obtain ⟨b, hb⟩ := Option.isSome_iff_exists.1 hsome
          obtain ⟨x, hx⟩ := Option.isSome_iff_exists.1 hopening
          have hstep : seedOpening first db row = .ok db := by
            simp [seedOpening, hb, hx, Except.fromOption, bind, Except.bind, pure, Except.pure]
          rw [List.foldlM_cons, hstep]
          exact ih fun r hr => hrows r (List.mem_cons_of_mem _ hr)
      exact hseed _ fun _ hr => hr
    · rfl

theorem initializeOpenings_opened (h : initializeOpenings db = .ok db') : Opened db' := by
  unfold initializeOpenings at h
  intro first hf hmissing c s hs hreal
  cases hf₀ : firstMonth db with
  | none =>
    simp only [hf₀, Except.ok.injEq] at h
    subst h
    rw [hf₀] at hf
    cases hf
  | some first₀ =>
    simp only [hf₀] at h
    split at h
    · obtain ⟨⟨O, rfl⟩, hkeep, hrows⟩ := seedOpenings_ok h
      obtain rfl : first₀ = first := Option.some.inj (hf₀.symm.trans hf)
      exact hrows (c, s) (mem_priorSnapshots.2 ⟨hs, hreal⟩)
    · rename_i hnone
      rw [Except.ok.injEq] at h
      subst h
      obtain rfl : first₀ = first := Option.some.inj (hf₀.symm.trans hf)
      exact absurd hmissing hnone

/-- The categories that a change adds: Unallocated, or one with an opening. -/
theorem Change.newCategory (h : Change today db db') : db'.categories = db.categories ∨
    ∃ id c, db'.categories = db.categories.insert id c ∧ db.categories.lookup id = none ∧
      (id = UNALLOCATED ∨ ∀ first, firstMonth db = some first →
        (db'.openings.lookup (id, first)).isSome = true) := by
  cases h with
  | addCategory hnew _ _ hfirst _ _ _ _ =>
    refine .inr ⟨_, _, rfl, hnew, .inr fun first hf => ?_⟩
    obtain rfl := Option.some.inj (hfirst.symm.trans hf)
    simp
  | startLedger _ _ hnew _ _ _ => exact .inr ⟨_, _, rfl, hnew, .inl rfl⟩
  | _ => exact .inl rfl

theorem Change.opened (h : Change today db db') (hopened : Opened db) (hsound : Sound today db) :
    Opened db' := by
  have hext := h.toExtends
  intro first hf hmissing c s hs hreal
  rw [hext.firstMonth_eq] at hf
  have hcalendar : first.Calendar := (hsound.imports first (firstMonth_mem hf)).1
  have hs₀ : db.snapshots.lookup (c, first.previous) = some s := by
    rcases hext.snapshots c first.previous with e | ⟨_, _, hle⟩
    · rw [← e, hs]
    · exact absurd (Month.previous_lt hcalendar) (not_lt.2 (hle first hf))
  have hexists : (db.categories.lookup c).isSome = true :=
    (hsound.categories.2.2 c first.previous (by simp [hs₀])).2
  -- what is real or missing afterwards was so before, but for a category just added
  have hback : ∀ c', (db.categories.lookup c').isSome = true → db'.isRealCategory c' = true →
      db.isRealCategory c' = true := by
    intro c' hc' hr
    obtain ⟨x, hx⟩ := Option.isSome_iff_exists.1 hc'
    unfold Database.isRealCategory at *
    rw [hext.categories c' x hx] at hr
    rwa [hx]
  have hmissing₀ : missingOpening db first = true := by
    obtain ⟨c', hr, hu, hnone⟩ := missingOpening_iff.1 hmissing
    have hnone₀ : db.openings.lookup (c', first) = none := by
      cases hl : db.openings.lookup (c', first) with
      | none => rfl
      | some x => rw [hext.openings _ x hl] at hnone; cases hnone
    refine missingOpening_iff.2 ⟨c', hback c' ?_ hr, hu, hnone₀⟩
    rcases h.newCategory with e | ⟨id, x, e, _, hopen⟩
    · unfold Database.isRealCategory at hr
      rw [e] at hr
      cases hl : db.categories.lookup c' with
      | none => simp [hl] at hr
      | some y => rfl
    · by_cases hid : c' = id
      · subst hid
        have hsome := hopen.resolve_left hu first hf
        simp [hnone] at hsome
      · unfold Database.isRealCategory at hr
        rw [e, AList.lookup_insert_of, if_neg hid] at hr
        cases hl : db.categories.lookup c' with
        | none => simp [hl] at hr
        | some y => rfl
  obtain ⟨h1, h2⟩ := hopened first hf hmissing₀ c s hs₀ (hback c hexists hreal)
  exact ⟨h1, hext.openings.isSome h2⟩

theorem Changes.opened (h : Changes today db db') (hopened : Opened db) (hsound : Sound today db) :
    Opened db' := by
  induction h with
  | refl => exact hopened
  | tail hc hstep ih => exact hstep.opened ih (Changes.sound hc hsound)

/-! ## The recorded operation -/

/-- The normalised payload of a request that a client can repeat. -/
def Request.fingerprint : Request → Option Fingerprint
  | .create p => (normalize p).toOption.map .create
  | .edit p =>
    if 1 ≤ p.expectedRevision ∧ validExpectedRevisions p.expectedAccountRevisions then
      (normalize p.transaction).toOption.map fun w => .edit (normalizedEdit p w)
    else none
  | .delete p =>
    if 1 ≤ p.expectedRevision ∧ validExpectedRevisions p.expectedAccountRevisions then
      some (.delete (normalizedDelete p))
    else none
  | .reconcile p => (normalizeReconciliation p).toOption.map .reconcile
  | .correct p => (normalizeCorrection p).toOption.map .correct
  | .complete p => if validMonth p.expectedMonth then some (.complete p) else none
  | .close p => if validMonth p.month then some (.close p.month) else none
  | .createCategory _ | .cancelBudget _ | .saveBudget _ | .saveExpectedIncome _ | .refresh
  | .startup => none

/-- The evidence that the replay blocks ask for. -/
def hasEvidence (db : Database) (id : OperationId) : Fingerprint → Response → Bool
  | .create _, _ => hasRevision db id
  | .edit p, _ => decide (revisedTransaction db id = some p.transaction.transactionId)
  | .delete _, response => isDeletion response
  | .reconcile _, _ => (db.batches.lookup id).isSome
  | .correct _, _ => (db.corrections.lookup id).isSome
  | .complete _, _ => true
  | .close month, _ => (db.closures.lookup month).any (·.operationId = id)
  | .audit _, _ => false

theorem once_recorded {id : OperationId} {row : Operation} {actor : Subject}
    {fingerprint : Fingerprint} (accepts : Response → Bool)
    (body : Except ApiError (Database × Response)) (hrow : db.operations.lookup id = some row)
    (hactor : row.actorSubject = actor) (hfingerprint : row.fingerprint = fingerprint)
    (haccepts : accepts row.response = true) :
    once db id actor fingerprint accepts body = .ok (db, row.response) := by
  simp [once, hrow, hactor, hfingerprint, haccepts]

/-- A repetition with the same actor and payload, the evidence being there, is answered from the log
and changes nothing. -/
theorem handle_replay {id : OperationId} {row : Operation}
    (hid : call.request.operationId = some id) (hrow : db.operations.lookup id = some row)
    (hopened : (∀ p, row.fingerprint ≠ .complete p) → Opened db)
    (hactor : row.actorSubject = call.actor)
    (hfingerprint : call.request.fingerprint = some row.fingerprint)
    (hevidence : hasEvidence db id row.fingerprint row.response = true) :
    handle db call = .ok (db, row.response) := by
  obtain ⟨clock, actor, request⟩ := call
  cases request with
  | create p =>
    obtain ⟨w, hw, hf⟩ := Option.map_eq_some_iff.1 hfingerprint
    have hinit := (hopened fun p hp => by rw [← hf] at hp; cases hp).initialized
    rw [Except.toOption_eq_some] at hw
    obtain rfl : p.operationId = id := Option.some.inj hid
    have hop := (normalize_operationId hw).1
    rw [← hf, ← hop] at hevidence
    rw [← hop] at hrow
    have honce := once_recorded (fun _ => hasRevision db w.operationId) (createBody db clock w) hrow
      hactor hf.symm hevidence
    simp only [handle, createTransaction, hw, hinit, Except.mapError, bind, Except.bind]
    exact honce
  | edit p =>
    simp only [Request.fingerprint] at hfingerprint
    split at hfingerprint
    · rename_i hchecks
      obtain ⟨w, hw, hf⟩ := Option.map_eq_some_iff.1 hfingerprint
      have hinit := (hopened fun p hp => by rw [← hf] at hp; cases hp).initialized
      rw [Except.toOption_eq_some] at hw
      obtain rfl : p.transaction.operationId = id := Option.some.inj hid
      have hop := (normalize_operationId hw).1
      rw [← hf, ← hop] at hevidence
      rw [← hop] at hrow
      have honce := once_recorded
        (fun _ => revisedTransaction db w.operationId = some w.transactionId)
        (editBody db clock (normalizedEdit p w)) hrow hactor hf.symm hevidence
      simp only [handle, editTransaction, hw, hinit, Except.ensure, hchecks.1, hchecks.2, if_true,
        Except.mapError, bind, Except.bind]
      exact honce
    · cases hfingerprint
  | delete p =>
    simp only [Request.fingerprint] at hfingerprint
    split at hfingerprint
    · rename_i hchecks
      rw [Option.some.injEq] at hfingerprint
      have hinit := (hopened fun p hp => by rw [← hfingerprint] at hp; cases hp).initialized
      obtain rfl : p.operationId = id := Option.some.inj hid
      rw [← hfingerprint] at hevidence
      have honce := once_recorded isDeletion (deleteBody db clock (normalizedDelete p)) hrow hactor
        hfingerprint.symm hevidence
      simp only [handle, deleteTransaction, hinit, Except.ensure, hchecks.1, hchecks.2, if_true,
        Except.mapError, bind, Except.bind]
      exact honce
    · cases hfingerprint
  | reconcile p =>
    obtain ⟨q, hq, hf⟩ := Option.map_eq_some_iff.1 hfingerprint
    have hinit := (hopened fun p hp => by rw [← hf] at hp; cases hp).initialized
    rw [Except.toOption_eq_some] at hq
    obtain rfl : p.operationId = id := Option.some.inj hid
    have hop := normalizeReconciliation_operationId hq
    rw [← hf, ← hop] at hevidence
    rw [← hop] at hrow
    have honce := once_recorded (fun _ => (db.batches.lookup q.operationId).isSome)
      (reconcileBody db clock q) hrow hactor hf.symm hevidence
    simp only [handle, recordReconciliation, hq, hinit, Except.mapError, bind, Except.bind]
    exact honce
  | correct p =>
    obtain ⟨q, hq, hf⟩ := Option.map_eq_some_iff.1 hfingerprint
    have hinit := (hopened fun p hp => by rw [← hf] at hp; cases hp).initialized
    rw [Except.toOption_eq_some] at hq
    obtain rfl : p.operationId = id := Option.some.inj hid
    have hop := normalizeCorrection_operationId hq
    rw [← hf, ← hop] at hevidence
    rw [← hop] at hrow
    have honce := once_recorded (fun _ => (db.corrections.lookup q.operationId).isSome)
      (correctionBody db clock q) hrow hactor hf.symm hevidence
    simp only [handle, recordCorrection, hq, hinit, Except.mapError, bind, Except.bind]
    exact honce
  | complete p =>
    simp only [Request.fingerprint] at hfingerprint
    split at hfingerprint
    · rename_i hvalid
      rw [Option.some.injEq] at hfingerprint
      obtain rfl : p.operationId = id := Option.some.inj hid
      have honce := once_recorded (fun _ => true) (completeBody db clock p) hrow hactor
        hfingerprint.symm rfl
      simp only [handle, completeIncome, Except.ensure, hvalid, if_true, bind, Except.bind]
      exact honce
    · cases hfingerprint
  | close p =>
    simp only [Request.fingerprint] at hfingerprint
    split at hfingerprint
    · rename_i hvalid
      rw [Option.some.injEq] at hfingerprint
      have hinit := (hopened fun p hp => by rw [← hfingerprint] at hp; cases hp).initialized
      obtain rfl : p.operationId = id := Option.some.inj hid
      rw [← hfingerprint] at hevidence
      have honce := once_recorded
        (fun _ => (db.closures.lookup p.month).any fun c : Closure => c.operationId = p.operationId)
        (closeBody db clock p) hrow hactor hfingerprint.symm hevidence
      simp only [handle, closeMonth, hinit, Except.ensure, hvalid, if_true, Except.mapError, bind,
        Except.bind]
      exact honce
    · cases hfingerprint
  | _ => cases hid

/-- What answers a repetition is the recorded operation. -/
theorem handle_recorded_ok {id : OperationId} {row : Operation}
    (hid : call.request.operationId = some id) (hrow : db.operations.lookup id = some row)
    (h : handle db call = .ok (db', response)) :
    row.actorSubject = call.actor ∧ call.request.fingerprint = some row.fingerprint ∧
      hasEvidence db id row.fingerprint row.response = true := by
  obtain ⟨clock, actor, request⟩ := call
  -- the openings play no part in the comparison
  have hmatch : ∀ {db₀ : Database} {id' : OperationId} {fp : Fingerprint}
      {accepts : Response → Bool} {body : Except ApiError (Database × Response)},
      (∃ O, db₀ = { db with openings := O }) → id' = id →
      (accepts row.response = true → hasEvidence db id fp row.response = true) →
      once db₀ id' actor fp accepts body = .ok (db', response) →
      row.actorSubject = actor ∧ row.fingerprint = fp ∧
        hasEvidence db id row.fingerprint row.response = true := by
    rintro db₀ id' fp accepts body ⟨O, rfl⟩ rfl hacc honce
    rcases once_ok honce with ⟨row', hrow', hactor, hfp, haccepts, _, _⟩ | ⟨hnew, _⟩
    · obtain rfl : row = row' := Option.some.inj (hrow.symm.trans hrow')
      exact ⟨hactor, hfp, hfp ▸ hacc haccepts⟩
    · have hnone : db.operations.lookup id' = none := hnew
      rw [hrow] at hnone
      cases hnone
  cases request with
  | create p =>
    simp only [handle, createTransaction, Except.bind_eq_ok, Except.mapError_eq_ok] at h
    obtain ⟨w, hn, db₀, hinit, h⟩ := h
    obtain ⟨O, rfl⟩ := initializeOpenings_frame hinit
    have hop : w.operationId = id := (normalize_operationId hn).1.trans (Option.some.inj hid)
    obtain ⟨h1, h2, h3⟩ := hmatch ⟨O, rfl⟩ hop (fun hacc => by rw [← hop]; exact hacc) h
    exact ⟨h1, by simp [Request.fingerprint, hn, h2, Except.toOption], h3⟩
  | edit p =>
    simp only [handle, editTransaction, Except.bind_eq_ok, Except.mapError_eq_ok,
      Except.ensure_eq_ok] at h
    obtain ⟨w, hn, _, hr, _, he, db₀, hinit, h⟩ := h
    obtain ⟨O, rfl⟩ := initializeOpenings_frame hinit
    have hop : w.operationId = id := (normalize_operationId hn).1.trans (Option.some.inj hid)
    obtain ⟨h1, h2, h3⟩ := hmatch ⟨O, rfl⟩ hop (fun hacc => by rw [← hop]; exact hacc) h
    exact ⟨h1, by simp [Request.fingerprint, hn, h2, hr, he, Except.toOption], h3⟩
  | delete p =>
    simp only [handle, deleteTransaction, Except.bind_eq_ok, Except.mapError_eq_ok,
      Except.ensure_eq_ok] at h
    obtain ⟨_, hr, _, he, db₀, hinit, h⟩ := h
    obtain ⟨O, rfl⟩ := initializeOpenings_frame hinit
    obtain ⟨h1, h2, h3⟩ := hmatch ⟨O, rfl⟩ (Option.some.inj hid) (fun hacc => hacc) h
    exact ⟨h1, by simp [Request.fingerprint, h2, hr, he], h3⟩
  | reconcile p =>
    simp only [handle, recordReconciliation, Except.bind_eq_ok, Except.mapError_eq_ok] at h
    obtain ⟨q, hn, db₀, hinit, h⟩ := h
    obtain ⟨O, rfl⟩ := initializeOpenings_frame hinit
    have hop : q.operationId = id :=
      (normalizeReconciliation_operationId hn).trans (Option.some.inj hid)
    obtain ⟨h1, h2, h3⟩ := hmatch ⟨O, rfl⟩ hop (fun hacc => by rw [← hop]; exact hacc) h
    exact ⟨h1, by simp [Request.fingerprint, hn, h2, Except.toOption], h3⟩
  | correct p =>
    simp only [handle, recordCorrection, Except.bind_eq_ok, Except.mapError_eq_ok] at h
    obtain ⟨q, hn, db₀, hinit, h⟩ := h
    obtain ⟨O, rfl⟩ := initializeOpenings_frame hinit
    have hop : q.operationId = id :=
      (normalizeCorrection_operationId hn).trans (Option.some.inj hid)
    obtain ⟨h1, h2, h3⟩ := hmatch ⟨O, rfl⟩ hop (fun hacc => by rw [← hop]; exact hacc) h
    exact ⟨h1, by simp [Request.fingerprint, hn, h2, Except.toOption], h3⟩
  | complete p =>
    simp only [handle, completeIncome, Except.bind_eq_ok, Except.ensure_eq_ok] at h
    obtain ⟨_, hv, h⟩ := h
    obtain ⟨h1, h2, h3⟩ := hmatch ⟨db.openings, rfl⟩ (Option.some.inj hid) (fun hacc => hacc) h
    exact ⟨h1, by simp [Request.fingerprint, h2, hv], h3⟩
  | close p =>
    simp only [handle, closeMonth, Except.bind_eq_ok, Except.mapError_eq_ok,
      Except.ensure_eq_ok] at h
    obtain ⟨_, hv, db₀, hinit, h⟩ := h
    obtain ⟨O, rfl⟩ := initializeOpenings_frame hinit
    have hop : p.operationId = id := Option.some.inj hid
    obtain ⟨h1, h2, h3⟩ := hmatch ⟨O, rfl⟩ hop (fun hacc => by rw [← hop]; exact hacc) h
    exact ⟨h1, by simp [Request.fingerprint, h2, hv], h3⟩
  | _ => cases hid

/-! ## The first answer -/

/-- The transaction that a creation or an edit writes. -/
def writtenId : Fingerprint → Option TransactionId
  | .create w => some w.transactionId
  | .edit p => some p.transaction.transactionId
  | _ => none

/-- The evidence of an operation: the revision row, while it lasts, or what is never dropped. -/
def Evident (db : Database) (id : OperationId) (fingerprint : Fingerprint) (response : Response) :
    Prop :=
  match writtenId fingerprint with
  | some tx => Tracked db id tx
  | none => hasEvidence db id fingerprint response = true

/-- The evidence is complete exactly while the transaction has not been deleted. -/
theorem Evident.iff {id : OperationId} {fingerprint : Fingerprint}
    (h : Evident db id fingerprint response) : hasEvidence db id fingerprint response = true ↔
      ∀ tx, writtenId fingerprint = some tx → ¬ DeletedAfter db id tx := by
  unfold Evident at h
  cases fingerprint with
  | create w =>
    have ht : Tracked db id w.transactionId := h
    have hrow : hasEvidence db id (.create w) response = true ↔ Revised db id w.transactionId := by
      simp only [hasEvidence, hasRevision, List.any_eq_true, decide_eq_true_eq]
      exact ⟨fun ⟨x, hx, hop⟩ => ⟨x, hx, hop, ht.only x hx hop⟩, fun ⟨x, hx, hop, _⟩ => ⟨x, hx, hop⟩⟩
    rw [hrow, ht.revised]
    simp [writtenId]
  | edit p =>
    have ht : Tracked db id p.transaction.transactionId := h
    have hrow : hasEvidence db id (.edit p) response = true ↔
        Revised db id p.transaction.transactionId := by
      unfold hasEvidence revisedTransaction
      rw [decide_eq_true_iff]
      constructor
      · intro hfind
        obtain ⟨x, hx, htx⟩ := Option.map_eq_some_iff.1 hfind
        exact ⟨x, List.mem_of_find?_eq_some hx, by simpa using List.find?_some hx, htx⟩
      · rintro ⟨x, hx, hop, htx⟩
        cases hf : db.revisions.find? fun r => r.operationId = some id with
        | none => simpa [hop] using List.find?_eq_none.1 hf x hx
        | some y =>
          have hy := ht.only y (List.mem_of_find?_eq_some hf) (by simpa using List.find?_some hf)
          simp [hy]
    rw [hrow, ht.revised]
    simp [writtenId]
  | _ =>
    simp only [writtenId] at h
    simp [writtenId, h]

/-- An operation just recorded, with one revision row of its transaction. -/
theorem tracked_of_new {db₁ : Database} (revision : Nat) (hlog : LogSound db) {id : OperationId}
    {tx : TransactionId} {actor : Subject} {fingerprint : Fingerprint}
    (hfresh : db.operations.lookup id = none) (hops : db₁.operations = db.operations)
    (hrev : db₁.revisions = ⟨tx, revision, some id⟩ :: db.revisions) :
    Tracked (db₁.recordOperation id actor fingerprint response) id tx := by
  have ho := recordOperation_congr hops id actor fingerprint response
  have hlookup : ∀ o, (db.recordOperation id actor fingerprint response).operations.lookup o
      = if o = id then some ⟨db.operations.entries.length + 1, actor, fingerprint, response⟩
        else db.operations.lookup o := fun o => lookup_recordOperation id o actor fingerprint _
  refine ⟨by rw [ho, hlookup, if_pos rfl]; rfl, fun x hx hop => ?_, ?_⟩
  · have hx : x ∈ ⟨tx, revision, some id⟩ :: db.revisions := hrev ▸ hx
    rcases List.mem_cons.1 hx with rfl | hx
    · rfl
    · have hsome := hlog.revisions x hx id hop
      simp [hfresh] at hsome
  · have hrevised : Revised (db₁.recordOperation id actor fingerprint response) id tx := by
      refine ⟨⟨tx, revision, some id⟩, ?_, rfl, rfl⟩
      have hmem : (⟨tx, revision, some id⟩ : TransactionRevision) ∈ db₁.revisions := by simp [hrev]
      exact hmem
    refine iff_of_true hrevised ?_
    rintro ⟨row, hrow, later, row', hrow', hlt, _⟩
    rw [ho, hlookup, if_pos rfl, Option.some.injEq] at hrow
    rw [ho, hlookup] at hrow'
    subst hrow
    split at hrow'
    · cases hrow'
      exact absurd hlt (lt_irrefl _)
    · exact absurd (hlt.trans_le (hlog.rowids _ _ hrow')) (by simp)

/-- What the first submission leaves behind: its operation, with the evidence for a repetition. -/
structure Answered (db : Database) (call : Call) (id : OperationId) (row : Operation) : Prop where
  recorded : db.operations.lookup id = some row
  actor : row.actorSubject = call.actor
  fingerprint : call.request.fingerprint = some row.fingerprint
  opened : (∀ p, row.fingerprint ≠ .complete p) → Opened db
  evident : Evident db id row.fingerprint row.response

theorem Answered.of_record {clock : Clock} {actor : Subject} {request : Request} {db₁ : Database}
    {id : OperationId} {fingerprint : Fingerprint} (hfp : request.fingerprint = some fingerprint)
    (hopened : (∀ p, fingerprint ≠ .complete p) → Opened db₁)
    (hevident : Evident (db₁.recordOperation id actor fingerprint response) id fingerprint
      response) :
    ∃ row, Answered (db₁.recordOperation id actor fingerprint response) ⟨clock, actor, request⟩ id
      row ∧ row.response = response :=
  ⟨_, ⟨by rw [lookup_recordOperation, if_pos rfl], rfl, hfp, hopened, hevident⟩, rfl⟩

/-- **The first submission.** -/
theorem handle_answered {id : OperationId} (hid : call.request.operationId = some id)
    (hnew : db.operations.lookup id = none) (h : handle db call = .ok (db', response))
    (hsound : Sound call.clock.today db) (hlog : LogSound db) :
    ∃ row, Answered db' call id row ∧ row.response = response := by
  obtain ⟨clock, actor, request⟩ := call
  have hbody : ∀ {db₀ : Database} {id' : OperationId} {fp : Fingerprint}
      {accepts : Response → Bool} {body : Except ApiError (Database × Response)},
      (∃ O, db₀ = { db with openings := O }) → id' = id →
      once db₀ id' actor fp accepts body = .ok (db', response) →
      ∃ db₁, body = .ok (db₁, response) ∧ db' = db₁.recordOperation id' actor fp response := by
    rintro db₀ id' fp accepts body ⟨O, rfl⟩ rfl honce
    rcases once_ok honce with ⟨row, hrow, _⟩ | ⟨_, db₁, hb, rfl⟩
    · have hsome : db.operations.lookup id' = some row := hrow
      rw [hnew] at hsome
      cases hsome
    · exact ⟨db₁, hb, rfl⟩
  cases request with
  | create p =>
    simp only [handle, createTransaction, Except.bind_eq_ok, Except.mapError_eq_ok] at h
    obtain ⟨w, hn, db₀, hinit, h⟩ := h
    have hop : w.operationId = id := (normalize_operationId hn).1.trans (Option.some.inj hid)
    have hsound₀ := (initializeOpenings_changes clock.today hinit).1.sound hsound
    have hopened₀ := initializeOpenings_opened hinit
    obtain ⟨O, rfl⟩ := initializeOpenings_frame hinit
    obtain ⟨db₁, hb, rfl⟩ := hbody ⟨O, rfl⟩ hop h
    have hchanges := (createBody_worked hn hb hsound₀).1.changes
    rw [hop]
    have hfp : Request.fingerprint (.create p) = some (.create w) := by simp [Request.fingerprint, hn, Except.toOption]
    refine Answered.of_record hfp
      (fun _ => hchanges.opened hopened₀ hsound₀) ?_
    obtain ⟨r, v, occurredAt, accounts, d₁, d₂, cs, hc, _⟩ := createBody_ok hb
    obtain ⟨P, M, rfl⟩ := sync_frame hc.synced
    obtain ⟨P, R, rfl⟩ := hc.receipt.frame
    obtain ⟨_, A, rfl⟩ := postDeltas_changes hc.posted
    exact tracked_of_new 1 hlog hnew rfl (by rw [← hop]; rfl)
  | edit p =>
    simp only [handle, editTransaction, Except.bind_eq_ok, Except.mapError_eq_ok,
      Except.ensure_eq_ok] at h
    obtain ⟨w, hn, _, hr, _, he, db₀, hinit, h⟩ := h
    have hop : w.operationId = id := (normalize_operationId hn).1.trans (Option.some.inj hid)
    have hsound₀ := (initializeOpenings_changes clock.today hinit).1.sound hsound
    have hopened₀ := initializeOpenings_opened hinit
    obtain ⟨O, rfl⟩ := initializeOpenings_frame hinit
    obtain ⟨db₁, hb, rfl⟩ := hbody ⟨O, rfl⟩ hop h
    have hchanges := (@editBody_worked _ _ _ _ _ (normalizedEdit p w) hn hb hsound₀).1.changes
    rw [hop]
    have hfp : Request.fingerprint (.edit p) = some (.edit (normalizedEdit p w)) := by simp [Request.fingerprint, hn, hr, he, Except.toOption]
    refine Answered.of_record hfp
      (fun _ => hchanges.opened hopened₀ hsound₀) ?_
    obtain ⟨old, r, stored, vs, fromNative, toNative, occurredAt, accounts, d₁, d₂, d₃, cs, hc, rfl,
      _⟩ := editBody_ok hb
    obtain ⟨P, M, rfl⟩ := sync_frame hc.synced
    obtain ⟨P, R, rfl⟩ := hc.receipt.frame
    obtain ⟨_, A, rfl⟩ := postDeltas_changes hc.posted
    exact tracked_of_new (old.revision + 1) hlog hnew rfl (by rw [← hop]; rfl)
  | delete p =>
    simp only [handle, deleteTransaction, Except.bind_eq_ok, Except.mapError_eq_ok,
      Except.ensure_eq_ok] at h
    obtain ⟨_, hr, _, he, db₀, hinit, h⟩ := h
    obtain rfl : p.operationId = id := Option.some.inj hid
    have hsound₀ := (initializeOpenings_changes clock.today hinit).1.sound hsound
    have hopened₀ := initializeOpenings_opened hinit
    obtain ⟨db₁, hb, rfl⟩ := hbody (initializeOpenings_frame hinit) rfl h
    have hchanges := (deleteBody_worked hb hsound₀).1.changes
    have hfp : Request.fingerprint (.delete p) = some (.delete (normalizedDelete p)) := by simp [Request.fingerprint, hr, he]
    refine Answered.of_record hfp
      (fun _ => hchanges.opened hopened₀ hsound₀) ?_
    obtain ⟨old, stored, accounts, d₁, cs, hd, rfl⟩ := deleteBody_ok hb
    rfl
  | reconcile p =>
    simp only [handle, recordReconciliation, Except.bind_eq_ok, Except.mapError_eq_ok] at h
    obtain ⟨q, hn, db₀, hinit, h⟩ := h
    have hop : q.operationId = id :=
      (normalizeReconciliation_operationId hn).trans (Option.some.inj hid)
    have hsound₀ := (initializeOpenings_changes clock.today hinit).1.sound hsound
    have hopened₀ := initializeOpenings_opened hinit
    obtain ⟨db₁, hb, rfl⟩ := hbody (initializeOpenings_frame hinit) hop h
    have hchanges := reconcileBody_changes hn hb
    rw [hop]
    have hfp : Request.fingerprint (.reconcile p) = some (.reconcile q) := by simp [Request.fingerprint, hn, Except.toOption]
    refine Answered.of_record hfp
      (fun _ => hchanges.opened hopened₀ hsound₀) ?_
    obtain ⟨sa, sc, s, _, _, _, _, _, _, rfl, _⟩ := reconcileBody_ok hb
    simp [Evident, writtenId, hasEvidence, Database.recordOperation, hop]
  | correct p =>
    simp only [handle, recordCorrection, Except.bind_eq_ok, Except.mapError_eq_ok] at h
    obtain ⟨q, hn, db₀, hinit, h⟩ := h
    have hop : q.operationId = id :=
      (normalizeCorrection_operationId hn).trans (Option.some.inj hid)
    have hsound₀ := (initializeOpenings_changes clock.today hinit).1.sound hsound
    have hopened₀ := initializeOpenings_opened hinit
    obtain ⟨db₁, hb, rfl⟩ := hbody (initializeOpenings_frame hinit) hop h
    have hchanges := (correctionBody_worked hn hb hsound₀).1.changes
    rw [hop]
    have hfp : Request.fingerprint (.correct p) = some (.correct q) := by simp [Request.fingerprint, hn, Except.toOption]
    refine Answered.of_record hfp
      (fun _ => hchanges.opened hopened₀ hsound₀) ?_
    obtain ⟨original, _, _, _, _, hs, _⟩ := correctionBody_ok hb
    obtain ⟨P, M, rfl⟩ := sync_frame hs
    simp [Evident, writtenId, hasEvidence, Database.recordOperation, corrected, hop]
  | complete p =>
    simp only [handle, completeIncome, Except.bind_eq_ok, Except.ensure_eq_ok] at h
    obtain ⟨_, hv, h⟩ := h
    obtain rfl : p.operationId = id := Option.some.inj hid
    obtain ⟨db₁, hb, rfl⟩ := hbody ⟨db.openings, rfl⟩ rfl h
    have hfp : Request.fingerprint (.complete p) = some (.complete p) := by simp [Request.fingerprint, hv]
    exact Answered.of_record hfp (fun hne => absurd rfl (hne p)) rfl
  | close p =>
    simp only [handle, closeMonth, Except.bind_eq_ok, Except.mapError_eq_ok,
      Except.ensure_eq_ok] at h
    obtain ⟨_, hv, db₀, hinit, h⟩ := h
    obtain rfl : p.operationId = id := Option.some.inj hid
    have hsound₀ := (initializeOpenings_changes clock.today hinit).1.sound hsound
    have hopened₀ := initializeOpenings_opened hinit
    obtain ⟨db₁, hb, rfl⟩ := hbody (initializeOpenings_frame hinit) rfl h
    have hchanges := (closeBody_worked hb hsound₀).1.changes
    have hfp : Request.fingerprint (.close p) = some (.close p.month) := by simp [Request.fingerprint, hv]
    refine Answered.of_record hfp
      (fun _ => hchanges.opened hopened₀ hsound₀) ?_
    obtain ⟨batch, first, d₁, cs, cov, hc, _⟩ := closeBody_ok hb hsound₀
    simp [Evident, writtenId, hasEvidence, Database.recordOperation, hc.result, frozen]
  | _ => cases hid

/-- The evidence that is not a revision row is never dropped. -/
theorem hasEvidence_extends {id : OperationId} {fingerprint : Fingerprint} (h : Extends db db')
    (hnone : writtenId fingerprint = none) (he : hasEvidence db id fingerprint response = true) :
    hasEvidence db' id fingerprint response = true := by
  cases fingerprint with
  | create w => cases hnone
  | edit p => cases hnone
  | reconcile p => exact h.batches.isSome he
  | correct p => exact h.corrections.isSome he
  | close m =>
    obtain ⟨c, hc, hop⟩ := (Option.any_eq_true _ _).1 he
    exact (Option.any_eq_true _ _).2 ⟨c, h.closures m c hc, hop⟩
  | _ => exact he

/-- Later calls keep the answer. -/
theorem Answered.run {d d' : Date} {id : OperationId} {row : Operation}
    (h : Answered db call id row) (hrun : Run d db d' db') (hsound : Sound d db)
    (hlog : LogSound db) : Answered db' call id row := by
  have hext : Extends db db' := hrun.toExtends hsound
  refine ⟨hext.operations id row h.recorded, h.actor, h.fingerprint, ?_, ?_⟩
  · intro hne
    have hopened := h.opened hne
    have key := hrun.induct (I := fun d db => Sound d db ∧ Opened db) ⟨hsound, hopened⟩
      fun _ _ call _ hv hle _ hs =>
        have hl := hs.1.later hv hle
        have hc := step_changes call hl
        ⟨hc.sound hl, hc.opened hs.2 hl⟩
    exact key.2
  · have hevident := h.evident
    unfold Evident at *
    cases hw : writtenId row.fingerprint with
    | some tx =>
      simp only [hw] at hevident ⊢
      exact hrun.tracked hsound hlog hevident
    | none =>
      simp only [hw] at hevident ⊢
      exact hasEvidence_extends hext hw hevident

/-! ## Exactly once -/

/-- Every later submission under the id: answered with the first response when actor and payload are
the same, refused otherwise, and the tables stay as they are. -/
def ExactlyOnce (d : Date) (db : Database) (id : OperationId) (call : Call) (response : Response) :
    Prop :=
  ∀ again : Call, again.clock.today.Valid → d ≤ again.clock.today →
    again.request.operationId = some id →
    (again.actor = call.actor → again.request.fingerprint = call.request.fingerprint →
      handle db again = .ok (db, response)) ∧
    (¬ (again.actor = call.actor ∧ again.request.fingerprint = call.request.fingerprint) →
      (∃ e, handle db again = .error e) ∧ step db again = db)

/-- The transaction that a request writes under its own id. -/
def Request.writes : Request → Option TransactionId
  | .create p => some p.transactionId
  | .edit p => some p.transaction.transactionId
  | _ => none

theorem writes_eq {fingerprint : Fingerprint} (h : call.request.fingerprint = some fingerprint) :
    call.request.writes = writtenId fingerprint := by
  obtain ⟨clock, actor, request⟩ := call
  cases request with
  | create p =>
    obtain ⟨w, hw, rfl⟩ := Option.map_eq_some_iff.1 h
    rw [Except.toOption_eq_some] at hw
    simp [Request.writes, writtenId, (normalize_operationId hw).2]
  | edit p =>
    simp only [Request.fingerprint] at h
    split at h
    · obtain ⟨w, hw, rfl⟩ := Option.map_eq_some_iff.1 h
      rw [Except.toOption_eq_some] at hw
      simp [Request.writes, writtenId, normalizedEdit, (normalize_operationId hw).2]
    · cases h
  | delete p =>
    simp only [Request.fingerprint] at h
    split at h <;> cases h
    rfl
  | reconcile p =>
    obtain ⟨q, _, rfl⟩ := Option.map_eq_some_iff.1 h
    rfl
  | correct p =>
    obtain ⟨q, _, rfl⟩ := Option.map_eq_some_iff.1 h
    rfl
  | complete p =>
    simp only [Request.fingerprint] at h
    split at h <;> cases h
    rfl
  | close p =>
    simp only [Request.fingerprint] at h
    split at h <;> cases h
    rfl
  | _ => cases h

/-- **Exactly once, unless the transaction was deleted.** An operation that succeeded is answered from
the log ever after, and nothing else is accepted under its id, if and only if no deletion of the
transaction it created or edited has been recorded since. -/
theorem exactlyOnce_iff (hreach : Reachable today db) (hvalid : call.clock.today.Valid)
    (hlater : today ≤ call.clock.today) {id : OperationId}
    (hid : call.request.operationId = some id) (hnew : db.operations.lookup id = none)
    (h : handle db call = .ok (db', response)) {d : Date} {db'' : Database}
    (hrun : Run call.clock.today db' d db'') :
    ExactlyOnce d db'' id call response ↔
      ∀ tx, call.request.writes = some tx → ¬ DeletedAfter db'' id tx := by
  have hsound : Sound call.clock.today db := hreach.sound.later hvalid hlater
  have hlog : LogSound db := hreach.logSound
  have heffect := handle_effect h hsound
  have hsound' : Sound call.clock.today db' := (handle_changes h hsound).sound hsound
  obtain ⟨row, hanswered, hresponse⟩ := handle_answered hid hnew h hsound hlog
  have hans : Answered db'' call id row := hanswered.run hrun hsound' (heffect.log.logSound hlog)
  rw [writes_eq hans.fingerprint, ← hans.evident.iff]
  constructor
  · intro honce
    have hd : d.Valid := hrun.valid hvalid
    let again : Call := ⟨{ call.clock with today := d }, call.actor, call.request⟩
    have hok : handle db'' again = .ok (db'', response) := (honce again hd le_rfl hid).1 rfl rfl
    have hagain : again.request.operationId = some id := hid
    exact (handle_recorded_ok hagain hans.recorded hok).2.2
  · intro hevidence again _ _ hagain
    constructor
    · intro hactor hfp
      rw [hans.fingerprint] at hfp
      rw [← hresponse]
      exact handle_replay hagain hans.recorded hans.opened (hans.actor.trans hactor.symm) hfp hevidence
    · intro hne
      cases hok : handle db'' again with
      | error e => exact ⟨⟨e, rfl⟩, by simp [step, hok]⟩
      | ok result =>
        obtain ⟨db₃, r⟩ := result
        obtain ⟨hactor, hfp, _⟩ := handle_recorded_ok hagain hans.recorded hok
        exact absurd ⟨hactor.symm.trans hans.actor, hfp.trans hans.fingerprint.symm⟩ hne

/-- The call that spends 15 EUR under the operation id 100. -/
def spending : Call := callOn october 3 (.create (spend 100 200 ⟨october, 3⟩ 15))

/-- The deletion of that expense. -/
def spendingDeleted : Call := callOn october 4 (.delete ⟨102, 200, 1, [(1, 1)]⟩)

/-- The expense is still there after a refresh. -/
theorem exactlyOnce_iff_refreshed :
    let db := run (household 1000) opened
    let db' := step (step db spending) (callOn october 4 .refresh)
    ∃ response, handle db spending = .ok (step db spending, response) ∧
      (ExactlyOnce ⟨october, 4⟩ db' 100 spending response ↔
        ∀ tx, spending.request.writes = some tx → ¬ DeletedAfter db' 100 tx) := by
  intro db db'
  have hreach : Reachable ⟨october, 2⟩ db :=
    household_reachable 1000 (by decide : Chronological _ opened)
  obtain ⟨response, h⟩ := exists_ok_of_step (by decide +kernel : (handle db spending).isOk = true)
  have hrun : Run ⟨october, 3⟩ (step db spending) ⟨october, 4⟩ db' :=
    .step (.refl _ _) (callOn october 4 .refresh) (by decide) (by decide) trivial
  exact ⟨response, h, exactlyOnce_iff hreach (by decide) (by decide) rfl (by decide +kernel) h hrun⟩

/-- **A lost answer.** When the expense is deleted before its creation is repeated, the repetition is
refused: the revision row that the replay asks for went with the transaction. -/
theorem exactlyOnce_fails :
    let db := run (household 1000) opened
    let db' := step (step db spending) spendingDeleted
    ∃ response, handle db spending = .ok (step db spending, response) ∧
      Run ⟨october, 3⟩ (step db spending) ⟨october, 4⟩ db' ∧
      ¬ ExactlyOnce ⟨october, 4⟩ db' 100 spending response := by
  intro db db'
  obtain ⟨response, h⟩ := exists_ok_of_step (by decide +kernel : (handle db spending).isOk = true)
  refine ⟨response, h, .step (.refl _ _) spendingDeleted (by decide) (by decide) trivial, ?_⟩
  intro honce
  have hrefused : (handle db' (callOn october 4 spending.request)).isOk = false := by decide +kernel
  have hok := (honce (callOn october 4 spending.request) (by decide) le_rfl rfl).1 rfl rfl
  rw [hok] at hrefused
  cases hrefused

end Server
