import Presto.Totals

/-!
# Reachable ledgers are up to date

Between two calls the ledger is up to date as of some month `d`: the months from the ledger start to
`d` are materialised and have their recomputed balances, and nothing that counts is dated later.
Calls that end with `sync` bring `d` to the current month; the others, reconciliations and cancelled
budgets, change nothing that the recomputation reads.
-/

namespace Budget

/-- What the effective row is. -/
theorem effectiveFrom_spec {α : Type} {m : Month} {rows : List (Month × α)} :
    (∃ b, effectiveFrom m rows = some b ∧ b ∈ rows ∧ b.1 ≤ m ∧
      ∀ r ∈ rows, r.1 ≤ m → r.1 ≤ b.1) ∨
    (effectiveFrom m rows = none ∧ ∀ r ∈ rows, ¬ r.1 ≤ m) := by
  induction rows with
  | nil => exact .inr ⟨rfl, by simp⟩
  | cons row rows ih =>
    unfold effectiveFrom
    rcases ih with ⟨b, hb, hmem, hle, hmax⟩ | ⟨hb, hnone⟩
    · simp only [hb]
      by_cases h : row.1 ≤ m ∧ b.1 < row.1
      · refine .inl ⟨row, by rw [if_pos h], List.mem_cons_self, h.1, fun r hr hrm => ?_⟩
        rcases List.mem_cons.1 hr with rfl | hr
        · exact le_rfl
        · exact (hmax r hr hrm).trans h.2.le
      · refine .inl ⟨b, by rw [if_neg h], List.mem_cons_of_mem _ hmem, hle, fun r hr hrm => ?_⟩
        rcases List.mem_cons.1 hr with rfl | hr
        · exact not_lt.1 fun hlt => h ⟨hrm, hlt⟩
        · exact hmax r hr hrm
    · simp only [hb]
      by_cases h : row.1 ≤ m
      · refine .inl ⟨row, by rw [if_pos h], List.mem_cons_self, h, fun r hr hrm => ?_⟩
        rcases List.mem_cons.1 hr with rfl | hr
        · exact le_rfl
        · exact absurd hrm (hnone r hr)
      · refine .inr ⟨by rw [if_neg h], fun r hr => ?_⟩
        rcases List.mem_cons.1 hr with rfl | hr
        · exact h
        · exact hnone r hr

/-- Rows that start later do not count. -/
theorem effectiveFrom_congr {α : Type} {m : Month} {rows rows' : List (Month × α)}
    (hkeys : ∀ a ∈ rows, ∀ b ∈ rows, a.1 = b.1 → a = b)
    (h : ∀ r : Month × α, r.1 ≤ m → (r ∈ rows' ↔ r ∈ rows)) :
    effectiveFrom m rows' = effectiveFrom m rows := by
  rcases @effectiveFrom_spec α m rows with ⟨b, hb, hmem, hle, hmax⟩ | ⟨hb, hnone⟩
  · rcases @effectiveFrom_spec α m rows' with ⟨b', hb', hmem', hle', hmax'⟩ | ⟨_, hnone'⟩
    · rw [hb, hb', Option.some.injEq]
      refine hkeys b' ((h b' hle').1 hmem') b hmem (le_antisymm ?_ ?_)
      · exact hmax b' ((h b' hle').1 hmem') hle'
      · exact hmax' b ((h b hle).2 hmem) hle
    · exact absurd hle (hnone' b ((h b hle).2 hmem))
  · rcases @effectiveFrom_spec α m rows' with ⟨b', hb', hmem', hle', _⟩ | ⟨hb', _⟩
    · exact absurd hle' (hnone b' ((h b' hle').1 hmem'))
    · rw [hb, hb']

/-- The allocation of a month depends on the amounts that have started by then. -/
theorem monthlyAllocation_congr {db db' : Database} {c : CategoryId} {m : Month}
    (h : ∀ m' ≤ m, db'.periods.lookup (c, m') = db.periods.lookup (c, m')) :
    monthlyAllocation db' c m = monthlyAllocation db c m := by
  have hmem : ∀ (x : Database) (r : Month × Option Decimal),
      r ∈ (x.periods.entries.filter fun e => e.1.1 = c).map (fun e => (e.1.2, e.2)) ↔
        x.periods.lookup (c, r.1) = some r.2 := by
    intro x r
    rw [List.mem_map]
    constructor
    · rintro ⟨⟨⟨c', m'⟩, a⟩, he, rfl⟩
      obtain ⟨hrow, hc⟩ := List.mem_filter.1 he
      obtain rfl : c' = c := of_decide_eq_true hc
      exact AList.mem_entries_iff.1 hrow
    · intro hl
      exact ⟨⟨(c, r.1), r.2⟩, List.mem_filter.2 ⟨AList.mem_entries_iff.2 hl, by simp⟩, rfl⟩
  unfold monthlyAllocation
  simp only
  rw [effectiveFrom_congr]
  · intro a ha b hb hab
    rw [hmem] at ha hb
    rw [hab, hb, Option.some.injEq] at ha
    exact Prod.ext hab ha.symm
  · intro r hr
    rw [hmem, hmem, h r.1 hr]

end Budget

namespace BudgetLedger

open Budget Server

variable {today : Date} {db db' db'' : Database} {d : Month}

/-! ## The facts that the ledger reads -/

/-- A reconciliation wants nothing. -/
theorem rowWants_reconciliation {r : LedgerRow} (hr : r.kind = .reconciliation) (c : CategoryId)
    (k : MovementKind) : rowWants db r c k = .ok 0 := by
  simp [rowWants, booksSides, booksIncome, hr]

theorem recompute_reconciliation {id : TransactionId} (current m : Month) (c : CategoryId)
    (k : MovementKind)
    (hid : ∀ t, db.transactions.lookup id = some t → t.kind = .reconciliation) :
    recompute db current ⟨m, c, k, .transaction id⟩ = .ok 0 := by
  simp only [recompute]
  cases ht : db.transactions.lookup id with
  | none => rfl
  | some t =>
    have hr : (t.row id).kind = .reconciliation := hid t ht
    simp [rowWants_reconciliation hr]

/-- Two databases that agree on everything the recomputation of the months up to `d` reads, and on
the plan and its movements. -/
structure SameFacts (d : Month) (db db' : Database) : Prop where
  plan : ∃ O P T R A B L, db' = { db with
    openings := O, periods := P, transactions := T, revisions := R, accounts := A, batches := B,
    operations := L }
  allocations : ∀ c m, m ≤ d → monthlyAllocation db' c m = monthlyAllocation db c m
  rows : (db'.rows.filter fun r => r.kind ≠ .reconciliation) =
    db.rows.filter fun r => r.kind ≠ .reconciliation
  lookup : ∀ id t, t.kind ≠ .reconciliation →
    (db'.transactions.lookup id = some t ↔ db.transactions.lookup id = some t)
  currencies : ∀ a, (db'.accounts.lookup a).map (·.currency) = (db.accounts.lookup a).map (·.currency)

namespace SameFacts

theorem refl (d : Month) (db : Database) : SameFacts d db db where
  plan := ⟨_, _, _, _, _, _, _, rfl⟩
  allocations _ _ _ := rfl
  rows := rfl
  lookup _ _ _ := Iff.rfl
  currencies _ := rfl

theorem trans (h : SameFacts d db db') (h' : SameFacts d db' db'') : SameFacts d db db'' where
  plan := by
    obtain ⟨_, _, _, _, _, _, _, rfl⟩ := h.plan
    obtain ⟨_, _, _, _, _, _, _, rfl⟩ := h'.plan
    exact ⟨_, _, _, _, _, _, _, rfl⟩
  allocations c m hm := (h'.allocations c m hm).trans (h.allocations c m hm)
  rows := h'.rows.trans h.rows
  lookup id t ht := (h'.lookup id t ht).trans (h.lookup id t ht)
  currencies a := (h'.currencies a).trans (h.currencies a)

/-- Nothing but transactions, allocations and accounts is read from the tables that may differ. -/
theorem of_frame {O : Table (CategoryId × Month) Decimal} {B : Table OperationId ReconciliationBatch}
    {L : Table OperationId Operation} {R : List TransactionRevision} (d : Month) (db : Database) :
    SameFacts d db { db with openings := O, batches := B, operations := L, revisions := R } where
  plan := ⟨_, _, _, _, _, _, _, rfl⟩
  allocations _ _ _ := rfl
  rows := rfl
  lookup _ _ _ := Iff.rfl
  currencies _ := rfl

variable (h : SameFacts d db db')
include h

theorem isRealCategory (c : CategoryId) : db'.isRealCategory c = db.isRealCategory c := by
  obtain ⟨_, _, _, _, _, _, _, rfl⟩ := h.plan
  rfl

theorem matchedReceipts_eq (m current : Month) (amount plannedEur : Decimal) (currency : Currency) :
    matchedReceipts db' m current amount currency plannedEur =
      matchedReceipts db m current amount currency plannedEur := by
  have hreceipts : db'.receipts = db.receipts := by
    obtain ⟨_, _, _, _, _, _, _, rfl⟩ := h.plan
    rfl
  have hmatched : ∀ r, isMatched db' m current r = isMatched db m current r := by
    intro r
    have hsome : ∀ a, (db'.accounts.lookup a).isSome = (db.accounts.lookup a).isSome := fun a => by
      have hc := congrArg Option.isSome (h.currencies a)
      simpa using hc
    simp only [isMatched, hreceipts, hsome]
  have hrows : matchedRows db' m current = matchedRows db m current := by
    have hfilter : ∀ x : Database, x.rows.filter (isMatched db m current) =
        (x.rows.filter fun r => r.kind ≠ .reconciliation).filter (isMatched db m current) := by
      intro x
      rw [List.filter_filter]
      refine List.filter_congr fun r _ => ?_
      by_cases hk : r.kind = .reconciliation
      · simp [isMatched, hk]
      · simp [hk]
    unfold matchedRows
    rw [List.filter_congr fun r _ => hmatched r, hfilter db', h.rows, ← hfilter db]
  have hreceipt : ∀ r, matchedReceipt db' amount currency plannedEur r =
      matchedReceipt db amount currency plannedEur r := by
    intro r
    have hcurrency : (r.toAccountId.bind db'.accounts.lookup).bind (·.currency) =
        (r.toAccountId.bind db.accounts.lookup).bind (·.currency) := by
      cases r.toAccountId with
      | none => rfl
      | some a =>
        have hc := h.currencies a
        rw [Option.bind_some, Option.bind_some]
        cases h1 : db'.accounts.lookup a <;> cases h2 : db.accounts.lookup a <;>
          simp_all only [Option.map_some, Option.map_none, Option.some.injEq, reduceCtorEq,
            Option.bind_some]
    simp only [matchedReceipt, receiptNative, hreceipts, hcurrency]
  unfold matchedReceipts
  rw [hrows]
  exact Except.mapM_congr fun r _ => hreceipt r

theorem rowWants_eq (r : LedgerRow) (c : CategoryId) (k : MovementKind) :
    rowWants db' r c k = rowWants db r c k := by
  obtain ⟨_, _, _, _, _, _, _, rfl⟩ := h.plan
  rfl

/-- The recomputation is the same. -/
theorem recompute_eq {s : Source} (hs : s.month ≤ d) (current : Month) :
    recompute db' current s = recompute db current s := by
  have hmatched := h.matchedReceipts_eq
  have hallocation := h.allocations
  have hrow := h.rowWants_eq
  have hlookup := h.lookup
  obtain ⟨O, P, T, R, A, B, L, rfl⟩ := h.plan
  obtain ⟨m, c, k, key⟩ := s
  change m ≤ d at hs
  cases key with
  | expected m' => rfl
  | correction op c' => rfl
  | complete m' => rfl
  | allocation m' c' =>
    simp only [recompute]
    split
    · rename_i hkey
      obtain ⟨_, _, rfl⟩ := hkey
      unfold allocationWants
      rw [hallocation c' _ hs]
      rfl
    · rfl
  | allocations m' =>
    simp only [recompute]
    split
    · rename_i hkey
      obtain ⟨_, _, rfl⟩ := hkey
      refine congrArg (Except.map fun al : List (CategoryId × Decimal) => 0 - (al.map (·.2)).sum) ?_
      unfold monthAllocations
      refine Except.mapM_congr fun x _ => ?_
      rw [hallocation x.1 _ hs]
    · rfl
  | excess m' =>
    simp only [recompute, excessWants, hmatched]
  | transaction id =>
    by_cases hbooked : ∃ t, db.transactions.lookup id = some t ∧ t.kind ≠ .reconciliation
    · obtain ⟨t, ht, hk⟩ := hbooked
      have ht' := (hlookup id t hk).2 ht
      simp only [recompute, ht, ht', hrow]
    · rw [recompute_reconciliation, recompute_reconciliation]
      · intro t ht
        by_contra hk
        exact hbooked ⟨t, ht, hk⟩
      · intro t ht
        by_contra hk
        exact hbooked ⟨t, (hlookup id t hk).1 ht, hk⟩

end SameFacts

/-! ## Up to date -/

/-- The ledger is up to date as of the month `d`. -/
structure UpToDateAt (db : Database) (start d : Month) : Prop where
  plans : ∀ m, (db.planIncome.lookup m).isSome = true → m ≤ d
  planned : ∀ m, m.Calendar → start ≤ m → m ≤ d → db.isClosed m = false →
    (db.planIncome.lookup m).isSome = true
  movements : ∀ e ∈ db.movements, e.key.month ≤ d
  rows : ∀ r ∈ db.rows, r.kind ≠ .reconciliation → r.month ≤ d
  corrections : ∀ op r, db.corrections.lookup op = some r → r.appliedMonth ≤ d
  completions : ∀ m p, db.planIncome.lookup m = some p → ∀ c, p.completedMonth = some c → c ≤ d
  recomputed : ∀ m, m.Calendar → start ≤ m → m ≤ d → db.isClosed m = false → Recomputed db d m

theorem UpToDateAt.sameFacts {start : Month} (h : UpToDateAt db start d) (hf : SameFacts d db db') :
    UpToDateAt db' start d := by
  have hrecompute := fun {s : Source} hs => hf.recompute_eq (s := s) hs d
  have hrows := hf.rows
  obtain ⟨O, P, T, R, A, B, L, rfl⟩ := hf.plan
  refine ⟨h.plans, h.planned, h.movements, fun r hr hk => ?_, h.corrections, h.completions,
    fun m hc hle hd hopen s hs => ?_⟩
  · have hmem : r ∈ db.rows.filter fun r => r.kind ≠ .reconciliation :=
      hrows ▸ List.mem_filter.2 ⟨hr, by simpa using hk⟩
    exact h.rows r (List.mem_filter.1 hmem).1 hk
  · rw [hrecompute (hs ▸ hd)]
    exact h.recomputed m hc hle hd hopen s hs

/-- The ledger is up to date as of some month that has been reached. -/
def UpToDate (today : Date) (db : Database) : Prop :=
  ∀ start, db.start = some start → ∃ d, start ≤ d ∧ d ≤ today.month ∧ UpToDateAt db start d

end BudgetLedger

namespace Server

open Budget BudgetLedger

variable {today : Date} {db db' : Database} {clock : Clock} {actor : Subject} {response : Response}

/-- After a call that synchronised, the ledger is up to date as of the current month. -/
theorem Worked.upToDateAt (h : Worked today db db') (hsound : Sound today db) {start : Month}
    (hstart : db'.start = some start) : UpToDateAt db' start today.month := by
  have hsound' : Sound today db' := h.changes.sound hsound
  refine ⟨fun m hm => (hsound'.plans m hm).1, fun m hc hle hreached hopen => ?_,
    fun e he => (hsound'.movements e he).2, fun r hr _ => ?_,
    fun op r hr => (hsound'.corrections op r hr).2.1,
    fun m p hp c hc => (hsound'.completions m p hp c hc).2.1,
    fun m hc hle hreached hopen s hs => ?_⟩
  · obtain ⟨_, db₁, db₂, operation, hc₁, hsync, hc₂, htrails⟩ := h
    have hsound₁ : Sound today db₁ := hc₁.sound hsound
    have hopen₂ : db₂.isClosed m = false := hc₂.toExtends.open_of_open hopen
    rw [htrails.start] at hstart
    have hstart₁ : db₁.start = some start := by
      obtain ⟨P, M, rfl⟩ := sync_frame hsync
      exact hstart
    obtain ⟨ts, hts⟩ := sync_synced hsync hstart₁ hsound₁
    have hplan := hts.plans m hc hle hreached (hts.settled.isClosed_eq m ▸ hopen₂)
    obtain ⟨_, _, _, _, _, rfl⟩ := htrails
    exact hplan
  · obtain ⟨t, ht, hrow⟩ := mem_rows.1 hr
    rw [hrow]
    exact (hsound'.dates r.id t ht).2
  · subst hs
    exact h.balance hsound hstart hc hle hreached hopen

/-! ## Calls that do not synchronise -/

theorem Reconciled.sameFacts {payload : ReconciliationRequest} {systemAccount : WriteAccount}
    {systemCategory : CategoryId} {requested : ReconciliationAccount} {account : Account}
    {balance : Decimal} {existing : Option (TransactionId × Transaction)} {id : TransactionId}
    {activity : Activity} {v : TransactionValuation} {row : Transaction}
    (h : Reconciled db payload systemAccount systemCategory requested account balance existing id
      activity v row db') (d : Month) : SameFacts d db db' := by
  have hkind := h.row_facts.1
  have hold : ∀ t, db.transactions.lookup id = some t → t.kind = .reconciliation := by
    intro t ht
    rcases adjustmentId_ok h.placed with ⟨e, hex, rfl⟩ | ⟨_, rfl, hnone⟩
    · obtain ⟨hl, hk, _⟩ := existingAdjustment_ok (hex ▸ h.found)
      rw [hl, Option.some.injEq] at ht
      rwa [← ht]
    · rw [hnone] at ht
      cases ht
  rw [h.result]
  refine ⟨⟨_, _, _, _, _, _, _, rfl⟩, fun _ _ _ => rfl, ?_, fun id' t ht => ?_, fun a => ?_⟩
  · have hrows : ∀ x : Database, (x.rows.filter fun r => r.kind ≠ .reconciliation) =
        (x.transactions.entries.filter fun e => e.2.kind ≠ .reconciliation).map
          fun e => e.2.row e.1 := by
      intro x
      rw [Database.rows, List.filter_map]
      rfl
    rw [hrows, hrows]
    refine congrArg (List.map _) ?_
    exact AList.filter_insert (by simp [hkind]) fun t ht => by simp [hold t ht]
  · change (db.transactions.insert id row).lookup id' = some t ↔ _
    rw [AList.lookup_insert_of]
    split
    · rename_i hid
      subst hid
      constructor
      · intro he
        cases he
        exact absurd hkind ht
      · intro hl
        exact absurd (hold t hl) ht
    · rfl
  · change ((db.accounts.insert _ _).lookup a).map _ = _
    rw [AList.lookup_insert_of]
    split
    · rename_i ha
      rw [ha, h.loaded]
      rfl
    · rfl

theorem reconcileBody_sameFacts {payload : ReconciliationRequest} (d : Month)
    (h : reconcileBody db clock payload = .ok (db', response)) : SameFacts d db db' := by
  obtain ⟨sa, sc, s, _, _, _, _, _, hs, rfl, _⟩ := reconcileBody_ok h
  have hloop : SameFacts d db s.db :=
    Except.foldlM_induction (fun s : ReconciliationState => SameFacts d db s.db) hs (.refl d db)
      fun requested _ s s' hs hstep => by
        obtain ⟨account, balance, existing, id, activity, v, row, hrec, _⟩ := reconcileAccount_ok hstep
        exact hs.trans (hrec.sameFacts d)
  exact hloop.trans (.of_frame d s.db)

theorem once_sameFacts {db₁ : Database} {id : OperationId} {fingerprint : Fingerprint}
    {accepts : Response → Bool} {body : Except ApiError (Database × Response)} (d : Month)
    (h : once db₁ id actor fingerprint accepts body = .ok (db', response))
    (hinit : ∃ O, db₁ = { db with openings := O }) (hold : db.operations.lookup id ≠ none) :
    SameFacts d db db' := by
  obtain ⟨O, rfl⟩ := hinit
  rcases once_ok h with ⟨_, _, _, _, _, rfl, _⟩ | ⟨hnew, _⟩
  · exact .of_frame d db
  · exact absurd hnew hold

/-- A call that does not synchronise changes nothing that the ledger reads. -/
theorem handle_sameFacts {call : Call} {d : Month} (h : handle db call = .ok (db', response))
    (hsound : Sound call.clock.today db) (hn : ¬ Synchronises db call)
    (hd : d ≤ call.clock.today.month) : SameFacts d db db' := by
  obtain ⟨clock, actor, request⟩ := call
  cases request with
  | create payload =>
    simp only [handle, createTransaction, Except.bind_eq_ok, Except.mapError_eq_ok] at h
    obtain ⟨w, hw, db₁, hinit, h⟩ := h
    refine once_sameFacts d h (initializeOpenings_frame hinit) ?_
    rwa [(normalize_operationId hw).1]
  | edit payload =>
    simp only [handle, editTransaction, Except.bind_eq_ok, Except.mapError_eq_ok] at h
    obtain ⟨w, hw, _, _, _, _, db₁, hinit, h⟩ := h
    refine once_sameFacts d h (initializeOpenings_frame hinit) ?_
    rwa [(normalize_operationId hw).1]
  | delete payload =>
    simp only [handle, deleteTransaction, Except.bind_eq_ok, Except.mapError_eq_ok] at h
    obtain ⟨_, _, _, _, db₁, hinit, h⟩ := h
    exact once_sameFacts d h (initializeOpenings_frame hinit) hn
  | reconcile payload =>
    simp only [handle, recordReconciliation, Except.bind_eq_ok, Except.mapError_eq_ok] at h
    obtain ⟨q, hq, db₁, hinit, h⟩ := h
    obtain ⟨O, rfl⟩ := initializeOpenings_frame hinit
    rcases once_ok h with ⟨_, _, _, _, _, rfl, _⟩ | ⟨_, db₂, hb, rfl⟩
    · exact .of_frame d db
    · exact (SameFacts.of_frame d db).trans ((reconcileBody_sameFacts d hb).trans (.of_frame d db₂))
  | correct payload =>
    simp only [handle, recordCorrection, Except.bind_eq_ok, Except.mapError_eq_ok] at h
    obtain ⟨q, hq, db₁, hinit, h⟩ := h
    refine once_sameFacts d h (initializeOpenings_frame hinit) ?_
    rwa [normalizeCorrection_operationId hq]
  | complete payload =>
    simp only [handle, completeIncome, Except.bind_eq_ok] at h
    obtain ⟨_, _, h⟩ := h
    exact once_sameFacts d h ⟨_, rfl⟩ hn
  | close payload =>
    simp only [handle, closeMonth, Except.bind_eq_ok, Except.mapError_eq_ok] at h
    obtain ⟨_, _, db₁, hinit, h⟩ := h
    exact once_sameFacts d h (initializeOpenings_frame hinit) hn
  | cancelBudget payload =>
    obtain ⟨periods, audit, hlt, hperiods, _, _, _, rfl⟩ := cancelMonthlyBudget_ok h hsound
    refine ⟨⟨_, _, _, _, _, _, _, rfl⟩, fun c m hm => ?_, rfl, fun _ _ _ => Iff.rfl, fun _ => rfl⟩
    exact monthlyAllocation_congr fun m' hm' =>
      hperiods.1 c m' ((hm'.trans (hm.trans hd)).trans_lt hlt).ne
  | _ => exact absurd trivial hn

theorem UpToDate.later {today' : Date} (h : UpToDate today db) (hle : today ≤ today') :
    UpToDate today' db := by
  intro start hstart
  obtain ⟨d, h1, h2, h3⟩ := h start hstart
  exact ⟨d, h1, h2.trans (Date.month_mono hle), h3⟩

/-- A call brings the ledger up to date, or leaves it as up to date as it was. -/
theorem step_upToDateAt {call : Call} (hsound : Sound call.clock.today db) {start : Month}
    (hstart : (step db call).start = some start) :
    UpToDateAt (step db call) start call.clock.today.month ∨
      (db.start = some start ∧ ∀ d ≤ call.clock.today.month, UpToDateAt db start d →
        UpToDateAt (step db call) start d) := by
  unfold Server.step at *
  split at *
  · rename_i db' response hh
    by_cases hs : Synchronises db call
    · exact .inl (((handle_worked hh hsound).2 hs).upToDateAt hsound hstart)
    · refine .inr ⟨?_, fun d hd h => h.sameFacts (handle_sameFacts hh hsound hs hd)⟩
      obtain ⟨_, _, _, _, _, _, _, rfl⟩ := handle_unsynced hh hsound hs
      exact hstart
  · exact .inr ⟨hstart, fun _ _ h => h⟩

theorem UpToDate.step {call : Call} (h : UpToDate call.clock.today db)
    (hsound : Sound call.clock.today db) : UpToDate call.clock.today (step db call) := by
  intro start hstart
  rcases step_upToDateAt hsound hstart with hnew | ⟨hold, hkept⟩
  · have hsound' := (step_changes call hsound).sound hsound
    exact ⟨_, (hsound'.start start hstart).2.1, le_rfl, hnew⟩
  · obtain ⟨d, h1, h2, h3⟩ := h start hold
    exact ⟨d, h1, h2, hkept d h2 h3⟩

/-- **Every reachable ledger is up to date as of some month.** -/
theorem Reachable.upToDate (h : Reachable today db) : UpToDate today db := by
  obtain ⟨d₀, db₀, himp, hrun⟩ := h
  have key := hrun.induct (I := fun d db => Sound d db ∧ UpToDate d db)
    ⟨himp.sound, fun start hstart => ?_⟩ fun _ _ call _ hv hle _ hs => by
      have hl := hs.1.later hv hle
      exact ⟨(step_changes call hl).sound hl, UpToDate.step (UpToDate.later hs.2 hle) hl⟩
  · exact key.2
  · rw [Database.start, himp.ledgerState] at hstart
    cases hstart

end Server
