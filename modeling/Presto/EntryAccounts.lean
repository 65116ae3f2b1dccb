import Presto.Conversion
import Presto.Phone.Entry

/-!
# The accounts of an edit, on the phone and on the server

The phone lists the real accounts of an edit by the kinds of the old and the new entry, the server by
the flags of the four accounts it loads. A recorded transaction has real accounts exactly on the
sides that its kind lets the user choose (`SidesSound`), so both sets are the same.
-/

namespace List

theorem nodup_eraseDups {α : Type*} [DecidableEq α] : ∀ l : List α, l.eraseDups.Nodup
  | [] => by
    rw [eraseDups_nil]
    exact nodup_nil
  | a :: l => by
    rw [eraseDups_cons, nodup_cons, mem_eraseDups]
    refine ⟨fun h => ?_, nodup_eraseDups _⟩
    simp at h
  termination_by l => l.length
  decreasing_by exact Nat.lt_succ_of_le (length_filter_le _ _)

end List

namespace Server

open Budget BudgetLedger

variable {today : Date} {db db' : Database}

/-! ## The sides that the user chooses -/

/-- Whether the account on each side of a transaction is a real one. -/
def realSides : TransactionKind → Bool × Bool
  | .expense => (true, false)
  | .income => (false, true)
  | .transfer => (true, true)
  | _ => (false, false)

structure SidesReal (isReal : AccountId → Bool) (t : Transaction) : Prop where
  fromSide : t.fromAccountId.map isReal = some (realSides t.kind).1
  toSide : t.toAccountId.map isReal = some (realSides t.kind).2

/-- Every transaction that the server recorded has real accounts on the sides of its kind. -/
def SidesSound (db : Database) : Prop :=
  ∀ id t, db.transactions.lookup id = some t → t.canonicalLive = true → t.kind ≠ .reconciliation →
    SidesReal db.isRealAccount t

/-- An account of a write is real on the sides of its kind, and then it is the one of the request. -/
structure SidesResolved (db : Database) (w : WriteRequest) (e : Endpoints) : Prop where
  fromReal : e.fromAccount.isReal = (realSides w.kind).1
  toReal : e.toAccount.isReal = (realSides w.kind).2
  fromStored : db.isRealAccount e.fromAccount.id = e.fromAccount.isReal
  toStored : db.isRealAccount e.toAccount.id = e.toAccount.isReal
  fromChosen : (realSides w.kind).1 = true → w.fromAccountId = some e.fromAccount.id
  toChosen : (realSides w.kind).2 = true → w.toAccountId = some e.toAccount.id
  fromSystem : (realSides w.kind).1 = false → w.fromAccountId = none
  toSystem : (realSides w.kind).2 = false → w.toAccountId = none

theorem isRealAccount_of_lookup {id : AccountId} {x : Account} (h : db.accounts.lookup id = some x) :
    db.isRealAccount id = x.isReal := by
  rw [Database.isRealAccount, h, Option.any_some]

theorem loadUserAccount_real {id : AccountId} {a : WriteAccount} (h : loadUserAccount db id = .ok a) :
    a.id = id ∧ a.isReal = true ∧ db.isRealAccount a.id = a.isReal := by
  obtain ⟨hid, x, hx, ha, hreal, -⟩ := loadUserAccount_ok h
  have hflag : a.isReal = true := by rw [ha]; exact hreal
  exact ⟨hid, hflag, by rw [isRealAccount_of_lookup hx, hreal, hflag]⟩

theorem loadSystemAccount_real {name : FoldedName} {a : WriteAccount}
    (h : loadSystemAccount db name = .ok a) :
    a.isReal = false ∧ db.isRealAccount a.id = a.isReal := by
  obtain ⟨x, hx, ha, -, hreal, -⟩ := loadSystemAccount_ok h
  have hflag : a.isReal = false := by rw [ha]; exact hreal
  exact ⟨hflag, by rw [isRealAccount_of_lookup hx, hreal, hflag]⟩

theorem resolveEndpoints_sides {w : WriteRequest} {e : Endpoints} (h : resolveEndpoints db w = .ok e) :
    SidesResolved db w e := by
  unfold resolveEndpoints at h
  split at h
  · rename_i hk
    simp only [Except.bind_eq_ok, Except.ensure_eq_ok, Except.pure_eq_ok, requiredId,
      Except.fromOption_eq_ok] at h
    obtain ⟨_, ⟨hnone, -⟩, id, hid, _, -, a, ha, _, -, b, hb, _, -, rfl⟩ := h
    obtain ⟨rfl, hreal, hstored⟩ := loadUserAccount_real ha
    obtain ⟨hsystem, hstored'⟩ := loadSystemAccount_real hb
    constructor <;> simp_all [realSides]
  · rename_i hk
    simp only [Except.bind_eq_ok, Except.ensure_eq_ok, Except.pure_eq_ok, requiredId,
      Except.fromOption_eq_ok] at h
    obtain ⟨_, ⟨hnone, -⟩, id, hid, _, -, a, ha, _, -, b, hb, _, -, rfl⟩ := h
    obtain ⟨rfl, hreal, hstored⟩ := loadUserAccount_real ha
    obtain ⟨hsystem, hstored'⟩ := loadSystemAccount_real hb
    constructor <;> simp_all [realSides]
  · rename_i hk
    simp only [Except.bind_eq_ok, Except.ensure_eq_ok, Except.pure_eq_ok, requiredId,
      Except.fromOption_eq_ok] at h
    obtain ⟨_, -, id, hid, id', hid', _, -, a, ha, b, hb, _, -, rfl⟩ := h
    obtain ⟨rfl, hreal, hstored⟩ := loadUserAccount_real ha
    obtain ⟨rfl, hreal', hstored'⟩ := loadUserAccount_real hb
    constructor <;> simp_all [realSides]
  · rename_i hk
    simp only [Except.bind_eq_ok, Except.ensure_eq_ok, Except.pure_eq_ok, requiredId,
      Except.fromOption_eq_ok] at h
    obtain ⟨_, ⟨hnone, hnone', -⟩, _, -, _, -, _, -, _, -, _, -, a, ha, rfl⟩ := h
    obtain ⟨hsystem, hstored⟩ := loadSystemAccount_real ha
    constructor <;> simp_all [realSides]
  · cases h

theorem resolveWrite_realSides {w : WriteRequest} {r : ResolvedWrite} (h : resolveWrite db w = .ok r) :
    SidesResolved db w r.endpoints := by
  simp only [resolveWrite, Except.bind_eq_ok, Except.pure_eq_ok] at h
  obtain ⟨e, he, _, -, _, -, rfl⟩ := h
  exact resolveEndpoints_sides he

/-! ## Every reachable state -/

theorem writtenTransaction_sides {w : WriteRequest} {r : ResolvedWrite}
    (h : resolveWrite db w = .ok r) (occurredAt : Option Timestamp) (revision : Nat)
    (valuations : List ValuationRevision) :
    SidesReal db.isRealAccount (writtenTransaction w r occurredAt revision valuations) := by
  have hsides := resolveWrite_realSides h
  constructor
  · show some (db.isRealAccount r.endpoints.fromAccount.id) = some (realSides w.kind).1
    rw [hsides.fromStored, hsides.fromReal]
  · show some (db.isRealAccount r.endpoints.toAccount.id) = some (realSides w.kind).2
    rw [hsides.toStored, hsides.toReal]

theorem Written.sidesReal {t : Transaction} (h : Written db t) : SidesReal db.isRealAccount t := by
  obtain ⟨p, w, r, occurredAt, revision, valuations, -, hr, rfl, -⟩ := h
  exact writtenTransaction_sides hr occurredAt revision valuations

/-- A posting keeps the flags of the accounts. -/
theorem isRealAccount_posted {account posted : Account} {accountId : AccountId}
    (haccount : db.accounts.lookup accountId = some account)
    (haccounts : db'.accounts = db.accounts.insert accountId posted)
    (hreal : posted.isReal = account.isReal) :
    db'.isRealAccount = db.isRealAccount := by
  funext id
  rw [Database.isRealAccount, haccounts, AList.lookup_insert_of]
  by_cases hid : id = accountId
  · rw [if_pos hid, hid, isRealAccount_of_lookup haccount, Option.any_some, hreal]
  · rw [if_neg hid]
    rfl

theorem Change.sidesSound (h : Change today db db') (hI : SidesSound db) : SidesSound db' := by
  have insert : ∀ (id : TransactionId) (t : Transaction), (t.kind ≠ .reconciliation → SidesReal db.isRealAccount t) →
      ∀ id' t', (db.transactions.insert id t).lookup id' = some t' → t'.canonicalLive = true →
        t'.kind ≠ .reconciliation → SidesReal db.isRealAccount t' := by
    intro id t ht id' t' h' hlive hkind
    rw [AList.lookup_insert_of] at h'
    split at h'
    · cases h'
      exact ht hkind
    · exact hI id' t' h' hlive hkind
  cases h with
  | insertTransaction _ _ _ _ hw => exact insert _ _ fun _ => hw.sidesReal
  | updateTransaction _ _ _ _ _ _ hw => exact insert _ _ fun _ => hw.sidesReal
  | eraseTransaction _ _ _ _ =>
    intro id' t' h'
    rw [AList.lookup_erase_of] at h'
    split at h'
    · cases h'
    · exact hI id' t' h'
  | adjust _ _ _ _ hkind _ _ _ _ haccount _ _ =>
    intro id' t' h' hlive hkind'
    rw [isRealAccount_posted haccount (by exact rfl) (by exact rfl)]
    exact insert _ _ (fun h => absurd hkind h) id' t' h' hlive hkind'
  | postAccount _ _ haccount _ _ =>
    intro id' t' h' hlive hkind'
    rw [isRealAccount_posted haccount (by exact rfl) (by exact rfl)]
    exact hI id' t' h' hlive hkind'
  | _ => exact hI

/-- **In every reachable state** the system accounts of recorded transactions are not real. -/
theorem Reachable.sidesSound (h : Reachable today db) : SidesSound db := by
  apply h.of_changes
  · intro d db₀ himported id t ht hlive
    rw [(himported.dates id t ht).2.2] at hlive
    cases hlive
  · exact fun d db₀ db₁ _ hchange hI => hchange.sidesSound hI

/-! ## The set of the server -/

theorem mem_realAccounts {accounts : List WriteAccount} {a : AccountId} :
    a ∈ realAccounts accounts ↔ ∃ x ∈ accounts, x.isReal = true ∧ x.id = a := by
  simp only [realAccounts, List.mem_map, List.mem_filter, and_assoc]

/-- The real accounts of an edit, by the kinds of its old and its new side. -/
theorem mem_involved {old : Transaction} {stored : StoredEndpoints} {w : WriteRequest}
    {e : Endpoints} {a : AccountId} (hold : SidesReal db.isRealAccount old)
    (hstored : Loaded db old stored) (hnew : SidesResolved db w e) :
    a ∈ realAccounts [stored.fromAccount, stored.toAccount, e.fromAccount, e.toAccount] ↔
      (((realSides old.kind).1 = true ∧ old.fromAccountId = some a) ∨
        ((realSides old.kind).2 = true ∧ old.toAccountId = some a)) ∨
      w.fromAccountId = some a ∨ w.toAccountId = some a := by
  have hflag : ∀ {x : WriteAccount}, loadAccount db x.id = .ok x → db.isRealAccount x.id = x.isReal := by
    intro x hx
    obtain ⟨y, hy, hxy⟩ := loadAccount_ok hx
    rw [isRealAccount_of_lookup hy, hxy]
    rfl
  have hfrom := hold.fromSide
  have hto := hold.toSide
  rw [hstored.fromAccountId, Option.map_some, hflag hstored.fromAccount, Option.some.injEq] at hfrom
  rw [hstored.toAccountId, Option.map_some, hflag hstored.toAccount, Option.some.injEq] at hto
  -- the account of a side is chosen by the request, or it is a system account
  have hchosen : ∀ {real : Bool} {requested : Option AccountId} {x : WriteAccount}, x.isReal = real →
      (real = true → requested = some x.id) → (real = false → requested = none) →
      (x.isReal = true ∧ x.id = a ↔ requested = some a) := by
    intro real requested x hx hyes hno
    cases real with
    | true => rw [hyes rfl, hx, Option.some.injEq, eq_self_iff_true, true_and]
    | false => rw [hno rfl, hx]; simp
  rw [mem_realAccounts]
  simp only [List.mem_cons, List.not_mem_nil, or_false, exists_eq_or_imp, exists_eq_left]
  rw [hchosen hnew.fromReal hnew.fromChosen hnew.fromSystem,
    hchosen hnew.toReal hnew.toChosen hnew.toSystem, hfrom, hto, hstored.fromAccountId,
    hstored.toAccountId, Option.some.injEq, Option.some.injEq, or_assoc]

/-- A list of exactly the accounts involved is neither missing nor superfluous. -/
theorem checkRevisions_accepts {involved : List AccountId} {expected : List (AccountId × Nat)}
    (h : ∀ a, a ∈ expected.map Prod.fst ↔ a ∈ involved) (missing stale : String) :
    checkRevisions db involved expected missing stale ≠ .error (.badRequest missing) := by
  have hfirst : (∀ e ∈ expected, e.1 ∈ involved) ∧ ∀ id ∈ involved, ∃ e ∈ expected, e.1 = id := by
    refine ⟨fun e he => (h e.1).1 (List.mem_map_of_mem he), fun id hid => ?_⟩
    exact List.mem_map.1 ((h id).2 hid)
  unfold checkRevisions
  rw [Except.ensure, if_pos hfirst]
  intro herror
  change Except.ensure _ _ = _ at herror
  unfold Except.ensure at herror
  split at herror
  · cases herror
  · cases herror

/-! ## The set of the phone -/

theorem mem_realAccountIds {t : Entry.Transaction} {a : AccountId} :
    a ∈ Entry.realAccountIds t ↔ ((realSides t.kind).1 = true ∧ t.fromAccountId = some a) ∨
      ((realSides t.kind).2 = true ∧ t.toAccountId = some a) := by
  unfold Entry.realAccountIds
  cases t.kind <;> simp [realSides, List.mem_eraseDups]

theorem mapM_accountRevision {accounts : List Entry.Account} {ids : List AccountId}
    {revisions : List Entry.AccountRevision}
    (h : ids.mapM (Entry.accountRevision accounts) = .ok revisions) :
    revisions.map (·.accountId) = ids := by
  have hall := Except.mapM_eq_ok h
  clear h
  induction hall with
  | nil => rfl
  | @cons id r ids revisions hr hrest ih =>
    have hid : r.accountId = id := by
      unfold Entry.accountRevision at hr
      split at hr
      · cases hr
        rfl
      · cases hr
    rw [List.map_cons, hid, ih]

/-- What an edit that `writeEntry` built lists, and where it comes from. -/
structure EditBuilt (original : Entry.Transaction) (payload : Entry.WritePayload)
    (optimistic : Entry.Transaction) (revisions : List Entry.AccountRevision) : Prop where
  listed : payload.expectedAccountRevisions = some revisions
  accounts : revisions.map (·.accountId) = (Entry.realAccountIds original ++
    (payload.fromAccountId.toList ++ payload.toAccountId.toList)).eraseDups
  kind : optimistic.kind = payload.kind
  fromAccountId : optimistic.fromAccountId = payload.fromAccountId
  toAccountId : optimistic.toAccountId = payload.toAccountId
  fromSide : (realSides payload.kind).1 = false → payload.fromAccountId = none
  toSide : (realSides payload.kind).2 = false → payload.toAccountId = none
  editable : original.kind ≠ .reconciliation

theorem writeEntry_built {device : Entry.Device} {d : Entry.Draft} {snapshot : Entry.Snapshot}
    {payload : Entry.WritePayload} {optimistic original : Entry.Transaction}
    (h : Entry.writeEntry device d snapshot = .ok (payload, optimistic))
    (ho : d.original = some original) :
    ∃ revisions, EditBuilt original payload optimistic revisions := by
  simp only [Entry.writeEntry, Except.bind_eq_ok, Except.ensure_eq_ok, Except.pure_eq_ok,
    Prod.mk.injEq, exists_const] at h
  obtain ⟨amount, -, -, -, date, -, _, -, -, heditable, -, month, -, revisions, hrevisions, rfl,
    rfl⟩ := h
  rw [ho, Option.all_some, Bool.and_eq_true, decide_eq_true_iff] at heditable
  simp only [Entry.expectedRevisions, ho] at hrevisions
  obtain ⟨listed, hlisted, rfl⟩ := Except.map_eq_ok.1 hrevisions
  refine ⟨listed, ?_⟩
  exact {
    listed := rfl
    accounts := mapM_accountRevision hlisted
    kind := rfl
    fromAccountId := rfl
    toAccountId := rfl
    fromSide := fun hside => by
      have hkind : ¬ (d.kind = .expense ∨ d.kind = .transfer) := by
        rintro (hk | hk) <;> simp [hk, realSides] at hside
      simp [hkind]
    toSide := fun hside => by
      have hkind : ¬ (d.kind = .income ∨ d.kind = .transfer) := by
        rintro (hk | hk) <;> simp [hk, realSides] at hside
      simp [hkind]
    editable := heditable.2 }

/-- The phone's copy of a recorded transaction. -/
structure Shows (original : Entry.Transaction) (old : Transaction) : Prop where
  kind : original.kind = old.kind
  fromAccountId : original.fromAccountId = old.fromAccountId
  toAccountId : original.toAccountId = old.toAccountId

/-- Normalisation leaves the kind and the accounts alone. -/
theorem normalize_accounts {p w : WriteRequest} (h : normalize p = .ok w) :
    w.kind = p.kind ∧ w.fromAccountId = p.fromAccountId ∧ w.toAccountId = p.toAccountId := by
  simp only [normalize, Except.bind_eq_ok, Except.pure_eq_ok] at h
  obtain ⟨_, -, _, -, _, -, _, -, _, -, _, -, _, -, rfl⟩ := h
  exact ⟨rfl, rfl, rfl⟩

/-- What a repair leaves of a row: the list without the accounts that are not real. -/
theorem repair_spec {row row' : Entry.OutboxRow}
    (h : Entry.repairBookkeepingRevisions row = some row') :
    ∃ original before after, row.original = some original ∧
      row.payload.expectedAccountRevisions = some before ∧
      row' = { row with
        payload := { row.payload with expectedAccountRevisions := some after }
        status := .pending
        error := none } ∧
      after.Sublist before ∧ ∀ a, a ∈ after.map (·.accountId) ↔
        a ∈ Entry.realAccountIds original ∨ a ∈ Entry.realAccountIds row.optimistic := by
  unfold Entry.repairBookkeepingRevisions at h
  split at h
  · cases h
  · split at h
    · rename_i original before horiginal hbefore
      dsimp only at h
      split at h
      · cases h
      · rename_i hlist
        push Not at hlist
        refine ⟨original, before, _, horiginal, hbefore, (Option.some.inj h).symm,
          List.filter_sublist, fun a => ?_⟩
        rw [← List.mem_append]
        constructor
        · intro ha
          obtain ⟨r, hr, rfl⟩ := List.mem_map.1 ha
          exact of_decide_eq_true (List.mem_filter.1 hr).2
        · exact hlist.2 a
    · cases h

/-- **Edits list the accounts that the server asks for**, and so do repaired ones. -/
theorem edit_accounts_agree (hreach : Reachable today db) (hinit : initializeOpenings db = .ok db')
    {id : TransactionId} {old : Transaction} (hold : db'.transactions.lookup id = some old)
    (hlive : old.canonicalLive = true) {original : Entry.Transaction} (hshows : Shows original old)
    {device : Entry.Device} {d : Entry.Draft} {snapshot : Entry.Snapshot}
    (horiginal : d.original = some original) {payload : Entry.WritePayload}
    {optimistic : Entry.Transaction}
    (hentry : Entry.writeEntry device d snapshot = .ok (payload, optimistic)) {w : WriteRequest}
    (hw : normalize payload.request = .ok w) {r : ResolvedWrite} (hr : resolveWrite db' w = .ok r)
    {stored : StoredEndpoints} (hstored : loadStored db' old = .ok stored) :
    let involved := realAccounts [stored.fromAccount, stored.toAccount, r.endpoints.fromAccount,
      r.endpoints.toAccount]
    (∀ a, a ∈ payload.accountRevisions.map Prod.fst ↔ a ∈ involved) ∧
    (payload.accountRevisions.map Prod.fst).Nodup ∧
    (∀ revisions, revisions.Perm payload.accountRevisions → ∀ missing stale,
      checkRevisions db' involved revisions missing stale ≠ .error (.badRequest missing)) ∧
    ∀ row row' : Entry.OutboxRow, row.original = some original → row.optimistic = optimistic →
      Entry.repairBookkeepingRevisions row = some row' →
      ∃ before after, row.payload.expectedAccountRevisions = some before ∧
        row' = { row with
          payload := { row.payload with expectedAccountRevisions := some after }
          status := .pending
          error := none } ∧
        after.Sublist before ∧ ∀ a, a ∈ after.map (·.accountId) ↔ a ∈ involved := by
  intro involved
  obtain ⟨revisions, hbuilt⟩ := writeEntry_built hentry horiginal
  obtain ⟨hkind, hfrom, hto⟩ := normalize_accounts hw
  have hsides : SidesReal db'.isRealAccount old := by
    obtain ⟨O, rfl⟩ := initializeOpenings_frame hinit
    exact hreach.sidesSound id old hold hlive (hshows.kind ▸ hbuilt.editable)
  have hmem : ∀ a, a ∈ involved ↔ a ∈ Entry.realAccountIds original ∨
      (payload.fromAccountId = some a ∨ payload.toAccountId = some a) := by
    intro a
    rw [mem_involved hsides (loadStored_ok hstored) (resolveWrite_realSides hr), mem_realAccountIds,
      hshows.kind, hshows.fromAccountId, hshows.toAccountId, hfrom, hto]
    rfl
  have hlisted : payload.accountRevisions.map Prod.fst = revisions.map (·.accountId) := by
    rw [Entry.WritePayload.accountRevisions, hbuilt.listed, Option.getD_some, List.map_map]
    rfl
  have hagree : ∀ a, a ∈ payload.accountRevisions.map Prod.fst ↔ a ∈ involved := by
    intro a
    rw [hlisted, hbuilt.accounts, List.mem_eraseDups, List.mem_append, List.mem_append,
      Option.mem_toList, Option.mem_toList, hmem]
  refine ⟨hagree, ?_, fun revisions hperm missing stale => checkRevisions_accepts
    (fun a => ((hperm.map Prod.fst).mem_iff).trans (hagree a)) missing stale, ?_⟩
  · rw [hlisted, hbuilt.accounts]
    exact List.nodup_eraseDups _
  · intro row row' hrow hoptimistic hrepair
    obtain ⟨original', before, after, horiginal', hbefore, hrow', hsub, hafter⟩ := repair_spec hrepair
    obtain rfl : original' = original := Option.some.inj (horiginal'.symm.trans hrow)
    refine ⟨before, after, hbefore, hrow', hsub, fun a => ?_⟩
    have hside : ∀ {real : Bool} {requested : Option AccountId}, (real = false → requested = none) →
        (real = true ∧ requested = some a ↔ requested = some a) := by
      intro real requested hnone
      cases real with
      | true => exact and_iff_right rfl
      | false => simp [hnone rfl]
    rw [hafter, hmem, hoptimistic, @mem_realAccountIds optimistic, hbuilt.kind,
      hbuilt.fromAccountId, hbuilt.toAccountId, hside hbuilt.fromSide, hside hbuilt.toSide]

/-- 100 EUR of groceries on 3 October. -/
def groceriesBought : Database :=
  run (household 1000) (opened ++ [callOn october 3 (.create (spend 12 7 ⟨october, 3⟩ 100))])

/-- The groceries as the phone shows them. -/
def groceries : Entry.Transaction :=
  ⟨7, .expense, ⟨october, 3⟩, "groceries", 100, some .eur, none, none, none, none, none, some 1, some 2,
    none, none, some 1, some 2, 1, true, none, none, none, false⟩

/-- A phone that reads one text. -/
def phone : Entry.Device where
  today := ⟨october, 4⟩
  now := 0
  operationId := 11
  transactionId := 8
  parseMoney text := if text = "40" then some 40 else none
  parseDate text := if text = "2026-10-03" then some ⟨october, 3⟩ else none
  parseMonth _ := none
  money_within text amount h := by
    split at h
    · cases h
      decide
    · cases h
  date_valid text date h := by
    split at h
    · cases h
      decide
    · cases h

/-- The groceries become a refund. -/
def intoRefund : Entry.Draft :=
  ⟨.income, "40", .eur, "voucher", "2026-10-03", "", "", some 1, some 1, some 1, some 1, none, .refund, "",
    some groceries, false, none⟩

def pocket : Entry.Snapshot :=
  ⟨october, 1, [groceries], [⟨1, "Food", none, some 200⟩, ⟨UNALLOCATED, "Unallocated", none, some 0⟩],
    [⟨1, "Checking", some .eur, 1⟩]⟩

/-- The groceries of the household become a refund: one account on both sides. -/
theorem edit_accounts_agree_refund :
    ∃ payload optimistic old w r stored db', Entry.writeEntry phone intoRefund pocket
        = .ok (payload, optimistic) ∧ initializeOpenings groceriesBought = .ok db' ∧
      db'.transactions.lookup 7 = some old ∧ normalize payload.request = .ok w ∧
      resolveWrite db' w = .ok r ∧ loadStored db' old = .ok stored ∧
      ∀ a, a ∈ payload.accountRevisions.map Prod.fst ↔ a ∈ realAccounts [stored.fromAccount,
        stored.toAccount, r.endpoints.fromAccount, r.endpoints.toAccount] := by
  have hrun : ((Entry.writeEntry phone intoRefund pocket).toOption.any fun entry =>
      (normalize entry.1.request).toOption.any fun w => (resolveWrite groceriesBought w).isOk) = true := by
    decide +kernel
  obtain ⟨⟨payload, optimistic⟩, hentry, hrun⟩ := Except.exists_ok_of_any hrun
  obtain ⟨w, hw, hresolved⟩ := Except.exists_ok_of_any hrun
  have hrow : ((groceriesBought.transactions.lookup 7).any fun old =>
      (loadStored groceriesBought old).isOk && old.canonicalLive &&
        decide (old.kind = .expense ∧ old.fromAccountId = some 1 ∧ old.toAccountId = some 2)) = true := by
    decide +kernel
  obtain ⟨old, hold, hfacts⟩ := (Option.any_eq_true _ _).1 hrow
  rw [Bool.and_eq_true, Bool.and_eq_true, decide_eq_true_iff] at hfacts
  obtain ⟨⟨hstored, hlive⟩, hkind, hfrom, hto⟩ := hfacts
  have hopened : (initializeOpenings groceriesBought).isOk = true := by decide +kernel
  obtain ⟨r, hr⟩ := Except.exists_ok hresolved
  obtain ⟨stored, hstored⟩ := Except.exists_ok hstored
  obtain ⟨db', hinit⟩ := Except.exists_ok hopened
  obtain ⟨O, rfl⟩ := initializeOpenings_frame hinit
  have hshows : Shows groceries old := ⟨hkind.symm, hfrom.symm, hto.symm⟩
  have hreach : Reachable ⟨october, 3⟩ groceriesBought :=
    @household_reachable 1000 (opened ++ [callOn october 3 (.create (spend 12 7 ⟨october, 3⟩ 100))])
      (by decide)
  -- neither the resolution nor the stored sides look at the openings
  have hr' : resolveWrite { groceriesBought with openings := O } w = .ok r := hr
  have hstored' : loadStored { groceriesBought with openings := O } old = .ok stored := hstored
  obtain ⟨hagree, -⟩ := edit_accounts_agree hreach hinit hold hlive hshows rfl hentry hw hr' hstored'
  exact ⟨payload, optimistic, old, w, r, stored, _, hentry, rfl, hold, hw, hr', hstored', hagree⟩

end Server
