import Presto.Phone.Drafts
import Presto.Suggested

/-!
# Saving a blocked entry again

A rejected entry goes back into the form, and the form is read again: amounts, dates and months go
through their texts, the note has become part of the description, and links may be suggested anew.
**What is saved is the same entry** (`review_rewrites`): only the operation, the time and what an edit
is put against are new.
-/

namespace Entry

open Amounts

/-- The texts of an entry that the phone fills in are texts that it reads: plain strings of the amounts,
its date and its month. -/
structure ReadsBack (device : Device) (texts : Texts) (p : WritePayload) : Prop where
  plain : ∀ amount, p.amount = amount ∨ p.toAmount = some amount →
    PlainString (texts.plain amount).toList amount
  date : device.parseDate (texts.date p.date) = some p.date
  month : ∀ m, p.expectedIncomeMonth = some m →
    isBlank (texts.month m) = false ∧ device.parseMonth (texts.month m) = some m

/-! ## Texts -/

/-- A text that begins and ends with a character that is not white space. -/
def Trimmed (text : String) : Prop := Ends (fun c => !isWhitespace c) text.toList

theorem Trimmed.trim {text : String} (h : Trimmed text) : trim text = text := by
  have hstrip := h.strip_self (q := isWhitespace) (by simp)
  rw [Entry.trim, hstrip, String.ofList_toList]

theorem Trimmed.described {text : String} (h : Trimmed text) : isBlank text = false := by
  obtain ⟨c, rest, htext, hc⟩ := h.first
  rw [isBlank, htext, List.all_cons]
  simp at hc
  simp [hc]

theorem trimmed_trim {text : String} (h : trim text ≠ "") : Trimmed (trim text) := by
  rw [Trimmed, trim, String.toList_ofList]
  refine Ends.of_strip fun hnil => h ?_
  rw [trim, hnil, String.ofList_nil]

theorem trim_ne_empty {text : String} (h : isBlank text = false) : trim text ≠ "" := by
  rw [isBlank, List.all_eq_false] at h
  obtain ⟨c, hc, hstays⟩ := h
  intro hempty
  refine Ends.strip_ne_nil hc (Bool.eq_false_iff.2 hstays) ?_
  simpa [trim] using congrArg String.toList hempty

theorem joined_eq (d : Draft) (h : isBlank d.description = false) :
    joined d = if trim d.note = "" then trim d.description
      else trim d.description ++ "\n" ++ trim d.note := by
  rw [joined, List.filter_cons_of_pos (by simpa using trim_ne_empty h)]
  by_cases hnote : trim d.note = ""
  · rw [if_pos hnote, List.filter_cons_of_neg (by simpa using hnote), List.filter_nil,
      String.intercalate_singleton]
  · rw [if_neg hnote, List.filter_cons_of_pos (by simpa using hnote), List.filter_nil,
      String.intercalate_cons_cons, String.intercalate_singleton]

theorem trimmed_joined (d : Draft) (h : isBlank d.description = false) : Trimmed (joined d) := by
  have hdescription := trimmed_trim (trim_ne_empty h)
  rw [joined_eq d h]
  split
  · exact hdescription
  · rename_i hnote
    rw [Trimmed, String.toList_append, String.toList_append]
    exact hdescription.append (trimmed_trim hnote) _

theorem joined_trimmed {d : Draft} (h : Trimmed d.description) (hnote : d.note = "") :
    joined d = d.description := by
  rw [joined_eq d h.described, hnote, if_pos (by decide), h.trim]

theorem setScale2_mono {a b : Decimal} (h : a ≤ b) : setScale2 a ≤ setScale2 b := by
  refine Ratio.roundDecimal_mono (r := ⟨a.coefficient, 10 ^ a.scale⟩)
    (s := ⟨b.coefficient, 10 ^ b.scale⟩) (by positivity) (by positivity) 2 _ ?_
  simpa [Ratio.value, Decimal.toRat, Decimal.le_iff] using h

/-- Money that the phone reads is in cents. -/
theorem parseMoney_cents {text : List Char} {money : Decimal} (h : parseMoney text = some money) :
    InCents money := by
  have hbound : bound.Within 2 := Decimal.scale_normalized_le _ _
  rw [parseMoney, Option.bind_eq_some_iff] at h
  obtain ⟨value, -, h⟩ := h
  simp only at h
  split at h
  · cases h
  · rename_i hread
    cases h
    rw [not_or, not_lt, Decimal.le_iff, toRat_unsigned, abs_le] at hread
    obtain ⟨-, hlower, hupper⟩ := hread
    have hle : setScale2 value ≤ bound := by
      have hmono := setScale2_mono (Decimal.le_iff.2 hupper)
      rwa [setScale2_eq hbound] at hmono
    have hge : -bound ≤ setScale2 value := by
      have hmono := setScale2_mono (a := -bound) (b := value)
        (Decimal.le_iff.2 (by rwa [Decimal.toRat_neg]))
      rwa [setScale2_eq hbound.neg] at hmono
    rw [Decimal.le_iff] at hle hge
    rw [Decimal.toRat_neg] at hge
    exact ⟨Ratio.within_roundDecimal _ _ _, abs_le.2 ⟨hge, hle⟩⟩

/-! ## What is written -/

def Snapshot.category (snapshot : Snapshot) (id : Option CategoryId) : Option Category :=
  snapshot.budgets.find? fun c => some c.categoryId = id

def Snapshot.account (snapshot : Snapshot) (id : Option AccountId) : Option Account :=
  snapshot.accounts.find? fun a => some a.id = id

/-- Salaries and unexpected income go to the category of what is not allocated. -/
def Unassigned (d : Draft) : Prop :=
  d.kind = .income ∧ (d.incomeTreatment = .salary ∨ d.incomeTreatment = .unexpected)

instance (d : Draft) : Decidable (Unassigned d) := inferInstanceAs (Decidable (_ ∧ _))

/-- The categories and accounts that a draft names. -/
def fromCategory (d : Draft) (snapshot : Snapshot) : Option Category :=
  snapshot.category d.categoryFrom

def toCategory (d : Draft) (snapshot : Snapshot) : Option Category :=
  if Unassigned d then snapshot.budgets.find? fun c => c.categoryId = UNALLOCATED
  else snapshot.category d.categoryTo

def sourceAccount (d : Draft) (snapshot : Snapshot) : Option Account :=
  snapshot.account d.accountFrom

def targetAccount (d : Draft) (snapshot : Snapshot) : Option Account :=
  snapshot.account d.accountTo

def CrossCurrency (d : Draft) (snapshot : Snapshot) : Prop :=
  d.kind = .transfer ∧
    (sourceAccount d snapshot).bind (·.currency) ≠ (targetAccount d snapshot).bind (·.currency)

instance (d : Draft) (snapshot : Snapshot) : Decidable (CrossCurrency d snapshot) :=
  inferInstanceAs (Decidable (_ ∧ _))

/-- The month of a salary. -/
def salaryMonth (device : Device) (d : Draft) (date : Date) : Except String (Option Month) :=
  if d.kind = .income ∧ d.incomeTreatment = .salary then
    if isBlank d.expectedIncomeMonth then .ok (some date.month)
    else (Except.fromOption (device.parseMonth d.expectedIncomeMonth)
      "Enter the expected salary month as YYYY-MM.").map some
  else .ok none

/-- What `writeEntry` has checked, and what it writes where. -/
structure Written (device : Device) (d : Draft) (snapshot : Snapshot) (p : WritePayload)
    (t : Transaction) : Prop where
  described : isBlank d.description = false
  short : (joined d).length ≤ 500
  amount : device.parseMoney d.amount = some p.amount ∧ 0 < p.amount
  date : device.parseDate d.date = some p.date
  endpoints : checkEndpoints d p.date p.amount (fromCategory d snapshot) (toCategory d snapshot)
    (sourceAccount d snapshot) (targetAccount d snapshot) = .ok ()
  received : ¬ CrossCurrency d snapshot ∨ p.toAmount.any (0 < ·)
  corrects : d.correctionOf = none ∨ d.kind = .expense ∨ d.kind = .income
  month : salaryMonth device d p.date = .ok p.expectedIncomeMonth
  revisions : expectedRevisions d.original p.fromAccountId p.toAccountId snapshot.accounts
    = .ok p.expectedAccountRevisions
  payload : p = {
    operationId := device.operationId
    transactionId := ((d.original.map (·.id)).or d.queuedTransactionId).getD device.transactionId
    kind := d.kind
    date := p.date
    description := joined d
    amount := p.amount
    occurredAt := captureTimestamp device p.date d.original
    dateOnly := (captureTimestamp device p.date d.original).isNone
    currency := if d.kind = .reallocate then none else some d.currency
    toAmount := if CrossCurrency d snapshot then device.parseMoney d.toAmount else none
    fromCategoryId := ((fromCategory d snapshot).map (·.categoryId)).filter fun _ =>
      d.kind = .expense ∨ d.kind = .reallocate
    toCategoryId := ((toCategory d snapshot).map (·.categoryId)).filter fun _ =>
      d.kind = .income ∨ d.kind = .reallocate
    fromAccountId := ((sourceAccount d snapshot).map (·.id)).filter fun _ =>
      d.kind = .expense ∨ d.kind = .transfer
    toAccountId := ((targetAccount d snapshot).map (·.id)).filter fun _ =>
      d.kind = .income ∨ d.kind = .transfer
    incomeTreatment := if d.kind = .income ∧ d.incomeTreatment ≠ .legacy then
      some d.incomeTreatment else none
    expectedIncomeMonth := p.expectedIncomeMonth
    correctsTransactionId := d.correctionOf
    expectedRevision := d.original.map (·.revision)
    expectedAccountRevisions := p.expectedAccountRevisions }
  /-- What the form is filled in from. -/
  shown : t.kind = d.kind ∧ t.effectiveDate = p.date ∧ t.description = p.description ∧
    t.amount = p.amount ∧ t.inputCurrency = some (if d.kind = .reallocate then .eur else d.currency) ∧
    t.toAmount = p.toAmount ∧ t.fromCategoryId = p.fromCategoryId ∧
    t.toCategoryId = p.toCategoryId ∧ t.fromAccountId = p.fromAccountId ∧
    t.toAccountId = p.toAccountId ∧ t.correctsTransactionId = p.correctsTransactionId ∧
    t.incomeTreatment = (if d.kind = .income then some d.incomeTreatment else none) ∧
    t.expectedIncomeMonth = p.expectedIncomeMonth

theorem writeEntry_written {device : Device} {d : Draft} {snapshot : Snapshot} {p : WritePayload}
    {t : Transaction} (h : writeEntry device d snapshot = .ok (p, t)) :
    Written device d snapshot p t := by
  simp only [writeEntry, Except.bind_eq_ok, Except.ensure_eq_ok, Except.fromOption_eq_ok,
    Except.pure_eq_ok, exists_const, Option.filter_eq_some_iff, decide_eq_true_eq] at h
  obtain ⟨amount, hamount, hdescribed, hshort, date, hdate, _, hendpoints, hreceived, -, hcorrects, month,
    hmonth, revisions, hrevisions, heq⟩ := h
  cases heq
  exact {
    described := hdescribed
    short := hshort
    amount := hamount
    date := hdate
    endpoints := hendpoints
    received := hreceived
    corrects := hcorrects.imp id And.left
    month := hmonth
    revisions := hrevisions
    payload := rfl
    shown := ⟨rfl, rfl, rfl, rfl, by dsimp only; split <;> rfl, rfl, rfl, rfl, rfl, rfl, rfl, rfl, rfl⟩ }

/-- The checks of `writeEntry` are all there are. -/
theorem exists_writeEntry {device : Device} {d : Draft} {snapshot : Snapshot} {amount : Decimal}
    {date : Date} {month : Option Month} {revisions : Option (List AccountRevision)}
    (hamount : device.parseMoney d.amount = some amount) (hpos : 0 < amount)
    (hdescribed : isBlank d.description = false) (hshort : (joined d).length ≤ 500)
    (hdate : device.parseDate d.date = some date)
    (hendpoints : checkEndpoints d date amount (fromCategory d snapshot) (toCategory d snapshot)
      (sourceAccount d snapshot) (targetAccount d snapshot) = .ok ())
    (hreceived : ¬ CrossCurrency d snapshot ∨ (device.parseMoney d.toAmount).any (0 < ·))
    (horiginal : d.original.all fun t => t.canEdit && !t.pending && t.kind ≠ .reconciliation)
    (hcorrection : d.correctionOf = none ∨
      ((d.kind = .expense ∨ d.kind = .income) ∧ date.month = device.today.month))
    (hmonth : salaryMonth device d date = .ok month)
    (hrevisions : expectedRevisions d.original
      (((sourceAccount d snapshot).map (·.id)).filter fun _ => d.kind = .expense ∨ d.kind = .transfer)
      (((targetAccount d snapshot).map (·.id)).filter fun _ => d.kind = .income ∨ d.kind = .transfer)
      snapshot.accounts = .ok revisions) :
    ∃ p t, writeEntry device d snapshot = .ok (p, t) := by
  suffices ∃ written, writeEntry device d snapshot = .ok written by
    obtain ⟨⟨p, t⟩, h⟩ := this
    exact ⟨p, t, h⟩
  have hfilter : (device.parseMoney d.amount).filter (0 < ·) = some amount := by
    simp [hamount, hpos]
  have hsum : ¬ CrossCurrency d snapshot ∨
      (if CrossCurrency d snapshot then device.parseMoney d.toAmount else none).any (0 < ·) := by
    by_cases hcross : CrossCurrency d snapshot
    · rw [if_pos hcross]
      exact hreceived
    · exact .inl hcross
  unfold writeEntry
  refine exists_bind (Except.fromOption_eq_ok.2 hfilter) ?_
  refine exists_bind (a := ()) (if_pos hdescribed) ?_
  refine exists_bind (a := ()) (if_pos hshort) ?_
  refine exists_bind (Except.fromOption_eq_ok.2 hdate) ?_
  refine exists_bind hendpoints ?_
  refine exists_bind (a := ()) (if_pos hsum) ?_
  refine exists_bind (a := ()) (if_pos horiginal) ?_
  refine exists_bind (a := ()) (if_pos hcorrection) ?_
  refine exists_bind hmonth ?_
  refine exists_bind hrevisions ?_
  exact ⟨_, rfl⟩

/-! ## What an entry names -/

theorem Snapshot.category_id {snapshot : Snapshot} {id : Option CategoryId}
    (h : (snapshot.category id).isSome = true) :
    (snapshot.category id).map (·.categoryId) = id := by
  obtain ⟨c, hc⟩ := Option.isSome_iff_exists.1 h
  rw [hc, Option.map_some]
  exact of_decide_eq_true (List.find?_some (p := fun c : Category => some c.categoryId = id) hc)

theorem Snapshot.account_id {snapshot : Snapshot} {id : Option AccountId}
    (h : (snapshot.account id).isSome = true) : (snapshot.account id).map (·.id) = id := by
  obtain ⟨a, ha⟩ := Option.isSome_iff_exists.1 h
  rw [ha, Option.map_some]
  exact of_decide_eq_true (List.find?_some (p := fun a : Account => some a.id = id) ha)

theorem toCategory_eq (d : Draft) (snapshot : Snapshot) :
    toCategory d snapshot
      = snapshot.category (if Unassigned d then some UNALLOCATED else d.categoryTo) := by
  unfold toCategory Snapshot.category
  split
  · simp only [Option.some.injEq]
  · rfl

theorem Snapshot.isSome_category {snapshot : Snapshot} {id : Option CategoryId}
    (h : (snapshot.category id).isSome = true) : id.isSome = true := by
  rwa [← snapshot.category_id h, Option.isSome_map]

theorem Snapshot.isSome_account {snapshot : Snapshot} {id : Option AccountId}
    (h : (snapshot.account id).isSome = true) : id.isSome = true := by
  rwa [← snapshot.account_id h, Option.isSome_map]

/-- What an entry names, by its kind. -/
structure Named (d : Draft) (snapshot : Snapshot) (p : WritePayload) : Prop where
  fromCategory : d.kind = .expense ∨ d.kind = .reallocate →
    (snapshot.category d.categoryFrom).isSome = true ∧ p.fromCategoryId = d.categoryFrom
  toCategory : d.kind = .income ∨ d.kind = .reallocate → Unassigned d ∨
    (snapshot.category d.categoryTo).isSome = true ∧ p.toCategoryId = d.categoryTo
  source : d.kind = .expense ∨ d.kind = .transfer →
    (snapshot.account d.accountFrom).isSome = true ∧ p.fromAccountId = d.accountFrom
  target : d.kind = .income ∨ d.kind = .transfer →
    (snapshot.account d.accountTo).isSome = true ∧ p.toAccountId = d.accountTo
  kind : d.kind ≠ .reconciliation
  transfer : d.kind = .transfer → d.accountFrom ≠ d.accountTo
  reallocate : d.kind = .reallocate →
    d.categoryFrom ≠ d.categoryTo ∧ p.date.day = p.date.month.lastDay

section
variable {device : Device} {d : Draft} {snapshot : Snapshot} {p : WritePayload} {t : Transaction}

theorem filter_of {α : Type} {q : Prop} [Decidable q] (o : Option α) (hq : q) :
    (o.filter fun _ => q) = o := by
  cases o <;> simp [hq]

theorem Unassigned.not_reallocate (h : Unassigned d) : d.kind ≠ .reallocate := by
  rw [h.1]
  decide

theorem Written.named (h : Written device d snapshot p t) : Named d snapshot p := by
  have hfrom := congrArg WritePayload.fromCategoryId h.payload
  have hto := congrArg WritePayload.toCategoryId h.payload
  have hsource := congrArg WritePayload.fromAccountId h.payload
  have htarget := congrArg WritePayload.toAccountId h.payload
  have hendpoints := h.endpoints
  simp only [toCategory_eq, fromCategory, sourceAccount, targetAccount] at hfrom hto hsource htarget hendpoints
  unfold checkEndpoints at hendpoints
  constructor
  case fromCategory =>
    intro hkind
    have hsome : (snapshot.category d.categoryFrom).isSome = true := by
      rcases hkind with hkind | hkind <;>
        simp only [hkind, Except.bind_eq_ok, Except.ensure_eq_ok, exists_const] at hendpoints
      · exact hendpoints.1
      · exact hendpoints.1.1
    exact ⟨hsome, hfrom.trans ((filter_of _ hkind).trans (snapshot.category_id hsome))⟩
  case toCategory =>
    intro hkind
    by_cases hun : Unassigned d
    · exact .inl hun
    rw [if_neg hun] at hendpoints hto
    have hsome : (snapshot.category d.categoryTo).isSome = true := by
      rcases hkind with hkind | hkind <;>
        simp only [hkind, Except.bind_eq_ok, Except.ensure_eq_ok, exists_const] at hendpoints
      · exact hendpoints.2.resolve_right fun htreatment => hun ⟨hkind, htreatment⟩
      · exact hendpoints.1.2.1
    exact .inr ⟨hsome, hto.trans ((filter_of _ hkind).trans (snapshot.category_id hsome))⟩
  case source =>
    intro hkind
    have hsome : (snapshot.account d.accountFrom).isSome = true := by
      rcases hkind with hkind | hkind <;> simp only [hkind, Except.ensure_eq_ok] at hendpoints
      · exact hendpoints.2
      · exact hendpoints.1
    exact ⟨hsome, hsource.trans ((filter_of _ hkind).trans (snapshot.account_id hsome))⟩
  case target =>
    intro hkind
    have hsome : (snapshot.account d.accountTo).isSome = true := by
      rcases hkind with hkind | hkind <;> simp only [hkind, Except.ensure_eq_ok] at hendpoints
      · exact hendpoints.1
      · exact hendpoints.2.1
    exact ⟨hsome, htarget.trans ((filter_of _ hkind).trans (snapshot.account_id hsome))⟩
  case kind =>
    intro hkind
    simp [hkind] at hendpoints
  case transfer =>
    intro hkind
    simp only [hkind, Except.ensure_eq_ok] at hendpoints
    obtain ⟨hs, ht, hne⟩ := hendpoints
    rwa [snapshot.account_id hs, snapshot.account_id ht] at hne
  case reallocate =>
    intro hkind
    rw [if_neg fun hun => Unassigned.not_reallocate hun hkind] at hendpoints
    simp only [hkind, Except.bind_eq_ok, Except.ensure_eq_ok, exists_const] at hendpoints
    obtain ⟨⟨hf, ht, hne⟩, hday, -⟩ := hendpoints
    rw [snapshot.category_id hf, snapshot.category_id ht] at hne
    exact ⟨hne, hday⟩

/-! ## The form again -/

/-- The form of a blocked entry, after links were suggested anew. -/
structure Refilled (texts : Texts) (d : Draft) (p : WritePayload) (original : Option Transaction)
    (d' : Draft) : Prop where
  kind : d'.kind = d.kind
  amount : d'.amount = texts.plain p.amount
  currency : d'.currency = if d.kind = .reallocate then .eur else d.currency
  description : d'.description = p.description
  note : d'.note = ""
  date : d'.date = texts.date p.date
  toAmount : ∀ amount, p.toAmount = some amount → d'.toAmount = texts.plain amount
  categoryFrom : p.fromCategoryId.isSome = true → d'.categoryFrom = p.fromCategoryId
  categoryTo : p.toCategoryId.isSome = true → d'.categoryTo = p.toCategoryId
  accountFrom : p.fromAccountId.isSome = true → d'.accountFrom = p.fromAccountId
  accountTo : p.toAccountId.isSome = true → d'.accountTo = p.toAccountId
  correctionOf : d'.correctionOf = p.correctsTransactionId
  incomeTreatment : d.kind = .income → d'.incomeTreatment = d.incomeTreatment
  expectedIncomeMonth : ∀ m, p.expectedIncomeMonth = some m → d'.expectedIncomeMonth = texts.month m
  original : d'.original = original
  balancing : d'.balancing = false
  queuedTransactionId : d'.queuedTransactionId = some p.transactionId

section
variable {form : Form} {suggestCategory : Suggest} {later : Snapshot}

end

/-- What an entry could name is still there, in the same currency. -/
structure Lists (earlier later : Snapshot) : Prop where
  categories : ∀ id, (earlier.category id).isSome = true → (later.category id).isSome = true
  unallocated : (later.category (some UNALLOCATED)).isSome = true →
    (earlier.category (some UNALLOCATED)).isSome = true
  accounts : ∀ id a, earlier.account id = some a →
    ∃ a', later.account id = some a' ∧ a'.currency = a.currency

section
variable {later : Snapshot} {d' : Draft} {texts : Texts} {original : Option Transaction}

theorem Lists.category_eq (h : Lists snapshot later) {id : Option CategoryId}
    (hid : (snapshot.category id).isSome = true) :
    (later.category id).map (·.categoryId) = (snapshot.category id).map (·.categoryId) := by
  rw [snapshot.category_id hid, later.category_id (h.categories id hid)]

theorem Lists.unallocated_eq (h : Lists snapshot later) :
    (later.category (some UNALLOCATED)).map (·.categoryId)
      = (snapshot.category (some UNALLOCATED)).map (·.categoryId) := by
  by_cases hsome : (snapshot.category (some UNALLOCATED)).isSome = true
  · exact h.category_eq hsome
  · have hlater : ¬ (later.category (some UNALLOCATED)).isSome = true := fun hl =>
      hsome (h.unallocated hl)
    rw [Option.not_isSome_iff_eq_none] at hsome hlater
    rw [hsome, hlater]

theorem Lists.account_eq (h : Lists snapshot later) {id : Option AccountId}
    (hid : (snapshot.account id).isSome = true) :
    (later.account id).map (·.id) = (snapshot.account id).map (·.id) ∧
      (later.account id).bind (·.currency) = (snapshot.account id).bind (·.currency) := by
  obtain ⟨a, ha⟩ := Option.isSome_iff_exists.1 hid
  obtain ⟨a', ha', hcurrency⟩ := h.accounts id a ha
  have hsome : (later.account id).isSome = true := by rw [ha']; rfl
  refine ⟨?_, ?_⟩
  · rw [snapshot.account_id hid, later.account_id hsome]
  · rw [ha, ha']
    exact hcurrency

/-- The names of the form again are those of the form before. -/
structure Renames (d d' : Draft) (snapshot later : Snapshot) : Prop where
  fromCategory : d.kind = .expense ∨ d.kind = .reallocate →
    (fromCategory d' later).map (·.categoryId) = (fromCategory d snapshot).map (·.categoryId)
  toCategory : d.kind = .income ∨ d.kind = .reallocate →
    (toCategory d' later).map (·.categoryId) = (toCategory d snapshot).map (·.categoryId)
  source : d.kind = .expense ∨ d.kind = .transfer →
    (sourceAccount d' later).map (·.id) = (sourceAccount d snapshot).map (·.id)
  target : d.kind = .income ∨ d.kind = .transfer →
    (targetAccount d' later).map (·.id) = (targetAccount d snapshot).map (·.id)
  cross : CrossCurrency d' later ↔ CrossCurrency d snapshot

theorem Refilled.unassigned (h : Refilled texts d p original d') : Unassigned d' ↔ Unassigned d := by
  unfold Unassigned
  rw [h.kind]
  exact and_congr_right fun hincome => by rw [h.incomeTreatment hincome]

theorem Refilled.renames (h : Refilled texts d p original d') (hnamed : Named d snapshot p)
    (hlists : Lists snapshot later) : Renames d d' snapshot later := by
  have hsource : d.kind = .expense ∨ d.kind = .transfer →
      (sourceAccount d' later).map (·.id) = (sourceAccount d snapshot).map (·.id) ∧
        (sourceAccount d' later).bind (·.currency) = (sourceAccount d snapshot).bind (·.currency) := by
    intro hk
    obtain ⟨hsome, hp⟩ := hnamed.source hk
    have hform := h.accountFrom (hp ▸ snapshot.isSome_account hsome)
    rw [sourceAccount, hform, hp]
    exact hlists.account_eq hsome
  have htarget : d.kind = .income ∨ d.kind = .transfer →
      (targetAccount d' later).map (·.id) = (targetAccount d snapshot).map (·.id) ∧
        (targetAccount d' later).bind (·.currency) = (targetAccount d snapshot).bind (·.currency) := by
    intro hk
    obtain ⟨hsome, hp⟩ := hnamed.target hk
    have hform := h.accountTo (hp ▸ snapshot.isSome_account hsome)
    rw [targetAccount, hform, hp]
    exact hlists.account_eq hsome
  constructor
  case fromCategory =>
    intro hk
    obtain ⟨hsome, hp⟩ := hnamed.fromCategory hk
    have hform := h.categoryFrom (hp ▸ snapshot.isSome_category hsome)
    rw [Entry.fromCategory, hform, hp]
    exact hlists.category_eq hsome
  case toCategory =>
    intro hk
    rw [toCategory_eq, toCategory_eq, if_congr h.unassigned rfl rfl]
    by_cases hun : Unassigned d
    · rw [if_pos hun, if_pos hun]
      exact hlists.unallocated_eq
    · obtain ⟨hsome, hp⟩ := (hnamed.toCategory hk).resolve_left hun
      have hform := h.categoryTo (hp ▸ snapshot.isSome_category hsome)
      rw [if_neg hun, if_neg hun, hform, hp]
      exact hlists.category_eq hsome
  case source => exact fun hk => (hsource hk).1
  case target => exact fun hk => (htarget hk).1
  case cross =>
    unfold CrossCurrency
    rw [h.kind]
    refine and_congr_right fun hk => ?_
    rw [(hsource (.inr hk)).2, (htarget (.inr hk)).2]

theorem isSome_of_map {α β : Type} {f : α → β} {o o' : Option α} (h : o'.map f = o.map f) :
    o'.isSome = o.isSome := by
  rw [← Option.isSome_map (f := f), h, Option.isSome_map]

/-- The endpoints that were enough are enough again. -/
theorem Renames.endpoints (h : Renames d d' snapshot later) (hkind : d'.kind = d.kind)
    (hbalancing : d'.balancing = false)
    (htreatment : d.kind = .income → d'.incomeTreatment = d.incomeTreatment)
    {date : Date} {amount : Decimal} (hendpoints : checkEndpoints d date amount
      (Entry.fromCategory d snapshot) (Entry.toCategory d snapshot) (sourceAccount d snapshot)
      (targetAccount d snapshot) = .ok ()) :
    checkEndpoints d' date amount (Entry.fromCategory d' later) (Entry.toCategory d' later)
      (sourceAccount d' later) (targetAccount d' later) = .ok () := by
  unfold checkEndpoints at *
  rw [hkind]
  cases hk : d.kind with
  | expense =>
    simp only [hk, Except.ensure_eq_ok] at hendpoints ⊢
    rwa [isSome_of_map (h.fromCategory (.inl hk)), isSome_of_map (h.source (.inl hk))]
  | income =>
    simp only [hk, Except.ensure_eq_ok] at hendpoints ⊢
    rwa [isSome_of_map (h.toCategory (.inl hk)), isSome_of_map (h.target (.inl hk)), htreatment hk]
  | transfer =>
    simp only [hk, Except.ensure_eq_ok] at hendpoints ⊢
    rwa [isSome_of_map (h.source (.inr hk)), isSome_of_map (h.target (.inr hk)), h.source (.inr hk),
      h.target (.inr hk)]
  | reallocate =>
    simp only [hk, hbalancing, Except.bind_eq_ok, Except.ensure_eq_ok, exists_const, true_or,
      and_true] at hendpoints ⊢
    rw [isSome_of_map (h.fromCategory (.inr hk)), isSome_of_map (h.toCategory (.inr hk)),
      h.fromCategory (.inr hk), h.toCategory (.inr hk)]
    exact ⟨hendpoints.1, hendpoints.2.1⟩
  | reconciliation => simp [hk] at hendpoints

/-- The accounts that an edit expects revisions of are all there. -/
theorem exists_revisions (original : Option Transaction) {fromAccountId toAccountId : Option AccountId}
    (horiginal : ∀ o ∈ original, ∀ id ∈ realAccountIds o, (later.account (some id)).isSome = true)
    (hfrom : ∀ id ∈ fromAccountId, (later.account (some id)).isSome = true)
    (hto : ∀ id ∈ toAccountId, (later.account (some id)).isSome = true) :
    ∃ revisions, expectedRevisions original fromAccountId toAccountId later.accounts = .ok revisions := by
  cases original with
  | none => exact ⟨none, rfl⟩
  | some o =>
    have hall : ∀ id ∈ (realAccountIds o ++ (fromAccountId.toList ++ toAccountId.toList)).eraseDups,
        ∃ revision, accountRevision later.accounts id = .ok revision := by
      intro id hid
      rw [List.mem_eraseDups, List.mem_append, List.mem_append, Option.mem_toList,
        Option.mem_toList] at hid
      have hsome : (later.account (some id)).isSome = true := by
        rcases hid with hid | hid | hid
        · exact horiginal o rfl id hid
        · exact hfrom id hid
        · exact hto id hid
      obtain ⟨a, ha⟩ := Option.isSome_iff_exists.1 hsome
      simp only [Snapshot.account, Option.some.injEq] at ha
      exact ⟨⟨id, a.ledgerRevision⟩, by rw [accountRevision, ha]⟩
    obtain ⟨revisions, hrevisions⟩ := Except.exists_mapM_ok hall
    exact ⟨some revisions, by rw [expectedRevisions, hrevisions]; rfl⟩

/-! ### Read again -/

section
variable {device' : Device}

theorem Refilled.amount_read (h : Refilled texts d p original d')
    (hwritten : Written device.readsMoney d snapshot p t) (hreads : ReadsBack device' texts p) :
    device'.readsMoney.parseMoney d'.amount = some p.amount := by
  rw [h.amount]
  exact (parseMoney_plain (hreads.plain _ (.inl rfl))).2 ⟨rfl, parseMoney_cents hwritten.amount.1⟩

theorem Refilled.toAmount_read (h : Refilled texts d p original d')
    (hwritten : Written device.readsMoney d snapshot p t) (hreads : ReadsBack device' texts p)
    (hrenames : Renames d d' snapshot later) :
    (if CrossCurrency d' later then device'.readsMoney.parseMoney d'.toAmount else none)
      = p.toAmount := by
  have hp := congrArg WritePayload.toAmount hwritten.payload
  by_cases hcross : CrossCurrency d snapshot
  · obtain ⟨received, hreceived, -⟩ :=
      (Option.any_eq_true _ _).1 (hwritten.received.resolve_left (not_not_intro hcross))
    have hread : parseMoney d.toAmount.toList = some received := by
      rw [hreceived] at hp
      exact (hp.trans (if_pos hcross)).symm
    rw [if_pos (hrenames.cross.2 hcross), h.toAmount received hreceived, hreceived]
    exact (parseMoney_plain (hreads.plain _ (.inr hreceived))).2 ⟨rfl, parseMoney_cents hread⟩
  · rw [if_neg (mt hrenames.cross.1 hcross), hp]
    exact (if_neg hcross).symm

/-- The note has become part of the description. -/
theorem Refilled.description_read (h : Refilled texts d p original d')
    (hwritten : Written device.readsMoney d snapshot p t) :
    isBlank d'.description = false ∧ joined d' = p.description ∧ (joined d').length ≤ 500 := by
  have hp : p.description = joined d := congrArg WritePayload.description hwritten.payload
  have htrimmed := trimmed_joined d hwritten.described
  rw [← hp, ← h.description] at htrimmed
  have hjoined : joined d' = p.description := by rw [joined_trimmed htrimmed h.note, h.description]
  refine ⟨htrimmed.described, hjoined, ?_⟩
  rw [hjoined, hp]
  exact hwritten.short

theorem Refilled.month_read (h : Refilled texts d p original d')
    (hwritten : Written device.readsMoney d snapshot p t) (hreads : ReadsBack device' texts p) :
    salaryMonth device'.readsMoney d' p.date = .ok p.expectedIncomeMonth := by
  have hmonth := hwritten.month
  have hsalary : (d'.kind = .income ∧ d'.incomeTreatment = .salary) ↔
      (d.kind = .income ∧ d.incomeTreatment = .salary) := by
    rw [h.kind]
    exact and_congr_right fun hincome => by rw [h.incomeTreatment hincome]
  unfold salaryMonth at hmonth ⊢
  rw [if_congr hsalary rfl rfl]
  split at hmonth
  · rename_i hs
    obtain ⟨m, hm⟩ : ∃ m, p.expectedIncomeMonth = some m := by
      split at hmonth
      · exact ⟨_, (Except.ok.inj hmonth).symm⟩
      · obtain ⟨m, -, hm⟩ := Except.map_eq_ok.1 hmonth
        exact ⟨m, hm.symm⟩
    obtain ⟨hblank, hread⟩ := hreads.month m hm
    rw [if_pos hs, h.expectedIncomeMonth m hm, if_neg (by simp [hblank]), hm]
    exact Except.map_eq_ok.2 ⟨m, Except.fromOption_eq_ok.2 hread, rfl⟩
  · rename_i hs
    rw [if_neg hs]
    exact hmonth

theorem filter_congr {α : Type} {q : Prop} [Decidable q] {o o' : Option α} (h : q → o' = o) :
    (o'.filter fun _ => q) = o.filter fun _ => q := by
  by_cases hq : q
  · rw [h hq]
  · cases o <;> cases o' <;> simp [hq]

/-- The ids that the form names are those of the entry. -/
theorem Refilled.names_read (h : Refilled texts d p original d')
    (hwritten : Written device.readsMoney d snapshot p t) (hrenames : Renames d d' snapshot later) :
    (((fromCategory d' later).map (·.categoryId)).filter fun _ =>
        d'.kind = .expense ∨ d'.kind = .reallocate) = p.fromCategoryId ∧
      (((toCategory d' later).map (·.categoryId)).filter fun _ =>
        d'.kind = .income ∨ d'.kind = .reallocate) = p.toCategoryId ∧
      (((sourceAccount d' later).map (·.id)).filter fun _ =>
        d'.kind = .expense ∨ d'.kind = .transfer) = p.fromAccountId ∧
      (((targetAccount d' later).map (·.id)).filter fun _ =>
        d'.kind = .income ∨ d'.kind = .transfer) = p.toAccountId := by
  rw [h.kind]
  refine ⟨?_, ?_, ?_, ?_⟩
  · exact (filter_congr hrenames.fromCategory).trans
      (congrArg WritePayload.fromCategoryId hwritten.payload).symm
  · exact (filter_congr hrenames.toCategory).trans
      (congrArg WritePayload.toCategoryId hwritten.payload).symm
  · exact (filter_congr hrenames.source).trans
      (congrArg WritePayload.fromAccountId hwritten.payload).symm
  · exact (filter_congr hrenames.target).trans
      (congrArg WritePayload.toAccountId hwritten.payload).symm

theorem Refilled.id_read (h : Refilled texts d p original d')
    (hid : ∀ o ∈ original, o.id = p.transactionId) (fresh : TransactionId) :
    ((d'.original.map (·.id)).or d'.queuedTransactionId).getD fresh = p.transactionId := by
  rw [h.original, h.queuedTransactionId]
  cases original with
  | none => rfl
  | some o => exact hid o rfl

theorem Refilled.currency_read (h : Refilled texts d p original d')
    (hwritten : Written device d snapshot p t) :
    (if d'.kind = .reallocate then none else some d'.currency) = p.currency := by
  have hp : p.currency = if d.kind = .reallocate then none else some d.currency :=
    congrArg WritePayload.currency hwritten.payload
  rw [hp, h.kind, h.currency]
  split
  · rfl
  · rfl

theorem Refilled.treatment_read (h : Refilled texts d p original d')
    (hwritten : Written device d snapshot p t) :
    (if d'.kind = .income ∧ d'.incomeTreatment ≠ .legacy then some d'.incomeTreatment else none)
      = p.incomeTreatment := by
  have hp : p.incomeTreatment = if d.kind = .income ∧ d.incomeTreatment ≠ .legacy then
      some d.incomeTreatment else none := congrArg WritePayload.incomeTreatment hwritten.payload
  rw [hp, h.kind]
  by_cases hincome : d.kind = .income
  · rw [h.incomeTreatment hincome]
  · rw [if_neg fun hk => hincome hk.1, if_neg fun hk => hincome hk.1]

/-- An account that is named is there. -/
theorem isSome_account_of_mem {id : Option AccountId} {q : Prop} [Decidable q] {a : AccountId}
    (h : a ∈ ((later.account id).map (·.id)).filter fun _ => q) :
    (later.account (some a)).isSome = true := by
  obtain ⟨hmem, -⟩ := Option.mem_filter_iff.1 h
  have hsome : (later.account id).isSome = true := by
    rw [← Option.isSome_map, Option.mem_def.1 hmem]
    rfl
  rw [later.account_id hsome] at hmem
  rwa [← Option.mem_def.1 hmem]

end

/-- The entry `p` again: only the operation, the time and what an edit is put against are new. -/
def Again (device : Device) (original : Option Transaction) (later : Snapshot)
    (p p' : WritePayload) : Prop :=
  p' = { p with
    operationId := device.operationId
    occurredAt := captureTimestamp device p.date original
    dateOnly := (captureTimestamp device p.date original).isNone
    expectedRevision := original.map (·.revision)
    expectedAccountRevisions := p'.expectedAccountRevisions } ∧
  expectedRevisions original p.fromAccountId p.toAccountId later.accounts
    = .ok p'.expectedAccountRevisions

/-- The form of a blocked entry passes all checks. -/
theorem Refilled.exists_written {device' : Device} (h : Refilled texts d p original d')
    (hwritten : Written device.readsMoney d snapshot p t) (hreads : ReadsBack device' texts p)
    (hrenames : Renames d d' snapshot later)
    (hcorrection : p.correctsTransactionId = none ∨ p.date.month = device'.today.month)
    (horiginal : ∀ o ∈ original, (o.canEdit && !o.pending && o.kind ≠ .reconciliation) = true ∧
      ∀ id ∈ realAccountIds o, (later.account (some id)).isSome = true) :
    ∃ p' t', writeEntry device'.readsMoney d' later = .ok (p', t') := by
  obtain ⟨hdescribed, -, hshort⟩ := h.description_read hwritten
  obtain ⟨-, -, hfromAccount, htoAccount⟩ := h.names_read hwritten hrenames
  have hdate : device'.parseDate d'.date = some p.date := by
    rw [h.date]
    exact hreads.date
  obtain ⟨revisions, hrevisions⟩ : ∃ revisions, expectedRevisions d'.original p.fromAccountId
      p.toAccountId later.accounts = .ok revisions := by
    refine exists_revisions _ (fun o ho => ?_) (fun id hid => ?_) (fun id hid => ?_)
    · exact (horiginal o (h.original ▸ ho)).2
    · exact isSome_account_of_mem (hfromAccount ▸ hid)
    · exact isSome_account_of_mem (htoAccount ▸ hid)
  refine exists_writeEntry (h.amount_read hwritten hreads) hwritten.amount.2 hdescribed hshort hdate
    (hrenames.endpoints h.kind h.balancing h.incomeTreatment hwritten.endpoints) ?_ ?_ ?_
    (h.month_read hwritten hreads) (by rw [hfromAccount, htoAccount]; exact hrevisions)
  · have htoAmount := h.toAmount_read hwritten hreads hrenames
    by_cases hcross : CrossCurrency d' later
    · rw [if_pos hcross] at htoAmount
      rw [htoAmount]
      exact .inr (hwritten.received.resolve_left (not_not_intro (hrenames.cross.1 hcross)))
    · exact .inl hcross
  · rw [h.original, Option.all_eq_true]
    exact fun o ho => (horiginal o ho).1
  · rw [h.correctionOf, h.kind]
    have hp : p.correctsTransactionId = d.correctionOf :=
      congrArg WritePayload.correctsTransactionId hwritten.payload
    rcases hcorrection with hnone | hmonth
    · exact .inl hnone
    · exact (hp ▸ hwritten.corrects).imp id fun hkind => ⟨hkind, hmonth⟩

/-- **The form of a blocked entry writes the entry again.** -/
theorem Refilled.again {device' : Device} (h : Refilled texts d p original d')
    (hwritten : Written device.readsMoney d snapshot p t) (hreads : ReadsBack device' texts p)
    (hlists : Lists snapshot later)
    (hcorrection : p.correctsTransactionId = none ∨ p.date.month = device'.today.month)
    (horiginal : ∀ o ∈ original, o.id = p.transactionId ∧
      (o.canEdit && !o.pending && o.kind ≠ .reconciliation) = true ∧
      ∀ id ∈ realAccountIds o, (later.account (some id)).isSome = true) :
    ∃ p' t', writeEntry device'.readsMoney d' later = .ok (p', t') ∧
      Again device' original later p p' := by
  have hrenames := h.renames hwritten.named hlists
  obtain ⟨p', t', hagain⟩ :=
    h.exists_written hwritten hreads hrenames hcorrection fun o ho => (horiginal o ho).2
  have hwritten' := writeEntry_written hagain
  -- what is read again is the entry, text by text
  obtain ⟨-, hdescription, -⟩ := h.description_read hwritten
  obtain ⟨hfromCategory, htoCategory, hfromAccount, htoAccount⟩ := h.names_read hwritten hrenames
  have hdate : p'.date = p.date := by
    have hread := hwritten'.date
    rw [h.date] at hread
    exact Option.some.inj (hread.symm.trans hreads.date)
  have hamount : p'.amount = p.amount :=
    Option.some.inj (hwritten'.amount.1.symm.trans (h.amount_read hwritten hreads))
  have hmonth : p'.expectedIncomeMonth = p.expectedIncomeMonth := by
    have hread := hwritten'.month
    rw [hdate, h.month_read hwritten hreads] at hread
    exact (Except.ok.inj hread).symm
  have hkind : d'.kind = p.kind := h.kind.trans (congrArg WritePayload.kind hwritten.payload).symm
  refine ⟨p', t', hagain, ?_, ?_⟩
  · refine hwritten'.payload.trans ?_
    rw [h.id_read fun o ho => (horiginal o ho).1, h.currency_read hwritten, h.treatment_read hwritten,
      h.toAmount_read hwritten hreads hrenames, hfromCategory, htoCategory, hfromAccount, htoAccount,
      hdescription, hdate, hamount, hmonth, h.correctionOf, h.original, hkind]
    rfl
  · have hrevised := hwritten'.revisions
    have hp : p'.fromAccountId = _ := congrArg WritePayload.fromAccountId hwritten'.payload
    have hp' : p'.toAccountId = _ := congrArg WritePayload.toAccountId hwritten'.payload
    rwa [h.original, hp, hp', hfromAccount, htoAccount] at hrevised

end

end

/-! ## Review -/

end Entry
