import Presto.Balancing
import Presto.Conversion
import Presto.Money

/-!
# Saving a suggested move

The balancing form is filled in from exact balances, and the amount goes in as its plain string. Read
back it is the amount itself when that is in cents, and nothing otherwise; all the other checks of
`writeEntry` and of the server hold of a suggestion, but for the month of its date, which the phone does
not ask about. So **a suggested move can be saved exactly when the smaller of the two balances is in cents
and the month is open** (`offered_accepted_iff`).
-/

namespace Entry

open Amounts

/-! ## Plain strings -/

/-- A `toPlainString` of a positive amount: the scale decides how many zeros there are at its end. -/
def PlainString (text : List Char) (value : Decimal) : Prop :=
  ∃ whole fraction, Digits whole ∧ (∀ c ∈ fraction, c.isDigit = true) ∧
    text = whole ++ (if fraction = [] then [] else '.' :: fraction) ∧
    value.toRat = magnitude whole fraction

theorem PlainString.mem {text : List Char} {value : Decimal} (h : PlainString text value) :
    ∀ c ∈ text, (c.isDigit || isSeparator c) = true := by
  obtain ⟨whole, fraction, hw, hf, rfl, -⟩ := h
  intro c hc
  rcases List.mem_append.1 hc with hc | hc
  · rw [hw.all c hc, Bool.true_or]
  · split at hc
    · cases hc
    · rcases List.mem_cons.1 hc with rfl | hc
      · rfl
      · rw [hf c hc, Bool.true_or]

theorem PlainString.denotes {text : List Char} {value : Decimal} (h : PlainString text value) :
    Denotes text value := by
  obtain ⟨whole, fraction, hw, hf, rfl, hvalue⟩ := h
  refine ⟨false, _, whole, fraction, .none _, ?_, hvalue⟩
  split
  · rename_i hnil
    subst hnil
    rw [List.append_nil]
    exact .whole hw
  · refine .decimal rfl ⟨by simp [hw.1], ?_⟩
    rw [List.all_append, Bool.and_eq_true]
    exact ⟨hw.2, List.all_eq_true.2 hf⟩

theorem PlainString.not_formula {text : List Char} {value : Decimal} (h : PlainString text value) :
    isFormula text = false := by
  rw [Bool.eq_false_iff]
  intro hformula
  obtain ⟨before, after, htext, -⟩ := Reader.exists_trim (r := phone) text
  have hmem : '=' ∈ phone.trim text := List.mem_of_head? (of_decide_eq_true hformula)
  have hin : '=' ∈ text := by
    rw [htext]
    simp [hmem]
  exact absurd (h.mem '=' hin) (by decide)

/-- **A plain string is read back when its amount is in cents**, and else not at all. -/
theorem parseMoney_plain {text : List Char} {value money : Decimal} (h : PlainString text value) :
    parseMoney text = some money ↔ money = value ∧ InCents value := by
  have hread : phone.localized text = some value :=
    Reader.localized_iff.2 ⟨text, ⟨[], [], [], [], by simp, by simp, by simp, .inl rfl, .inl rfl⟩,
      h.denotes⟩
  rw [parseMoney_literal h.not_formula, hread, Option.some.injEq]
  constructor
  · rintro ⟨rfl, hcents⟩
    exact ⟨rfl, hcents⟩
  · rintro ⟨rfl, hcents⟩
    exact ⟨rfl, hcents⟩

/-! ## Forms -/

theorem parseMoney_within (text : String) (amount : Decimal)
    (h : Amounts.parseMoney text.toList = some amount) : amount.Within 2 := by
  rw [Amounts.parseMoney, Option.bind_eq_some_iff] at h
  obtain ⟨value, -, h⟩ := h
  simp only at h
  split at h
  · cases h
  · cases h
    exact Ratio.within_roundDecimal _ _ _

/-- A phone that reads money as `parseMoney` does. -/
def Device.readsMoney (device : Device) : Device :=
  { device with
    parseMoney := fun text => Amounts.parseMoney text.toList
    money_within := parseMoney_within }

/-- A text that the phone reads as the last day of a month. -/
def MonthEnd (device : Device) (text : String) : Prop :=
  ∃ day, device.parseDate text = some day ∧ day.day = day.month.lastDay

def joined (d : Draft) : String := "\n".intercalate ([trim d.description, trim d.note].filter (· ≠ ""))

/-- The forms that balancing offers for the balances of a snapshot: the first one, the next one after a
form was saved, and what "Suggest" (`EntryScreen.kt:341`) makes of a form whose other entries are in
order. -/
inductive Offered (device : Device) (snapshot : Snapshot) : BalanceSuggestion → Draft → Prop
  | first {suggestion : BalanceSuggestion} {today amount previousMonthEnd : String} :
      suggestion = suggestBalance snapshot.budgets none none →
      PlainString amount.toList suggestion.amount → MonthEnd device previousMonthEnd →
      Offered device snapshot suggestion
        (balancingDraft snapshot today amount previousMonthEnd suggestion)
  | next {suggestion : BalanceSuggestion} {amount : String} {saved : Draft} {before : Snapshot}
      {written : WritePayload × Transaction} :
      saved.kind = .reallocate → saved.balancing = true →
      writeEntry device saved before = .ok written →
      suggestion = suggestBalance snapshot.budgets saved.categoryFrom saved.categoryTo →
      PlainString amount.toList suggestion.amount →
      Offered device snapshot suggestion (continueBalancing saved amount suggestion)
  | suggest {suggestion : BalanceSuggestion} {amount : String} {shown : Draft} :
      shown.kind = .reallocate → shown.balancing = true → shown.original = none →
      shown.correctionOf = none → isBlank shown.description = false → (joined shown).length ≤ 500 →
      MonthEnd device shown.date →
      suggestion = suggestBalance snapshot.budgets shown.categoryFrom shown.categoryTo →
      PlainString amount.toList suggestion.amount →
      Offered device snapshot suggestion { shown with
        categoryFrom := suggestion.source.map (·.categoryId)
        categoryTo := suggestion.destination.map (·.categoryId)
        amount := amount }

/-- What all of these forms have. -/
structure Filled (device : Device) (snapshot : Snapshot) (suggestion : BalanceSuggestion)
    (d : Draft) : Prop where
  suggested : ∃ donor recipient, suggestion = suggestBalance snapshot.budgets donor recipient
  kind : d.kind = .reallocate
  balancing : d.balancing = true
  amount : PlainString d.amount.toList suggestion.amount
  categoryFrom : d.categoryFrom = suggestion.source.map (·.categoryId)
  categoryTo : d.categoryTo = suggestion.destination.map (·.categoryId)
  original : d.original = none
  correctionOf : d.correctionOf = none
  described : isBlank d.description = false
  short : (joined d).length ≤ 500
  date : MonthEnd device d.date

theorem first_described : isBlank "Month-end budget balancing" = false := by decide +kernel

theorem first_short : ("\n".intercalate
    ([trim "Month-end budget balancing", trim ""].filter (· ≠ ""))).length ≤ 500 := by decide +kernel

theorem Offered.filled {device : Device} {snapshot : Snapshot} {suggestion : BalanceSuggestion}
    {d : Draft} (h : Offered device snapshot suggestion d) : Filled device snapshot suggestion d := by
  cases h with
  | first hsuggestion hamount hdate =>
    exact {
      suggested := ⟨none, none, hsuggestion⟩
      kind := rfl
      balancing := rfl
      amount := hamount
      categoryFrom := rfl
      categoryTo := rfl
      original := rfl
      correctionOf := rfl
      described := first_described
      short := first_short
      date := hdate }
  | @next amount saved before written hkind hbalancing hwritten hsuggestion hamount =>
    simp only [writeEntry, Except.bind_eq_ok, Except.ensure_eq_ok, exists_const] at hwritten
    obtain ⟨money, -, hdescribed, hshort, day, hday, _, hendpoints, -⟩ := hwritten
    rw [Except.fromOption_eq_ok] at hday
    simp only [checkEndpoints, hkind, Except.bind_eq_ok, Except.ensure_eq_ok, exists_const] at hendpoints
    exact {
      suggested := ⟨_, _, hsuggestion⟩
      kind := hkind
      balancing := hbalancing
      amount := hamount
      categoryFrom := rfl
      categoryTo := rfl
      original := rfl
      correctionOf := rfl
      described := hdescribed
      short := hshort
      date := ⟨day, hday, hendpoints.2.1⟩ }
  | suggest hkind hbalancing horiginal hcorrection hdescribed hshort hdate hsuggestion hamount =>
    exact {
      suggested := ⟨_, _, hsuggestion⟩
      kind := hkind
      balancing := hbalancing
      amount := hamount
      categoryFrom := rfl
      categoryTo := rfl
      original := horiginal
      correctionOf := hcorrection
      described := hdescribed
      short := hshort
      date := hdate }

/-! ## What is written -/

/-- The payload of a move between two categories. -/
structure Reallocates (p : WritePayload) (amount : Decimal) (donor recipient : CategoryId) : Prop where
  kind : p.kind = .reallocate
  date : p.date.Valid
  described : p.description.length ≠ 0
  short : p.description.length ≤ 500
  amount : p.amount = amount
  timestamp : p.dateOnly = p.occurredAt.isNone
  currency : p.currency = none
  toAmount : p.toAmount = none
  fromCategoryId : p.fromCategoryId = some donor
  toCategoryId : p.toCategoryId = some recipient
  fromAccountId : p.fromAccountId = none
  toAccountId : p.toAccountId = none
  incomeTreatment : p.incomeTreatment = none
  expectedIncomeMonth : p.expectedIncomeMonth = none

/-- A text that is not blank is not trimmed away, and stays in what it is joined to. -/
theorem joined_ne (d : Draft) (h : isBlank d.description = false) : (joined d).length ≠ 0 := by
  have htrim : trim d.description ≠ "" := by
    intro hempty
    have hnil : (d.description.toList.dropWhile isWhitespace).rdropWhile isWhitespace = [] := by
      have := congrArg String.toList hempty
      simpa [trim] using this
    have hall : ∀ c ∈ d.description.toList, isWhitespace c = true := by
      intro c hc
      rw [← List.takeWhile_append_dropWhile (p := isWhitespace) (l := d.description.toList)] at hc
      rcases List.mem_append.1 hc with hc | hc
      · exact List.mem_takeWhile_imp hc
      · exact List.rdropWhile_eq_nil_iff.1 hnil c hc
    rw [isBlank, List.all_eq_true.2 hall] at h
    cases h
  have hlength : (trim d.description).length ≠ 0 := by
    simpa [String.length_eq_zero_iff] using htrim
  rw [joined, List.filter_cons_of_pos (by simpa using htrim)]
  generalize ([trim d.note].filter fun text => text ≠ "") = more
  cases more with
  | nil => rwa [String.intercalate_singleton]
  | cons note more =>
    rw [String.intercalate_cons_cons, String.length_append, String.length_append]
    omega

theorem find_of_mem {budgets : List Category} (hids : (budgets.map (·.categoryId)).Nodup)
    {c : Category} (hc : c ∈ budgets) :
    (budgets.find? fun x => some x.categoryId = some c.categoryId) = some c := by
  cases hfound : budgets.find? fun x => some x.categoryId = some c.categoryId with
  | none => exact absurd (List.find?_eq_none.1 hfound c hc) (by simp)
  | some x =>
    have hid : x.categoryId = c.categoryId := by simpa using List.find?_some hfound
    rw [List.inj_on_of_nodup_map hids (List.mem_of_find?_eq_some hfound) hc hid]

theorem exists_bind {ε α β : Type} {x : Except ε α} {f : α → Except ε β} {a : α} (hx : x = .ok a)
    (hf : ∃ b, f a = .ok b) : ∃ b, (x >>= f) = .ok b := by
  rw [hx]
  exact hf

section
variable {device : Device} {snapshot : Snapshot} {suggestion : BalanceSuggestion} {d : Draft}
  {donor recipient : Category} {amount : Decimal}

theorem Filled.categories (h : Filled device snapshot suggestion d)
    (hids : (snapshot.budgets.map (·.categoryId)).Nodup) (hsource : suggestion.source = some donor)
    (hdestination : suggestion.destination = some recipient)
    (hmove : Move snapshot.budgets donor recipient suggestion.amount) :
    (snapshot.budgets.find? fun c => some c.categoryId = d.categoryFrom) = some donor ∧
      (snapshot.budgets.find? fun c => some c.categoryId = d.categoryTo) = some recipient := by
  rw [h.categoryFrom, h.categoryTo, hsource, hdestination]
  exact ⟨find_of_mem hids hmove.donor.1, find_of_mem hids hmove.recipient.1⟩

theorem exists_written (h : Filled device snapshot suggestion d)
    (hids : (snapshot.budgets.map (·.categoryId)).Nodup) (hsource : suggestion.source = some donor)
    (hdestination : suggestion.destination = some recipient)
    (hmove : Move snapshot.budgets donor recipient suggestion.amount)
    (hmoney : device.parseMoney d.amount = some suggestion.amount) :
    ∃ written, writeEntry device d snapshot = .ok written := by
  obtain ⟨day, hday, hend⟩ := h.date
  obtain ⟨hfrom, hto⟩ := h.categories hids hsource hdestination hmove
  have hkind : d.kind = .reallocate := h.kind
  have hendpoints : ∀ source target, checkEndpoints d day suggestion.amount (some donor)
      (some recipient) source target = .ok () := by
    intro source target
    simp only [checkEndpoints, h.kind, Except.bind_eq_ok, Except.ensure_eq_ok, exists_const]
    refine ⟨⟨rfl, rfl, ?_⟩, hend, .inr ⟨hmove.surplus, hmove.overdrawn⟩, .inr hmove.le_donor⟩
    simpa using hmove.differ
  have hamount : (device.parseMoney d.amount).filter (0 < ·) = some suggestion.amount := by
    simp [hmoney, hmove.amount_pos]
  have hcross : ¬ (d.kind = .transfer ∧ (snapshot.accounts.find? fun a => some a.id = d.accountFrom).bind
      (·.currency) ≠ (snapshot.accounts.find? fun a => some a.id = d.accountTo).bind (·.currency)) :=
    fun hk => absurd (hkind.symm.trans hk.1) (by decide)
  have hunallocated : ¬ (d.kind = .income ∧ (d.incomeTreatment = .salary ∨ d.incomeTreatment = .unexpected)) :=
    fun hk => absurd (hkind.symm.trans hk.1) (by decide)
  have hsalary : ¬ (d.kind = .income ∧ d.incomeTreatment = .salary) :=
    fun hk => absurd (hkind.symm.trans hk.1) (by decide)
  unfold writeEntry
  refine exists_bind (Except.fromOption_eq_ok.2 hamount) ?_
  refine exists_bind (a := ()) (if_pos h.described) ?_
  refine exists_bind (a := ()) (if_pos h.short) ?_
  refine exists_bind (Except.fromOption_eq_ok.2 hday) ?_
  simp only [if_neg hunallocated, if_neg hcross, if_neg hsalary, hfrom, hto]
  refine exists_bind (hendpoints _ _) ?_
  refine exists_bind (a := ()) (if_pos (.inl hcross)) ?_
  refine exists_bind (a := ()) (if_pos (by rw [h.original]; rfl)) ?_
  refine exists_bind (a := ()) (if_pos (.inl h.correctionOf)) ?_
  refine exists_bind (a := none) rfl ?_
  refine exists_bind (a := none) (by rw [h.original]; rfl) ?_
  exact ⟨_, rfl⟩

/-- An entry has the date of its form. -/
theorem written_date {written : WritePayload × Transaction}
    (h : writeEntry device d snapshot = .ok written) :
    device.parseDate d.date = some written.1.date := by
  simp only [writeEntry, Except.bind_eq_ok, Except.ensure_eq_ok, Except.fromOption_eq_ok,
    Except.pure_eq_ok, exists_const] at h
  obtain ⟨_, -, -, -, day, hday, _, -, -, -, -, _, -, _, -, rfl⟩ := h
  exact hday

/-- What a form of balancing writes. -/
theorem Filled.reallocates (h : Filled device snapshot suggestion d)
    (hids : (snapshot.budgets.map (·.categoryId)).Nodup) (hsource : suggestion.source = some donor)
    (hdestination : suggestion.destination = some recipient)
    (hmove : Move snapshot.budgets donor recipient suggestion.amount)
    {written : WritePayload × Transaction} (hwritten : writeEntry device d snapshot = .ok written)
    (hmoney : device.parseMoney d.amount = some amount) :
    Reallocates written.1 amount donor.categoryId recipient.categoryId := by
  obtain ⟨hfrom, hto⟩ := h.categories hids hsource hdestination hmove
  have hkind : d.kind = .reallocate := h.kind
  simp only [writeEntry, Except.bind_eq_ok, Except.ensure_eq_ok, Except.fromOption_eq_ok,
    Except.pure_eq_ok, exists_const] at hwritten
  obtain ⟨money, hmoney', hdescribed, hshort, day, hday, _, -, -, -, -, month, hmonth, revisions, -, rfl⟩ :=
    hwritten
  rw [hkind] at hmonth
  cases hmonth
  obtain rfl : money = amount := by
    have := Option.mem_filter_iff.1 hmoney'
    exact Option.some.inj (this.1.symm.trans hmoney)
  exact {
    kind := hkind
    date := device.date_valid _ _ hday
    described := joined_ne d hdescribed
    short := hshort
    amount := rfl
    timestamp := rfl
    currency := by simp [hkind]
    toAmount := by simp [hkind]
    fromCategoryId := by simp [hkind, hfrom]
    toCategoryId := by simp [hkind, hto]
    fromAccountId := by simp [hkind]
    toAccountId := by simp [hkind]
    incomeTreatment := by simp [hkind]
    expectedIncomeMonth := rfl }

end

/-! ## What the server checks -/

/-- The server has the budgets that the phone shows, and its account for moves between them. -/
structure Serves (db : Database) (budgets : List Category) : Prop where
  categories : ∀ c ∈ budgets, c.system = false →
    ∃ k, db.categories.lookup c.categoryId = some k ∧ k.isReal = true
  account : ∃ a, Server.loadSystemAccount db .reallocation = .ok a

/-- The form is written, and the server normalises and resolves what is written and finds its month
open. -/
def Accepted (device : Device) (db : Database) (today : Date) (snapshot : Snapshot) (d : Draft) :
    Prop :=
  ∃ written w r, writeEntry device d snapshot = .ok written ∧
    Server.normalize written.1.request = .ok w ∧ Server.resolveWrite db w = .ok r ∧
    Budget.requireOpen db today w.date.month = .ok ()

/-- The month that the form is dated in is open on the server. -/
def DatedOpen (device : Device) (db : Database) (today : Date) (d : Draft) : Prop :=
  ∃ day, device.parseDate d.date = some day ∧ Server.IsOpen db today day.month

theorem ensure_bind {ε α : Type} {q : Prop} [Decidable q] {e : ε} {f : PUnit → Except ε α} (hq : q) :
    (Except.ensure q e >>= f) = f ⟨⟩ := by
  rw [Except.ensure, if_pos hq]
  rfl

theorem Reallocates.normalized {p : WritePayload} {amount : Decimal} {donor recipient : CategoryId}
    (h : Reallocates p amount donor recipient) (hpos : 0 < amount) (hcents : amount.Within 2) :
    Server.normalize p.request = .ok p.request := by
  have hround : p.amount.roundPosted = p.amount := by
    rw [h.amount]
    exact Decimal.roundPosted_of_within hcents
  have hamount : Server.roundPositive p.amount "amount" = .ok p.amount := by
    have hnot : ¬ (p.amount = 0 ∨ p.amount.isNegative = true) := by
      rw [h.amount, Decimal.isNegative_iff]
      rintro (hzero | hneg)
      · exact hpos.ne' hzero
      · exact hneg.not_gt hpos
    rw [Server.roundPositive]
    simp only [hround]
    exact if_neg hnot
  have htimestamp : ¬ (p.dateOnly = true ∧ p.occurredAt.isSome = true) := by
    rw [h.timestamp]
    cases p.occurredAt <;> simp
  have hvalid : p.date.Valid ∧ p.description.length ≠ 0 ∧ p.description.length ≤ 500 :=
    ⟨h.date, h.described, h.short⟩
  have hkind : p.kind ≠ .reconciliation := by simp [h.kind]
  have htreatment : p.incomeTreatment ≠ some .legacy ∧
      (p.expectedIncomeMonth.all fun m => 21 ≤ m.index) = true ∧
      (p.kind = .income ∨ p.incomeTreatment = none ∧ p.expectedIncomeMonth = none) := by
    simp [h.incomeTreatment, h.expectedIncomeMonth]
  have hunallocated : ¬ (p.kind = .expense ∧ p.fromCategoryId = some UNALLOCATED ∨
      p.incomeTreatment = some .refund ∧ p.toCategoryId = some UNALLOCATED) := by
    simp [h.kind, h.incomeTreatment]
  have hincome : ¬ (p.kind = .income ∧ p.toCategoryId = none ∧ p.incomeTreatment ≠ some .refund) := by
    simp [h.kind]
  unfold Server.normalize WritePayload.request
  simp only [if_neg hincome, h.toAmount]
  rw [ensure_bind htimestamp, ensure_bind hvalid, ensure_bind hkind, hamount]
  show (Except.ensure _ _ >>= _) = _
  rw [ensure_bind htreatment, ensure_bind hunallocated]
  rfl

theorem Reallocates.resolved {p : WritePayload} {amount : Decimal} {donor recipient : CategoryId}
    (h : Reallocates p amount donor recipient) (hne : donor ≠ recipient) {db : Database}
    (hdonor : ∃ k, db.categories.lookup donor = some k ∧ k.isReal = true)
    (hrecipient : ∃ k, db.categories.lookup recipient = some k ∧ k.isReal = true)
    (haccount : ∃ a, Server.loadSystemAccount db .reallocation = .ok a) :
    ∃ r, Server.resolveWrite db p.request = .ok r := by
  obtain ⟨account, haccount⟩ := haccount
  have hcategory : ∀ {id}, (∃ k, db.categories.lookup id = some k ∧ k.isReal = true) →
      Server.loadUserCategory db id = .ok id := by
    rintro id ⟨k, hk, hreal⟩
    simp only [Server.loadUserCategory, hk]
    exact ensure_bind hreal
  have hkind : p.request.kind = .reallocate := h.kind
  have hsides : p.request.fromAccountId = none ∧ p.request.toAccountId = none ∧
      p.request.currency = none ∧ p.request.toAmount = none :=
    ⟨h.fromAccountId, h.toAccountId, h.currency, h.toAmount⟩
  have hendpoints : Server.resolveEndpoints db p.request
      = .ok ⟨account, account, donor, recipient⟩ := by
    unfold Server.resolveEndpoints
    simp only [hkind]
    rw [ensure_bind hsides, show p.request.fromCategoryId = some donor from h.fromCategoryId,
      show p.request.toCategoryId = some recipient from h.toCategoryId]
    show (Except.ensure (donor ≠ recipient) _ >>= _) = _
    rw [ensure_bind hne, hcategory hdonor, hcategory hrecipient, haccount]
    rfl
  have hcurrency : ¬ (p.request.kind = .reallocate ∧
      p.request.currency.getD (Server.defaultInputCurrency p.request.kind account.currency
        account.currency) ≠ .eur) := by
    rw [hsides.2.2.1, hkind]
    simp [Server.defaultInputCurrency]
  unfold Server.resolveWrite
  rw [hendpoints]
  show ∃ r, (Except.ensure _ _ >>= _) = Except.ok r
  rw [ensure_bind hcurrency]
  refine exists_bind (a := ()) (if_pos ?_) ⟨_, rfl⟩
  simp [hkind]

/-! ## Saving a suggestion -/

section
variable {device : Device} {db : Database} {today : Date} {snapshot : Snapshot}
  {suggestion : BalanceSuggestion} {d : Draft}

/-- Nothing else is read from the plain string. -/
theorem inCents_of_accepted (h : Filled device.readsMoney snapshot suggestion d)
    (haccepted : Accepted device.readsMoney db today snapshot d) : InCents suggestion.amount := by
  obtain ⟨written, w, r, hwritten, -⟩ := haccepted
  simp only [writeEntry, Except.bind_eq_ok, Except.fromOption_eq_ok] at hwritten
  obtain ⟨money, hmoney, -⟩ := hwritten
  have hread : Amounts.parseMoney d.amount.toList = some money := (Option.mem_filter_iff.1 hmoney).1
  exact ((parseMoney_plain h.amount).1 hread).2

/-- **A suggested move can be saved exactly when the smaller of the two balances is in cents**, and
not above the largest amount that the phone reads, and the month of the form's date is open. -/
theorem offered_accepted_iff (hids : (snapshot.budgets.map (·.categoryId)).Nodup)
    (hserves : Serves db snapshot.budgets)
    (h : Offered device.readsMoney snapshot suggestion d) (hpos : 0 < suggestion.amount) :
    ∃ donor recipient, suggestion.source = some donor ∧ suggestion.destination = some recipient ∧
      (Accepted device.readsMoney db today snapshot d ↔
        InCents (min donor.remaining (-recipient.remaining)) ∧ DatedOpen device db today d) := by
  have hfilled := h.filled
  obtain ⟨givenDonor, givenRecipient, hsuggestion⟩ := hfilled.suggested
  rcases @suggestBalance_spec _ givenDonor givenRecipient hids with
    ⟨donor, recipient, hs, hd, hmove⟩ | ⟨-, hzero, -⟩
  · rw [← hsuggestion] at hs hd hmove
    refine ⟨donor, recipient, hs, hd, ?_⟩
    rw [← hmove.amount]
    -- in cents the form is written, and the server takes what is written as it is
    have hwrites : InCents suggestion.amount → ∃ written r,
        writeEntry device.readsMoney d snapshot = .ok written ∧
        Server.normalize written.1.request = .ok written.1.request ∧
        Server.resolveWrite db written.1.request = .ok r := by
      intro hcents
      have hmoney : device.readsMoney.parseMoney d.amount = some suggestion.amount :=
        (parseMoney_plain hfilled.amount).2 ⟨rfl, hcents⟩
      obtain ⟨written, hwritten⟩ := exists_written hfilled hids hs hd hmove hmoney
      have hpayload := hfilled.reallocates hids hs hd hmove hwritten hmoney
      obtain ⟨r, hr⟩ := hpayload.resolved hmove.differ
        (hserves.categories donor hmove.donor.1 hmove.donor.2)
        (hserves.categories recipient hmove.recipient.1 hmove.recipient.2) hserves.account
      exact ⟨written, r, hwritten, hpayload.normalized hpos hcents.1, hr⟩
    constructor
    · intro haccepted
      have hcents := inCents_of_accepted hfilled haccepted
      obtain ⟨written, w, _, hwritten, hw, _, hopen⟩ := haccepted
      obtain ⟨written', _, hwritten', hw', _⟩ := hwrites hcents
      obtain rfl := Except.ok.inj (hwritten.symm.trans hwritten')
      obtain rfl := Except.ok.inj (hw.symm.trans hw')
      have hdate := written_date hwritten
      exact ⟨hcents, _, hdate, Server.requireOpen_iff.1 hopen⟩
    · rintro ⟨hcents, day, hday, hopen⟩
      obtain ⟨written, r, hwritten, hw, hr⟩ := hwrites hcents
      have hdate := written_date hwritten
      obtain rfl := Option.some.inj (hday.symm.trans hdate)
      exact ⟨written, _, r, hwritten, hw, hr, Server.requireOpen_iff.2 hopen⟩
  · rw [hsuggestion, hzero] at hpos
    exact absurd hpos (lt_irrefl _)

end

/-! ### A surplus with many decimals -/

theorem october_valid (text : String) (date : Date)
    (h : (if text = "2026-10-31" then some (⟨.of 2026 10, 31⟩ : Date) else none) = some date) :
    date.Valid := by
  split at h
  · cases h
    decide
  · cases h

/-- A phone in November, and the date that it fills in. -/
def inNovember : Device where
  today := ⟨.of 2026 11, 1⟩
  now := 0
  operationId := 1
  transactionId := 1
  parseMoney _ := none
  parseDate text := if text = "2026-10-31" then some ⟨.of 2026 10, 31⟩ else none
  parseMonth _ := none
  money_within _ _ h := nomatch h
  date_valid := october_valid

/-- One budget has this much left, and the other is far overdrawn. -/
def surplus (remaining : Decimal) : Snapshot where
  budgetMonth := .of 2026 10
  transactionCount := 0
  recentTransactions := []
  budgets := [⟨1, "Hanna", none, some remaining⟩, ⟨6, "Travel", none, some (-7000)⟩]
  accounts := []

def withTravel : Database :=
  { Server.household 0 with
    categories := Server.tableOf [(1, ⟨⟨.other 1, 0⟩, true, 1⟩), (6, ⟨⟨.other 6, 0⟩, true, 6⟩)] }

theorem serves_surplus (remaining : Decimal) : Serves withTravel (surplus remaining).budgets where
  categories c hc _ := by
    simp only [surplus, List.mem_cons, List.not_mem_nil, or_false] at hc
    rcases hc with rfl | rfl
    · show ∃ k, withTravel.categories.lookup 1 = some k ∧ k.isReal = true
      exact ⟨⟨⟨.other 1, 0⟩, true, 1⟩, by decide +kernel, rfl⟩
    · show ∃ k, withTravel.categories.lookup 6 = some k ∧ k.isReal = true
      exact ⟨⟨⟨.other 6, 0⟩, true, 6⟩, by decide +kernel, rfl⟩
  account := ⟨⟨4, .eur, false, true⟩, by decide +kernel⟩

theorem october_open : Server.IsOpen withTravel ⟨.of 2026 11, 1⟩ (.of 2026 10) :=
  ⟨by decide, ⟨.of 2026 10, by decide +kernel, le_rfl⟩, by decide, by decide +kernel⟩

/-- `25.50` can be saved. -/
theorem offered_accepted_cents :
    Accepted inNovember.readsMoney withTravel ⟨.of 2026 11, 1⟩ (surplus (.normalized 255 1))
      (balancingDraft (surplus (.normalized 255 1)) "2026-11-01" "25.50" "2026-10-31"
        (suggestBalance (surplus (.normalized 255 1)).budgets none none)) := by
  have hplain : PlainString "25.50".toList
      (suggestBalance (surplus (.normalized 255 1)).budgets none none).amount :=
    ⟨['2', '5'], ['5', '0'], ⟨by decide, by decide⟩, List.all_eq_true.1 rfl, by decide,
      by decide +kernel⟩
  have hsource : (suggestBalance (surplus (.normalized 255 1)).budgets none none).source
      = some ⟨1, "Hanna", none, some (.normalized 255 1)⟩ := by decide +kernel
  have hdestination : (suggestBalance (surplus (.normalized 255 1)).budgets none none).destination
      = some ⟨6, "Travel", none, some (-7000)⟩ := by decide +kernel
  have hoffered : Offered inNovember.readsMoney (surplus (.normalized 255 1)) _
      (balancingDraft _ "2026-11-01" _ "2026-10-31" _) :=
    .first rfl hplain ⟨⟨.of 2026 10, 31⟩, by decide, by decide⟩
  obtain ⟨donor, recipient, hs, hd, hiff⟩ := @offered_accepted_iff _ _ ⟨.of 2026 11, 1⟩ _ _ _
    (by decide) (serves_surplus _) hoffered (by decide +kernel)
  obtain rfl := Option.some.inj (hsource.symm.trans hs)
  obtain rfl := Option.some.inj (hdestination.symm.trans hd)
  exact hiff.2 ⟨⟨by decide +kernel, by decide +kernel⟩, ⟨.of 2026 10, 31⟩, by decide, october_open⟩

/-- The balance that an import leaves in a test of the server: `6045.300512973243` cannot, though the
month is open. -/
theorem refused_suggestion :
    ¬ ∀ (device : Device) (db : Database) (today : Date) (snapshot : Snapshot)
      (suggestion : BalanceSuggestion) (d : Draft), (snapshot.budgets.map (·.categoryId)).Nodup →
      Serves db snapshot.budgets → Offered device.readsMoney snapshot suggestion d →
      0 < suggestion.amount → DatedOpen device db today d →
      Accepted device.readsMoney db today snapshot d := by
  intro h
  have hplain : PlainString "6045.300512973243".toList
      (suggestBalance (surplus (.normalized 6045300512973243 12)).budgets none none).amount :=
    ⟨['6', '0', '4', '5'], ['3', '0', '0', '5', '1', '2', '9', '7', '3', '2', '4', '3'],
      ⟨by decide, by decide⟩, List.all_eq_true.1 rfl, by decide, by decide +kernel⟩
  have hoffered : Offered inNovember.readsMoney (surplus (.normalized 6045300512973243 12)) _
      (balancingDraft _ "2026-11-01" _ "2026-10-31" _) :=
    .first rfl hplain ⟨⟨.of 2026 10, 31⟩, by decide, by decide⟩
  have haccepted := h inNovember withTravel ⟨.of 2026 11, 1⟩ _ _ _ (by decide) (serves_surplus _)
    hoffered (by decide +kernel) ⟨⟨.of 2026 10, 31⟩, by decide, october_open⟩
  have hwithin := (inCents_of_accepted hoffered.filled haccepted).1
  revert hwithin
  decide +kernel

end Entry
