import Presto.MonthText
import Presto.Refunds

/-!
# Months of expectations

The ledger compares, stores and enumerates months as text. A `Month` is such a text, numbered in the
order of the texts (`text_lt`); the calendar months are the ones in digits. While every call names
calendar months only, every expectation has one of its own.
-/

namespace Month

open MonthText TargetDays

/-- The second part of the text: slots `0 .. 8` have a sign. -/
def slotText (slot : Nat) : List Char :=
  if slot < 9 then spell true 2 (slot + 1) else spell false 2 (slot - 8)

/-- The text of a month, its parts as they are spelled. -/
theorem toList_text (m : Month) :
    m.text.toList = padded 4 m.year ++ '-' :: slotText (m.index % 21) := by
  have hzeros : ∀ n, (String.join (List.replicate n "0")).toList = List.replicate n '0' := by
    intro n
    induction n with
    | zero => rfl
    | succ n ih => rw [List.replicate_succ, String.join_cons, String.toList_append, ih]; rfl
  have hdigits : (toString m.year).toList = Nat.toDigits 10 m.year := Nat.toList_repr
  have hlength : (toString m.year).length = (Nat.toDigits 10 m.year).length := by
    rw [← String.length_toList, hdigits]
  have hslot : ∀ slot : Fin 21, (if slot.val < 9 then "+" ++ toString (slot.val + 1)
      else if slot.val < 18 then "0" ++ toString (slot.val - 8) else toString (slot.val - 8)).toList
        = slotText slot := by decide +kernel
  have hslot' := hslot ⟨m.index % 21, Nat.mod_lt _ (by decide)⟩
  unfold text
  simp only [String.toList_append, hzeros, hdigits, hlength]
  rw [hslot', padded_natCast, List.append_assoc]
  rfl

theorem slotText_lt : ∀ a b : Fin 21, slotText a < slotText b ↔ a < b := by decide +kernel

theorem slotText_spelled : ∀ slot : Fin 21, ∃ sign month, (1 ≤ month ∧ month ≤ 12 ∧
    month < 10 ^ (2 - sign.toNat) ∧ slotText slot = spell sign 2 month) ∧
    (sign = false ↔ 9 ≤ slot.val) := by
  intro slot
  unfold slotText
  have hlt := slot.isLt
  by_cases h : slot.val < 9
  · refine ⟨true, slot + 1, ⟨by omega, by omega, show slot.val + 1 < 10 by omega, if_pos h⟩, ?_⟩
    exact iff_of_false (by decide) (not_le.2 h)
  · refine ⟨false, slot - 8, ⟨by omega, by omega, show slot.val - 8 < 100 by omega, if_neg h⟩, ?_⟩
    exact iff_of_true rfl (not_lt.1 h)

variable {m n : Month}

theorem text_spelled (hpos : 1 ≤ m.year) (hyear : m.year ≤ 9999) :
    ∃ sign, MonthSpelled false sign m.text ∧ (sign = false ↔ m.Calendar) := by
  obtain ⟨sign, month, ⟨hlo, hhi, hfits, htext⟩, hsign⟩ :=
    slotText_spelled ⟨m.index % 21, Nat.mod_lt _ (by decide)⟩
  have hyears : Fits false 4 m.year := show m.year < 10 ^ 4 by omega
  refine ⟨sign, ⟨m.year, month, hpos, hlo, hhi, hyears, hfits, ?_⟩, hsign⟩
  rw [← String.ofList_toList (s := m.text), toList_text]
  exact congrArg (fun rest => String.ofList (padded 4 m.year ++ '-' :: rest)) htext

/-- Every month is accepted; the calendar months are those in digits. -/
theorem validMonth_text (hpos : 1 ≤ m.year) (hyear : m.year ≤ 9999) :
    validMonth m.text = true ∧ (CanonicalMonth m.text ↔ m.Calendar) := by
  obtain ⟨sign, hspelled, hsign⟩ := text_spelled hpos hyear
  refine ⟨(validMonth_iff _).2 ⟨_, _, hspelled⟩, ?_⟩
  rw [canonicalMonth_iff, ← hsign]
  constructor
  · intro hcanonical
    by_contra hne
    rw [Bool.not_eq_false] at hne
    have hplus := hspelled.plus.2 (by rw [hne]; rfl)
    exact Bool.false_ne_true (hcanonical.plus.1 hplus)
  · rintro rfl
    exact hspelled

/-- **The order of the numbers is the order of the texts.** -/
theorem text_lt (hm : m.year ≤ 9999) (hn : n.year ≤ 9999) : m.text < n.text ↔ m < n := by
  have hlen : (padded 4 m.year).length = (padded 4 n.year).length :=
    (length_padded (by decide) (by omega)).trans (length_padded (by decide) (by omega)).symm
  have hslots := slotText_lt ⟨m.index % 21, Nat.mod_lt _ (by decide)⟩
    ⟨n.index % 21, Nat.mod_lt _ (by decide)⟩
  rw [String.lt_iff, toList_text, toList_text,
    Text.append_lt_append hlen, padded_lt_padded (by decide) (by omega) (by omega), padded_inj,
    List.cons_lt_cons_self, hslots, lt_iff, Fin.lt_def]
  unfold year
  simp only
  omega

/-- Calendar months differ in their year or their number. -/
theorem calendar_inj (hm : m.Calendar) (hn : n.Calendar) (hyear : m.year = n.year)
    (hnumber : m.number = n.number) : m = n := by
  rw [← index_inj]
  unfold Calendar year number at *
  simp only at hnumber
  split at hnumber <;> split at hnumber <;> omega

end Month

namespace Server

open Budget BudgetLedger

variable {today : Date} {db db' : Database}

/-- The call, if it is accepted, names no expectation by a month that is not in digits. -/
def NamesCalendarMonths (db : Database) (call : Call) : Prop :=
  (handle db call).isOk = true → match call.request with
    | .create p => ∀ m, p.expectedIncomeMonth = some m → m.Calendar
    | .edit p => ∀ m, p.transaction.expectedIncomeMonth = some m → m.Calendar
    | _ => True

/-- The ledger starts in a calendar month and expects income in calendar months only. -/
structure CalendarPlans (db : Database) : Prop where
  start : ∀ m, db.start = some m → m.Calendar
  plans : ∀ m p, db.planIncome.lookup m = some p → m.Calendar

theorem CalendarPlans.of_eq (h : CalendarPlans db) (hstart : db'.start = db.start)
    (hplans : db'.planIncome = db.planIncome) : CalendarPlans db' :=
  ⟨fun m hm => h.start m (hstart ▸ hm), fun m p hp => h.plans m p (hplans ▸ hp)⟩

theorem CalendarPlans.ensureIncome (h : CalendarPlans db) {m : Month} (hm : m.Calendar)
    (he : BudgetLedger.ensureIncome db m = .ok db') : CalendarPlans db' := by
  obtain ⟨P, rfl, _, _, hP⟩ := ensureIncome_ok he
  refine ⟨h.start, fun m' p hp => ?_⟩
  rcases hP m' p hp with hold | ⟨rfl, _⟩
  · exact h.plans m' p hold
  · exact hm

/-- `sync` adds expectations for the calendar months since the start. -/
theorem CalendarPlans.sync (h : CalendarPlans db) {operation : Option OperationId}
    (hs : sync db today operation = .ok db') : CalendarPlans db' := by
  refine sync_walked (I := CalendarPlans) (fun x x' m hm he hx => ?_) (fun x t x' hm _ hx => ?_) hs h
  · obtain ⟨start, hstart, hwalk⟩ := hm
    exact hx.ensureIncome ((Month.mem_through (h.start start hstart)).1 hwalk).1 he
  · obtain ⟨M, rfl⟩ := movement_frame hm
    exact hx.of_eq rfl rfl

/-- A receipt adds an expectation for the month it names, or for its own. -/
theorem CalendarPlans.receipt (h : CalendarPlans db) {id : TransactionId}
    {treatment : Option Treatment} {expected : Option Month} {t : Transaction}
    (hr : ReceiptWritten db id treatment expected db') (ht : db.transactions.lookup id = some t)
    (hmonth : t.month.Calendar) (hexpected : ∀ m, expected = some m → m.Calendar) :
    CalendarPlans db' := by
  cases hr with
  | salary _ ht' _ _ _ _ _ hensure _ _ =>
    obtain rfl := Option.some.inj (ht.symm.trans ht')
    refine (h.ensureIncome ?_ hensure).of_eq rfl rfl
    cases expected with
    | none => exact hmonth
    | some m => exact hexpected m rfl
  | _ => exact h.of_eq rfl rfl

theorem keptBy_calendarPlans {call : Call} (db₀ : Database) (htoday : call.clock.today.Valid)
    (hok : (handle db₀ call).isOk = true) (hcall : NamesCalendarMonths db₀ call) : KeptBy db₀ call CalendarPlans where
  budget _ _ _ h := h.of_eq rfl rfl
  log _ _ h := h.of_eq rfl rfl
  sync hs h := h.sync hs
  created {p w db db₁ db₂ db' r v occurredAt accounts cs} hrequest hn _ _ hc h := by
    obtain ⟨_, A, hA⟩ := postDeltas_changes hc.posted
    have hrow : db₁.transactions.lookup w.transactionId
        = some (writtenTransaction w r occurredAt 1 [storedValuation 1 v]) := by
      rw [hA]
      exact AList.lookup_insert _
    refine (h.of_eq (by rw [hA]; rfl) (by rw [hA]; rfl)).receipt hc.receipt hrow
      (normalize_date hn).1 fun m hm => ?_
    rw [(normalized_of_ok hn).expected] at hm
    replace hcall := hcall hok
    rw [hrequest] at hcall
    exact hcall m hm
  edited {p payload old db db₁ db₂ db₃ r stored valuations _ _ occurredAt _ _} hrequest hn _ he h := by
    obtain ⟨_, A, hA⟩ := postDeltas_changes he.posted
    have hrow : db₁.transactions.lookup payload.transaction.transactionId = some (writtenTransaction
        payload.transaction r occurredAt (old.revision + 1) valuations) := by
      rw [hA]
      exact AList.lookup_insert _
    refine (h.of_eq (by rw [hA]; rfl) (by rw [hA])).receipt he.receipt hrow (normalize_date hn).1
      fun m hm => ?_
    rw [(normalized_of_ok hn).expected] at hm
    replace hcall := hcall hok
    rw [hrequest] at hcall
    exact hcall m hm
  deleted _ _ hd h := by
    obtain ⟨_, A, hA⟩ := postDeltas_changes hd.posted
    exact h.of_eq (by rw [hA]; rfl) (by rw [hA]; rfl)
  reconciled hdate hb h := by
    obtain ⟨T, R, A, B, hdb⟩ := reconcileBody_frame hb hdate
    exact h.of_eq (by rw [hdb]; rfl) (by rw [hdb])
  corrected _ _ h := h.of_eq rfl rfl
  completed {db m p} _ _ _ hp h := by
    refine ⟨h.start, fun m' q hq => ?_⟩
    change AList.lookup m' (db.planIncome.insert m _) = _ at hq
    rw [AList.lookup_insert_of] at hq
    split at hq
    · rename_i he
      exact he ▸ h.plans m p hp
    · exact h.plans m' q hq
  closed _ _ hclosed h := by
    have hdb := hclosed.result
    exact h.of_eq (by rw [hdb]; rfl) (by rw [hdb]; rfl)
  incomes {p db s P} _ _ hP h := by
    refine ⟨h.start, fun m q hq => ?_⟩
    by_cases hm : m ∈ refreshedMonths db p.effectiveStartMonth
    · obtain ⟨row, hrow, _⟩ := mem_refreshedMonths.1 hm
      exact h.plans m row hrow
    · exact h.plans m q ((hP.others m hm).symm.trans hq)
  activated {db _ _ _ _ _ _ _} _ ha h := by
    have hmonth : call.clock.today.month.Calendar := htoday.1
    refine ⟨fun m hm => ?_, fun m p hp => ?_⟩
    · obtain rfl : call.clock.today.month = m := Option.some.inj hm
      exact hmonth
    · change AList.lookup m (db.planIncome.insert call.clock.today.month _) = _ at hp
      rw [AList.lookup_insert_of] at hp
      split at hp
      · rename_i he
        exact he ▸ hmonth
      · exact h.plans m p hp

theorem Imported.calendarPlans (h : Imported today db) : CalendarPlans db where
  start m hm := by simp [Database.start, h.ledgerState] at hm
  plans m p hp := by simp [h.planIncome] at hp

/-- While calls name calendar months, expectations are those of calendar months. -/
theorem run_calendarPlans {d₀ : Date} {db₀ : Database} (himp : Imported d₀ db₀)
    (hrun : RunWhere NamesCalendarMonths d₀ db₀ today db) :
    Sound today db ∧ CalendarPlans db :=
  hrun.induct (I := fun d x => Sound d x ∧ CalendarPlans x) ⟨himp.sound, himp.calendarPlans⟩
    fun _ x call _ hv hle hcall hs => by
      have hl := hs.1.later hv hle
      refine ⟨(step_changes call hl).sound hl, ?_⟩
      unfold Server.step
      split
      · rename_i x' response h
        have hok : (handle x call).isOk = true := by
          rw [h]
          rfl
        exact handle_kept (keptBy_calendarPlans x hv hok hcall) h hl hs.2
      · exact hs.2

/-- The expectation that a receipt adds is that of the month it names, from the ledger start to the
month of the receipt. -/
theorem receipt_adds {id : TransactionId} {treatment : Option Treatment} {expected : Option Month}
    {t : Transaction} {m : Month} (h : receipt db id treatment expected = .ok db')
    (ht : db.transactions.lookup id = some t) (hnew : db.planIncome.lookup m = none)
    (hrow : (db'.planIncome.lookup m).isSome = true) :
    m = expected.getD t.month ∧ m ≤ t.month ∧ ∃ start, db.start = some start ∧ start ≤ m := by
  obtain ⟨p, hp⟩ := Option.isSome_iff_exists.1 hrow
  have hsame : db'.planIncome = db.planIncome → False := by
    intro heq
    rw [heq, hnew] at hp
    cases hp
  cases receipt_ok h with
  | salary hstart ht' _ _ _ hle hs hensure _ _ =>
    obtain rfl := Option.some.inj (ht.symm.trans ht')
    obtain ⟨P, rfl, _, _, hP⟩ := ensureIncome_ok hensure
    rcases hP m p hp with hold | ⟨rfl, _⟩
    · rw [hnew] at hold
      cases hold
    · exact ⟨rfl, hle, _, hstart, hs⟩
  | _ => exact (hsame rfl).elim

/-! ## Texts and runs -/

open MonthText Gregorian TargetDays in
/-- **The months and dates of the server.** A text is accepted for what it is, and runs keep one
expectation a month, exactly where no sign is written. -/
theorem months_canonical_iff (s t : String) :
    (MonthsCanonical s t ↔ ¬ SignedMonth s ∧ ¬ SignedMonth t) ∧
    (DatesCanonical s t ↔ ¬ SignedDate s ∧ ¬ SignedDate t) ∧
    (∀ m : Month, 1 ≤ m.year → m.year ≤ 9999 →
      MonthText.validMonth m.text = true ∧ (CanonicalMonth m.text ↔ m.Calendar)) ∧
    (∀ d₀ db₀ today db, Imported d₀ db₀ →
      RunWhere NamesCalendarMonths d₀ db₀ today db →
      (∀ m, (db.planIncome.lookup m).isSome = true →
        m.Calendar ∧ ∃ start, db.start = some start ∧ start ≤ m) ∧
      ∀ m n, (db.planIncome.lookup m).isSome = true → (db.planIncome.lookup n).isSome = true →
        m.year = n.year → m.number = n.number → m = n) ∧
    (∀ (db db' : Database) id treatment expected t m, receipt db id treatment expected = .ok db' →
      db.transactions.lookup id = some t → t.effectiveDate.Valid →
      (∀ e, expected = some e → e.Calendar) →
      db.planIncome.lookup m = none → (db'.planIncome.lookup m).isSome = true →
      m.Calendar ∧ m ≤ t.month ∧ ∃ start, db.start = some start ∧ start ≤ m) := by
  refine ⟨monthsCanonical_iff s t, datesCanonical_iff s t, fun m => Month.validMonth_text, ?_, ?_⟩
  · intro d₀ db₀ today db himp hrun
    obtain ⟨hsound, hplans⟩ := run_calendarPlans himp hrun
    have hcalendar : ∀ m, (db.planIncome.lookup m).isSome = true → m.Calendar := by
      intro m hm
      obtain ⟨p, hp⟩ := Option.isSome_iff_exists.1 hm
      exact hplans.plans m p hp
    exact ⟨fun m hm => ⟨hcalendar m hm, (hsound.plans m hm).2⟩,
      fun m n hm hn => Month.calendar_inj (hcalendar m hm) (hcalendar n hn)⟩
  · intro db db' id treatment expected t m h ht hvalid hexpected hnew hrow
    obtain ⟨rfl, hle, hstart⟩ := receipt_adds h ht hnew hrow
    refine ⟨?_, hle, hstart⟩
    cases expected with
    | none => exact hvalid.1
    | some e => exact hexpected e rfl

def january : Month := .of 2027 1

/-- The salary of January, for the expectation of a month. -/
def salaryOf (expected : Month) : Call := callOn january 9 (.create
  { earn 12 7 ⟨january, 8⟩ 100 (some .salary) with expectedIncomeMonth := some expected })

/-- A salary for December leaves expectations of calendar months. -/
theorem months_canonical_iff_december :
    ∀ m, ((run (household 1000) (opened ++ [salaryOf december])).planIncome.lookup m).isSome = true →
      m.Calendar := by
  obtain ⟨-, -, -, hruns, -⟩ := months_canonical_iff "2026-12" "2027-01"
  have hnamed : AllHold NamesCalendarMonths (household 1000) (opened ++ [salaryOf december]) := by
    refine ⟨fun _ => trivial, fun _ => trivial, fun _ m hm => ?_, trivial⟩
    obtain rfl : december = m := Option.some.inj hm
    decide
  intro m hm
  exact ((hruns _ _ _ _ (household_imported 1000) (runWhere_of_chronological (.refl _ _)
    (by decide : Chronological ⟨october, 1⟩ (opened ++ [salaryOf december])) hnamed)).1 m hm).1

/-- `2027-+1` is accepted, and becomes a second expectation of January. -/
theorem months_signed :
    MonthText.validMonth "2027-+1" = true ∧ ¬ MonthText.CanonicalMonth "2027-+1" ∧
    ∃ today db, Reachable today db ∧ ∃ m n, m ≠ n ∧ m.text = "2027-+1" ∧ n.text = "2027-01" ∧
      (db.planIncome.lookup m).isSome = true ∧ (db.planIncome.lookup n).isSome = true ∧
      m.year = n.year ∧ m.number = n.number := by
  have hsigned : MonthText.SignedMonth "2027-+1" :=
    ⟨false, true, rfl, 2027, 1, by decide, by decide, by decide, by decide, by decide, by decide +kernel⟩
  exact ⟨by decide +kernel, MonthText.not_canonicalMonth hsigned, ⟨january, 9⟩,
    run (household 1000) (opened ++ [salaryOf ⟨21 * 2027⟩]),
    household_reachable 1000 (by decide : Chronological _ (opened ++ [salaryOf ⟨21 * 2027⟩])),
    ⟨21 * 2027⟩, january, by decide, by decide +kernel, by decide +kernel, by decide +kernel,
    by decide +kernel, by decide, by decide⟩

end Server
