import Mathlib.Data.List.Basic
import Mathlib.Data.List.Nodup
import Mathlib.Data.Prod.Lex
import Mathlib.Order.Lattice
import Mathlib.Order.Basic

/-!
# Months and dates

Months are compared as text (`YYYY-MM`), and so are dates. `valid_month` (`server.rs:5937`) parses
the month part as a number, and a number may carry a sign: besides `01` .. `12` it accepts `+1` ..
`+9`. Such a month sorts after every month of the year before and before `01` of its own year. A
month is therefore numbered `21 * year + slot`, with slots `0 .. 8` for `+1` .. `+9` and slots
`9 .. 20` for `01` .. `12`; the order of the numbers is the order of the texts.
-/

/-- A text that `valid_month` accepts. -/
structure Month where
  index : Nat
deriving DecidableEq

namespace Month

instance : LinearOrder Month := LinearOrder.lift' index fun a b h => by cases a; cases b; simp_all

theorem le_iff {a b : Month} : a ≤ b ↔ a.index ≤ b.index := Iff.rfl

theorem lt_iff {a b : Month} : a < b ↔ a.index < b.index := Iff.rfl

theorem index_inj {a b : Month} : a.index = b.index ↔ a = b :=
  ⟨fun h => by cases a; cases b; simp_all, fun h => h ▸ rfl⟩

/-- A month in canonical text, the only ones a date can lie in. -/
def Calendar (m : Month) : Prop := 9 ≤ m.index % 21

instance (m : Month) : Decidable m.Calendar := inferInstanceAs (Decidable (9 ≤ m.index % 21))

def year (m : Month) : Nat := m.index / 21

/-- `1 .. 12`, as the month part is parsed: a sign does not count. -/
def number (m : Month) : Nat :=
  let slot := m.index % 21
  if slot < 9 then slot + 1 else slot - 8

/-- The month `number` of a year. -/
def of (year number : Nat) : Month := ⟨21 * year + number + 8⟩

/-- `next` (`budget_ledger.rs:26`) and `next_month` (`budget.rs:27`). -/
def next (m : Month) : Month := if m.index % 21 = 20 then ⟨m.index + 10⟩ else ⟨m.index + 1⟩

/-- The calendar month before, `checked_sub_months(1)`. -/
def previous (m : Month) : Month := if m.index % 21 = 9 then ⟨m.index - 10⟩ else ⟨m.index - 1⟩

/-- `last_day_of_month` (`server.rs:5950`). -/
def lastDay (m : Month) : Nat :=
  match m.number with
  | 1 | 3 | 5 | 7 | 8 | 10 | 12 => 31
  | 4 | 6 | 9 | 11 => 30
  | _ => if m.year % 400 = 0 ∨ (m.year % 4 = 0 ∧ m.year % 100 ≠ 0) then 29 else 28

theorem lt_next (m : Month) : m < m.next := by
  rw [lt_iff, next]
  split <;> simp

theorem calendar_next {m : Month} (h : m.Calendar) : m.next.Calendar := by
  unfold next Calendar at *
  split <;> simp only <;> omega

/-- No calendar month lies between a month and the next. -/
theorem next_le {m n : Month} (hn : n.Calendar) (h : m < n) : m.next ≤ n := by
  rw [lt_iff] at h
  rw [le_iff]
  unfold next Calendar at *
  split <;> simp only <;> omega

theorem lt_next_iff {m n : Month} (hn : n.Calendar) : n < m.next ↔ n ≤ m :=
  ⟨fun h => not_lt.1 fun h' => absurd (next_le hn h') (not_le.2 h),
    fun h => lt_of_le_of_lt h (lt_next m)⟩

/-- The month before a calendar month is the latest calendar month before it. -/
theorem previous_spec {m n : Month} (hm : m.Calendar) (hn : n.Calendar) (h : n < m) :
    m.previous.Calendar ∧ n ≤ m.previous ∧ m.previous < m := by
  rw [le_iff, lt_iff] at *
  unfold previous Calendar at *
  split <;> simp only at * <;> omega

theorem previous_lt {m : Month} (h : m.Calendar) : m.previous < m := by
  rw [lt_iff]
  unfold previous Calendar at *
  split <;> simp only <;> omega

/-- The walk `cursor, next(cursor), ..` of at most `fuel` steps. -/
def walk : Nat → Month → Month → List Month
  | 0, _, _ => []
  | fuel + 1, cursor, last => if cursor ≤ last then cursor :: walk fuel cursor.next last else []

/-- `while cursor <= last { ..; cursor = next(cursor) }`. Every step moves the number up by at
least one, so `last + 1 - first` steps are enough. -/
def through (first last : Month) : List Month := walk (last.index + 1 - first.index) first last

theorem mem_walk {fuel : Nat} : ∀ {first last m : Month}, first.Calendar →
    last.index + 1 - first.index ≤ fuel →
    (m ∈ walk fuel first last ↔ m.Calendar ∧ first ≤ m ∧ m ≤ last) := by
  induction fuel with
  | zero =>
    intro first last m _ hf
    simp only [walk, List.not_mem_nil, false_iff, le_iff]
    omega
  | succ fuel ih =>
    intro first last m hc hf
    have hlt := lt_iff.1 (lt_next first)
    unfold walk
    split
    · rw [List.mem_cons, ih (calendar_next hc) (by omega)]
      constructor
      · rintro (rfl | ⟨h1, h2, h3⟩)
        · exact ⟨hc, le_rfl, by assumption⟩
        · exact ⟨h1, (lt_next first).le.trans h2, h3⟩
      · rintro ⟨h1, h2, h3⟩
        rcases h2.eq_or_lt with h | h
        · exact .inl h.symm
        · exact .inr ⟨h1, next_le h1 h, h3⟩
    · rename_i h
      simp only [List.not_mem_nil, false_iff]
      rintro ⟨_, h2, h3⟩
      exact h (h2.trans h3)

/-- The walk visits exactly the calendar months of the range. -/
theorem mem_through {first last m : Month} (hc : first.Calendar) :
    m ∈ through first last ↔ m.Calendar ∧ first ≤ m ∧ m ≤ last :=
  mem_walk hc le_rfl

theorem walk_sorted {fuel : Nat} : ∀ {first last : Month},
    (walk fuel first last).Pairwise (· < ·) ∧ ∀ m ∈ walk fuel first last, first ≤ m := by
  induction fuel with
  | zero => intro first last; simp [walk]
  | succ fuel ih =>
    intro first last
    unfold walk
    split
    · obtain ⟨hp, hle⟩ := @ih first.next last
      have hlt := lt_next first
      refine ⟨List.pairwise_cons.2 ⟨fun m hm => lt_of_lt_of_le hlt (hle m hm), hp⟩, fun m hm => ?_⟩
      rcases List.mem_cons.1 hm with rfl | hm
      · exact le_rfl
      · exact hlt.le.trans (hle m hm)
    · simp

/-- The walk is in increasing order. -/
theorem through_sorted (first last : Month) : (through first last).Pairwise (· < ·) :=
  walk_sorted.1

theorem through_nodup (first last : Month) : (through first last).Nodup :=
  (through_sorted first last).imp fun h => h.ne

end Month

/-- A stored date `YYYY-MM-DD`. -/
structure Date where
  month : Month
  day : Nat
deriving DecidableEq

namespace Date

/-- Text order: first the month, then the day. -/
instance : LinearOrder Date := LinearOrder.lift' (fun d => toLex (d.month, d.day))
  fun a b h => by cases a; cases b; simp_all

theorem le_iff {a b : Date} : a ≤ b ↔ a.month < b.month ∨ (a.month = b.month ∧ a.day ≤ b.day) :=
  Prod.Lex.le_iff

theorem month_mono {a b : Date} (h : a ≤ b) : a.month ≤ b.month := by
  rcases le_iff.1 h with h | h
  · exact h.le
  · exact h.1.le

theorem lt_of_month_lt {a b : Date} (h : a.month < b.month) : a < b :=
  not_le.1 fun h' => absurd (month_mono h') (not_le.2 h)

/-- `valid_date` (`server.rs:5965`) on the texts that the date columns can store. -/
def Valid (d : Date) : Prop :=
  d.month.Calendar ∧ 21 ≤ d.month.index ∧ 0 < d.day ∧ d.day ≤ d.month.lastDay

instance (d : Date) : Decidable d.Valid := by unfold Valid; infer_instance

/-- The date after a date. -/
def tomorrow (d : Date) : Date :=
  if d.day < d.month.lastDay then ⟨d.month, d.day + 1⟩ else ⟨d.month.next, 1⟩

/-- `abs(julianday(?) - julianday(?)) <= 1`, on dates. -/
def IsNear (d e : Date) : Prop := d = e ∨ d.tomorrow = e ∨ e.tomorrow = d

instance (d e : Date) : Decidable (d.IsNear e) := inferInstanceAs (Decidable (_ ∨ _))

end Date

namespace Month

/-- `YYYY-MM-01`. -/
def firstDate (m : Month) : Date := ⟨m, 1⟩

/-- The last date of the month. -/
def lastDate (m : Month) : Date := ⟨m, m.lastDay⟩

end Month

theorem Date.Valid.le_lastDate {d : Date} (h : d.Valid) : d ≤ d.month.lastDate :=
  Date.le_iff.2 (.inr ⟨rfl, h.2.2.2⟩)

theorem Date.Valid.le_lastDate_iff {d : Date} (h : d.Valid) (m : Month) :
    d ≤ m.lastDate ↔ d.month ≤ m := by
  refine ⟨fun h' => Date.month_mono h', fun h' => ?_⟩
  rcases h'.eq_or_lt with rfl | h'
  · exact h.le_lastDate
  · exact (Date.lt_of_month_lt h').le

theorem Month.lastDate_mono {m n : Month} (h : m ≤ n) : m.lastDate ≤ n.lastDate := by
  rcases h.eq_or_lt with rfl | h
  · exact le_rfl
  · exact (Date.lt_of_month_lt h).le

/-- A month completed before a day has ended on the days next to it. -/
theorem Date.IsNear.lastDate_le {d e : Date} (h : d.IsNear e) {m : Month} (hm : m.Calendar)
    (hlt : m < d.month) : m.lastDate ≤ e := by
  rcases h with rfl | rfl | rfl
  · exact (Date.lt_of_month_lt hlt).le
  · refine (Date.lt_of_month_lt (hlt.trans_le ?_)).le
    unfold Date.tomorrow
    split
    · exact le_rfl
    · exact (Month.lt_next _).le
  · unfold Date.tomorrow at hlt
    split at hlt
    · exact (Date.lt_of_month_lt hlt).le
    · rename_i hday
      rcases ((Month.lt_next_iff hm).1 hlt).eq_or_lt with rfl | hlt
      · exact Date.le_iff.2 (.inr ⟨rfl, not_lt.1 hday⟩)
      · exact (Date.lt_of_month_lt hlt).le
