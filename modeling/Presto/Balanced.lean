import Presto.Handlers

/-!
# The ledger equals its recomputation

`sync` leaves every source of an open month with the recomputed balance (`Synced.balance`). What a
call adds after its last `sync` are no facts of the recomputation, so the same holds when the call
is done.
-/

namespace Server

open Budget BudgetLedger

variable {today : Date} {db db' : Database}

theorem Trails.start (h : Trails db db') : db'.start = db.start := by
  obtain ⟨_, _, _, _, _, rfl⟩ := h
  rfl

theorem Trails.movements (h : Trails db db') : db'.movements = db.movements := by
  obtain ⟨_, _, _, _, _, rfl⟩ := h
  rfl

/-- Operations, revisions and frozen results are not read by the recomputation. -/
theorem Trails.recompute (h : Trails db db') (current : Month) (s : Source) :
    recompute db' current s = recompute db current s := by
  obtain ⟨_, _, _, _, _, rfl⟩ := h
  rfl

/-- A call that worked leaves the sources of an open month with their recomputed balances. -/
theorem Worked.balance (h : Worked today db db') (hsound : Sound today db) {start : Month}
    (hstart : db'.start = some start) {s : Source} (hc : s.month.Calendar) (hle : start ≤ s.month)
    (hreached : s.month ≤ today.month) (hopen : db'.isClosed s.month = false) :
    recompute db' today.month s = .ok (Journal.balance db'.movements s) := by
  obtain ⟨_, db₁, db₂, operation, hc₁, hsync, hc₂, htrails⟩ := h
  rw [htrails.start] at hstart
  rw [htrails.recompute, htrails.movements]
  have hsound₁ : Sound today db₁ := hc₁.sound hsound
  have hstart₁ : db₁.start = some start := by
    cases hs : db₁.start with
    | none => rw [sync_inactive hsync hs, hs] at hstart; cases hstart
    | some s =>
      obtain ⟨ts, hts⟩ := sync_synced hsync hs hsound₁
      rw [hts.settled.start_eq, hs] at hstart
      exact hstart
  obtain ⟨ts, hts⟩ := sync_synced hsync hstart₁ hsound₁
  refine hts.balance hc hle hreached ?_
  rw [← hts.settled.isClosed_eq]
  exact hc₂.toExtends.open_of_open hopen

/-- **The ledger equals its recomputation.** After every call that synchronises, in whatever state it
was reached, each source of an open month from the ledger start to the current month has the balance
that the facts alone ask for, and the recomputation does not fail. -/
theorem ledger_recomputed (hreach : Reachable today db) {call : Call} {response : Response}
    (hvalid : call.clock.today.Valid) (hlater : today ≤ call.clock.today)
    (h : handle db call = .ok (db', response)) (hsync : Synchronises db call) {start : Month}
    (hstart : db'.start = some start) {s : Source} (hc : s.month.Calendar) (hle : start ≤ s.month)
    (hreached : s.month ≤ call.clock.today.month) (hopen : db'.isClosed s.month = false) :
    recompute db' call.clock.today.month s = .ok (Journal.balance db'.movements s) := by
  have hsound : Sound call.clock.today db := hreach.sound.later hvalid hlater
  have hworked : Worked call.clock.today db db' := (handle_worked h hsound).2 hsync
  exact hworked.balance hsound hstart hc hle hreached hopen

/-- A late salary of 2500 EUR: the expectation of October keeps its funding. -/
theorem ledger_recomputed_october :
    let db := run (household 1000) opened
    let call := callOn november 3 (.create (earn 101 201 ⟨november, 3⟩ 2500 none))
    recompute (step db call) november (fundingSource october) =
      .ok (Journal.balance (step db call).movements (fundingSource october)) := by
  intro db call
  have hreach : Reachable ⟨october, 2⟩ db := household_reachable 1000 (by decide : Chronological _ opened)
  obtain ⟨response, h⟩ := exists_ok_of_step (by decide +kernel : (handle db call).isOk = true)
  have hstart : (step db call).start = some october := by decide +kernel
  exact ledger_recomputed hreach (by decide) (by decide) h (by decide +kernel) hstart (by decide)
    (by decide) (by decide) (by decide +kernel)

end Server
