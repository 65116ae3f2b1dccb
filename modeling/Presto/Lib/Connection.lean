import Presto.Lib.Fallible

/-!
# Transactions on a connection

A program reads and writes the working copy of a connection and may stop with an error. Only a commit
changes what is committed, and what a program leaves uncommitted is rolled back (`serve`).
-/

/-- What is committed, and what the open transaction sees. -/
structure Connection (S : Type) where
  committed : S
  working : S

/-- A program on a connection that may stop with an error. -/
def Session (S ε α : Type) := Connection S → Except ε α × Connection S

namespace Session

variable {S ε α β : Type}

instance : Monad (Session S ε) where
  pure a := fun c => (.ok a, c)
  bind x f := fun c =>
    match x c with
    | (.ok a, c') => f a c'
    | (.error e, c') => (.error e, c')

def lift (x : Except ε α) : Session S ε α := fun c => (x, c)

def «begin» : Session S ε Unit := fun c => (.ok (), { c with working := c.committed })

def query (f : S → Except ε α) : Session S ε α := fun c => (f c.working, c)

/-- A statement; one that fails changes nothing. -/
def execute (f : S → Except ε S) : Session S ε Unit := fun c =>
  match f c.working with
  | .ok s => (.ok (), { c with working := s })
  | .error e => (.error e, c)

/-- The working copy is committed if it satisfies the constraints that were deferred. -/
def commit (valid : S → Bool) (e : ε) : Session S ε Unit := fun c =>
  if valid c.working then (.ok (), { c with committed := c.working }) else (.error e, c)

/-- The answer of a program, and what it leaves: an open transaction is rolled back. -/
def serve (x : Session S ε α) (s : S) : Except ε α × S :=
  let r := x { committed := s, working := s }
  (r.1, r.2.committed)

/-! ## Programs that commit nothing -/

/-- Whatever the program does, what is committed stays. -/
def Uncommitted (x : Session S ε α) : Prop := ∀ c, (x c).2.committed = c.committed

namespace Uncommitted

theorem pure (a : α) : Uncommitted (Pure.pure a : Session S ε α) := fun _ => rfl

theorem bind {x : Session S ε α} {f : α → Session S ε β} (hx : Uncommitted x)
    (hf : ∀ a, Uncommitted (f a)) : Uncommitted (x >>= f) := by
  intro c
  have hfirst := hx c
  simp only [Bind.bind]
  cases hr : x c with
  | mk r c' =>
    rw [hr] at hfirst
    cases r with
    | ok a => exact (hf a c').trans hfirst
    | error e => exact hfirst

theorem lift (x : Except ε α) : Uncommitted (Session.lift x : Session S ε α) := fun _ => rfl

theorem «begin» : Uncommitted (Session.begin : Session S ε Unit) := fun _ => rfl

theorem query (f : S → Except ε α) : Uncommitted (Session.query f) := fun _ => rfl

theorem execute (f : S → Except ε S) : Uncommitted (Session.execute f) := by
  intro c
  unfold Session.execute
  cases f c.working <;> rfl

theorem forM {l : List α} {f : α → Session S ε PUnit} (h : ∀ a ∈ l, Uncommitted (f a)) :
    Uncommitted (l.forM f) := by
  induction l with
  | nil => exact Uncommitted.pure _
  | cons a l ih =>
    exact (h a List.mem_cons_self).bind fun _ => ih fun b hb => h b (List.mem_cons_of_mem _ hb)

end Uncommitted

/-- **A program that is refused leaves what was committed**, where only its last step commits. -/
theorem serve_error {x : Session S ε α} {valid : S → Bool} {e e' : ε} {b : α → β} {s : S}
    (hx : Uncommitted x)
    (h : (serve (do let a ← x; commit valid e; return b a) s).1 = .error e') :
    (serve (do let a ← x; commit valid e; return b a) s).2 = s := by
  have hfirst := hx { committed := s, working := s }
  simp only [serve, Bind.bind, Pure.pure] at h ⊢
  cases hr : x { committed := s, working := s } with
  | mk r c =>
    rw [hr] at hfirst h
    cases r with
    | error e => exact hfirst
    | ok a =>
      by_cases hvalid : valid c.working = true
      · simp [commit, hvalid] at h
      · simpa [commit, hvalid] using hfirst

/-! ## Programs that succeed -/

/-- The program answers `a` and leaves the connection as `c'`. -/
def Runs (x : Session S ε α) (c : Connection S) (a : α) (c' : Connection S) : Prop :=
  x c = (.ok a, c')

namespace Runs

variable {c c' c'' : Connection S}

theorem pure (a : α) (c : Connection S) : Runs (Pure.pure a : Session S ε α) c a c := rfl

theorem bind {x : Session S ε α} {f : α → Session S ε β} {a : α} {b : β} (hx : Runs x c a c')
    (hf : Runs (f a) c' b c'') : Runs (x >>= f) c b c'' := by
  unfold Runs at *
  simp only [Bind.bind, hx]
  exact hf

theorem of_bind {x : Session S ε α} {f : α → Session S ε β} {b : β} (h : Runs (x >>= f) c b c'') :
    ∃ a c', Runs x c a c' ∧ Runs (f a) c' b c'' := by
  unfold Runs at *
  simp only [Bind.bind] at h
  cases hr : x c with
  | mk r c' =>
    rw [hr] at h
    cases r with
    | ok a => exact ⟨a, c', rfl, h⟩
    | error e => cases h

theorem lift {x : Except ε α} {a : α} (h : x = .ok a) (c : Connection S) :
    Runs (Session.lift x : Session S ε α) c a c := by
  rw [Runs, Session.lift, h]

theorem lift_iff {x : Except ε α} {a : α} :
    Runs (Session.lift x : Session S ε α) c a c' ↔ x = .ok a ∧ c = c' := by
  simp [Runs, Session.lift]

theorem begin_iff {u : Unit} :
    Runs (Session.begin : Session S ε Unit) c u c' ↔
      c' = { committed := c.committed, working := c.committed } := by
  simp [Runs, Session.begin, eq_comm]

theorem query_iff {f : S → Except ε α} {a : α} :
    Runs (Session.query f) c a c' ↔ f c.working = .ok a ∧ c = c' := by
  simp [Runs, Session.query]

theorem execute_iff {f : S → Except ε S} {u : Unit} :
    Runs (Session.execute f) c u c' ↔
      ∃ s, f c.working = .ok s ∧ c' = { committed := c.committed, working := s } := by
  unfold Runs Session.execute
  cases f c.working <;> simp [eq_comm]

theorem commit_iff {valid : S → Bool} {e : ε} {u : Unit} :
    Runs (Session.commit valid e) c u c' ↔
      valid c.working = true ∧ c' = { committed := c.working, working := c.working } := by
  unfold Runs Session.commit
  by_cases hvalid : valid c.working = true <;> simp [hvalid, eq_comm]

theorem «begin» (c : Connection S) : Runs (Session.begin : Session S ε Unit) c ()
    { committed := c.committed, working := c.committed } := rfl

theorem query {f : S → Except ε α} {a : α} (h : f c.working = .ok a) :
    Runs (Session.query f) c a c := query_iff.2 ⟨h, rfl⟩

theorem execute {f : S → Except ε S} {s : S} (h : f c.working = .ok s) :
    Runs (Session.execute f) c () { committed := c.committed, working := s } :=
  execute_iff.2 ⟨s, h, rfl⟩

theorem commit {valid : S → Bool} {e : ε} (h : valid c.working = true) :
    Runs (Session.commit valid e) c () { committed := c.working, working := c.working } :=
  commit_iff.2 ⟨h, rfl⟩

/-- A loop whose turns run from what the turns before established. -/
theorem forM {f : α → Session S ε PUnit} {l : List α} (I : List α → Connection S → Prop)
    (hstep : ∀ before a after c, l = before ++ a :: after → I before c →
      ∃ c', Runs (f a) c ⟨⟩ c' ∧ I (before ++ [a]) c') (h : I [] c) :
    ∃ c', Runs (l.forM f) c ⟨⟩ c' ∧ I l c' := by
  have hgo : ∀ after before c, l = before ++ after → I before c →
      ∃ c', Runs (after.forM f) c ⟨⟩ c' ∧ I l c' := by
    intro after
    induction after with
    | nil =>
      intro before c hsplit hI
      rw [List.append_nil] at hsplit
      exact ⟨c, pure _ c, hsplit ▸ hI⟩
    | cons a after ih =>
      intro before c hsplit hI
      obtain ⟨c₁, hrun, hI₁⟩ := hstep before a after c hsplit hI
      obtain ⟨c', hrest, hdone⟩ := ih (before ++ [a]) c₁ (by rw [hsplit]; simp) hI₁
      exact ⟨c', bind hrun hrest, hdone⟩
  exact hgo l [] c rfl h

/-- A loop of statements runs as the loop of what they do. -/
theorem forM_execute {f : α → S → Except ε S} {l : List α} {s : S}
    (h : l.foldlM (fun s a => f a s) c.working = .ok s) :
    Runs (l.forM fun a => Session.execute (f a)) c ⟨⟩ { committed := c.committed, working := s } := by
  induction l generalizing c with
  | nil =>
    rw [List.foldlM_nil, Except.pure_eq_ok] at h
    subst h
    exact pure _ c
  | cons a l ih =>
    rw [List.foldlM_cons, Except.bind_eq_ok] at h
    obtain ⟨s₁, hs, hrest⟩ := h
    exact bind (execute hs) (ih hrest)

end Runs

theorem Runs.of_serve {x : Session S ε α} {s s' : S} {a : α}
    (h : Session.serve x s = (.ok a, s')) :
    ∃ c, Runs x { committed := s, working := s } a c ∧ c.committed = s' := by
  simp only [Session.serve, Prod.mk.injEq] at h
  exact ⟨_, Prod.ext h.1 rfl, h.2⟩

theorem Runs.serve {x : Session S ε α} {s : S} {a : α} {c : Connection S}
    (h : Runs x { committed := s, working := s } a c) : Session.serve x s = (.ok a, c.committed) := by
  rw [Session.serve, h]

end Session
