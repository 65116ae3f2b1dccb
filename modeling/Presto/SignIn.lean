import Presto.Lib.SingleUse
import Presto.Server.Auth

/-!
# Sign-ins, sign-outs and handoffs, interleaved

Requests advance in steps: a statement or transaction of one request, then of another. What a request
still has to do is a `Task`; between two steps of a request anything can happen, and a request may
stop anywhere (its task is then never resumed). What was started, issued, cancelled and exchanged is
recorded in `events`, newest first. Random ids are fresh: a draw that was drawn before does not
happen.
-/

namespace Server.Auth

open SingleUse

/-- What a sign-in hands out. -/
inductive Credential
  | session (cookieId subject : String)
  | handoff (code subject : String) (codeChallenge : Option String) (expiresAt : Int)
deriving DecidableEq

def Credential.subject : Credential → String
  | .session _ subject => subject
  | .handoff _ subject _ _ => subject

inductive Event
  | started (state : String) (expiresAt : Int)
  | issued (state : String) (now : Int) (credential : Credential)
  | cancelled (state : String)
  | redeemed (code verifier : String) (now : Int) (subject : String)
  | exchanged (code cookieId subject : String)
deriving DecidableEq

/-- The next step of a request. -/
inductive Task
  | insertState (state : String) (row : PocketIdState)
  | identify (state : String) (row : PocketIdState) (headers : Headers)
  | issue (state : String) (identity : PocketIdentity) (headers : Headers)
  | redeem (code challenge : String) (payload : MobileSessionExchangeRequest) (now : Int)
  | createSession (code subject username : String)

structure World where
  store : Store
  tasks : List Task
  drawn : List String
  events : List Event

/-- What a step reads: the clock (twice), the random id it draws, the answer of the provider. -/
structure Input where
  now : Int
  later : Int
  random : String
  info : Option PocketUserInfo

inductive Action
  | beginLogin (input : Input) (codeVerifier : String) (mobile : Option MobileLoginQuery)
  | callback (input : Input) (query : OAuthCallback) (headers : Headers)
  | exchange (input : Input) (payload : MobileSessionExchangeRequest)
  | logout (headers : Headers)
  | logoutMobile (headers : Headers)
  | check (input : Input) (headers : Headers)
  | resume (task : Nat) (input : Input)

/-- The credential that `issue_pocket_login` answers with. -/
def issuedCredential (identity : PocketIdentity) (created : Int) (random : String) : Credential :=
  if identity.mobileRedirectUri.isSome then
    .handoff random identity.subject identity.mobileCodeChallenge
      (created + MOBILE_HANDOFF_TTL_SECONDS)
  else .session random identity.subject

/-- The events of a sign-out: the sign-in of the browser is cancelled. -/
def logoutEvents (headers : Headers) : List Event :=
  match cookieIdFromHeaders headers .pocketOauth with
  | some oauthState => [.cancelled oauthState]
  | none => []

/-- The next step of a request, `tasks` being the other requests. -/
def resume (config : Config) (w : World) (tasks : List Task) (input : Input) : Task → World
  | .insertState state row => { w with
      store := insertState state row w.store
      tasks := tasks
      events := .started state row.expiresAt :: w.events }
  | .identify state row headers =>
    match identify config row input.info with
    | .ok identity => { w with tasks := .issue state identity headers :: tasks }
    | .error _ => { w with tasks := tasks }
  | .issue state identity headers =>
    match issuePocketLogin config w.store input.now input.later state identity headers
      input.random with
    | .ok store => {
        store := store
        tasks := tasks
        drawn := input.random :: w.drawn
        events := .issued state input.now (issuedCredential identity input.later input.random)
          :: w.events }
    | .error _ => { w with tasks := tasks }
  | .redeem code challenge payload now =>
    match redeemHandoff config w.store now code challenge with
    | .ok (store, subject, username) => { w with
        store := store
        -- the allowed subjects are checked again before the session is created
        tasks := if subject ∈ config.pocketIdAllowedSubjects then
            .createSession code subject username :: tasks else tasks
        events := .redeemed code payload.codeVerifier now subject :: w.events }
    | .error _ => { w with tasks := tasks }
  | .createSession code subject username => {
      store := createPocketSession config input.now input.random subject username w.store
      tasks := tasks
      drawn := input.random :: w.drawn
      events := .exchanged code input.random subject :: w.events }

def step (config : Config) (w : World) : Action → World
  | .beginLogin input codeVerifier mobile =>
    match authorizationRow input.now codeVerifier mobile with
    | .ok row => if input.random ∈ w.drawn then w else { w with
        store := pruneStates input.later w.store
        tasks := .insertState input.random row :: w.tasks
        drawn := input.random :: w.drawn }
    | .error _ => w
  | .callback input query headers =>
    match openCallback w.store input.now query headers with
    | .ok (state, row) => { w with tasks := .identify state row headers :: w.tasks }
    | .error _ => w
  | .exchange input payload =>
    match normalizeExchange config payload with
    | .ok (code, challenge) => { w with
        store := pruneHandoffs input.now w.store
        tasks := .redeem code challenge payload input.now :: w.tasks }
    | .error _ => w
  | .logout headers =>
    match logout config w.store headers with
    | .ok store => { w with store := store, events := logoutEvents headers ++ w.events }
    | .error _ => w
  | .logoutMobile headers =>
    match logoutMobileSession config w.store headers with
    | .ok store => { w with store := store }
    | .error _ => w
  | .check input headers => { w with
      store := (currentPocketSession config w.store input.now headers).1 }
  | .resume task input =>
    if input.random ∈ w.drawn then w
    else match w.tasks[task]? with
      | some t => resume config w (w.tasks.eraseIdx task) input t
      | none => w

/-- Nobody has signed in yet. -/
def World.initial : World := ⟨⟨∅, ∅, ∅⟩, [], [], []⟩

def run (config : Config) (actions : List Action) : World :=
  actions.foldl (step config) World.initial

/-! ## What the events say about one state and one handoff code -/

/-- An authorisation state is opened with its expiry, and closed by a credential or a sign-out. -/
def stateMark (state : String) : Event → Mark Int
  | .started s expiresAt => if s = state then .opened expiresAt else .none
  | .issued s _ _ => if s = state then .closed else .none
  | .cancelled s => if s = state then .closed else .none
  | .redeemed .. | .exchanged .. => .none

def Event.issues (state : String) : Event → Bool
  | .issued s _ _ => s = state
  | _ => false

/-- What a handoff code is good for. -/
structure Handoff where
  subject : String
  codeChallenge : Option String
  expiresAt : Int

/-- A handoff code is opened when it is issued, and closed when it is redeemed. -/
def handoffMark (code : String) : Event → Mark Handoff
  | .issued _ _ (.handoff c subject challenge expiresAt) =>
    if c = code then .opened ⟨subject, challenge, expiresAt⟩ else .none
  | .redeemed c _ _ _ => if c = code then .closed else .none
  | _ => .none

def Event.redeems (code : String) : Event → Bool
  | .redeemed c _ _ _ => c = code
  | _ => false

def Event.exchanges (code : String) : Event → Bool
  | .exchanged c _ _ => c = code
  | _ => false

def Task.createsSession (code : String) : Task → Bool
  | .createSession c _ _ => c = code
  | _ => false

def Task.insertedState : Task → Option String
  | .insertState state _ => some state
  | _ => none

/-- What an event must find in the events before it. -/
def Recorded (config : Config) : List Event → Prop
  | [] => True
  | .started _ _ :: l => Recorded config l
  | .issued state now credential :: l =>
    (∃ expiresAt, phase (stateMark state) l = .live expiresAt ∧ now < expiresAt) ∧
      credential.subject ∈ config.pocketIdAllowedSubjects ∧ Recorded config l
  | .cancelled _ :: l => Recorded config l
  | .redeemed code verifier now subject :: l =>
    (∃ expiresAt, phase (handoffMark code) l = .live ⟨subject, some (config.s256 verifier),
      expiresAt⟩ ∧ now < expiresAt) ∧ Recorded config l
  | .exchanged code _ subject :: l =>
    subject ∈ config.pocketIdAllowedSubjects ∧ (∃ verifier now, .redeemed code verifier now subject ∈ l) ∧
      Recorded config l

/-- What a task may rely on. -/
def Task.Prepared (config : Config) (events : List Event) : Task → Prop
  | .insertState _ _ => True
  | .identify _ _ _ => True
  | .issue _ identity _ => identity.subject ∈ config.pocketIdAllowedSubjects
  | .redeem _ challenge payload _ => challenge = config.s256 payload.codeVerifier
  | .createSession code subject _ => subject ∈ config.pocketIdAllowedSubjects ∧
      ∃ verifier now, .redeemed code verifier now subject ∈ events

/-- The states: their rows are live, fresh ones are still to be inserted, and no id is used twice. -/
structure StatesInv (w : World) : Prop where
  live : ∀ state row, w.store.states.lookup state = some row →
    phase (stateMark state) w.events = .live row.expiresAt
  drawn : ∀ state, phase (stateMark state) w.events ≠ .fresh → state ∈ w.drawn
  pending : ∀ state ∈ w.tasks.filterMap Task.insertedState,
    state ∈ w.drawn ∧ phase (stateMark state) w.events = .fresh
  once : (w.tasks.filterMap Task.insertedState).Nodup
  orderly : ∀ state, Orderly (stateMark state) (Event.issues state) w.events

/-- The handoffs: their rows are live, and each redemption leads to at most one session. -/
structure HandoffsInv (config : Config) (w : World) : Prop where
  live : ∀ hash row, w.store.handoffs.lookup hash = some row → ∃ code,
    config.hashSessionId code = hash ∧
      phase (handoffMark code) w.events = .live ⟨row.subject, row.codeChallenge, row.expiresAt⟩
  drawn : ∀ code, phase (handoffMark code) w.events ≠ .fresh → code ∈ w.drawn
  sessions : ∀ code, w.tasks.countP (Task.createsSession code)
    + w.events.countP (Event.exchanges code) ≤ w.events.countP (Event.redeems code)
  orderly : ∀ code, Orderly (handoffMark code) (Event.redeems code) w.events

structure Inv (config : Config) (w : World) : Prop where
  states : StatesInv w
  handoffs : HandoffsInv config w
  recorded : Recorded config w.events
  prepared : ∀ task ∈ w.tasks, task.Prepared config w.events

theorem Inv.initial (config : Config) : Inv config World.initial where
  states := ⟨by simp [World.initial], by simp [World.initial, phase], by simp [World.initial],
    by simp [World.initial], by simp [World.initial, Orderly]⟩
  handoffs := ⟨by simp [World.initial], by simp [World.initial, phase], by simp [World.initial],
    by simp [World.initial, Orderly]⟩
  recorded := trivial
  prepared := by simp [World.initial]

/-! ## What a step preserves -/

/-- Rows may vanish, and the order of the tasks does not matter. -/
theorem Inv.weaken {config : Config} {w w' : World} (h : Inv config w)
    (hstates : ∀ state row, w'.store.states.lookup state = some row →
      w.store.states.lookup state = some row)
    (hhandoffs : ∀ hash row, w'.store.handoffs.lookup hash = some row →
      w.store.handoffs.lookup hash = some row)
    (htasks : ∃ tasks, w.tasks.Perm tasks ∧ w'.tasks.Sublist tasks) (hdrawn : w.drawn ⊆ w'.drawn)
    (hevents : w'.events = w.events) : Inv config w' := by
  obtain ⟨tasks, hperm, hsub⟩ := htasks
  have hmem : ∀ t ∈ w'.tasks, t ∈ w.tasks := fun t ht => hperm.mem_iff.2 (hsub.subset ht)
  have hinserted : (w'.tasks.filterMap Task.insertedState).Sublist
      (tasks.filterMap Task.insertedState) := hsub.filterMap _
  have hinsertedPerm := hperm.filterMap Task.insertedState
  obtain ⟨⟨hl, hd, hp, ho, hord⟩, ⟨hhl, hhd, hs, hhord⟩, hrec, hprep⟩ := h
  refine ⟨⟨fun s r hs => ?_, fun s hs => ?_, fun s hs => ?_, ?_, ?_⟩,
    ⟨fun c r hc => ?_, fun c hc => ?_, fun c => ?_, ?_⟩, ?_, fun t ht => ?_⟩
  · rw [hevents]
    exact hl s r (hstates s r hs)
  · rw [hevents] at hs
    exact hdrawn (hd s hs)
  · obtain ⟨h1, h2⟩ := hp s (hinsertedPerm.mem_iff.2 (hinserted.subset hs))
    exact ⟨hdrawn h1, hevents ▸ h2⟩
  · exact hinserted.nodup (hinsertedPerm.nodup_iff.1 ho)
  · rw [hevents]
    exact hord
  · rw [hevents]
    exact hhl c r (hhandoffs c r hc)
  · rw [hevents] at hc
    exact hdrawn (hhd c hc)
  · have hcount : w'.tasks.countP (Task.createsSession c) ≤ w.tasks.countP (Task.createsSession c) :=
      (hsub.countP_le).trans_eq (hperm.countP_eq _).symm
    rw [hevents]
    exact (Nat.add_le_add_right hcount _).trans (hs c)
  · rw [hevents]
    exact hhord
  · rw [hevents]
    exact hrec
  · rw [hevents]
    exact hprep t (hmem t ht)

/-- A request goes on to a step that neither inserts a state nor creates a session. -/
theorem Inv.push {config : Config} {w : World} {t : Task} (h : Inv config w)
    (hstate : t.insertedState = none) (hsession : ∀ code, t.createsSession code = false)
    (hprepared : t.Prepared config w.events) : Inv config { w with tasks := t :: w.tasks } := by
  obtain ⟨⟨hl, hd, hp, ho, hord⟩, ⟨hhl, hhd, hs, hhord⟩, hrec, hprep⟩ := h
  have hpending : (t :: w.tasks).filterMap Task.insertedState
      = w.tasks.filterMap Task.insertedState := by simp [hstate]
  refine ⟨⟨hl, hd, ?_, ?_, hord⟩, ⟨hhl, hhd, fun code => ?_, hhord⟩, hrec, fun t' ht' => ?_⟩
  · rw [hpending]
    exact hp
  · rw [hpending]
    exact ho
  · simpa [hsession code] using hs code
  · rcases List.mem_cons.1 ht' with rfl | ht'
    · exact hprepared
    · exact hprep t' ht'

/-- A new sign-in draws its state. -/
theorem Inv.pushInsert {config : Config} {w : World} {state : String} {row : PocketIdState}
    (h : Inv config w) (hfresh : state ∉ w.drawn) : Inv config { w with
      tasks := .insertState state row :: w.tasks, drawn := state :: w.drawn } := by
  obtain ⟨⟨hl, hd, hp, ho, hord⟩, ⟨hhl, hhd, hs, hhord⟩, hrec, hprep⟩ := h
  have hphase : phase (stateMark state) w.events = .fresh := by
    by_contra hne
    exact hfresh (hd state hne)
  refine ⟨⟨hl, fun s hs => List.mem_cons_of_mem _ (hd s hs), fun s hs => ?_, ?_, hord⟩,
    ⟨hhl, fun c hc => List.mem_cons_of_mem _ (hhd c hc), fun code => ?_, hhord⟩, hrec,
    fun t' ht' => ?_⟩
  · rcases List.mem_cons.1 hs with rfl | hs
    · exact ⟨List.mem_cons_self, hphase⟩
    · exact ⟨List.mem_cons_of_mem _ (hp s hs).1, (hp s hs).2⟩
  · exact List.nodup_cons.2 ⟨fun hin => hfresh (hp state hin).1, ho⟩
  · simpa [Task.createsSession] using hs code
  · rcases List.mem_cons.1 ht' with rfl | ht'
    · trivial
    · exact hprep t' ht'

/-- An event that no handoff code notices. -/
theorem HandoffsInv.cons {config : Config} {w : World} (h : HandoffsInv config w) (e : Event)
    (hmark : ∀ code, handoffMark code e = .none) (hexchange : ∀ code, e.exchanges code = false)
    (hredeem : ∀ code, e.redeems code = false) :
    HandoffsInv config { w with events := e :: w.events } := by
  obtain ⟨hl, hd, hs, hord⟩ := h
  refine ⟨fun hash row hrow => ?_, fun code hc => ?_, fun code => ?_, fun code => ?_⟩
  · obtain ⟨code, hcode, hphase⟩ := hl hash row hrow
    exact ⟨code, hcode, (phase_cons_none (hmark code) _).trans hphase⟩
  · exact hd code ((phase_cons_none (hmark code) w.events) ▸ hc)
  · simpa [hexchange code, hredeem code] using hs code
  · exact (hord code).cons_none (hmark code) (hredeem code)

/-- An event that no state notices. -/
theorem StatesInv.cons {w : World} (h : StatesInv w) (e : Event)
    (hmark : ∀ state, stateMark state e = .none) (hissue : ∀ state, e.issues state = false) :
    StatesInv { w with events := e :: w.events } := by
  obtain ⟨hl, hd, hp, ho, hord⟩ := h
  refine ⟨fun state row hrow => ?_, fun state hc => ?_, fun state hs => ?_, ho, fun state => ?_⟩
  · exact (phase_cons_none (hmark state) _).trans (hl state row hrow)
  · exact hd state ((phase_cons_none (hmark state) w.events) ▸ hc)
  · exact ⟨(hp state hs).1, (phase_cons_none (hmark state) _).trans (hp state hs).2⟩
  · exact (hord state).cons_none (hmark state) (hissue state)

/-- Tasks stay prepared when events are added. -/
theorem Task.Prepared.mono {config : Config} {events events' : List Event} {t : Task}
    (h : t.Prepared config events) (hsub : events ⊆ events') : t.Prepared config events' := by
  cases t with
  | createSession code subject username =>
    obtain ⟨hallowed, verifier, now, hmem⟩ := h
    exact ⟨hallowed, verifier, now, hsub hmem⟩
  | _ => exact h

theorem Inv.insertState {config : Config} {w : World} {state : String} {row : PocketIdState}
    {tasks : List Task} (h : Inv config { w with tasks := .insertState state row :: tasks }) :
    Inv config { w with
      store := Auth.insertState state row w.store
      tasks := tasks
      events := .started state row.expiresAt :: w.events } := by
  obtain ⟨⟨hl, hd, hp, ho, hord⟩, hh, hrec, hprep⟩ := h
  obtain ⟨hdrawn, hfresh⟩ := hp state List.mem_cons_self
  have hnotin : state ∉ tasks.filterMap Task.insertedState := (List.nodup_cons.1 ho).1
  have hother : ∀ s, s ≠ state → phase (stateMark s) (.started state row.expiresAt :: w.events)
      = phase (stateMark s) w.events := fun s hs =>
    phase_cons_none (by simp [stateMark, hs.symm]) _
  have hself : phase (stateMark state) (.started state row.expiresAt :: w.events)
      = .live row.expiresAt := by
    have hfresh' : phase (stateMark state) w.events = .fresh := hfresh
    rw [phase_cons, hfresh']
    simp [stateMark, Phase.next]
  refine ⟨⟨fun s r hs => ?_, fun s hs => ?_, fun s hs => ?_, (List.nodup_cons.1 ho).2, fun s => ?_⟩,
    ?_, hrec, fun t ht => ?_⟩
  · have hs' : (w.store.states.insert state row).lookup s = some r := hs
    rw [AList.lookup_insert_of] at hs'
    split at hs'
    · subst_vars
      cases hs'
      exact hself
    · rename_i hne
      exact (hother s hne).trans (hl s r hs')
  · by_cases hne : s = state
    · exact hne ▸ hdrawn
    · exact hd s ((hother s hne) ▸ hs)
  · have hne : s ≠ state := fun e => hnotin (e ▸ hs)
    obtain ⟨h1, h2⟩ := hp s (List.mem_cons_of_mem _ hs)
    exact ⟨h1, (hother s hne).trans h2⟩
  · by_cases hne : s = state
    · subst hne
      exact (hord s).cons_fresh rfl hfresh
    · exact (hord s).cons_none (by simp [stateMark, Ne.symm hne]) rfl
  · obtain ⟨hhl, hhd, hsess, hhord⟩ := hh.cons (.started state row.expiresAt) (fun _ => rfl)
      (fun _ => rfl) (fun _ => rfl)
    exact ⟨hhl, hhd, fun code => by simpa [Task.createsSession] using hsess code, hhord⟩
  · exact (hprep t (List.mem_cons_of_mem _ ht)).mono (List.subset_cons_self _ _)

/-- What issuing a credential takes and leaves. -/
theorem issuePocketLogin_ok {config : Config} {store store' : Store} {now created : Int}
    {oauthState : String} {identity : PocketIdentity} {headers : Headers} {credential : String}
    (h : issuePocketLogin config store now created oauthState identity headers credential
      = .ok store') :
    (∃ row, store.states.lookup oauthState = some row ∧ now < row.expiresAt) ∧
      store'.states = store.states.erase oauthState ∧
      ∀ hash row, store'.handoffs.lookup hash = some row → store.handoffs.lookup hash = some row ∨
        (identity.mobileRedirectUri.isSome = true ∧ hash = config.hashSessionId credential ∧
          row = ⟨identity.subject, identity.username, created + MOBILE_HANDOFF_TTL_SECONDS, created,
            identity.mobileCodeChallenge⟩) := by
  simp only [issuePocketLogin, Except.bind_eq_ok, Except.ensure_eq_ok, Option.any_eq_true,
    decide_eq_true_eq] at h
  obtain ⟨_, hlive, h⟩ := h
  split at h
  · rename_i hmobile
    simp only [createMobileHandoff, Except.bind_eq_ok, Except.pure_eq_ok] at h
    obtain ⟨_, _, rfl⟩ := h
    refine ⟨hlive, rfl, fun hash row hrow => ?_⟩
    rw [AList.lookup_insert_of] at hrow
    split at hrow
    · rename_i hhash
      exact .inr ⟨hmobile, hhash, (Option.some.inj hrow).symm⟩
    · exact .inl (AList.lookup_retain.1 hrow).1
  · rw [Except.pure_eq_ok] at h
    subst h
    refine ⟨hlive, ?_, fun hash row hrow => .inl ?_⟩
    · cases cookieIdFromHeaders headers .pocketSession <;> rfl
    · cases hc : cookieIdFromHeaders headers .pocketSession with
      | none => simpa [hc, createPocketSession] using hrow
      | some previous => simpa [hc, createPocketSession, revokePocketSession] using hrow

/-- Closing a live state. -/
theorem StatesInv.close {w : World} {state : String} (h : StatesInv w) (e : Event)
    (hmark : stateMark state e = .closed) (hother : ∀ s, s ≠ state → stateMark s e = .none)
    (hissue : ∀ s, s ≠ state → e.issues s = false)
    (hlive : e.issues state = true →
      ∃ expiresAt, phase (stateMark state) w.events = .live expiresAt) :
    StatesInv { w with
      store := { w.store with states := w.store.states.erase state }
      events := e :: w.events } := by
  obtain ⟨hl, hd, hp, ho, hord⟩ := h
  have hsame : ∀ s, s ≠ state → phase (stateMark s) (e :: w.events) = phase (stateMark s) w.events :=
    fun s hs => phase_cons_none (hother s hs) _
  refine ⟨fun s r hs => ?_, fun s hs => ?_, fun s hs => ?_, ho, fun s => ?_⟩
  · have hs' : (w.store.states.erase state).lookup s = some r := hs
    rw [AList.lookup_erase_of] at hs'
    split at hs'
    · cases hs'
    · rename_i hne
      exact (hsame s hne).trans (hl s r hs')
  · by_cases hne : s = state
    · subst hne
      refine hd s fun hfresh => hs ?_
      rw [phase_cons, hmark, hfresh]
      rfl
    · exact hd s ((hsame s hne) ▸ hs)
  · obtain ⟨h1, h2⟩ := hp s hs
    refine ⟨h1, ?_⟩
    by_cases hne : s = state
    · subst hne
      rw [phase_cons, hmark, h2]
      rfl
    · exact (hsame s hne).trans h2
  · by_cases hne : s = state
    · subst hne
      exact (hord s).cons_closed hmark hlive
    · exact (hord s).cons_none (hother s hne) (hissue s hne)

/-- A sign-out cancels the sign-in of its browser. -/
theorem Inv.cancel {config : Config} {w : World} (h : Inv config w) (state : String) :
    Inv config { w with
      store := { w.store with states := w.store.states.erase state }
      events := .cancelled state :: w.events } where
  states := h.states.close (.cancelled state) (if_pos rfl)
    (fun s hs => by simp [stateMark, Ne.symm hs]) (fun _ _ => rfl) (by simp [Event.issues])
  handoffs :=
    have hh := h.handoffs.cons (.cancelled state) (fun _ => rfl) (fun _ => rfl) (fun _ => rfl)
    ⟨hh.live, hh.drawn, hh.sessions, hh.orderly⟩
  recorded := h.recorded
  prepared t ht := (h.prepared t ht).mono (List.subset_cons_self _ _)

theorem Inv.issue {config : Config} {w : World} {state : String} {identity : PocketIdentity}
    {headers : Headers} {tasks : List Task} {input : Input} {store : Store}
    (h : Inv config { w with tasks := .issue state identity headers :: tasks })
    (hfresh : input.random ∉ w.drawn)
    (hissue : issuePocketLogin config w.store input.now input.later state identity headers
      input.random = .ok store) :
    Inv config {
      store := store
      tasks := tasks
      drawn := input.random :: w.drawn
      events := .issued state input.now (issuedCredential identity input.later input.random)
        :: w.events } := by
  obtain ⟨⟨row, hrow, hnow⟩, hstates, hhandoffs⟩ := issuePocketLogin_ok hissue
  have hlive : phase (stateMark state) w.events = .live row.expiresAt := h.states.live state row hrow
  have hallowed : identity.subject ∈ config.pocketIdAllowedSubjects :=
    h.prepared _ List.mem_cons_self
  have hsubject : (issuedCredential identity input.later input.random).subject
      = identity.subject := by
    unfold issuedCredential
    split <;> rfl
  have hclosed := h.states.close
    (.issued state input.now (issuedCredential identity input.later input.random)) (if_pos rfl)
    (fun s hs => by simp [stateMark, Ne.symm hs]) (fun s hs => by simp [Event.issues, Ne.symm hs])
    (fun _ => ⟨_, hlive⟩)
  have hfreshCode : phase (handoffMark input.random) w.events = .fresh := by
    by_contra hne
    exact hfresh (h.handoffs.drawn _ hne)
  refine ⟨⟨fun s r hs => ?_, fun s hs => ?_, fun s hs => ?_, hclosed.once, hclosed.orderly⟩,
    ⟨fun hash r hr => ?_, fun code hc => ?_, fun code => ?_, fun code => ?_⟩, ?_, fun t ht => ?_⟩
  · exact hclosed.live s r (by rw [← hstates]; exact hs)
  · exact List.mem_cons_of_mem _ (hclosed.drawn s hs)
  · obtain ⟨h1, h2⟩ := hclosed.pending s hs
    exact ⟨List.mem_cons_of_mem _ h1, h2⟩
  · rcases hhandoffs hash r hr with hold | ⟨hmobile, rfl, rfl⟩
    · obtain ⟨code, hcode, hphase⟩ := h.handoffs.live hash r hold
      have hne : input.random ≠ code := by
        rintro rfl
        rw [hfreshCode] at hphase
        cases hphase
      refine ⟨code, hcode, (phase_cons_none ?_ _).trans hphase⟩
      unfold issuedCredential
      split <;> simp [handoffMark, hne]
    · refine ⟨input.random, rfl, ?_⟩
      rw [phase_cons, hfreshCode]
      simp [issuedCredential, hmobile, handoffMark, Phase.next]
  · by_cases hne : code = input.random
    · exact hne ▸ List.mem_cons_self
    · refine List.mem_cons_of_mem _ (h.handoffs.drawn code fun hf => hc ?_)
      refine (phase_cons_none ?_ _).trans hf
      unfold issuedCredential
      split <;> simp [handoffMark, Ne.symm hne]
  · simpa [Task.createsSession, Event.exchanges, Event.redeems] using h.handoffs.sessions code
  · by_cases hne : code = input.random
    · subst hne
      exact (h.handoffs.orderly _).cons_fresh rfl hfreshCode
    · refine (h.handoffs.orderly code).cons_none ?_ rfl
      unfold issuedCredential
      split <;> simp [handoffMark, Ne.symm hne]
  · exact ⟨⟨_, hlive, hnow⟩, hsubject ▸ hallowed, h.recorded⟩
  · exact (h.prepared t (List.mem_cons_of_mem _ ht)).mono (List.subset_cons_self _ _)

theorem Inv.redeem {config : Config} (hinj : Function.Injective config.hashSessionId) {w : World}
    {code challenge : String} {payload : MobileSessionExchangeRequest} {now : Int}
    {tasks : List Task} {store : Store} {subject username : String}
    (h : Inv config { w with tasks := .redeem code challenge payload now :: tasks })
    (hredeem : redeemHandoff config w.store now code challenge = .ok (store, subject, username)) :
    Inv config { w with
      store := store
      tasks := if subject ∈ config.pocketIdAllowedSubjects then
        .createSession code subject username :: tasks else tasks
      events := .redeemed code payload.codeVerifier now subject :: w.events } := by
  simp only [redeemHandoff, Except.bind_eq_ok, Except.fromOption_eq_ok, Except.pure_eq_ok,
    Option.filter_eq_some_iff, Bool.and_eq_true, decide_eq_true_eq, Prod.mk.injEq] at hredeem
  obtain ⟨row, ⟨hrow, hnow, hchallenge⟩, rfl, rfl, rfl⟩ := hredeem
  have hverified : challenge = config.s256 payload.codeVerifier := h.prepared _ List.mem_cons_self
  have hlive : phase (handoffMark code) w.events
      = .live ⟨row.subject, row.codeChallenge, row.expiresAt⟩ := by
    obtain ⟨code', hcode, hphase⟩ := h.handoffs.live _ row hrow
    rwa [hinj hcode] at hphase
  have hother : ∀ c, c ≠ code → phase (handoffMark c)
      (.redeemed code payload.codeVerifier now row.subject :: w.events)
        = phase (handoffMark c) w.events := fun c hc =>
    phase_cons_none (by simp [handoffMark, Ne.symm hc]) _
  have hpending : (if row.subject ∈ config.pocketIdAllowedSubjects then
      .createSession code row.subject row.username :: tasks else tasks).filterMap
        Task.insertedState = tasks.filterMap Task.insertedState := by
    split <;> rfl
  have hs := h.states.cons (.redeemed code payload.codeVerifier now row.subject) (fun _ => rfl)
    (fun _ => rfl)
  refine ⟨⟨hs.live, hs.drawn, ?_, ?_, hs.orderly⟩,
    ⟨fun hash r hr => ?_, fun c hc => ?_, fun c => ?_, fun c => ?_⟩, ?_, fun t ht => ?_⟩
  · rw [hpending]
    exact hs.pending
  · rw [hpending]
    exact hs.once
  · have hr' : (w.store.handoffs.erase (config.hashSessionId code)).lookup hash = some r := hr
    rw [AList.lookup_erase_of] at hr'
    split at hr'
    · cases hr'
    · rename_i hne
      obtain ⟨c, hc, hphase⟩ := h.handoffs.live hash r hr'
      exact ⟨c, hc, (hother c fun e => hne (hc ▸ e ▸ rfl)).trans hphase⟩
  · by_cases hne : c = code
    · subst hne
      exact h.handoffs.drawn c (by rw [hlive]; simp)
    · exact h.handoffs.drawn c ((hother c hne) ▸ hc)
  · have hsessions : tasks.countP (Task.createsSession c) + w.events.countP (Event.exchanges c)
        ≤ w.events.countP (Event.redeems c) := by
      simpa [Task.createsSession] using h.handoffs.sessions c
    rw [List.countP_cons_of_neg (p := Event.exchanges c) (by simp [Event.exchanges])]
    by_cases hne : code = c
    · split <;> simp [Task.createsSession, Event.redeems, hne] <;> omega
    · split <;> simpa [Task.createsSession, Event.redeems, hne] using hsessions
  · by_cases hne : c = code
    · subst hne
      exact (h.handoffs.orderly c).cons_closed (if_pos rfl) fun _ => ⟨_, hlive⟩
    · exact (h.handoffs.orderly c).cons_none (by simp [handoffMark, Ne.symm hne])
        (by simp [Event.redeems, Ne.symm hne])
  · refine ⟨⟨row.expiresAt, ?_, hnow⟩, h.recorded⟩
    rw [← hverified, ← hchallenge]
    exact hlive
  · have hold : ∀ t ∈ tasks, t.Prepared config
        (.redeemed code payload.codeVerifier now row.subject :: w.events) := fun t ht =>
      (h.prepared t (List.mem_cons_of_mem _ ht)).mono (List.subset_cons_self _ _)
    split at ht
    · rename_i hallowed
      rcases List.mem_cons.1 ht with rfl | ht
      · exact ⟨hallowed, payload.codeVerifier, now, List.mem_cons_self⟩
      · exact hold t ht
    · exact hold t ht

theorem Inv.createSession {config : Config} {w : World} {code subject username : String}
    {tasks : List Task} (input : Input)
    (h : Inv config { w with tasks := .createSession code subject username :: tasks }) :
    Inv config {
      store := createPocketSession config input.now input.random subject username w.store
      tasks := tasks
      drawn := input.random :: w.drawn
      events := .exchanged code input.random subject :: w.events } := by
  obtain ⟨hallowed, hredeemed⟩ := h.prepared _ List.mem_cons_self
  have hs := h.states.cons (.exchanged code input.random subject) (fun _ => rfl) (fun _ => rfl)
  refine ⟨⟨hs.live, fun s hp => List.mem_cons_of_mem _ (hs.drawn s hp), fun s hp => ?_, hs.once,
    hs.orderly⟩, ⟨fun hash r hr => ?_, fun c hc => ?_, fun c => ?_, fun c => ?_⟩, ?_, fun t ht => ?_⟩
  · obtain ⟨h1, h2⟩ := hs.pending s hp
    exact ⟨List.mem_cons_of_mem _ h1, h2⟩
  · obtain ⟨c, hcode, hphase⟩ := h.handoffs.live hash r hr
    exact ⟨c, hcode, (phase_cons_none rfl _).trans hphase⟩
  · exact List.mem_cons_of_mem _ (h.handoffs.drawn c fun hf => hc ((phase_cons_none rfl _).trans hf))
  · have hsessions := h.handoffs.sessions c
    rw [List.countP_cons_of_neg (p := Event.redeems c) (by simp [Event.redeems])]
    by_cases hne : code = c
    · simp [Task.createsSession, Event.exchanges, hne] at hsessions ⊢
      omega
    · simpa [Task.createsSession, Event.exchanges, hne] using hsessions
  · exact (h.handoffs.orderly c).cons_none rfl rfl
  · exact ⟨hallowed, hredeemed, h.recorded⟩
  · exact (h.prepared t (List.mem_cons_of_mem _ ht)).mono (List.subset_cons_self _ _)

/-- **One step of one request.** -/
theorem Inv.resume {config : Config} (hinj : Function.Injective config.hashSessionId) {w : World}
    {tasks : List Task} {input : Input} {t : Task} (h : Inv config { w with tasks := t :: tasks })
    (hfresh : input.random ∉ w.drawn) : Inv config (resume config w tasks input t) := by
  have hrest : Inv config { w with tasks := tasks } :=
    h.weaken (fun _ _ hs => hs) (fun _ _ hr => hr) ⟨_, .refl _, List.sublist_cons_self _ _⟩
      (List.Subset.refl _) rfl
  cases t with
  | insertState state row => exact h.insertState
  | identify state row headers =>
    simp only [Auth.resume]
    cases hi : identify config row input.info with
    | error e => exact hrest
    | ok identity =>
      refine hrest.push rfl (fun _ => rfl) ?_
      simp only [identify, Except.bind_eq_ok, Except.ensure_eq_ok, Except.pure_eq_ok] at hi
      obtain ⟨_, _, _, ⟨_, hallowed⟩, rfl⟩ := hi
      exact hallowed
  | issue state identity headers =>
    simp only [Auth.resume]
    cases hi : issuePocketLogin config w.store input.now input.later state identity headers
      input.random with
    | error e => exact hrest
    | ok store => exact h.issue hfresh hi
  | redeem code challenge payload now =>
    simp only [Auth.resume]
    cases hi : redeemHandoff config w.store now code challenge with
    | error e => exact hrest
    | ok r =>
      obtain ⟨store, subject, username⟩ := r
      exact h.redeem hinj hi
  | createSession code subject username => exact h.createSession input

theorem Inv.logout {config : Config} {w : World} {headers : Headers} {store : Store}
    (h : Inv config w) (hlogout : logout config w.store headers = .ok store) :
    Inv config { w with store := store, events := logoutEvents headers ++ w.events } := by
  simp only [Auth.logout, Except.bind_eq_ok, Except.pure_eq_ok] at hlogout
  obtain ⟨_, _, rfl⟩ := hlogout
  have hrevoked : ∀ hash, Inv config { w with store := revokePocketSession hash w.store } :=
    fun hash => h.weaken (fun _ _ hs => hs) (fun _ _ hr => hr) ⟨_, .refl _, List.Sublist.refl _⟩
      (List.Subset.refl _) rfl
  unfold logoutEvents
  cases cookieIdFromHeaders headers .pocketOauth with
  | none =>
    cases cookieIdFromHeaders headers .pocketSession with
    | none => exact h
    | some sessionId => exact hrevoked _
  | some state =>
    cases cookieIdFromHeaders headers .pocketSession with
    | none => exact h.cancel state
    | some sessionId => exact (hrevoked _).cancel state

theorem Inv.step {config : Config} (hinj : Function.Injective config.hashSessionId) {w : World}
    (h : Inv config w) (a : Action) : Inv config (step config w a) := by
  cases a with
  | beginLogin input codeVerifier mobile =>
    simp only [Auth.step]
    cases authorizationRow input.now codeVerifier mobile with
    | error e => exact h
    | ok row =>
      by_cases hfresh : input.random ∈ w.drawn
      · simpa [hfresh] using h
      · simp only [hfresh, if_false]
        have hpruned : Inv config { w with store := pruneStates input.later w.store } :=
          h.weaken (fun s r hs => (AList.lookup_retain.1 hs).1) (fun _ _ hr => hr)
            ⟨_, .refl _, List.Sublist.refl _⟩ (List.Subset.refl _) rfl
        exact hpruned.pushInsert hfresh
  | callback input query headers =>
    simp only [Auth.step]
    cases openCallback w.store input.now query headers with
    | error e => exact h
    | ok r => exact h.push rfl (fun _ => rfl) trivial
  | exchange input payload =>
    simp only [Auth.step]
    cases hn : normalizeExchange config payload with
    | error e => exact h
    | ok r =>
      obtain ⟨code, challenge⟩ := r
      simp only [normalizeExchange, Except.bind_eq_ok, Except.ensure_eq_ok, Except.pure_eq_ok,
        Prod.mk.injEq] at hn
      obtain ⟨_, _, _, _, _, hchallenge⟩ := hn
      have hpruned : Inv config { w with store := pruneHandoffs input.now w.store } :=
        h.weaken (fun _ _ hs => hs) (fun c r hr => (AList.lookup_retain.1 hr).1)
          ⟨_, .refl _, List.Sublist.refl _⟩ (List.Subset.refl _) rfl
      exact hpruned.push rfl (fun _ => rfl) hchallenge.symm
  | logout headers =>
    simp only [Auth.step]
    cases hl : Auth.logout config w.store headers with
    | error e => exact h
    | ok store => exact h.logout hl
  | logoutMobile headers =>
    simp only [Auth.step]
    cases hl : logoutMobileSession config w.store headers with
    | error e => exact h
    | ok store =>
      simp only [logoutMobileSession, Except.bind_eq_ok, Except.pure_eq_ok] at hl
      obtain ⟨_, _, _, _, rfl⟩ := hl
      exact h.weaken (fun _ _ hs => hs) (fun _ _ hr => hr) ⟨_, .refl _, List.Sublist.refl _⟩
        (List.Subset.refl _) rfl
  | check input headers =>
    have hsame : (currentPocketSession config w.store input.now headers).1.states = w.store.states ∧
        (currentPocketSession config w.store input.now headers).1.handoffs = w.store.handoffs := by
      unfold currentPocketSession
      cases pocketSessionIdFromHeaders headers with
      | none => exact ⟨rfl, rfl⟩
      | some cookieId =>
        simp only
        cases w.store.sessions.lookup (config.hashSessionId cookieId) with
        | none => exact ⟨rfl, rfl⟩
        | some row => simp only; split <;> exact ⟨rfl, rfl⟩
    refine h.weaken (fun s r hs => ?_) (fun c r hr => ?_) ⟨_, .refl _, List.Sublist.refl _⟩
      (List.Subset.refl _) rfl
    · exact hsame.1 ▸ hs
    · exact hsame.2 ▸ hr
  | resume task input =>
    simp only [Auth.step]
    by_cases hfresh : input.random ∈ w.drawn
    · simpa [hfresh] using h
    · simp only [hfresh, if_false]
      cases ht : w.tasks[task]? with
      | none => exact h
      | some t =>
        have hperm : w.tasks.Perm (t :: w.tasks.eraseIdx task) := by
          obtain ⟨hlt, rfl⟩ := List.getElem?_eq_some_iff.1 ht
          exact (List.getElem_cons_eraseIdx_perm hlt).symm
        have hfront : Inv config { w with tasks := t :: w.tasks.eraseIdx task } :=
          h.weaken (fun _ _ hs => hs) (fun _ _ hr => hr) ⟨_, hperm, List.Sublist.refl _⟩
            (List.Subset.refl _) rfl
        exact hfront.resume hinj hfresh

/-- **Every run keeps the invariant.** -/
theorem inv_run {config : Config} (hinj : Function.Injective config.hashSessionId)
    (actions : List Action) : Inv config (run config actions) := by
  unfold run
  have hkeep : ∀ {w : World}, Inv config w → Inv config (actions.foldl (step config) w) := by
    induction actions with
    | nil => exact id
    | cons a actions ih => exact fun h => ih (h.step hinj a)
  exact hkeep (.initial config)

/-! ## The log of a run -/

theorem Recorded.suffix {config : Config} {older : List Event} : ∀ {newer : List Event},
    Recorded config (newer ++ older) → Recorded config older := by
  intro newer
  induction newer with
  | nil => exact id
  | cons e newer ih =>
    intro h
    cases e with
    | issued state now credential => exact ih h.2.2
    | redeemed code verifier now subject => exact ih h.2
    | exchanged code cookieId subject => exact ih h.2.2
    | _ => exact ih h

/-- Only a start opens a state. -/
theorem started_of_live {state : String} {expiresAt : Int} {l : List Event}
    (h : phase (stateMark state) l = .live expiresAt) : .started state expiresAt ∈ l := by
  obtain ⟨e, he, hmark⟩ := phase_live_opened h
  cases e with
  | started s x =>
    simp only [stateMark] at hmark
    split at hmark
    · cases hmark
      subst_vars
      exact he
    · cases hmark
  | issued s now credential => simp only [stateMark] at hmark; split at hmark <;> cases hmark
  | cancelled s => simp only [stateMark] at hmark; split at hmark <;> cases hmark
  | redeemed code verifier now subject => cases hmark
  | exchanged code cookieId subject => cases hmark

/-- Only an issued handoff opens its code. -/
theorem issued_of_live {code : String} {a : Handoff} {l : List Event}
    (h : phase (handoffMark code) l = .live a) :
    ∃ state now, .issued state now (.handoff code a.subject a.codeChallenge a.expiresAt) ∈ l := by
  obtain ⟨e, he, hmark⟩ := phase_live_opened h
  cases e with
  | issued s now credential =>
    cases credential with
    | session cookieId subject => cases hmark
    | handoff c subject challenge expiresAt =>
      simp only [handoffMark] at hmark
      split at hmark
      · cases hmark
        subst_vars
        exact ⟨s, now, he⟩
      · cases hmark
  | redeemed c verifier now subject => simp only [handoffMark] at hmark; split at hmark <;> cases hmark
  | started s x => cases hmark
  | cancelled s => cases hmark
  | exchanged c cookieId subject => cases hmark

/-- What the log of a run of the server says about its sign-ins. -/
structure SignInsSafe (config : Config) (events : List Event) : Prop where
  issuedOnce : ∀ state, events.countP (Event.issues state) ≤ 1
  issuedInTime : ∀ newer older state now credential,
    events = newer ++ .issued state now credential :: older →
    ∃ expiresAt, .started state expiresAt ∈ older ∧ now < expiresAt
  notAfterLogout : ∀ newer older state, events = newer ++ .cancelled state :: older →
    (∃ expiresAt, .started state expiresAt ∈ older) → ∀ e ∈ newer, e.issues state = false
  exchangedOnce : ∀ code, events.countP (Event.exchanges code) ≤ 1
  exchangedProperly : ∀ newer older code cookieId subject,
    events = newer ++ .exchanged code cookieId subject :: older →
    ∃ state issuedAt verifier now expiresAt,
      .redeemed code verifier now subject ∈ older ∧
      .issued state issuedAt (.handoff code subject (some (config.s256 verifier)) expiresAt) ∈ older ∧
      now < expiresAt
  issuedAllowed : ∀ state now credential, .issued state now credential ∈ events →
    credential.subject ∈ config.pocketIdAllowedSubjects
  exchangedAllowed : ∀ code cookieId subject, .exchanged code cookieId subject ∈ events →
    subject ∈ config.pocketIdAllowedSubjects

theorem redeemed_recorded {config : Config} {l : List Event} {code verifier : String} {now : Int}
    {subject : String} (h : Recorded config l) (hmem : .redeemed code verifier now subject ∈ l) :
    ∃ state issuedAt expiresAt,
      .issued state issuedAt (.handoff code subject (some (config.s256 verifier)) expiresAt) ∈ l ∧
      now < expiresAt := by
  obtain ⟨newer, older, rfl⟩ := List.append_of_mem hmem
  obtain ⟨⟨expiresAt, hlive, hnow⟩, _⟩ := h.suffix
  obtain ⟨state, issuedAt, hissued⟩ := issued_of_live hlive
  exact ⟨state, issuedAt, expiresAt,
    List.mem_append_right _ (List.mem_cons_of_mem _ hissued), hnow⟩

theorem Inv.signInsSafe {config : Config} {w : World} (h : Inv config w) :
    SignInsSafe config w.events where
  issuedOnce state := (h.states.orderly state).countP_uses.1
  issuedInTime newer older state now credential hsplit := by
    have hrec := h.recorded
    rw [hsplit] at hrec
    obtain ⟨⟨expiresAt, hlive, hnow⟩, _⟩ := hrec.suffix
    exact ⟨expiresAt, started_of_live hlive, hnow⟩
  notAfterLogout newer older state hsplit hstarted := by
    obtain ⟨expiresAt, hmem⟩ := hstarted
    have hord := h.states.orderly state
    rw [hsplit] at hord
    exact hord.no_use_after_closed (if_pos rfl) ⟨_, hmem, expiresAt, if_pos rfl⟩
  exchangedOnce code := by
    have hsessions := h.handoffs.sessions code
    have hredeemed := (h.handoffs.orderly code).countP_uses.1
    omega
  exchangedProperly newer older code cookieId subject hsplit := by
    have hrec := h.recorded
    rw [hsplit] at hrec
    obtain ⟨_, ⟨verifier, now, hmem⟩, holder⟩ := hrec.suffix
    obtain ⟨state, issuedAt, expiresAt, hissued, hnow⟩ := redeemed_recorded holder hmem
    exact ⟨state, issuedAt, verifier, now, expiresAt, hmem, hissued, hnow⟩
  issuedAllowed state now credential hmem := by
    obtain ⟨newer, older, hsplit⟩ := List.append_of_mem hmem
    have hrec := h.recorded
    rw [hsplit] at hrec
    exact hrec.suffix.2.1
  exchangedAllowed code cookieId subject hmem := by
    obtain ⟨newer, older, hsplit⟩ := List.append_of_mem hmem
    have hrec := h.recorded
    rw [hsplit] at hrec
    exact hrec.suffix.1

/-- A callback without the cookie of its state changes nothing. -/
theorem step_callback_mismatch (config : Config) (w : World) (input : Input) (query : OAuthCallback)
    (headers : Headers) (h : cookieIdFromHeaders headers .pocketOauth = none ∨
      query.state ≠ cookieIdFromHeaders headers .pocketOauth) :
    step config w (.callback input query headers) = w := by
  have hrefused : ∀ r, openCallback w.store input.now query headers ≠ .ok r := by
    intro r hr
    simp only [openCallback, Except.bind_eq_ok, Except.ensure_eq_ok] at hr
    obtain ⟨_, ⟨hsome, hsame⟩, _⟩ := hr
    rcases h with h | h
    · simp [h] at hsome
    · exact h hsame
  simp only [step]
  cases hc : openCallback w.store input.now query headers with
  | ok r => exact absurd hc (hrefused r)
  | error e => rfl

/-- **Sign-ins and handoffs are single use**, whatever the interleaving; and a callback from another
browser consumes nothing. -/
theorem signIns_safe {config : Config} (hinj : Function.Injective config.hashSessionId)
    (actions : List Action) :
    SignInsSafe config (run config actions).events ∧
      ∀ input query headers, (cookieIdFromHeaders headers .pocketOauth = none ∨
        query.state ≠ cookieIdFromHeaders headers .pocketOauth) →
        step config (run config actions) (.callback input query headers) = run config actions :=
  ⟨(inv_run hinj actions).signInsSafe, step_callback_mismatch config _⟩

/-- Sixty-four times one digit. -/
def idOf (c : Char) : String := String.ofList (List.replicate 64 c)

/-- One allowed person; the hashes are left open. -/
def couple : Config := ⟨["ana"], id, fun _ => String.ofList (List.replicate 43 'A')⟩

/-- A phone signs in: the sign-in `a`, its handoff code `b`, its session `c`. -/
def phoneSignIn : List Action :=
  let headers : Headers := ⟨[(.pocketOauth, idOf 'a')], none, true, true⟩
  [.beginLogin ⟨0, 0, idOf 'a', none⟩ "verifier"
      (some ⟨none, some (String.ofList (List.replicate 43 'A'))⟩),
    .resume 0 ⟨0, 0, idOf '0', none⟩,
    .callback ⟨60, 60, idOf '0', none⟩ ⟨some (idOf 'a'), some "code", none⟩ headers,
    .resume 0 ⟨61, 61, idOf '0', some ⟨" ana ", "Ana"⟩⟩,
    .resume 0 ⟨62, 62, idOf 'b', none⟩,
    .exchange ⟨70, 70, idOf '0', none⟩ ⟨idOf 'b', String.ofList (List.replicate 43 'v')⟩,
    .resume 0 ⟨70, 70, idOf '0', none⟩,
    .resume 0 ⟨71, 71, idOf 'c', none⟩]

theorem signIns_safe_phone :
    SignInsSafe couple (run couple phoneSignIn).events ∧
      (run couple phoneSignIn).events.countP (Event.exchanges (idOf 'b')) = 1 :=
  ⟨(signIns_safe (Function.injective_id) phoneSignIn).1, by decide +kernel⟩

end Server.Auth
