import Presto.Lib.SingleUse
import Presto.Server.Google

/-!
# Google sign-ins, sign-outs and access tokens, interleaved

As in `Presto.SignIn`, requests advance in steps and what one still has to do is a `Task`. Pocket ID
sessions come and go while Google sign-ins, reads of the session and refreshes of its token are under
way. `events` records, newest first, what happened to the Pocket ID sessions (`signedIn`, `revoked`),
to the sign-ins (`started`, `consumed`), and what was done for a Pocket ID session: a Google session
was `linked` to it, its email was `shown`, an access token was `served`. Here are the steps, the
invariant of the runs, and what each kind of event preserves.
-/

namespace Server.Google

open SingleUse
open Auth (Headers OAuthCallback SESSION_TTL_SECONDS OAUTH_STATE_TTL_SECONDS cookieIdFromHeaders)

inductive Event
  | signedIn (pocketHash subject : String)
  | revoked (pocketHash : String)
  | started (state pocketHash : String) (forceConsent : Bool) (expiresAt : Int)
  | consumed (state pocketHash : String) (forceConsent : Bool) (now : Int)
  | linked (idHash pocketHash email : String)
  | shown (idHash pocketHash email : String)
  | served (idHash pocketHash email accessToken : String)
deriving DecidableEq

/-- The next step of a request. -/
inductive Task
  | authorize (pocketHash : String) (forceConsent : Bool)
  | insertState (state pocketHash codeVerifier : String) (forceConsent : Bool) (expiresAt : Int)
  | consume (pocket : ActivePocketSession) (query : OAuthCallback)
  | identify (pocket : ActivePocketSession) (row : OAuthState) (code : String)
  | saveAccount (pocket : ActivePocketSession) (email refreshToken : String)
      (token : GoogleTokenResponse)
  | insertSession (pocket : ActivePocketSession) (email : String) (token : GoogleTokenResponse)
  | showSession (pocket : ActivePocketSession) (idHash : String)
  | readSession (pocket : ActivePocketSession) (idHash : String)
  | deleteSession (idHash : String)
  | readRefreshToken (idHash pocketHash email : String)
  | refresh (idHash pocketHash email refreshToken : String)
  | deleteSessionsOf (email : String)
  | saveRefreshToken (email refreshToken : String)

structure World where
  store : Store
  tasks : List Task
  drawn : List String
  events : List Event

/-- What a step reads: the clock (twice), the random values it draws, the answers of Google. -/
structure Input where
  now : Int
  later : Int
  random : String
  nonce : String
  tokenAnswer : Option (Nat × TokenBody)
  userAnswer : Option (Nat × Option GoogleUserInfo)

inductive Action
  | pocketSignIn (input : Input) (subject username : String) (previous : Option String)
  | logout (headers : Headers)
  | logoutMobile (headers : Headers)
  | beginLogin (input : Input) (headers : Headers)
  | callback (input : Input) (headers : Headers) (query : OAuthCallback)
  | getSession (input : Input) (headers : Headers)
  | runGateway (input : Input) (headers : Headers)
  | resume (task : Nat) (input : Input)

def World.revoke (w : World) (pocketHash : String) : World :=
  { w with
    store := revokePocketSession pocketHash w.store
    events := .revoked pocketHash :: w.events }

/-- A request begins with the check of its Pocket ID session. -/
def World.check (config : Config) (w : World) (now : Int) (headers : Headers)
    (next : ActivePocketSession → Option Task) : World :=
  match checkPocketSession config w.store now headers with
  | .absent => w
  | .stale pocketHash => w.revoke pocketHash
  | .active pocket => { w with tasks := (next pocket).toList ++ w.tasks }

/-- A callback takes its state, and goes on unless the Pocket ID session has expired meanwhile. -/
def consume (w : World) (tasks : List Task) (input : Input) (pocket : ActivePocketSession)
    (query : OAuthCallback) : Except ApiError World := do
  let (oauthState, code) ← openCallback query
  let (store, row) ← takeState w.store input.now oauthState pocket
  return { w with
    store := store
    tasks := if pocket.expiresAt ≤ input.later then tasks else .identify pocket row code :: tasks
    events := .consumed oauthState pocket.idHash row.forceConsent input.now :: w.events }

def resumeRefresh (config : Config) (w : World) (tasks : List Task) (input : Input)
    (idHash pocketHash email : String) : World :=
  match requestGoogleToken input.tokenAnswer with
  | .error error => { w with
      tasks := if error.status = .unauthorized then .deleteSessionsOf email :: tasks else tasks }
  | .ok token =>
    match refreshSession config w.store input.now input.nonce idHash token with
    | .error _ => { w with tasks := tasks }
    | .ok store => { w with
        store := store
        tasks := (token.refreshToken.map (.saveRefreshToken email)).toList ++ tasks
        events := .served idHash pocketHash email token.accessToken :: w.events }

/-- The next step of a request, `tasks` being the other requests. -/
def resume (config : Config) (w : World) (tasks : List Task) (input : Input) : Task → World
  | .authorize pocketHash forceConsent => { w with
      store := pruneStates input.later w.store
      tasks := .insertState input.random pocketHash input.nonce forceConsent
        (input.now + OAUTH_STATE_TTL_SECONDS) :: tasks
      drawn := input.random :: w.drawn }
  | .insertState state pocketHash codeVerifier forceConsent expiresAt => { w with
      store := insertState state ⟨codeVerifier, forceConsent, expiresAt, some pocketHash⟩ w.store
      tasks := tasks
      events := .started state pocketHash forceConsent expiresAt :: w.events }
  | .consume pocket query =>
    match consume w tasks input pocket query with
    | .ok w' => w'
    | .error _ => { w with tasks := tasks }
  | .identify pocket row _ =>
    match identify config w.store row.forceConsent input.tokenAnswer input.userAnswer with
    | .ok (.account email refreshToken token) =>
      { w with tasks := .saveAccount pocket email refreshToken token :: tasks }
    | .ok .needConsent => { w with tasks := .authorize pocket.idHash true :: tasks }
    | .error _ => { w with tasks := tasks }
  | .saveAccount pocket email refreshToken token =>
    match config.encryptSecret input.nonce refreshToken with
    | some encrypted => { w with
        store := saveAccount input.now email encrypted w.store
        tasks := .insertSession pocket email token :: tasks }
    | none => { w with tasks := tasks }
  | .insertSession pocket email token =>
    match insertGoogleSession config w.store input.now input.random input.nonce pocket email
      token with
    | .ok store => {
        store := store
        tasks := tasks
        drawn := input.random :: w.drawn
        events := .linked (config.auth.hashSessionId input.random) pocket.idHash email
          :: w.events }
    | .error _ => { w with tasks := tasks }
  | .showSession pocket idHash =>
    match sessionInfo config w.store input.now pocket idHash with
    | some email => { w with
        tasks := tasks
        events := .shown idHash pocket.idHash email :: w.events }
    | none => { w with tasks := tasks }
  | .readSession pocket idHash =>
    match readSession config w.store input.now pocket idHash with
    | .ok .stale => { w with tasks := .deleteSession idHash :: tasks }
    | .ok (.token email accessToken) => { w with
        tasks := tasks
        events := .served idHash pocket.idHash email accessToken :: w.events }
    | .ok (.refresh email) =>
      { w with tasks := .readRefreshToken idHash pocket.idHash email :: tasks }
    | .error _ => { w with tasks := tasks }
  | .deleteSession idHash => { w with store := deleteSession idHash w.store, tasks := tasks }
  | .readRefreshToken idHash pocketHash email =>
    match readRefreshToken config w.store email with
    | .ok refreshToken => { w with
        tasks := .refresh idHash pocketHash email refreshToken :: tasks }
    | .error _ => { w with tasks := tasks }
  | .refresh idHash pocketHash email _ =>
    resumeRefresh config w tasks input idHash pocketHash email
  | .deleteSessionsOf email => { w with store := deleteSessionsOf email w.store, tasks := tasks }
  | .saveRefreshToken email refreshToken =>
    match config.encryptSecret input.nonce refreshToken with
    | some encrypted => { w with
        store := saveRefreshToken input.now email encrypted w.store
        tasks := tasks }
    | none => { w with tasks := tasks }

/-- The hash of the Google session that a request names. -/
def sessionHash (config : Config) (headers : Headers) : Option String :=
  (cookieIdFromHeaders headers .session).map config.auth.hashSessionId

/-- A browser that signs in again revokes the session that it had. -/
def pocketSignIn (config : Config) (w : World) (input : Input) (subject username : String) : World :=
  { w with
    store := { w.store with
      auth := Auth.createPocketSession config.auth input.now input.random subject username
        w.store.auth }
    drawn := input.random :: w.drawn
    events := .signedIn (config.auth.hashSessionId input.random) subject :: w.events }

/-- A step of one request. `shown` and `served` are recorded at its last statement on the sessions, before
the answer leaves and before a new refresh token is saved. -/
def step (config : Config) (w : World) : Action → World
  | .pocketSignIn input subject username previous =>
    if input.random ∈ w.drawn ∨ subject ∉ config.auth.pocketIdAllowedSubjects then w
    else match previous with
      | some pocketHash => pocketSignIn config (w.revoke pocketHash) input subject username
      | none => pocketSignIn config w input subject username
  | .logout headers =>
    match logout config w.store headers with
    | .ok store => { w with
        store := store
        events := ((loggedOut config headers).map .revoked).toList ++ w.events }
    | .error _ => w
  | .logoutMobile headers =>
    match mobileLoggedOut config headers with
    | .ok pocketHash => w.revoke pocketHash
    | .error _ => w
  | .beginLogin input headers =>
    w.check config input.now headers fun pocket => some (.authorize pocket.idHash false)
  | .callback input headers query =>
    w.check config input.now headers fun pocket => some (.consume pocket query)
  | .getSession input headers =>
    w.check config input.now headers fun pocket =>
      (sessionHash config headers).map (.showSession pocket)
  | .runGateway input headers =>
    w.check config input.now headers fun pocket =>
      (sessionHash config headers).map (.readSession pocket)
  | .resume task input =>
    if input.random ∈ w.drawn then w
    else match w.tasks[task]? with
      | some t => resume config w (w.tasks.eraseIdx task) input t
      | none => w

/-- Nobody has signed in yet. -/
def World.initial : World := ⟨⟨⟨∅, ∅, ∅⟩, ∅, ∅, ∅⟩, [], [], []⟩

def run (config : Config) (actions : List Action) : World :=
  actions.foldl (step config) World.initial

/-! ## What the events say about one session and one state -/

/-- A Pocket ID session is opened by a sign-in and closed by its revocation. -/
def pocketMark (pocketHash : String) : Event → Mark String
  | .signedIn h subject => if h = pocketHash then .opened subject else .none
  | .revoked h => if h = pocketHash then .closed else .none
  | _ => .none

/-- What is done for a Pocket ID session. -/
def Event.uses (pocketHash : String) : Event → Bool
  | .linked _ h _ => h = pocketHash
  | .shown _ h _ => h = pocketHash
  | .served _ h _ _ => h = pocketHash
  | _ => false

/-- A sign-in under way: whose it is, whether it asks for consent, and until when it can go on. -/
structure Pending where
  pocketHash : String
  forceConsent : Bool
  expiresAt : Int

def stateMark (state : String) : Event → Mark Pending
  | .started s pocketHash forceConsent expiresAt =>
    if s = state then .opened ⟨pocketHash, forceConsent, expiresAt⟩ else .none
  | .consumed s _ _ _ => if s = state then .closed else .none
  | _ => .none

def Event.consumes (state : String) : Event → Bool
  | .consumed s _ _ _ => s = state
  | _ => false

/-- What a Google session was linked to. -/
structure Link where
  pocketHash : String
  email : String

def linkMark (idHash : String) : Event → Mark Link
  | .linked k pocketHash email => if k = idHash then .opened ⟨pocketHash, email⟩ else .none
  | _ => .none

/-- A sign-in that asks for consent. -/
def Event.asksConsent : Event → Bool
  | .started _ _ forceConsent _ => forceConsent
  | _ => false

/-- A sign-in that came back and had not asked for consent. -/
def Event.mayNeedConsent : Event → Bool
  | .consumed _ _ forceConsent _ => !forceConsent
  | _ => false

/-- A request that asks for consent, or may come to it. -/
def Task.asksConsent : Task → Bool
  | .authorize _ forceConsent => forceConsent
  | .insertState _ _ _ forceConsent _ => forceConsent
  | .identify _ row _ => !row.forceConsent
  | _ => false

def Task.insertedState : Task → Option String
  | .insertState state _ _ _ _ => some state
  | _ => none

/-- What an event must find in the events before it. -/
def Recorded (config : Config) : List Event → Prop
  | [] => True
  | .consumed state pocketHash forceConsent now :: l =>
    (∃ expiresAt, phase (stateMark state) l = .live ⟨pocketHash, forceConsent, expiresAt⟩ ∧
      now < expiresAt) ∧ Recorded config l
  | .linked _ _ email :: l => email ∈ config.allowedEmails ∧ Recorded config l
  | .shown idHash pocketHash email :: l =>
    phase (linkMark idHash) l = .live ⟨pocketHash, email⟩ ∧ Recorded config l
  | .served idHash pocketHash email _ :: l =>
    phase (linkMark idHash) l = .live ⟨pocketHash, email⟩ ∧ Recorded config l
  | _ :: l => Recorded config l

/-- What a task may rely on. -/
def Task.Prepared (config : Config) (w : World) : Task → Prop
  | .saveAccount _ email _ _ => email ∈ config.allowedEmails
  | .insertSession _ email _ =>
    email ∈ config.allowedEmails ∧ (w.store.googleAccounts.lookup email).isSome = true
  | .readRefreshToken idHash pocketHash email =>
    phase (linkMark idHash) w.events = .live ⟨pocketHash, email⟩
  | .refresh idHash pocketHash email _ =>
    phase (linkMark idHash) w.events = .live ⟨pocketHash, email⟩
  | _ => True

/-- The Pocket ID sessions: a row is one of a session that was not revoked, and none is used after. -/
structure PocketInv (config : Config) (w : World) : Prop where
  live : ∀ h row, w.store.auth.sessions.lookup h = some row →
    phase (pocketMark h) w.events = .live row.subject
  drawn : ∀ h, phase (pocketMark h) w.events ≠ .fresh →
    ∃ id ∈ w.drawn, config.auth.hashSessionId id = h
  used : ∀ h, WhileLive (pocketMark h) (Event.uses h) w.events

/-- The states: their rows are live, fresh ones are still to be inserted, and no id is used twice. -/
structure StatesInv (w : World) : Prop where
  live : ∀ state row, w.store.oauthStates.lookup state = some row → ∃ h,
    row.pocketSessionHash = some h ∧
      phase (stateMark state) w.events = .live ⟨h, row.forceConsent, row.expiresAt⟩
  drawn : ∀ state, phase (stateMark state) w.events ≠ .fresh → state ∈ w.drawn
  pending : ∀ state ∈ w.tasks.filterMap Task.insertedState,
    state ∈ w.drawn ∧ phase (stateMark state) w.events = .fresh
  once : (w.tasks.filterMap Task.insertedState).Nodup
  orderly : ∀ state, Orderly (stateMark state) (Event.consumes state) w.events
  consent : w.tasks.countP Task.asksConsent + w.events.countP Event.asksConsent
    ≤ w.events.countP Event.mayNeedConsent

/-- The Google sessions: a row is linked to a Pocket ID session that was not revoked, and to an
account. -/
structure LinksInv (config : Config) (w : World) : Prop where
  linked : ∀ k row, w.store.sessions.lookup k = some row → ∃ h subject,
    row.pocketSessionHash = some h ∧ phase (linkMark k) w.events = .live ⟨h, row.email⟩ ∧
      phase (pocketMark h) w.events = .live subject
  account : ∀ k row, w.store.sessions.lookup k = some row →
    (w.store.googleAccounts.lookup row.email).isSome = true
  drawn : ∀ k, phase (linkMark k) w.events ≠ .fresh →
    ∃ id ∈ w.drawn, config.auth.hashSessionId id = k

structure Inv (config : Config) (w : World) : Prop where
  pocket : PocketInv config w
  states : StatesInv w
  links : LinksInv config w
  recorded : Recorded config w.events
  prepared : ∀ task ∈ w.tasks, task.Prepared config w

theorem Inv.initial (config : Config) : Inv config World.initial where
  pocket := ⟨by simp [World.initial], by simp [World.initial, phase], fun _ => trivial⟩
  states := ⟨by simp [World.initial], by simp [World.initial, phase], by simp [World.initial],
    by simp [World.initial], fun _ => trivial, by simp [World.initial]⟩
  links := ⟨by simp [World.initial], by simp [World.initial], by simp [World.initial, phase]⟩
  recorded := trivial
  prepared := by simp [World.initial]

/-! ## What a step preserves -/

variable {config : Config} {w w' : World}

/-- Tasks stay prepared while accounts and links stay. -/
theorem Task.Prepared.mono {t : Task} (h : t.Prepared config w)
    (haccounts : ∀ email, (w.store.googleAccounts.lookup email).isSome = true →
      (w'.store.googleAccounts.lookup email).isSome = true)
    (hlinks : ∀ k link, phase (linkMark k) w.events = .live link →
      phase (linkMark k) w'.events = .live link) : t.Prepared config w' := by
  cases t with
  | insertSession pocket email token => exact ⟨h.1, haccounts email h.2⟩
  | readRefreshToken idHash pocketHash email => exact hlinks _ _ h
  | refresh idHash pocketHash email refreshToken => exact hlinks _ _ h
  | _ => exact h

/-- The rows of a store that says no more than another one. -/
structure Store.Within (store' store : Store) : Prop where
  pocket : ∀ h row, store'.auth.sessions.lookup h = some row →
    store.auth.sessions.lookup h = some row
  states : ∀ state row, store'.oauthStates.lookup state = some row →
    store.oauthStates.lookup state = some row
  sessions : ∀ k row', store'.sessions.lookup k = some row' → ∃ row,
    store.sessions.lookup k = some row ∧ row.email = row'.email ∧
      row.pocketSessionHash = row'.pocketSessionHash
  accounts : ∀ email, (store.googleAccounts.lookup email).isSome = true →
    (store'.googleAccounts.lookup email).isSome = true

theorem Store.Within.refl (store : Store) : store.Within store :=
  ⟨fun _ _ h => h, fun _ _ h => h, fun _ row h => ⟨row, h, rfl, rfl⟩, fun _ h => h⟩

/-- The tasks that a step leaves: none that inserts a state or asks for consent is new, and the new
ones are prepared. -/
structure TasksFrom (config : Config) (w w' : World) : Prop where
  inserted : ∃ l, (w.tasks.filterMap Task.insertedState).Perm l ∧
    (w'.tasks.filterMap Task.insertedState).Sublist l
  consent : w'.tasks.countP Task.asksConsent ≤ w.tasks.countP Task.asksConsent
  prepared : ∀ t ∈ w'.tasks, t ∈ w.tasks ∨ t.Prepared config w'

/-- **A step without an event**: rows may vanish, and requests stop or go on. -/
theorem Inv.frame (h : Inv config w) (hstore : w'.store.Within w.store)
    (htasks : TasksFrom config w w') (hdrawn : w.drawn ⊆ w'.drawn) (hevents : w'.events = w.events) :
    Inv config w' := by
  obtain ⟨⟨hpl, hpd, hpu⟩, ⟨hsl, hsd, hsp, hso, hsord, hsc⟩, ⟨hll, hla, hld⟩, hrec, hprep⟩ := h
  obtain ⟨l, hperm, hsub⟩ := htasks.inserted
  refine ⟨⟨fun k row hrow => ?_, fun k hk => ?_, fun k => ?_⟩,
    ⟨fun s row hrow => ?_, fun s hs => ?_, fun s hs => ?_, ?_, fun s => ?_, ?_⟩,
    ⟨fun k row hrow => ?_, fun k row hrow => ?_, fun k hk => ?_⟩, ?_, fun t ht => ?_⟩
  · rw [hevents]
    exact hpl k row (hstore.pocket k row hrow)
  · obtain ⟨id, hid, heq⟩ := hpd k (hevents ▸ hk)
    exact ⟨id, hdrawn hid, heq⟩
  · rw [hevents]
    exact hpu k
  · rw [hevents]
    exact hsl s row (hstore.states s row hrow)
  · exact hdrawn (hsd s (hevents ▸ hs))
  · obtain ⟨h1, h2⟩ := hsp s (hperm.mem_iff.2 (hsub.subset hs))
    exact ⟨hdrawn h1, hevents ▸ h2⟩
  · exact hsub.nodup (hperm.nodup_iff.1 hso)
  · rw [hevents]
    exact hsord s
  · rw [hevents]
    exact (Nat.add_le_add_right htasks.consent _).trans hsc
  · obtain ⟨old, hold, hemail, hpocket⟩ := hstore.sessions k row hrow
    rw [← hemail, ← hpocket, hevents]
    exact hll k old hold
  · obtain ⟨old, hold, hemail, -⟩ := hstore.sessions k row hrow
    rw [← hemail]
    exact hstore.accounts _ (hla k old hold)
  · obtain ⟨id, hid, heq⟩ := hld k (hevents ▸ hk)
    exact ⟨id, hdrawn hid, heq⟩
  · rw [hevents]
    exact hrec
  · rcases htasks.prepared t ht with hold | hnew
    · exact (hprep t hold).mono hstore.accounts fun k link hlink => hevents ▸ hlink
    · exact hnew

/-- An event that concerns no Pocket ID session. -/
theorem PocketInv.cons (h : PocketInv config w) (e : Event)
    (hmark : ∀ pocketHash, pocketMark pocketHash e = .none)
    (huse : ∀ pocketHash, e.uses pocketHash = true →
      ∃ subject, phase (pocketMark pocketHash) w.events = .live subject) :
    PocketInv config { w with events := e :: w.events } := by
  obtain ⟨hl, hd, hu⟩ := h
  refine ⟨fun k row hrow => ?_, fun k hk => ?_, fun k => ⟨huse k, hu k⟩⟩
  · exact (phase_cons_none (hmark k) _).trans (hl k row hrow)
  · exact hd k ((phase_cons_none (hmark k) w.events) ▸ hk)

/-- An event that concerns no sign-in. -/
theorem StatesInv.cons (h : StatesInv w) (e : Event) (hmark : ∀ state, stateMark state e = .none)
    (hconsume : ∀ state, e.consumes state = false) (hasks : e.asksConsent = false)
    (hmay : e.mayNeedConsent = false) : StatesInv { w with events := e :: w.events } := by
  obtain ⟨hl, hd, hp, ho, hord, hc⟩ := h
  refine ⟨fun s row hrow => ?_, fun s hs => ?_, fun s hs => ?_, ho, fun s => ?_, ?_⟩
  · obtain ⟨k, hk, hphase⟩ := hl s row hrow
    exact ⟨k, hk, (phase_cons_none (hmark s) _).trans hphase⟩
  · exact hd s ((phase_cons_none (hmark s) w.events) ▸ hs)
  · exact ⟨(hp s hs).1, (phase_cons_none (hmark s) _).trans (hp s hs).2⟩
  · exact (hord s).cons_none (hmark s) (hconsume s)
  · simpa [hasks, hmay] using hc

/-- An event that links nothing and revokes nothing. -/
theorem LinksInv.cons (h : LinksInv config w) (e : Event)
    (hpocket : ∀ pocketHash, pocketMark pocketHash e ≠ .closed)
    (hlink : ∀ k, linkMark k e = .none) :
    LinksInv config { w with events := e :: w.events } := by
  obtain ⟨hl, ha, hd⟩ := h
  refine ⟨fun k row hrow => ?_, ha, fun k hk => ?_⟩
  · obtain ⟨pocketHash, subject, hsome, hlinked, hlive⟩ := hl k row hrow
    exact ⟨pocketHash, subject, hsome, (phase_cons_none (hlink k) _).trans hlinked,
      phase_live_cons hlive (hpocket pocketHash)⟩
  · exact hd k ((phase_cons_none (hlink k) w.events) ▸ hk)

theorem linkMark_ne_closed (k : String) (e : Event) : linkMark k e ≠ .closed := by
  cases e with
  | linked idHash pocketHash email =>
    unfold linkMark
    by_cases h : idHash = k
    · simp [h]
    · simp [h]
  | _ => simp [linkMark]

theorem prepared_cons (h : ∀ t ∈ w.tasks, t.Prepared config w) (e : Event) :
    ∀ t ∈ w.tasks, t.Prepared config { w with events := e :: w.events } := by
  intro t ht
  refine (h t ht).mono (fun _ ha => ha) fun k link hlink => ?_
  exact phase_live_cons hlink (linkMark_ne_closed k e)

/-- Something is done for the Pocket ID session that a Google session is linked to. -/
theorem Inv.use {k pocketHash : String} {row : Session} (h : Inv config w)
    (hrow : w.store.sessions.lookup k = some row) (hlinked : row.pocketSessionHash = some pocketHash)
    (e : Event) (he : e = .shown k pocketHash row.email ∨
      ∃ accessToken, e = .served k pocketHash row.email accessToken) :
    Inv config { w with events := e :: w.events } := by
  obtain ⟨owner, subject, howner, hlink, hlive⟩ := h.links.linked k row hrow
  obtain rfl : owner = pocketHash := Option.some.inj (howner.symm.trans hlinked)
  have huse : ∀ other, e.uses other = true →
      ∃ subject, phase (pocketMark other) w.events = .live subject := by
    intro other hother
    have hsame : owner = other := by
      rcases he with rfl | ⟨accessToken, rfl⟩
      · exact of_decide_eq_true hother
      · exact of_decide_eq_true hother
    exact ⟨subject, hsame ▸ hlive⟩
  rcases he with rfl | ⟨accessToken, rfl⟩
  · exact ⟨h.pocket.cons _ (fun _ => rfl) huse,
      h.states.cons _ (fun _ => rfl) (fun _ => rfl) rfl rfl,
      h.links.cons _ (fun _ => by simp [pocketMark]) (fun _ => rfl), ⟨hlink, h.recorded⟩,
      prepared_cons h.prepared _⟩
  · exact ⟨h.pocket.cons _ (fun _ => rfl) huse,
      h.states.cons _ (fun _ => rfl) (fun _ => rfl) rfl rfl,
      h.links.cons _ (fun _ => by simp [pocketMark]) (fun _ => rfl), ⟨hlink, h.recorded⟩,
      prepared_cons h.prepared _⟩

/-- With a Pocket ID session goes what is linked to it. -/
theorem Inv.revoke (h : Inv config w) (pocketHash : String) : Inv config (w.revoke pocketHash) := by
  obtain ⟨⟨hpl, hpd, hpu⟩, hstates, ⟨hll, hla, hld⟩, hrec, hprep⟩ := h
  have hother : ∀ k, k ≠ pocketHash → phase (pocketMark k) (.revoked pocketHash :: w.events)
      = phase (pocketMark k) w.events := fun k hk =>
    phase_cons_none (by simp [pocketMark, hk.symm]) _
  refine ⟨⟨fun k row hrow => ?_, fun k hk => ?_, fun k => ?_⟩, ?_,
    ⟨fun k row hrow => ?_, fun k row hrow => ?_, fun k hk => ?_⟩, hrec, ?_⟩
  · have hrow : (w.store.auth.sessions.erase pocketHash).lookup k = some row := hrow
    rw [AList.lookup_erase_of] at hrow
    by_cases hk : k = pocketHash
    · rw [if_pos hk] at hrow
      cases hrow
    · rw [if_neg hk] at hrow
      exact (hother k hk).trans (hpl k row hrow)
  · apply hpd k
    intro hfresh
    apply hk
    show phase (pocketMark k) (.revoked pocketHash :: w.events) = .fresh
    rw [phase_cons, hfresh]
    by_cases h : pocketHash = k
    · simp [pocketMark, h, Phase.next]
    · simp [pocketMark, h, Phase.next]
  · exact (hpu k).cons_unused rfl
  · have hframe : StatesInv { w with store := revokePocketSession pocketHash w.store } :=
      ⟨fun s row hrow => hstates.live s row (AList.lookup_retain.1 hrow).1, hstates.drawn,
        hstates.pending, hstates.once, hstates.orderly, hstates.consent⟩
    exact hframe.cons _ (fun _ => rfl) (fun _ => rfl) rfl rfl
  · obtain ⟨hold, hkept⟩ := AList.lookup_retain.1 hrow
    obtain ⟨owner, subject, howner, hlink, hlive⟩ := hll k row hold
    have hne : owner ≠ pocketHash := by
      rintro rfl
      simp [howner] at hkept
    exact ⟨owner, subject, howner, (phase_cons_none rfl _).trans hlink,
      (hother owner hne).trans hlive⟩
  · exact hla k row (AList.lookup_retain.1 hrow).1
  · refine hld k fun hfresh => hk ?_
    exact (phase_cons_none rfl _).trans hfresh
  · intro t ht
    exact (hprep t ht).mono (fun _ ha => ha) fun k link hlink =>
      phase_live_cons hlink (linkMark_ne_closed k _)

/-- A new Pocket ID session has a fresh id. -/
theorem Inv.signIn {input : Input} (hinj : Function.Injective config.auth.hashSessionId)
    (h : Inv config w) (hfresh : input.random ∉ w.drawn) (subject username : String) :
    Inv config (pocketSignIn config w input subject username) := by
  obtain ⟨⟨hpl, hpd, hpu⟩, ⟨hsl, hsd, hsp, hso, hsord, hsc⟩, ⟨hll, hla, hld⟩, hrec, hprep⟩ := h
  have hnew : phase (pocketMark (config.auth.hashSessionId input.random)) w.events = .fresh := by
    by_contra hne
    obtain ⟨id, hid, heq⟩ := hpd _ hne
    exact hfresh (hinj heq ▸ hid)
  have hother : ∀ k, k ≠ config.auth.hashSessionId input.random →
      phase (pocketMark k) (.signedIn (config.auth.hashSessionId input.random) subject :: w.events)
        = phase (pocketMark k) w.events := fun k hk =>
    phase_cons_none (by simp [pocketMark, hk.symm]) _
  have hstates : StatesInv { w with drawn := input.random :: w.drawn } :=
    ⟨hsl, fun s hs => List.mem_cons_of_mem _ (hsd s hs),
      fun s hs => ⟨List.mem_cons_of_mem _ (hsp s hs).1, (hsp s hs).2⟩, hso, hsord, hsc⟩
  refine ⟨⟨fun k row hrow => ?_, fun k hk => ?_, fun k => (hpu k).cons_unused rfl⟩, ?_,
    ⟨fun k row hrow => ?_, hla, fun k hk => ?_⟩, hrec, ?_⟩
  · have hrow : ((w.store.auth.sessions.retain fun _ row => decide (input.now < row.expiresAt)).insert
        (config.auth.hashSessionId input.random) ⟨subject, username,
          input.now + SESSION_TTL_SECONDS, input.now⟩).lookup k = some row := hrow
    rw [AList.lookup_insert_of] at hrow
    by_cases hk : k = config.auth.hashSessionId input.random
    · rw [if_pos hk] at hrow
      cases hrow
      rw [hk]
      show phase _ (_ :: w.events) = _
      rw [phase_cons, hnew]
      simp [pocketMark, Phase.next]
    · rw [if_neg hk] at hrow
      exact (hother k hk).trans (hpl k row (AList.lookup_retain.1 hrow).1)
  · by_cases hself : k = config.auth.hashSessionId input.random
    · exact ⟨input.random, List.mem_cons_self, hself.symm⟩
    · obtain ⟨id, hid, heq⟩ := hpd k ((hother k hself) ▸ hk)
      exact ⟨id, List.mem_cons_of_mem _ hid, heq⟩
  · have hcons := hstates.cons (.signedIn (config.auth.hashSessionId input.random) subject)
      (fun _ => rfl) (fun _ => rfl) rfl rfl
    exact ⟨hcons.live, hcons.drawn, hcons.pending, hcons.once, hcons.orderly, hcons.consent⟩
  · obtain ⟨owner, s, howner, hlink, hlive⟩ := hll k row hrow
    refine ⟨owner, s, howner, (phase_cons_none rfl _).trans hlink, ?_⟩
    refine phase_live_cons hlive ?_
    by_cases howner : config.auth.hashSessionId input.random = owner
    · simp [pocketMark, howner]
    · simp [pocketMark, howner]
  · obtain ⟨id, hid, heq⟩ := hld k fun hfresh => hk ((phase_cons_none rfl _).trans hfresh)
    exact ⟨id, List.mem_cons_of_mem _ hid, heq⟩
  · intro t ht
    exact (hprep t ht).mono (fun _ ha => ha) fun k link hlink =>
      phase_live_cons hlink (linkMark_ne_closed k _)

/-- A sign-in draws its state. -/
theorem Inv.draw {pocketHash codeVerifier state : String} {forceConsent : Bool} {expiresAt : Int}
    {tasks : List Task} (h : Inv config { w with tasks := .authorize pocketHash forceConsent :: tasks })
    (hfresh : state ∉ w.drawn) : Inv config { w with
      tasks := .insertState state pocketHash codeVerifier forceConsent expiresAt :: tasks
      drawn := state :: w.drawn } := by
  obtain ⟨⟨hpl, hpd, hpu⟩, ⟨hsl, hsd, hsp, hso, hsord, hsc⟩, ⟨hll, hla, hld⟩, hrec, hprep⟩ := h
  have hphase : phase (stateMark state) w.events = .fresh := by
    by_contra hne
    exact hfresh (hsd state hne)
  refine ⟨⟨hpl, fun k hk => ?_, hpu⟩, ⟨hsl, fun s hs => List.mem_cons_of_mem _ (hsd s hs),
    fun s hs => ?_, ?_, hsord, ?_⟩, ⟨hll, hla, fun k hk => ?_⟩, hrec, fun t ht => ?_⟩
  · obtain ⟨id, hid, heq⟩ := hpd k hk
    exact ⟨id, List.mem_cons_of_mem _ hid, heq⟩
  · rcases List.mem_cons.1 hs with rfl | hs
    · exact ⟨List.mem_cons_self, hphase⟩
    · exact ⟨List.mem_cons_of_mem _ (hsp s hs).1, (hsp s hs).2⟩
  · exact List.nodup_cons.2 ⟨fun hin => hfresh (hsp state hin).1, hso⟩
  · cases forceConsent with
    | true => simpa [List.countP_cons, Task.asksConsent] using hsc
    | false => simpa [List.countP_cons, Task.asksConsent] using hsc
  · obtain ⟨id, hid, heq⟩ := hld k hk
    exact ⟨id, List.mem_cons_of_mem _ hid, heq⟩
  · rcases List.mem_cons.1 ht with rfl | ht
    · trivial
    · exact (hprep t (List.mem_cons_of_mem _ ht)).mono (fun _ ha => ha) fun _ _ hlink => hlink

/-- A sign-in inserts its state. -/
theorem Inv.start {state pocketHash codeVerifier : String} {forceConsent : Bool} {expiresAt : Int}
    {tasks : List Task} (h : Inv config { w with
      tasks := .insertState state pocketHash codeVerifier forceConsent expiresAt :: tasks }) :
    Inv config { w with
      store := insertState state ⟨codeVerifier, forceConsent, expiresAt, some pocketHash⟩ w.store
      tasks := tasks
      events := .started state pocketHash forceConsent expiresAt :: w.events } := by
  obtain ⟨hpocket, ⟨hsl, hsd, hsp, hso, hsord, hsc⟩, hlinks, hrec, hprep⟩ := h
  obtain ⟨hdrawn, hfresh⟩ := hsp state List.mem_cons_self
  have hnotin : state ∉ tasks.filterMap Task.insertedState := (List.nodup_cons.1 hso).1
  have hother : ∀ s, s ≠ state → phase (stateMark s)
      (.started state pocketHash forceConsent expiresAt :: w.events)
        = phase (stateMark s) w.events := fun s hs =>
    phase_cons_none (by simp [stateMark, hs.symm]) _
  have hself : phase (stateMark state) (.started state pocketHash forceConsent expiresAt :: w.events)
      = .live ⟨pocketHash, forceConsent, expiresAt⟩ := by
    have hfresh' : phase (stateMark state) w.events = .fresh := hfresh
    rw [phase_cons, hfresh']
    simp [stateMark, Phase.next]
  have hpocket' := hpocket.cons (.started state pocketHash forceConsent expiresAt) (fun _ => rfl)
    fun _ huse => by cases huse
  have hlinks' := hlinks.cons (.started state pocketHash forceConsent expiresAt)
    (fun _ => by simp [pocketMark]) fun _ => rfl
  refine ⟨⟨hpocket'.live, hpocket'.drawn, hpocket'.used⟩, ⟨fun s row hrow => ?_, fun s hs => ?_,
    fun s hs => ?_, (List.nodup_cons.1 hso).2, fun s => ?_, ?_⟩,
    ⟨hlinks'.linked, hlinks'.account, hlinks'.drawn⟩, hrec, fun t ht => ?_⟩
  · have hrow : (w.store.oauthStates.insert state
        ⟨codeVerifier, forceConsent, expiresAt, some pocketHash⟩).lookup s = some row := hrow
    rw [AList.lookup_insert_of] at hrow
    by_cases hs : s = state
    · rw [if_pos hs] at hrow
      cases hrow
      exact ⟨pocketHash, rfl, hs ▸ hself⟩
    · rw [if_neg hs] at hrow
      obtain ⟨k, hk, hphase⟩ := hsl s row hrow
      exact ⟨k, hk, (hother s hs).trans hphase⟩
  · by_cases hne : s = state
    · exact hne ▸ hdrawn
    · exact hsd s ((hother s hne) ▸ hs)
  · have hne : s ≠ state := fun e => hnotin (e ▸ hs)
    obtain ⟨h1, h2⟩ := hsp s (List.mem_cons_of_mem _ hs)
    exact ⟨h1, (hother s hne).trans h2⟩
  · by_cases hne : s = state
    · subst hne
      exact (hsord s).cons_fresh rfl hfresh
    · exact (hsord s).cons_none (by simp [stateMark, Ne.symm hne]) rfl
  · cases forceConsent with
    | true =>
      simp [List.countP_cons, Task.asksConsent, Event.asksConsent, Event.mayNeedConsent] at hsc ⊢
      omega
    | false =>
      simpa [List.countP_cons, Task.asksConsent, Event.asksConsent, Event.mayNeedConsent] using hsc
  · exact (hprep t (List.mem_cons_of_mem _ ht)).mono (fun _ ha => ha) fun k link hlink =>
      phase_live_cons hlink (linkMark_ne_closed k _)

theorem takeState_ok {store store' : Store} {now : Int} {oauthState : String}
    {pocket : ActivePocketSession} {row : OAuthState}
    (h : takeState store now oauthState pocket = .ok (store', row)) :
    store.oauthStates.lookup oauthState = some row ∧ now < row.expiresAt ∧
      row.pocketSessionHash = some pocket.idHash ∧
      store' = { store with oauthStates := store.oauthStates.erase oauthState } := by
  simp only [takeState, Except.bind_eq_ok, Except.fromOption_eq_ok, Except.pure_eq_ok] at h
  obtain ⟨found, hfound, heq⟩ := h
  obtain ⟨hlookup, hcond⟩ := Option.filter_eq_some_iff.1 hfound
  simp only [Bool.and_eq_true, decide_eq_true_eq] at hcond
  obtain ⟨rfl, rfl⟩ := Prod.mk.inj heq
  exact ⟨hlookup, hcond.1, hcond.2, rfl⟩

/-- A callback takes its state. -/
theorem Inv.consume {tasks : List Task} {input : Input} {pocket : ActivePocketSession}
    {query : OAuthCallback} (h : Inv config { w with tasks := .consume pocket query :: tasks })
    (hok : consume w tasks input pocket query = .ok w') : Inv config w' := by
  simp only [Google.consume, Except.bind_eq_ok, Except.pure_eq_ok] at hok
  obtain ⟨⟨state, code⟩, -, ⟨store, row⟩, htake, rfl⟩ := hok
  obtain ⟨hlookup, hnow, howner, rfl⟩ := takeState_ok htake
  obtain ⟨hpocket, ⟨hsl, hsd, hsp, hso, hsord, hsc⟩, hlinks, hrec, hprep⟩ := h
  obtain ⟨owner, hsome, hlive⟩ := hsl state row hlookup
  obtain rfl : owner = pocket.idHash := Option.some.inj (hsome.symm.trans howner)
  have hother : ∀ s, s ≠ state → phase (stateMark s)
      (.consumed state pocket.idHash row.forceConsent input.now :: w.events)
        = phase (stateMark s) w.events := fun s hs =>
    phase_cons_none (by simp [stateMark, hs.symm]) _
  have hpocket' := hpocket.cons (.consumed state pocket.idHash row.forceConsent input.now)
    (fun _ => rfl) fun _ huse => by cases huse
  have hlinks' := hlinks.cons (.consumed state pocket.idHash row.forceConsent input.now)
    (fun _ => by simp [pocketMark]) fun _ => rfl
  -- the request goes on to its answers, or stops here
  have hinserted : (if pocket.expiresAt ≤ input.later then tasks else
      .identify pocket row code :: tasks).filterMap Task.insertedState
        = tasks.filterMap Task.insertedState := by
    by_cases hlater : pocket.expiresAt ≤ input.later
    · rw [if_pos hlater]
    · rw [if_neg hlater]
      rfl
  refine ⟨⟨hpocket'.live, hpocket'.drawn, hpocket'.used⟩, ⟨fun s r hrow => ?_, fun s hs => ?_,
    fun s hs => ?_, ?_, fun s => ?_, ?_⟩, ⟨hlinks'.linked, hlinks'.account, hlinks'.drawn⟩,
    ⟨⟨row.expiresAt, hlive, hnow⟩, hrec⟩, fun t ht => ?_⟩
  · have hrow : (w.store.oauthStates.erase state).lookup s = some r := hrow
    rw [AList.lookup_erase_of] at hrow
    by_cases hs : s = state
    · rw [if_pos hs] at hrow
      cases hrow
    · rw [if_neg hs] at hrow
      obtain ⟨k, hk, hphase⟩ := hsl s r hrow
      exact ⟨k, hk, (hother s hs).trans hphase⟩
  · by_cases hne : s = state
    · subst hne
      refine hsd s ?_
      show phase (stateMark s) w.events ≠ .fresh
      have hlive : phase (stateMark s) w.events = _ := hlive
      rw [hlive]
      exact fun hcontra => by cases hcontra
    · exact hsd s ((hother s hne) ▸ hs)
  · rw [hinserted] at hs
    obtain ⟨h1, h2⟩ := hsp s hs
    have hne : s ≠ state := by
      rintro rfl
      cases hlive.symm.trans h2
    exact ⟨h1, (hother s hne).trans h2⟩
  · rw [hinserted]
    exact hso
  · by_cases hne : s = state
    · subst hne
      exact (hsord s).cons_closed (by simp [stateMark]) fun _ => ⟨_, hlive⟩
    · exact (hsord s).cons_none (by simp [stateMark, Ne.symm hne])
        (by simp [Event.consumes, Ne.symm hne])
  · have hsc : tasks.countP Task.asksConsent + w.events.countP Event.asksConsent
        ≤ w.events.countP Event.mayNeedConsent := by simpa [Task.asksConsent] using hsc
    have hcount : (if pocket.expiresAt ≤ input.later then tasks else
        .identify pocket row code :: tasks).countP Task.asksConsent
          ≤ (Task.identify pocket row code :: tasks).countP Task.asksConsent := by
      by_cases hlater : pocket.expiresAt ≤ input.later
      · rw [if_pos hlater]
        exact (List.sublist_cons_self _ _).countP_le
      · rw [if_neg hlater]
    cases hforce : row.forceConsent with
    | true =>
      simp [Task.asksConsent, hforce] at hcount
      simp [Event.asksConsent, Event.mayNeedConsent]
      omega
    | false =>
      simp [Task.asksConsent, hforce] at hcount
      simp [Event.asksConsent, Event.mayNeedConsent]
      omega
  · have hold : ∀ t ∈ tasks, Task.Prepared config { w with
        store := { w.store with oauthStates := w.store.oauthStates.erase state }
        tasks := if pocket.expiresAt ≤ input.later then tasks else .identify pocket row code :: tasks
        events := .consumed state pocket.idHash row.forceConsent input.now :: w.events } t :=
      fun t ht => (hprep t (List.mem_cons_of_mem _ ht)).mono (fun _ ha => ha) fun k link hlink =>
        phase_live_cons hlink (linkMark_ne_closed k _)
    by_cases hlater : pocket.expiresAt ≤ input.later
    · exact hold t (by simpa [hlater] using ht)
    · have ht : t ∈ Task.identify pocket row code :: tasks := by simpa [hlater] using ht
      rcases List.mem_cons.1 ht with rfl | ht
      · trivial
      · exact hold t ht

theorem insertGoogleSession_ok {store store' : Store} {now : Int} {sessionId nonce email : String}
    {pocket : ActivePocketSession} {token : GoogleTokenResponse}
    (h : insertGoogleSession config store now sessionId nonce pocket email token = .ok store') :
    ∃ pocketRow accessToken, store.auth.sessions.lookup pocket.idHash = some pocketRow ∧
      store' = { store with
        sessions := store.sessions.insert (config.auth.hashSessionId sessionId) ⟨email, accessToken,
          now + token.expiresIn, now + SESSION_TTL_SECONDS, now, some pocket.idHash⟩ } := by
  simp only [insertGoogleSession, Except.bind_eq_ok, Except.fromOption_eq_ok, Except.ensure_eq_ok,
    Except.pure_eq_ok] at h
  obtain ⟨accessToken, -, -, hany, rfl⟩ := h
  obtain ⟨pocketRow, hrow, -⟩ := (Option.any_eq_true _ _).1 hany
  exact ⟨pocketRow, accessToken, hrow, rfl⟩

/-- A Google session is linked while its Pocket ID session is there. -/
theorem Inv.link {tasks : List Task} {input : Input} {pocket : ActivePocketSession} {email : String}
    {token : GoogleTokenResponse} {store : Store}
    (hinj : Function.Injective config.auth.hashSessionId)
    (h : Inv config { w with tasks := .insertSession pocket email token :: tasks })
    (hfresh : input.random ∉ w.drawn) (hok : insertGoogleSession config w.store input.now input.random
      input.nonce pocket email token = .ok store) : Inv config {
        store := store
        tasks := tasks
        drawn := input.random :: w.drawn
        events := .linked (config.auth.hashSessionId input.random) pocket.idHash email
          :: w.events } := by
  obtain ⟨pocketRow, accessToken, hpocketRow, rfl⟩ := insertGoogleSession_ok hok
  obtain ⟨hpocket, ⟨hsl, hsd, hsp, hso, hsord, hsc⟩, ⟨hll, hla, hld⟩, hrec, hprep⟩ := h
  obtain ⟨hallowed, haccount⟩ := hprep _ List.mem_cons_self
  have hlive := hpocket.live _ _ hpocketRow
  have hnew : phase (linkMark (config.auth.hashSessionId input.random)) w.events = .fresh := by
    by_contra hne
    obtain ⟨id, hid, heq⟩ := hld _ hne
    exact hfresh (hinj heq ▸ hid)
  have hother : ∀ k, k ≠ config.auth.hashSessionId input.random → phase (linkMark k)
      (.linked (config.auth.hashSessionId input.random) pocket.idHash email :: w.events)
        = phase (linkMark k) w.events := fun k hk =>
    phase_cons_none (by simp [linkMark, hk.symm]) _
  have hpocket' := hpocket.cons (.linked (config.auth.hashSessionId input.random) pocket.idHash email)
    (fun _ => rfl) fun other huse => ⟨pocketRow.subject, of_decide_eq_true huse ▸ hlive⟩
  have hstates : StatesInv { w with tasks := tasks, drawn := input.random :: w.drawn } :=
    ⟨hsl, fun s hs => List.mem_cons_of_mem _ (hsd s hs),
      fun s hs => ⟨List.mem_cons_of_mem _ (hsp s hs).1, (hsp s hs).2⟩, hso, hsord, hsc⟩
  have hstates' := hstates.cons
    (.linked (config.auth.hashSessionId input.random) pocket.idHash email) (fun _ => rfl)
    (fun _ => rfl) rfl rfl
  refine ⟨⟨hpocket'.live, fun k hk => ?_, hpocket'.used⟩, ⟨hstates'.live, hstates'.drawn,
    hstates'.pending, hstates'.once, hstates'.orderly, hstates'.consent⟩,
    ⟨fun k row hrow => ?_, fun k row hrow => ?_, fun k hk => ?_⟩, ⟨hallowed, hrec⟩, fun t ht => ?_⟩
  · obtain ⟨id, hid, heq⟩ := hpocket'.drawn k hk
    exact ⟨id, List.mem_cons_of_mem _ hid, heq⟩
  · rw [AList.lookup_insert_of] at hrow
    by_cases hk : k = config.auth.hashSessionId input.random
    · rw [if_pos hk] at hrow
      cases hrow
      refine ⟨pocket.idHash, pocketRow.subject, rfl, ?_, (phase_cons_none rfl _).trans hlive⟩
      rw [hk, phase_cons, hnew]
      simp [linkMark, Phase.next]
    · rw [if_neg hk] at hrow
      obtain ⟨owner, subject, howner, hlink, hopen⟩ := hll k row hrow
      exact ⟨owner, subject, howner, (hother k hk).trans hlink, (phase_cons_none rfl _).trans hopen⟩
  · rw [AList.lookup_insert_of] at hrow
    by_cases hk : k = config.auth.hashSessionId input.random
    · rw [if_pos hk] at hrow
      cases hrow
      exact haccount
    · rw [if_neg hk] at hrow
      exact hla k row hrow
  · by_cases hself : k = config.auth.hashSessionId input.random
    · exact ⟨input.random, List.mem_cons_self, hself.symm⟩
    · obtain ⟨id, hid, heq⟩ := hld k ((hother k hself) ▸ hk)
      exact ⟨id, List.mem_cons_of_mem _ hid, heq⟩
  · exact (hprep t (List.mem_cons_of_mem _ ht)).mono (fun _ ha => ha) fun k link hlink =>
      phase_live_cons hlink (linkMark_ne_closed k _)

end Server.Google
