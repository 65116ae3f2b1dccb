import Presto.GoogleRuns
import Presto.SignIn

/-!
# What holds of Google sign-ins in every run

Every step keeps the invariant (`Inv.step`). So a sign-out is final (`google_signedOut`), a sign-in is
single use (`google_signIns`), and sessions belong to allowed accounts (`google_sessions`).
-/

namespace Server.Google

open SingleUse
open Auth (Headers OAuthCallback cookieIdFromHeaders)

variable {config : Config} {w w' : World}

/-! ## The steps -/

section

variable {t next : Task} {tasks : List Task} {store : Store}

/-- A request stops. -/
theorem Inv.stop (h : Inv config { w with tasks := t :: tasks }) (hstore : store.Within w.store) :
    Inv config { w with store := store, tasks := tasks } := by
  refine h.frame hstore ⟨⟨_, .refl _, (List.sublist_cons_self _ _).filterMap _⟩,
    (List.sublist_cons_self _ _).countP_le, fun t' ht' => .inl (List.mem_cons_of_mem _ ht')⟩
    (List.Subset.refl _) rfl

/-- A request goes on. -/
theorem Inv.go (h : Inv config { w with tasks := t :: tasks }) (hstore : store.Within w.store)
    (hinserted : next.insertedState = none) (hasks : next.asksConsent = true → t.asksConsent = true)
    (hprepared : next.Prepared config { w with store := store, tasks := next :: tasks }) :
    Inv config { w with store := store, tasks := next :: tasks } := by
  refine h.frame hstore ⟨⟨_, .refl _, ?_⟩, ?_, fun t' ht' => ?_⟩ (List.Subset.refl _) rfl
  · show ((next :: tasks).filterMap Task.insertedState).Sublist _
    rw [List.filterMap_cons, hinserted]
    exact (List.sublist_cons_self _ _).filterMap _
  · show (next :: tasks).countP Task.asksConsent ≤ (t :: tasks).countP Task.asksConsent
    rw [List.countP_cons, List.countP_cons]
    by_cases hnext : next.asksConsent = true
    · rw [if_pos hnext, if_pos (hasks hnext)]
    · rw [if_neg hnext]
      omega
  · rcases List.mem_cons.1 ht' with rfl | ht'
    · exact .inr hprepared
    · exact .inl (List.mem_cons_of_mem _ ht')

end

/-- A request begins. -/
theorem Inv.begin {next : Task} (h : Inv config w) (hinserted : next.insertedState = none)
    (hasks : next.asksConsent = false) (hprepared : next.Prepared config w) :
    Inv config { w with tasks := next :: w.tasks } := by
  refine h.frame (.refl _) ⟨⟨_, .refl _, ?_⟩, ?_, fun t' ht' => ?_⟩ (List.Subset.refl _) rfl
  · show ((next :: w.tasks).filterMap Task.insertedState).Sublist _
    rw [List.filterMap_cons, hinserted]
  · show (next :: w.tasks).countP Task.asksConsent ≤ _
    rw [List.countP_cons_of_neg (by simp [hasks])]
  · rcases List.mem_cons.1 ht' with rfl | ht'
    · refine .inr (hprepared.mono (fun _ ha => ha) fun _ _ hlink => hlink)
    · exact .inl ht'

theorem Inv.check (h : Inv config w) (now : Int) (headers : Headers)
    {next : ActivePocketSession → Option Task}
    (hnext : ∀ pocket t, next pocket = some t →
      t.insertedState = none ∧ t.asksConsent = false ∧ t.Prepared config w) :
    Inv config (w.check config now headers next) := by
  unfold World.check
  cases hchecked : checkPocketSession config w.store now headers with
  | absent => exact h
  | stale pocketHash => exact h.revoke pocketHash
  | active pocket =>
    cases hn : next pocket with
    | none => simpa [hn] using h
    | some t =>
      obtain ⟨hinserted, hasks, hprepared⟩ := hnext pocket t hn
      simpa [hn] using h.begin hinserted hasks hprepared

theorem Inv.within {store : Store} (h : Inv config w) (hstore : store.Within w.store) :
    Inv config { w with store := store } :=
  h.frame hstore ⟨⟨_, .refl _, .refl _⟩, le_rfl, fun _ ht => .inl ht⟩ (List.Subset.refl _) rfl

theorem pruneStates_within (now : Int) (store : Store) : (pruneStates now store).Within store :=
  ⟨fun _ _ h => h, fun _ _ h => (AList.lookup_retain.1 h).1, fun _ row h => ⟨row, h, rfl, rfl⟩,
    fun _ h => h⟩

theorem deleteSession_within (idHash : String) (store : Store) :
    (deleteSession idHash store).Within store := by
  refine ⟨fun _ _ h => h, fun _ _ h => h, fun k row h => ⟨row, ?_, rfl, rfl⟩, fun _ h => h⟩
  have h : (store.sessions.erase idHash).lookup k = some row := h
  rw [AList.lookup_erase_of] at h
  by_cases hk : k = idHash
  · rw [if_pos hk] at h
    cases h
  · rwa [if_neg hk] at h

theorem deleteSessionsOf_within (email : String) (store : Store) :
    (deleteSessionsOf email store).Within store :=
  ⟨fun _ _ h => h, fun _ _ h => h, fun _ row h => ⟨row, (AList.lookup_retain.1 h).1, rfl, rfl⟩,
    fun _ h => h⟩

theorem lookup_saveAccount (now : Int) (email encrypted other : String) (store : Store) :
    (saveAccount now email encrypted store).googleAccounts.lookup other
      = if other = email then some ⟨encrypted, now⟩ else store.googleAccounts.lookup other :=
  AList.lookup_insert_of _ _ _ _

theorem saveAccount_within (now : Int) (email encrypted : String) (store : Store) :
    (saveAccount now email encrypted store).Within store := by
  refine ⟨fun _ _ h => h, fun _ _ h => h, fun _ row h => ⟨row, h, rfl, rfl⟩, fun other h => ?_⟩
  rw [lookup_saveAccount]
  by_cases ho : other = email
  · rw [if_pos ho]
    rfl
  · rwa [if_neg ho]

theorem saveRefreshToken_within (now : Int) (email encrypted : String) (store : Store) :
    (saveRefreshToken now email encrypted store).Within store := by
  refine ⟨fun _ _ h => h, fun _ _ h => h, fun _ row h => ⟨row, h, rfl, rfl⟩, fun other h => ?_⟩
  show ((store.googleAccounts.modify email fun _ => ⟨encrypted, now⟩).lookup other).isSome = true
  rw [AList.lookup_modify]
  by_cases ho : other = email
  · rwa [if_pos ho, Option.isSome_map]
  · rwa [if_neg ho]

theorem refreshSession_ok {store store' : Store} {now : Int} {nonce idHash : String}
    {token : GoogleTokenResponse}
    (h : refreshSession config store now nonce idHash token = .ok store') :
    ∃ row refreshed, store.sessions.lookup idHash = some row ∧ refreshed.email = row.email ∧
      refreshed.pocketSessionHash = row.pocketSessionHash ∧
      store' = { store with sessions := store.sessions.insert idHash refreshed } := by
  simp only [refreshSession, Except.bind_eq_ok, Except.fromOption_eq_ok, Except.pure_eq_ok] at h
  obtain ⟨accessToken, -, row, hrow, rfl⟩ := h
  exact ⟨row, { row with accessToken := accessToken, accessExpiresAt := now + token.expiresIn },
    (Option.filter_eq_some_iff.1 hrow).1, rfl, rfl, rfl⟩

theorem sessionInfo_some {store : Store} {now : Int} {pocket : ActivePocketSession}
    {idHash email : String} (h : sessionInfo config store now pocket idHash = some email) :
    ∃ row, store.sessions.lookup idHash = some row ∧ row.email = email ∧
      row.pocketSessionHash = some pocket.idHash ∧ email ∈ config.allowedEmails := by
  obtain ⟨row, hrow, rfl⟩ := Option.map_eq_some_iff.1 h
  obtain ⟨hlookup, hcond⟩ := Option.filter_eq_some_iff.1 hrow
  obtain ⟨-, hpocket, hallowed⟩ := of_decide_eq_true hcond
  exact ⟨row, hlookup, rfl, hpocket, hallowed⟩

/-- Unless it is stale, the session is linked to the Pocket ID session of the request. -/
theorem readSession_ok {store : Store} {now : Int} {pocket : ActivePocketSession} {idHash : String}
    {access : Access} (h : readSession config store now pocket idHash = .ok access) :
    access = .stale ∨ ∃ row, store.sessions.lookup idHash = some row ∧
      row.pocketSessionHash = some pocket.idHash ∧
      ((∃ accessToken, access = .token row.email accessToken) ∨ access = .refresh row.email) := by
  simp only [readSession, Except.bind_eq_ok, Except.fromOption_eq_ok] at h
  obtain ⟨row, hrow, h⟩ := h
  by_cases hstale : row.pocketSessionHash ≠ some pocket.idHash ∨ row.expiresAt ≤ now ∨
      row.email ∉ config.allowedEmails
  · rw [if_pos hstale, Except.pure_eq_ok] at h
    exact .inl h.symm
  · rw [if_neg hstale] at h
    push Not at hstale
    refine .inr ⟨row, hrow, hstale.1, ?_⟩
    by_cases hvalid : now + 60 < row.accessExpiresAt
    · simp only [if_pos hvalid, Except.bind_eq_ok, Except.pure_eq_ok] at h
      obtain ⟨accessToken, -, rfl⟩ := h
      exact .inl ⟨accessToken, rfl⟩
    · rw [if_neg hvalid, Except.pure_eq_ok] at h
      exact .inr h.symm

/-- An account goes on only from the allowlist, and consent is asked for only once. -/
theorem identify_ok {store : Store} {forceConsent : Bool} {tokenAnswer : Option (Nat × TokenBody)}
    {userAnswer : Option (Nat × Option GoogleUserInfo)} {identified : Identified}
    (h : identify config store forceConsent tokenAnswer userAnswer = .ok identified) :
    (∃ email refreshToken token, identified = .account email refreshToken token ∧
      email ∈ config.allowedEmails) ∨ (identified = .needConsent ∧ forceConsent = false) := by
  simp only [identify, Except.bind_eq_ok, Except.ensure_eq_ok] at h
  obtain ⟨token, -, email, -, -, hallowed, h⟩ := h
  cases htoken : token.refreshToken with
  | some refreshToken =>
    simp only [htoken, Except.pure_eq_ok] at h
    exact .inl ⟨email, refreshToken, token, h.symm, hallowed⟩
  | none =>
    cases haccount : store.googleAccounts.lookup email with
    | some account =>
      simp only [htoken, haccount, Except.bind_eq_ok, Except.pure_eq_ok] at h
      obtain ⟨refreshToken, -, rfl⟩ := h
      exact .inl ⟨email, refreshToken, token, rfl, hallowed⟩
    | none =>
      cases forceConsent with
      | true =>
        simp [htoken, haccount] at h
      | false =>
        simp only [htoken, haccount, Bool.false_eq_true, if_false, Except.pure_eq_ok] at h
        exact .inr ⟨h.symm, rfl⟩

/-- A refreshed session is still linked as it was. -/
theorem Inv.refresh {tasks : List Task} {input : Input} {idHash pocketHash email refreshToken : String}
    (h : Inv config { w with tasks := .refresh idHash pocketHash email refreshToken :: tasks }) :
    Inv config (resumeRefresh config w tasks input idHash pocketHash email) := by
  unfold resumeRefresh
  have hlink : phase (linkMark idHash) w.events = .live ⟨pocketHash, email⟩ :=
    h.prepared _ List.mem_cons_self
  cases requestGoogleToken input.tokenAnswer with
  | error error =>
    by_cases hrefused : error.status = .unauthorized
    · simp only [if_pos hrefused]
      exact h.go (.refl _) rfl (fun hasks => by cases hasks) trivial
    · simp only [if_neg hrefused]
      exact h.stop (.refl _)
  | ok token =>
    simp only
    cases hrefresh : refreshSession config w.store input.now input.nonce idHash token with
    | error error => exact h.stop (.refl _)
    | ok store =>
      obtain ⟨row, refreshed, hrow, hemail, hpocket, rfl⟩ := refreshSession_ok hrefresh
      obtain ⟨owner, -, howner, howned, -⟩ := h.links.linked idHash row hrow
      have hsame : (⟨owner, row.email⟩ : Link) = ⟨pocketHash, email⟩ := by
        have hlive := howned.symm.trans hlink
        cases hlive
        rfl
      obtain ⟨rfl, rfl⟩ := Link.mk.inj hsame
      have hwithin : Store.Within { w.store with
          sessions := w.store.sessions.insert idHash refreshed } w.store := by
        refine ⟨fun _ _ h => h, fun _ _ h => h, fun k row' hrow' => ?_, fun _ h => h⟩
        rw [AList.lookup_insert_of] at hrow'
        by_cases hk : k = idHash
        · rw [if_pos hk] at hrow'
          cases hrow'
          exact ⟨row, hk ▸ hrow, hemail.symm, hpocket.symm⟩
        · rw [if_neg hk] at hrow'
          exact ⟨row', hrow', rfl, rfl⟩
      have hnew : (w.store.sessions.insert idHash refreshed).lookup idHash = some refreshed := by
        rw [AList.lookup_insert_of, if_pos rfl]
      cases token.refreshToken with
      | none =>
        rw [← hemail]
        exact (h.stop hwithin).use hnew (hpocket.trans howner) _ (.inr ⟨_, rfl⟩)
      | some refreshToken =>
        rw [← hemail]
        have hgo : Inv config { w with
            store := { w.store with sessions := w.store.sessions.insert idHash refreshed }
            tasks := .saveRefreshToken refreshed.email refreshToken :: tasks } :=
          h.go hwithin rfl (fun hasks => by cases hasks) trivial
        exact hgo.use hnew (hpocket.trans howner) _ (.inr ⟨_, rfl⟩)

/-- **One step of one request.** -/
theorem Inv.resume (hinj : Function.Injective config.auth.hashSessionId) {tasks : List Task}
    {input : Input} {t : Task} (h : Inv config { w with tasks := t :: tasks })
    (hfresh : input.random ∉ w.drawn) : Inv config (resume config w tasks input t) := by
  cases t with
  | authorize pocketHash forceConsent =>
    have hpruned : Inv config { w with
        store := pruneStates input.later w.store
        tasks := .authorize pocketHash forceConsent :: tasks } :=
      h.within (pruneStates_within input.later w.store)
    exact Inv.draw (w := { w with store := pruneStates input.later w.store }) hpruned hfresh
  | insertState state pocketHash codeVerifier forceConsent expiresAt => exact h.start
  | consume pocket query =>
    simp only [Google.resume]
    cases hok : Google.consume w tasks input pocket query with
    | ok w' => exact h.consume hok
    | error error => exact h.stop (.refl _)
  | identify pocket row code =>
    simp only [Google.resume]
    cases hok : identify config w.store row.forceConsent input.tokenAnswer input.userAnswer with
    | error error => exact h.stop (.refl _)
    | ok identified =>
      rcases identify_ok hok with ⟨email, refreshToken, token, rfl, hallowed⟩ | ⟨rfl, hforce⟩
      · exact h.go (.refl _) rfl (fun hasks => by cases hasks) hallowed
      · exact h.go (.refl _) rfl (fun _ => by simp [Task.asksConsent, hforce]) trivial
  | saveAccount pocket email refreshToken token =>
    simp only [Google.resume]
    cases config.encryptSecret input.nonce refreshToken with
    | none => exact h.stop (.refl _)
    | some encrypted =>
      refine h.go (saveAccount_within input.now email encrypted w.store) rfl
        (fun hasks => by cases hasks) ⟨h.prepared _ List.mem_cons_self, ?_⟩
      show ((saveAccount input.now email encrypted w.store).googleAccounts.lookup email).isSome = true
      rw [lookup_saveAccount, if_pos rfl]
      rfl
  | insertSession pocket email token =>
    simp only [Google.resume]
    cases hok : insertGoogleSession config w.store input.now input.random input.nonce pocket email
      token with
    | error error => exact h.stop (.refl _)
    | ok store => exact h.link hinj hfresh hok
  | showSession pocket idHash =>
    simp only [Google.resume]
    cases hok : sessionInfo config w.store input.now pocket idHash with
    | none => exact h.stop (.refl _)
    | some email =>
      obtain ⟨row, hrow, rfl, hpocket, -⟩ := sessionInfo_some hok
      exact (h.stop (.refl _)).use hrow hpocket _ (.inl rfl)
  | readSession pocket idHash =>
    simp only [Google.resume]
    cases hok : Google.readSession config w.store input.now pocket idHash with
    | error error => exact h.stop (.refl _)
    | ok access =>
      rcases readSession_ok hok with rfl | ⟨row, hrow, hpocket, ⟨accessToken, rfl⟩ | rfl⟩
      · exact h.go (.refl _) rfl (fun hasks => by cases hasks) trivial
      · exact (h.stop (.refl _)).use hrow hpocket _ (.inr ⟨accessToken, rfl⟩)
      · obtain ⟨owner, -, howner, hlink, -⟩ := h.links.linked idHash row hrow
        obtain rfl : owner = pocket.idHash := Option.some.inj (howner.symm.trans hpocket)
        exact h.go (.refl _) rfl (fun hasks => by cases hasks) hlink
  | deleteSession idHash => exact h.stop (deleteSession_within idHash w.store)
  | readRefreshToken idHash pocketHash email =>
    simp only [Google.resume]
    cases Google.readRefreshToken config w.store email with
    | error error => exact h.stop (.refl _)
    | ok refreshToken =>
      exact h.go (.refl _) rfl (fun hasks => by cases hasks) (h.prepared _ List.mem_cons_self)
  | refresh idHash pocketHash email refreshToken => exact h.refresh
  | deleteSessionsOf email => exact h.stop (deleteSessionsOf_within email w.store)
  | saveRefreshToken email refreshToken =>
    simp only [Google.resume]
    cases config.encryptSecret input.nonce refreshToken with
    | none => exact h.stop (.refl _)
    | some encrypted => exact h.stop (saveRefreshToken_within input.now email encrypted w.store)

theorem Inv.logout {headers : Headers} {store : Store} (h : Inv config w)
    (hok : logout config w.store headers = .ok store) : Inv config { w with
      store := store
      events := ((loggedOut config headers).map .revoked).toList ++ w.events } := by
  simp only [Google.logout, Except.bind_eq_ok, Except.pure_eq_ok] at hok
  obtain ⟨-, -, rfl⟩ := hok
  -- the states of Pocket ID sign-ins are in none of the tables that count here
  have hstates : ∀ {w : World} {states : Table String Auth.PocketIdState}, Inv config w →
      Inv config { w with
        store := { w.store with auth := { w.store.auth with states := states } } } :=
    fun h => h.within ⟨fun _ _ h => h, fun _ _ h => h, fun _ row h => ⟨row, h, rfl, rfl⟩, fun _ h => h⟩
  cases cookieIdFromHeaders headers .session with
  | none =>
    cases loggedOut config headers with
    | none =>
      cases cookieIdFromHeaders headers .pocketOauth with
      | none => exact h
      | some state => exact hstates h
    | some pocketHash =>
      cases cookieIdFromHeaders headers .pocketOauth with
      | none => exact h.revoke pocketHash
      | some state => exact hstates (h.revoke pocketHash)
  | some sessionId =>
    have hdeleted := h.within (deleteSession_within (config.auth.hashSessionId sessionId) w.store)
    cases loggedOut config headers with
    | none =>
      cases cookieIdFromHeaders headers .pocketOauth with
      | none => exact hdeleted
      | some state => exact hstates hdeleted
    | some pocketHash =>
      cases cookieIdFromHeaders headers .pocketOauth with
      | none => exact hdeleted.revoke pocketHash
      | some state => exact hstates (hdeleted.revoke pocketHash)

theorem Inv.step (hinj : Function.Injective config.auth.hashSessionId) (h : Inv config w)
    (a : Action) : Inv config (step config w a) := by
  cases a with
  | pocketSignIn input subject username previous =>
    simp only [Google.step]
    by_cases hrefused : input.random ∈ w.drawn ∨ subject ∉ config.auth.pocketIdAllowedSubjects
    · rwa [if_pos hrefused]
    · rw [if_neg hrefused]
      push Not at hrefused
      cases previous with
      | none => exact h.signIn hinj hrefused.1 subject username
      | some pocketHash => exact (h.revoke pocketHash).signIn hinj hrefused.1 subject username
  | logout headers =>
    simp only [Google.step]
    cases hok : Google.logout config w.store headers with
    | error error => exact h
    | ok store => exact h.logout hok
  | logoutMobile headers =>
    simp only [Google.step]
    cases mobileLoggedOut config headers with
    | error error => exact h
    | ok pocketHash => exact h.revoke pocketHash
  | beginLogin input headers =>
    refine h.check input.now headers fun pocket t ht => ?_
    cases ht
    exact ⟨rfl, rfl, trivial⟩
  | callback input headers query =>
    refine h.check input.now headers fun pocket t ht => ?_
    cases ht
    exact ⟨rfl, rfl, trivial⟩
  | getSession input headers =>
    refine h.check input.now headers fun pocket t ht => ?_
    obtain ⟨idHash, -, rfl⟩ := Option.map_eq_some_iff.1 ht
    exact ⟨rfl, rfl, trivial⟩
  | runGateway input headers =>
    refine h.check input.now headers fun pocket t ht => ?_
    obtain ⟨idHash, -, rfl⟩ := Option.map_eq_some_iff.1 ht
    exact ⟨rfl, rfl, trivial⟩
  | resume task input =>
    simp only [Google.step]
    by_cases hfresh : input.random ∈ w.drawn
    · rwa [if_pos hfresh]
    · rw [if_neg hfresh]
      cases ht : w.tasks[task]? with
      | none => exact h
      | some t =>
        have hperm : w.tasks.Perm (t :: w.tasks.eraseIdx task) := by
          obtain ⟨hlt, rfl⟩ := List.getElem?_eq_some_iff.1 ht
          exact (List.getElem_cons_eraseIdx_perm hlt).symm
        have hfront : Inv config { w with tasks := t :: w.tasks.eraseIdx task } :=
          h.frame (.refl _) ⟨⟨_, hperm.filterMap _, .refl _⟩, (hperm.countP_eq _).ge,
            fun t' ht' => .inl (hperm.mem_iff.2 ht')⟩ (List.Subset.refl _) rfl
        exact hfront.resume hinj hfresh

/-- **Every run keeps the invariant.** -/
theorem inv_run (hinj : Function.Injective config.auth.hashSessionId) (actions : List Action) :
    Inv config (run config actions) := by
  unfold run
  have hkeep : ∀ {w : World}, Inv config w → Inv config (actions.foldl (Google.step config) w) := by
    induction actions with
    | nil => exact id
    | cons a actions ih => exact fun h => ih (h.step hinj a)
  exact hkeep (.initial config)

/-! ## The log of a run -/

theorem Recorded.suffix {older : List Event} : ∀ {newer : List Event},
    Recorded config (newer ++ older) → Recorded config older := by
  intro newer
  induction newer with
  | nil => exact id
  | cons e newer ih =>
    intro h
    cases e with
    | signedIn pocketHash subject => exact ih h
    | revoked pocketHash => exact ih h
    | started state pocketHash forceConsent expiresAt => exact ih h
    | consumed state pocketHash forceConsent now => exact ih h.2
    | linked idHash pocketHash email => exact ih h.2
    | shown idHash pocketHash email => exact ih h.2
    | served idHash pocketHash email accessToken => exact ih h.2

theorem signedIn_of_live {pocketHash subject : String} {l : List Event}
    (h : phase (pocketMark pocketHash) l = .live subject) : .signedIn pocketHash subject ∈ l := by
  obtain ⟨e, he, hmark⟩ := phase_live_opened h
  cases e with
  | signedIn h' subject' =>
    by_cases hsame : h' = pocketHash
    · simp only [pocketMark, if_pos hsame, Mark.opened.injEq] at hmark
      rw [← hsame, ← hmark]
      exact he
    · simp [pocketMark, hsame] at hmark
  | revoked h' =>
    by_cases hsame : h' = pocketHash
    · simp [pocketMark, hsame] at hmark
    · simp [pocketMark, hsame] at hmark
  | _ => cases hmark

theorem started_of_live {state : String} {pending : Pending} {l : List Event}
    (h : phase (stateMark state) l = .live pending) :
    .started state pending.pocketHash pending.forceConsent pending.expiresAt ∈ l := by
  obtain ⟨e, he, hmark⟩ := phase_live_opened h
  cases e with
  | started s pocketHash forceConsent expiresAt =>
    by_cases hsame : s = state
    · simp only [stateMark, if_pos hsame, Mark.opened.injEq] at hmark
      rw [← hsame, ← hmark]
      exact he
    · simp [stateMark, hsame] at hmark
  | consumed s pocketHash forceConsent now =>
    by_cases hsame : s = state
    · simp [stateMark, hsame] at hmark
    · simp [stateMark, hsame] at hmark
  | _ => cases hmark

theorem linked_of_live {idHash : String} {link : Link} {l : List Event}
    (h : phase (linkMark idHash) l = .live link) : .linked idHash link.pocketHash link.email ∈ l := by
  obtain ⟨e, he, hmark⟩ := phase_live_opened h
  cases e with
  | linked k pocketHash email =>
    by_cases hsame : k = idHash
    · simp only [linkMark, if_pos hsame, Mark.opened.injEq] at hmark
      rw [← hsame, ← hmark]
      exact he
    · simp [linkMark, hsame] at hmark
  | _ => cases hmark

theorem Recorded.linked {l : List Event} {idHash pocketHash email : String} (h : Recorded config l)
    (hmem : .linked idHash pocketHash email ∈ l) : email ∈ config.allowedEmails := by
  obtain ⟨newer, older, rfl⟩ := List.append_of_mem hmem
  exact h.suffix.1

/-- **A sign-out is final.** Once a Pocket ID session is revoked, no Google session is linked to it any
more, none is shown and no access token is served for it, whatever was under way. -/
theorem google_signedOut (hinj : Function.Injective config.auth.hashSessionId)
    (actions : List Action) {newer older : List Event} {pocketHash subject : String}
    (hsplit : (run config actions).events = newer ++ .revoked pocketHash :: older)
    (hsigned : .signedIn pocketHash subject ∈ older) :
    (∀ e ∈ newer, e.uses pocketHash = false) ∧
    (run config actions).store.auth.sessions.lookup pocketHash = none ∧
    ∀ k row, (run config actions).store.sessions.lookup k = some row →
      row.pocketSessionHash ≠ some pocketHash := by
  have h := inv_run hinj actions
  have hopened : ∃ e ∈ older, ∃ a, pocketMark pocketHash e = .opened a :=
    ⟨_, hsigned, subject, by simp [pocketMark]⟩
  have hclosed : pocketMark pocketHash (.revoked pocketHash) = .closed := by simp [pocketMark]
  have hspent : phase (pocketMark pocketHash) (run config actions).events = .spent := by
    rw [hsplit]
    exact phase_spent_append (phase_closed hclosed hopened)
  refine ⟨?_, ?_, fun k row hrow hlinked => ?_⟩
  · have hused := h.pocket.used pocketHash
    rw [hsplit] at hused
    exact hused.no_use_after_closed hclosed hopened
  · rw [Option.eq_none_iff_forall_ne_some]
    intro row hrow
    cases hspent.symm.trans (h.pocket.live _ _ hrow)
  · obtain ⟨owner, s, howner, -, hlive⟩ := h.links.linked k row hrow
    obtain rfl : owner = pocketHash := Option.some.inj (howner.symm.trans hlinked)
    cases hspent.symm.trans hlive

/-- One allowed person and her account; the secrets are left open. -/
def couple : Config :=
  ⟨⟨["ana"], id, id⟩, ["ana@example.invalid"], fun nonce text => some (nonce ++ text), some⟩

def browser : Headers :=
  ⟨[(.pocketSession, Auth.idOf 'a'), (.session, Auth.idOf 'd')], none, true, true⟩

/-- Google answers, with a refresh token or without one. -/
def answer (random : String) (refreshToken : Option String) : Input :=
  ⟨100, 100, random, "", some (200, ⟨none, some "access", some 3600, refreshToken⟩),
    some (200, some ⟨" Ana@example.invalid", true⟩)⟩

/-- A sign-in `b` without a refresh token, one with consent `c`, the session `d`, a request that is served
its token, and one that the sign-out overtakes. -/
def anaSignsIn : List Action :=
  let plain := answer (Auth.idOf '0') none
  [.pocketSignIn (answer (Auth.idOf 'a') none) "ana" "Ana" none,
    .beginLogin plain browser, .resume 0 (answer (Auth.idOf 'b') none), .resume 0 plain,
    .callback plain browser ⟨some (Auth.idOf 'b'), some "code", none⟩, .resume 0 plain,
    .resume 0 plain, .resume 0 (answer (Auth.idOf 'c') none), .resume 0 plain,
    .callback plain browser ⟨some (Auth.idOf 'c'), some "code", none⟩, .resume 0 plain,
    .resume 0 (answer (Auth.idOf '0') (some "refresh")), .resume 0 plain,
    .resume 0 (answer (Auth.idOf 'd') none), .runGateway plain browser, .resume 0 plain,
    .runGateway plain browser, .logout browser, .resume 0 plain]

theorem events_anaSignsIn : (run couple anaSignsIn).events =
    [.revoked (Auth.idOf 'a'),
      .served (Auth.idOf 'd') (Auth.idOf 'a') "ana@example.invalid" "access",
      .linked (Auth.idOf 'd') (Auth.idOf 'a') "ana@example.invalid",
      .consumed (Auth.idOf 'c') (Auth.idOf 'a') true 100,
      .started (Auth.idOf 'c') (Auth.idOf 'a') true 700,
      .consumed (Auth.idOf 'b') (Auth.idOf 'a') false 100,
      .started (Auth.idOf 'b') (Auth.idOf 'a') false 700,
      .signedIn (Auth.idOf 'a') "ana"] := by
  decide +kernel

theorem google_signedOut_ana :
    (run couple anaSignsIn).store.auth.sessions.lookup (Auth.idOf 'a') = none ∧
    ∀ k row, (run couple anaSignsIn).store.sessions.lookup k = some row →
      row.pocketSessionHash ≠ some (Auth.idOf 'a') :=
  (@google_signedOut couple Function.injective_id anaSignsIn [] _ _ "ana" events_anaSignsIn
    (by decide +kernel)).2

/-- What the log of a run says about the sign-ins with Google. -/
structure SignInsSafe (events : List Event) : Prop where
  consumedOnce : ∀ state, events.countP (Event.consumes state) ≤ 1
  consumedOwn : ∀ newer older state pocketHash forceConsent now,
    events = newer ++ .consumed state pocketHash forceConsent now :: older →
    ∃ expiresAt, .started state pocketHash forceConsent expiresAt ∈ older ∧ now < expiresAt
  consentOnce : events.countP Event.asksConsent ≤ events.countP Event.mayNeedConsent

/-- **Sign-ins are single use**: a state is taken once, in time, for the Pocket ID session that started
the sign-in; and consent is asked for at most once for every sign-in that came back without it. -/
theorem google_signIns (hinj : Function.Injective config.auth.hashSessionId)
    (actions : List Action) : SignInsSafe (run config actions).events := by
  have h := inv_run hinj actions
  refine ⟨fun state => (h.states.orderly state).countP_uses.1, ?_, ?_⟩
  · intro newer older state pocketHash forceConsent now hsplit
    have hrec := h.recorded
    rw [hsplit] at hrec
    obtain ⟨⟨expiresAt, hlive, hnow⟩, -⟩ := hrec.suffix
    exact ⟨expiresAt, started_of_live hlive, hnow⟩
  · exact (Nat.le_add_left _ _).trans h.states.consent

theorem google_signIns_ana : SignInsSafe (run couple anaSignsIn).events :=
  google_signIns Function.injective_id anaSignsIn

/-- A Google session belongs to a Pocket ID session that signed in, and to an allowed account. -/
structure Belongs (config : Config) (events : List Event) (idHash pocketHash email : String) :
    Prop where
  linked : .linked idHash pocketHash email ∈ events
  signedIn : ∃ subject, .signedIn pocketHash subject ∈ events
  allowed : email ∈ config.allowedEmails

/-- **Whose the sessions are.** Every stored session, every session shown and every session for which a
token is served belongs to the Pocket ID session of the request and to an account of the allowlist,
and an account that has a session has a refresh token. -/
theorem google_sessions (hinj : Function.Injective config.auth.hashSessionId)
    (actions : List Action) :
    (∀ k row, (run config actions).store.sessions.lookup k = some row →
      (∃ h, row.pocketSessionHash = some h ∧
        Belongs config (run config actions).events k h row.email) ∧
      ((run config actions).store.googleAccounts.lookup row.email).isSome = true) ∧
    ∀ newer older k h email, (run config actions).events = newer ++ older →
      ((∃ rest, older = .shown k h email :: rest) ∨
        ∃ accessToken rest, older = .served k h email accessToken :: rest) →
      Belongs config older k h email := by
  have hinv := inv_run hinj actions
  constructor
  · intro k row hrow
    obtain ⟨h, subject, howner, hlink, hlive⟩ := hinv.links.linked k row hrow
    have hlinked := linked_of_live hlink
    exact ⟨⟨h, howner, hlinked, ⟨subject, signedIn_of_live hlive⟩, hinv.recorded.linked hlinked⟩,
      hinv.links.account k row hrow⟩
  · intro newer older k h email hsplit hused
    have hrec := hinv.recorded
    have hlive := hinv.pocket.used h
    rw [hsplit] at hrec hlive
    have hrec := hrec.suffix
    have hlive := hlive.suffix
    rcases hused with ⟨rest, rfl⟩ | ⟨accessToken, rest, rfl⟩
    · obtain ⟨subject, hopen⟩ := hlive.1 (decide_eq_true rfl)
      have hlinked := linked_of_live hrec.1
      exact ⟨List.mem_cons_of_mem _ hlinked,
        ⟨subject, List.mem_cons_of_mem _ (signedIn_of_live hopen)⟩, hrec.2.linked hlinked⟩
    · obtain ⟨subject, hopen⟩ := hlive.1 (decide_eq_true rfl)
      have hlinked := linked_of_live hrec.1
      exact ⟨List.mem_cons_of_mem _ hlinked,
        ⟨subject, List.mem_cons_of_mem _ (signedIn_of_live hopen)⟩, hrec.2.linked hlinked⟩

theorem google_sessions_ana : ∃ older,
    Belongs couple older (Auth.idOf 'd') (Auth.idOf 'a') "ana@example.invalid" :=
  ⟨_, (google_sessions Function.injective_id anaSignsIn).2 [.revoked (Auth.idOf 'a')] _ _ _ _
    events_anaSignsIn (.inr ⟨"access", _, rfl⟩)⟩

end Server.Google
