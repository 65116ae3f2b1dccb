import Presto.Server.Auth

/-!
# Signing in with Google (`server.rs:771-1175`, `:5627`)

| source (`server.rs`)                       | model                                          |
|--------------------------------------------|------------------------------------------------|
| `create_google_authorization` (`:782`)     | `pruneStates`, `insertState`                   |
| `finish_google_login` (`:855`)             | `openCallback`, `takeState`, `identify`, `saveAccount` |
| `insert_google_session` (`:962`)           | `insertGoogleSession`                          |
| `parse_google_token_response` (`:1024`)    | `parseGoogleTokenResponse`                     |
| `fetch_google_email` (`:1060`)             | `fetchGoogleEmail`                             |
| `get_session` (`:1090`)                    | `sessionInfo`                                  |
| `current_access_token` (`:5627`)           | `readSession`, `readRefreshToken`, `refreshSession`, `saveRefreshToken` |
| `revoke_pocket_session_in` (`:704`)        | `revokePocketSession`                          |
| `logout` (`:1150`)                         | `logout`                                       |
| `current_pocket_session` (`:5815`)         | `checkPocketSession`                           |

As in `Presto.Server.Auth`, a definition is one statement or one transaction. What the provider answers
is an input; of the bodies only the fields that are read are kept. Encryption is a parameter, with
its nonce.
-/

namespace Server.Google

open Auth (Headers OAuthCallback SESSION_TTL_SECONDS OAUTH_STATE_TTL_SECONDS cookieIdFromHeaders
  pocketSessionIdFromHeaders bearerSessionIdFromHeaders)

structure Config where
  auth : Auth.Config
  allowedEmails : List String
  encryptSecret : String → String → Option String
  decryptSecret : String → Option String

/-- A row of `oauth_states`. -/
structure OAuthState where
  codeVerifier : String
  forceConsent : Bool
  expiresAt : Int
  pocketSessionHash : Option String
deriving DecidableEq

/-- A row of `sessions`. -/
structure Session where
  email : String
  accessToken : String
  accessExpiresAt : Int
  expiresAt : Int
  createdAt : Int
  pocketSessionHash : Option String
deriving DecidableEq

/-- A row of `google_accounts`. -/
structure GoogleAccount where
  refreshToken : String
  updatedAt : Int
deriving DecidableEq

structure Store where
  auth : Auth.Store
  oauthStates : Table String OAuthState
  sessions : Table String Session
  googleAccounts : Table String GoogleAccount

structure ActivePocketSession where
  idHash : String
  subject : String
  username : String
  expiresAt : Int
deriving DecidableEq

def expired : ApiError := .unauthorized "Pocket ID authentication expired. Sign in again."
def sessionExpired : ApiError := .unauthorized "Your session expired. Sign in again."
def authorizationExpired : ApiError :=
  .unauthorized "Google authorization expired. Sign in again."

/-! ## What Google answers -/

/-- The fields of a token response that are read, where they have the right type. -/
structure TokenBody where
  error : Option String
  accessToken : Option String
  expiresIn : Option Int
  refreshToken : Option String

structure GoogleTokenResponse where
  accessToken : String
  refreshToken : Option String
  expiresIn : Int
deriving DecidableEq

def isSuccess (status : Nat) : Bool := 200 ≤ status && status < 300
def isClientError (status : Nat) : Bool := 400 ≤ status && status < 500

def parseGoogleTokenResponse (status : Nat) (body : TokenBody) :
    Except ApiError GoogleTokenResponse :=
  if !isSuccess status then
    if isClientError status && status ≠ 429 && body.error = some "invalid_grant" then
      .error authorizationExpired
    else .error (.upstream "Google's token service could not complete authorization. Please retry.")
  else do
    let accessToken ← Except.fromOption (body.accessToken.filter fun value => Auth.trim value ≠ "")
      (ApiError.upstream "Google did not return an access token.")
    let expiresIn := max 60 (min (body.expiresIn.getD 3600) 86400)
    return ⟨accessToken, body.refreshToken, expiresIn⟩

/-- `request_google_token`: no answer, or one that cannot be read, is `none`. -/
def requestGoogleToken (answer : Option (Nat × TokenBody)) : Except ApiError GoogleTokenResponse := do
  let answer ← Except.fromOption answer (ApiError.upstream "Could not reach Google's token service")
  parseGoogleTokenResponse answer.1 answer.2

structure GoogleUserInfo where
  email : String
  emailVerified : Bool

def fetchGoogleEmail (answer : Option (Nat × Option GoogleUserInfo)) : Except ApiError String := do
  let answer ← Except.fromOption answer
    (ApiError.upstream "Could not reach Google's account service")
  Except.ensure (isSuccess answer.1 = true)
    (ApiError.unauthorized "Google could not verify the selected account.")
  let info ← Except.fromOption answer.2 (ApiError.upstream "error decoding response body")
  Except.ensure (info.emailVerified = true)
    (ApiError.unauthorized "Google did not verify the selected email address.")
  return Auth.toAsciiLowercase (Auth.trim info.email)

/-! ## Pocket ID sessions and what is linked to them -/

/-- `revoke_pocket_session_in`: with the session go its sign-ins under way and its Google sessions. -/
def revokePocketSession (idHash : String) (store : Store) : Store :=
  { store with
    oauthStates := store.oauthStates.retain fun _ row => row.pocketSessionHash ≠ some idHash
    sessions := store.sessions.retain fun _ row => row.pocketSessionHash ≠ some idHash
    auth := Auth.revokePocketSession idHash store.auth }

/-- What a request finds out about its Pocket ID session. -/
inductive Checked
  | absent
  | stale (idHash : String)
  | active (session : ActivePocketSession)

/-- `current_pocket_session`; a stale session is revoked. -/
def checkPocketSession (config : Config) (store : Store) (now : Int) (headers : Headers) : Checked :=
  match pocketSessionIdFromHeaders headers with
  | none => .absent
  | some cookieId =>
    let idHash := config.auth.hashSessionId cookieId
    match store.auth.sessions.lookup idHash with
    | none => .absent
    | some row =>
      if row.expiresAt ≤ now ∨ Auth.trim row.subject = "" ∨
          row.subject ∉ config.auth.pocketIdAllowedSubjects then .stale idHash
      else .active ⟨idHash, row.subject, row.username, row.expiresAt⟩

/-- The Pocket ID sessions that a sign-out revokes. -/
def loggedOut (config : Config) (headers : Headers) : Option String :=
  (cookieIdFromHeaders headers .pocketSession).map config.auth.hashSessionId

/-- `logout`. -/
def logout (config : Config) (store : Store) (headers : Headers) : Except ApiError Store := do
  Auth.ensureSameOrigin headers
  let store := match cookieIdFromHeaders headers .session with
    | some sessionId =>
      { store with sessions := store.sessions.erase (config.auth.hashSessionId sessionId) }
    | none => store
  let store := match loggedOut config headers with
    | some idHash => revokePocketSession idHash store
    | none => store
  return match cookieIdFromHeaders headers .pocketOauth with
    | some oauthState =>
      { store with auth := { store.auth with states := store.auth.states.erase oauthState } }
    | none => store

/-- `logout_mobile_session`, up to the revocation. -/
def mobileLoggedOut (config : Config) (headers : Headers) : Except ApiError String := do
  Auth.ensureDbRequestOrigin headers
  let token ← Except.fromOption (bearerSessionIdFromHeaders headers)
    (ApiError.unauthorized "A mobile bearer session is required.")
  return config.auth.hashSessionId token

/-! ## Starting a sign-in -/

def pruneStates (now : Int) (store : Store) : Store :=
  { store with oauthStates := store.oauthStates.retain fun _ row => decide (now < row.expiresAt) }

def insertState (state : String) (row : OAuthState) (store : Store) : Store :=
  { store with oauthStates := store.oauthStates.insert state row }

/-! ## The callback -/

/-- The state and the code of a callback. -/
def openCallback (query : OAuthCallback) : Except ApiError (String × String) := do
  Except.ensure query.error.isNone
    (ApiError.unauthorized "Google sign-in was cancelled or denied.")
  let oauthState ← Except.fromOption query.state (ApiError.badRequest "Missing OAuth state.")
  let code ← Except.fromOption query.code (ApiError.badRequest "Missing authorization code.")
  return (oauthState, code)

/-- `DELETE ... RETURNING`: only the session that started the sign-in takes its state. -/
def takeState (store : Store) (now : Int) (oauthState : String) (pocket : ActivePocketSession) :
    Except ApiError (Store × OAuthState) := do
  let row ← Except.fromOption ((store.oauthStates.lookup oauthState).filter fun row =>
      decide (now < row.expiresAt) && row.pocketSessionHash = some pocket.idHash)
    (ApiError.badRequest "The sign-in request expired. Please try again.")
  return ({ store with oauthStates := store.oauthStates.erase oauthState }, row)

/-- What a callback goes on with. -/
inductive Identified
  | account (email refreshToken : String) (token : GoogleTokenResponse)
  | needConsent

/-- From the answers of Google to the stored refresh token. -/
def identify (config : Config) (store : Store) (forceConsent : Bool)
    (tokenAnswer : Option (Nat × TokenBody)) (userAnswer : Option (Nat × Option GoogleUserInfo)) :
    Except ApiError Identified := do
  let token ← requestGoogleToken tokenAnswer
  let email ← fetchGoogleEmail userAnswer
  Except.ensure (email ∈ config.allowedEmails)
    (ApiError.forbidden "This Google account is not on the household allowlist.")
  match token.refreshToken, store.googleAccounts.lookup email with
  | some refreshToken, _ => return .account email refreshToken token
  | none, some account => do
    let refreshToken ← Except.fromOption (config.decryptSecret account.refreshToken)
      (ApiError.internal "token decryption failed")
    return .account email refreshToken token
  | none, none =>
    if forceConsent then .error (.unauthorized ("Google did not issue an offline refresh token. " ++
      "Check the OAuth consent configuration and try again."))
    else return .needConsent

/-- `INSERT ... ON CONFLICT(email) DO UPDATE` of `finish_google_login`. -/
def saveAccount (now : Int) (email encryptedRefresh : String) (store : Store) : Store :=
  { store with googleAccounts := store.googleAccounts.insert email ⟨encryptedRefresh, now⟩ }

/-- `insert_google_session`, with the random id it draws: the Pocket ID session has to be there
still. -/
def insertGoogleSession (config : Config) (store : Store) (now : Int) (sessionId nonce : String)
    (pocket : ActivePocketSession) (email : String) (token : GoogleTokenResponse) :
    Except ApiError Store := do
  let accessToken ← Except.fromOption (config.encryptSecret nonce token.accessToken)
    (ApiError.internal "token encryption failed")
  Except.ensure ((store.auth.sessions.lookup pocket.idHash).any fun row =>
    row.subject = pocket.subject ∧ now < row.expiresAt) expired
  let row : Session := ⟨email, accessToken, now + token.expiresIn, now + SESSION_TTL_SECONDS, now,
    some pocket.idHash⟩
  return { store with
    sessions := store.sessions.insert (config.auth.hashSessionId sessionId) row }

/-! ## Using a session -/

/-- `get_session`, behind the check of the Pocket ID session: the email that is signed in. -/
def sessionInfo (config : Config) (store : Store) (now : Int) (pocket : ActivePocketSession)
    (idHash : String) : Option String :=
  ((store.sessions.lookup idHash).filter fun row => now < row.expiresAt ∧
    row.pocketSessionHash = some pocket.idHash ∧ row.email ∈ config.allowedEmails).map (·.email)

/-- What `current_access_token` reads of the session. -/
inductive Access
  | stale
  | token (email accessToken : String)
  | refresh (email : String)

def readSession (config : Config) (store : Store) (now : Int) (pocket : ActivePocketSession)
    (idHash : String) : Except ApiError Access := do
  let row ← Except.fromOption (store.sessions.lookup idHash) sessionExpired
  if row.pocketSessionHash ≠ some pocket.idHash ∨ row.expiresAt ≤ now ∨
      row.email ∉ config.allowedEmails then return .stale
  else if now + 60 < row.accessExpiresAt then do
    let accessToken ← Except.fromOption (config.decryptSecret row.accessToken)
      (ApiError.internal "token decryption failed")
    return .token row.email accessToken
  else return .refresh row.email

def deleteSession (idHash : String) (store : Store) : Store :=
  { store with sessions := store.sessions.erase idHash }

def readRefreshToken (config : Config) (store : Store) (email : String) : Except ApiError String := do
  let account ← Except.fromOption (store.googleAccounts.lookup email) authorizationExpired
  Except.fromOption (config.decryptSecret account.refreshToken)
    (ApiError.internal "token decryption failed")

/-- Google refused the refresh token: all sessions of the account go. -/
def deleteSessionsOf (email : String) (store : Store) : Store :=
  { store with sessions := store.sessions.retain fun _ row => row.email ≠ email }

/-- The guarded `UPDATE`: the session and its Pocket ID session have to be there still. -/
def refreshSession (config : Config) (store : Store) (now : Int) (nonce idHash : String)
    (token : GoogleTokenResponse) : Except ApiError Store := do
  let accessToken ← Except.fromOption (config.encryptSecret nonce token.accessToken)
    (ApiError.internal "token encryption failed")
  let row ← Except.fromOption ((store.sessions.lookup idHash).filter fun row =>
    now < row.expiresAt ∧ ((row.pocketSessionHash.bind store.auth.sessions.lookup).any fun pocket =>
      now < pocket.expiresAt) = true) sessionExpired
  let refreshed : Session :=
    { row with accessToken := accessToken, accessExpiresAt := now + token.expiresIn }
  return { store with sessions := store.sessions.insert idHash refreshed }

def saveRefreshToken (now : Int) (email encryptedRefresh : String) (store : Store) : Store :=
  { store with
    googleAccounts := store.googleAccounts.modify email fun _ => ⟨encryptedRefresh, now⟩ }

end Server.Google
