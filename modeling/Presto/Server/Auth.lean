import Presto.Server.Transactions

/-!
# Signing in with Pocket ID (`server.rs:301-720`, `:1150`)

| source (`server.rs`)                             | model                          |
|--------------------------------------------------|--------------------------------|
| `create_pocket_id_authorization` (`:345`)        | `pruneStates`, `insertState`   |
| `finish_pocket_id_login` (`:453`)                | `openCallback`, `identify`     |
| `issue_pocket_login` (`:541`)                    | `issuePocketLogin`             |
| `create_pocket_session_in` (`:576`)              | `createPocketSession`          |
| `create_mobile_handoff_in` (`:612`)              | `createMobileHandoff`          |
| `exchange_mobile_session` (`:648`)               | `normalizeExchange`, `pruneHandoffs`, `redeemHandoff` |
| `revoke_pocket_session_in` (`:704`)              | `revokePocketSession`          |
| `logout` (`:1150`), `logout_mobile_session` (`:716`) | `logout`, `logoutMobileSession` |
| `current_pocket_session` (`:5815`)               | `currentPocketSession`         |

Each definition is one statement or one transaction, so that requests can interleave between them.
Headers carry the cookies by name, already split, and the bearer token behind its scheme.
-/

namespace Server.Auth

def SESSION_TTL_SECONDS : Int := 30 * 24 * 60 * 60
def MOBILE_HANDOFF_TTL_SECONDS : Int := 90
def OAUTH_STATE_TTL_SECONDS : Int := 10 * 60
def NATIVE_MOBILE_AUTH_REDIRECT_URI : String := "prestosupuesto-native://pocket-id/callback"

/-- The configuration, and the two uses of SHA-256: of a credential for its row, and of a verifier
for its challenge. -/
structure Config where
  pocketIdAllowedSubjects : List String
  hashSessionId : String → String
  s256 : String → String

/-- A row of `pocket_id_states`. -/
structure PocketIdState where
  codeVerifier : String
  expiresAt : Int
  mobileRedirectUri : Option String
  mobileCodeChallenge : Option String
deriving DecidableEq

/-- A row of `pocket_sessions`. -/
structure PocketSession where
  subject : String
  username : String
  expiresAt : Int
  createdAt : Int
deriving DecidableEq

/-- A row of `pocket_mobile_handoffs`. -/
structure MobileHandoff where
  subject : String
  username : String
  expiresAt : Int
  createdAt : Int
  codeChallenge : Option String
deriving DecidableEq

structure Store where
  states : Table String PocketIdState
  sessions : Table String PocketSession
  handoffs : Table String MobileHandoff

/-- The cookies a request may carry. -/
inductive CookieName
  | pocketSession
  | pocketOauth
  | session
deriving DecidableEq

structure Headers where
  cookies : List (CookieName × String)
  authorization : Option String
  sameOrigin : Bool
  hasOrigin : Bool

structure OAuthCallback where
  state : Option String
  code : Option String
  error : Option String

structure PocketUserInfo where
  sub : String
  preferredUsername : String

structure PocketIdentity where
  subject : String
  username : String
  mobileRedirectUri : Option String
  mobileCodeChallenge : Option String

structure MobileLoginQuery where
  client : Option String
  codeChallenge : Option String

structure MobileSessionExchangeRequest where
  handoffCode : String
  codeVerifier : String

/-! ## Texts -/

def isHexDigit (c : Char) : Bool :=
  ('0' ≤ c && c ≤ '9') || ('a' ≤ c && c ≤ 'f') || ('A' ≤ c && c ≤ 'F')

/-- Sixty-four hexadecimal digits. -/
def isCredentialId (value : String) : Bool := value.length = 64 && value.toList.all isHexDigit

/-- `White_Space` of Unicode, which `str::trim` removes. -/
def isWhiteSpace (c : Char) : Bool :=
  (9 ≤ c.toNat && c.toNat ≤ 13) || c.toNat ∈ [0x20, 0x85, 0xA0, 0x1680, 0x2028, 0x2029, 0x202F,
    0x205F, 0x3000] || (0x2000 ≤ c.toNat && c.toNat ≤ 0x200A)

def trim (value : String) : String :=
  String.ofList ((value.toList.dropWhile isWhiteSpace).reverse.dropWhile isWhiteSpace).reverse

/-- `to_ascii_lowercase`. -/
def toAsciiLowercase (value : String) : String := String.ofList (value.toList.map Char.toLower)

/-- The value of a character in the URL-safe base64 alphabet. -/
def base64Value (c : Char) : Option Nat :=
  if 'A' ≤ c ∧ c ≤ 'Z' then some (c.toNat - 65)
  else if 'a' ≤ c ∧ c ≤ 'z' then some (c.toNat - 71)
  else if '0' ≤ c ∧ c ≤ '9' then some (c.toNat + 4)
  else if c = '-' then some 62
  else if c = '_' then some 63
  else none

/-- `valid_pkce_challenge`: 43 characters that decode to 32 bytes, so the last one leaves no bits
over. -/
def validPkceChallenge (value : String) : Bool :=
  value.length = 43 && value.toList.all (fun c => (base64Value c).isSome) &&
    (value.toList.getLast?.bind base64Value).any fun v => v % 4 = 0

/-- The characters of a PKCE verifier. -/
def isVerifierCharacter (c : Char) : Bool :=
  ('0' ≤ c && c ≤ '9') || ('a' ≤ c && c ≤ 'z') || ('A' ≤ c && c ≤ 'Z') || c ∈ ['-', '.', '_', '~']

/-- `cookie_id_from_headers`: the first cookie of that name with a well-formed value. -/
def cookieIdFromHeaders (headers : Headers) (name : CookieName) : Option String :=
  (headers.cookies.find? fun cookie => cookie.1 = name && isCredentialId cookie.2).map (·.2)

def bearerSessionIdFromHeaders (headers : Headers) : Option String :=
  headers.authorization.filter isCredentialId

/-- `pocket_session_id_from_headers`: an authorization header displaces the cookie. -/
def pocketSessionIdFromHeaders (headers : Headers) : Option String :=
  if headers.authorization.isSome then bearerSessionIdFromHeaders headers
  else cookieIdFromHeaders headers .pocketSession

/-- `ensure_same_origin`. -/
def ensureSameOrigin (headers : Headers) : Except ApiError Unit :=
  Except.ensure headers.sameOrigin
    (ApiError.forbidden "This request did not come from the finance workspace.")

/-- `ensure_db_request_origin`: a bearer token without an origin is enough. -/
def ensureDbRequestOrigin (headers : Headers) : Except ApiError Unit :=
  if headers.hasOrigin then ensureSameOrigin headers
  else if (bearerSessionIdFromHeaders headers).isSome then .ok ()
  else ensureSameOrigin headers

/-! ## Starting a sign-in -/

/-- `mobile_client_redirect`. -/
def mobileClientRedirect (client : Option String) : Except ApiError String :=
  match client with
  | none => .ok NATIVE_MOBILE_AUTH_REDIRECT_URI
  | some "native-android" => .ok NATIVE_MOBILE_AUTH_REDIRECT_URI
  | some _ => .error (.badRequest "Unknown mobile client.")

/-- The row that `begin_pocket_id_login` (no query) and `begin_mobile_pocket_id_login` ask for. -/
def authorizationRow (now : Int) (codeVerifier : String) (mobile : Option MobileLoginQuery) :
    Except ApiError PocketIdState :=
  match mobile with
  | none => .ok ⟨codeVerifier, now + OAUTH_STATE_TTL_SECONDS, none, none⟩
  | some query => do
    let redirect ← mobileClientRedirect query.client
    let challenge ← Except.fromOption (query.codeChallenge.filter validPkceChallenge)
      (ApiError.badRequest "A valid mobile S256 code challenge is required.")
    return ⟨codeVerifier, now + OAUTH_STATE_TTL_SECONDS, some redirect, some challenge⟩

def pruneStates (now : Int) (store : Store) : Store :=
  { store with states := store.states.retain fun _ row => decide (now < row.expiresAt) }

def insertState (state : String) (row : PocketIdState) (store : Store) : Store :=
  { store with states := store.states.insert state row }

/-! ## The callback -/

/-- `finish_pocket_id_login` up to the request to the provider: the state of the query must be the
one in the cookie, and its row is read and left in place. -/
def openCallback (store : Store) (now : Int) (query : OAuthCallback) (headers : Headers) :
    Except ApiError (String × PocketIdState) := do
  let browserState := cookieIdFromHeaders headers .pocketOauth
  Except.ensure (browserState.isSome ∧ query.state = browserState) (ApiError.badRequest
    "This sign-in request was not started in this browser. Please sign in again.")
  Except.ensure query.error.isNone
    (ApiError.unauthorized "Pocket ID sign-in was cancelled or denied.")
  let oauthState ← Except.fromOption query.state (ApiError.badRequest "Missing Pocket ID state.")
  let _ ← Except.fromOption query.code (ApiError.badRequest "Missing Pocket ID code.")
  let row ← Except.fromOption
    ((store.states.lookup oauthState).filter fun row => decide (now < row.expiresAt))
    (ApiError.badRequest "The Pocket ID sign-in request expired. Please try again.")
  return (oauthState, row)

/-- The rest of `finish_pocket_id_login`: the answer of the provider, `none` when it failed. -/
def identify (config : Config) (row : PocketIdState) (info : Option PocketUserInfo) :
    Except ApiError PocketIdentity := do
  let info ← Except.fromOption info (ApiError.upstream "Could not verify the Pocket ID account.")
  let subject := trim info.sub
  let username := toAsciiLowercase (trim info.preferredUsername)
  Except.ensure (subject ≠ "" ∧ subject ∈ config.pocketIdAllowedSubjects) (ApiError.forbidden
    "This Pocket ID account is not allowed to use the finance workspace.")
  return ⟨subject, username, row.mobileRedirectUri, row.mobileCodeChallenge⟩

/-- `revoke_pocket_session_in`, on the tables of this model. -/
def revokePocketSession (idHash : String) (store : Store) : Store :=
  { store with sessions := store.sessions.erase idHash }

/-- `create_pocket_session_in`, with the random id it draws. -/
def createPocketSession (config : Config) (now : Int) (cookieId subject username : String)
    (store : Store) : Store :=
  let sessions := store.sessions.retain fun _ row => decide (now < row.expiresAt)
  let row : PocketSession := ⟨subject, username, now + SESSION_TTL_SECONDS, now⟩
  { store with sessions := sessions.insert (config.hashSessionId cookieId) row }

/-- `create_mobile_handoff_in`, with the random code it draws. -/
def createMobileHandoff (config : Config) (now : Int) (handoff : String) (identity : PocketIdentity)
    (store : Store) : Except ApiError Store := do
  Except.ensure (identity.mobileCodeChallenge.any validPkceChallenge)
    (ApiError.badRequest "A mobile S256 code challenge is required.")
  let handoffs := store.handoffs.retain fun _ row => decide (now < row.expiresAt)
  let row : MobileHandoff := ⟨identity.subject, identity.username,
    now + MOBILE_HANDOFF_TTL_SECONDS, now, identity.mobileCodeChallenge⟩
  return { store with handoffs := handoffs.insert (config.hashSessionId handoff) row }

/-- `issue_pocket_login`: one transaction consumes the state and creates the credential. The clock is
read for the deletion, and again (`created`) for the credential. -/
def issuePocketLogin (config : Config) (store : Store) (now created : Int) (oauthState : String)
    (identity : PocketIdentity) (headers : Headers) (credential : String) :
    Except ApiError Store := do
  Except.ensure ((store.states.lookup oauthState).any fun row => decide (now < row.expiresAt))
    (ApiError.unauthorized "This sign-in request expired or was cancelled. Please sign in again.")
  let store := { store with states := store.states.erase oauthState }
  if identity.mobileRedirectUri.isSome then
    createMobileHandoff config created credential identity store
  else
    let store := match cookieIdFromHeaders headers .pocketSession with
      | some previous => revokePocketSession (config.hashSessionId previous) store
      | none => store
    return createPocketSession config created credential identity.subject identity.username store

/-! ## Handoffs -/

/-- The static checks of `exchange_mobile_session`: the code in its normal form, and the challenge of
the verifier. -/
def normalizeExchange (config : Config) (payload : MobileSessionExchangeRequest) :
    Except ApiError (String × String) := do
  let handoffCode := toAsciiLowercase (trim payload.handoffCode)
  Except.ensure (isCredentialId handoffCode)
    (ApiError.badRequest "The mobile sign-in handoff is invalid.")
  Except.ensure (43 ≤ payload.codeVerifier.length ∧ payload.codeVerifier.length ≤ 128 ∧
      payload.codeVerifier.toList.all isVerifierCharacter)
    (ApiError.badRequest "The mobile code verifier is invalid.")
  return (handoffCode, config.s256 payload.codeVerifier)

def pruneHandoffs (now : Int) (store : Store) : Store :=
  { store with handoffs := store.handoffs.retain fun _ row => decide (now < row.expiresAt) }

/-- `DELETE ... RETURNING` of `exchange_mobile_session`, with the clock that was read at its
beginning. -/
def redeemHandoff (config : Config) (store : Store) (now : Int) (handoffCode challenge : String) :
    Except ApiError (Store × String × String) := do
  let row ← Except.fromOption
    ((store.handoffs.lookup (config.hashSessionId handoffCode)).filter fun row =>
      decide (now < row.expiresAt) && row.codeChallenge = some challenge)
    (ApiError.unauthorized "The mobile sign-in handoff has expired. Please sign in again.")
  return ({ store with handoffs := store.handoffs.erase (config.hashSessionId handoffCode) },
    row.subject, row.username)

/-! ## Signing out and checking a session -/

/-- `logout`. -/
def logout (config : Config) (store : Store) (headers : Headers) : Except ApiError Store := do
  ensureSameOrigin headers
  let store := match cookieIdFromHeaders headers .pocketSession with
    | some sessionId => revokePocketSession (config.hashSessionId sessionId) store
    | none => store
  return match cookieIdFromHeaders headers .pocketOauth with
    | some oauthState => { store with states := store.states.erase oauthState }
    | none => store

/-- `logout_mobile_session`. -/
def logoutMobileSession (config : Config) (store : Store) (headers : Headers) :
    Except ApiError Store := do
  ensureDbRequestOrigin headers
  let token ← Except.fromOption (bearerSessionIdFromHeaders headers)
    (ApiError.unauthorized "A mobile bearer session is required.")
  return revokePocketSession (config.hashSessionId token) store

/-- `current_pocket_session`: a session that is expired or no longer allowed is revoked. -/
def currentPocketSession (config : Config) (store : Store) (now : Int) (headers : Headers) :
    Store × Option PocketSession :=
  match pocketSessionIdFromHeaders headers with
  | none => (store, none)
  | some cookieId =>
    let idHash := config.hashSessionId cookieId
    match store.sessions.lookup idHash with
    | none => (store, none)
    | some row =>
      if row.expiresAt ≤ now ∨ trim row.subject = "" ∨
          row.subject ∉ config.pocketIdAllowedSubjects then
        (revokePocketSession idHash store, none)
      else (store, some row)

end Server.Auth
