import GoOidc.Vocabulary
import Mathlib.Data.List.Nodup

/-!
`handleRefreshTokenGrantTokenCreation` (`internal/oauth/token/refresh_token.go`) looks the grant
session up by the refresh token, validates the request, mints a token and writes the session back
with the new token ID, a new refresh token under rotation, and the requested scopes active. The
store, absent from the sources, is the spec's last-writer-wins store; over every sequence of
refreshes each session keeps its grant and only granted scopes active (`serve_keeps_scopes_granted`).
-/

namespace GoOidc.RefreshToken

/-- Modelled from the spec: `GrantOptions`, absent from the sources. -/
structure GrantOptions where
  clientID : String
  grantedScopes : String
  tokenExpiresInSecs : Int
  deriving DecidableEq, Repr

/-- Modelled from the spec: `GrantSession`, absent from the sources. -/
structure GrantSession where
  id : String
  tokenID : String
  refreshToken : String
  lastTokenIssuedAtTimestamp : Int
  expiresAtTimestamp : Int
  activeScopes : String
  grantOptions : GrantOptions
  deriving DecidableEq, Repr

/-- Modelled from the spec: `IsRefreshSessionExpired`. -/
def GrantSession.isRefreshSessionExpired (gs : GrantSession) (now : Int) : Bool :=
  decide (gs.expiresAtTimestamp < now)

structure Token where
  id : String
  value : String
  type : String
  deriving DecidableEq, Repr

def newGrantSession (grantOptions : GrantOptions) (token : Token) (id : String) (now : Int) :
    GrantSession where
  id := id
  tokenID := token.id
  refreshToken := ""
  lastTokenIssuedAtTimestamp := now
  expiresAtTimestamp := now + grantOptions.tokenExpiresInSecs
  activeScopes := grantOptions.grantedScopes
  grantOptions := grantOptions

structure TokenRequest where
  refreshToken : String
  scopes : String
  deriving DecidableEq, Repr

structure TokenResponse where
  accessToken : String
  expiresIn : Int
  tokenType : String
  refreshToken : String
  idToken : String
  deriving DecidableEq, Repr

/-- What a request reads, with the outcomes of client authentication, minting and the draw. -/
structure RefreshContext where
  shouldRotateRefreshTokens : Bool
  now : Int
  authenticatedClient : Except OAuthError Client
  makeToken : Client → GrantOptions → Token
  makeIDToken : Client → GrantOptions → String
  generatedRefreshToken : String

/-! ### The store -/

/-- Modelled from the spec: the grant-session store, one session per ID, last writer wins. -/
structure GrantSessionManager where
  sessions : List GrantSession
  distinct : (sessions.map GrantSession.id).Nodup

namespace GrantSessionManager

def createOrUpdate (m : GrantSessionManager) (gs : GrantSession) : GrantSessionManager :=
  ⟨gs :: m.sessions.filter (fun x => x.id ≠ gs.id), by
    refine List.nodup_cons.mpr ⟨by simp, ?_⟩
    exact m.distinct.sublist ((List.filter_sublist _).map _)⟩

def getByRefreshToken (m : GrantSessionManager) (refreshToken : String) : Option GrantSession :=
  m.sessions.find? (·.refreshToken = refreshToken)

theorem mem_createOrUpdate {m : GrantSessionManager} {gs s : GrantSession} :
    s ∈ (m.createOrUpdate gs).sessions ↔ s = gs ∨ (s ∈ m.sessions ∧ s.id ≠ gs.id) := by
  simp [createOrUpdate]

theorem getByRefreshToken_mem {m : GrantSessionManager} {refreshToken : String} {gs : GrantSession}
    (found : m.getByRefreshToken refreshToken = some gs) :
    gs ∈ m.sessions ∧ gs.refreshToken = refreshToken :=
  ⟨List.mem_of_find?_eq_some found, by simpa using List.find?_some found⟩

theorem getByRefreshToken_isSome {m : GrantSessionManager} {gs : GrantSession}
    (member : gs ∈ m.sessions) : (m.getByRefreshToken gs.refreshToken).isSome :=
  List.find?_isSome.mpr ⟨gs, member, by simp⟩

theorem eq_of_id_eq {m : GrantSessionManager} {s s' : GrantSession} (member : s ∈ m.sessions)
    (member' : s' ∈ m.sessions) (same : s.id = s'.id) : s = s' :=
  List.inj_on_of_nodup_map m.distinct member member' same

/-- Modelled from the spec: `SessionByTokenID`. -/
def getByTokenID (m : GrantSessionManager) (tokenID : String) : Option GrantSession :=
  m.sessions.find? (·.tokenID = tokenID)

def HeldOnce (m : GrantSessionManager) (field : GrantSession → String) (value : String) : Prop :=
  ∀ s ∈ m.sessions, ∀ t ∈ m.sessions, field s = value → field t = value → s = t

instance (m : GrantSessionManager) (field : GrantSession → String) (value : String) :
    Decidable (m.HeldOnce field value) :=
  inferInstanceAs (Decidable (∀ s ∈ m.sessions, ∀ t ∈ m.sessions, _))

/-! ### Lookups by a field after a rewrite of `gs` into `gs'` -/

section Rewrite
variable {m : GrantSessionManager} {gs gs' : GrantSession} (field : GrantSession → String)
  (value : String)

theorem find?_congr_of_mem {l : List GrantSession} {p q : GrantSession → Bool}
    (same : ∀ x ∈ l, p x = q x) : l.find? p = l.find? q := by
  induction l with
  | nil => rfl
  | cons x xs ih =>
    simp only [List.find?_cons, same x (List.mem_cons_self x xs),
      ih fun y member => same y (List.mem_cons_of_mem x member)]

theorem find?_createOrUpdate_self (holds : field gs' = value) :
    (m.createOrUpdate gs').sessions.find? (field · = value) = some gs' := by
  simp [createOrUpdate, holds]

theorem find?_createOrUpdate_other (member : gs ∈ m.sessions) (sameID : gs'.id = gs.id)
    (notNew : field gs' ≠ value) (notOld : field gs ≠ value) :
    (m.createOrUpdate gs').sessions.find? (field · = value) = m.sessions.find? (field · = value) := by
  simp only [createOrUpdate, List.find?_cons, notNew, decide_False, List.find?_filter]
  refine find?_congr_of_mem fun x stored => ?_
  by_cases holds : field x = value
  · have other : x.id ≠ gs'.id := fun same => notOld (eq_of_id_eq stored member (same.trans sameID) ▸ holds)
    simp [holds, other]
  · simp [holds]

theorem find?_createOrUpdate_replaced (member : gs ∈ m.sessions) (sameID : gs'.id = gs.id)
    (heldOnce : m.HeldOnce field value) (held : field gs = value) (notNew : field gs' ≠ value) :
    (m.createOrUpdate gs').sessions.find? (field · = value) = none := by
  simp only [createOrUpdate, List.find?_cons, notNew, decide_False, List.find?_filter, List.find?_eq_none]
  intro x stored
  by_cases holds : field x = value
  · simp [holds, heldOnce x stored gs member holds held, sameID]
  · simp [holds]

end Rewrite

end GrantSessionManager

/-! ### The handler -/

section Handler
variable (ctx : RefreshContext)

/-- On a failed lookup the goroutine sends the error, then blocks on a second send. -/
def getGrantSessionByRefreshToken (m : GrantSessionManager) (refreshToken : String) :
    Except OAuthError GrantSession :=
  match m.getByRefreshToken refreshToken with
  | some gs => .ok gs
  | none => .error ⟨errorCodeInvalidRequest, "invalid refresh_token"⟩

/-- `getAuthenticatedClientAndGrantSession`: the client authentication error comes first. -/
def getAuthenticatedClientAndGrantSession (grantSessionResult : Except OAuthError GrantSession) :
    Except OAuthError (Client × GrantSession) := do
  let client ← ctx.authenticatedClient
  let gs ← grantSessionResult
  return (client, gs)

def preValidateRefreshTokenGrantRequest (req : TokenRequest) : Option OAuthError :=
  if req.refreshToken = "" then some ⟨errorCodeInvalidRequest, "invalid refresh token"⟩ else none

def validateRefreshTokenGrantRequest (req : TokenRequest) (client : Client) (gs : GrantSession) :
    Option OAuthError :=
  if !client.isGrantTypeAllowed grantRefreshToken then
    some ⟨errorCodeUnauthorizedClient, "invalid grant type"⟩
  else if client.id ≠ gs.grantOptions.clientID then
    some ⟨errorCodeInvalidGrant, "the refresh token was not issued to the client"⟩
  else if gs.isRefreshSessionExpired ctx.now then
    some ⟨errorCodeUnauthorizedClient, "the refresh token is expired"⟩
  else if req.scopes ≠ "" ∧ !containsAllScopes gs.grantOptions.grantedScopes req.scopes then
    some ⟨errorCodeInvalidScope, "invalid scope"⟩
  else none

def updatedGrantSession (gs : GrantSession) (req : TokenRequest) (token : Token) : GrantSession :=
  { gs with lastTokenIssuedAtTimestamp := ctx.now
            tokenID := token.id
            refreshToken := if ctx.shouldRotateRefreshTokens then ctx.generatedRefreshToken
              else gs.refreshToken
            activeScopes := if req.scopes ≠ "" then req.scopes else gs.activeScopes }

def updateRefreshTokenGrantSession (m : GrantSessionManager) (gs : GrantSession)
    (req : TokenRequest) (token : Token) : GrantSession × GrantSessionManager :=
  let updated := updatedGrantSession ctx gs req token
  (updated, m.createOrUpdate updated)

def tokenResponse (client : Client) (gs : GrantSession) (token : Token) : TokenResponse where
  accessToken := token.value
  expiresIn := gs.grantOptions.tokenExpiresInSecs
  tokenType := token.type
  refreshToken := gs.refreshToken
  idToken := if scopesContainsOpenID gs.activeScopes then ctx.makeIDToken client gs.grantOptions else ""

def handleRefreshTokenGrantTokenCreation (m : GrantSessionManager) (req : TokenRequest) :
    Except OAuthError TokenResponse × GrantSessionManager :=
  match preValidateRefreshTokenGrantRequest req with
  | some _ => (.error ⟨errorCodeInvalidRequest, "invalid parameter for refresh token grant"⟩, m)
  | none =>
    match getAuthenticatedClientAndGrantSession ctx (getGrantSessionByRefreshToken m req.refreshToken) with
    | .error err => (.error err, m)
    | .ok (client, gs) =>
      match validateRefreshTokenGrantRequest ctx req client gs with
      | some err => (.error err, m)
      | none =>
        let token := ctx.makeToken client gs.grantOptions
        let (updated, m') := updateRefreshTokenGrantSession ctx m gs req token
        (.ok (tokenResponse ctx client updated token), m')

end Handler

def serve (m : GrantSessionManager) : List (RefreshContext × TokenRequest) → GrantSessionManager
  | [] => m
  | (ctx, req) :: rest => serve (handleRefreshTokenGrantTokenCreation ctx m req).2 rest

/-! ### What a refresh writes -/

section Writes
variable {ctx : RefreshContext} {m : GrantSessionManager} {req : TokenRequest}

theorem getGrantSessionByRefreshToken_eq_ok {refreshToken : String} {gs : GrantSession} :
    getGrantSessionByRefreshToken m refreshToken = .ok gs ↔ m.getByRefreshToken refreshToken = some gs := by
  unfold getGrantSessionByRefreshToken
  split <;> simp_all

theorem getAuthenticatedClientAndGrantSession_eq_ok {result : Except OAuthError GrantSession}
    {client : Client} {gs : GrantSession} :
    getAuthenticatedClientAndGrantSession ctx result = .ok (client, gs) ↔
      ctx.authenticatedClient = .ok client ∧ result = .ok gs := by
  unfold getAuthenticatedClientAndGrantSession
  cases ctx.authenticatedClient <;> cases result <;>
    simp [bind, Except.bind, pure, Except.pure, and_comm]

theorem validateRefreshTokenGrantRequest_eq_none {client : Client} {gs : GrantSession} :
    validateRefreshTokenGrantRequest ctx req client gs = none ↔
      client.isGrantTypeAllowed grantRefreshToken = true ∧ client.id = gs.grantOptions.clientID ∧
        gs.isRefreshSessionExpired ctx.now = false ∧
        (req.scopes ≠ "" → containsAllScopes gs.grantOptions.grantedScopes req.scopes = true) := by
  unfold validateRefreshTokenGrantRequest
  split_ifs <;> simp_all

theorem handleRefreshTokenGrantTokenCreation_store :
    (handleRefreshTokenGrantTokenCreation ctx m req).2 = m ∨
      ∃ client gs, m.getByRefreshToken req.refreshToken = some gs ∧
        ctx.authenticatedClient = .ok client ∧
        validateRefreshTokenGrantRequest ctx req client gs = none ∧
        (handleRefreshTokenGrantTokenCreation ctx m req).2 =
          m.createOrUpdate (updatedGrantSession ctx gs req (ctx.makeToken client gs.grantOptions)) := by
  unfold handleRefreshTokenGrantTokenCreation
  split
  · exact .inl rfl
  · split
    · exact .inl rfl
    · next client gs found =>
      obtain ⟨authenticated, looked⟩ := getAuthenticatedClientAndGrantSession_eq_ok.mp found
      split
      · exact .inl rfl
      · next validated =>
        exact .inr ⟨client, gs, getGrantSessionByRefreshToken_eq_ok.mp looked, authenticated,
          validated, rfl⟩

theorem handleRefreshTokenGrantTokenCreation_eq_ok {resp : TokenResponse}
    (refreshed : (handleRefreshTokenGrantTokenCreation ctx m req).1 = .ok resp) :
    ∃ client gs, m.getByRefreshToken req.refreshToken = some gs ∧ ctx.authenticatedClient = .ok client ∧
      validateRefreshTokenGrantRequest ctx req client gs = none ∧
      resp = tokenResponse ctx client (updatedGrantSession ctx gs req (ctx.makeToken client gs.grantOptions))
        (ctx.makeToken client gs.grantOptions) ∧
      (handleRefreshTokenGrantTokenCreation ctx m req).2 =
        m.createOrUpdate (updatedGrantSession ctx gs req (ctx.makeToken client gs.grantOptions)) := by
  unfold handleRefreshTokenGrantTokenCreation at refreshed ⊢
  split at refreshed
  · cases refreshed
  · split at refreshed
    · cases refreshed
    · next client gs found =>
      obtain ⟨authenticated, looked⟩ := getAuthenticatedClientAndGrantSession_eq_ok.mp found
      split at refreshed
      · cases refreshed
      · next validated =>
        cases refreshed
        exact ⟨client, gs, getGrantSessionByRefreshToken_eq_ok.mp looked, authenticated, validated,
          rfl, rfl⟩

end Writes

/-! ### The scopes a refresh may activate -/

def ScopesWithin (gs : GrantSession) : Prop :=
  ∀ scope ∈ splitStringWithSpaces gs.activeScopes,
    scope ∈ splitStringWithSpaces gs.grantOptions.grantedScopes

def KeepsGrants (m0 m : GrantSessionManager) : Prop :=
  ∀ gs ∈ m.sessions, ScopesWithin gs ∧
    ∃ gs0 ∈ m0.sessions, gs0.id = gs.id ∧ gs0.grantOptions = gs.grantOptions

section Scopes
variable {ctx : RefreshContext} {m0 m : GrantSessionManager} {req : TokenRequest}

theorem updatedGrantSession_scopesWithin {client : Client} {gs : GrantSession} {token : Token}
    (within : ScopesWithin gs) (validated : validateRefreshTokenGrantRequest ctx req client gs = none) :
    ScopesWithin (updatedGrantSession ctx gs req token) := by
  by_cases empty : req.scopes = ""
  · simpa [ScopesWithin, updatedGrantSession, empty] using within
  · have granted := (validateRefreshTokenGrantRequest_eq_none.mp validated).2.2.2 empty
    simpa [ScopesWithin, updatedGrantSession, empty, containsAllScopes] using granted

theorem handleRefreshTokenGrantTokenCreation_keepsGrants (keeps : KeepsGrants m0 m) :
    KeepsGrants m0 (handleRefreshTokenGrantTokenCreation ctx m req).2 := by
  rcases handleRefreshTokenGrantTokenCreation_store with same | ⟨client, gs, found, -, validated, written⟩
  · rwa [same]
  · rw [written]
    intro s member
    rcases GrantSessionManager.mem_createOrUpdate.mp member with rfl | ⟨old, -⟩
    · obtain ⟨within, gs0, stored, sameID, sameGrant⟩ :=
        keeps gs (GrantSessionManager.getByRefreshToken_mem found).1
      exact ⟨updatedGrantSession_scopesWithin within validated, gs0, stored, sameID, sameGrant⟩
    · exact keeps s old

theorem serve_keepsGrants (requests : List (RefreshContext × TokenRequest))
    (keeps : KeepsGrants m0 m) : KeepsGrants m0 (serve m requests) := by
  induction requests generalizing m with
  | nil => exact keeps
  | cons _ rest ih => exact ih (handleRefreshTokenGrantTokenCreation_keepsGrants keeps)

end Scopes

theorem serve_keeps_scopes_granted (m0 : GrantSessionManager)
    (created : ∀ gs ∈ m0.sessions, gs.activeScopes = gs.grantOptions.grantedScopes)
    (requests : List (RefreshContext × TokenRequest)) :
    ∀ gs ∈ (serve m0 requests).sessions, ScopesWithin gs ∧
      ∃ gs0 ∈ m0.sessions, gs0.id = gs.id ∧ gs0.grantOptions.grantedScopes = gs.grantOptions.grantedScopes := by
  have initially : KeepsGrants m0 m0 := fun gs member =>
    ⟨fun scope active => by rwa [← created gs member], gs, member, rfl, rfl⟩
  intro gs member
  obtain ⟨within, gs0, stored, sameID, sameGrant⟩ := serve_keepsGrants requests initially gs member
  exact ⟨within, gs0, stored, sameID, congrArg GrantOptions.grantedScopes sameGrant⟩

/-! ### A grant of `openid email profile` -/

def emailGrant : GrantSession :=
  { newGrantSession ⟨"c1", "openid email profile", 300⟩ ⟨"t0", "access-0", "Bearer"⟩ "g1" 0 with
    refreshToken := "r" }

def emailGrantStore : GrantSessionManager := ⟨[emailGrant], List.nodup_singleton _⟩

def refreshClient : Client where
  id := "c1"
  secret := ""
  hashedSecret := ""
  authnMethod := clientAuthnSecretBasic
  authnSigAlg := ""
  grantTypes := [grantAuthorizationCode, grantRefreshToken]
  tlsSubDistinguishedName := ""
  tlsSubAlternativeName := ""
  tlsSubAlternativeNameIp := ""
  idTokenSignatureAlgorithm := ""
  userInfoSignatureAlgorithm := ""
  jarmSignatureAlgorithm := ""

def rotatingContext (generated : String) : RefreshContext where
  shouldRotateRefreshTokens := true
  now := 10
  authenticatedClient := .ok refreshClient
  makeToken _ _ := ⟨"t-" ++ generated, "access-" ++ generated, "Bearer"⟩
  makeIDToken _ _ := "id-token"
  generatedRefreshToken := generated

theorem emailGrant_keeps_scopes_granted :
    (∀ gs ∈ emailGrantStore.sessions, gs.activeScopes = gs.grantOptions.grantedScopes) ∧
      ∀ gs ∈ (serve emailGrantStore [(rotatingContext "r1", ⟨"r", "openid email"⟩),
        (rotatingContext "r2", ⟨"r1", "address"⟩), (rotatingContext "r3", ⟨"r1", ""⟩)]).sessions,
        ScopesWithin gs ∧ ∃ gs0 ∈ emailGrantStore.sessions, gs0.id = gs.id ∧
          gs0.grantOptions.grantedScopes = gs.grantOptions.grantedScopes :=
  ⟨by decide, serve_keeps_scopes_granted emailGrantStore (by decide) _⟩

end GoOidc.RefreshToken
