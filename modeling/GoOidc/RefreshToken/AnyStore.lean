import GoOidc.RefreshToken.Grant

/-!
The handler's store is an interface whose `CreateOrUpdate` returns an error, which
`updateRefreshTokenGrantSession` turns into `internal_error` and the handler never reads: the
token response goes out whatever the write did. A store whose writes succeed and read back backs
every answered refresh token (`answered_refreshToken_resolves`); a failing one does not
(`failedWrite_answers_unstored_token`).
-/

namespace GoOidc.RefreshToken.AnyStore

/-- The grant-session store the handler calls, over the state `σ` it keeps. -/
structure GrantSessionManager (σ : Type) where
  getByRefreshToken : σ → String → Option GrantSession
  createOrUpdate : σ → GrantSession → σ × Option String

section Handler
variable {σ : Type} (store : GrantSessionManager σ) (ctx : RefreshContext)

def getGrantSessionByRefreshToken (s : σ) (refreshToken : String) : Except OAuthError GrantSession :=
  match store.getByRefreshToken s refreshToken with
  | some gs => .ok gs
  | none => .error ⟨errorCodeInvalidRequest, "invalid refresh_token"⟩

/-- `updateRefreshTokenGrantSession`: the write's error becomes `internal_error`. -/
def updateRefreshTokenGrantSession (s : σ) (gs : GrantSession) (req : TokenRequest) (token : Token) :
    GrantSession × σ × Option OAuthError :=
  let updated := updatedGrantSession ctx gs req token
  let written := store.createOrUpdate s updated
  (updated, written.1, written.2.map fun err => ⟨errorCodeInternalError, err⟩)

/-- `handleRefreshTokenGrantTokenCreation`; the error of the write is not read. -/
def handleRefreshTokenGrantTokenCreation (s : σ) (req : TokenRequest) :
    Except OAuthError TokenResponse × σ :=
  match preValidateRefreshTokenGrantRequest req with
  | some _ => (.error ⟨errorCodeInvalidRequest, "invalid parameter for refresh token grant"⟩, s)
  | none =>
    match getAuthenticatedClientAndGrantSession ctx (getGrantSessionByRefreshToken store s req.refreshToken) with
    | .error err => (.error err, s)
    | .ok (client, gs) =>
      match validateRefreshTokenGrantRequest ctx req client gs with
      | some err => (.error err, s)
      | none =>
        let token := ctx.makeToken client gs.grantOptions
        let (updated, s', _) := updateRefreshTokenGrantSession store ctx s gs req token
        (.ok (tokenResponse ctx client updated token), s')

end Handler

def inMemory : GrantSessionManager RefreshToken.GrantSessionManager where
  getByRefreshToken := RefreshToken.GrantSessionManager.getByRefreshToken
  createOrUpdate m gs := (m.createOrUpdate gs, none)

theorem handleRefreshTokenGrantTokenCreation_inMemory (ctx : RefreshContext)
    (m : RefreshToken.GrantSessionManager) (req : TokenRequest) :
    handleRefreshTokenGrantTokenCreation inMemory ctx m req =
      RefreshToken.handleRefreshTokenGrantTokenCreation ctx m req := rfl

/-! ### What a refresh does to any store -/

section AnyStore
variable {σ : Type} {store : GrantSessionManager σ} {ctx : RefreshContext} {s : σ} {req : TokenRequest}

theorem getGrantSessionByRefreshToken_eq_ok {refreshToken : String} {gs : GrantSession} :
    getGrantSessionByRefreshToken store s refreshToken = .ok gs ↔
      store.getByRefreshToken s refreshToken = some gs := by
  unfold getGrantSessionByRefreshToken
  split <;> simp_all

theorem handleRefreshTokenGrantTokenCreation_cases :
    (∃ err, handleRefreshTokenGrantTokenCreation store ctx s req = (.error err, s)) ∨
      ∃ client gs, store.getByRefreshToken s req.refreshToken = some gs ∧
        ctx.authenticatedClient = .ok client ∧ validateRefreshTokenGrantRequest ctx req client gs = none ∧
        let token := ctx.makeToken client gs.grantOptions
        let updated := updatedGrantSession ctx gs req token
        handleRefreshTokenGrantTokenCreation store ctx s req =
          (.ok (tokenResponse ctx client updated token), (store.createOrUpdate s updated).1) := by
  unfold handleRefreshTokenGrantTokenCreation
  split
  · exact .inl ⟨_, rfl⟩
  · split
    · exact .inl ⟨_, rfl⟩
    · next client gs found =>
      obtain ⟨authenticated, looked⟩ := getAuthenticatedClientAndGrantSession_eq_ok.mp found
      split
      · exact .inl ⟨_, rfl⟩
      · next validated =>
        exact .inr ⟨client, gs, getGrantSessionByRefreshToken_eq_ok.mp looked, authenticated, validated, rfl⟩

theorem handleRefreshTokenGrantTokenCreation_error_store {err : OAuthError}
    (refused : (handleRefreshTokenGrantTokenCreation store ctx s req).1 = .error err) :
    (handleRefreshTokenGrantTokenCreation store ctx s req).2 = s := by
  rcases @handleRefreshTokenGrantTokenCreation_cases _ store ctx s req with
    ⟨_, refusal⟩ | ⟨_, _, _, _, _, answered⟩
  · rw [refusal]
  · rw [answered] at refused
    cases refused

/-- A store whose writes never fail and read back. -/
def Reliable (store : GrantSessionManager σ) : Prop :=
  ∀ s gs, (store.createOrUpdate s gs).2 = none ∧
    store.getByRefreshToken (store.createOrUpdate s gs).1 gs.refreshToken = some gs

theorem answered_refreshToken_resolves (reliable : Reliable store) {response : TokenResponse}
    (answered : (handleRefreshTokenGrantTokenCreation store ctx s req).1 = .ok response) :
    ∃ client presented written, ctx.authenticatedClient = .ok client ∧
      store.getByRefreshToken s req.refreshToken = some presented ∧
      store.getByRefreshToken (handleRefreshTokenGrantTokenCreation store ctx s req).2
        response.refreshToken = some written ∧
      written.id = presented.id ∧ written.tokenID = (ctx.makeToken client presented.grantOptions).id ∧
      response.accessToken = (ctx.makeToken client presented.grantOptions).value := by
  rcases @handleRefreshTokenGrantTokenCreation_cases _ store ctx s req with
    ⟨_, refusal⟩ | ⟨client, gs, found, authenticated, -, result⟩
  · rw [refusal] at answered
    cases answered
  · rw [result] at answered ⊢
    cases answered
    exact ⟨client, gs, _, authenticated, found, (reliable s _).2, rfl, rfl, rfl⟩

end AnyStore

theorem inMemory_reliable : Reliable inMemory := fun m gs =>
  ⟨rfl, by simp [inMemory, RefreshToken.GrantSessionManager.getByRefreshToken,
    RefreshToken.GrantSessionManager.createOrUpdate]⟩

/-! ### A store whose writes fail -/

def unavailableStore : GrantSessionManager RefreshToken.GrantSessionManager where
  getByRefreshToken := RefreshToken.GrantSessionManager.getByRefreshToken
  createOrUpdate m _ := (m, some "the store is unavailable")

def failedWriteRefresh : Except OAuthError TokenResponse × RefreshToken.GrantSessionManager :=
  handleRefreshTokenGrantTokenCreation unavailableStore (rotatingContext "r1") emailGrantStore ⟨"r", ""⟩

theorem failedWrite_answers_unstored_token :
    (updateRefreshTokenGrantSession unavailableStore (rotatingContext "r1") emailGrantStore emailGrant
        ⟨"r", ""⟩ ((rotatingContext "r1").makeToken refreshClient emailGrant.grantOptions)).2.2 =
      some ⟨errorCodeInternalError, "the store is unavailable"⟩ ∧
      (∃ response, failedWriteRefresh.1 = .ok response ∧ response.refreshToken = "r1") ∧
      failedWriteRefresh.2 = emailGrantStore ∧
      unavailableStore.getByRefreshToken failedWriteRefresh.2 "r1" = none :=
  ⟨rfl, ⟨_, rfl, rfl⟩, rfl, by decide⟩

end GoOidc.RefreshToken.AnyStore
