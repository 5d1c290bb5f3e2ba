import GoOidc.RefreshToken.Grant
import Mathlib.Data.String.Basic

/-!
`Context.TokenOptions` moves an opaque length of `RefreshTokenLength`, 99, one up, and an opaque
token is `RandomString(n)`; `tokenIntrospectionInfo` tells tokens apart by their byte length
first, 99 being a refresh token, then by the shape of a JWS. An opaque token drawn for any host's
options is looked up by its token ID (`opaqueToken_routed_by_id`). After a refresh the new
refresh token and token ID introspect as active and the replaced ones as inactive.
-/

namespace GoOidc.Introspection

open RefreshToken (GrantSession)

/-! ### Token options -/

structure TokenOptions where
  format : String
  lifetimeSecs : Int
  jwtSignatureKeyID : String
  opaqueLength : Int
  deriving DecidableEq, Repr

def tokenOptions {GrantInfo : Type} (tokenOptionsFunc : GrantInfo → TokenOptions)
    (grantInfo : GrantInfo) : TokenOptions :=
  let opts := tokenOptionsFunc grantInfo
  if opts.opaqueLength = refreshTokenLength then { opts with opaqueLength := opts.opaqueLength + 1 }
  else opts

theorem tokenOptions_opaqueLength_ne {GrantInfo : Type} (tokenOptionsFunc : GrantInfo → TokenOptions)
    (grantInfo : GrantInfo) : (tokenOptions tokenOptionsFunc grantInfo).opaqueLength ≠ refreshTokenLength := by
  dsimp only [tokenOptions]
  split <;> simp_all [refreshTokenLength]

/-! ### Random strings -/

/-- `RandomString(n)`: a panic on a negative `n`, then one draw of `rand.Int` in `[0, 62)` per
    character, the first failed draw ending it. -/
def randomString (draw : Nat → Except String (Fin 62)) (n : Int) : Result String String :=
  if n < 0 then .panic
  else match (List.range n.toNat).mapM draw with
    | .ok picks => .ok (String.mk (picks.map charsetChar))
    | .error err => .error err

theorem length_of_mapM_eq_ok {α β : Type} {f : α → Except String β} :
    ∀ {xs : List α} {ys : List β}, xs.mapM f = .ok ys → ys.length = xs.length
  | [], ys, mapped => by cases mapped; rfl
  | x :: xs, ys, mapped => by
    simp only [List.mapM_cons, except_bind_eq_ok] at mapped
    obtain ⟨y, -, rest, restMapped, done⟩ := mapped
    cases done
    simp [length_of_mapM_eq_ok restMapped]

theorem charsetChar_mem (i : Fin 62) : charsetChar i ∈ clientSecretCharset := List.get_mem _ _ _

theorem clientSecretCharset_bytes : ∀ c ∈ clientSecretCharset, c.utf8Size = 1 ∧ c ≠ '.' := by
  decide

theorem charsetChar_utf8Size (i : Fin 62) : (charsetChar i).utf8Size = 1 :=
  (clientSecretCharset_bytes _ (charsetChar_mem i)).1

theorem charsetChar_ne_dot (i : Fin 62) : charsetChar i ≠ '.' :=
  (clientSecretCharset_bytes _ (charsetChar_mem i)).2

theorem randomString_eq_ok {draw : Nat → Except String (Fin 62)} {n : Int} {token : String}
    (drawn : randomString draw n = .ok token) :
    ∃ picks : List (Fin 62), token = String.mk (picks.map charsetChar) ∧ picks.length = n.toNat := by
  unfold randomString at drawn
  split at drawn
  · cases drawn
  · split at drawn
    · next picks mapped =>
      cases drawn
      exact ⟨picks, rfl, by simpa using length_of_mapM_eq_ok mapped⟩
    · cases drawn

theorem charsetString_bytes (picks : List (Fin 62)) :
    (String.mk (picks.map charsetChar)).utf8ByteSize = picks.length ∧
      '.' ∉ (String.mk (picks.map charsetChar)).toList := by
  induction picks with
  | nil => exact ⟨rfl, List.not_mem_nil _⟩
  | cons pick picks ih =>
    simp only [String.utf8ByteSize_mk, List.map_cons, String.utf8Len_cons, charsetChar_utf8Size,
      List.length_cons, String.toList, List.mem_cons, not_or] at ih ⊢
    exact ⟨by omega, (charsetChar_ne_dot pick).symm, ih.2⟩

/-! ### Introspection -/

structure TokenIntrospectionInfo where
  isActive : Bool
  scopes : String
  clientID : String
  expiresAtTimestamp : Int
  deriving DecidableEq, Repr

def inactive : TokenIntrospectionInfo := ⟨false, "", "", 0⟩

structure IntrospectionContext where
  now : Int
  grantSessionByRefreshToken : String → Option GrantSession
  grantSessionByTokenID : String → Option GrantSession
  /-- `utils.ValidClaims` for its `jti`; a `jti` that is not a string panics, and is left out. -/
  validTokenID : String → Option String

/-- Modelled from the spec: `utils.IsJWS`, absent from the sources; three dot-separated parts. -/
def isJWS (token : String) : Bool := (splitChars '.' token.toList).length = 3

/-- Modelled from the spec: `HasLastTokenExpired`, absent from the sources. -/
def hasLastTokenExpired (gs : GrantSession) (now : Int) : Bool :=
  decide (gs.lastTokenIssuedAtTimestamp + gs.grantOptions.tokenExpiresInSecs < now)

section Lookups
variable (ctx : IntrospectionContext)

def getRefreshTokenIntrospectionInfo (token : String) : TokenIntrospectionInfo :=
  match ctx.grantSessionByRefreshToken token with
  | none => inactive
  | some gs =>
    if gs.isRefreshSessionExpired ctx.now then inactive
    else ⟨true, gs.grantOptions.grantedScopes, gs.grantOptions.clientID, gs.expiresAtTimestamp⟩

def tokenIntrospectionInfoByID (tokenID : String) : TokenIntrospectionInfo :=
  match ctx.grantSessionByTokenID tokenID with
  | none => inactive
  | some gs =>
    if hasLastTokenExpired gs ctx.now then inactive
    else ⟨true, gs.activeScopes, gs.grantOptions.clientID,
      gs.lastTokenIssuedAtTimestamp + gs.grantOptions.tokenExpiresInSecs⟩

def getJWTTokenIntrospectionInfo (token : String) : TokenIntrospectionInfo :=
  match ctx.validTokenID token with
  | none => inactive
  | some tokenID => tokenIntrospectionInfoByID ctx tokenID

def opaqueTokenIntrospectionInfo (token : String) : TokenIntrospectionInfo :=
  tokenIntrospectionInfoByID ctx token

/-- `tokenIntrospectionInfo`; Go's `len(token)` counts bytes. -/
def tokenIntrospectionInfo (token : String) : TokenIntrospectionInfo :=
  if token.utf8ByteSize = refreshTokenLength then getRefreshTokenIntrospectionInfo ctx token
  else if isJWS token then getJWTTokenIntrospectionInfo ctx token
  else opaqueTokenIntrospectionInfo ctx token

end Lookups

theorem opaqueToken_routed_by_id {GrantInfo : Type} (tokenOptionsFunc : GrantInfo → TokenOptions)
    (grantInfo : GrantInfo) (nonNegative : 0 ≤ (tokenOptions tokenOptionsFunc grantInfo).opaqueLength)
    (draw : Nat → Except String (Fin 62)) (token : String)
    (drawn : randomString draw (tokenOptions tokenOptionsFunc grantInfo).opaqueLength = .ok token) :
    (token.length = (tokenOptions tokenOptionsFunc grantInfo).opaqueLength ∧
      (∀ c ∈ token.toList, c ∈ clientSecretCharset) ∧ isJWS token = false ∧
      ∀ ctx, tokenIntrospectionInfo ctx token = tokenIntrospectionInfoByID ctx token) ∧
    ∀ ctx (refreshToken : String), refreshToken.utf8ByteSize = refreshTokenLength →
      tokenIntrospectionInfo ctx refreshToken = getRefreshTokenIntrospectionInfo ctx refreshToken := by
  have differs := tokenOptions_opaqueLength_ne tokenOptionsFunc grantInfo
  obtain ⟨picks, rfl, count⟩ := randomString_eq_ok drawn
  obtain ⟨bytes, noDot⟩ := charsetString_bytes picks
  have notJWS : isJWS (String.mk (picks.map charsetChar)) = false := by
    simp [isJWS, splitChars_of_not_mem (show '.' ∉ picks.map charsetChar from noDot)]
  refine ⟨⟨?_, ?_, notJWS, fun ctx => ?_⟩, fun ctx refreshToken long => by simp [tokenIntrospectionInfo, long]⟩
  · simp [String.length, count, Int.toNat_of_nonneg nonNegative]
  · simpa using fun pick _ => charsetChar_mem pick
  · have notRefresh : (String.mk (picks.map charsetChar)).utf8ByteSize ≠ refreshTokenLength := by
      rw [bytes, count]; omega
    rw [tokenIntrospectionInfo, if_neg notRefresh, notJWS]
    rfl

def refreshLengthOptions (_ : Unit) : TokenOptions := ⟨"opaque", 600, "", 99⟩

def hundredAs : String := String.mk (List.replicate 100 'a')

theorem refreshLength_token_routed_by_id :
    (tokenOptions refreshLengthOptions ()).opaqueLength = 100 ∧
      randomString (fun _ => .ok 0) 100 = .ok hundredAs ∧
      ∀ ctx, tokenIntrospectionInfo ctx hundredAs = tokenIntrospectionInfoByID ctx hundredAs :=
  ⟨rfl, rfl, (opaqueToken_routed_by_id refreshLengthOptions () (by decide) (fun _ => .ok 0) hundredAs
    rfl).1.2.2.2⟩

/-! ### Introspection after a refresh (the older handler, the newer introspection) -/

open RefreshToken (GrantSessionManager RefreshContext TokenRequest TokenResponse
  handleRefreshTokenGrantTokenCreation handleRefreshTokenGrantTokenCreation_eq_ok updatedGrantSession
  emailGrantStore emailGrant rotatingContext refreshClient)

def IntrospectionContext.ofStore (m : GrantSessionManager) (now : Int)
    (validTokenID : String → Option String) : IntrospectionContext where
  now := now
  grantSessionByRefreshToken := m.getByRefreshToken
  grantSessionByTokenID := m.getByTokenID
  validTokenID := validTokenID

section Refresh
variable {ctx : RefreshContext} {m : GrantSessionManager} {req : TokenRequest} {resp : TokenResponse}

theorem refresh_moves_refreshToken_introspection (heldOnce : m.HeldOnce (·.refreshToken) req.refreshToken)
    (refreshed : (handleRefreshTokenGrantTokenCreation ctx m req).1 = .ok resp)
    (now : Int) (validTokenID : String → Option String) (refreshToken : String) :
    getRefreshTokenIntrospectionInfo
        (.ofStore (handleRefreshTokenGrantTokenCreation ctx m req).2 now validTokenID) refreshToken =
      if refreshToken = resp.refreshToken then
        getRefreshTokenIntrospectionInfo (.ofStore m now validTokenID) req.refreshToken
      else if refreshToken = req.refreshToken then inactive
      else getRefreshTokenIntrospectionInfo (.ofStore m now validTokenID) refreshToken := by
  obtain ⟨client, gs, found, -, -, answered, written⟩ := handleRefreshTokenGrantTokenCreation_eq_ok refreshed
  obtain ⟨member, held⟩ := GrantSessionManager.getByRefreshToken_mem found
  have sameID : (updatedGrantSession ctx gs req (ctx.makeToken client gs.grantOptions)).id = gs.id := rfl
  simp only [getRefreshTokenIntrospectionInfo, IntrospectionContext.ofStore, written, found]
  unfold GrantSessionManager.getByRefreshToken
  by_cases isNew : refreshToken = resp.refreshToken
  · have holds : (updatedGrantSession ctx gs req (ctx.makeToken client gs.grantOptions)).refreshToken =
        refreshToken := by rw [isNew, answered]; rfl
    rw [if_pos isNew, GrantSessionManager.find?_createOrUpdate_self GrantSession.refreshToken refreshToken holds]
    rfl
  have notNew : (updatedGrantSession ctx gs req (ctx.makeToken client gs.grantOptions)).refreshToken ≠
      refreshToken := fun holds => isNew (by rw [answered, ← holds]; rfl)
  rw [if_neg isNew]
  by_cases isOld : refreshToken = req.refreshToken
  · rw [if_pos isOld, GrantSessionManager.find?_createOrUpdate_replaced GrantSession.refreshToken refreshToken
      member sameID (isOld ▸ heldOnce) (isOld ▸ held) notNew]
  · rw [if_neg isOld, GrantSessionManager.find?_createOrUpdate_other GrantSession.refreshToken refreshToken
      member sameID notNew (held ▸ Ne.symm isOld)]

theorem emailGrant_rotation_retires_refreshToken :
    emailGrantStore.HeldOnce (·.refreshToken) "r" ∧
      (handleRefreshTokenGrantTokenCreation (rotatingContext "r1") emailGrantStore ⟨"r", "openid email"⟩).1 =
        .ok ⟨"access-r1", 300, "Bearer", "r1", "id-token"⟩ ∧
      getRefreshTokenIntrospectionInfo (.ofStore (handleRefreshTokenGrantTokenCreation (rotatingContext "r1")
        emailGrantStore ⟨"r", "openid email"⟩).2 20 fun _ => none) "r" = inactive :=
  have heldOnce : emailGrantStore.HeldOnce (·.refreshToken) "r" := by decide
  have refreshed : (handleRefreshTokenGrantTokenCreation (rotatingContext "r1") emailGrantStore
      ⟨"r", "openid email"⟩).1 = .ok ⟨"access-r1", 300, "Bearer", "r1", "id-token"⟩ := rfl
  ⟨heldOnce, refreshed,
    (refresh_moves_refreshToken_introspection heldOnce refreshed 20 (fun _ => none) "r").trans (by decide)⟩

theorem refresh_moves_tokenID_introspection {client : Client} {gs : GrantSession}
    (found : m.getByRefreshToken req.refreshToken = some gs)
    (authenticated : ctx.authenticatedClient = .ok client) (heldOnce : m.HeldOnce (·.tokenID) gs.tokenID)
    (refreshed : (handleRefreshTokenGrantTokenCreation ctx m req).1 = .ok resp)
    (now : Int) (validTokenID : String → Option String) (tokenID : String) :
    tokenIntrospectionInfoByID (.ofStore (handleRefreshTokenGrantTokenCreation ctx m req).2 now validTokenID)
        tokenID =
      if tokenID = (ctx.makeToken client gs.grantOptions).id then
        if ctx.now + gs.grantOptions.tokenExpiresInSecs < now then inactive
        else ⟨true, if req.scopes ≠ "" then req.scopes else gs.activeScopes, gs.grantOptions.clientID,
          ctx.now + gs.grantOptions.tokenExpiresInSecs⟩
      else if tokenID = gs.tokenID then inactive
      else tokenIntrospectionInfoByID (.ofStore m now validTokenID) tokenID := by
  obtain ⟨client', gs', found', authenticated', -, -, written⟩ := handleRefreshTokenGrantTokenCreation_eq_ok refreshed
  cases found.symm.trans found'
  cases authenticated.symm.trans authenticated'
  have member := (GrantSessionManager.getByRefreshToken_mem found).1
  have sameID : (updatedGrantSession ctx gs req (ctx.makeToken client gs.grantOptions)).id = gs.id := rfl
  simp only [tokenIntrospectionInfoByID, IntrospectionContext.ofStore, written]
  unfold GrantSessionManager.getByTokenID
  by_cases isNew : tokenID = (ctx.makeToken client gs.grantOptions).id
  · rw [if_pos isNew, GrantSessionManager.find?_createOrUpdate_self GrantSession.tokenID tokenID isNew.symm]
    simp [hasLastTokenExpired, updatedGrantSession]
  rw [if_neg isNew]
  by_cases isOld : tokenID = gs.tokenID
  · rw [if_pos isOld, GrantSessionManager.find?_createOrUpdate_replaced GrantSession.tokenID tokenID member
      sameID (isOld ▸ heldOnce) isOld.symm (Ne.symm isNew)]
  · rw [if_neg isOld, GrantSessionManager.find?_createOrUpdate_other GrantSession.tokenID tokenID member
      sameID (Ne.symm isNew) (Ne.symm isOld)]

theorem emailGrant_refresh_retires_previous_token :
    emailGrantStore.getByRefreshToken "r" = some emailGrant ∧
      (rotatingContext "r1").authenticatedClient = .ok refreshClient ∧
      emailGrantStore.HeldOnce (·.tokenID) emailGrant.tokenID ∧
      (handleRefreshTokenGrantTokenCreation (rotatingContext "r1") emailGrantStore ⟨"r", "openid email"⟩).1 =
        .ok ⟨"access-r1", 300, "Bearer", "r1", "id-token"⟩ ∧
      tokenIntrospectionInfoByID (.ofStore emailGrantStore 20 fun _ => none) "t0" =
        ⟨true, "openid email profile", "c1", 300⟩ ∧
      tokenIntrospectionInfoByID (.ofStore (handleRefreshTokenGrantTokenCreation (rotatingContext "r1")
        emailGrantStore ⟨"r", "openid email"⟩).2 20 fun _ => none) "t0" = inactive :=
  have found : emailGrantStore.getByRefreshToken "r" = some emailGrant := rfl
  have heldOnce : emailGrantStore.HeldOnce (·.tokenID) emailGrant.tokenID := by decide
  have refreshed : (handleRefreshTokenGrantTokenCreation (rotatingContext "r1") emailGrantStore
      ⟨"r", "openid email"⟩).1 = .ok ⟨"access-r1", 300, "Bearer", "r1", "id-token"⟩ := rfl
  ⟨found, rfl, heldOnce, refreshed, by decide,
    (refresh_moves_tokenID_introspection found rfl heldOnce refreshed 20 (fun _ => none) "t0").trans (by decide)⟩

end Refresh

end GoOidc.Introspection
