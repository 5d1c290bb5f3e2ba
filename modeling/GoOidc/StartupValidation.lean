import GoOidc.Provider

/-!
The checks `package provider` runs before serving, each returning its first error, with
`Key(id)[0]` panicking on an ID the JWKS lacks. The introspection check's test is inverted: it
requires `none` among the enabled methods (`introspection_requires_none`). The validation panics
only at the default JARM key, which the signature-key check never looks at
(`runValidations_panics_at_jarmDefault`, `unlistedJARMKey_panics`).
-/

namespace GoOidc.StartupValidation

abbrev Validator := Configuration → Result String Unit

def runValidations (p : Configuration) (validators : List Validator) : Result String Unit :=
  validators.forM fun validator => validator p

section Validators
variable (p : Configuration)

def validateJWKS : Result String Unit :=
  p.privateJWKS.forM fun key =>
    if !key.valid then .error ("the key with ID: " ++ key.keyID ++ " is not valid") else .ok ()

def uniqueKey (keyID : String) : Result String JSONWebKey :=
  match keysByID p.privateJWKS keyID with
  | [key] => .ok key
  | _ => .error ("the key ID: " ++ keyID ++ " is not present in the server JWKS or is duplicated")

def validateSignatureKey (keyID : String) : Result String Unit := do
  let key ← uniqueKey p keyID
  if key.use ≠ keyUsageSignature then .error ("the key ID: " ++ keyID ++ " is not meant for signing")
  else if hasPrefix key.algorithm "HS" then .error "symetric algorithms are not allowed for signing"
  else .ok ()

def validateSignatureKeys : Result String Unit :=
  ([p.defaultUserInfoSignatureKeyID] ++ p.userInfoSignatureKeyIDs ++ p.jarmSignatureKeyIDs).forM
    (validateSignatureKey p)

def validateEncryptionKey (keyID : String) : Result String Unit := do
  let key ← uniqueKey p keyID
  if key.use ≠ keyUsageEncryption then .error ("the key ID: " ++ keyID ++ " is not meant for encryption")
  else .ok ()

def validateEncryptionKeys : Result String Unit :=
  p.jarKeyEncryptionIDs.forM (validateEncryptionKey p)

def validatePrivateKeyJWTSignatureAlgorithms : Result String Unit :=
  p.privateKeyJWTSignatureAlgorithms.forM fun signatureAlgorithm =>
    if hasPrefix signatureAlgorithm "HS" then
      .error "symetric algorithms are not allowed for private_key_jwt authentication"
    else .ok ()

def validateClientSecretJWTSignatureAlgorithms : Result String Unit :=
  p.clientSecretJWTSignatureAlgorithms.forM fun signatureAlgorithm =>
    if !hasPrefix signatureAlgorithm "HS" then
      .error "assymetric algorithms are not allowed for client_secret_jwt authentication"
    else .ok ()

def validateIntrospectionClientAuthnMethods : Result String Unit :=
  if !p.introspectionIsEnabled then .ok ()
  else if clientAuthnNone ∉ p.clientAuthnMethods then
    .error "none client authentication method not allowed for token introspection"
  else p.introspectionClientAuthnMethods.forM fun method =>
    if method ∉ p.clientAuthnMethods then
      .error "invalid client authentication method for token introspection"
    else .ok ()

def validateJAREncryption : Result String Unit :=
  if p.jarEncryptionIsEnabled && !p.jarIsEnabled then
    .error "JAR must be enabled if JAR encryption is enabled"
  else .ok ()

def validateJARMEncryption : Result String Unit :=
  if p.jarmEncryptionIsEnabled && !p.jarmIsEnabled then
    .error "JARM must be enabled if JARM encryption is enabled"
  else .ok ()

def validateTokenBinding : Result String Unit :=
  if p.senderConstrainedTokenIsRequired && !p.dpopIsEnabled && !p.tlsBoundTokensIsEnabled then
    .error "if sender constraining tokens is required, at least one mechanism must be enabled, either DPoP or TLS"
  else .ok ()

/-- `PrivateJWKS.Key(keyID)[0]`, which panics on an ID the JWKS lacks. -/
def firstKey (keyID : String) : Result String JSONWebKey :=
  match keysByID p.privateJWKS keyID with
  | key :: _ => .ok key
  | [] => .panic

def validateOpenIDProfile : Result String Unit :=
  if p.profile ≠ profileOpenID then .ok ()
  else firstKey p p.defaultUserInfoSignatureKeyID >>= fun defaultIDTokenSignatureKey =>
    if defaultIDTokenSignatureKey.algorithm ≠ "RS256" then
      .error "the default signature algorithm for ID tokens must be RS256"
    else if p.jarmIsEnabled then
      firstKey p p.defaultJARMSignatureKeyID >>= fun defaultJARMSignatureKey =>
        if defaultJARMSignatureKey.algorithm ≠ "RS256" then
          .error "the default signature algorithm for JARM must be RS256"
        else .ok ()
    else .ok ()

def validateFAPI2Profile : Result String Unit :=
  if p.profile ≠ profileFAPI2 then .ok ()
  else if p.clientAuthnMethods.any fun authnMethod =>
      authnMethod ≠ clientAuthnPrivateKeyJWT && authnMethod ≠ clientAuthnTLS then
    .error "only private_key_jwt and tls_client_auth are allowed for FAPI 2.0"
  else if grantImplicit ∈ p.grantTypes then .error "the implict grant is not allowed for FAPI 2.0"
  else if !p.parIsEnabled || !p.parIsRequired then
    .error "pushed authorization requests is required for FAPI 2.0"
  else if !p.pkceIsEnabled || !p.pkceIsRequired then
    .error "proof key for code exchange is required for FAPI 2.0"
  else if !p.issuerResponseParameterIsEnabled then
    .error "the issuer response parameter is required for FAPI 2.0"
  else if grantRefreshToken ∈ p.grantTypes ∧ p.shouldRotateRefreshTokens then
    .error "refresh token rotation is not implemented according to FAPI 2.0, so it shouldn't be enabled when using this profile"
  else .ok ()

end Validators

/-- The validators of `package provider`, in the order they are defined. -/
def providerValidators : List Validator :=
  [validateJWKS, validateSignatureKeys, validateEncryptionKeys,
    validatePrivateKeyJWTSignatureAlgorithms, validateClientSecretJWTSignatureAlgorithms,
    validateIntrospectionClientAuthnMethods, validateJAREncryption, validateJARMEncryption,
    validateTokenBinding, validateOpenIDProfile, validateFAPI2Profile]

/-! ### What each check accepts -/

def SigningKey (p : Configuration) (keyID : String) : Prop :=
  ∃ key, keysByID p.privateJWKS keyID = [key] ∧ key.use = keyUsageSignature ∧
    hasPrefix key.algorithm "HS" = false

def EncryptionKey (p : Configuration) (keyID : String) : Prop :=
  ∃ key, keysByID p.privateJWKS keyID = [key] ∧ key.use = keyUsageEncryption

def RS256Key (p : Configuration) (keyID : String) : Prop :=
  ∃ key, (keysByID p.privateJWKS keyID).head? = some key ∧ key.algorithm = "RS256"

def FAPI2Settings (p : Configuration) : Prop :=
  (∀ method ∈ p.clientAuthnMethods, method = clientAuthnPrivateKeyJWT ∨ method = clientAuthnTLS) ∧
    grantImplicit ∉ p.grantTypes ∧ p.parIsEnabled = true ∧ p.parIsRequired = true ∧
    p.pkceIsEnabled = true ∧ p.pkceIsRequired = true ∧ p.issuerResponseParameterIsEnabled = true ∧
    (grantRefreshToken ∈ p.grantTypes → p.shouldRotateRefreshTokens = false)

section Accepts
variable {p : Configuration}

theorem runValidations_eq_ok_iff (validators : List Validator) :
    runValidations p validators = .ok () ↔ ∀ validator ∈ validators, validator p = .ok () :=
  Result.forM_eq_ok

theorem validateJWKS_eq_ok_iff :
    validateJWKS p = .ok () ↔ ∀ key ∈ p.privateJWKS, key.valid = true := by
  simp [validateJWKS, Result.forM_eq_ok]

theorem uniqueKey_eq_ok_iff {keyID : String} {key : JSONWebKey} :
    uniqueKey p keyID = .ok key ↔ keysByID p.privateJWKS keyID = [key] := by
  unfold uniqueKey
  split <;> simp_all

theorem firstKey_eq_ok_iff {keyID : String} {key : JSONWebKey} :
    firstKey p keyID = .ok key ↔ (keysByID p.privateJWKS keyID).head? = some key := by
  unfold firstKey
  split <;> simp_all

theorem validateSignatureKeys_eq_ok_iff :
    validateSignatureKeys p = .ok () ↔
      ∀ keyID ∈ p.defaultUserInfoSignatureKeyID :: (p.userInfoSignatureKeyIDs ++ p.jarmSignatureKeyIDs),
        SigningKey p keyID := by
  simp [validateSignatureKeys, validateSignatureKey, SigningKey, Result.forM_eq_ok, Result.bind_eq_ok,
    uniqueKey_eq_ok_iff]

theorem validateEncryptionKeys_eq_ok_iff :
    validateEncryptionKeys p = .ok () ↔ ∀ keyID ∈ p.jarKeyEncryptionIDs, EncryptionKey p keyID := by
  simp [validateEncryptionKeys, validateEncryptionKey, EncryptionKey, Result.forM_eq_ok,
    Result.bind_eq_ok, uniqueKey_eq_ok_iff]

theorem validatePrivateKeyJWTSignatureAlgorithms_eq_ok_iff :
    validatePrivateKeyJWTSignatureAlgorithms p = .ok () ↔
      ∀ algorithm ∈ p.privateKeyJWTSignatureAlgorithms, hasPrefix algorithm "HS" = false := by
  simp [validatePrivateKeyJWTSignatureAlgorithms, Result.forM_eq_ok]

theorem validateClientSecretJWTSignatureAlgorithms_eq_ok_iff :
    validateClientSecretJWTSignatureAlgorithms p = .ok () ↔
      ∀ algorithm ∈ p.clientSecretJWTSignatureAlgorithms, hasPrefix algorithm "HS" = true := by
  simp [validateClientSecretJWTSignatureAlgorithms, Result.forM_eq_ok]

/-- With introspection, `none` must be an enabled method; the introspection methods may include it. -/
theorem validateIntrospectionClientAuthnMethods_eq_ok_iff :
    validateIntrospectionClientAuthnMethods p = .ok () ↔
      (p.introspectionIsEnabled = true → clientAuthnNone ∈ p.clientAuthnMethods ∧
        ∀ method ∈ p.introspectionClientAuthnMethods, method ∈ p.clientAuthnMethods) := by
  unfold validateIntrospectionClientAuthnMethods
  by_cases none : clientAuthnNone ∈ p.clientAuthnMethods <;>
    cases p.introspectionIsEnabled <;> simp [none, Result.forM_eq_ok]

theorem validateJAREncryption_eq_ok_iff :
    validateJAREncryption p = .ok () ↔ (p.jarEncryptionIsEnabled = true → p.jarIsEnabled = true) := by
  simp [validateJAREncryption]

theorem validateJARMEncryption_eq_ok_iff :
    validateJARMEncryption p = .ok () ↔ (p.jarmEncryptionIsEnabled = true → p.jarmIsEnabled = true) := by
  simp [validateJARMEncryption]

theorem validateTokenBinding_eq_ok_iff :
    validateTokenBinding p = .ok () ↔ (p.senderConstrainedTokenIsRequired = true →
      p.dpopIsEnabled = true ∨ p.tlsBoundTokensIsEnabled = true) := by
  simp [validateTokenBinding, or_iff_not_imp_left]

theorem validateOpenIDProfile_eq_ok_iff :
    validateOpenIDProfile p = .ok () ↔ (p.profile = profileOpenID →
      RS256Key p p.defaultUserInfoSignatureKeyID ∧
        (p.jarmIsEnabled = true → RS256Key p p.defaultJARMSignatureKeyID)) := by
  unfold validateOpenIDProfile
  by_cases openID : p.profile = profileOpenID <;>
    simp [openID, RS256Key, Result.bind_eq_ok, firstKey_eq_ok_iff, ← and_assoc, exists_and_right]

theorem validateFAPI2Profile_eq_ok_iff :
    validateFAPI2Profile p = .ok () ↔ (p.profile = profileFAPI2 → FAPI2Settings p) := by
  unfold validateFAPI2Profile FAPI2Settings
  by_cases fapi2 : p.profile = profileFAPI2 <;> simp [fapi2, or_iff_not_imp_left, and_assoc]

end Accepts

/-! ### The configurations that start -/

@[mk_iff] structure AcceptedConfiguration (p : Configuration) : Prop where
  validKeys : ∀ key ∈ p.privateJWKS, key.valid = true
  signatureKeys : ∀ keyID ∈ p.defaultUserInfoSignatureKeyID ::
    (p.userInfoSignatureKeyIDs ++ p.jarmSignatureKeyIDs), SigningKey p keyID
  encryptionKeys : ∀ keyID ∈ p.jarKeyEncryptionIDs, EncryptionKey p keyID
  privateKeyJWTAlgorithms : ∀ algorithm ∈ p.privateKeyJWTSignatureAlgorithms,
    hasPrefix algorithm "HS" = false
  clientSecretJWTAlgorithms : ∀ algorithm ∈ p.clientSecretJWTSignatureAlgorithms,
    hasPrefix algorithm "HS" = true
  introspection : p.introspectionIsEnabled = true → clientAuthnNone ∈ p.clientAuthnMethods ∧
    ∀ method ∈ p.introspectionClientAuthnMethods, method ∈ p.clientAuthnMethods
  jarEncryption : p.jarEncryptionIsEnabled = true → p.jarIsEnabled = true
  jarmEncryption : p.jarmEncryptionIsEnabled = true → p.jarmIsEnabled = true
  tokenBinding : p.senderConstrainedTokenIsRequired = true →
    p.dpopIsEnabled = true ∨ p.tlsBoundTokensIsEnabled = true
  openIDProfile : p.profile = profileOpenID → RS256Key p p.defaultUserInfoSignatureKeyID ∧
    (p.jarmIsEnabled = true → RS256Key p p.defaultJARMSignatureKeyID)
  fapi2Profile : p.profile = profileFAPI2 → FAPI2Settings p

theorem runValidations_providerValidators_eq_ok_iff {p : Configuration} :
    runValidations p providerValidators = .ok () ↔ AcceptedConfiguration p := by
  simp only [runValidations_eq_ok_iff, providerValidators, List.forall_mem_cons,
    List.mem_nil_iff, false_implies, implies_true, and_true]
  rw [validateJWKS_eq_ok_iff, validateSignatureKeys_eq_ok_iff, validateEncryptionKeys_eq_ok_iff,
    validatePrivateKeyJWTSignatureAlgorithms_eq_ok_iff,
    validateClientSecretJWTSignatureAlgorithms_eq_ok_iff,
    validateIntrospectionClientAuthnMethods_eq_ok_iff, validateJAREncryption_eq_ok_iff,
    validateJARMEncryption_eq_ok_iff, validateTokenBinding_eq_ok_iff,
    validateOpenIDProfile_eq_ok_iff, validateFAPI2Profile_eq_ok_iff, acceptedConfiguration_iff]

/-! ### Where the checks can panic -/

section Panics
variable (p : Configuration)

theorem validateJWKS_ne_panic : validateJWKS p ≠ .panic :=
  Result.forM_ne_panic fun _ _ => by split <;> nofun

theorem uniqueKey_ne_panic (keyID : String) : uniqueKey p keyID ≠ .panic := by
  unfold uniqueKey; split <;> nofun

theorem validateSignatureKeys_ne_panic : validateSignatureKeys p ≠ .panic :=
  Result.forM_ne_panic fun keyID _ =>
    Result.bind_ne_panic (uniqueKey_ne_panic p keyID) fun _ => by split_ifs <;> nofun

theorem validateEncryptionKeys_ne_panic : validateEncryptionKeys p ≠ .panic :=
  Result.forM_ne_panic fun keyID _ =>
    Result.bind_ne_panic (uniqueKey_ne_panic p keyID) fun _ => by split_ifs <;> nofun

theorem validatePrivateKeyJWTSignatureAlgorithms_ne_panic :
    validatePrivateKeyJWTSignatureAlgorithms p ≠ .panic :=
  Result.forM_ne_panic fun _ _ => by split <;> nofun

theorem validateClientSecretJWTSignatureAlgorithms_ne_panic :
    validateClientSecretJWTSignatureAlgorithms p ≠ .panic :=
  Result.forM_ne_panic fun _ _ => by split <;> nofun

theorem validateIntrospectionClientAuthnMethods_ne_panic :
    validateIntrospectionClientAuthnMethods p ≠ .panic := by
  unfold validateIntrospectionClientAuthnMethods
  split_ifs
  · nofun
  · exact Result.forM_ne_panic fun _ _ => by split <;> nofun
  · nofun

theorem validateJAREncryption_ne_panic : validateJAREncryption p ≠ .panic := by
  simp [validateJAREncryption]

theorem validateJARMEncryption_ne_panic : validateJARMEncryption p ≠ .panic := by
  simp [validateJARMEncryption]

theorem validateTokenBinding_ne_panic : validateTokenBinding p ≠ .panic := by
  simp [validateTokenBinding]

theorem validateFAPI2Profile_ne_panic : validateFAPI2Profile p ≠ .panic := by
  unfold validateFAPI2Profile
  repeat' first | apply Result.ite_ne_panic | nofun

theorem firstKey_eq_panic_iff (keyID : String) :
    firstKey p keyID = .panic ↔ keysByID p.privateJWKS keyID = [] := by
  unfold firstKey; split <;> simp_all

theorem validateOpenIDProfile_eq_panic_iff :
    validateOpenIDProfile p = .panic ↔ p.profile = profileOpenID ∧
      (keysByID p.privateJWKS p.defaultUserInfoSignatureKeyID = [] ∨
        RS256Key p p.defaultUserInfoSignatureKeyID ∧ p.jarmIsEnabled = true ∧
          keysByID p.privateJWKS p.defaultJARMSignatureKeyID = []) := by
  unfold validateOpenIDProfile
  by_cases openID : p.profile = profileOpenID <;> cases jarm : p.jarmIsEnabled <;>
    simp [openID, jarm, RS256Key, Result.bind_eq_panic, firstKey_eq_panic_iff, firstKey_eq_ok_iff,
      ← and_assoc, exists_and_right]

theorem runValidations_providerValidators_eq_panic_iff :
    runValidations p providerValidators = .panic ↔
      (∀ validator ∈ [validateJWKS, validateSignatureKeys, validateEncryptionKeys,
        validatePrivateKeyJWTSignatureAlgorithms, validateClientSecretJWTSignatureAlgorithms,
        validateIntrospectionClientAuthnMethods, validateJAREncryption, validateJARMEncryption,
        validateTokenBinding], validator p = .ok ()) ∧ validateOpenIDProfile p = .panic := by
  simp [runValidations, providerValidators, Result.bind_eq_panic, validateJWKS_ne_panic,
    validateSignatureKeys_ne_panic, validateEncryptionKeys_ne_panic,
    validatePrivateKeyJWTSignatureAlgorithms_ne_panic, validateClientSecretJWTSignatureAlgorithms_ne_panic,
    validateIntrospectionClientAuthnMethods_ne_panic, validateJAREncryption_ne_panic,
    validateJARMEncryption_ne_panic, validateTokenBinding_ne_panic, validateFAPI2Profile_ne_panic,
    and_assoc]

theorem runValidations_panics_at_jarmDefault (panics : runValidations p providerValidators = .panic) :
    p.profile = profileOpenID ∧ p.jarmIsEnabled = true ∧
      keysByID p.privateJWKS p.defaultJARMSignatureKeyID = [] ∧
      p.defaultJARMSignatureKeyID ∉ p.jarmSignatureKeyIDs := by
  obtain ⟨passed, openID⟩ := (runValidations_providerValidators_eq_panic_iff p).mp panics
  have signatureKeys := validateSignatureKeys_eq_ok_iff.mp (passed _ (by simp))
  obtain ⟨isOpenID, missing | ⟨-, jarm, missing⟩⟩ := (validateOpenIDProfile_eq_panic_iff p).mp openID
  · obtain ⟨key, single, -⟩ := signatureKeys _ (List.mem_cons_self _ _)
    simp [missing] at single
  · refine ⟨isOpenID, jarm, missing, fun listed => ?_⟩
    obtain ⟨key, single, -⟩ := signatureKeys _ (List.mem_cons_of_mem _ (List.mem_append_right _ listed))
    simp [missing] at single

theorem runValidations_ne_panic
    (listed : p.jarmIsEnabled = true → p.defaultJARMSignatureKeyID ∈ p.jarmSignatureKeyIDs) :
    runValidations p providerValidators ≠ .panic := fun panics =>
  have ⟨_, jarm, _, unlisted⟩ := runValidations_panics_at_jarmDefault p panics
  unlisted (listed jarm)

end Panics

def signingKey : JSONWebKey := ⟨"signing-key", keyUsageSignature, "RS256", true⟩

/-- A provider built by `New` and calls whose `[]string` arguments share no array never panics. -/
theorem configure_validation_ne_panic (arrays : List (List String)) (host : String)
    (jwks : List JSONWebKey) (tokenKeyID idTokenKeyID header : String) (calls : List Provider.Call)
    (separate : Provider.SeparateArguments arrays calls) :
    runValidations (Provider.configure (Provider.new arrays host jwks tokenKeyID idTokenKeyID header)
      calls).config providerValidators ≠ .panic :=
  runValidations_ne_panic _
    (Provider.configure_keepsDefaults arrays host jwks tokenKeyID idTokenKeyID header calls separate).jarmKey

/-- A shared array: `AddUserInfoSignatureKeyIDs(ids...)` writes over the default JARM key. -/
example :
    runValidations (Provider.configure (Provider.new [["ps-key", ""]] "https://op.example"
      [⟨"ps-key", keyUsageSignature, "PS256", true⟩, signingKey] "signing-key" "signing-key"
      "X-Correlation-ID") [.enableJWTSecuredAuthorizationResponseMode 600 "jarm-key" ⟨0, 0, 1, 2⟩,
        .addUserInfoSignatureKeyIDs ⟨0, 0, 1, 2⟩]).config providerValidators = .panic := by
  decide

/-! ### Introspection without `none` -/

def introspectionProvider : Configuration :=
  (Provider.configure
    (Provider.new [] "https://op.example" [signingKey] "signing-key" "signing-key" "X-Correlation-ID")
    [.enablePrivateKeyJWTClientAuthn 60 ["PS256"], .enableTokenIntrospection [clientAuthnPrivateKeyJWT]]).config

theorem introspection_requires_none :
    introspectionProvider.introspectionIsEnabled = true ∧
      clientAuthnNone ∉ introspectionProvider.introspectionClientAuthnMethods ∧
      (∀ method ∈ introspectionProvider.introspectionClientAuthnMethods,
        method ∈ introspectionProvider.clientAuthnMethods) ∧
      (∀ validator ∈ [validateJWKS, validateSignatureKeys, validateEncryptionKeys,
        validatePrivateKeyJWTSignatureAlgorithms, validateClientSecretJWTSignatureAlgorithms,
        validateJAREncryption, validateJARMEncryption, validateTokenBinding, validateOpenIDProfile,
        validateFAPI2Profile], validator introspectionProvider = .ok ()) ∧
      runValidations introspectionProvider providerValidators =
        .error "none client authentication method not allowed for token introspection" := by
  decide

/-! ### A default JARM key the JWKS lacks -/

def unlistedJARMKeyProvider : Configuration :=
  { (Provider.new [] "https://op.example" [signingKey] "signing-key" "signing-key" "X-Correlation-ID").config with
    jarmIsEnabled := true, defaultJARMSignatureKeyID := "jarm-key" }

theorem unlistedJARMKey_panics :
    (∀ validator ∈ [validateJWKS, validateSignatureKeys, validateEncryptionKeys,
        validatePrivateKeyJWTSignatureAlgorithms, validateClientSecretJWTSignatureAlgorithms,
        validateIntrospectionClientAuthnMethods, validateJAREncryption, validateJARMEncryption,
        validateTokenBinding], validator unlistedJARMKeyProvider = .ok ()) ∧
      keysByID unlistedJARMKeyProvider.privateJWKS unlistedJARMKeyProvider.defaultJARMSignatureKeyID = [] ∧
      runValidations unlistedJARMKeyProvider providerValidators = .panic := by
  decide

end GoOidc.StartupValidation
