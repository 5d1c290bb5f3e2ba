import GoOidc.KeyRing

/-!
`validateDynamicRequest` (package `dcr`) runs some twenty checks on a registration request and
returns the first error. Checks that differ only in the field, the server list and the message
are one definition applied to each check's values, which the older revision reuses with its own
error code. Which requests pass is `validateDynamicRequest_eq_ok_iff`; with `openid` required, or
without the implicit grant on the server, none does.
-/

namespace GoOidc.DCR

/-- Modelled from the spec: the registration request, whose declaration is absent from the
    sources; `nil` slices are `none`. -/
structure DynamicClient where
  authnMethod : String
  authnSignatureAlgorithm : String
  scopes : String
  grantTypes : List String
  redirectURIS : List String
  responseTypes : List String
  publicJWKS : Option String
  publicJWKSURI : String
  tlsSubjectDistinguishedName : String
  tlsSubjectAlternativeName : String
  tlsSubjectAlternativeNameIp : String
  subjectIdentifierType : String
  idTokenSignatureAlgorithm : String
  idTokenKeyEncryptionAlgorithm : String
  idTokenContentEncryptionAlgorithm : String
  userInfoSignatureAlgorithm : String
  userInfoKeyEncryptionAlgorithm : String
  userInfoContentEncryptionAlgorithm : String
  jarSignatureAlgorithm : String
  jarKeyEncryptionAlgorithm : String
  jarContentEncryptionAlgorithm : String
  jarmSignatureAlgorithm : String
  jarmKeyEncryptionAlgorithm : String
  jarmContentEncryptionAlgorithm : String
  authorizationDetailTypes : Option (List String)
  deriving DecidableEq, Repr

structure PublicJWK where
  keyID : String
  isPublic : Bool
  valid : Bool
  deriving DecidableEq, Repr

/-- `url.Parse`, giving the URI's fragment, and `json.Unmarshal` of a JWKS. -/
structure Library where
  parseURL : String → Option String
  unmarshalJWKS : String → Option (List PublicJWK)

/-- Modelled from the spec: `strutil.SplitWithSpaces`, absent from the sources. -/
def splitWithSpaces (s : String) : List String := splitStringWithSpaces s

def containsOpenID (scopes : String) : Bool := scopesContainsOpenID scopes

def containsOfflineAccess (scopes : String) : Bool := scopesContainsOfflineAccess scopes

/-- `slices.Contains(offered, requested)`, where computing `offered` may panic. -/
def checkOffered (requested : String) (offered : Option (List String)) (err : OAuthError) :
    Result OAuthError Unit :=
  match offered with
  | none => .panic
  | some algorithms => if requested ∉ algorithms then .error err else .ok ()

/-! ### The families of checks -/

section Families
variable (code : String)

def validateSignatureAlgorithm (requested : String) (offered : Option (List String))
    (description : String) : Result OAuthError Unit :=
  if requested = "" then .ok () else checkOffered requested offered ⟨code, description⟩

/-- Refused when the feature is off; else the key algorithm offered, and a content algorithm only
    with a key algorithm and offered. -/
def validateEncryptionAlgorithms (isEnabled : Bool) (keyAlgorithms : Option (List String))
    (contentAlgorithms : List String) (keyAlgorithm contentAlgorithm : String)
    (notSupported keyNotSupported keyRequired contentNotSupported : String) :
    Result OAuthError Unit :=
  if !isEnabled then
    if keyAlgorithm ≠ "" ∨ contentAlgorithm ≠ "" then .error ⟨code, notSupported⟩ else .ok ()
  else do
    if keyAlgorithm ≠ "" then checkOffered keyAlgorithm keyAlgorithms ⟨code, keyNotSupported⟩
    if contentAlgorithm ≠ "" ∧ keyAlgorithm = "" then .error ⟨code, keyRequired⟩
    else if contentAlgorithm ≠ "" ∧ contentAlgorithm ∉ contentAlgorithms then
      .error ⟨code, contentNotSupported⟩
    else .ok ()

def validateClientSignatureAlgorithmFor (method : String) (algorithms : List String)
    (dc : DynamicClient) : Result OAuthError Unit :=
  if dc.authnMethod ≠ method then .ok ()
  else if dc.authnSignatureAlgorithm = "" then .ok ()
  else if dc.authnSignatureAlgorithm ∉ algorithms then
    .error ⟨code, "token_endpoint_auth_signing_alg not supported"⟩
  else .ok ()

def validateJWKSRequiredFor (method description : String) (dc : DynamicClient) :
    Result OAuthError Unit :=
  if dc.authnMethod ≠ method then .ok ()
  else if dc.publicJWKS = none ∧ dc.publicJWKSURI = "" then .error ⟨code, description⟩
  else .ok ()

def numberOfIdentifiers (dc : DynamicClient) : Nat :=
  (if dc.tlsSubjectDistinguishedName ≠ "" then 1 else 0) +
    (if dc.tlsSubjectAlternativeName ≠ "" then 1 else 0) +
    (if dc.tlsSubjectAlternativeNameIp ≠ "" then 1 else 0)

def validateTLSSubjectInfo (dc : DynamicClient) : Result OAuthError Unit :=
  if dc.authnMethod ≠ clientAuthnTLS then .ok ()
  else
    if numberOfIdentifiers dc ≠ 1 then
      .error ⟨code, "only one of: tls_client_auth_subject_dn, tls_client_auth_san_dns, tls_client_auth_san_ip must be informed"⟩
    else .ok ()

def validatePublicJWKSWith (lib : Library) (dc : DynamicClient) : Result OAuthError Unit :=
  match dc.publicJWKS with
  | none => .ok ()
  | some jwks => match lib.unmarshalJWKS jwks with
    | none => .error ⟨code, "invalid jwks"⟩
    | some keys => keys.forM fun jwk =>
      if !jwk.isPublic || !jwk.valid then .error ⟨code, "the key with ID: " ++ jwk.keyID ++ " jwks is invalid"⟩
      else .ok ()

end Families

/-! ### What each family accepts -/

def Offered (requested : String) (offered : Option (List String)) : Prop :=
  ∃ algorithms, offered = some algorithms ∧ requested ∈ algorithms

def EncryptionAccepted (isEnabled : Bool) (keyAlgorithms : Option (List String))
    (contentAlgorithms : List String) (keyAlgorithm contentAlgorithm : String) : Prop :=
  if isEnabled then (keyAlgorithm ≠ "" → Offered keyAlgorithm keyAlgorithms) ∧
    (contentAlgorithm ≠ "" → keyAlgorithm ≠ "" ∧ contentAlgorithm ∈ contentAlgorithms)
  else keyAlgorithm = "" ∧ contentAlgorithm = ""

section FamilyLemmas
variable {code requested : String} {offered : Option (List String)} {err : OAuthError}
  {dc : DynamicClient}

theorem checkOffered_eq_ok_iff : checkOffered requested offered err = .ok () ↔ Offered requested offered := by
  cases offered <;> simp [checkOffered, Offered]

theorem validateSignatureAlgorithm_eq_ok_iff {description : String} :
    validateSignatureAlgorithm code requested offered description = .ok () ↔
      (requested ≠ "" → Offered requested offered) := by
  by_cases empty : requested = "" <;> simp [validateSignatureAlgorithm, empty, checkOffered_eq_ok_iff]

theorem validateEncryptionAlgorithms_eq_ok_iff {isEnabled : Bool} {keyAlgorithms : Option (List String)}
    {contentAlgorithms : List String} {keyAlgorithm contentAlgorithm : String}
    {notSupported keyNotSupported keyRequired contentNotSupported : String} :
    validateEncryptionAlgorithms code isEnabled keyAlgorithms contentAlgorithms keyAlgorithm
        contentAlgorithm notSupported keyNotSupported keyRequired contentNotSupported = .ok () ↔
      EncryptionAccepted isEnabled keyAlgorithms contentAlgorithms keyAlgorithm contentAlgorithm := by
  cases isEnabled
  · simp [validateEncryptionAlgorithms, EncryptionAccepted, or_iff_not_imp_left]
  · by_cases keyEmpty : keyAlgorithm = "" <;> by_cases contentEmpty : contentAlgorithm = "" <;>
      simp [validateEncryptionAlgorithms, EncryptionAccepted, keyEmpty, contentEmpty,
        Result.bind_eq_ok, checkOffered_eq_ok_iff]

theorem validateClientSignatureAlgorithmFor_eq_ok_iff {method : String} {algorithms : List String} :
    validateClientSignatureAlgorithmFor code method algorithms dc = .ok () ↔
      (dc.authnMethod = method → dc.authnSignatureAlgorithm ≠ "" →
        dc.authnSignatureAlgorithm ∈ algorithms) := by
  simp [validateClientSignatureAlgorithmFor]

theorem validateJWKSRequiredFor_eq_ok_iff {method description : String} :
    validateJWKSRequiredFor code method description dc = .ok () ↔
      (dc.authnMethod = method → dc.publicJWKS ≠ none ∨ dc.publicJWKSURI ≠ "") := by
  simp [validateJWKSRequiredFor, or_iff_not_imp_left]

theorem validateTLSSubjectInfo_eq_ok_iff :
    validateTLSSubjectInfo code dc = .ok () ↔
      (dc.authnMethod = clientAuthnTLS → numberOfIdentifiers dc = 1) := by
  simp [validateTLSSubjectInfo]

theorem validatePublicJWKSWith_eq_ok_iff {lib : Library} :
    validatePublicJWKSWith code lib dc = .ok () ↔ ∀ jwks, dc.publicJWKS = some jwks →
      ∃ keys, lib.unmarshalJWKS jwks = some keys ∧
        ∀ jwk ∈ keys, jwk.isPublic = true ∧ jwk.valid = true := by
  unfold validatePublicJWKSWith
  split
  · next absent => simp [absent]
  · next jwks present =>
    cases parsed : lib.unmarshalJWKS jwks <;> simp [present, parsed, Result.forM_eq_ok]

end FamilyLemmas

/-! ### The checks of `validateDynamicRequest` -/

/-- `oidcerr.New(oidcerr.CodeInvalidClientMetadata, description)`. -/
def invalidMetadata (description : String) : OAuthError := ⟨errorCodeInvalidClientMetadata, description⟩

def validateAuthnMethod (ctx : Configuration) (dc : DynamicClient) :
    Result OAuthError Unit :=
  if dc.authnMethod ∉ ctx.clientAuthnMethods then .error (invalidMetadata "authn method not allowed")
  else .ok ()

def validateScopes (ctx : Configuration) (dc : DynamicClient) :
    Result OAuthError Unit :=
  (splitWithSpaces dc.scopes).forM fun requestedScope =>
    if !ctx.oAuthScopes.any (fun scope => requestedScope = scope.id) then
      .error (invalidMetadata ("scope " ++ requestedScope ++ " is not valid"))
    else .ok ()

def validateClientSignatureAlgorithmForPrivateKeyJWT (ctx : Configuration) (dc : DynamicClient) :
    Result OAuthError Unit :=
  validateClientSignatureAlgorithmFor errorCodeInvalidClientMetadata clientAuthnPrivateKeyJWT
    ctx.privateKeyJWTSignatureAlgorithms dc

def validateClientSignatureAlgorithmForClientSecretJWT (ctx : Configuration) (dc : DynamicClient) :
    Result OAuthError Unit :=
  validateClientSignatureAlgorithmFor errorCodeInvalidClientMetadata clientAuthnSecretJWT
    ctx.clientSecretJWTSignatureAlgorithms dc

def validateJWKSAreRequiredForPrivateKeyJWTAuthn (_ : Configuration) (dc : DynamicClient) :
    Result OAuthError Unit :=
  validateJWKSRequiredFor errorCodeInvalidClientMetadata clientAuthnPrivateKeyJWT
    "the jwks is required for private_key_jwt" dc

def validateJWKSIsRequiredWhenSelfSignedTLSAuthn (_ : Configuration) (dc : DynamicClient) :
    Result OAuthError Unit :=
  validateJWKSRequiredFor errorCodeInvalidClientMetadata clientAuthnSelfSignedTLS
    "jwks is required when authenticating with self signed certificates" dc

def validateTLSSubjectInfoWhenTLSAuthn (_ : Configuration) (dc : DynamicClient) :
    Result OAuthError Unit :=
  validateTLSSubjectInfo errorCodeInvalidClientMetadata dc

def validateGrantTypes (ctx : Configuration) (dc : DynamicClient) :
    Result OAuthError Unit := do
  dc.grantTypes.forM fun gt =>
    if gt ∉ ctx.grantTypes then .error (invalidMetadata "grant type not allowed") else .ok ()
  if dc.authnMethod = clientAuthnNone ∧ grantClientCredentials ∈ dc.grantTypes then
    .error (invalidMetadata "client_credentials grant type not allowed")
  else if grantIntrospection ∈ dc.grantTypes ∧ dc.authnMethod ∉ ctx.introspectionClientAuthnMethods then
    .error (invalidMetadata "client_credentials grant type not allowed")
  else .ok ()

def validateRefreshTokenGrant (_ : Configuration) (dc : DynamicClient) :
    Result OAuthError Unit :=
  if containsOfflineAccess dc.scopes ∧ grantRefreshToken ∉ dc.grantTypes then
    .error (invalidMetadata "refresh_token grant is required for using the scope offline_access")
  else .ok ()

def validateRedirectURIS (lib : Library) (_ : Configuration) (dc : DynamicClient) :
    Result OAuthError Unit :=
  dc.redirectURIS.forM fun ru =>
    match lib.parseURL ru with
    | none => .error ⟨errorCodeInvalidRedirectURI, "invalid redirect uri"⟩
    | some fragment =>
      if fragment ≠ "" then .error ⟨errorCodeInvalidRedirectURI, "the redirect uri cannot contain a fragment"⟩
      else .ok ()

/-- Without the implicit grant the inner loop and the statement after it return the same error. -/
def validateResponseTypes (ctx : Configuration) (dc : DynamicClient) :
    Result OAuthError Unit := do
  dc.responseTypes.forM fun rt =>
    if rt ∉ ctx.responseTypes then .error (invalidMetadata "response type not allowed") else .ok ()
  if grantImplicit ∉ ctx.grantTypes then do
    dc.responseTypes.forM fun rt =>
      if ResponseType.isImplicit rt then
        .error (invalidMetadata "implicit grant type is required for implicit response types")
      else .ok ()
    .error (invalidMetadata "implicit grant type is required for implicit response types")
  else .ok ()

def validateOpenIDScopeIfRequired (ctx : Configuration) (dc : DynamicClient) :
    Result OAuthError Unit :=
  if !ctx.openIDScopeIsRequired then .ok ()
  else if dc.scopes ≠ "" ∨ !containsOpenID dc.scopes then .error (invalidMetadata "scope openid is required")
  else .ok ()

def validateSubjectIdentifierType (ctx : Configuration) (dc : DynamicClient) :
    Result OAuthError Unit :=
  if dc.subjectIdentifierType = "" then .ok ()
  else if dc.subjectIdentifierType ∉ ctx.subjectIdentifierTypes then
    .error (invalidMetadata "subject_type not supported")
  else .ok ()

def validateIDTokenSignatureAlgorithm (ctx : Configuration) (dc : DynamicClient) :
    Result OAuthError Unit :=
  validateSignatureAlgorithm errorCodeInvalidClientMetadata dc.idTokenSignatureAlgorithm
    (KeyRing.getUserInfoSignatureAlgorithms ctx) "id_token_signed_response_alg not supported"

/-- `validateUserInfoSignatureAlgorithm`, with the ID token check's message. -/
def validateUserInfoSignatureAlgorithm (ctx : Configuration) (dc : DynamicClient) :
    Result OAuthError Unit :=
  validateSignatureAlgorithm errorCodeInvalidClientMetadata dc.userInfoSignatureAlgorithm
    (KeyRing.getUserInfoSignatureAlgorithms ctx) "id_token_signed_response_alg not supported"

def validateJARSignatureAlgorithm (ctx : Configuration) (dc : DynamicClient) :
    Result OAuthError Unit :=
  validateSignatureAlgorithm errorCodeInvalidClientMetadata dc.jarSignatureAlgorithm
    (some ctx.jarSignatureAlgorithms) "request_object_signing_alg not supported"

def validateJARMSignatureAlgorithm (ctx : Configuration) (dc : DynamicClient) :
    Result OAuthError Unit :=
  validateSignatureAlgorithm errorCodeInvalidClientMetadata dc.jarmSignatureAlgorithm
    (KeyRing.getJARMSignatureAlgorithms ctx) "authorization_signed_response_alg not supported"

def validateIDTokenEncryptionAlgorithms (ctx : Configuration) (dc : DynamicClient) :
    Result OAuthError Unit :=
  validateEncryptionAlgorithms errorCodeInvalidClientMetadata ctx.userInfoEncryptionIsEnabled
    (some ctx.userInfoKeyEncryptionAlgorithms) ctx.userInfoContentEncryptionAlgorithms
    dc.idTokenKeyEncryptionAlgorithm dc.idTokenContentEncryptionAlgorithm
    "ID token encryption is not supported" "id_token_encrypted_response_alg not supported"
    "id_token_encrypted_response_alg is required if id_token_encrypted_response_enc is informed"
    "id_token_encrypted_response_enc not supported"

def validateUserInfoEncryptionAlgorithms (ctx : Configuration) (dc : DynamicClient) :
    Result OAuthError Unit :=
  validateEncryptionAlgorithms errorCodeInvalidClientMetadata ctx.userInfoEncryptionIsEnabled
    (some ctx.userInfoKeyEncryptionAlgorithms) ctx.userInfoContentEncryptionAlgorithms
    dc.userInfoKeyEncryptionAlgorithm dc.userInfoContentEncryptionAlgorithm
    "user info encryption is not supported" "userinfo_encrypted_response_alg not supported"
    "userinfo_encrypted_response_alg is required if userinfo_encrypted_response_enc is informed"
    "userinfo_encrypted_response_enc not supported"

def validateJAREncryptionAlgorithms (ctx : Configuration) (dc : DynamicClient) :
    Result OAuthError Unit :=
  validateEncryptionAlgorithms errorCodeInvalidClientMetadata ctx.jarEncryptionIsEnabled
    (KeyRing.getJARKeyEncryptionAlgorithms ctx) ctx.jarContentEncryptionAlgorithms
    dc.jarKeyEncryptionAlgorithm dc.jarContentEncryptionAlgorithm
    "jar encryption is not supported" "request_object_encryption_alg not supported"
    "request_object_encryption_alg is required if request_object_encryption_enc is informed"
    "request_object_encryption_enc not supported"

def validateJARMEncryptionAlgorithms (ctx : Configuration) (dc : DynamicClient) :
    Result OAuthError Unit :=
  validateEncryptionAlgorithms errorCodeInvalidClientMetadata ctx.jarmIsEnabled
    (some ctx.jarmKeyEncrytionAlgorithms) ctx.jarmContentEncryptionAlgorithms
    dc.jarmKeyEncryptionAlgorithm dc.jarmContentEncryptionAlgorithm
    "jarm encryption is not supported" "authorization_encrypted_response_alg not supported"
    "authorization_encrypted_response_alg is required if authorization_encrypted_response_enc is informed"
    "authorization_encrypted_response_enc not supported"

def validatePublicJWKS (lib : Library) (_ : Configuration) (dc : DynamicClient) :
    Result OAuthError Unit :=
  validatePublicJWKSWith errorCodeInvalidClientMetadata lib dc

/-- `validatePublicJWKSURI`, still a stub in the sources. -/
def validatePublicJWKSURI (_ : Configuration) (_ : DynamicClient) :
    Result OAuthError Unit := .ok ()

def validateAuthorizationDetailTypes (ctx : Configuration) (dc : DynamicClient) :
    Result OAuthError Unit :=
  match dc.authorizationDetailTypes with
  | some types =>
    if !ctx.authorizationDetailsParameterIsEnabled then .ok ()
    else types.forM fun dt =>
      if dt ∉ ctx.authorizationDetailTypes then
        .error (invalidMetadata "authorization detail type not supported")
      else .ok ()
  | none => .ok ()

abbrev Validation := Configuration → DynamicClient → Result OAuthError Unit

def runValidations (ctx : Configuration) (dc : DynamicClient) (validations : List Validation) :
    Result OAuthError Unit :=
  validations.forM fun validation => validation ctx dc

def validateDynamicRequest (lib : Library) (ctx : Configuration) (dc : DynamicClient) :
    Result OAuthError Unit :=
  runValidations ctx dc
    [validateAuthnMethod, validateScopes, validateClientSignatureAlgorithmForPrivateKeyJWT,
      validateClientSignatureAlgorithmForClientSecretJWT,
      validateJWKSAreRequiredForPrivateKeyJWTAuthn, validateJWKSIsRequiredWhenSelfSignedTLSAuthn,
      validateTLSSubjectInfoWhenTLSAuthn, validateGrantTypes, validateRefreshTokenGrant,
      validateRedirectURIS lib, validateResponseTypes, validateOpenIDScopeIfRequired,
      validateSubjectIdentifierType, validateIDTokenSignatureAlgorithm,
      validateIDTokenEncryptionAlgorithms, validateUserInfoSignatureAlgorithm,
      validateUserInfoEncryptionAlgorithms, validateJARSignatureAlgorithm,
      validateJAREncryptionAlgorithms, validateJARMSignatureAlgorithm,
      validateJARMEncryptionAlgorithms, validatePublicJWKS lib, validatePublicJWKSURI,
      validateAuthorizationDetailTypes]

/-! ### What `validateDynamicRequest` accepts -/

section Accepts
variable {lib : Library} {ctx : Configuration} {dc : DynamicClient}

theorem runValidations_eq_ok_iff {validations : List Validation} :
    runValidations ctx dc validations = .ok () ↔ ∀ validation ∈ validations, validation ctx dc = .ok () :=
  Result.forM_eq_ok

theorem validateAuthnMethod_eq_ok_iff :
    validateAuthnMethod ctx dc = .ok () ↔ dc.authnMethod ∈ ctx.clientAuthnMethods := by
  simp [validateAuthnMethod]

theorem validateScopes_eq_ok_iff : validateScopes ctx dc = .ok () ↔
    ∀ requestedScope ∈ splitWithSpaces dc.scopes, ∃ scope ∈ ctx.oAuthScopes, requestedScope = scope.id := by
  simp [validateScopes, Result.forM_eq_ok]

theorem validateGrantTypes_eq_ok_iff : validateGrantTypes ctx dc = .ok () ↔
    (∀ gt ∈ dc.grantTypes, gt ∈ ctx.grantTypes) ∧
      (dc.authnMethod = clientAuthnNone → grantClientCredentials ∉ dc.grantTypes) ∧
      (grantIntrospection ∈ dc.grantTypes → dc.authnMethod ∈ ctx.introspectionClientAuthnMethods) := by
  simp [validateGrantTypes, Result.bind_eq_ok, Result.forM_eq_ok]

theorem validateRefreshTokenGrant_eq_ok_iff : validateRefreshTokenGrant ctx dc = .ok () ↔
    (containsOfflineAccess dc.scopes = true → grantRefreshToken ∈ dc.grantTypes) := by
  simp [validateRefreshTokenGrant]

theorem validateRedirectURIS_eq_ok_iff :
    validateRedirectURIS lib ctx dc = .ok () ↔ ∀ ru ∈ dc.redirectURIS, lib.parseURL ru = some "" := by
  simp only [validateRedirectURIS, Result.forM_eq_ok]
  refine forall₂_congr fun ru _ => ?_
  cases lib.parseURL ru <;> simp

theorem validateResponseTypes_eq_ok_iff : validateResponseTypes ctx dc = .ok () ↔
    (∀ rt ∈ dc.responseTypes, rt ∈ ctx.responseTypes) ∧ grantImplicit ∈ ctx.grantTypes := by
  by_cases implicit : grantImplicit ∈ ctx.grantTypes <;>
    simp [validateResponseTypes, implicit, Result.bind_eq_ok, Result.forM_eq_ok]

theorem containsOpenID_empty : containsOpenID "" = false := by decide

theorem validateOpenIDScopeIfRequired_eq_ok_iff :
    validateOpenIDScopeIfRequired ctx dc = .ok () ↔ ctx.openIDScopeIsRequired = false := by
  by_cases empty : dc.scopes = "" <;> cases required : ctx.openIDScopeIsRequired <;>
    simp [validateOpenIDScopeIfRequired, empty, required, containsOpenID_empty]

theorem validateSubjectIdentifierType_eq_ok_iff : validateSubjectIdentifierType ctx dc = .ok () ↔
    (dc.subjectIdentifierType ≠ "" → dc.subjectIdentifierType ∈ ctx.subjectIdentifierTypes) := by
  by_cases empty : dc.subjectIdentifierType = "" <;> simp [validateSubjectIdentifierType, empty]

theorem validateAuthorizationDetailTypes_eq_ok_iff : validateAuthorizationDetailTypes ctx dc = .ok () ↔
    ∀ types, dc.authorizationDetailTypes = some types → ctx.authorizationDetailsParameterIsEnabled = true →
      ∀ dt ∈ types, dt ∈ ctx.authorizationDetailTypes := by
  unfold validateAuthorizationDetailTypes
  split
  · next types present =>
    cases ctx.authorizationDetailsParameterIsEnabled <;> simp [present, Result.forM_eq_ok]
  · next absent => simp [absent]

end Accepts

@[mk_iff] structure AcceptedRequest (lib : Library) (ctx : Configuration) (dc : DynamicClient) : Prop where
  authnMethod : dc.authnMethod ∈ ctx.clientAuthnMethods
  scopes : ∀ requestedScope ∈ splitWithSpaces dc.scopes, ∃ scope ∈ ctx.oAuthScopes,
    requestedScope = scope.id
  privateKeyJWTAlgorithm : dc.authnMethod = clientAuthnPrivateKeyJWT →
    dc.authnSignatureAlgorithm ≠ "" → dc.authnSignatureAlgorithm ∈ ctx.privateKeyJWTSignatureAlgorithms
  clientSecretJWTAlgorithm : dc.authnMethod = clientAuthnSecretJWT →
    dc.authnSignatureAlgorithm ≠ "" → dc.authnSignatureAlgorithm ∈ ctx.clientSecretJWTSignatureAlgorithms
  privateKeyJWTKeys : dc.authnMethod = clientAuthnPrivateKeyJWT →
    dc.publicJWKS ≠ none ∨ dc.publicJWKSURI ≠ ""
  selfSignedTLSKeys : dc.authnMethod = clientAuthnSelfSignedTLS →
    dc.publicJWKS ≠ none ∨ dc.publicJWKSURI ≠ ""
  tlsSubjectInfo : dc.authnMethod = clientAuthnTLS → numberOfIdentifiers dc = 1
  grantTypes : (∀ gt ∈ dc.grantTypes, gt ∈ ctx.grantTypes) ∧
    (dc.authnMethod = clientAuthnNone → grantClientCredentials ∉ dc.grantTypes) ∧
    (grantIntrospection ∈ dc.grantTypes → dc.authnMethod ∈ ctx.introspectionClientAuthnMethods)
  refreshTokenGrant : containsOfflineAccess dc.scopes = true → grantRefreshToken ∈ dc.grantTypes
  redirectURIS : ∀ ru ∈ dc.redirectURIS, lib.parseURL ru = some ""
  responseTypes : (∀ rt ∈ dc.responseTypes, rt ∈ ctx.responseTypes) ∧ grantImplicit ∈ ctx.grantTypes
  openIDScope : ctx.openIDScopeIsRequired = false
  subjectIdentifierType : dc.subjectIdentifierType ≠ "" →
    dc.subjectIdentifierType ∈ ctx.subjectIdentifierTypes
  idTokenSignatureAlgorithm : dc.idTokenSignatureAlgorithm ≠ "" →
    Offered dc.idTokenSignatureAlgorithm (KeyRing.getUserInfoSignatureAlgorithms ctx)
  idTokenEncryption : EncryptionAccepted ctx.userInfoEncryptionIsEnabled
    (some ctx.userInfoKeyEncryptionAlgorithms) ctx.userInfoContentEncryptionAlgorithms
    dc.idTokenKeyEncryptionAlgorithm dc.idTokenContentEncryptionAlgorithm
  userInfoSignatureAlgorithm : dc.userInfoSignatureAlgorithm ≠ "" →
    Offered dc.userInfoSignatureAlgorithm (KeyRing.getUserInfoSignatureAlgorithms ctx)
  userInfoEncryption : EncryptionAccepted ctx.userInfoEncryptionIsEnabled
    (some ctx.userInfoKeyEncryptionAlgorithms) ctx.userInfoContentEncryptionAlgorithms
    dc.userInfoKeyEncryptionAlgorithm dc.userInfoContentEncryptionAlgorithm
  jarSignatureAlgorithm : dc.jarSignatureAlgorithm ≠ "" →
    Offered dc.jarSignatureAlgorithm (some ctx.jarSignatureAlgorithms)
  jarEncryption : EncryptionAccepted ctx.jarEncryptionIsEnabled
    (KeyRing.getJARKeyEncryptionAlgorithms ctx) ctx.jarContentEncryptionAlgorithms
    dc.jarKeyEncryptionAlgorithm dc.jarContentEncryptionAlgorithm
  jarmSignatureAlgorithm : dc.jarmSignatureAlgorithm ≠ "" →
    Offered dc.jarmSignatureAlgorithm (KeyRing.getJARMSignatureAlgorithms ctx)
  jarmEncryption : EncryptionAccepted ctx.jarmIsEnabled (some ctx.jarmKeyEncrytionAlgorithms)
    ctx.jarmContentEncryptionAlgorithms dc.jarmKeyEncryptionAlgorithm dc.jarmContentEncryptionAlgorithm
  publicJWKS : ∀ jwks, dc.publicJWKS = some jwks → ∃ keys, lib.unmarshalJWKS jwks = some keys ∧
    ∀ jwk ∈ keys, jwk.isPublic = true ∧ jwk.valid = true
  authorizationDetailTypes : ∀ types, dc.authorizationDetailTypes = some types →
    ctx.authorizationDetailsParameterIsEnabled = true → ∀ dt ∈ types, dt ∈ ctx.authorizationDetailTypes

theorem validateDynamicRequest_eq_ok_iff {lib : Library} {ctx : Configuration} {dc : DynamicClient} :
    validateDynamicRequest lib ctx dc = .ok () ↔ AcceptedRequest lib ctx dc := by
  simp only [validateDynamicRequest, runValidations_eq_ok_iff, List.forall_mem_cons,
    List.mem_nil_iff, false_implies, implies_true, and_true, validateAuthnMethod_eq_ok_iff,
    validateScopes_eq_ok_iff, validateClientSignatureAlgorithmForPrivateKeyJWT,
    validateClientSignatureAlgorithmForClientSecretJWT, validateClientSignatureAlgorithmFor_eq_ok_iff,
    validateJWKSAreRequiredForPrivateKeyJWTAuthn, validateJWKSIsRequiredWhenSelfSignedTLSAuthn,
    validateJWKSRequiredFor_eq_ok_iff, validateTLSSubjectInfoWhenTLSAuthn,
    validateTLSSubjectInfo_eq_ok_iff, validateGrantTypes_eq_ok_iff,
    validateRefreshTokenGrant_eq_ok_iff, validateRedirectURIS_eq_ok_iff,
    validateResponseTypes_eq_ok_iff, validateOpenIDScopeIfRequired_eq_ok_iff,
    validateSubjectIdentifierType_eq_ok_iff, validateIDTokenSignatureAlgorithm,
    validateUserInfoSignatureAlgorithm, validateJARSignatureAlgorithm,
    validateJARMSignatureAlgorithm, validateSignatureAlgorithm_eq_ok_iff,
    validateIDTokenEncryptionAlgorithms, validateUserInfoEncryptionAlgorithms,
    validateJAREncryptionAlgorithms, validateJARMEncryptionAlgorithms,
    validateEncryptionAlgorithms_eq_ok_iff, validatePublicJWKS, validatePublicJWKSWith_eq_ok_iff,
    validatePublicJWKSURI, true_and, validateAuthorizationDetailTypes_eq_ok_iff,
    acceptedRequest_iff]

end GoOidc.DCR
