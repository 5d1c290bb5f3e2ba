import GoOidc.DCR.Validation
import GoOidc.ClientAuthn

/-!
`validateDynamicClientRequest`, the older registration checks (`invalid_request`), from the same
families as `validateDynamicRequest` but with its own checks of grant types, redirect URIs,
response types and the implicit grant. Both revisions refuse every request when the server
requires `openid` (`openIDRequired_rejects_openID`), and accept a `tls_client_auth` client with
only an IP SAN, which `authenticateTLSCert` then refuses (`ipOnlyClient_fails_tls_authn`).
-/

namespace GoOidc.DCR.ClientRequest

def invalidRequest (description : String) : OAuthError := ⟨errorCodeInvalidRequest, description⟩

def validateGrantTypes (ctx : Configuration) (dc : DynamicClient) : Result OAuthError Unit :=
  if !containsAll ctx.grantTypes dc.grantTypes then .error (invalidRequest "grant type not allowed")
  else .ok ()

def validateClientCredentialsGrant (_ : Configuration) (dc : DynamicClient) :
    Result OAuthError Unit :=
  if dc.authnMethod ≠ clientAuthnNone then .ok ()
  else if grantClientCredentials ∈ dc.grantTypes then
    .error (invalidRequest "client_credentials grant type not allowed")
  else .ok ()

def validateClientAuthnMethodForIntrospectionGrant (ctx : Configuration) (dc : DynamicClient) :
    Result OAuthError Unit :=
  if grantIntrospection ∈ dc.grantTypes ∧ dc.authnMethod ∉ ctx.introspectionClientAuthnMethods then
    .error (invalidRequest "client_credentials grant type not allowed")
  else .ok ()

def validateRedirectURIS (_ : Configuration) (dc : DynamicClient) : Result OAuthError Unit :=
  if dc.redirectURIS.length = 0 then .error (invalidRequest "at least one redirect uri must be informed")
  else .ok ()

def validateResponseTypes (ctx : Configuration) (dc : DynamicClient) : Result OAuthError Unit :=
  if !containsAll ctx.responseTypes dc.responseTypes then
    .error (invalidRequest "response type not allowed")
  else .ok ()

def validateCannotRequestImplicitResponseTypeWithoutImplicitGrant (ctx : Configuration)
    (dc : DynamicClient) : Result OAuthError Unit :=
  let containsImplicitResponseType := dc.responseTypes.any ResponseType.isImplicit
  if containsImplicitResponseType ∧ grantImplicit ∉ ctx.grantTypes then
    .error (invalidRequest "implicit grant type is required for implicit response types")
  else .ok ()

def validateAuthnMethod (ctx : Configuration) (dc : DynamicClient) : Result OAuthError Unit :=
  if !containsAll ctx.clientAuthnMethods [dc.authnMethod] then
    .error (invalidRequest "authn method not allowed")
  else .ok ()

def validateOpenIDScopeIfRequired (ctx : Configuration) (dc : DynamicClient) :
    Result OAuthError Unit :=
  if !ctx.openIDScopeIsRequired then .ok ()
  else if dc.scopes ≠ "" ∨ !scopesContainsOpenID dc.scopes then
    .error (invalidRequest "scope openid is required")
  else .ok ()

def validateSubjectIdentifierType (ctx : Configuration) (dc : DynamicClient) :
    Result OAuthError Unit :=
  if dc.subjectIdentifierType ≠ "" ∧ !containsAll ctx.subjectIdentifierTypes [dc.subjectIdentifierType] then
    .error (invalidRequest "subject_type not supported")
  else .ok ()

def validateIDTokenSignatureAlgorithm (ctx : Configuration) (dc : DynamicClient) :
    Result OAuthError Unit :=
  validateSignatureAlgorithm errorCodeInvalidRequest dc.idTokenSignatureAlgorithm
    (KeyRing.getUserInfoSignatureAlgorithms ctx) "id_token_signed_response_alg not supported"

/-- `validateUserInfoSignatureAlgorithm`, with the ID token check's message. -/
def validateUserInfoSignatureAlgorithm (ctx : Configuration) (dc : DynamicClient) :
    Result OAuthError Unit :=
  validateSignatureAlgorithm errorCodeInvalidRequest dc.userInfoSignatureAlgorithm
    (KeyRing.getUserInfoSignatureAlgorithms ctx) "id_token_signed_response_alg not supported"

def validateJARSignatureAlgorithm (ctx : Configuration) (dc : DynamicClient) :
    Result OAuthError Unit :=
  validateSignatureAlgorithm errorCodeInvalidRequest dc.jarSignatureAlgorithm
    (some ctx.jarSignatureAlgorithms) "request_object_signing_alg not supported"

def validateJARMSignatureAlgorithm (ctx : Configuration) (dc : DynamicClient) :
    Result OAuthError Unit :=
  validateSignatureAlgorithm errorCodeInvalidRequest dc.jarmSignatureAlgorithm
    (KeyRing.getJARMSignatureAlgorithms ctx) "authorization_signed_response_alg not supported"

def validateClientSignatureAlgorithmForPrivateKeyJWT (ctx : Configuration) (dc : DynamicClient) :
    Result OAuthError Unit :=
  validateClientSignatureAlgorithmFor errorCodeInvalidRequest clientAuthnPrivateKeyJWT
    ctx.privateKeyJWTSignatureAlgorithms dc

def validateClientSignatureAlgorithmForClientSecretJWT (ctx : Configuration) (dc : DynamicClient) :
    Result OAuthError Unit :=
  validateClientSignatureAlgorithmFor errorCodeInvalidRequest clientAuthnSecretJWT
    ctx.clientSecretJWTSignatureAlgorithms dc

def validateJWKSAreRequiredForPrivateKeyJWTAuthn (_ : Configuration) (dc : DynamicClient) :
    Result OAuthError Unit :=
  validateJWKSRequiredFor errorCodeInvalidRequest clientAuthnPrivateKeyJWT
    "the jwks is required for private_key_jwt" dc

def validateJWKSIsRequiredWhenSelfSignedTLSAuthn (_ : Configuration) (dc : DynamicClient) :
    Result OAuthError Unit :=
  validateJWKSRequiredFor errorCodeInvalidRequest clientAuthnSelfSignedTLS
    "jwks is required when authenticating with self signed certificates" dc

def validateTLSSubjectInfoWhenTLSAuthn (_ : Configuration) (dc : DynamicClient) :
    Result OAuthError Unit :=
  validateTLSSubjectInfo errorCodeInvalidRequest dc

def validateIDTokenEncryptionAlgorithms (ctx : Configuration) (dc : DynamicClient) :
    Result OAuthError Unit :=
  validateEncryptionAlgorithms errorCodeInvalidRequest ctx.userInfoEncryptionIsEnabled
    (some ctx.userInfoKeyEncryptionAlgorithms) ctx.userInfoContentEncryptionAlgorithms
    dc.idTokenKeyEncryptionAlgorithm dc.idTokenContentEncryptionAlgorithm
    "ID token encryption is not supported" "id_token_encrypted_response_alg not supported"
    "id_token_encrypted_response_alg is required if id_token_encrypted_response_enc is informed"
    "id_token_encrypted_response_enc not supported"

def validateUserInfoEncryptionAlgorithms (ctx : Configuration) (dc : DynamicClient) :
    Result OAuthError Unit :=
  validateEncryptionAlgorithms errorCodeInvalidRequest ctx.userInfoEncryptionIsEnabled
    (some ctx.userInfoKeyEncryptionAlgorithms) ctx.userInfoContentEncryptionAlgorithms
    dc.userInfoKeyEncryptionAlgorithm dc.userInfoContentEncryptionAlgorithm
    "user info encryption is not supported" "userinfo_encrypted_response_alg not supported"
    "userinfo_encrypted_response_alg is required if userinfo_encrypted_response_enc is informed"
    "userinfo_encrypted_response_enc not supported"

def validateJARMEncryptionAlgorithms (ctx : Configuration) (dc : DynamicClient) :
    Result OAuthError Unit :=
  validateEncryptionAlgorithms errorCodeInvalidRequest ctx.jarmIsEnabled
    (some ctx.jarmKeyEncrytionAlgorithms) ctx.jarmContentEncryptionAlgorithms
    dc.jarmKeyEncryptionAlgorithm dc.jarmContentEncryptionAlgorithm
    "jarm encryption is not supported" "authorization_encrypted_response_alg not supported"
    "authorization_encrypted_response_alg is required if authorization_encrypted_response_enc is informed"
    "authorization_encrypted_response_enc not supported"

def validateJAREncryptionAlgorithms (ctx : Configuration) (dc : DynamicClient) :
    Result OAuthError Unit :=
  validateEncryptionAlgorithms errorCodeInvalidRequest ctx.jarEncryptionIsEnabled
    (KeyRing.getJARKeyEncryptionAlgorithms ctx) ctx.jarContentEncryptionAlgorithms
    dc.jarKeyEncryptionAlgorithm dc.jarContentEncryptionAlgorithm
    "jar encryption is not supported" "request_object_encryption_alg not supported"
    "request_object_encryption_alg is required if request_object_encryption_enc is informed"
    "request_object_encryption_enc not supported"

def validatePublicJWKS (lib : Library) (_ : Configuration) (dc : DynamicClient) :
    Result OAuthError Unit :=
  validatePublicJWKSWith errorCodeInvalidRequest lib dc

def validatePublicJWKSURI (_ : Configuration) (_ : DynamicClient) : Result OAuthError Unit := .ok ()

/-- `validateAuthorizationDetailTypes`: it refuses the types when the server supports all of them. -/
def validateAuthorizationDetailTypes (ctx : Configuration) (dc : DynamicClient) :
    Result OAuthError Unit :=
  match dc.authorizationDetailTypes with
  | some types =>
    if !ctx.authorizationDetailsParameterIsEnabled then .ok ()
    else if containsAll ctx.authorizationDetailTypes types then
      .error (invalidRequest "authorization detail type not supported")
    else .ok ()
  | none => .ok ()

def validateRefreshTokenGrant (_ : Configuration) (dc : DynamicClient) : Result OAuthError Unit :=
  if scopesContainsOfflineAccess dc.scopes ∧ grantRefreshToken ∉ dc.grantTypes then
    .error (invalidRequest "refresh_token grant is required for using the scope offline_access")
  else .ok ()

def validateDynamicClientRequest (lib : Library) (ctx : Configuration) (dc : DynamicClient) :
    Result OAuthError Unit :=
  runValidations ctx dc
    [validateAuthnMethod, validateClientSignatureAlgorithmForPrivateKeyJWT,
      validateClientSignatureAlgorithmForClientSecretJWT,
      validateJWKSAreRequiredForPrivateKeyJWTAuthn, validateJWKSIsRequiredWhenSelfSignedTLSAuthn,
      validateTLSSubjectInfoWhenTLSAuthn, validateGrantTypes, validateRefreshTokenGrant,
      validateClientCredentialsGrant, validateClientAuthnMethodForIntrospectionGrant,
      validateRedirectURIS, validateResponseTypes,
      validateCannotRequestImplicitResponseTypeWithoutImplicitGrant, validateOpenIDScopeIfRequired,
      validateSubjectIdentifierType, validateIDTokenSignatureAlgorithm,
      validateIDTokenEncryptionAlgorithms, validateUserInfoSignatureAlgorithm,
      validateUserInfoEncryptionAlgorithms, validateJARSignatureAlgorithm,
      validateJAREncryptionAlgorithms, validateJARMSignatureAlgorithm,
      validateJARMEncryptionAlgorithms, validatePublicJWKS lib, validatePublicJWKSURI,
      validateAuthorizationDetailTypes]

theorem validateOpenIDScopeIfRequired_eq_ok_iff {ctx : Configuration} {dc : DynamicClient} :
    validateOpenIDScopeIfRequired ctx dc = .ok () ↔ ctx.openIDScopeIsRequired = false := by
  have noOpenID : scopesContainsOpenID "" = false := containsOpenID_empty
  by_cases empty : dc.scopes = "" <;> cases required : ctx.openIDScopeIsRequired <;>
    simp [validateOpenIDScopeIfRequired, empty, required, noOpenID]

/-! ### A server that requires `openid` -/

def openIDServer : Configuration :=
  (Provider.configure (Provider.new [] "https://op.example" [KeyRing.rsKey] "rs" "rs" "X-Correlation-ID")
    [.enableImplicitGrantType, .enableNoneClientAuthn, .requireOpenIDScope]).config

/-- `url.Parse` as far as the fragment goes. -/
def fragmentLibrary : Library where
  parseURL uri := some (String.mk ((uri.toList.dropWhile (· != '#')).drop 1))
  unmarshalJWKS _ := none

def openIDClient : DynamicClient where
  authnMethod := clientAuthnNone
  authnSignatureAlgorithm := ""
  scopes := "openid"
  grantTypes := [grantAuthorizationCode]
  redirectURIS := ["https://rp.example/callback"]
  responseTypes := [responseTypeCode]
  publicJWKS := none
  publicJWKSURI := ""
  tlsSubjectDistinguishedName := ""
  tlsSubjectAlternativeName := ""
  tlsSubjectAlternativeNameIp := ""
  subjectIdentifierType := ""
  idTokenSignatureAlgorithm := ""
  idTokenKeyEncryptionAlgorithm := ""
  idTokenContentEncryptionAlgorithm := ""
  userInfoSignatureAlgorithm := ""
  userInfoKeyEncryptionAlgorithm := ""
  userInfoContentEncryptionAlgorithm := ""
  jarSignatureAlgorithm := ""
  jarKeyEncryptionAlgorithm := ""
  jarContentEncryptionAlgorithm := ""
  jarmSignatureAlgorithm := ""
  jarmKeyEncryptionAlgorithm := ""
  jarmContentEncryptionAlgorithm := ""
  authorizationDetailTypes := none

theorem openIDRequired_rejects_openID :
    openIDServer.openIDScopeIsRequired = true ∧ scopesContainsOpenID openIDClient.scopes = true ∧
      validateDynamicRequest fragmentLibrary openIDServer openIDClient =
        .error (invalidMetadata "scope openid is required") ∧
      validateDynamicClientRequest fragmentLibrary openIDServer openIDClient =
        .error (invalidRequest "scope openid is required") := by
  decide

/-! ### A client identified by its IP address -/

def ipOnlyRequest : DynamicClient :=
  { openIDClient with authnMethod := clientAuthnTLS, scopes := "",
                      tlsSubjectAlternativeNameIp := "192.0.2.10" }

def ipOnlyClient : Client where
  id := "ip-client"
  secret := ""
  hashedSecret := ""
  authnMethod := clientAuthnTLS
  authnSigAlg := ""
  grantTypes := [grantAuthorizationCode]
  tlsSubDistinguishedName := ""
  tlsSubAlternativeName := ""
  tlsSubAlternativeNameIp := "192.0.2.10"
  idTokenSignatureAlgorithm := ""
  userInfoSignatureAlgorithm := ""
  jarmSignatureAlgorithm := ""

def ipCertificateContext : ClientAuthn.ClientAuthnContext where
  request := ⟨fun param => if param = "client_id" then "ip-client" else "", none⟩
  staticClients := [ipOnlyClient]
  clientManager _ := .error "client not found"
  clientCert := .ok ⟨"CN=rp.example", [], ["192.0.2.10"]⟩
  privateKeyJWTSigAlgs := []
  clientSecretJWTSigAlgs := []

theorem ipOnlyClient_fails_tls_authn :
    validateTLSSubjectInfoWhenTLSAuthn openIDServer ipOnlyRequest = .ok () ∧
      DCR.validateTLSSubjectInfoWhenTLSAuthn openIDServer ipOnlyRequest = .ok () ∧
      ClientAuthn.authenticateTLSCert ipCertificateContext ipOnlyClient =
        .error (ClientAuthn.invalidClient "client is missing attributes for tls authn") ∧
      ∀ ctx, ClientAuthn.authenticateTLSCert ctx ipOnlyClient ≠ .ok () := by
  refine ⟨by decide, by decide, rfl, fun ctx authenticated => ?_⟩
  obtain ⟨-, cert, -, matching⟩ := ClientAuthn.authenticateTLSCert_eq_ok_iff.mp authenticated
  simp [ClientAuthn.MatchesTLSIdentity, ipOnlyClient] at matching

end GoOidc.DCR.ClientRequest
