import GoOidc.Configuration
import GoOidc.Slice

/-!
`New` and the configuration calls of `goidcp.Provider` (`pkg/goidcp/provider.go`), a run of
calls being a fold (`configure`). The configuration keeps the caller's variadic `[]string`
slices uncopied, so the builder holds its five `[]string` fields as views into the program's
arrays, and the two key-ID calls `append` into the caller's array when it has room. Over every
run from `New`: the client authentication methods are those the calls append, where
`EnableClientSecretJWTAuthn` appends `client_secret_basic` (`clientAuthnMethods_configure`);
`openid` stays a scope (`configure_openID`); the default UserInfo and JARM keys stay listed when
no two slice arguments share a backing array (`configure_keepsDefaults`), and a shared array can
unlist the default UserInfo key (`sharedKeyIDs_drop_userInfo_default`).
-/

namespace GoOidc.Provider

/-- A `*Provider` being configured, with the program's arrays; its five `[]string` fields are views. -/
structure Builder where
  arrays : List (List String)
  settings : Configuration
  userClaims : Slice
  userInfoSignatureKeyIDs : Slice
  jarKeyEncryptionIDs : Slice
  jarmSignatureKeyIDs : Slice
  authorizationDetailTypes : Slice

/-- `p.config`, the five `[]string` fields read through their views. -/
def Builder.config (b : Builder) : Configuration :=
  { b.settings with
    userClaims := b.userClaims.read b.arrays
    userInfoSignatureKeyIDs := b.userInfoSignatureKeyIDs.read b.arrays
    jarKeyEncryptionIDs := b.jarKeyEncryptionIDs.read b.arrays
    jarmSignatureKeyIDs := b.jarmSignatureKeyIDs.read b.arrays
    authorizationDetailTypes := b.authorizationDetailTypes.read b.arrays }

section Fields
variable (b : Builder)

@[simp] theorem Builder.config_oAuthScopes : b.config.oAuthScopes = b.settings.oAuthScopes := rfl
@[simp] theorem Builder.config_clientAuthnMethods :
    b.config.clientAuthnMethods = b.settings.clientAuthnMethods := rfl
@[simp] theorem Builder.config_grantTypes : b.config.grantTypes = b.settings.grantTypes := rfl

end Fields

/-- A call that writes only fields other than the five `[]string` ones. -/
def Builder.update (b : Builder) (f : Configuration → Configuration) : Builder :=
  { b with settings := f b.settings }

/-- `New`, in a program whose arrays so far are `arrays`; `[]string{defaultIDTokenKeyID}` is a new
    array. The stores and token options are not modelled; `goidc.HeaderCorrelationID` is an argument. -/
def new (arrays : List (List String)) (host : String) (privateJWKS : List JSONWebKey)
    (defaultTokenKeyID defaultIDTokenKeyID : String) (headerCorrelationID : String) : Builder where
  arrays := arrays ++ [[defaultIDTokenKeyID]]
  settings := {
    host := host
    profile := profileOpenID
    oAuthScopes := [scopeOpenID]
    privateJWKS := privateJWKS
    defaultTokenSignatureKeyID := defaultTokenKeyID
    defaultUserInfoSignatureKeyID := defaultIDTokenKeyID
    userInfoSignatureKeyIDs := [defaultIDTokenKeyID]
    idTokenExpiresInSecs := 600
    userClaims := []
    grantTypes := [grantAuthorizationCode]
    responseTypes := [responseTypeCode]
    responseModes := [responseModeQuery, responseModeFragment, responseModeFormPost]
    clientAuthnMethods := []
    introspectionIsEnabled := false
    introspectionClientAuthnMethods := []
    privateKeyJWTSignatureAlgorithms := []
    privateKeyJWTAssertionLifetimeSecs := 0
    clientSecretJWTSignatureAlgorithms := []
    clientSecretJWTAssertionLifetimeSecs := 0
    openIDScopeIsRequired := false
    userInfoEncryptionIsEnabled := false
    userInfoKeyEncryptionAlgorithms := []
    userInfoContentEncryptionAlgorithms := []
    shouldRotateRefreshTokens := false
    refreshTokenLifetimeSecs := 0
    claimTypes := [claimTypeNormal]
    issuerResponseParameterIsEnabled := false
    claimsParameterIsEnabled := false
    authorizationDetailsParameterIsEnabled := false
    authorizationDetailTypes := []
    jarmIsEnabled := false
    defaultJARMSignatureKeyID := ""
    jarmSignatureKeyIDs := []
    jarmLifetimeSecs := 0
    jarmEncryptionIsEnabled := false
    jarmKeyEncrytionAlgorithms := []
    jarmContentEncryptionAlgorithms := []
    jarIsEnabled := false
    jarIsRequired := false
    jarSignatureAlgorithms := []
    jarLifetimeSecs := 0
    jarEncryptionIsEnabled := false
    jarKeyEncryptionIDs := []
    jarContentEncryptionAlgorithms := []
    parIsEnabled := false
    parIsRequired := false
    parLifetimeSecs := 0
    dpopIsEnabled := false
    dpopIsRequired := false
    dpopLifetimeSecs := 0
    dpopSignatureAlgorithms := []
    pkceIsEnabled := false
    pkceIsRequired := false
    codeChallengeMethods := []
    subjectIdentifierTypes := [subjectIdentifierPublic]
    policies := []
    dcrIsEnabled := false
    shouldRotateRegistrationTokens := false
    authenticationSessionTimeoutSecs := defaultAuthenticationSessionTimeoutSecs
    mtlsIsEnabled := false
    mtlsHost := ""
    tlsBoundTokensIsEnabled := false
    correlationIDHeader := headerCorrelationID
    authenticationContextReferences := []
    displayValues := []
    senderConstrainedTokenIsRequired := false
  }
  userClaims := ⟨arrays.length, 0, 0, 0⟩
  userInfoSignatureKeyIDs := ⟨arrays.length, 0, 1, 1⟩
  jarKeyEncryptionIDs := ⟨arrays.length, 0, 0, 0⟩
  jarmSignatureKeyIDs := ⟨arrays.length, 0, 0, 0⟩
  authorizationDetailTypes := ⟨arrays.length, 0, 0, 0⟩

/-- Modelled from the spec: `Scopes.ContainsOpenID`, absent from the sources. -/
def containsOpenID (scopes : List Scope) : Bool := decide (scopeOpenID ∈ scopes)

section Calls
variable (p : Configuration)

def setIDTokenLifetime (idTokenLifetimeSecs : Int) : Configuration :=
  { p with idTokenExpiresInSecs := idTokenLifetimeSecs }

def enableUserInfoEncryption (keyEncryptionAlgorithms contentEncryptionAlgorithms : List String) :
    Configuration :=
  { p with userInfoEncryptionIsEnabled := true
           userInfoKeyEncryptionAlgorithms := p.userInfoKeyEncryptionAlgorithms ++ keyEncryptionAlgorithms
           userInfoContentEncryptionAlgorithms :=
             p.userInfoContentEncryptionAlgorithms ++ contentEncryptionAlgorithms }

def enableDynamicClientRegistration (shouldRotateTokens : Bool) : Configuration :=
  { p with dcrIsEnabled := true, shouldRotateRegistrationTokens := shouldRotateTokens }

def enableRefreshTokenGrantType (refreshTokenLifetimeSecs : Int) (shouldRotateTokens : Bool) :
    Configuration :=
  { p with grantTypes := p.grantTypes ++ [grantRefreshToken]
           refreshTokenLifetimeSecs := refreshTokenLifetimeSecs
           shouldRotateRefreshTokens := shouldRotateTokens }

def requireOpenIDScope : Configuration := { p with openIDScopeIsRequired := true }

def enableImplicitGrantType : Configuration :=
  { p with grantTypes := p.grantTypes ++ [grantImplicit]
           responseTypes := p.responseTypes ++ [responseTypeToken, responseTypeIDToken,
             responseTypeIDTokenAndToken, responseTypeCodeAndIDToken, responseTypeCodeAndToken,
             responseTypeCodeAndIDTokenAndToken] }

/-- `SetScopes`: the scope openid is required to be among the scopes. Its `append` may write
    into the caller's `[]Scope` array, which only `OAuthScopes` holds and this call replaces. -/
def setScopes (scopes : List Scope) : Configuration :=
  { p with oAuthScopes := if containsOpenID scopes then scopes else scopes ++ [scopeOpenID] }

def enablePushedAuthorizationRequests (parLifetimeSecs : Int) : Configuration :=
  { p with parLifetimeSecs := parLifetimeSecs, parIsEnabled := true }

def requirePushedAuthorizationRequests (parLifetimeSecs : Int) : Configuration :=
  { enablePushedAuthorizationRequests p parLifetimeSecs with parIsRequired := true }

def enableJWTSecuredAuthorizationRequests (jarLifetimeSecs : Int) (jarAlgorithms : List String) :
    Configuration :=
  { p with jarIsEnabled := true, jarLifetimeSecs := jarLifetimeSecs
           jarSignatureAlgorithms := p.jarSignatureAlgorithms ++ jarAlgorithms }

def requireJWTSecuredAuthorizationRequests (jarLifetimeSecs : Int) (jarAlgorithms : List String) :
    Configuration :=
  { enableJWTSecuredAuthorizationRequests p jarLifetimeSecs jarAlgorithms with jarIsRequired := true }

def enableJWTSecuredAuthorizationResponseModeEncryption
    (keyEncryptionAlgorithms contentEncryptionAlgorithms : List String) : Configuration :=
  { p with jarmEncryptionIsEnabled := true
           jarmKeyEncrytionAlgorithms := p.jarmKeyEncrytionAlgorithms ++ keyEncryptionAlgorithms
           jarmContentEncryptionAlgorithms :=
             p.jarmContentEncryptionAlgorithms ++ contentEncryptionAlgorithms }

/-- What every `Enable...ClientAuthn` call does: append one method. -/
def appendClientAuthnMethod (method : String) : Configuration :=
  { p with clientAuthnMethods := p.clientAuthnMethods ++ [method] }

def enableBasicSecretClientAuthn : Configuration := appendClientAuthnMethod p clientAuthnSecretBasic
def enableSecretPostClientAuthn : Configuration := appendClientAuthnMethod p clientAuthnSecretPost
def enableTLSClientAuthn : Configuration := appendClientAuthnMethod p clientAuthnTLS
def enableSelfSignedTLSClientAuthn : Configuration := appendClientAuthnMethod p clientAuthnSelfSignedTLS
def enableNoneClientAuthn : Configuration := appendClientAuthnMethod p clientAuthnNone

def enablePrivateKeyJWTClientAuthn (assertionLifetimeSecs : Int) (signatureAlgorithms : List String) :
    Configuration :=
  { appendClientAuthnMethod p clientAuthnPrivateKeyJWT with
    privateKeyJWTAssertionLifetimeSecs := assertionLifetimeSecs
    privateKeyJWTSignatureAlgorithms := p.privateKeyJWTSignatureAlgorithms ++ signatureAlgorithms }

/-- `EnableClientSecretJWTAuthn`: it appends `ClientAuthnSecretBasic`. -/
def enableClientSecretJWTAuthn (assertionLifetimeSecs : Int) (signatureAlgorithms : List String) :
    Configuration :=
  { appendClientAuthnMethod p clientAuthnSecretBasic with
    clientSecretJWTAssertionLifetimeSecs := assertionLifetimeSecs
    clientSecretJWTSignatureAlgorithms := p.clientSecretJWTSignatureAlgorithms ++ signatureAlgorithms }

def enableMTLS (mtlsHost : String) : Configuration := { p with mtlsIsEnabled := true, mtlsHost := mtlsHost }
def enableTLSBoundTokens : Configuration := { p with tlsBoundTokensIsEnabled := true }
def enableIssuerResponseParameter : Configuration := { p with issuerResponseParameterIsEnabled := true }
def enableClaimsParameter : Configuration := { p with claimsParameterIsEnabled := true }

def enableDemonstrationProofOfPossesion (dpopLifetimeSecs : Int) (dpopSigningAlgorithms : List String) :
    Configuration :=
  { p with dpopIsEnabled := true, dpopLifetimeSecs := dpopLifetimeSecs
           dpopSignatureAlgorithms := p.dpopSignatureAlgorithms ++ dpopSigningAlgorithms }

def requireDemonstrationProofOfPossesion (dpopLifetimeSecs : Int) (dpopSigningAlgorithms : List String) :
    Configuration :=
  { enableDemonstrationProofOfPossesion p dpopLifetimeSecs dpopSigningAlgorithms with
    dpopIsRequired := true }

def requireSenderConstrainedTokens : Configuration := { p with senderConstrainedTokenIsRequired := true }

def enableTokenIntrospection (clientAuthnMethods : List String) : Configuration :=
  { p with introspectionIsEnabled := true, introspectionClientAuthnMethods := clientAuthnMethods
           grantTypes := p.grantTypes ++ [grantIntrospection] }

def enableProofKeyForCodeExchange (codeChallengeMethods : List String) : Configuration :=
  { p with codeChallengeMethods := codeChallengeMethods, pkceIsEnabled := true }

def requireProofKeyForCodeExchange (codeChallengeMethods : List String) : Configuration :=
  { enableProofKeyForCodeExchange p codeChallengeMethods with pkceIsRequired := true }

def setSupportedAuthenticationContextReferences (acrValues : List String) : Configuration :=
  { p with authenticationContextReferences := acrValues }

def setDisplayValuesSupported (values : List String) : Configuration := { p with displayValues := values }
def setClaimTypesSupported (types : List String) : Configuration := { p with claimTypes := types }

def setAuthenticationSessionTimeout (timeoutSecs : Int) : Configuration :=
  { p with authenticationSessionTimeoutSecs := timeoutSecs }

def setHeaderCorrelationID (header : String) : Configuration := { p with correlationIDHeader := header }
def setProfileFAPI2 : Configuration := { p with profile := profileFAPI2 }

def addPolicy (policyID : String) : Configuration := { p with policies := p.policies ++ [policyID] }

end Calls

/-! ### The calls that keep a `[]string` argument -/

section SliceCalls
variable (b : Builder)

def setSupportedUserClaims (claims : Slice) : Builder := { b with userClaims := claims }

/-- `AddUserInfoSignatureKeyIDs`: the default key is appended when the slice lacks it. -/
def addUserInfoSignatureKeyIDs (userInfoSignatureKeyIDs : Slice) : Builder :=
  let ids := Slice.appendIfMissing b.arrays userInfoSignatureKeyIDs b.settings.defaultUserInfoSignatureKeyID
  { b with arrays := ids.1, userInfoSignatureKeyIDs := ids.2 }

def enableJWTSecuredAuthorizationRequestEncryption (keyEncryptionIDs : Slice)
    (contentEncryptionAlgorithms : List String) : Builder :=
  { b with settings := { b.settings with jarEncryptionIsEnabled := true
                                         jarContentEncryptionAlgorithms := contentEncryptionAlgorithms }
           jarKeyEncryptionIDs := keyEncryptionIDs }

/-- `EnableJWTSecuredAuthorizationResponseMode`: the default JARM key is appended when missing. -/
def enableJWTSecuredAuthorizationResponseMode (jarmLifetimeSecs : Int)
    (defaultJARMSignatureKeyID : String) (jarmSignatureKeyIDs : Slice) : Builder :=
  let ids := Slice.appendIfMissing b.arrays jarmSignatureKeyIDs defaultJARMSignatureKeyID
  { b with arrays := ids.1
           settings := { b.settings with
             jarmIsEnabled := true
             responseModes := b.settings.responseModes ++ [responseModeJWT, responseModeQueryJWT,
               responseModeFragmentJWT, responseModeFormPostJWT]
             jarmLifetimeSecs := jarmLifetimeSecs
             defaultJARMSignatureKeyID := defaultJARMSignatureKeyID }
           jarmSignatureKeyIDs := ids.2 }

def enableAuthorizationDetailsParameter (types : Slice) : Builder :=
  { b with settings := { b.settings with authorizationDetailsParameterIsEnabled := true }
           authorizationDetailTypes := types }

end SliceCalls

/-- A configuration call; `SetTokenOptions`, the DCR plugin and `AddClient` write nothing modelled. -/
inductive Call where
  | setSupportedUserClaims (claims : Slice)
  | addUserInfoSignatureKeyIDs (keyIDs : Slice)
  | setIDTokenLifetime (secs : Int)
  | enableUserInfoEncryption (keyEncryptionAlgorithms contentEncryptionAlgorithms : List String)
  | enableDynamicClientRegistration (shouldRotateTokens : Bool)
  | enableRefreshTokenGrantType (refreshTokenLifetimeSecs : Int) (shouldRotateTokens : Bool)
  | requireOpenIDScope
  | setTokenOptions
  | enableImplicitGrantType
  | setScopes (scopes : List Scope)
  | enablePushedAuthorizationRequests (parLifetimeSecs : Int)
  | requirePushedAuthorizationRequests (parLifetimeSecs : Int)
  | enableJWTSecuredAuthorizationRequests (jarLifetimeSecs : Int) (jarAlgorithms : List String)
  | requireJWTSecuredAuthorizationRequests (jarLifetimeSecs : Int) (jarAlgorithms : List String)
  | enableJWTSecuredAuthorizationRequestEncryption (keyEncryptionIDs : Slice)
      (contentEncryptionAlgorithms : List String)
  | enableJWTSecuredAuthorizationResponseMode (jarmLifetimeSecs : Int) (defaultKeyID : String)
      (keyIDs : Slice)
  | enableJWTSecuredAuthorizationResponseModeEncryption
      (keyEncryptionAlgorithms contentEncryptionAlgorithms : List String)
  | enableBasicSecretClientAuthn
  | enableSecretPostClientAuthn
  | enablePrivateKeyJWTClientAuthn (assertionLifetimeSecs : Int) (signatureAlgorithms : List String)
  | enableClientSecretJWTAuthn (assertionLifetimeSecs : Int) (signatureAlgorithms : List String)
  | enableTLSClientAuthn
  | enableSelfSignedTLSClientAuthn
  | enableMTLS (mtlsHost : String)
  | enableTLSBoundTokens
  | enableNoneClientAuthn
  | enableIssuerResponseParameter
  | enableClaimsParameter
  | enableAuthorizationDetailsParameter (types : Slice)
  | enableDemonstrationProofOfPossesion (dpopLifetimeSecs : Int) (dpopSigningAlgorithms : List String)
  | requireDemonstrationProofOfPossesion (dpopLifetimeSecs : Int) (dpopSigningAlgorithms : List String)
  | requireSenderConstrainedTokens
  | enableTokenIntrospection (clientAuthnMethods : List String)
  | enableProofKeyForCodeExchange (codeChallengeMethods : List String)
  | requireProofKeyForCodeExchange (codeChallengeMethods : List String)
  | setSupportedAuthenticationContextReferences (acrValues : List String)
  | setDisplayValuesSupported (values : List String)
  | setClaimTypesSupported (types : List String)
  | setAuthenticationSessionTimeout (timeoutSecs : Int)
  | setHeaderCorrelationID (header : String)
  | setProfileFAPI2
  | addClient
  | addPolicy (policyID : String)

def apply (b : Builder) : Call → Builder
  | .setSupportedUserClaims claims => setSupportedUserClaims b claims
  | .addUserInfoSignatureKeyIDs keyIDs => addUserInfoSignatureKeyIDs b keyIDs
  | .setIDTokenLifetime secs => b.update (setIDTokenLifetime · secs)
  | .enableUserInfoEncryption keyAlgs contentAlgs => b.update (enableUserInfoEncryption · keyAlgs contentAlgs)
  | .enableDynamicClientRegistration rotate => b.update (enableDynamicClientRegistration · rotate)
  | .enableRefreshTokenGrantType secs rotate => b.update (enableRefreshTokenGrantType · secs rotate)
  | .requireOpenIDScope => b.update requireOpenIDScope
  | .setTokenOptions => b
  | .enableImplicitGrantType => b.update enableImplicitGrantType
  | .setScopes scopes => b.update (setScopes · scopes)
  | .enablePushedAuthorizationRequests secs => b.update (enablePushedAuthorizationRequests · secs)
  | .requirePushedAuthorizationRequests secs => b.update (requirePushedAuthorizationRequests · secs)
  | .enableJWTSecuredAuthorizationRequests secs algs =>
    b.update (enableJWTSecuredAuthorizationRequests · secs algs)
  | .requireJWTSecuredAuthorizationRequests secs algs =>
    b.update (requireJWTSecuredAuthorizationRequests · secs algs)
  | .enableJWTSecuredAuthorizationRequestEncryption keyIDs contentAlgs =>
    enableJWTSecuredAuthorizationRequestEncryption b keyIDs contentAlgs
  | .enableJWTSecuredAuthorizationResponseMode secs defaultKeyID keyIDs =>
    enableJWTSecuredAuthorizationResponseMode b secs defaultKeyID keyIDs
  | .enableJWTSecuredAuthorizationResponseModeEncryption keyAlgs contentAlgs =>
    b.update (enableJWTSecuredAuthorizationResponseModeEncryption · keyAlgs contentAlgs)
  | .enableBasicSecretClientAuthn => b.update enableBasicSecretClientAuthn
  | .enableSecretPostClientAuthn => b.update enableSecretPostClientAuthn
  | .enablePrivateKeyJWTClientAuthn secs algs => b.update (enablePrivateKeyJWTClientAuthn · secs algs)
  | .enableClientSecretJWTAuthn secs algs => b.update (enableClientSecretJWTAuthn · secs algs)
  | .enableTLSClientAuthn => b.update enableTLSClientAuthn
  | .enableSelfSignedTLSClientAuthn => b.update enableSelfSignedTLSClientAuthn
  | .enableMTLS host => b.update (enableMTLS · host)
  | .enableTLSBoundTokens => b.update enableTLSBoundTokens
  | .enableNoneClientAuthn => b.update enableNoneClientAuthn
  | .enableIssuerResponseParameter => b.update enableIssuerResponseParameter
  | .enableClaimsParameter => b.update enableClaimsParameter
  | .enableAuthorizationDetailsParameter types => enableAuthorizationDetailsParameter b types
  | .enableDemonstrationProofOfPossesion secs algs =>
    b.update (enableDemonstrationProofOfPossesion · secs algs)
  | .requireDemonstrationProofOfPossesion secs algs =>
    b.update (requireDemonstrationProofOfPossesion · secs algs)
  | .requireSenderConstrainedTokens => b.update requireSenderConstrainedTokens
  | .enableTokenIntrospection methods => b.update (enableTokenIntrospection · methods)
  | .enableProofKeyForCodeExchange methods => b.update (enableProofKeyForCodeExchange · methods)
  | .requireProofKeyForCodeExchange methods => b.update (requireProofKeyForCodeExchange · methods)
  | .setSupportedAuthenticationContextReferences acrs =>
    b.update (setSupportedAuthenticationContextReferences · acrs)
  | .setDisplayValuesSupported values => b.update (setDisplayValuesSupported · values)
  | .setClaimTypesSupported types => b.update (setClaimTypesSupported · types)
  | .setAuthenticationSessionTimeout secs => b.update (setAuthenticationSessionTimeout · secs)
  | .setHeaderCorrelationID header => b.update (setHeaderCorrelationID · header)
  | .setProfileFAPI2 => b.update setProfileFAPI2
  | .addClient => b
  | .addPolicy policyID => b.update (addPolicy · policyID)

def configure (b : Builder) (calls : List Call) : Builder := calls.foldl apply b

@[simp] theorem configure_nil (b : Builder) : configure b [] = b := rfl
@[simp] theorem configure_cons (b : Builder) (call : Call) (calls : List Call) :
    configure b (call :: calls) = configure (apply b call) calls := rfl

/-! ### `openid` and the default signing keys -/

/-- `openid` is a scope and each default signing key is listed (the JARM one with JARM on). -/
structure KeepsDefaults (p : Configuration) : Prop where
  openID : scopeOpenID ∈ p.oAuthScopes
  userInfoKey : p.defaultUserInfoSignatureKeyID ∈ p.userInfoSignatureKeyIDs
  jarmKey : p.jarmIsEnabled = true → p.defaultJARMSignatureKeyID ∈ p.jarmSignatureKeyIDs

theorem apply_openID {b : Builder} (openID : scopeOpenID ∈ b.config.oAuthScopes) (call : Call) :
    scopeOpenID ∈ (apply b call).config.oAuthScopes := by
  cases call
  case setScopes scopes =>
    show scopeOpenID ∈ if containsOpenID scopes then scopes else scopes ++ [scopeOpenID]
    unfold containsOpenID
    split
    · next present => exact of_decide_eq_true present
    · exact List.mem_append_right _ (List.mem_singleton_self _)
  all_goals simp only [apply, Builder.update, requirePushedAuthorizationRequests, enablePushedAuthorizationRequests,
      requireJWTSecuredAuthorizationRequests, enableJWTSecuredAuthorizationRequests,
      requireDemonstrationProofOfPossesion, enableDemonstrationProofOfPossesion,
      requireProofKeyForCodeExchange, enableProofKeyForCodeExchange, enablePrivateKeyJWTClientAuthn,
      enableClientSecretJWTAuthn, appendClientAuthnMethod]
  all_goals exact openID

theorem configure_openID (arrays : List (List String)) (host : String) (jwks : List JSONWebKey)
    (tokenKeyID idTokenKeyID header : String) (calls : List Call) :
    scopeOpenID ∈ (configure (new arrays host jwks tokenKeyID idTokenKeyID header) calls).config.oAuthScopes := by
  induction calls using List.reverseRecOn with
  | nil => exact List.mem_singleton_self _
  | append_singleton calls call ih =>
    simpa only [configure, List.foldl_append, List.foldl_cons, List.foldl_nil] using apply_openID ih call

def Call.slices : Call → List Slice
  | .setSupportedUserClaims claims => [claims]
  | .addUserInfoSignatureKeyIDs keyIDs => [keyIDs]
  | .enableJWTSecuredAuthorizationRequestEncryption keyIDs _ => [keyIDs]
  | .enableJWTSecuredAuthorizationResponseMode _ _ keyIDs => [keyIDs]
  | .enableAuthorizationDetailsParameter types => [types]
  | _ => []

/-- The calls' `[]string` arguments are views into the program's arrays, no two sharing one. -/
structure SeparateArguments (arrays : List (List String)) (calls : List Call) : Prop where
  wellFormed : ∀ s ∈ calls.flatMap Call.slices, s.WellFormed arrays
  distinct : ((calls.flatMap Call.slices).map Slice.array).Nodup

/-- What a run keeps while the slice arguments `rest` are to come: no argument to come shares an
    array with a key-ID view. -/
structure Separated (b : Builder) (rest : List Slice) : Prop where
  keeps : KeepsDefaults b.config
  userInfo : b.userInfoSignatureKeyIDs.WellFormed b.arrays
  jarm : b.settings.jarmIsEnabled = true → b.jarmSignatureKeyIDs.WellFormed b.arrays
  arguments : ∀ s ∈ rest, s.WellFormed b.arrays ∧ s.array ≠ b.userInfoSignatureKeyIDs.array ∧
    (b.settings.jarmIsEnabled = true → s.array ≠ b.jarmSignatureKeyIDs.array)
  distinct : (rest.map Slice.array).Nodup

section Separated
variable {b : Builder} {s : Slice} {rest : List Slice}

theorem new_separated {arrays : List (List String)} {calls : List Call}
    (separate : SeparateArguments arrays calls) (host : String) (jwks : List JSONWebKey)
    (tokenKeyID idTokenKeyID header : String) :
    Separated (new arrays host jwks tokenKeyID idTokenKeyID header) (calls.flatMap Call.slices) where
  keeps := ⟨List.mem_singleton_self _,
    by simp [Builder.config, new, Slice.read, Slice.getD_concat_length], fun enabled => nomatch enabled⟩
  userInfo := ⟨by simp [new], le_refl 1, by simp [new, Slice.getD_concat_length]⟩
  jarm enabled := nomatch enabled
  arguments s mem := ⟨(separate.wellFormed s mem).grow _,
    Nat.ne_of_lt (separate.wellFormed s mem).1, fun enabled => nomatch enabled⟩
  distinct := separate.distinct

theorem Separated.frame {b' : Builder} {passed : List Slice} (sep : Separated b (passed ++ rest))
    (arrays : b'.arrays = b.arrays) (userInfo : b'.userInfoSignatureKeyIDs = b.userInfoSignatureKeyIDs)
    (jarm : b'.jarmSignatureKeyIDs = b.jarmSignatureKeyIDs)
    (enabled : b'.settings.jarmIsEnabled = b.settings.jarmIsEnabled) (keeps : KeepsDefaults b'.config) :
    Separated b' rest where
  keeps := keeps
  userInfo := arrays ▸ userInfo ▸ sep.userInfo
  jarm := arrays ▸ jarm ▸ enabled ▸ sep.jarm
  arguments s' mem := arrays ▸ userInfo ▸ jarm ▸ enabled ▸ sep.arguments s' (List.mem_append_right _ mem)
  distinct := sep.distinct.sublist ((List.sublist_append_right passed rest).map _)

theorem Separated.apart_appendIfMissing (sep : Separated b (s :: rest)) (item : String) :
    ∀ s' ∈ rest, s'.array ≠ (Slice.appendIfMissing b.arrays s item).2.array := by
  intro s' mem
  have distinct : s.array ∉ rest.map Slice.array := (List.nodup_cons.mp sep.distinct).1
  rcases @Slice.array_appendIfMissing b.arrays s item with same | fresh
  · rw [same]
    exact fun eq => distinct (eq ▸ List.mem_map_of_mem _ mem)
  · rw [fresh]
    exact Nat.ne_of_lt (sep.arguments s' (List.mem_cons_of_mem _ mem)).1.1

theorem Separated.addUserInfoSignatureKeyIDs (sep : Separated b (s :: rest)) :
    Separated (addUserInfoSignatureKeyIDs b s) rest := by
  obtain ⟨wfs, userInfoApart, jarmApart⟩ := sep.arguments s (List.mem_cons_self _ _)
  refine ⟨⟨sep.keeps.1, Slice.mem_read_appendIfMissing _ wfs, fun enabled => ?_⟩,
    Slice.wellFormed_appendIfMissing_self _ wfs,
    fun enabled => Slice.wellFormed_appendIfMissing _ wfs (sep.jarm enabled),
    fun s' mem => ?_, (List.nodup_cons.mp sep.distinct).2⟩
  · show _ ∈ b.jarmSignatureKeyIDs.read (Slice.appendIfMissing b.arrays s _).1
    rw [Slice.read_appendIfMissing_of_ne _ (sep.jarm enabled) (jarmApart enabled).symm]
    exact sep.keeps.3 enabled
  · obtain ⟨wf, -, jarm⟩ := sep.arguments s' (List.mem_cons_of_mem _ mem)
    exact ⟨Slice.wellFormed_appendIfMissing _ wfs wf, sep.apart_appendIfMissing _ s' mem, jarm⟩

theorem Separated.enableJWTSecuredAuthorizationResponseMode (sep : Separated b (s :: rest))
    (jarmLifetimeSecs : Int) (defaultKeyID : String) :
    Separated (enableJWTSecuredAuthorizationResponseMode b jarmLifetimeSecs defaultKeyID s) rest := by
  obtain ⟨wfs, userInfoApart, -⟩ := sep.arguments s (List.mem_cons_self _ _)
  refine ⟨⟨sep.keeps.1, ?_, fun _ => Slice.mem_read_appendIfMissing _ wfs⟩,
    Slice.wellFormed_appendIfMissing _ wfs sep.userInfo,
    fun _ => Slice.wellFormed_appendIfMissing_self _ wfs, fun s' mem => ?_,
    (List.nodup_cons.mp sep.distinct).2⟩
  · show _ ∈ b.userInfoSignatureKeyIDs.read (Slice.appendIfMissing b.arrays s defaultKeyID).1
    rw [Slice.read_appendIfMissing_of_ne _ sep.userInfo userInfoApart.symm]
    exact sep.keeps.2
  · obtain ⟨wf, userInfo, -⟩ := sep.arguments s' (List.mem_cons_of_mem _ mem)
    exact ⟨Slice.wellFormed_appendIfMissing _ wfs wf, userInfo,
      fun _ => sep.apart_appendIfMissing _ s' mem⟩

theorem apply_separated {call : Call} (sep : Separated b (call.slices ++ rest)) :
    Separated (apply b call) rest := by
  have openID := apply_openID sep.keeps.openID call
  cases call
  case addUserInfoSignatureKeyIDs s => exact sep.addUserInfoSignatureKeyIDs
  case enableJWTSecuredAuthorizationResponseMode secs defaultKeyID s =>
    exact sep.enableJWTSecuredAuthorizationResponseMode secs defaultKeyID
  all_goals simp only [apply, Builder.update, requirePushedAuthorizationRequests, enablePushedAuthorizationRequests,
      requireJWTSecuredAuthorizationRequests, enableJWTSecuredAuthorizationRequests,
      requireDemonstrationProofOfPossesion, enableDemonstrationProofOfPossesion,
      requireProofKeyForCodeExchange, enableProofKeyForCodeExchange, enablePrivateKeyJWTClientAuthn,
      enableClientSecretJWTAuthn, appendClientAuthnMethod] at openID ⊢
  all_goals exact sep.frame rfl rfl rfl rfl ⟨openID, sep.keeps.2, sep.keeps.3⟩

theorem configure_separated (calls : List Call) :
    Separated b (calls.flatMap Call.slices ++ rest) → Separated (configure b calls) rest := by
  induction calls generalizing b with
  | nil => exact id
  | cons call calls ih =>
    intro sep
    rw [List.flatMap_cons, List.append_assoc] at sep
    exact ih (apply_separated sep)

end Separated

/-- Calls whose `[]string` arguments share no backing array keep each default key listed. -/
theorem configure_keepsDefaults (arrays : List (List String)) (host : String) (jwks : List JSONWebKey)
    (tokenKeyID idTokenKeyID header : String) (calls : List Call) (separate : SeparateArguments arrays calls) :
    KeepsDefaults (configure (new arrays host jwks tokenKeyID idTokenKeyID header) calls).config := by
  have start : Separated (new arrays host jwks tokenKeyID idTokenKeyID header) (calls.flatMap Call.slices ++ []) :=
    by simpa using new_separated separate host jwks tokenKeyID idTokenKeyID header
  exact (configure_separated calls start).keeps

/-- `ids := make([]string, 1, 2); ids[0] = "ps-key"`, then `New`, `AddUserInfoSignatureKeyIDs(ids...)`
    and `EnableJWTSecuredAuthorizationResponseMode(600, "jarm-key", ids...)`. -/
def sharedKeyIDsProvider : Builder :=
  configure (new [["ps-key", ""]] "https://op.example" [] "token-key" "id-token-key" "X-Correlation-ID")
    [.addUserInfoSignatureKeyIDs ⟨0, 0, 1, 2⟩, .enableJWTSecuredAuthorizationResponseMode 600 "jarm-key" ⟨0, 0, 1, 2⟩]

theorem sharedKeyIDs_drop_userInfo_default :
    (⟨0, 0, 1, 2⟩ : Slice).WellFormed [["ps-key", ""]] ∧
      sharedKeyIDsProvider.config.userInfoSignatureKeyIDs = ["ps-key", "jarm-key"] ∧
      sharedKeyIDsProvider.config.defaultUserInfoSignatureKeyID = "id-token-key" ∧
      sharedKeyIDsProvider.config.defaultUserInfoSignatureKeyID ∉
        sharedKeyIDsProvider.config.userInfoSignatureKeyIDs := by
  decide

/-! ### Which calls enable a client authentication method or a grant type -/

def Call.appendedClientAuthnMethod : Call → Option String
  | .enableNoneClientAuthn => some clientAuthnNone
  | .enableBasicSecretClientAuthn => some clientAuthnSecretBasic
  | .enableSecretPostClientAuthn => some clientAuthnSecretPost
  | .enablePrivateKeyJWTClientAuthn _ _ => some clientAuthnPrivateKeyJWT
  | .enableClientSecretJWTAuthn _ _ => some clientAuthnSecretBasic
  | .enableTLSClientAuthn => some clientAuthnTLS
  | .enableSelfSignedTLSClientAuthn => some clientAuthnSelfSignedTLS
  | _ => none

def Call.appendedGrantType : Call → Option String
  | .enableRefreshTokenGrantType _ _ => some grantRefreshToken
  | .enableImplicitGrantType => some grantImplicit
  | .enableTokenIntrospection _ => some grantIntrospection
  | _ => none

theorem apply_clientAuthnMethods (b : Builder) (call : Call) :
    (apply b call).config.clientAuthnMethods =
      b.config.clientAuthnMethods ++ call.appendedClientAuthnMethod.toList := by
  cases call <;> simp only [apply, Builder.update, requirePushedAuthorizationRequests, enablePushedAuthorizationRequests,
      requireJWTSecuredAuthorizationRequests, enableJWTSecuredAuthorizationRequests,
      requireDemonstrationProofOfPossesion, enableDemonstrationProofOfPossesion,
      requireProofKeyForCodeExchange, enableProofKeyForCodeExchange, enablePrivateKeyJWTClientAuthn,
      enableClientSecretJWTAuthn, appendClientAuthnMethod, Builder.config_clientAuthnMethods,
      Call.appendedClientAuthnMethod, Option.toList, List.append_nil] <;> rfl

theorem apply_grantTypes (b : Builder) (call : Call) :
    (apply b call).config.grantTypes = b.config.grantTypes ++ call.appendedGrantType.toList := by
  cases call <;> simp only [apply, Builder.update, requirePushedAuthorizationRequests, enablePushedAuthorizationRequests,
      requireJWTSecuredAuthorizationRequests, enableJWTSecuredAuthorizationRequests,
      requireDemonstrationProofOfPossesion, enableDemonstrationProofOfPossesion,
      requireProofKeyForCodeExchange, enableProofKeyForCodeExchange, enablePrivateKeyJWTClientAuthn,
      enableClientSecretJWTAuthn, appendClientAuthnMethod, Builder.config_grantTypes, Call.appendedGrantType,
      Option.toList, List.append_nil] <;> rfl

theorem clientAuthnMethods_configure (b : Builder) (calls : List Call) :
    (configure b calls).config.clientAuthnMethods =
      b.config.clientAuthnMethods ++ calls.filterMap Call.appendedClientAuthnMethod := by
  induction calls generalizing b with
  | nil => simp
  | cons call calls ih =>
    rw [configure_cons, ih, apply_clientAuthnMethods]
    cases appended : call.appendedClientAuthnMethod <;> simp [List.filterMap_cons, appended]

theorem grantTypes_configure (b : Builder) (calls : List Call) :
    (configure b calls).config.grantTypes = b.config.grantTypes ++ calls.filterMap Call.appendedGrantType := by
  induction calls generalizing b with
  | nil => simp
  | cons call calls ih =>
    rw [configure_cons, ih, apply_grantTypes]
    cases appended : call.appendedGrantType <;> simp [List.filterMap_cons, appended]

section FromNew
variable (arrays : List (List String)) (host : String) (jwks : List JSONWebKey)
  (tokenKeyID idTokenKeyID header : String) (calls : List Call)

theorem mem_clientAuthnMethods_configure (method : String) :
    method ∈ (configure (new arrays host jwks tokenKeyID idTokenKeyID header) calls).config.clientAuthnMethods ↔
      ∃ call ∈ calls, call.appendedClientAuthnMethod = some method := by
  rw [clientAuthnMethods_configure]
  simp [new, Builder.config]

theorem mem_grantTypes_configure (grantType : String) :
    grantType ∈ (configure (new arrays host jwks tokenKeyID idTokenKeyID header) calls).config.grantTypes ↔
      grantType = grantAuthorizationCode ∨ ∃ call ∈ calls, call.appendedGrantType = some grantType := by
  rw [grantTypes_configure]
  simp [new, Builder.config]

theorem clientSecretJWT_never_enabled :
    clientAuthnSecretJWT ∉
      (configure (new arrays host jwks tokenKeyID idTokenKeyID header) calls).config.clientAuthnMethods := by
  rw [mem_clientAuthnMethods_configure]
  rintro ⟨call, -, appended⟩
  cases call <;> simp [Call.appendedClientAuthnMethod] at appended <;> exact absurd appended (by decide)

end FromNew

/-- Enabling `client_secret_jwt` on a new provider enables `client_secret_basic` instead. -/
theorem clientSecretJWT_enables_secretBasic :
    clientAuthnSecretJWT ∉ (configure (new [] "https://op.example" [] "token-key" "id-token-key"
        "X-Correlation-ID") [.enableClientSecretJWTAuthn 60 ["HS256"]]).config.clientAuthnMethods ∧
      clientAuthnSecretBasic ∈ (configure (new [] "https://op.example" [] "token-key" "id-token-key"
        "X-Correlation-ID") [.enableClientSecretJWTAuthn 60 ["HS256"]]).config.clientAuthnMethods :=
  ⟨clientSecretJWT_never_enabled _ _ _ _ _ _ _,
    (mem_clientAuthnMethods_configure _ _ _ _ _ _ _ _).mpr ⟨_, List.mem_singleton_self _, rfl⟩⟩

end GoOidc.Provider
