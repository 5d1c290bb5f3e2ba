import GoOidc.Vocabulary

/-!
`utils.Configuration` without its host-supplied functions (the stores, the token options, the DCR
plugin and the policies' functions; a policy is its ID). The startup validator and DCR come from a
later revision that renamed some fields, and read them under the names here.
-/

namespace GoOidc

/-- A private key of the server; `valid` is go-jose's `Valid()`, whose key material is not modelled. -/
structure JSONWebKey where
  keyID : String
  use : String
  algorithm : String
  valid : Bool
  deriving DecidableEq, Repr

/-- `JSONWebKeySet.Key(kid)`: every key with the key ID, in order. -/
def keysByID (jwks : List JSONWebKey) (keyID : String) : List JSONWebKey :=
  jwks.filter (·.keyID = keyID)

structure Configuration where
  host : String
  profile : String
  oAuthScopes : List Scope
  privateJWKS : List JSONWebKey
  defaultTokenSignatureKeyID : String
  defaultUserInfoSignatureKeyID : String
  userInfoSignatureKeyIDs : List String
  idTokenExpiresInSecs : Int
  userClaims : List String
  grantTypes : List String
  responseTypes : List String
  responseModes : List String
  clientAuthnMethods : List String
  introspectionIsEnabled : Bool
  introspectionClientAuthnMethods : List String
  privateKeyJWTSignatureAlgorithms : List String
  privateKeyJWTAssertionLifetimeSecs : Int
  clientSecretJWTSignatureAlgorithms : List String
  clientSecretJWTAssertionLifetimeSecs : Int
  openIDScopeIsRequired : Bool
  userInfoEncryptionIsEnabled : Bool
  userInfoKeyEncryptionAlgorithms : List String
  userInfoContentEncryptionAlgorithms : List String
  shouldRotateRefreshTokens : Bool
  refreshTokenLifetimeSecs : Int
  claimTypes : List String
  issuerResponseParameterIsEnabled : Bool
  claimsParameterIsEnabled : Bool
  authorizationDetailsParameterIsEnabled : Bool
  authorizationDetailTypes : List String
  jarmIsEnabled : Bool
  defaultJARMSignatureKeyID : String
  jarmSignatureKeyIDs : List String
  jarmLifetimeSecs : Int
  jarmEncryptionIsEnabled : Bool
  jarmKeyEncrytionAlgorithms : List String
  jarmContentEncryptionAlgorithms : List String
  jarIsEnabled : Bool
  jarIsRequired : Bool
  jarSignatureAlgorithms : List String
  jarLifetimeSecs : Int
  jarEncryptionIsEnabled : Bool
  jarKeyEncryptionIDs : List String
  jarContentEncryptionAlgorithms : List String
  parIsEnabled : Bool
  parIsRequired : Bool
  parLifetimeSecs : Int
  dpopIsEnabled : Bool
  dpopIsRequired : Bool
  dpopLifetimeSecs : Int
  dpopSignatureAlgorithms : List String
  pkceIsEnabled : Bool
  pkceIsRequired : Bool
  codeChallengeMethods : List String
  subjectIdentifierTypes : List String
  policies : List String
  dcrIsEnabled : Bool
  shouldRotateRegistrationTokens : Bool
  authenticationSessionTimeoutSecs : Int
  mtlsIsEnabled : Bool
  mtlsHost : String
  tlsBoundTokensIsEnabled : Bool
  correlationIDHeader : String
  authenticationContextReferences : List String
  displayValues : List String
  senderConstrainedTokenIsRequired : Bool

end GoOidc
