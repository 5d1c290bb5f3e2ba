import GoOidc.Provider

/-!
How the server picks its signing keys (`utils/context.go`): by key ID for access tokens, and by the
client's algorithm for ID tokens, UserInfo and JARM, else a default key. The loop of
`getPrivateKeyBasedOnAlgorithmOrDefault` returns the first listed key whatever its algorithm
(`idTokenSignatureKey_ignores_algorithm`); the newer revision selects by algorithm.
-/

namespace GoOidc.KeyRing

section Keys
variable (c : Configuration)

/-- `getPrivateKey`: `keys[0]` of the keys with the ID, `none` where Go panics. -/
def getPrivateKey (keyID : String) : Option JSONWebKey := (keysByID c.privateJWKS keyID).head?

/-- `GetTokenSignatureKey`: the key the token options name, when a signing key, else the default. -/
def getTokenSignatureKey (jwtSignatureKeyID : String) : Option JSONWebKey :=
  if jwtSignatureKeyID = "" then getPrivateKey c c.defaultTokenSignatureKeyID
  else match keysByID c.privateJWKS jwtSignatureKeyID with
    | key :: _ => if key.use ≠ keyUsageSignature then getPrivateKey c c.defaultTokenSignatureKeyID
      else some key
    | [] => getPrivateKey c c.defaultTokenSignatureKeyID

def getPrivateKeyBasedOnAlgorithmOrDefault (signatureAlgorithm defaultKeyID : String)
    (keyIDs : List String) : Option JSONWebKey :=
  if signatureAlgorithm ≠ "" then
    match keyIDs with
    | keyID :: _ => getPrivateKey c keyID
    | [] => getPrivateKey c defaultKeyID
  else getPrivateKey c defaultKeyID

def getUserInfoSignatureKey (client : Client) : Option JSONWebKey :=
  getPrivateKeyBasedOnAlgorithmOrDefault c client.userInfoSignatureAlgorithm
    c.defaultUserInfoSignatureKeyID c.userInfoSignatureKeyIDs

def getIDTokenSignatureKey (client : Client) : Option JSONWebKey :=
  getPrivateKeyBasedOnAlgorithmOrDefault c client.idTokenSignatureAlgorithm
    c.defaultUserInfoSignatureKeyID c.userInfoSignatureKeyIDs

def getJARMSignatureKey (client : Client) : Option JSONWebKey :=
  getPrivateKeyBasedOnAlgorithmOrDefault c client.jarmSignatureAlgorithm
    c.defaultJARMSignatureKeyID c.jarmSignatureKeyIDs

def getSignatureAlgorithms (keyIDs : List String) : Option (List String) :=
  keyIDs.mapM fun keyID => (getPrivateKey c keyID).map (·.algorithm)

def getKeyEncryptionAlgorithms (keyIDs : List String) : Option (List String) :=
  getSignatureAlgorithms c keyIDs

def getUserInfoSignatureAlgorithms : Option (List String) :=
  getSignatureAlgorithms c c.userInfoSignatureKeyIDs

def getJARMSignatureAlgorithms : Option (List String) := getSignatureAlgorithms c c.jarmSignatureKeyIDs

def getJARKeyEncryptionAlgorithms : Option (List String) :=
  getKeyEncryptionAlgorithms c c.jarKeyEncryptionIDs

end Keys

/-! ### What the selection returns -/

section Selection
variable {c : Configuration} {signatureAlgorithm defaultKeyID : String}

theorem getPrivateKeyBasedOnAlgorithmOrDefault_of_empty (keyIDs : List String) :
    getPrivateKeyBasedOnAlgorithmOrDefault c "" defaultKeyID keyIDs = getPrivateKey c defaultKeyID := by
  simp [getPrivateKeyBasedOnAlgorithmOrDefault]

theorem getPrivateKeyBasedOnAlgorithmOrDefault_of_cons (requested : signatureAlgorithm ≠ "")
    (keyID : String) (rest : List String) :
    getPrivateKeyBasedOnAlgorithmOrDefault c signatureAlgorithm defaultKeyID (keyID :: rest) =
      getPrivateKey c keyID := by
  simp [getPrivateKeyBasedOnAlgorithmOrDefault, requested]

end Selection

/-! ### The newer revision (`unnamed/part_002`): selection by algorithm -/

structure SigningContext where
  privateJWKS : List JSONWebKey
  userDefaultSigAlg : String
  userSigAlgs : List String
  jarmDefaultSigAlg : String

namespace SigningContext
variable (ctx : SigningContext)

def sigAlgs : List String := (ctx.privateJWKS.filter (·.use = keyUsageSignature)).map (·.algorithm)

def privateKey (keyID : String) : Option JSONWebKey := (keysByID ctx.privateJWKS keyID).head?

/-- `privateKeyByAlg`: the first key with the algorithm, whatever its use. -/
def privateKeyByAlg (alg : String) : Option JSONWebKey := ctx.privateJWKS.find? (·.algorithm = alg)

def userSigKey : Option JSONWebKey := ctx.privateKeyByAlg ctx.userDefaultSigAlg

def sigKeyForClient (defaultKey : Option JSONWebKey) (clientAlg : String) : Option JSONWebKey :=
  if clientAlg = "" then defaultKey else ctx.privateKeyByAlg clientAlg

def userInfoSigKeyForClient (c : Client) : Option JSONWebKey :=
  ctx.sigKeyForClient ctx.userSigKey c.userInfoSignatureAlgorithm

def idTokenSigKeyForClient (c : Client) : Option JSONWebKey :=
  ctx.sigKeyForClient ctx.userSigKey c.idTokenSignatureAlgorithm

def jarmSigKeyForClient (c : Client) : Option JSONWebKey :=
  ctx.sigKeyForClient (ctx.privateKeyByAlg ctx.jarmDefaultSigAlg) c.jarmSignatureAlgorithm

def userInfoSigAlgsContainsNone : Bool := ctx.userSigAlgs.contains "none"

theorem privateKeyByAlg_spec (alg : String) :
    (∀ key ∈ ctx.privateKeyByAlg alg, key ∈ ctx.privateJWKS ∧ key.algorithm = alg) ∧
      (ctx.privateKeyByAlg alg = none ↔ ∀ key ∈ ctx.privateJWKS, key.algorithm ≠ alg) :=
  ⟨fun _ found => ⟨List.mem_of_find?_eq_some found, by simpa using List.find?_some found⟩,
    by simp [privateKeyByAlg]⟩

theorem sigKeyForClient_eq (defaultAlg clientAlg : String) :
    ctx.sigKeyForClient (ctx.privateKeyByAlg defaultAlg) clientAlg =
      ctx.privateKeyByAlg (if clientAlg = "" then defaultAlg else clientAlg) := by
  unfold sigKeyForClient
  split_ifs <;> rfl

end SigningContext

/-! ### Two ID-token keys, one per algorithm -/

def rsKey : JSONWebKey := ⟨"rs", keyUsageSignature, "RS256", true⟩
def psKey : JSONWebKey := ⟨"ps", keyUsageSignature, "PS256", true⟩

/-- `New`, then `AddUserInfoSignatureKeyIDs("rs", "ps")`, whose arguments Go passes in a new array. -/
def twoKeyProvider : Configuration :=
  (Provider.configure (Provider.new [["rs", "ps"]] "https://op.example" [rsKey, psKey] "rs" "rs" "X-Correlation-ID")
    [.addUserInfoSignatureKeyIDs ⟨0, 0, 2, 2⟩]).config

def psClient : Client where
  id := "ps-client"
  secret := ""
  hashedSecret := ""
  authnMethod := clientAuthnPrivateKeyJWT
  authnSigAlg := ""
  grantTypes := [grantAuthorizationCode]
  tlsSubDistinguishedName := ""
  tlsSubAlternativeName := ""
  tlsSubAlternativeNameIp := ""
  idTokenSignatureAlgorithm := "PS256"
  userInfoSignatureAlgorithm := ""
  jarmSignatureAlgorithm := ""

/-- Each ID names one key, the algorithms differ, and PS256 is offered; the RS256 key signs. -/
theorem idTokenSignatureKey_ignores_algorithm :
    twoKeyProvider.defaultUserInfoSignatureKeyID = "rs" ∧
      twoKeyProvider.userInfoSignatureKeyIDs = ["rs", "ps"] ∧
      keysByID twoKeyProvider.privateJWKS "rs" = [rsKey] ∧
      keysByID twoKeyProvider.privateJWKS "ps" = [psKey] ∧
      getUserInfoSignatureAlgorithms twoKeyProvider = some ["RS256", "PS256"] ∧
      getIDTokenSignatureKey twoKeyProvider psClient = some rsKey ∧
      rsKey.algorithm ≠ psClient.idTokenSignatureAlgorithm := by
  decide

end GoOidc.KeyRing
