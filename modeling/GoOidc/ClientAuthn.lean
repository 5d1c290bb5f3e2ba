import GoOidc.Vocabulary

/-!
`Authenticated` (`internal/clientutil/authn.go`) takes the client ID from every place a request
can carry one, requires them all equal (`extractID`), looks the client up, static clients first,
and checks it by its method; bcrypt and the checks of assertions and self-signed certificates
are the libraries' (`Jose`). The client returned has the ID of every identifier the request
carries (`authenticated_identifies_client`).
-/

namespace GoOidc.ClientAuthn

/-- The parts of the HTTP request client authentication reads. -/
structure Request where
  /-- `PostFormValue`: the form value, `""` when absent. -/
  postForm : String → String
  /-- `BasicAuth()`: the user and password when the header parses. -/
  basicAuth : Option (String × String)

def Request.basicID (r : Request) : String := (r.basicAuth.map Prod.fst).getD ""

/-- What the client certificate (`x509.Certificate`) offers to `tls_client_auth`. -/
structure Certificate where
  subject : String
  dnsNames : List String
  ipAddresses : List String
  deriving DecidableEq, Repr

inductive ClaimValue where
  | string (s : String)
  | other
  deriving DecidableEq, Repr

/-- `jwt.ParseSigned` or `UnsafeClaimsWithoutVerification` failed, or the claims' `iss` entry. -/
inductive UnverifiedAssertion where
  | unparsable
  | claimsUnreadable
  | claims (iss : Option ClaimValue)
  deriving DecidableEq, Repr

/-- The library calls client authentication makes, taken as given. -/
structure Jose where
  parseUnverified : String → List String → UnverifiedAssertion
  compareHashAndPassword : String → String → Bool
  /-- `authenticatePrivateKeyJWT` past the assertion: parse, key lookup, signature, `areClaimsValid`. -/
  verifyPrivateKeyJWT : Client → List String → String → Except OAuthError Unit
  verifySecretJWT : Client → List String → String → Except OAuthError Unit
  /-- `jwkMatchingCert` and `comparePublicKeys` for `self_signed_tls_client_auth`. -/
  verifySelfSignedCert : Client → Certificate → Except OAuthError Unit

structure ClientAuthnContext where
  request : Request
  staticClients : List Client
  clientManager : String → Except String Client
  /-- `ClientCert()`: the certificate or the error (no `ClientCertFunc` is an error). -/
  clientCert : Except String Certificate
  privateKeyJWTSigAlgs : List String
  clientSecretJWTSigAlgs : List String

namespace ClientAuthnContext

def idFormPostParam : String := "client_id"
def secretFormPostParam : String := "client_secret"
def assertionFormPostParam : String := "client_assertion"
def assertionTypeFormPostParam : String := "client_assertion_type"

def clientAuthnSigAlgs (ctx : ClientAuthnContext) : List String :=
  ctx.privateKeyJWTSigAlgs ++ ctx.clientSecretJWTSigAlgs

/-- `Context.Client`: the first static client with the ID, else the client store. -/
def client (ctx : ClientAuthnContext) (id : String) : Except String Client :=
  match ctx.staticClients.find? (·.id = id) with
  | some c => .ok c
  | none => ctx.clientManager id

end ClientAuthnContext

open ClientAuthnContext

section Authn
variable (lib : Jose) (ctx : ClientAuthnContext)

def invalidClient (description : String) : OAuthError := ⟨errorCodeInvalidClient, description⟩

def validateSecret (c : Client) (secret : String) : Except OAuthError Unit :=
  if lib.compareHashAndPassword c.hashedSecret secret then .ok ()
  else .error (invalidClient "invalid client secret")

def authenticateSecretPost (c : Client) : Except OAuthError Unit :=
  if c.id ≠ ctx.request.postForm idFormPostParam then .error (invalidClient "invalid client id")
  else
    let secret := ctx.request.postForm secretFormPostParam
    if secret = "" then .error (invalidClient "client secret not informed")
    else validateSecret lib c secret

def authenticateSecretBasic (c : Client) : Except OAuthError Unit :=
  match ctx.request.basicAuth with
  | none => .error (invalidClient "client basic authentication not informed")
  | some (id, secret) =>
    if c.id ≠ id then .error (invalidClient "invalid client id") else validateSecret lib c secret

/-- `assertion`: the form's assertion, when its type is the JWT bearer type. -/
def assertion : Except OAuthError String :=
  if ctx.request.postForm assertionTypeFormPostParam ≠ assertionTypeJWTBearer then
    .error (invalidClient "invalid assertion_type")
  else
    let a := ctx.request.postForm assertionFormPostParam
    if a = "" then .error (invalidClient "client_assertion not informed") else .ok a

def authenticatePrivateKeyJWT (c : Client) : Except OAuthError Unit := do
  let a ← assertion ctx
  let sigAlgs := if c.authnSigAlg ≠ "" then [c.authnSigAlg] else ctx.privateKeyJWTSigAlgs
  lib.verifyPrivateKeyJWT c sigAlgs a

def authenticateSecretJWT (c : Client) : Except OAuthError Unit := do
  let a ← assertion ctx
  let sigAlgs := if c.authnSigAlg ≠ "" then [c.authnSigAlg] else ctx.clientSecretJWTSigAlgs
  lib.verifySecretJWT c sigAlgs a

def authenticateSelfSignedTLSCert (c : Client) : Except OAuthError Unit :=
  if c.id ≠ ctx.request.postForm idFormPostParam then .error (invalidClient "invalid client id")
  else match ctx.clientCert with
    | .error _ => .error (invalidClient "invalid client certificate")
    | .ok cert => lib.verifySelfSignedCert c cert

/-- `authenticateTLSCert`: the subject DN, else the DNS SAN; a client with neither is refused. -/
def authenticateTLSCert (c : Client) : Except OAuthError Unit :=
  if c.id ≠ ctx.request.postForm idFormPostParam then .error (invalidClient "invalid client id")
  else match ctx.clientCert with
    | .error _ => .error (invalidClient "invalid client certificate")
    | .ok cert =>
      if c.tlsSubDistinguishedName ≠ "" then
        if c.tlsSubDistinguishedName ≠ cert.subject then
          .error (invalidClient "invalid distinguished name")
        else .ok ()
      else if c.tlsSubAlternativeName ≠ "" then
        if c.tlsSubAlternativeName ∉ cert.dnsNames then
          .error (invalidClient "invalid alternative name")
        else .ok ()
      else .error (invalidClient "client is missing attributes for tls authn")

def authenticate (c : Client) : Except OAuthError Unit :=
  if c.authnMethod = clientAuthnNone then .ok ()
  else if c.authnMethod = clientAuthnSecretPost then authenticateSecretPost lib ctx c
  else if c.authnMethod = clientAuthnSecretBasic then authenticateSecretBasic lib ctx c
  else if c.authnMethod = clientAuthnPrivateKeyJWT then authenticatePrivateKeyJWT lib ctx c
  else if c.authnMethod = clientAuthnSecretJWT then authenticateSecretJWT lib ctx c
  else if c.authnMethod = clientAuthnSelfSignedTLS then authenticateSelfSignedTLSCert lib ctx c
  else if c.authnMethod = clientAuthnTLS then authenticateTLSCert ctx c
  else .error (invalidClient "invalid authentication method")

def assertionClientID (a : String) (sigAlgs : List String) : Except OAuthError String :=
  match lib.parseUnverified a sigAlgs with
  | .unparsable => .error (invalidClient "could not parse the client assertion")
  | .claimsUnreadable => .error (invalidClient "could not parse the client assertion claims")
  | .claims (some (.string iss)) => .ok iss
  | .claims _ => .error (invalidClient "invalid claim 'iss' in the client assertion")

def all (slice : List String) (condition : String → Bool) : Bool := slice.all condition

def allEquals : List String → Bool
  | [] => true
  | v :: rest => all (v :: rest) (· = v)

def collectIDs : Except OAuthError (List String) :=
  let postID := ctx.request.postForm idFormPostParam
  let basicID := ctx.request.basicID
  let ids := (if postID ≠ "" then [postID] else []) ++ (if basicID ≠ "" then [basicID] else [])
  let a := ctx.request.postForm assertionFormPostParam
  if a ≠ "" then (fun assertionID => ids ++ [assertionID]) <$>
    assertionClientID lib a ctx.clientAuthnSigAlgs
  else .ok ids

/-- `extractID`: all the client IDs present must be equal; `ids[0]` is the one returned. -/
def extractID : Except OAuthError String := do
  let ids ← collectIDs lib ctx
  match ids with
  | [] => .error (invalidClient "invalid client id")
  | id :: rest => if allEquals (id :: rest) then .ok id else .error (invalidClient "invalid client id")

def authenticated : Except OAuthError Client := do
  let id ← extractID lib ctx
  let client ← match ctx.client id with
    | .error _ => .error (invalidClient "client not found")
    | .ok c => .ok c
  authenticate lib ctx client
  pure client

end Authn

section Identifiers
variable (lib : Jose) (ctx : ClientAuthnContext)

/-- The form's `client_id`, the Basic user and the assertion's unverified `iss`, when not empty. -/
def Carries (id : String) : Prop :=
  (ctx.request.postForm idFormPostParam = id ∧ id ≠ "") ∨
  (ctx.request.basicID = id ∧ id ≠ "") ∨
  (ctx.request.postForm assertionFormPostParam ≠ "" ∧
    lib.parseUnverified (ctx.request.postForm assertionFormPostParam) ctx.clientAuthnSigAlgs =
      .claims (some (.string id)))

private theorem mem_nonEmpty (p x : String) : x ∈ (if p ≠ "" then [p] else []) ↔ p = x ∧ x ≠ "" := by
  constructor
  · intro mem
    by_cases empty : p = "" <;> simp_all
  · rintro ⟨rfl, nonEmpty⟩
    simp [nonEmpty]

theorem assertionClientID_eq_ok {a : String} {algs : List String} {iss : String} :
    assertionClientID lib a algs = .ok iss ↔ lib.parseUnverified a algs = .claims (some (.string iss)) := by
  unfold assertionClientID
  split <;> simp_all

theorem assertionClientID_error {a : String} {algs : List String} {e : OAuthError}
    (failed : assertionClientID lib a algs = .error e) : e.code = errorCodeInvalidClient := by
  unfold assertionClientID at failed
  split at failed <;> cases failed <;> rfl

theorem collectIDs_mem {ids : List String} (collected : collectIDs lib ctx = .ok ids) (x : String) :
    x ∈ ids ↔ Carries lib ctx x := by
  unfold collectIDs at collected
  unfold Carries
  by_cases present : ctx.request.postForm assertionFormPostParam = ""
  · simp only [present, ne_eq, not_true_eq_false, if_false, Except.ok.injEq] at collected
    subst collected
    simp only [List.mem_append, mem_nonEmpty, present, ne_eq, not_true_eq_false,
      false_and, or_false]
  · simp only [present, ne_eq, not_false_eq_true, if_true] at collected
    cases parsed : assertionClientID lib (ctx.request.postForm assertionFormPostParam) ctx.clientAuthnSigAlgs with
    | error e => simp [parsed] at collected
    | ok iss =>
      simp only [parsed, Functor.map, Except.map, Except.ok.injEq] at collected
      subst collected
      rw [assertionClientID_eq_ok] at parsed
      simp only [List.mem_append, mem_nonEmpty, List.mem_singleton, parsed, present, ne_eq,
        not_false_eq_true, true_and, UnverifiedAssertion.claims.injEq, Option.some.injEq, ClaimValue.string.injEq, or_assoc]
      exact or_congr_right (or_congr_right eq_comm)

theorem collectIDs_error {e : OAuthError} (failed : collectIDs lib ctx = .error e) :
    e.code = errorCodeInvalidClient := by
  unfold collectIDs at failed
  by_cases present : ctx.request.postForm assertionFormPostParam = ""
  · simp [present] at failed
  · simp only [present, ne_eq, not_false_eq_true, if_true] at failed
    cases parsed : assertionClientID lib (ctx.request.postForm assertionFormPostParam)
      ctx.clientAuthnSigAlgs with
    | error e' =>
      simp only [parsed, Functor.map, Except.map, Except.error.injEq] at failed
      exact failed ▸ assertionClientID_error lib parsed
    | ok iss => simp [parsed, Functor.map, Except.map] at failed

theorem allEquals_cons (v : String) (rest : List String) :
    allEquals (v :: rest) = true ↔ ∀ x ∈ v :: rest, x = v := by
  simp [allEquals, all]

theorem extractID_eq_ok {id : String} (extracted : extractID lib ctx = .ok id) (x : String) :
    Carries lib ctx x ↔ x = id := by
  unfold extractID at extracted
  cases collected : collectIDs lib ctx with
  | error e => simp [collected, bind, Except.bind] at extracted
  | ok ids =>
    simp only [collected, bind, Except.bind] at extracted
    match ids, extracted with
    | v :: rest, extracted =>
      by_cases equal : allEquals (v :: rest) = true
      · simp only [equal, if_true, Except.ok.injEq] at extracted
        subst extracted
        rw [← collectIDs_mem lib ctx collected]
        exact ⟨(allEquals_cons v rest).mp equal x, fun same => same ▸ List.mem_cons_self _ _⟩
      · simp [equal] at extracted

theorem extractID_error {e : OAuthError} (failed : extractID lib ctx = .error e) :
    e.code = errorCodeInvalidClient := by
  unfold extractID at failed
  cases collected : collectIDs lib ctx with
  | error e' =>
    simp only [collected, bind, Except.bind, Except.error.injEq] at failed
    exact failed ▸ collectIDs_error lib ctx collected
  | ok ids =>
    simp only [collected, bind, Except.bind] at failed
    match ids, failed with
    | [], failed => cases failed; rfl
    | v :: rest, failed =>
      by_cases equal : allEquals (v :: rest) = true
      · simp [equal] at failed
      · simp only [equal, if_false, Bool.false_eq_true, Except.error.injEq] at failed
        exact failed ▸ rfl

/-- What the client registry promises: the store returns for an ID only a client with it. -/
def LookupKeepsID : Prop := ∀ id c, ctx.clientManager id = .ok c → c.id = id

theorem client_id_eq {id : String} {c : Client} (keeps : LookupKeepsID ctx)
    (found : ctx.client id = .ok c) : c.id = id := by
  unfold ClientAuthnContext.client at found
  cases static : ctx.staticClients.find? (·.id = id) with
  | some s =>
    simp only [static, Except.ok.injEq] at found
    subst found
    simpa using List.find?_some static
  | none =>
    simp only [static] at found
    exact keeps id c found

/-- The client returned has every carried ID; none, or two that differ, give `invalid_client`. -/
def IdentifiesClient : Prop :=
  (∀ c, authenticated lib ctx = .ok c → ∀ id, Carries lib ctx id → c.id = id) ∧
  ((¬ ∃ id, Carries lib ctx id) ∨ (∃ a b, Carries lib ctx a ∧ Carries lib ctx b ∧ a ≠ b) →
    ∃ e, authenticated lib ctx = .error e ∧ e.code = errorCodeInvalidClient)

theorem authenticated_eq_ok {c : Client} (ok : authenticated lib ctx = .ok c) :
    ∃ id, extractID lib ctx = .ok id ∧ ctx.client id = .ok c := by
  unfold authenticated at ok
  cases extracted : extractID lib ctx with
  | error e => simp [extracted, bind, Except.bind] at ok
  | ok id =>
    cases found : ctx.client id with
    | error _ => simp [extracted, found, bind, Except.bind] at ok
    | ok c' =>
      cases authn : authenticate lib ctx c' <;>
        simp [extracted, found, authn, bind, Except.bind, pure, Except.pure] at ok
      exact ⟨id, rfl, ok ▸ found⟩

theorem authenticated_identifies_client (keeps : LookupKeepsID ctx) : IdentifiesClient lib ctx := by
  constructor
  · intro c ok id carried
    obtain ⟨id', extracted, found⟩ := authenticated_eq_ok lib ctx ok
    rw [client_id_eq ctx keeps found]
    exact ((extractID_eq_ok lib ctx extracted id).mp carried).symm
  · intro refused
    cases extracted : extractID lib ctx with
    | error e =>
      exact ⟨e, by simp [authenticated, extracted, bind, Except.bind], extractID_error lib ctx extracted⟩
    | ok id =>
      have carries := extractID_eq_ok lib ctx extracted
      exfalso
      rcases refused with nothing | ⟨a, b, first, second, differ⟩
      · exact nothing ⟨id, (carries id).mpr rfl⟩
      · exact differ (((carries a).mp first).trans ((carries b).mp second).symm)

end Identifiers

/-! ### Certificate-bound clients -/

/-- What `authenticateTLSCert` compares; the IP SAN never. -/
def MatchesTLSIdentity (c : Client) (cert : Certificate) : Prop :=
  if c.tlsSubDistinguishedName ≠ "" then c.tlsSubDistinguishedName = cert.subject
  else c.tlsSubAlternativeName ≠ "" ∧ c.tlsSubAlternativeName ∈ cert.dnsNames

theorem authenticateTLSCert_eq_ok_iff {ctx : ClientAuthnContext} {c : Client} :
    authenticateTLSCert ctx c = .ok () ↔
      c.id = ctx.request.postForm ClientAuthnContext.idFormPostParam ∧
        ∃ cert, ctx.clientCert = .ok cert ∧ MatchesTLSIdentity c cert := by
  unfold authenticateTLSCert MatchesTLSIdentity
  by_cases sameID : c.id = ctx.request.postForm ClientAuthnContext.idFormPostParam <;>
    cases ctx.clientCert <;> by_cases dn : c.tlsSubDistinguishedName = "" <;>
    by_cases dns : c.tlsSubAlternativeName = "" <;> simp [sameID, dn, dns]

/-! ### A registry of one client -/

def publicClient : Client where
  id := "c1"
  secret := ""
  hashedSecret := ""
  authnMethod := clientAuthnNone
  authnSigAlg := ""
  grantTypes := [grantAuthorizationCode]
  tlsSubDistinguishedName := ""
  tlsSubAlternativeName := ""
  tlsSubAlternativeNameIp := ""
  idTokenSignatureAlgorithm := ""
  userInfoSignatureAlgorithm := ""
  jarmSignatureAlgorithm := ""

def singleClientContext : ClientAuthnContext where
  request := ⟨fun key => if key = idFormPostParam then "c1" else "", none⟩
  staticClients := []
  clientManager := fun id => if id = "c1" then .ok publicClient else .error "entity not found"
  clientCert := .error "the client certificate function was not defined"
  privateKeyJWTSigAlgs := []
  clientSecretJWTSigAlgs := []

def refusingJose : Jose where
  parseUnverified := fun _ _ => .unparsable
  compareHashAndPassword := fun _ _ => false
  verifyPrivateKeyJWT := fun _ _ _ => .error (invalidClient "invalid assertion")
  verifySecretJWT := fun _ _ _ => .error (invalidClient "invalid assertion")
  verifySelfSignedCert := fun _ _ => .error (invalidClient "invalid certificate")

theorem singleClient_identifies :
    LookupKeepsID singleClientContext ∧ IdentifiesClient refusingJose singleClientContext := by
  have keeps : LookupKeepsID singleClientContext := by
    intro id c found
    simp only [singleClientContext] at found
    split at found
    · rename_i named
      cases found
      exact named.symm
    · cases found
  exact ⟨keeps, authenticated_identifies_client _ _ keeps⟩

end GoOidc.ClientAuthn
