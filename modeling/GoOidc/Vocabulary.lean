import Mathlib.Data.List.Basic

/-!
The strings the server speaks (grant types, response types, client authentication methods),
the helpers of `pkg/goidc/function.go` that split and compare them, the client record, and
`Result`, the three ways a Go call ends: a value, an error value, or a run-time panic. Go's
named string types are `String` here, as the code compares them with `==`.
-/

namespace GoOidc

/-! ### Results of Go calls -/

/-- A Go call returns a value, returns an error, or panics (an index out of range). -/
inductive Result (ε α : Type) where
  | ok (value : α)
  | error (err : ε)
  | panic
  deriving DecidableEq, Repr

namespace Result
variable {ε α β : Type}

/-- Go's `if err != nil { return err }`: the rest runs only on a value. -/
def bind : Result ε α → (α → Result ε β) → Result ε β
  | .ok a, f => f a
  | .error e, _ => .error e
  | .panic, _ => .panic

instance : Monad (Result ε) where
  pure := .ok
  bind := bind

@[simp] theorem pure_eq (a : α) : (pure a : Result ε α) = .ok a := rfl
@[simp] theorem ok_bind (a : α) (f : α → Result ε β) : (Result.ok a >>= f) = f a := rfl
@[simp] theorem error_bind (e : ε) (f : α → Result ε β) : (Result.error e >>= f) = .error e := rfl
@[simp] theorem panic_bind (f : α → Result ε β) : ((Result.panic : Result ε α) >>= f) = .panic := rfl

theorem bind_eq_ok {x : Result ε α} {f : α → Result ε β} {b : β} :
    (x >>= f) = .ok b ↔ ∃ a, x = .ok a ∧ f a = .ok b := by
  cases x <;> simp

@[simp] theorem exists_eq_ok_unit {x : Result ε PUnit} : (∃ u, x = .ok u) ↔ x = .ok ⟨⟩ :=
  ⟨fun ⟨⟨⟩, h⟩ => h, fun h => ⟨_, h⟩⟩

@[simp] theorem ite_error_eq_ok {c : Prop} [Decidable c] {e : ε} {x : Result ε α} {a : α} :
    (if c then .error e else x) = .ok a ↔ ¬c ∧ x = .ok a := by
  by_cases c <;> simp [*]

@[simp] theorem ite_else_error_eq_ok {c : Prop} [Decidable c] {e : ε} {x : Result ε α} {a : α} :
    (if c then x else .error e) = .ok a ↔ c ∧ x = .ok a := by
  by_cases c <;> simp [*]

theorem forM_eq_ok {xs : List α} {f : α → Result ε PUnit} :
    xs.forM f = .ok ⟨⟩ ↔ ∀ x ∈ xs, f x = .ok ⟨⟩ := by
  induction xs with
  | nil => simp
  | cons x xs ih =>
    simp only [List.forM_cons', bind_eq_ok, ih, List.mem_cons, forall_eq_or_imp]
    exact ⟨fun ⟨⟨⟩, first, rest⟩ => ⟨first, rest⟩, fun ⟨first, rest⟩ => ⟨_, first, rest⟩⟩

theorem bind_eq_panic {x : Result ε α} {f : α → Result ε β} :
    (x >>= f) = .panic ↔ x = .panic ∨ ∃ a, x = .ok a ∧ f a = .panic := by
  cases x <;> simp

@[simp] theorem ite_error_eq_panic {c : Prop} [Decidable c] {e : ε} {x : Result ε α} :
    (if c then .error e else x) = .panic ↔ ¬c ∧ x = .panic := by
  by_cases c <;> simp [*]

@[simp] theorem ite_else_error_eq_panic {c : Prop} [Decidable c] {e : ε} {x : Result ε α} :
    (if c then x else .error e) = .panic ↔ c ∧ x = .panic := by
  by_cases c <;> simp [*]

theorem bind_ne_panic {x : Result ε α} {f : α → Result ε β} (first : x ≠ .panic)
    (rest : ∀ a, f a ≠ .panic) : (x >>= f) ≠ .panic := by
  rw [Ne, bind_eq_panic]
  rintro (panics | ⟨a, -, panics⟩)
  exacts [first panics, rest a panics]

theorem ite_ne_panic {c : Prop} [Decidable c] {x y : Result ε α} (yes : x ≠ .panic) (no : y ≠ .panic) :
    (if c then x else y) ≠ .panic := by
  split <;> assumption

theorem forM_ne_panic {xs : List α} {f : α → Result ε PUnit} (body : ∀ x ∈ xs, f x ≠ .panic) :
    xs.forM f ≠ .panic := by
  induction xs with
  | nil => nofun
  | cons x xs ih =>
    rw [List.forM_cons']
    exact bind_ne_panic (body x (List.mem_cons_self _ _))
      fun _ => ih fun y member => body y (List.mem_cons_of_mem _ member)

end Result

theorem except_bind_eq_ok {ε α β : Type} {x : Except ε α} {f : α → Except ε β} {b : β} :
    (x >>= f) = .ok b ↔ ∃ a, x = .ok a ∧ f a = .ok b := by
  cases x <;> simp [bind, Except.bind]

@[simp] theorem except_ite_error_eq_ok {ε α : Type} {c : Prop} [Decidable c] {e : ε} {x : Except ε α} {a : α} :
    (if c then .error e else x) = .ok a ↔ ¬c ∧ x = .ok a := by
  by_cases c <;> simp [*]

theorem option_any_eq_false {α : Type} {p : α → Bool} {o : Option α} : o.any p = false ↔ ∀ a ∈ o, p a = false := by
  cases o <;> simp

/-! ### Strings -/

/-- The pieces of a character list between the separators, empty pieces included. -/
def splitChars (sep : Char) : List Char → List (List Char)
  | [] => [[]]
  | c :: cs =>
    if c = sep then [] :: splitChars sep cs
    else match splitChars sep cs with
      | w :: ws => (c :: w) :: ws
      | [] => [[c]]

theorem splitChars_of_not_mem {sep : Char} : ∀ {cs : List Char}, sep ∉ cs → splitChars sep cs = [cs]
  | [], _ => rfl
  | c :: cs, absent => by
    have other : c ≠ sep := fun same => absent (same ▸ List.mem_cons_self _ _)
    simp [splitChars, other, splitChars_of_not_mem (fun member => absent (List.mem_cons_of_mem _ member))]

theorem splitChars_eq_splitOn (sep : Char) : ∀ cs : List Char, splitChars sep cs = cs.splitOn sep
  | [] => rfl
  | c :: cs => by
    simp only [splitChars, List.splitOn, List.splitOnP_cons, beq_iff_eq]
    rw [splitChars_eq_splitOn sep cs]
    split_ifs
    · rfl
    · unfold List.splitOn
      cases h : cs.splitOnP (· == sep) with
      | nil => exact absurd h (List.splitOnP_ne_nil _ _)
      | cons w ws => rfl

theorem not_mem_of_mem_splitChars {sep : Char} : ∀ {cs : List Char} {piece : List Char},
    piece ∈ splitChars sep cs → sep ∉ piece
  | [], piece, member => by simp [splitChars] at member; simp [member]
  | c :: cs, piece, member => by
    unfold splitChars at member
    split_ifs at member with isSep
    · rcases List.mem_cons.mp member with rfl | rest
      · simp
      · exact not_mem_of_mem_splitChars rest
    · split at member
      · next w ws split =>
        rcases List.mem_cons.mp member with rfl | rest
        · simp only [List.mem_cons, not_or]
          exact ⟨Ne.symm isSep, not_mem_of_mem_splitChars (split ▸ List.mem_cons_self w ws)⟩
        · exact not_mem_of_mem_splitChars (split ▸ List.mem_cons_of_mem w rest)
      · simp only [List.mem_singleton] at member
        subst member
        simpa using Ne.symm isSep

theorem splitChars_eq_pair_iff {sep : Char} {cs first second : List Char} :
    splitChars sep cs = [first, second] ↔ cs = first ++ sep :: second ∧ sep ∉ first ∧ sep ∉ second := by
  constructor
  · intro split
    refine ⟨?_, not_mem_of_mem_splitChars (split ▸ List.mem_cons_self _ _),
      not_mem_of_mem_splitChars (split ▸ List.mem_cons_of_mem _ (List.mem_singleton_self _))⟩
    have joined := List.intercalate_splitOn cs sep
    rw [← splitChars_eq_splitOn, split] at joined
    simpa [List.intercalate] using joined.symm
  · rintro ⟨rfl, freeFirst, freeSecond⟩
    rw [splitChars_eq_splitOn]
    simpa [List.intercalate] using
      List.splitOn_intercalate [first, second] sep (by simp [freeFirst, freeSecond]) (by simp)

/-- `strings.Split(s, " ")`: two spaces give an empty piece, the empty string one empty piece. -/
def split (s : String) : List String := (splitChars ' ' s.toList).map String.mk

/-- `SplitStringWithSpaces`: no scopes when `s` is only spaces, else `strings.Split(s, " ")`. -/
def splitStringWithSpaces (s : String) : List String :=
  if s.toList.any (· ≠ ' ') then split s else []

def hasPrefix (s pre : String) : Bool := pre.toList.isPrefixOf s.toList

/-- `ContainsAll`: false at the first element of `subSet` missing from `superSet`. -/
def containsAll (superSet subSet : List String) : Bool :=
  subSet.all fun e => decide (e ∈ superSet)

@[simp] theorem containsAll_iff (superSet subSet : List String) :
    containsAll superSet subSet = true ↔ ∀ e ∈ subSet, e ∈ superSet := by
  simp [containsAll]

def containsAllScopes (scopesSuperSet scopesSubSet : String) : Bool :=
  containsAll (splitStringWithSpaces scopesSuperSet) (splitStringWithSpaces scopesSubSet)

/-! ### Scopes -/

/-- `Scope`; its `Matches` function is not modelled, only its identifier. -/
structure Scope where
  id : String
  deriving DecidableEq, Repr

def scopeOpenID : Scope := ⟨"openid"⟩
def scopeOfflineAccess : Scope := ⟨"offline_access"⟩

def scopesContainsOpenID (scopes : String) : Bool :=
  decide (scopeOpenID.id ∈ splitStringWithSpaces scopes)

def scopesContainsOfflineAccess (scopes : String) : Bool :=
  decide (scopeOfflineAccess.id ∈ splitStringWithSpaces scopes)

/-! ### Protocol constants -/

def grantClientCredentials : String := "client_credentials"
def grantAuthorizationCode : String := "authorization_code"
def grantRefreshToken : String := "refresh_token"
def grantImplicit : String := "implicit"
def grantIntrospection : String := "urn:goidc:oauth2:grant_type:token_intropection"

def responseTypeCode : String := "code"
def responseTypeIDToken : String := "id_token"
def responseTypeToken : String := "token"
def responseTypeCodeAndIDToken : String := "code id_token"
def responseTypeCodeAndToken : String := "code token"
def responseTypeIDTokenAndToken : String := "id_token token"
def responseTypeCodeAndIDTokenAndToken : String := "code id_token token"

def ResponseType.contains (rt responseType : String) : Bool :=
  decide (responseType ∈ split rt)

def ResponseType.isImplicit (rt : String) : Bool :=
  ResponseType.contains rt responseTypeIDToken || ResponseType.contains rt responseTypeToken

def responseModeQuery : String := "query"
def responseModeFragment : String := "fragment"
def responseModeFormPost : String := "form_post"
def responseModeQueryJWT : String := "query.jwt"
def responseModeFragmentJWT : String := "fragment.jwt"
def responseModeFormPostJWT : String := "form_post.jwt"
def responseModeJWT : String := "jwt"

/-- `ResponseType.DefaultResponseMode`: the fragment with an implicit part, else the query (JWT forms under JARM). -/
def ResponseType.defaultResponseMode (rt : String) (jarm : Bool) : String :=
  if ResponseType.isImplicit rt then
    if jarm then responseModeFragmentJWT else responseModeFragment
  else if jarm then responseModeQueryJWT else responseModeQuery

def ResponseMode.isJARM (rm : String) : Bool :=
  rm = responseModeQueryJWT || rm = responseModeFragmentJWT || rm = responseModeFormPostJWT ||
    rm = responseModeJWT

def ResponseMode.isQuery (rm : String) : Bool := rm = responseModeQuery || rm = responseModeQueryJWT

def clientAuthnNone : String := "none"
def clientAuthnSecretBasic : String := "client_secret_basic"
def clientAuthnSecretPost : String := "client_secret_post"
def clientAuthnSecretJWT : String := "client_secret_jwt"
def clientAuthnPrivateKeyJWT : String := "private_key_jwt"
def clientAuthnTLS : String := "tls_client_auth"
def clientAuthnSelfSignedTLS : String := "self_signed_tls_client_auth"

def assertionTypeJWTBearer : String := "urn:ietf:params:oauth:client-assertion-type:jwt-bearer"

def statusSuccess : String := "success"
def statusInProgress : String := "in_progress"
def statusFailure : String := "failure"

def profileOpenID : String := "oidc_profile"
def profileFAPI2 : String := "fapi2_profile"

def keyUsageSignature : String := "sig"
def keyUsageEncryption : String := "enc"

def subjectIdentifierPublic : String := "public"

def claimTypeNormal : String := "normal"

def errorCodeAccessDenied : String := "access_denied"
def errorCodeInvalidClient : String := "invalid_client"
def errorCodeInvalidGrant : String := "invalid_grant"
def errorCodeInvalidRequest : String := "invalid_request"
def errorCodeUnauthorizedClient : String := "unauthorized_client"
def errorCodeInvalidScope : String := "invalid_scope"
def errorCodeInternalError : String := "internal_error"
def errorCodeInvalidClientMetadata : String := "invalid_client_metadata"
def errorCodeInvalidRedirectURI : String := "invalid_redirect_uri"

structure OAuthError where
  code : String
  description : String
  deriving DecidableEq, Repr

def defaultAuthenticationSessionTimeoutSecs : Int := 30 * 60
def authorizationCodeLength : Nat := 30
def refreshTokenLength : Nat := 99

/-- `ClientSecretCharset`, the 62 characters random strings are drawn from. -/
def clientSecretCharset : List Char :=
  "abcdefghijklmnopqrstuvwxyzABCDEFGHIJKLMNOPQRSTUVWXYZ0123456789".toList

theorem clientSecretCharset_length : clientSecretCharset.length = 62 := by decide

def charsetChar (i : Fin 62) : Char :=
  clientSecretCharset.get (i.cast clientSecretCharset_length.symm)

/-! ### Clients -/

/-- `goidc.Client` with the fields the code reads; the Go type is not in the sources. -/
structure Client where
  id : String
  /-- The plain secret, the HMAC key of `client_secret_jwt`. -/
  secret : String
  /-- The bcrypt hash `client_secret_basic` and `client_secret_post` compare against. -/
  hashedSecret : String
  authnMethod : String
  authnSigAlg : String
  grantTypes : List String
  tlsSubDistinguishedName : String
  tlsSubAlternativeName : String
  /-- DCR counts it as a TLS identifier; `authenticateTLSCert` never reads it. -/
  tlsSubAlternativeNameIp : String
  idTokenSignatureAlgorithm : String
  userInfoSignatureAlgorithm : String
  jarmSignatureAlgorithm : String
  deriving DecidableEq, Repr

/-- Modelled from the spec: `Client.IsGrantTypeAllowed`, absent from the sources. -/
def Client.isGrantTypeAllowed (c : Client) (grantType : String) : Bool :=
  decide (grantType ∈ c.grantTypes)

end GoOidc
