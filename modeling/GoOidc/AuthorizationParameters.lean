import GoOidc.Vocabulary

/-!
`AuthorizationParameters.Merge` (`pkg/goidc`) combines a request object's parameters (inside)
with the query's (outside) through `nonEmptyOrDefault`, which asks `reflect.ValueOf(v).String()`,
and `nonNilOrDefault`. That string is `"<*int Value>"` for a pointer, so the merged `max_age` is
always inside's and every other field follows *inner overrides outer*
(`merge_eq_innerOverridesOuter`). A Go pointer or slice is an `Option`, `none` being `nil`.
-/

namespace GoOidc

structure ClaimObjectInfo where
  isEssential : Bool
  value : String
  values : List String
  deriving DecidableEq, Repr

structure ClaimsObject where
  userInfo : List (String × ClaimObjectInfo)
  idToken : List (String × ClaimObjectInfo)
  deriving DecidableEq, Repr

/-- A JSON object (`map[string]any`) that `Merge` never looks into, its members as JSON text. -/
structure AuthorizationDetail where
  members : List (String × String)
  deriving DecidableEq, Repr

structure AuthorizationParameters where
  requestURI : String
  requestObject : String
  redirectURI : String
  responseMode : String
  responseType : String
  scopes : String
  state : String
  nonce : String
  codeChallenge : String
  codeChallengeMethod : String
  prompt : String
  maxAuthenticationAgeSecs : Option Int
  display : String
  acrValues : String
  claims : Option ClaimsObject
  authorizationDetails : Option (List AuthorizationDetail)
  deriving DecidableEq, Repr

/-! ### The generic helpers -/

/-- What `reflect.ValueOf(v).String()` returns for a value of the type. -/
class ReflectString (α : Type) where
  reflectString : α → String

instance : ReflectString String := ⟨fun s => s⟩

instance : ReflectString (Option Int) := ⟨fun _ => "<*int Value>"⟩

def nonEmptyOrDefault {α : Type} [ReflectString α] (s1 s2 : α) : α :=
  if ReflectString.reflectString s1 = "" then s2 else s1

def nonNilOrDefault {α : Type} (s1 s2 : Option α) : Option α :=
  if s1.isNone then s2 else s1

@[simp] theorem nonEmptyOrDefault_string (s1 s2 : String) :
    nonEmptyOrDefault s1 s2 = if s1 ≠ "" then s1 else s2 := by
  by_cases empty : s1 = "" <;> simp [nonEmptyOrDefault, ReflectString.reflectString, empty]

@[simp] theorem nonEmptyOrDefault_intPointer (p1 p2 : Option Int) : nonEmptyOrDefault p1 p2 = p1 := by
  simp [nonEmptyOrDefault, ReflectString.reflectString]

@[simp] theorem nonNilOrDefault_eq {α : Type} (s1 s2 : Option α) :
    nonNilOrDefault s1 s2 = if s1.isSome then s1 else s2 := by
  cases s1 <;> rfl

/-! ### The merge -/

namespace AuthorizationParameters

/-- `Merge`: the fourteen merged fields; the request URI and the request object are left empty. -/
def merge (insideParams outsideParams : AuthorizationParameters) : AuthorizationParameters where
  requestURI := ""
  requestObject := ""
  redirectURI := nonEmptyOrDefault insideParams.redirectURI outsideParams.redirectURI
  responseMode := nonEmptyOrDefault insideParams.responseMode outsideParams.responseMode
  responseType := nonEmptyOrDefault insideParams.responseType outsideParams.responseType
  scopes := nonEmptyOrDefault insideParams.scopes outsideParams.scopes
  state := nonEmptyOrDefault insideParams.state outsideParams.state
  nonce := nonEmptyOrDefault insideParams.nonce outsideParams.nonce
  codeChallenge := nonEmptyOrDefault insideParams.codeChallenge outsideParams.codeChallenge
  codeChallengeMethod := nonEmptyOrDefault insideParams.codeChallengeMethod outsideParams.codeChallengeMethod
  prompt := nonEmptyOrDefault insideParams.prompt outsideParams.prompt
  maxAuthenticationAgeSecs :=
    nonEmptyOrDefault insideParams.maxAuthenticationAgeSecs outsideParams.maxAuthenticationAgeSecs
  display := nonEmptyOrDefault insideParams.display outsideParams.display
  acrValues := nonEmptyOrDefault insideParams.acrValues outsideParams.acrValues
  claims := nonNilOrDefault insideParams.claims outsideParams.claims
  authorizationDetails := nonNilOrDefault insideParams.authorizationDetails outsideParams.authorizationDetails

/-- The spec's rule: inside's value when it is present, else outside's. -/
def innerOverridesOuter (inside outside : AuthorizationParameters) : AuthorizationParameters where
  requestURI := ""
  requestObject := ""
  redirectURI := if inside.redirectURI ≠ "" then inside.redirectURI else outside.redirectURI
  responseMode := if inside.responseMode ≠ "" then inside.responseMode else outside.responseMode
  responseType := if inside.responseType ≠ "" then inside.responseType else outside.responseType
  scopes := if inside.scopes ≠ "" then inside.scopes else outside.scopes
  state := if inside.state ≠ "" then inside.state else outside.state
  nonce := if inside.nonce ≠ "" then inside.nonce else outside.nonce
  codeChallenge := if inside.codeChallenge ≠ "" then inside.codeChallenge else outside.codeChallenge
  codeChallengeMethod :=
    if inside.codeChallengeMethod ≠ "" then inside.codeChallengeMethod else outside.codeChallengeMethod
  prompt := if inside.prompt ≠ "" then inside.prompt else outside.prompt
  maxAuthenticationAgeSecs :=
    if inside.maxAuthenticationAgeSecs.isSome then inside.maxAuthenticationAgeSecs
    else outside.maxAuthenticationAgeSecs
  display := if inside.display ≠ "" then inside.display else outside.display
  acrValues := if inside.acrValues ≠ "" then inside.acrValues else outside.acrValues
  claims := if inside.claims.isSome then inside.claims else outside.claims
  authorizationDetails :=
    if inside.authorizationDetails.isSome then inside.authorizationDetails else outside.authorizationDetails

theorem merge_eq_innerOverridesOuter (inside outside : AuthorizationParameters) :
    merge inside outside =
      { innerOverridesOuter inside outside with
        maxAuthenticationAgeSecs := inside.maxAuthenticationAgeSecs } := by
  simp [merge, innerOverridesOuter]

/-! ### The response mode -/

def defaultResponseMode (params : AuthorizationParameters) : String :=
  if params.responseMode = "" then ResponseType.defaultResponseMode params.responseType false
  else if params.responseMode = responseModeJWT then ResponseType.defaultResponseMode params.responseType true
  else params.responseMode

theorem defaultResponseMode_ne (rt : String) (jarm : Bool) :
    ResponseType.defaultResponseMode rt jarm ≠ "" ∧ ResponseType.defaultResponseMode rt jarm ≠ responseModeJWT ∧
      ResponseMode.isJARM (ResponseType.defaultResponseMode rt jarm) = jarm ∧
      ResponseMode.isQuery (ResponseType.defaultResponseMode rt jarm) = !ResponseType.isImplicit rt := by
  unfold ResponseType.defaultResponseMode
  cases ResponseType.isImplicit rt <;> cases jarm <;> decide

/-- The mode is resolved, JARM exactly when requested, and the query for an implicit part only
    when the request named it. -/
theorem defaultResponseMode_resolves (params : AuthorizationParameters) :
    params.defaultResponseMode ≠ "" ∧ params.defaultResponseMode ≠ responseModeJWT ∧
      ResponseMode.isJARM params.defaultResponseMode = ResponseMode.isJARM params.responseMode ∧
      (ResponseType.isImplicit params.responseType = true → ResponseMode.isQuery params.defaultResponseMode = true →
        ResponseMode.isQuery params.responseMode = true) := by
  unfold defaultResponseMode
  split_ifs with unset jwt
  · obtain ⟨nonEmpty, notJWT, jarm, query⟩ := defaultResponseMode_ne params.responseType false
    refine ⟨nonEmpty, notJWT, by rw [jarm, unset]; rfl, fun implicit => ?_⟩
    simp [query, implicit]
  · obtain ⟨nonEmpty, notJWT, jarm, query⟩ := defaultResponseMode_ne params.responseType true
    refine ⟨nonEmpty, notJWT, by rw [jarm, jwt]; rfl, fun implicit => ?_⟩
    simp [query, implicit]
  · exact ⟨unset, jwt, rfl, fun _ query => query⟩

/-! ### A request object without `max_age` -/

def requestObjectParams : AuthorizationParameters where
  requestURI := ""
  requestObject := ""
  redirectURI := "https://rp.example/callback"
  responseMode := ""
  responseType := "code"
  scopes := "openid"
  state := "af0ifjsldkj"
  nonce := ""
  codeChallenge := ""
  codeChallengeMethod := ""
  prompt := ""
  maxAuthenticationAgeSecs := none
  display := ""
  acrValues := ""
  claims := none
  authorizationDetails := none

def queryParams : AuthorizationParameters :=
  { requestObjectParams with state := "", maxAuthenticationAgeSecs := some 300 }

theorem merge_drops_outside_maxAge :
    (merge requestObjectParams queryParams).maxAuthenticationAgeSecs = none ∧
      (innerOverridesOuter requestObjectParams queryParams).maxAuthenticationAgeSecs = some 300 :=
  ⟨rfl, rfl⟩

end AuthorizationParameters

end GoOidc
