import GoOidc.Vocabulary

/-!
`OAuthContext` (`utils/context.go`) reads the `Authorization` header as a type and a token, the
`DPoP` header as one proof, and a client certificate from the secure header, else the insecure
one; names are looked up in their canonical form. The bearer token read is what follows `Bearer `
in a value whose rest has no space, and nothing else (`getBearerToken_eq_some_iff`).
-/

namespace GoOidc

def tokenTypeBearer : String := "Bearer"

def headerDPoP : String := "DPoP"

/-- `validHeaderFieldByte`: letters, digits and the other token characters of RFC 7230. -/
def isTokenChar (c : Char) : Bool :=
  c.isAlphanum || [33, 35, 36, 37, 38, 39, 42, 43, 45, 46, 94, 95, 96, 124, 126].contains c.toNat

def canonicalChars : Bool → List Char → List Char
  | _, [] => []
  | upper, c :: cs =>
    let c := if upper then c.toUpper else c.toLower
    c :: canonicalChars (c = '-') cs

/-- `textproto.CanonicalMIMEHeaderKey`; a name with a non-token character is left as it is. -/
def canonicalMIMEHeaderKey (s : String) : String :=
  if s.toList.all isTokenChar then ⟨canonicalChars true s.toList⟩ else s

structure Header where
  entries : List (String × List String)

namespace Header

def values (h : Header) (name : String) : List String :=
  ((h.entries.find? (·.1 = name)).map (·.2)).getD []

def get (h : Header) (key : String) : String :=
  (h.values (canonicalMIMEHeaderKey key)).headD ""

end Header

def getHeader (h : Header) (name : String) : Option String :=
  if h.get name = "" then none else some (h.get name)

def getAuthorizationToken (h : Header) : Option (String × String) :=
  match getHeader h "Authorization" with
  | none => none
  | some tokenHeader =>
    match split tokenHeader with
    | [tokenType, token] => some (token, tokenType)
    | _ => none

def getBearerToken (h : Header) : Option String :=
  match getAuthorizationToken h with
  | some (token, tokenType) => if tokenType = tokenTypeBearer then some token else none
  | none => none

/-- `GetDPOPJWT`: the one value under `DPoP`; none or several values give nothing. -/
def getDPOPJWT (h : Header) : Option String :=
  match h.values (canonicalMIMEHeaderKey headerDPoP) with
  | [value] => some value
  | _ => none

/-! ### The authorization header -/

theorem split_eq_pair_iff {s first second : String} :
    split s = [first, second] ↔ s = first ++ " " ++ second ∧ ' ' ∉ first.toList ∧ ' ' ∉ second.toList := by
  have pieces : split s = [first, second] ↔ splitChars ' ' s.toList = [first.toList, second.toList] := by
    constructor
    · intro split
      simpa [GoOidc.split, List.map_map, Function.comp_def, String.toList] using
        congrArg (List.map String.toList) split
    · intro split
      rw [GoOidc.split, split]
      rfl
  have joined : s = first ++ " " ++ second ↔ s.toList = first.toList ++ ' ' :: second.toList := by
    constructor
    · rintro rfl
      simp [String.toList]
    · intro same
      exact String.ext (by simpa [String.toList] using same)
  rw [pieces, splitChars_eq_pair_iff, joined]

theorem getAuthorizationToken_eq_some_iff {h : Header} {token tokenType : String} :
    getAuthorizationToken h = some (token, tokenType) ↔
      h.get "Authorization" = tokenType ++ " " ++ token ∧ ' ' ∉ tokenType.toList ∧ ' ' ∉ token.toList := by
  rw [← split_eq_pair_iff]
  unfold getAuthorizationToken getHeader
  by_cases empty : h.get "Authorization" = ""
  · have pieces : split "" = [""] := rfl
    simp [empty, pieces]
  · simp only [empty, if_false]
    split <;> simp_all [and_comm]

theorem getBearerToken_eq_some_iff {h : Header} {token : String} :
    getBearerToken h = some token ↔ h.get "Authorization" = "Bearer " ++ token ∧ ' ' ∉ token.toList := by
  have bearer : getBearerToken h = some token ↔ getAuthorizationToken h = some (token, tokenTypeBearer) := by
    unfold getBearerToken
    split
    · next token' tokenType read =>
      rw [read]
      split_ifs with isBearer <;> simp [isBearer]
    · next unread => simp [unread]
  have joined : tokenTypeBearer ++ " " ++ token = "Bearer " ++ token := by
    rw [String.append_assoc]
    rfl
  have spaceFree : ' ' ∉ tokenTypeBearer.toList := by decide
  rw [bearer, getAuthorizationToken_eq_some_iff, joined]
  exact ⟨fun ⟨value, _, free⟩ => ⟨value, free⟩, fun ⟨value, free⟩ => ⟨value, spaceFree, free⟩⟩

section Certificates
variable {Certificate : Type} (parseCertificate : String → Option Certificate)
  (secureHeader insecureHeader : String)

/-- `x509.ParseCertificate` and the header names are absent from the sources, so arguments. -/
def getSecureClientCertificate (h : Header) : Option Certificate :=
  (getHeader h secureHeader).bind parseCertificate

def getClientCertificate (h : Header) : Option Certificate :=
  let rawClientCert := match getHeader h secureHeader with
    | some raw => some raw
    | none => getHeader h insecureHeader
  rawClientCert.bind parseCertificate

end Certificates

end GoOidc
