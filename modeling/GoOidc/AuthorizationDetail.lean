import GoOidc.Resources

/-!
`AuthorizationDetail` is a `map[string]any` whose accessors assert a member to `string` (`Type`,
`Identifier`) or to `[]string` (`Locations`, `Actions`, `DataTypes`). `json.Unmarshal` into `any`
never gives a `[]string`, so for every detail read from JSON the slice accessors return `nil`
(`unmarshalAuthorizationDetail_accessors`).
-/

namespace GoOidc

/-- A Go `any`: what `json.Unmarshal` decodes into it, and the `[]string` Go code may store. -/
inductive GoAny where
  | nil
  | bool (b : Bool)
  | float64 (literal : String)
  | string (s : String)
  | anySlice (items : List GoAny)
  | stringSlice (items : Option (List String))
  | anyMap (entries : List (String × GoAny))

mutual
def decodeAny : JSONValue → GoAny
  | .null => .nil
  | .bool b => .bool b
  | .number literal => .float64 literal
  | .string s => .string s
  | .array items => .anySlice (decodeItems items)
  | .object members => .anyMap (decodeMembers members)

def decodeItems : List JSONValue → List GoAny
  | [] => []
  | v :: vs => decodeAny v :: decodeItems vs

def decodeMembers : List (String × JSONValue) → List (String × GoAny)
  | [] => []
  | (name, v) :: ms => (name, decodeAny v) :: decodeMembers ms
end

theorem decodeMembers_eq_map (members : List (String × JSONValue)) :
    decodeMembers members = members.map fun m => (m.1, decodeAny m.2) := by
  induction members with
  | nil => rfl
  | cons m ms ih => simp [decodeMembers, ih]

/-- The `map[string]any` as its entries, the first under a name being its value. -/
abbrev AuthorizationDetailMap := List (String × GoAny)

namespace AuthorizationDetailMap

def get (d : AuthorizationDetailMap) (key : String) : Option GoAny := (d.find? (·.1 = key)).map (·.2)

def set (d : AuthorizationDetailMap) (key : String) (value : GoAny) : AuthorizationDetailMap :=
  (key, value) :: d.filter (·.1 ≠ key)

def stringSlice (d : AuthorizationDetailMap) (key : String) : Option (List String) :=
  match d.get key with
  | some (.stringSlice slice) => slice
  | _ => none

def string (d : AuthorizationDetailMap) (key : String) : String :=
  match d.get key with
  | some (.string s) => s
  | _ => ""

def type (d : AuthorizationDetailMap) : String := d.string "type"

def identifier (d : AuthorizationDetailMap) : String := d.string "identifier"

def locations (d : AuthorizationDetailMap) : Option (List String) := d.stringSlice "locations"

def actions (d : AuthorizationDetailMap) : Option (List String) := d.stringSlice "actions"

def dataTypes (d : AuthorizationDetailMap) : Option (List String) := d.stringSlice "datatypes"

/-- The map `json.Unmarshal` fills, each member replacing an earlier one of the same name. -/
def ofMembers (members : List (String × GoAny)) : AuthorizationDetailMap :=
  members.foldl (fun d m => d.set m.1 m.2) []

theorem get_ofMembers (members : List (String × GoAny)) (key : String) :
    (ofMembers members).get key = (members.reverse.find? (·.1 = key)).map (·.2) := by
  suffices ∀ d : AuthorizationDetailMap, (members.foldl (fun d m => d.set m.1 m.2) d).get key =
      ((members.reverse ++ d).find? (·.1 = key)).map (·.2) by simpa using this []
  induction members with
  | nil => intro d; rfl
  | cons m ms ih =>
    obtain ⟨name, value⟩ := m
    intro d
    rw [List.foldl_cons, ih, List.reverse_cons, List.append_assoc, List.singleton_append]
    simp only [get, set, List.find?_append, List.find?_cons]
    by_cases named : name = key
    · simp [named]
    · have other : (fun x : String × GoAny => !decide (x.1 = name) && decide (x.1 = key)) =
          fun x => decide (x.1 = key) := by
        funext x
        by_cases keyed : x.1 = key <;> simp [keyed, Ne.symm named]
      simp [named, List.find?_filter, other]

end AuthorizationDetailMap

def JSONValue.member : JSONValue → String → Option JSONValue
  | .object members, key => (members.reverse.find? (·.1 = key)).map (·.2)
  | _, _ => none

/-- `json.Unmarshal` into a nil `AuthorizationDetail`: an object or `null`, nothing else. -/
def unmarshalAuthorizationDetail : JSONValue → Except UnmarshalTypeError AuthorizationDetailMap
  | .null => .ok []
  | .object members => .ok (AuthorizationDetailMap.ofMembers (decodeMembers members))
  | v => .error ⟨v.kind, "goidc.AuthorizationDetail"⟩

theorem unmarshalAuthorizationDetail_get {data : JSONValue} {d : AuthorizationDetailMap}
    (decoded : unmarshalAuthorizationDetail data = .ok d) (key : String) :
    d.get key = (data.member key).map decodeAny := by
  cases data with
  | null => cases decoded; rfl
  | object members =>
    cases decoded
    rw [AuthorizationDetailMap.get_ofMembers, decodeMembers_eq_map, ← List.map_reverse, List.find?_map]
    simp only [JSONValue.member, Option.map_map]
    rfl
  | _ => cases decoded

theorem unmarshalAuthorizationDetail_accessors {data : JSONValue} {d : AuthorizationDetailMap}
    (decoded : unmarshalAuthorizationDetail data = .ok d) (key : String) :
    d.stringSlice key = none ∧
      d.string key = match data.member key with
        | some (.string s) => s
        | _ => "" := by
  have found := unmarshalAuthorizationDetail_get decoded key
  unfold AuthorizationDetailMap.stringSlice AuthorizationDetailMap.string
  rw [found]
  cases data.member key with
  | none => exact ⟨rfl, rfl⟩
  | some v => cases v <;> exact ⟨rfl, rfl⟩

def paymentDetailJSON : JSONValue :=
  .object [("type", .string "payment_initiation"),
    ("locations", .array [.string "https://example.com/payments"]),
    ("actions", .array [.string "initiate", .string "status"])]

theorem paymentDetail_accessors :
    ∃ d, unmarshalAuthorizationDetail paymentDetailJSON = .ok d ∧ d.locations = none ∧
      d.actions = none ∧ d.type = "payment_initiation" :=
  have decoded : unmarshalAuthorizationDetail paymentDetailJSON =
      .ok (AuthorizationDetailMap.ofMembers (decodeMembers
        [("type", .string "payment_initiation"), ("locations", .array [.string "https://example.com/payments"]),
          ("actions", .array [.string "initiate", .string "status"])])) := rfl
  ⟨_, decoded, (unmarshalAuthorizationDetail_accessors decoded "locations").1,
    (unmarshalAuthorizationDetail_accessors decoded "actions").1,
    (unmarshalAuthorizationDetail_accessors decoded "type").2⟩

end GoOidc
