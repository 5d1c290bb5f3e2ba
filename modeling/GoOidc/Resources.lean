import GoOidc.Vocabulary

/-!
`Resources` (`pkg/goidc`) is a `[]string` read from one JSON string or an array of strings;
`MarshalJSON` writes a list of one as its string and the nil slice as `null`. A string decodes
`null` by leaving itself as it was, so the decoder never returns nil (`unmarshalJSON_isSome`) and
`null` comes back as one empty resource (`nilResources_decode_as_emptyResource`).
-/

namespace GoOidc

inductive JSONValue where
  | null
  | bool (b : Bool)
  | number (literal : String)
  | string (s : String)
  | array (items : List JSONValue)
  | object (members : List (String × JSONValue))
  deriving Repr

def JSONValue.kind : JSONValue → String
  | .null => "null"
  | .bool _ => "bool"
  | .number _ => "number"
  | .string _ => "string"
  | .array _ => "array"
  | .object _ => "object"

structure UnmarshalTypeError where
  value : String
  type : String
  deriving DecidableEq, Repr

def marshalString (s : String) : JSONValue := .string s

/-- `json.Marshal` of a `[]string`: `null` for the nil slice. -/
def marshalStrings : Option (List String) → JSONValue
  | none => .null
  | some items => .array (items.map marshalString)

def unmarshalString (s : String) : JSONValue → Except UnmarshalTypeError String
  | .null => .ok s
  | .string v => .ok v
  | v => .error ⟨v.kind, "string"⟩

/-- `json.Unmarshal` into a nil `[]string`; the first failing item is the error. -/
def unmarshalStrings : JSONValue → Except UnmarshalTypeError (Option (List String))
  | .null => .ok none
  | .array items => some <$> items.mapM (unmarshalString "")
  | v => .error ⟨v.kind, "[]string"⟩

abbrev Resources := Option (List String)

def Resources.marshalJSON : Resources → JSONValue
  | some [resource] => marshalString resource
  | resources => marshalStrings resources

/-- `Resources.UnmarshalJSON`: a string first, then an array; on an error the receiver is kept. -/
def Resources.unmarshalJSON (data : JSONValue) : Except UnmarshalTypeError Resources :=
  match unmarshalString "" data with
  | .ok resource => .ok (some [resource])
  | .error _ =>
    match unmarshalStrings data with
    | .error err => .error err
    | .ok resources => .ok resources

/-! ### Decoding what was encoded -/

theorem mapM_unmarshalString_marshalString (items : List String) :
    (items.map marshalString).mapM (unmarshalString "") = .ok items := by
  induction items with
  | nil => rfl
  | cons item items ih =>
    simp only [List.map_cons, List.mapM_cons, ih]
    rfl

theorem unmarshalStrings_eq_ok {data : JSONValue} {r : Option (List String)} :
    unmarshalStrings data = .ok r ↔ (data = .null ∧ r = none) ∨
      ∃ items l, data = .array items ∧ items.mapM (unmarshalString "") = .ok l ∧ r = some l := by
  cases data
  case array items =>
    cases mapped : items.mapM (unmarshalString "") <;>
      simp only [unmarshalStrings, Functor.map, Except.map, JSONValue.array.injEq, exists_and_left,
        exists_eq_left', mapped, reduceCtorEq, false_and, false_or, Except.ok.injEq, exists_eq_right',
        eq_comm, exists_false]
  all_goals simp [unmarshalStrings, eq_comm]

theorem unmarshalJSON_isSome {data : JSONValue} {r : Resources} (decoded : Resources.unmarshalJSON data = .ok r) :
    r.isSome := by
  unfold Resources.unmarshalJSON at decoded
  split at decoded
  · cases decoded; rfl
  · next err stringFailed =>
    split at decoded
    · cases decoded
    · next resources arrayRead =>
      cases decoded
      rcases unmarshalStrings_eq_ok.mp arrayRead with ⟨rfl, -⟩ | ⟨_, l, -, -, rfl⟩
      · simp [unmarshalString] at stringFailed
      · rfl

theorem unmarshalJSON_marshalJSON_of_some (items : List String) :
    Resources.unmarshalJSON (Resources.marshalJSON (some items)) = .ok (some items) := by
  match items with
  | [] => rfl
  | [resource] => rfl
  | first :: second :: rest =>
    simp only [Resources.marshalJSON, marshalStrings, Resources.unmarshalJSON, unmarshalString,
      unmarshalStrings, mapM_unmarshalString_marshalString]
    rfl

theorem unmarshalJSON_marshalJSON_eq_ok_iff (r : Resources) :
    Resources.unmarshalJSON (Resources.marshalJSON r) = .ok r ↔ r.isSome := by
  cases r with
  | none => exact ⟨fun decoded => unmarshalJSON_isSome decoded, nofun⟩
  | some items => exact ⟨fun _ => rfl, fun _ => unmarshalJSON_marshalJSON_of_some items⟩

theorem nilResources_decode_as_emptyResource :
    Resources.marshalJSON none = .null ∧ Resources.unmarshalJSON .null = .ok (some [""]) :=
  ⟨rfl, rfl⟩

end GoOidc
