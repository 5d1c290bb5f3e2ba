import GoOidc.Vocabulary
import Mathlib.Data.List.Nodup

/-!
`AuthnSession` and `storage.AuthnSessionManager`, a Go map from session ID to session, as the list
of its entries with distinct IDs in one iteration order. The Go map holds `*AuthnSession` pointers
and returns them, so a caller can change an entry without `Save`; the model stores values, the
store as it is when every change to a session is saved. The lookups by callback ID, code and
reference ID are one `firstSession` over a field (`emptyKey_finds_unset_sessions`).
-/

namespace GoOidc

/-- An in-flight authorization request (`goidc.AuthnSession`). -/
structure AuthnSession where
  id : String
  callbackID : String
  referenceID : String
  policyID : String
  clientID : String
  expiresAtTimestamp : Int
  responseType : String
  authorizationCode : String
  authorizedAtTimestamp : Int
  /-- `Error`, which a policy may set before reporting failure. -/
  error : Option OAuthError
  deriving DecidableEq, Repr

def AuthnSession.isExpired (s : AuthnSession) (now : Int) : Bool :=
  decide (s.expiresAtTimestamp < now)

/-- Modelled from the spec: `unit.GenerateAuthorizationCode`, absent from the sources. -/
def generateAuthorizationCode (draws : Nat → Fin 62) : String :=
  String.mk ((List.range authorizationCodeLength).map (charsetChar ∘ draws))

theorem generateAuthorizationCode_length (draws : Nat → Fin 62) :
    (generateAuthorizationCode draws).length = authorizationCodeLength := by
  simp [generateAuthorizationCode, String.length]

theorem generateAuthorizationCode_ne_empty (draws : Nat → Fin 62) :
    generateAuthorizationCode draws ≠ "" := by
  intro empty
  have := generateAuthorizationCode_length draws
  rw [empty] at this
  simp [authorizationCodeLength] at this

def AuthnSession.initAuthorizationCode (s : AuthnSession) (draws : Nat → Fin 62) (now : Int) :
    AuthnSession :=
  { s with authorizationCode := generateAuthorizationCode draws, authorizedAtTimestamp := now }

@[simp] theorem AuthnSession.initAuthorizationCode_id (s : AuthnSession) (draws : Nat → Fin 62) (now : Int) :
    (s.initAuthorizationCode draws now).id = s.id := rfl

@[simp] theorem AuthnSession.initAuthorizationCode_callbackID (s : AuthnSession) (draws : Nat → Fin 62)
    (now : Int) : (s.initAuthorizationCode draws now).callbackID = s.callbackID := rfl

/-- `AuthnSessionManager`: the entries of the map, one per ID. -/
structure AuthnSessionManager where
  sessions : List AuthnSession
  distinct : (sessions.map AuthnSession.id).Nodup

namespace AuthnSessionManager

def empty : AuthnSessionManager := ⟨[], List.nodup_nil⟩

private theorem nodup_without (l : List AuthnSession) (id : String)
    (distinct : (l.map AuthnSession.id).Nodup) :
    ((l.filter fun x => x.id ≠ id).map AuthnSession.id).Nodup :=
  distinct.sublist ((List.filter_sublist l).map _)

/-- `Save`: `m.Sessions[session.ID] = session`. -/
def save (m : AuthnSessionManager) (s : AuthnSession) : AuthnSessionManager :=
  ⟨s :: m.sessions.filter (fun x => x.id ≠ s.id), by
    refine List.nodup_cons.mpr ⟨?_, nodup_without _ _ m.distinct⟩
    simp⟩

/-- `Delete`: `delete(m.Sessions, id)`. -/
def delete (m : AuthnSessionManager) (id : String) : AuthnSessionManager :=
  ⟨m.sessions.filter (fun x => x.id ≠ id), nodup_without _ _ m.distinct⟩

/-- The session stored under an ID: the map's own lookup `m.Sessions[id]`. -/
def get (m : AuthnSessionManager) (id : String) : Option AuthnSession :=
  m.sessions.find? (·.id = id)

/-- `firstSession`: the first session, in iteration order, that meets the condition. -/
def firstSession (sessions : List AuthnSession) (condition : AuthnSession → Bool) :
    Option AuthnSession :=
  sessions.find? condition

def sessionByCallbackID (m : AuthnSessionManager) (callbackID : String) : Option AuthnSession :=
  firstSession m.sessions (·.callbackID = callbackID)

def sessionByAuthorizationCode (m : AuthnSessionManager) (code : String) : Option AuthnSession :=
  firstSession m.sessions (·.authorizationCode = code)

def sessionByReferenceID (m : AuthnSessionManager) (requestURI : String) : Option AuthnSession :=
  firstSession m.sessions (·.referenceID = requestURI)

/-! ### What the store holds after each write -/

theorem get_eq_some_iff (m : AuthnSessionManager) (id : String) (s : AuthnSession) :
    m.get id = some s ↔ s ∈ m.sessions ∧ s.id = id := by
  constructor
  · intro found
    exact ⟨List.mem_of_find?_eq_some found, by simpa using List.find?_some found⟩
  · rintro ⟨member, rfl⟩
    obtain ⟨x, hx⟩ := Option.isSome_iff_exists.mp
      (List.find?_isSome.mpr ⟨s, member, by simp⟩ : (m.sessions.find? (·.id = s.id)).isSome)
    have same : x.id = s.id := by simpa using List.find?_some hx
    have equal : x = s :=
      List.inj_on_of_nodup_map m.distinct (List.mem_of_find?_eq_some hx) member same
    simpa [get, equal] using hx

theorem get_eq_none_iff (m : AuthnSessionManager) (id : String) :
    m.get id = none ↔ ∀ s ∈ m.sessions, s.id ≠ id := by
  simp [get]

@[simp] theorem save_sessions (m : AuthnSessionManager) (s : AuthnSession) :
    (m.save s).sessions = s :: m.sessions.filter (fun x => x.id ≠ s.id) := rfl

@[simp] theorem delete_sessions (m : AuthnSessionManager) (id : String) :
    (m.delete id).sessions = m.sessions.filter (fun x => x.id ≠ id) := rfl

@[simp] theorem get_save_self (m : AuthnSessionManager) (s : AuthnSession) :
    (m.save s).get s.id = some s := by
  simp [get]

theorem get_save_other (m : AuthnSessionManager) (s : AuthnSession) {id : String}
    (other : id ≠ s.id) : (m.save s).get id = m.get id := by
  simp only [get, save_sessions, List.find?_cons, List.find?_filter]
  have skip : ¬ s.id = id := fun same => other same.symm
  simp only [skip, decide_False]
  congr 1
  funext x
  by_cases hx : x.id = id
  · simp [hx, other]
  · simp [hx]

@[simp] theorem get_delete_self (m : AuthnSessionManager) (id : String) :
    (m.delete id).get id = none := by
  simp [get_eq_none_iff]

theorem get_delete_other (m : AuthnSessionManager) {id id' : String} (other : id' ≠ id) :
    (m.delete id).get id' = m.get id' := by
  simp only [get, delete_sessions, List.find?_filter]
  congr 1
  funext x
  by_cases hx : x.id = id'
  · simp [hx, other]
  · simp [hx]

@[ext] theorem ext {m m' : AuthnSessionManager} (same : m.sessions = m'.sessions) : m = m' := by
  cases m; cases m'; cases same; rfl

theorem save_delete_self (m : AuthnSessionManager) (s : AuthnSession) :
    (m.delete s.id).save s = m.save s := by
  ext1
  simp [List.filter_filter]

/-! ### The store as a map -/

theorem mem_sessions_iff (m : AuthnSessionManager) (s : AuthnSession) :
    s ∈ m.sessions ↔ m.get s.id = some s := by
  simp [get_eq_some_iff]

end AuthnSessionManager

/-- A write to the session store: `Save` or `Delete`. -/
inductive StoreWrite where
  | save (s : AuthnSession)
  | delete (id : String)
  deriving DecidableEq, Repr

def StoreWrite.id : StoreWrite → String
  | .save s => s.id
  | .delete id => id

def StoreWrite.entry : StoreWrite → Option AuthnSession
  | .save s => some s
  | .delete _ => none

def StoreWrite.Keeps (s : AuthnSession) (w : StoreWrite) : Prop :=
  w.id = s.id ∧ ∀ x ∈ w.entry, x.callbackID = s.callbackID

/-- What the session store is for: a finite map from session ID to session. -/
def SessionMap := String → Option AuthnSession

def SessionMap.write (f : SessionMap) (w : StoreWrite) : SessionMap :=
  Function.update f w.id w.entry

theorem SessionMap.write_apply (f : SessionMap) (w : StoreWrite) (id : String) :
    f.write w id = if id = w.id then w.entry else f id := by
  simp only [SessionMap.write, Function.update_apply]

theorem SessionMap.foldl_write_eq_some {f : SessionMap} {ws : List StoreWrite} {id : String}
    {t : AuthnSession} (found : ws.foldl SessionMap.write f id = some t) :
    f id = some t ∨ StoreWrite.save t ∈ ws := by
  induction ws generalizing f with
  | nil => exact .inl found
  | cons w ws ih =>
    rcases ih found with before | saved
    · rw [SessionMap.write_apply] at before
      split_ifs at before
      · cases w <;> simp_all [StoreWrite.entry]
      · exact .inl before
    · exact .inr (List.mem_cons_of_mem _ saved)

namespace AuthnSessionManager

def write (m : AuthnSessionManager) : StoreWrite → AuthnSessionManager
  | .save s => m.save s
  | .delete id => m.delete id

def writeAll (m : AuthnSessionManager) (ws : List StoreWrite) : AuthnSessionManager :=
  ws.foldl write m

@[simp] theorem writeAll_nil (m : AuthnSessionManager) : m.writeAll [] = m := rfl

@[simp] theorem writeAll_cons (m : AuthnSessionManager) (w : StoreWrite) (ws : List StoreWrite) :
    m.writeAll (w :: ws) = (m.write w).writeAll ws := rfl

theorem get_write (m : AuthnSessionManager) (w : StoreWrite) : (m.write w).get = SessionMap.write m.get w := by
  funext id
  rw [SessionMap.write_apply]
  cases w with
  | save s =>
    by_cases same : id = s.id
    · subst same; simp [write, StoreWrite.entry, StoreWrite.id]
    · simp [write, StoreWrite.id, same, get_save_other m s same]
  | delete id' =>
    by_cases same : id = id'
    · subst same; simp [write, StoreWrite.entry, StoreWrite.id]
    · simp [write, StoreWrite.id, same, get_delete_other m same]

theorem get_writeAll (m : AuthnSessionManager) (ws : List StoreWrite) :
    (m.writeAll ws).get = ws.foldl SessionMap.write m.get := by
  induction ws generalizing m with
  | nil => rfl
  | cons w ws ih => rw [writeAll_cons, ih, get_write, List.foldl_cons]

def UniqueCallback (m : AuthnSessionManager) (callbackID : String) : Prop :=
  ∀ s ∈ m.sessions, ∀ t ∈ m.sessions, s.callbackID = callbackID → t.callbackID = callbackID → s = t

instance (m : AuthnSessionManager) (callbackID : String) : Decidable (m.UniqueCallback callbackID) :=
  inferInstanceAs (Decidable (∀ s ∈ m.sessions, ∀ t ∈ m.sessions, _))

/-! ### What the keyed lookups return -/

section Lookups
variable {field : AuthnSession → String} {key : String} {sessions : List AuthnSession}

theorem firstSession_field {s : AuthnSession}
    (found : firstSession sessions (fun x => field x = key) = some s) : s ∈ sessions ∧ field s = key :=
  ⟨List.mem_of_find?_eq_some found, by simpa using List.find?_some found⟩

theorem firstSession_eq_none_iff :
    firstSession sessions (fun x => field x = key) = none ↔ ∀ s ∈ sessions, field s ≠ key := by
  simp [firstSession]

theorem firstSession_perm {order : List AuthnSession}
    (atMostOne : ∀ s ∈ sessions, ∀ s' ∈ sessions, field s = key → field s' = key → s = s')
    (perm : order.Perm sessions) :
    firstSession order (fun x => field x = key) = firstSession sessions (fun x => field x = key) := by
  cases found : firstSession sessions (fun x => field x = key) with
  | none =>
    exact firstSession_eq_none_iff.mpr fun s member =>
      firstSession_eq_none_iff.mp found s (perm.subset member)
  | some s =>
    obtain ⟨member, keyed⟩ := firstSession_field found
    cases found' : firstSession order (fun x => field x = key) with
    | none => exact absurd keyed (firstSession_eq_none_iff.mp found' s (perm.symm.subset member))
    | some s' =>
      obtain ⟨member', keyed'⟩ := firstSession_field found'
      rw [atMostOne s' (perm.subset member') s member keyed' keyed]

theorem firstSession_eq_some_of_unique {s : AuthnSession} (member : s ∈ sessions) (keyed : field s = key)
    (only : ∀ t ∈ sessions, field t = key → t = s) :
    firstSession sessions (fun x => field x = key) = some s := by
  cases found : firstSession sessions (fun x => field x = key) with
  | none => exact absurd keyed (firstSession_eq_none_iff.mp found s member)
  | some t =>
    obtain ⟨member', keyed'⟩ := firstSession_field found
    rw [only t member' keyed']

end Lookups

/-! ### Sessions whose keys are not set yet -/

/-- A session pushed by `/par`: only its reference ID is set. -/
def pushedSession : AuthnSession where
  id := "s1"
  callbackID := ""
  referenceID := "urn:ietf:params:oauth:request_uri:abc"
  policyID := "policy"
  clientID := "c1"
  expiresAtTimestamp := 60
  responseType := responseTypeCode
  authorizationCode := ""
  authorizedAtTimestamp := 0
  error := none

/-- A session started at `/authorize` without `/par`: only its callback ID is set. -/
def startedSession : AuthnSession :=
  { pushedSession with id := "s2", callbackID := "cb", referenceID := "" }

def unsetKeysStore : AuthnSessionManager := ⟨[pushedSession, startedSession], by decide⟩

theorem emptyKey_finds_unset_sessions :
    unsetKeysStore.sessionByAuthorizationCode "" = some pushedSession ∧
      unsetKeysStore.sessionByCallbackID "" = some pushedSession ∧
      unsetKeysStore.sessionByReferenceID "" = some startedSession ∧
      pushedSession.authorizationCode = "" ∧ pushedSession.callbackID = "" ∧
      startedSession.referenceID = "" := by
  decide

end AuthnSessionManager

end GoOidc
