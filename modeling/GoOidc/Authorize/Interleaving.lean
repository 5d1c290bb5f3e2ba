import GoOidc.Authorize

/-!
Requests to `InitAuth` and `ContinueAuth` served at once share the session store, whose calls are
atomic; a request takes one step per store call (its start, then each write its outcome fixes),
and a schedule interleaves the steps of `n` requests. When the requests work on different
sessions and keep each other's callback IDs apart, every interleaving answers each request as it
is answered alone and leaves the other entries as they were (`interleaved_requests_independent`),
from the invariant `Tracks` that every step keeps (`tracks_step`, `tracks_run`).
-/

namespace GoOidc.Authorize

/-- A request to the authorize endpoint, with the session `initAuthnSession` builds, or to the callback. -/
inductive AuthorizeRequest where
  | authorize (clientID : String) (initAuthnSession : Client → Except OAuthError AuthnSession)
  | callback (callbackID : String)

def AuthorizeRequest.callbackID? : AuthorizeRequest → Option String
  | .authorize _ _ => none
  | .callback callbackID => some callbackID

def AuthorizeRequest.plan (ctx : AuthorizeContext) (m : AuthnSessionManager) :
    AuthorizeRequest → Result OAuthError Unit × List StoreWrite
  | .authorize clientID initAuthnSession => initAuthPlan ctx clientID initAuthnSession
  | .callback callbackID => continueAuthPlan ctx (m.sessionByCallbackID callbackID)

def AuthorizeRequest.serve (ctx : AuthorizeContext) (m : AuthnSessionManager) : AuthorizeRequest → FlowResult
  | .authorize clientID initAuthnSession => initAuth ctx clientID initAuthnSession m
  | .callback callbackID => continueAuth ctx callbackID m

theorem AuthorizeRequest.serve_eq_plan (ctx : AuthorizeContext) (m : AuthnSessionManager) (req : AuthorizeRequest) :
    req.serve ctx m = ((req.plan ctx m).1, m.writeAll (req.plan ctx m).2) := by
  cases req with
  | authorize clientID initAuthnSession => exact initAuth_eq_plan ctx clientID initAuthnSession m
  | callback callbackID => exact continueAuth_eq_plan ctx callbackID m

/-- Not started, started with its response and the writes still to make, or answered. -/
inductive Phase where
  | start
  | writing (result : Result OAuthError Unit) (pending : List StoreWrite)
  | answered (result : Result OAuthError Unit)

/-- One step of a request against the shared store. -/
def advance (ctx : AuthorizeContext) (req : AuthorizeRequest) (m : AuthnSessionManager) :
    Phase → Phase × AuthnSessionManager
  | .start => (.writing (req.plan ctx m).1 (req.plan ctx m).2, m)
  | .writing result [] => (.answered result, m)
  | .writing result (w :: pending) => (.writing result pending, m.write w)
  | .answered result => (.answered result, m)

def advanceAlone (ctx : AuthorizeContext) (req : AuthorizeRequest) :
    Nat → Phase × AuthnSessionManager → Phase × AuthnSessionManager
  | 0, pm => pm
  | k + 1, (p, m) => advanceAlone ctx req k (advance ctx req m p)

theorem advanceAlone_writing (ctx : AuthorizeContext) (req : AuthorizeRequest) (result : Result OAuthError Unit)
    (pending : List StoreWrite) (m : AuthnSessionManager) :
    advanceAlone ctx req (pending.length + 1) (.writing result pending, m) =
      (.answered result, m.writeAll pending) := by
  induction pending generalizing m with
  | nil => rfl
  | cons w pending ih => exact ih (m.write w)

theorem advance_alone (ctx : AuthorizeContext) (req : AuthorizeRequest) (m : AuthnSessionManager) :
    advanceAlone ctx req ((req.plan ctx m).2.length + 2) (.start, m) =
      (.answered (req.serve ctx m).1, (req.serve ctx m).2) := by
  rw [req.serve_eq_plan]
  exact advanceAlone_writing ctx req _ _ m

/-! ### Interleaved requests -/

structure Requests (n : Nat) where
  context : Fin n → AuthorizeContext
  request : Fin n → AuthorizeRequest

structure World (n : Nat) where
  store : AuthnSessionManager
  phase : Fin n → Phase

def World.initial {n : Nat} (m : AuthnSessionManager) : World n := ⟨m, fun _ => .start⟩

def World.step {n : Nat} (rs : Requests n) (w : World n) (i : Fin n) : World n :=
  let next := advance (rs.context i) (rs.request i) w.store (w.phase i)
  ⟨next.2, Function.update w.phase i next.1⟩

/-- Each entry of the schedule is a step of that request. -/
def run {n : Nat} (rs : Requests n) (w : World n) (schedule : List (Fin n)) : World n :=
  schedule.foldl (World.step rs) w

section Independence
variable {n : Nat} (rs : Requests n) (m : AuthnSessionManager)

/-- The session request `i` works on: the one its callback finds, or the one it builds. -/
def Requests.owned (i : Fin n) : Option AuthnSession :=
  match rs.request i with
  | .authorize clientID initAuthnSession => initAuthSession (rs.context i) clientID initAuthnSession
  | .callback callbackID => m.sessionByCallbackID callbackID

def Requests.plan (i : Fin n) : Result OAuthError Unit × List StoreWrite :=
  (rs.request i).plan (rs.context i) m

def Progress (plan : Result OAuthError Unit × List StoreWrite) (done : List StoreWrite) : Phase → Prop
  | .start => done = []
  | .writing result pending => result = plan.1 ∧ done ++ pending = plan.2
  | .answered result => result = plan.1 ∧ done = plan.2

/-- Each request is along its run alone, and every entry no request is for is as it was. -/
structure Tracks (w : World n) : Prop where
  progress : ∀ i, ∃ done, Progress (rs.plan m i) done (w.phase i) ∧
    ∀ s ∈ rs.owned m i, w.store.get s.id = done.foldl SessionMap.write m.get s.id
  untouched : ∀ id, (∀ i, ∀ s ∈ rs.owned m i, s.id ≠ id) → w.store.get id = m.get id

/-- The policies keep a session's keys, each callback ID names at most one stored session, no new
    session takes a callback request's callback ID, and no two requests share a session. -/
structure Independent : Prop where
  keys : ∀ i, KeepsKeys (rs.context i)
  unique : ∀ i, ∀ callbackID ∈ (rs.request i).callbackID?, m.UniqueCallback callbackID
  fresh : ∀ i j, (rs.request i).callbackID? = none → ∀ s ∈ rs.owned m i,
    ∀ callbackID ∈ (rs.request j).callbackID?, s.callbackID ≠ callbackID
  distinct : ∀ i j, ∀ s ∈ rs.owned m i, ∀ t ∈ rs.owned m j, s.id = t.id → i = j

/-- Each answered request did as alone from `m`, and no entry no request is for changed. -/
def AsIfAlone (w : World n) : Prop :=
  (∀ i result, w.phase i = .answered result →
    result = ((rs.request i).serve (rs.context i) m).1 ∧
    ∀ s ∈ rs.owned m i, w.store.get s.id = ((rs.request i).serve (rs.context i) m).2.get s.id) ∧
  ∀ id, (∀ i, ∀ s ∈ rs.owned m i, s.id ≠ id) → w.store.get id = m.get id

variable {rs m}

theorem Progress.mem_plan {plan : Result OAuthError Unit × List StoreWrite} {done : List StoreWrite}
    {phase : Phase} (progress : Progress plan done phase) {x : StoreWrite} (made : x ∈ done) : x ∈ plan.2 := by
  cases phase with
  | start => cases (progress : done = []); simp at made
  | writing result pending => exact progress.2 ▸ List.mem_append_left _ made
  | answered result => exact progress.2 ▸ made

theorem tracks_initial : Tracks rs m (World.initial m) :=
  ⟨fun _ => ⟨[], rfl, fun _ _ => rfl⟩, fun _ _ => rfl⟩

theorem plan_write_id (indep : Independent rs m) {i : Fin n} {x : StoreWrite} (written : x ∈ (rs.plan m i).2) :
    ∃ s ∈ rs.owned m i, x.Keeps s := by
  unfold Requests.plan at written
  unfold Requests.owned
  cases req : rs.request i with
  | authorize clientID initAuthnSession =>
    simp only [req, AuthorizeRequest.plan] at written
    exact initAuthPlan_keeps (indep.keys i) clientID initAuthnSession x written
  | callback callbackID =>
    simp only [req, AuthorizeRequest.plan] at written
    show ∃ s ∈ m.sessionByCallbackID callbackID, x.Keeps s
    cases found : m.sessionByCallbackID callbackID with
    | none => simp [found, continueAuthPlan] at written
    | some s =>
      rw [found] at written
      exact ⟨s, rfl, continueAuthPlan_keeps (indep.keys i) s x written⟩

theorem stored_origin (indep : Independent rs m) {w : World n} (tracks : Tracks rs m w) {t : AuthnSession}
    (stored : t ∈ w.store.sessions) :
    t ∈ m.sessions ∨ ∃ k, ∃ s ∈ rs.owned m k, t.callbackID = s.callbackID ∧ w.phase k ≠ .start := by
  rw [AuthnSessionManager.mem_sessions_iff] at stored
  by_cases owned : ∃ k, ∃ s ∈ rs.owned m k, s.id = t.id
  · obtain ⟨k, s, owner, sameID⟩ := owned
    obtain ⟨done, progress, entry⟩ := tracks.progress k
    rw [← sameID, entry s owner, sameID] at stored
    rcases SessionMap.foldl_write_eq_some stored with before | saved
    · exact .inl ((AuthnSessionManager.mem_sessions_iff m t).mpr before)
    · obtain ⟨s', found', -, keeps⟩ := plan_write_id indep (progress.mem_plan saved)
      refine .inr ⟨k, s', found', keeps t rfl, fun atStart => ?_⟩
      rw [atStart] at progress
      cases (progress : done = []); simp at saved
  · push_neg at owned
    exact .inl ((AuthnSessionManager.mem_sessions_iff m t).mpr (tracks.untouched t.id owned ▸ stored))

theorem callback_holder_initial (indep : Independent rs m) {w : World n} (tracks : Tracks rs m w) {j : Fin n}
    (atStart : w.phase j = .start) {callbackID : String} (req : rs.request j = .callback callbackID)
    {t : AuthnSession} (stored : t ∈ w.store.sessions) (keyed : t.callbackID = callbackID) : t ∈ m.sessions := by
  have isCallback : callbackID ∈ (rs.request j).callbackID? := by simp [req, AuthorizeRequest.callbackID?]
  rcases stored_origin indep tracks stored with before | ⟨k, s, found, sameCallback, started⟩
  · exact before
  have keyedS : s.callbackID = callbackID := sameCallback ▸ keyed
  cases reqK : rs.request k with
  | authorize _ _ =>
    exact absurd keyedS (indep.fresh k j (by simp [reqK, AuthorizeRequest.callbackID?]) s found callbackID isCallback)
  | callback callbackID' =>
    have member := (AuthnSessionManager.firstSession_field (by simpa [Requests.owned, reqK] using found)).1
    have unique := indep.unique j callbackID isCallback
    have foundJ : m.sessionByCallbackID callbackID = some s :=
      AuthnSessionManager.firstSession_eq_some_of_unique member keyedS fun t' stored' keyed' =>
        unique t' stored' s member keyed' keyedS
    cases indep.distinct k j s found s (by simpa [Requests.owned, req] using foundJ) rfl
    exact absurd atStart started

theorem plan_stable (indep : Independent rs m) {w : World n} (tracks : Tracks rs m w) {j : Fin n}
    (atStart : w.phase j = .start) :
    (rs.request j).plan (rs.context j) w.store = rs.plan m j := by
  unfold Requests.plan
  cases req : rs.request j with
  | authorize clientID initAuthnSession => rfl
  | callback callbackID =>
    simp only [AuthorizeRequest.plan]
    congr 1
    have inM := fun t => callback_holder_initial indep tracks atStart req (t := t)
    have unique := indep.unique j callbackID (by simp [req, AuthorizeRequest.callbackID?])
    obtain ⟨done, progress, entry⟩ := tracks.progress j
    rw [atStart] at progress
    cases (progress : done = [])
    cases foundJ : m.sessionByCallbackID callbackID with
    | none =>
      exact AuthnSessionManager.firstSession_eq_none_iff.mpr fun t stored keyed =>
        AuthnSessionManager.firstSession_eq_none_iff.mp foundJ t (inM t stored keyed) keyed
    | some sj =>
      obtain ⟨memberJ, keyedJ⟩ := AuthnSessionManager.firstSession_field foundJ
      have stored : sj ∈ w.store.sessions := by
        rw [AuthnSessionManager.mem_sessions_iff, entry sj (by simpa [Requests.owned, req] using foundJ)]
        exact (AuthnSessionManager.mem_sessions_iff m sj).mp memberJ
      exact AuthnSessionManager.firstSession_eq_some_of_unique stored keyedJ fun t stored' keyed =>
        unique t (inM t stored' keyed) sj memberJ keyed keyedJ

theorem tracks_update {w : World n} (tracks : Tracks rs m w) {j : Fin n} {p : Phase}
    (moves : ∀ done, Progress (rs.plan m j) done (w.phase j) → Progress (rs.plan m j) done p) :
    Tracks rs m ⟨w.store, Function.update w.phase j p⟩ := by
  refine ⟨fun i => ?_, tracks.untouched⟩
  obtain ⟨done, progress, entry⟩ := tracks.progress i
  by_cases same : i = j
  · subst same
    exact ⟨done, by simpa using moves done progress, entry⟩
  · exact ⟨done, by simpa [same] using progress, entry⟩

theorem tracks_write (indep : Independent rs m) {w : World n} (tracks : Tracks rs m w) {j : Fin n}
    {result : Result OAuthError Unit} {x : StoreWrite} {pending : List StoreWrite}
    (atWrite : w.phase j = .writing result (x :: pending)) :
    Tracks rs m ⟨w.store.write x, Function.update w.phase j (.writing result pending)⟩ := by
  obtain ⟨doneJ, progressJ, -⟩ := tracks.progress j
  rw [atWrite] at progressJ
  obtain ⟨sj, foundJ, xID, -⟩ :=
    plan_write_id indep (progressJ.2 ▸ List.mem_append_right doneJ (List.mem_cons_self x pending))
  have elsewhere : ∀ id, id ≠ x.id → (w.store.write x).get id = w.store.get id := fun id other => by
    rw [AuthnSessionManager.get_write, SessionMap.write_apply, if_neg other]
  refine ⟨fun i => ?_, fun id unowned => ?_⟩
  · obtain ⟨done, progress, entry⟩ := tracks.progress i
    by_cases same : i = j
    · subst same
      rw [atWrite] at progress
      have moved : Progress (rs.plan m i) (done ++ [x]) (.writing result pending) :=
        ⟨progress.1, by simpa using progress.2⟩
      refine ⟨done ++ [x], by simpa using moved, fun s found => ?_⟩
      rw [AuthnSessionManager.get_write, List.foldl_append, List.foldl_cons, List.foldl_nil,
        SessionMap.write_apply, SessionMap.write_apply, entry s found]
    · refine ⟨done, by simpa [same] using progress, fun s found => ?_⟩
      rw [elsewhere s.id fun sameID => same (indep.distinct i j s found sj foundJ (sameID.trans xID)),
        entry s found]
  · rw [elsewhere id fun sameID => unowned j sj foundJ (xID.symm.trans sameID.symm), tracks.untouched id unowned]

theorem tracks_step (indep : Independent rs m) {w : World n} (tracks : Tracks rs m w) (j : Fin n) :
    Tracks rs m (w.step rs j) := by
  cases atJ : w.phase j with
  | start =>
    simp only [World.step, atJ, advance, plan_stable indep tracks atJ]
    exact tracks_update tracks fun done progress => by
      rw [atJ] at progress
      cases (progress : done = [])
      exact ⟨rfl, rfl⟩
  | writing result pending =>
    cases pending with
    | nil =>
      simp only [World.step, atJ, advance]
      exact tracks_update tracks fun done progress => by
        rw [atJ] at progress
        exact ⟨progress.1, by simpa using progress.2⟩
    | cons x pending =>
      simp only [World.step, atJ, advance]
      exact tracks_write indep tracks atJ
  | answered result =>
    simp only [World.step, atJ, advance]
    exact tracks_update tracks fun done progress => atJ ▸ progress

theorem tracks_run (indep : Independent rs m) (schedule : List (Fin n)) :
    Tracks rs m (run rs (World.initial m) schedule) := by
  suffices ∀ w, Tracks rs m w → Tracks rs m (schedule.foldl (World.step rs) w) from
    this _ tracks_initial
  induction schedule with
  | nil => exact fun _ tracks => tracks
  | cons j schedule ih => exact fun w tracks => ih _ (tracks_step indep tracks j)

theorem interleaved_requests_independent (indep : Independent rs m) (schedule : List (Fin n)) :
    AsIfAlone rs m (run rs (World.initial m) schedule) := by
  have tracks := tracks_run indep schedule
  refine ⟨fun i result answered => ?_, tracks.untouched⟩
  obtain ⟨done, progress, entry⟩ := tracks.progress i
  rw [answered] at progress
  obtain ⟨rfl, rfl⟩ := progress
  rw [AuthorizeRequest.serve_eq_plan]
  exact ⟨rfl, fun s found => by rw [entry s found, AuthnSessionManager.get_writeAll]; rfl⟩

end Independence

/-! ### A new login and two callbacks at once -/

def thirdLogin : AuthnSession := { firstLogin with id := "session-3", callbackID := "callback-3" }

def threeRequests : Requests 3 :=
  ⟨fun _ => loginContext, fun i =>
    if i = 0 then .authorize "client" fun _ => .ok thirdLogin
    else if i = 1 then .callback firstLogin.callbackID else .callback secondLogin.callbackID⟩

theorem threeRequests_interleaved :
    Independent threeRequests twoLogins ∧
      AsIfAlone threeRequests twoLogins (run threeRequests (World.initial twoLogins) [1, 0, 2, 1, 0, 2, 2, 1, 0]) := by
  have indep : Independent threeRequests twoLogins :=
    ⟨fun _ => loginContext_keepsKeys, by decide, by decide, by decide⟩
  exact ⟨indep, interleaved_requests_independent indep _⟩

end GoOidc.Authorize
