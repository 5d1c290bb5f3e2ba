import GoOidc.RefreshToken.Grant
import Mathlib.Logic.Function.Basic

/-!
Refresh requests served at once share the grant-session store, each in three steps: the lookup
by refresh token, client authentication with validation, and the write; run alone they are the
handler (`advance_three_times`). With no compare-and-swap, two requests that both read before
either writes both succeed (`interleaved_refreshes_both_answered`); over every interleaving with
rotation on and fresh tokens, exactly one token handed out resolves afterwards, and requests run
one after another succeed at most once (`rotation_keeps_one_token`).
-/

namespace GoOidc.RefreshToken

/-- Not started, past the lookup, past validation (the session to write and the response), or answered. -/
inductive Phase where
  | start
  | loaded (grantSessionResult : Except OAuthError GrantSession)
  | validated (updated : GrantSession) (response : TokenResponse)
  | answered (result : Except OAuthError TokenResponse)

def advance (ctx : RefreshContext) (req : TokenRequest) (m : GrantSessionManager) :
    Phase → Phase × GrantSessionManager
  | .start =>
    match preValidateRefreshTokenGrantRequest req with
    | some _ => (.answered (.error ⟨errorCodeInvalidRequest, "invalid parameter for refresh token grant"⟩), m)
    | none => (.loaded (getGrantSessionByRefreshToken m req.refreshToken), m)
  | .loaded grantSessionResult =>
    match getAuthenticatedClientAndGrantSession ctx grantSessionResult with
    | .error err => (.answered (.error err), m)
    | .ok (client, gs) =>
      match validateRefreshTokenGrantRequest ctx req client gs with
      | some err => (.answered (.error err), m)
      | none =>
        let token := ctx.makeToken client gs.grantOptions
        let updated := updatedGrantSession ctx gs req token
        (.validated updated (tokenResponse ctx client updated token), m)
  | .validated updated response => (.answered (.ok response), m.createOrUpdate updated)
  | .answered result => (.answered result, m)

theorem advance_three_times (ctx : RefreshContext) (req : TokenRequest) (m : GrantSessionManager) :
    (let (p₁, m₁) := advance ctx req m .start
     let (p₂, m₂) := advance ctx req m₁ p₁
     advance ctx req m₂ p₂) =
      (.answered (handleRefreshTokenGrantTokenCreation ctx m req).1,
        (handleRefreshTokenGrantTokenCreation ctx m req).2) := by
  unfold handleRefreshTokenGrantTokenCreation
  cases pre : preValidateRefreshTokenGrantRequest req with
  | some _ => simp [advance, pre]
  | none =>
    cases found : getAuthenticatedClientAndGrantSession ctx (getGrantSessionByRefreshToken m req.refreshToken) with
    | error _ => simp [advance, pre, found]
    | ok pair =>
      cases valid : validateRefreshTokenGrantRequest ctx req pair.1 pair.2 <;>
        simp [advance, pre, found, valid, updateRefreshTokenGrantSession]

/-! ### Interleaved requests -/

structure Requests where
  context : Nat → RefreshContext
  request : Nat → TokenRequest

structure World where
  store : GrantSessionManager
  phase : Nat → Phase

def World.initial (m : GrantSessionManager) : World := ⟨m, fun _ => .start⟩

def World.step (rs : Requests) (w : World) (i : Nat) : World :=
  let next := advance (rs.context i) (rs.request i) w.store (w.phase i)
  ⟨next.2, Function.update w.phase i next.1⟩

def run (rs : Requests) (w : World) (schedule : List Nat) : World :=
  schedule.foldl (World.step rs) w

def serialSchedule (order : List Nat) : List Nat := order.flatMap fun i => [i, i, i]

def World.Answered (w : World) (i : Nat) (response : TokenResponse) : Prop :=
  w.phase i = .answered (.ok response)

def AtMostOneAnswered (w : World) : Prop :=
  ∀ i j responseI responseJ, w.Answered i responseI → w.Answered j responseJ → i = j

/-- Of the answered requests' refresh tokens at most one resolves, and one does once any is answered. -/
def OneLiveToken (grantID : String) (w : World) : Prop :=
  (∀ i j responseI responseJ, w.Answered i responseI → w.Answered j responseJ →
    (w.store.getByRefreshToken responseI.refreshToken).isSome →
    (w.store.getByRefreshToken responseJ.refreshToken).isSome → i = j) ∧
  ((∃ i response, w.Answered i response) → ∃ k response, w.Answered k response ∧
    ∃ gs, w.store.getByRefreshToken response.refreshToken = some gs ∧ gs.id = grantID)

/-! ### What one step does -/

section Steps
variable {ctx : RefreshContext} {req : TokenRequest} {m : GrantSessionManager}

theorem advance_start :
    (∃ err, advance ctx req m .start = (.answered (.error err), m)) ∨
      advance ctx req m .start = (.loaded (getGrantSessionByRefreshToken m req.refreshToken), m) := by
  simp only [advance]
  split
  · exact .inl ⟨_, rfl⟩
  · exact .inr rfl

theorem advance_loaded {grantSessionResult : Except OAuthError GrantSession} :
    (∃ err, advance ctx req m (.loaded grantSessionResult) = (.answered (.error err), m)) ∨
      ∃ client gs, grantSessionResult = .ok gs ∧
        advance ctx req m (.loaded grantSessionResult) =
          (.validated (updatedGrantSession ctx gs req (ctx.makeToken client gs.grantOptions))
            (tokenResponse ctx client (updatedGrantSession ctx gs req (ctx.makeToken client gs.grantOptions))
              (ctx.makeToken client gs.grantOptions)), m) := by
  simp only [advance]
  split
  · exact .inl ⟨_, rfl⟩
  · next client gs found =>
    split
    · exact .inl ⟨_, rfl⟩
    · exact .inr ⟨client, gs, (getAuthenticatedClientAndGrantSession_eq_ok.mp found).2, rfl⟩

theorem advance_loaded_error {err : OAuthError} :
    ∃ err', advance ctx req m (.loaded (.error err)) = (.answered (.error err'), m) := by
  rcases advance_loaded with refused | ⟨_, _, found, _⟩
  · exact refused
  · cases found

@[simp] theorem advance_answered {result : Except OAuthError TokenResponse} :
    advance ctx req m (.answered result) = (.answered result, m) := rfl

end Steps

section Frame
variable {rs : Requests} {w : World} {i j : Nat}

@[simp] theorem step_store :
    (w.step rs i).store = (advance (rs.context i) (rs.request i) w.store (w.phase i)).2 := rfl

@[simp] theorem step_phase_self :
    (w.step rs i).phase i = (advance (rs.context i) (rs.request i) w.store (w.phase i)).1 := by
  simp [World.step]

theorem step_phase_other (other : j ≠ i) : (w.step rs i).phase j = w.phase j := by
  simp [World.step, Function.update_noteq other]

theorem step_of_answered {result : Except OAuthError TokenResponse}
    (answered : w.phase i = .answered result) : w.step rs i = w := by
  simp only [World.step, answered, advance_answered]
  rw [← answered, Function.update_eq_self]

theorem run_append (w : World) (first rest : List Nat) :
    run rs w (first ++ rest) = run rs (run rs w first) rest := List.foldl_append _ _ _ _

theorem update_phase_eq {phase : Nat → Phase} {p q : Phase} (updated : Function.update phase i p j = q) :
    (j = i ∧ p = q) ∨ (j ≠ i ∧ phase j = q) := by
  rw [Function.update_apply] at updated
  exact ite_eq_iff.mp updated

end Frame

/-! ### Every interleaving -/

section Interleavings
variable (rs : Requests) (m0 : GrantSessionManager) (g0 : GrantSession)

/-- Every request presents the refresh token of `g0`, the one stored session holding it, rotation
    is on, and each request draws its own refresh token, held by no stored session. -/
structure RotatingRun : Prop where
  stored : g0 ∈ m0.sessions
  onlyHolder : ∀ s ∈ m0.sessions, s.refreshToken = g0.refreshToken → s = g0
  presents : ∀ i, (rs.request i).refreshToken = g0.refreshToken
  rotates : ∀ i, (rs.context i).shouldRotateRefreshTokens = true
  unused : ∀ i, ∀ s ∈ m0.sessions, s.refreshToken ≠ (rs.context i).generatedRefreshToken
  distinct : ∀ i j, (rs.context i).generatedRefreshToken = (rs.context j).generatedRefreshToken → i = j

structure RunInvariant (w : World) : Prop where
  others : ∀ s ∈ w.store.sessions, s.id ≠ g0.id → s ∈ m0.sessions
  /-- `g0`'s refresh token while no request is answered, afterwards an answered request's. -/
  grant : ∃ cur ∈ w.store.sessions, cur.id = g0.id ∧
    ((cur.refreshToken = g0.refreshToken ∧ ∀ i response, ¬ w.Answered i response) ∨
      ∃ k response, w.Answered k response ∧ cur.refreshToken = (rs.context k).generatedRefreshToken)
  loaded : ∀ i gs, w.phase i = .loaded (.ok gs) → gs.id = g0.id
  validated : ∀ i updated response, w.phase i = .validated updated response →
    updated.id = g0.id ∧ updated.refreshToken = (rs.context i).generatedRefreshToken ∧
      response.refreshToken = (rs.context i).generatedRefreshToken
  answered : ∀ i response, w.Answered i response →
    response.refreshToken = (rs.context i).generatedRefreshToken

variable {rs m0 g0}

theorem step_eq {w : World} {i : Nat} {current p : Phase} {m : GrantSessionManager}
    (phase : w.phase i = current) (next : advance (rs.context i) (rs.request i) w.store current = (p, m)) :
    w.step rs i = ⟨m, Function.update w.phase i p⟩ := by
  simp [World.step, phase, next]

theorem RunInvariant.update {w : World} (inv : RunInvariant rs m0 g0 w) {i : Nat} {p : Phase}
    (wasNot : ∀ response, ¬ w.Answered i response)
    (isNot : ∀ response, p ≠ .answered (.ok response))
    (loadedGrant : ∀ gs, p = .loaded (.ok gs) → gs.id = g0.id)
    (validatedGrant : ∀ updated response, p = .validated updated response →
      updated.id = g0.id ∧ updated.refreshToken = (rs.context i).generatedRefreshToken ∧
        response.refreshToken = (rs.context i).generatedRefreshToken) :
    RunInvariant rs m0 g0 ⟨w.store, Function.update w.phase i p⟩ where
  others := inv.others
  grant := by
    obtain ⟨cur, member, sameID, state⟩ := inv.grant
    refine ⟨cur, member, sameID, ?_⟩
    rcases state with ⟨holds, unanswered⟩ | ⟨k, response, answered, holds⟩
    · refine .inl ⟨holds, fun j response answered => ?_⟩
      rcases update_phase_eq answered with ⟨-, rfl⟩ | ⟨-, answered⟩
      · exact isNot response rfl
      · exact unanswered j response answered
    · have other : k ≠ i := fun same => wasNot response (same ▸ answered)
      exact .inr ⟨k, response, (Function.update_noteq other _ _).trans answered, holds⟩
  loaded j gs loaded := by
    rcases update_phase_eq loaded with ⟨-, rfl⟩ | ⟨-, loaded⟩
    · exact loadedGrant gs rfl
    · exact inv.loaded j gs loaded
  validated j updated response validated := by
    rcases update_phase_eq validated with ⟨rfl, rfl⟩ | ⟨-, validated⟩
    · exact validatedGrant updated response rfl
    · exact inv.validated j updated response validated
  answered j response answered := by
    rcases update_phase_eq answered with ⟨-, rfl⟩ | ⟨-, answered⟩
    · exact absurd rfl (isNot response)
    · exact inv.answered j response answered

theorem RunInvariant.refuse {w : World} (inv : RunInvariant rs m0 g0 w) {i : Nat}
    (wasNot : ∀ response, ¬ w.Answered i response) (err : OAuthError) :
    RunInvariant rs m0 g0 ⟨w.store, Function.update w.phase i (.answered (.error err))⟩ :=
  inv.update wasNot (fun _ same => nomatch same) (fun _ same => nomatch same) fun _ _ same => nomatch same

theorem RunInvariant.write {w : World} (inv : RunInvariant rs m0 g0 w) {i : Nat}
    {updated : GrantSession} {response : TokenResponse}
    (validated : w.phase i = .validated updated response) :
    RunInvariant rs m0 g0
      ⟨w.store.createOrUpdate updated, Function.update w.phase i (.answered (.ok response))⟩ := by
  obtain ⟨grantID, drew, returned⟩ := inv.validated i updated response validated
  refine ⟨fun s member other => ?_, ⟨updated, GrantSessionManager.mem_createOrUpdate.mpr (.inl rfl),
    grantID, .inr ⟨i, response, Function.update_same _ _ _, drew⟩⟩, fun j gs loaded => ?_,
    fun j updated' response' validated' => ?_, fun j response' answered => ?_⟩
  · rcases GrantSessionManager.mem_createOrUpdate.mp member with rfl | ⟨old, -⟩
    · exact absurd grantID other
    · exact inv.others s old other
  · rcases update_phase_eq loaded with ⟨-, written⟩ | ⟨-, loaded⟩
    · cases written
    · exact inv.loaded j gs loaded
  · rcases update_phase_eq validated' with ⟨-, written⟩ | ⟨-, validated'⟩
    · cases written
    · exact inv.validated j updated' response' validated'
  · rcases update_phase_eq answered with ⟨rfl, written⟩ | ⟨-, answered⟩
    · cases written
      exact returned
    · exact inv.answered j response' answered

variable (rotating : RotatingRun rs m0 g0)
include rotating

theorem runInvariant_initial : RunInvariant rs m0 g0 (World.initial m0) where
  others _ member _ := member
  grant := ⟨g0, rotating.stored, rfl, .inl ⟨rfl, fun _ _ answered => nomatch answered⟩⟩
  loaded _ _ loaded := nomatch loaded
  validated _ _ _ validated := nomatch validated
  answered _ _ answered := nomatch answered

theorem grant_of_refreshToken {w : World} (inv : RunInvariant rs m0 g0 w) {s : GrantSession}
    (member : s ∈ w.store.sessions)
    (holds : s.refreshToken = g0.refreshToken ∨ ∃ i, s.refreshToken = (rs.context i).generatedRefreshToken) :
    s.id = g0.id := by
  by_contra other
  have original := inv.others s member other
  rcases holds with holds | ⟨i, holds⟩
  · exact other (congrArg GrantSession.id (rotating.onlyHolder s original holds))
  · exact rotating.unused i s original holds

theorem runInvariant_step {w : World} (inv : RunInvariant rs m0 g0 w) (i : Nat) :
    RunInvariant rs m0 g0 (w.step rs i) := by
  cases phase : w.phase i with
  | start =>
    have wasNot : ∀ response, ¬ w.Answered i response := fun _ answered =>
      nomatch phase.symm.trans answered
    rcases @advance_start (rs.context i) (rs.request i) w.store with ⟨err, refused⟩ | looked
    · rw [step_eq phase refused]
      exact inv.refuse wasNot err
    · rw [step_eq phase looked]
      refine inv.update wasNot (fun _ same => nomatch same) (fun gs loaded => ?_)
        fun _ _ same => nomatch same
      obtain ⟨member, holds⟩ := GrantSessionManager.getByRefreshToken_mem
        (getGrantSessionByRefreshToken_eq_ok.mp (Phase.loaded.inj loaded))
      exact grant_of_refreshToken rotating inv member (.inl (holds.trans (rotating.presents i)))
  | loaded result =>
    have wasNot : ∀ response, ¬ w.Answered i response := fun _ answered =>
      nomatch phase.symm.trans answered
    rcases @advance_loaded (rs.context i) (rs.request i) w.store result with
      ⟨err, refused⟩ | ⟨client, gs, found, validated⟩
    · rw [step_eq phase refused]
      exact inv.refuse wasNot err
    · rw [step_eq phase validated]
      refine inv.update wasNot (fun _ same => nomatch same) (fun _ same => nomatch same)
        fun updated response same => ?_
      obtain ⟨rfl, rfl⟩ := Phase.validated.inj same
      have grantID := inv.loaded i gs (phase.trans (congrArg Phase.loaded found))
      simp [updatedGrantSession, tokenResponse, grantID, rotating.rotates i]
  | validated updated response =>
    rw [step_eq phase rfl]
    exact inv.write phase
  | answered result =>
    rw [step_of_answered phase]
    exact inv

theorem runInvariant_run {w : World} (inv : RunInvariant rs m0 g0 w) (schedule : List Nat) :
    RunInvariant rs m0 g0 (run rs w schedule) := by
  induction schedule generalizing w with
  | nil => exact inv
  | cons i rest ih => exact ih (runInvariant_step rotating inv i)

theorem oneLiveToken_of_runInvariant {w : World} (inv : RunInvariant rs m0 g0 w) :
    OneLiveToken g0.id w := by
  obtain ⟨cur, current, curID, state⟩ := inv.grant
  have live : ∀ i response, w.Answered i response →
      (w.store.getByRefreshToken response.refreshToken).isSome →
      cur.refreshToken = (rs.context i).generatedRefreshToken := by
    intro i response answered found
    obtain ⟨s, resolved⟩ := Option.isSome_iff_exists.mp found
    obtain ⟨member, holds⟩ := GrantSessionManager.getByRefreshToken_mem resolved
    rw [inv.answered i response answered] at holds
    have sameID := grant_of_refreshToken rotating inv member (.inr ⟨i, holds⟩)
    rwa [← GrantSessionManager.eq_of_id_eq member current (sameID.trans curID.symm)]
  refine ⟨fun i j responseI responseJ answeredI answeredJ liveI liveJ =>
    rotating.distinct i j ((live i responseI answeredI liveI).symm.trans
      (live j responseJ answeredJ liveJ)), ?_⟩
  rintro ⟨i, response, answered⟩
  rcases state with ⟨-, unanswered⟩ | ⟨k, response', answered', holds⟩
  · exact absurd answered (unanswered i response)
  · obtain ⟨s, resolved⟩ := Option.isSome_iff_exists.mp
      (GrantSessionManager.getByRefreshToken_isSome current)
    have returned := inv.answered k response' answered'
    rw [holds, ← returned] at resolved
    obtain ⟨member, token⟩ := GrantSessionManager.getByRefreshToken_mem resolved
    exact ⟨k, response', answered', s, resolved,
      grant_of_refreshToken rotating inv member (.inr ⟨k, token.trans returned⟩)⟩

theorem lookup_after_answer {w : World} (inv : RunInvariant rs m0 g0 w) {k : Nat}
    {response : TokenResponse} (answered : w.Answered k response) :
    w.store.getByRefreshToken g0.refreshToken = none := by
  obtain ⟨cur, current, curID, state⟩ := inv.grant
  rcases state with ⟨-, unanswered⟩ | ⟨k', -, -, holds⟩
  · exact absurd answered (unanswered k response)
  · cases found : w.store.getByRefreshToken g0.refreshToken with
    | none => rfl
    | some s =>
      obtain ⟨member, token⟩ := GrantSessionManager.getByRefreshToken_mem found
      have same := GrantSessionManager.eq_of_id_eq member current
        ((grant_of_refreshToken rotating inv member (.inl token)).trans curID.symm)
      subst same
      exact absurd (token.symm.trans holds) (rotating.unused k' g0 rotating.stored)

theorem refused_after_answer {w : World} (inv : RunInvariant rs m0 g0 w) {i k : Nat}
    {response : TokenResponse} (fresh : w.phase i = .start) (answered : w.Answered k response) :
    ∃ err, (run rs w [i, i, i]).phase i = .answered (.error err) := by
  have first : (∃ err, (w.step rs i).phase i = .answered (.error err)) ∨
      ∃ err, (w.step rs i).phase i = .loaded (.error err) := by
    rcases @advance_start (rs.context i) (rs.request i) w.store with ⟨err, refused⟩ | looked
    · exact .inl ⟨err, by simp [fresh, refused]⟩
    · exact .inr ⟨⟨errorCodeInvalidRequest, "invalid refresh_token"⟩, by
        simp [fresh, looked, getGrantSessionByRefreshToken, rotating.presents i,
          lookup_after_answer rotating inv answered]⟩
  have second : ∃ err, ((w.step rs i).step rs i).phase i = .answered (.error err) := by
    rcases first with ⟨err, refused⟩ | ⟨err, failed⟩
    · exact ⟨err, by rw [step_of_answered refused]; exact refused⟩
    · obtain ⟨err', refused⟩ := @advance_loaded_error (rs.context i) (rs.request i) (w.step rs i).store err
      exact ⟨err', by rw [step_phase_self, failed]; exact congrArg Prod.fst refused⟩
  obtain ⟨err, refused⟩ := second
  exact ⟨err, by show (((w.step rs i).step rs i).step rs i).phase i = _; rw [step_of_answered refused]; exact refused⟩

theorem atMostOneAnswered_serial {w : World} (inv : RunInvariant rs m0 g0 w)
    (atMostOne : AtMostOneAnswered w) (order : List Nat) (distinct : order.Nodup)
    (fresh : ∀ i ∈ order, w.phase i = .start) :
    AtMostOneAnswered (run rs w (serialSchedule order)) := by
  induction order generalizing w with
  | nil => exact atMostOne
  | cons i rest ih =>
    obtain ⟨notMem, restDistinct⟩ := List.nodup_cons.mp distinct
    have frame : ∀ j, j ≠ i → (run rs w [i, i, i]).phase j = w.phase j := fun j other => by
      simp [run, step_phase_other other]
    have before : ∀ j response, j ≠ i → (run rs w [i, i, i]).Answered j response →
        w.Answered j response := fun j response other answered => (frame j other).symm.trans answered
    have refusedI : ∀ j response response', j ≠ i → (run rs w [i, i, i]).Answered j response →
        ¬ (run rs w [i, i, i]).Answered i response' := fun j response response' other answered answeredI => by
      obtain ⟨err, refused⟩ := refused_after_answer rotating inv (fresh i (List.mem_cons_self _ _))
        (before j response other answered)
      cases refused.symm.trans answeredI
    rw [serialSchedule, List.flatMap_cons, run_append]
    refine ih (runInvariant_run rotating inv _) ?_ restDistinct fun j member =>
      (frame j (fun same => notMem (same ▸ member))).trans (fresh j (List.mem_cons_of_mem _ member))
    intro a b responseA responseB answeredA answeredB
    by_cases ai : a = i <;> by_cases bi : b = i
    · exact ai.trans bi.symm
    · exact absurd (ai ▸ answeredA) (refusedI b responseB responseA bi answeredB)
    · exact absurd (bi ▸ answeredB) (refusedI a responseA responseB ai answeredA)
    · exact atMostOne a b responseA responseB (before a responseA ai answeredA) (before b responseB bi answeredB)

end Interleavings

/-- With rotation on and fresh refresh tokens, over every interleaving exactly one of the tokens
    handed out resolves afterwards; requests run one after another succeed at most once. -/
theorem rotation_keeps_one_token (rs : Requests) (m0 : GrantSessionManager) (g0 : GrantSession)
    (rotating : RotatingRun rs m0 g0) :
    (∀ schedule, OneLiveToken g0.id (run rs (World.initial m0) schedule)) ∧
      ∀ order, order.Nodup → AtMostOneAnswered (run rs (World.initial m0) (serialSchedule order)) :=
  ⟨fun schedule => oneLiveToken_of_runInvariant rotating
      (runInvariant_run rotating (runInvariant_initial rotating) schedule),
    fun order distinct => atMostOneAnswered_serial rotating (runInvariant_initial rotating)
      (fun _ _ _ _ answered => nomatch answered) order distinct fun _ _ => rfl⟩

/-! ### Two requests that read before either writes -/

def drawn (i : Nat) : String := String.mk (List.replicate (i + 1) 'n')

theorem drawn_injective {i j : Nat} (same : drawn i = drawn j) : i = j := by
  simpa [drawn] using congrArg (fun s => s.data.length) same

theorem drawn_ne_r (i : Nat) : "r" ≠ drawn i := fun same =>
  absurd (congrArg (fun s => s.data.head?) same) (by simp [drawn, List.replicate_succ])

def twoRefreshes : Requests where
  context i := rotatingContext (drawn i)
  request _ := ⟨"r", ""⟩

def interleaved : World := run twoRefreshes (World.initial emailGrantStore) [0, 1, 0, 1, 0, 1]

/-- Both requests return a token response; the first one's refresh token no longer resolves. -/
theorem interleaved_refreshes_both_answered :
    (∃ response, interleaved.Answered 0 response ∧ response.refreshToken = drawn 0) ∧
      (∃ response, interleaved.Answered 1 response ∧ response.refreshToken = drawn 1) ∧
      interleaved.store.getByRefreshToken (drawn 0) = none := by
  refine ⟨⟨_, rfl, rfl⟩, ⟨_, rfl, rfl⟩, by decide⟩

theorem twoRefreshes_keep_one_token :
    RotatingRun twoRefreshes emailGrantStore emailGrant ∧
      ((∀ schedule, OneLiveToken emailGrant.id (run twoRefreshes (World.initial emailGrantStore) schedule)) ∧
        ∀ order, order.Nodup →
          AtMostOneAnswered (run twoRefreshes (World.initial emailGrantStore) (serialSchedule order))) :=
  have rotating : RotatingRun twoRefreshes emailGrantStore emailGrant :=
    ⟨List.mem_singleton_self _, fun _ member _ => List.mem_singleton.mp member, fun _ => rfl,
      fun _ => rfl, fun i _ member => by rw [List.mem_singleton.mp member]; exact drawn_ne_r i,
      fun _ _ same => drawn_injective same⟩
  ⟨rotating, rotation_keeps_one_token twoRefreshes emailGrantStore emailGrant rotating⟩

end GoOidc.RefreshToken
