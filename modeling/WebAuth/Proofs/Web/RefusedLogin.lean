import WebAuth.Proofs.Web.OneUser

/-!
# Requests that the authentication refuses

The authentication of a request can fail in three places: the authenticator is refused, it finds
nobody where somebody is required, or it finds an identity whose login is refused.  In the first
two the request goes back as it came.  In the third its session has been detached for the login
and is not attached again, while an identity that was restored from it stays.  Such a request
counts as authenticated from then on.

Main results:

- Theorem `Filter.refusal_of_authentication`: the three refusals, and the request that each
  leaves.
- Theorem `Filter.passes_of_losesSession`: a request that has lost its session passes when it is
  authenticated again.
- Theorem `Filter.keepsRefused_iff_not_losesSession`: which requests a refusal leaves as they
  were.
- Theorem `Filter.not_keepsRefused_crowded`: a limit that is reached can cost a guest's request
  its session.
-/

namespace WebAuth.Web

open Http LoginStrategy

namespace Filter

variable {a : Authenticator} {hook : LoginHook} {required : Bool} {p left : Passage}
  {e : AccessError}

/-! ## The three refusals -/

/-- Why an authentication is refused, and the request that it leaves. -/
inductive Refusal (a : Authenticator) (hook : LoginHook) (required : Bool) (p : Passage) :
    AccessError → Request → Prop where
  /-- The authenticator is refused. -/
  | unanswered {e : AccessError} {w : World}
      (hanswer : a.authenticate p.request p.world = (.refused e, w)) :
      Refusal a hook required p e p.request
  /-- Nobody is found where somebody is required. -/
  | anonymous {w : World} (hanswer : a.authenticate p.request p.world = (.value none, w))
      (hrequired : required = true) (hnobody : p.attachments.identity = none) :
      Refusal a hook required p .unauthenticated p.request
  /-- The login of the identity that is found is refused. -/
  | rejected {i : Identity} {w : World} {reason : LoginError} {s : LoginState}
      (hanswer : a.authenticate p.request p.world = (.value (some i), w))
      (hlogin : hook i p.request.withoutSession ⟨p.attachments.session, w.realm⟩ =
        (.refused reason, s)) :
      Refusal a hook required p reason.toAccessError p.request.withoutSession

/-- A request that has an identity without a session is let pass as it is. -/
theorem authentication_run_of_not_asked
    (h : (p.attachments.identity.isSome && p.attachments.session.isNone) = true)
    (a : Authenticator) (hook : LoginHook) (required : Bool) :
    (authentication a hook required).run p = (.value (), p) := by
  simp only [authentication]
  rw [Run.bind_value (Run.reads_apply _ _)]
  simp only [h, if_true]
  rfl

/-- A login that is refused leaves the request without its session. -/
theorem establish_eq_refused_iff {i : Identity} :
    establish hook i p = (.refused e, left) ↔
      ∃ reason s, hook i p.request.withoutSession ⟨p.attachments.session, p.world.realm⟩ =
          (.refused reason, s) ∧
        reason.toAccessError = e ∧
        ⟨p.request.withoutSession, { p.world with realm := s.realm }⟩ = left := by
  rw [establish_apply]
  rcases hook i p.request.withoutSession ⟨p.attachments.session, p.world.realm⟩ with
    ⟨done | reason | _, s⟩
  · simp
  · constructor
    · intro h
      cases h
      exact ⟨reason, s, rfl, rfl, rfl⟩
    · rintro ⟨_, _, hlogin, rfl, rfl⟩
      cases hlogin
      rfl
  · simp

/-- An authentication is refused in one of three places. -/
theorem refusal_of_authentication
    (h : (authentication a hook required).run p = (.refused e, left)) :
    Refusal a hook required p e left.request := by
  cases hasked : p.attachments.identity.isSome && p.attachments.session.isNone with
  | true =>
      rw [authentication_run_of_not_asked hasked] at h
      cases h
  | false =>
      rw [authentication_run_of_asked hasked, Run.bind_apply, Passage.inWorld,
        Run.within_apply] at h
      rcases hanswer : a.authenticate p.request p.world with ⟨found | reason | _, w⟩
      · rw [hanswer] at h
        cases found with
        | some i =>
            obtain ⟨reason, s, hlogin, rfl, rfl⟩ := establish_eq_refused_iff.mp h
            exact .rejected hanswer hlogin
        | none =>
            by_cases hmissing : (required && p.attachments.identity.isNone) = true
            · simp only [hmissing, if_true] at h
              cases h
              rw [Bool.and_eq_true, Option.isNone_iff_eq_none] at hmissing
              exact .anonymous hanswer hmissing.1 hmissing.2
            · simp only [hmissing] at h
              cases h
      · rw [hanswer] at h
        cases h
        exact .unanswered hanswer
      · rw [hanswer] at h
        cases h

/-! ## Lost sessions -/

/-- A request loses its session: it comes with one, and with the credentials of an identity
whose login is refused. -/
inductive LosesSession (a : Authenticator) (hook : LoginHook) (p : Passage) : Prop where
  | rejected {session : Session} {i : Identity} {w : World} {reason : LoginError}
      {s : LoginState} (hsession : p.attachments.session = some session)
      (hanswer : a.authenticate p.request p.world = (.value (some i), w))
      (hlogin : hook i p.request.withoutSession ⟨some session, w.realm⟩ = (.refused reason, s))

/-- A refusal leaves the identity and the session of a request as they were. -/
def KeepsRefused (f : Filter) (p : Passage) : Prop :=
  ∀ e left, f.run p = (.refused e, left) →
    left.attachments.identity = p.attachments.identity ∧
      left.attachments.session = p.attachments.session

/-- A request whose session is lost is refused, and goes back without it. -/
theorem refused_of_losesSession (h : LosesSession a hook p) (required : Bool) :
    ∃ e left, (authentication a hook required).run p = (.refused e, left) ∧
      left.request = p.request.withoutSession := by
  obtain @⟨session, i, w, reason, s, hsession, hanswer, hlogin⟩ := h
  have hasked : (p.attachments.identity.isSome && p.attachments.session.isNone) = false := by
    rw [hsession, Option.isNone_some, Bool.and_false]
  have hworld : Passage.inWorld (a.authenticate p.request) p =
      (.value (some i), ⟨p.request, w⟩) := by
    rw [Passage.inWorld, Run.within_apply, hanswer]
  rw [← hsession] at hlogin
  refine ⟨reason.toAccessError, ⟨p.request.withoutSession, { w with realm := s.realm }⟩, ?_, rfl⟩
  rw [authentication_run_of_asked hasked, Run.bind_value hworld]
  exact establish_eq_refused_iff.mpr ⟨reason, s, hlogin, rfl, rfl⟩

/-- A request with an identity that has lost its session passes when it is authenticated
again. -/
theorem passes_of_losesSession (hloses : LosesSession a hook p)
    (hidentity : p.attachments.identity.isSome = true)
    (h : (authentication a hook required).run p = (.refused e, left)) :
    (authentication a hook required).run left = (.value (), left) := by
  refine authentication_run_of_not_asked ?_ a hook required
  obtain ⟨e', left', hrun, hrequest⟩ := refused_of_losesSession hloses required
  cases h.symm.trans hrun
  rw [Passage.attachments, hrequest, Bool.and_eq_true]
  exact ⟨hidentity, rfl⟩

/-- A refusal leaves the identity of a request alone, and the rest of it too unless the session
goes. -/
theorem Refusal.identity_eq {r : Request} (h : Refusal a hook required p e r) :
    r.attachments.identity = p.attachments.identity ∧
      (r = p.request ∨ r = p.request.withoutSession) := by
  cases h with
  | unanswered hanswer => exact ⟨rfl, Or.inl rfl⟩
  | anonymous hanswer hrequired hnobody => exact ⟨rfl, Or.inl rfl⟩
  | rejected hanswer hlogin => exact ⟨rfl, Or.inr rfl⟩

/-- A refusal leaves the session of a request that does not lose it. -/
theorem Refusal.session_eq {r : Request} (h : Refusal a hook required p e r)
    (hnot : ¬LosesSession a hook p) : r.attachments.session = p.attachments.session := by
  cases h with
  | unanswered hanswer => rfl
  | anonymous hanswer hrequired hnobody => rfl
  | rejected hanswer hlogin =>
      -- A request that has come with a session loses it here.
      cases hcame : p.attachments.session with
      | none => rfl
      | some session => exact absurd (.rejected hcame hanswer (hcame ▸ hlogin)) hnot

/-- Whatever the authenticator answers and the hook does, a refused request has the identity
that it came with, and nothing of it has changed unless its session is gone.  It keeps the
session exactly if it does not come with one and with the credentials of an identity whose login
is refused. -/
theorem keepsRefused_iff_not_losesSession (a : Authenticator) (hook : LoginHook)
    (required : Bool) (p : Passage) :
    (∀ e left, (authentication a hook required).run p = (.refused e, left) →
        left.attachments.identity = p.attachments.identity ∧
          (left.request = p.request ∨ left.request = p.request.withoutSession)) ∧
      (KeepsRefused (authentication a hook required) p ↔ ¬LosesSession a hook p) := by
  refine ⟨fun e left h => (refusal_of_authentication h).identity_eq, ?_⟩
  constructor
  · intro hkeeps hloses
    obtain ⟨e, left, hrun, hrequest⟩ := refused_of_losesSession hloses required
    have hsession := (hkeeps e left hrun).2
    rw [Passage.attachments, hrequest] at hsession
    obtain ⟨hcame, -, -⟩ := hloses
    cases hsession.trans hcame
  · intro hnot e left h
    have hrefusal := refusal_of_authentication h
    exact ⟨hrefusal.identity_eq.1, hrefusal.session_eq hnot⟩

/-! ## A guest's request at a limit -/

/-- A strict limit of one, with the rest of a login behind it. -/
def strictLogin : LoginStrategy :=
  .sequence [.limit 1 true, .changeId .default true true, .register]

/-- A guest's request with the token of a user who has logged in elsewhere. -/
def crowdedGuest : Passage :=
  let r := (Realm.initial ⟨0, 0⟩ .strokes).play strictLogin [.login (.ofSubject "idp" "alice") none]
  ⟨ChainPlan.plantedRequest.restored (some ChainPlan.guestSession),
    .initial { r with store := r.store.save ChainPlan.guestSession } .deserted ⟨fun _ => [], 0⟩⟩

/-- The limit refuses the login, and the guest's request goes back without the guest's session:
not every refusal leaves a request as it was. -/
theorem not_keepsRefused_crowded :
    ¬∀ (a : Authenticator) (strategy : LoginStrategy) (required : Bool) (p : Passage),
      p.world.realm.IsSound →
      KeepsRefused (authentication a (LoginHook.ofStrategy strategy) required) p := by
  intro h
  let outcome := (authentication ChainPlan.aliceOnly (LoginHook.ofStrategy strictLogin) true).run
    crowdedGuest
  have hrefused : outcome.1 =
      .refused (LoginError.maximumExceeded "idp:alice" 1).toAccessError := by
    decide +kernel
  have hsound : crowdedGuest.world.realm.IsSound := fun operation => by
    cases operation <;> decide +kernel
  have hkept := (h ChainPlan.aliceOnly strictLogin true crowdedGuest hsound _ outcome.2
    (by rw [← hrefused])).2
  exact absurd hkept (by decide +kernel)

end Filter

end WebAuth.Web
