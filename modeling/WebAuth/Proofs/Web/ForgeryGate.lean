import WebAuth.Proofs.Http.ClientFields
import WebAuth.Proofs.Web.RequiredIdentity

/-!
# The gate against forged requests

A request is forged if it may write, no matcher exempts it, and it does not bring one
token both as a cookie and in a header field.  A chain that looks for forged requests
does so right after it has restored the session.  What comes later is not reached by a
forged request: its credentials are not looked at, no login hook runs, and no filter of the
application.  Sessions and their registry stay as they are.  The gate refuses no other
request, and it issues a token exactly to those that bring none.

Main results:

- Theorem `FilterChain.runAll_reached`: only the filters that a request reaches count.
- Theorem `Filter.csrf_run`: what the gate does to any request.
- Theorem `ChainPlan.gate_of_csrf`: forged requests, and no others, are stopped at the gate.
-/

namespace WebAuth.Web

open Http

/-! ## The gate -/

/-- A request that may write, that no matcher exempts, and that does not bring one token
both as the first cookie and in the first field of the names. -/
structure Request.IsForged (r : Request) (config : CsrfConfig) : Prop where
  writes : r.method ∉ ["GET", "HEAD", "TRACE", "OPTIONS"]
  guarded : ∀ m ∈ config.ignored, r.isMatchedBy m = false
  unproven : ¬∃ token, r.headers.IsFirstCookie config.cookieName token ∧
    r.headers.IsFirstField config.headerName token

/-- What the gate leaves of a request and the world: a token is attached if none came. -/
def Passage.issued (p : Passage) (config : CsrfConfig) : Passage :=
  if p.request.headers.Sends config.cookieName then p
  else
    ⟨p.request.withToken (some (.ofOctets config.cookieName p.world.csrfOctets.next)),
      { p.world with csrfOctets := p.world.csrfOctets.advance }⟩

/-- Of the world, the gate changes only the supply of octets. -/
theorem Passage.issued_world (p : Passage) (config : CsrfConfig) :
    (p.issued config).world =
      { p.world with
        csrfOctets :=
          if p.request.headers.Sends config.cookieName then p.world.csrfOctets
          else p.world.csrfOctets.advance } := by
  rw [issued]
  split
  · rfl
  · rfl

/-- A token is attached exactly if none came. -/
theorem Passage.issued_csrfToken {p : Passage} (h : p.attachments.csrfToken = none)
    (config : CsrfConfig) :
    (p.issued config).attachments.csrfToken =
      if p.request.headers.Sends config.cookieName then none
      else some (.ofOctets config.cookieName p.world.csrfOctets.next) := by
  rw [issued]
  split
  · exact h
  · rfl

namespace Filter

variable {config : CsrfConfig} {r : Request}

/-- Tokens agree if one is the first cookie and the first field. -/
theorem tokensAgree_iff :
    tokensAgree config r = true ↔ ∃ token, r.headers.IsFirstCookie config.cookieName token ∧
      r.headers.IsFirstField config.headerName token := by
  rw [tokensAgree]
  constructor
  · intro h
    cases hcookie : r.headers.cookie? config.cookieName with
    | none => simp [hcookie] at h
    | some token =>
        refine ⟨token, Headers.cookie?_eq_some_iff.mp hcookie, ?_⟩
        exact Headers.readableFirst?_eq_some_iff.mp (by simpa [hcookie] using h)
  · rintro ⟨token, hcookie, hfield⟩
    rw [Headers.cookie?_eq_some_iff.mpr hcookie]
    exact decide_eq_true (Headers.readableFirst?_eq_some_iff.mpr hfield)

/-- A request is forged if it needs a token and brings none that agrees. -/
theorem isForged_iff :
    r.IsForged config ↔ (needsNoToken config r || tokensAgree config r) = false := by
  rw [Bool.or_eq_false_iff, needsNoToken, Bool.or_eq_false_iff, ← Bool.not_eq_true (tokensAgree _ _),
    tokensAgree_iff]
  constructor
  · rintro ⟨hwrites, hguarded, hunproven⟩
    exact ⟨⟨by simpa [isSafeMethod] using hwrites, by simpa using hguarded⟩, hunproven⟩
  · rintro ⟨⟨hwrites, hguarded⟩, hunproven⟩
    exact ⟨by simpa [isSafeMethod] using hwrites, by simpa using hguarded, hunproven⟩

instance (r : Request) (config : CsrfConfig) : Decidable (r.IsForged config) :=
  decidable_of_iff _ isForged_iff.symm

/-- A token is spelled with the next octets. -/
theorem issueToken_apply (config : CsrfConfig) (p : Passage) :
    issueToken config p =
      (.value (),
        ⟨p.request.withToken (some (.ofOctets config.cookieName p.world.csrfOctets.next)),
          { p.world with csrfOctets := p.world.csrfOctets.advance }⟩) :=
  rfl

/-- The gate refuses forged requests, and issues a token where none came. -/
theorem csrf_run (config : CsrfConfig) (p : Passage) :
    (csrf config).run p =
      (if p.request.IsForged config then .refused .csrfMismatch else .value (),
        p.issued config) := by
  -- The verdict is about the request as it came, whatever has been attached to it since.
  have hcheck (q : Passage) :
      (if needsNoToken config p.request || tokensAgree config p.request then pure ()
        else .refuse .csrfMismatch : Run Passage AccessError Unit) q =
          (if p.request.IsForged config then .refused .csrfMismatch else .value (), q) := by
    by_cases hforged : p.request.IsForged config
    · rw [if_pos hforged, isForged_iff.mp hforged]
      rfl
    · rw [if_neg hforged, (Bool.not_eq_false _).mp (mt isForged_iff.mpr hforged)]
      rfl
  simp only [csrf]
  rw [Run.bind_value (Run.reads_apply _ _), Passage.issued]
  by_cases hsends : p.request.headers.Sends config.cookieName
  · have hcookie : ¬(p.request.headers.cookie? config.cookieName).isNone = true := by
      rw [Option.isNone_iff_eq_none, Headers.cookie?_eq_none_iff, Decidable.not_not]
      exact hsends
    rw [if_neg hcookie, if_pos hsends]
    exact hcheck p
  · have hcookie : (p.request.headers.cookie? config.cookieName).isNone = true := by
      rw [Option.isNone_iff_eq_none, Headers.cookie?_eq_none_iff]
      exact hsends
    rw [if_pos hcookie, if_neg hsends, Run.bind_value (issueToken_apply config p)]
    exact hcheck _

end Filter

/-! ## How far a request comes -/

namespace FilterChain

variable {f : Filter} {rest : List Filter} {p q : Passage} {e : AccessError}

/-- The filters that a request reaches: the first ones, up to one that stops it. -/
def reached : List Filter → Passage → List Filter
  | [], _ => []
  | f :: rest, p =>
      match f.run p with
      | (.value (), q) => f :: reached rest q
      | _ => [f]

theorem reached_cons_of_value (h : f.run p = (.value (), q)) :
    reached (f :: rest) p = f :: reached rest q := by
  rw [reached, h]

theorem reached_cons_of_refused (h : f.run p = (.refused e, q)) :
    reached (f :: rest) p = [f] := by
  rw [reached, h]

theorem reached_cons_of_aborted (h : f.run p = (.aborted, q)) :
    reached (f :: rest) p = [f] := by
  rw [reached, h]

/-- A refusal is reported, and nothing else is done. -/
theorem runAll_cons_of_refused {level : LogLevel} (h : f.run p = (.refused e, q)) :
    runAll level (f :: rest) p =
      (.refused e,
        { q with
          world :=
            { q.world with
              log := ⟨level, f.name ++ " rejected request: " ++ e.message⟩ :: q.world.log } }) := by
  have hattempt : f.run.attempt p =
      ((.value (.error e) : Ending AccessError (Except AccessError Unit)), q) := by
    rw [Run.attempt, h]
  rw [runAll, Run.bind_value hattempt]
  rfl

/-- After an abort nothing else is done. -/
theorem runAll_cons_of_aborted {level : LogLevel} (h : f.run p = (.aborted, q)) :
    runAll level (f :: rest) p = (.aborted, q) := by
  have hattempt : f.run.attempt p =
      ((.aborted : Ending AccessError (Except AccessError Unit)), q) := by
    rw [Run.attempt, h]
  rw [runAll, Run.bind_aborted hattempt]

/-- Only the filters that a request reaches count. -/
theorem runAll_reached (level : LogLevel) (filters : List Filter) (p : Passage) :
    runAll level (reached filters p) p = runAll level filters p := by
  induction filters generalizing p with
  | nil => rfl
  | cons f rest ih =>
      rcases hf : f.run p with ⟨done | e | _, q⟩
      · rw [reached_cons_of_value hf, runAll_cons hf, runAll_cons hf, ih]
      · rw [reached_cons_of_refused hf, runAll_cons_of_refused hf, runAll_cons_of_refused hf]
      · rw [reached_cons_of_aborted hf, runAll_cons_of_aborted hf, runAll_cons_of_aborted hf]

end FilterChain

/-! ## Before the gate -/

namespace ChainPlan

/-- A request whose session, if the plan restores sessions, has been restored. -/
def restored (plan : ChainPlan) (r : Request) (w : World) : Passage :=
  ⟨r.restored (plan.named? w.realm r),
    { w with realm := lookedUp w.realm (plan.sessionCookie.bind r.headers.cookie?) }⟩

section Restoring

variable {w : World} (hsound : w.realm.IsSound) (plan : ChainPlan) (rest : List Filter)
  (r : Request)

include hsound

/-- All requests come past the restoring of sessions. -/
theorem reached_sessionFilter_append :
    FilterChain.reached (plan.sessionFilter ++ rest) ⟨r, w⟩ =
      plan.sessionFilter ++ FilterChain.reached rest (plan.restored r w) := by
  rw [sessionFilter, restored, named?]
  cases plan.sessionCookie with
  | none => rfl
  | some cookieName =>
      exact FilterChain.reached_cons_of_value
        (Filter.sessions_run_lookedUp hsound cookieName r)

/-- The filters after it see requests with their sessions restored. -/
theorem runAll_sessionFilter_append (level : LogLevel) :
    FilterChain.runAll level (plan.sessionFilter ++ rest) ⟨r, w⟩ =
      FilterChain.runAll level rest (plan.restored r w) := by
  rw [sessionFilter, restored, named?]
  cases plan.sessionCookie with
  | none => rfl
  | some cookieName =>
      exact FilterChain.runAll_cons (Filter.sessions_run_lookedUp hsound cookieName r)

end Restoring

/-- A restored request is the request with something else attached. -/
theorem request_restored (plan : ChainPlan) (r : Request) (w : World) :
    (plan.restored r w).request =
      { r with attachments := (plan.restored r w).request.attachments } := by
  rw [restored]
  cases plan.named? w.realm r with
  | none => rfl
  | some session => rfl

/-- Whether a request is forged does not depend on its session. -/
theorem isForged_restored (plan : ChainPlan) (config : CsrfConfig) (r : Request) (w : World) :
    (plan.restored r w).request.IsForged config ↔ r.IsForged config := by
  rw [request_restored]
  exact ⟨fun h => ⟨h.writes, h.guarded, h.unproven⟩, fun h => ⟨h.writes, h.guarded, h.unproven⟩⟩

/-- The gate comes right after the restoring of sessions. -/
theorem build_filters_of_csrf {plan : ChainPlan} {config : CsrfConfig}
    (hcsrf : plan.csrf = some config) :
    plan.build.filters = plan.sessionFilter ++
      Filter.csrf config :: (plan.authenticationFilter ++ plan.filters) := by
  rw [build_filters, csrfFilter, hcsrf, List.append_assoc, List.append_assoc]
  rfl

/-! ## At the gate -/

/-- A chain that looks for forged requests, over a store in working order, stops each of
them: it reaches no filter after the gate, and all it leaves in the world is the look-up of
its session, the octets of a token that it was issued, and a report.  The gate refuses no
other request, and it attaches a new token exactly to those that bring none. -/
theorem gate_of_csrf {plan : ChainPlan} {config : CsrfConfig} (hcsrf : plan.csrf = some config)
    {w : World} (hsound : w.realm.IsSound) (level : LogLevel) (r : Request) :
    (r.IsForged config →
      FilterChain.reached plan.build.filters ⟨r, w⟩ =
          plan.sessionFilter ++ [Filter.csrf config] ∧
        ∃ left,
          FilterChain.runAll level plan.build.filters ⟨r, w⟩ = (.refused .csrfMismatch, left) ∧
          left.world.realm.store = w.realm.store ∧
          left.world.realm.registry = w.realm.registry ∧
          left.world =
            { w with
              realm := lookedUp w.realm (plan.sessionCookie.bind r.headers.cookie?)
              csrfOctets :=
                if r.headers.Sends config.cookieName then w.csrfOctets else w.csrfOctets.advance
              log :=
                ⟨level, "csrf rejected request: " ++ AccessError.csrfMismatch.message⟩ ::
                  w.log }) ∧
      ∀ p, let after := (Filter.csrf config).run p
        (after.1 = if p.request.IsForged config then .refused .csrfMismatch else .value ()) ∧
          (p.attachments.csrfToken = none →
            after.2.attachments.csrfToken =
                (if p.request.headers.Sends config.cookieName then none
                else some (.ofOctets config.cookieName p.world.csrfOctets.next)) ∧
              after.2.world.csrfOctets =
                if p.request.headers.Sends config.cookieName then p.world.csrfOctets
                else p.world.csrfOctets.advance) := by
  refine ⟨?_, ?_⟩
  · intro hforged
    have hgate : (Filter.csrf config).run (plan.restored r w) =
        (.refused .csrfMismatch, (plan.restored r w).issued config) := by
      rw [Filter.csrf_run, if_pos ((isForged_restored plan config r w).mpr hforged)]
    have hheaders : (plan.restored r w).request.headers = r.headers := by
      rw [request_restored]
    have hworld := (plan.restored r w).issued_world config
    rw [hheaders] at hworld
    rw [build_filters_of_csrf hcsrf, reached_sessionFilter_append hsound,
      runAll_sessionFilter_append hsound, FilterChain.reached_cons_of_refused hgate,
      FilterChain.runAll_cons_of_refused hgate]
    refine ⟨rfl, _, rfl, ?_⟩
    rw [hworld]
    exact ⟨lookedUp_store w.realm _, lookedUp_registry w.realm _, rfl⟩
  · intro p after
    have hafter : after = _ := Filter.csrf_run config p
    rw [hafter]
    exact ⟨rfl, fun hnone => ⟨Passage.issued_csrfToken hnone config,
      congrArg World.csrfOctets (Passage.issued_world p config)⟩⟩

/-- A chain that restores sessions and notes whom it asks for credentials. -/
def noting : ChainPlan :=
  ofSettings
    [.adding (.mark "audited" none), .restoringSessions .default,
      .onLogin (LoginHook.ofStrategy (.changeId .default true true)), .requiring true,
      .authenticatedBy ⟨.firstSuccess,
        [Strategy.bearer (fun token => do
          World.note token
          pure (some (.ofSubject "idp" token)))]⟩]

/-- A request that brings different tokens is refused before its credentials are noted. -/
theorem gate_of_csrf_differing :
    let r : Request :=
      ⟨"POST", .origin "/pay",
        ⟨[("cookie", "GATEKEEP_SESSION=s1; XSRF-TOKEN=one"), ("x-xsrf-token", "two"),
          ("authorization", "Bearer alice")]⟩, .empty⟩
    let w : World := .initial (.initial ⟨0, 0⟩ .strokes) .deserted ⟨fun _ => [], 0⟩
    noting.csrf = some .default ∧ w.realm.IsSound ∧ r.IsForged .default ∧
      FilterChain.reached noting.build.filters ⟨r, w⟩ =
        [Filter.sessions "GATEKEEP_SESSION", Filter.csrf .default] ∧
      ∃ left, FilterChain.runAll .debug noting.build.filters ⟨r, w⟩ =
          (.refused .csrfMismatch, left) ∧
        left.world.journal = [] ∧ left.world.realm.calls = [⟨.load, "s1", false⟩] := by
  intro r w
  have hcsrf : noting.csrf = some .default := rfl
  have hsound : w.realm.IsSound := Realm.isSound_initial _ _
  have hforged : r.IsForged .default := by decide +kernel
  obtain ⟨hreached, left, hrun, -, -, hworld⟩ := (gate_of_csrf hcsrf hsound .debug r).1 hforged
  refine ⟨hcsrf, hsound, hforged, hreached, left, hrun, by rw [hworld]; rfl, ?_⟩
  rw [hworld]
  decide +kernel

end ChainPlan

end WebAuth.Web
