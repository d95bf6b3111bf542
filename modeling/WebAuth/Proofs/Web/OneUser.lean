import WebAuth.Proofs.Session.Rebinding
import WebAuth.Proofs.Web.RequiredIdentity

/-!
# One user for each request

A request may bring a session and fresh credentials at the same time.  The credentials
decide who the request comes from; what becomes of the session is left to the login
strategy.  A request is therefore handed on with the session of somebody else exactly if it
takes one over: its credentials are those of another user than its session's, and the
strategy does not rebind the session.

Main results:

- Theorem `Filter.leaves_of_establish`: what a login leaves attached to a request.
- Theorem `ChainPlan.identity_eq_iff_not_takesOver`: which requests name one user.
- Theorem `ChainPlan.not_identity_eq_guest`: with the strategy that a chain has unless it is
  given another, a request can name two.
-/

namespace WebAuth.Web

open Http LoginStrategy

/-! ## What a login leaves attached -/

namespace Filter

variable {strategy : LoginStrategy} {i : Identity} {p left : Passage}

/-- After a login the request has the identity that has logged in, and the session that the
strategy leaves. -/
theorem leaves_of_establish
    (h : establish (LoginHook.ofStrategy strategy) i p = (.value (), left)) :
    left.attachments.identity = some i ∧
      Leaves i strategy.rebinds p.attachments.session left.attachments.session := by
  obtain ⟨s, hstrategy, rfl⟩ := establish_eq_value_iff.mp h
  exact ⟨rfl, leaves_run i strategy hstrategy⟩

end Filter

/-! ## Sessions that are taken over -/

namespace ChainPlan

/-- A request takes over a session: it brings the live session of one user and the
credentials of another, and the strategy leaves the session as it is. -/
inductive TakesOver (plan : ChainPlan) (strategy : LoginStrategy) (level : LogLevel) (r : Request)
    (w : World) : Prop where
  | keeping {a : Authenticator} {reached : Passage} {after : World} {restored : Session}
      {i : Identity} (ha : plan.authenticator = some a)
      (hreached : FilterChain.runAll level (plan.sessionFilter ++ plan.csrfFilter) ⟨r, w⟩ =
        (.value (), reached))
      (hnamed : plan.named? w.realm r = some restored)
      (hanswer : a.authenticate reached.request reached.world = (.value (some i), after))
      (hkept : strategy.rebinds = false) (hother : restored.identity ≠ i)

variable {plan : ChainPlan} {strategy : LoginStrategy} {level : LogLevel} {r : Request}
  {w : World} {reached left : Passage} {session : Session} {j : Identity}

/-- A login leaves a session of another user exactly if it takes one over. -/
theorem identity_eq_iff_of_establish {a : Authenticator} {i : Identity} {after : World}
    (ha : plan.authenticator = some a)
    (hreached : FilterChain.runAll level (plan.sessionFilter ++ plan.csrfFilter) ⟨r, w⟩ =
      (.value (), reached))
    (hattached : reached.attachments.session = plan.named? w.realm r)
    (hanswer : a.authenticate reached.request reached.world = (.value (some i), after))
    (hestablish : Filter.establish (LoginHook.ofStrategy strategy) i ⟨reached.request, after⟩ =
      (.value (), left))
    (hs : left.attachments.session = some session) :
    session.identity = i ↔ ¬plan.TakesOver strategy level r w := by
  have hleaves := (Filter.leaves_of_establish hestablish).2
  rw [hs] at hleaves
  change Leaves i strategy.rebinds reached.attachments.session (some session) at hleaves
  rw [hattached] at hleaves
  constructor
  · rintro hsame ⟨ha', hreached', hnamed, hanswer', hkept, hother⟩
    cases ha.symm.trans ha'
    cases hreached.symm.trans hreached'
    cases hanswer.symm.trans hanswer'
    rw [hkept, hnamed] at hleaves
    cases hleaves
    exact hother hsame
  · intro hnot
    cases hrebinds : strategy.rebinds with
    | true =>
        rw [hrebinds] at hleaves
        obtain ⟨bound, hbound, hidentity⟩ := hleaves
        cases hbound
        exact hidentity
    | false =>
        rw [hrebinds] at hleaves
        have hnamed : plan.named? w.realm r = some session := hleaves.symm
        refine Decidable.byContradiction fun hother => hnot ?_
        exact .keeping ha hreached hnamed hanswer hrebinds hother

/-- A request that comes with neither identity nor session passes a chain with an
authenticator, with a login strategy or none, and without filters of its own.  If it then has
both an identity and a session, they are of one user exactly if the request has not taken the
session over. -/
theorem identity_eq_iff_not_takesOver {a : Authenticator} {chosen : Option LoginStrategy}
    (ha : plan.authenticator = some a) (hhook : plan.hook = chosen.map LoginHook.ofStrategy)
    (hfilters : plan.filters = []) (hidentity : r.attachments.identity = none)
    (hsession : r.attachments.session = none)
    (hpass : FilterChain.runAll level plan.build.filters ⟨r, w⟩ = (.value (), left))
    (hs : left.attachments.session = some session) (hj : left.attachments.identity = some j) :
    session.identity = j ↔ ¬plan.TakesOver (chosen.getD .keep) level r w := by
  have hauthentication : plan.authenticationFilter =
      [Filter.authentication a (LoginHook.ofStrategy (chosen.getD .keep)) plan.required] := by
    rw [authenticationFilter, ha, hhook]
    cases chosen <;> rfl
  rw [build_filters, hauthentication, hfilters, List.append_nil] at hpass
  obtain ⟨reached, hreached, hrun⟩ := FilterChain.runAll_append_eq_value_iff.mp hpass
  rw [FilterChain.runAll_singleton_eq_value_iff] at hrun
  obtain ⟨token, hrequest⟩ := request_of_runAll hreached
  obtain ⟨hrestored, hattached⟩ := attached_of_restored hidentity hsession hrequest
  have hboth : reached.attachments.identity.isSome = reached.attachments.session.isSome := by
    rw [hrestored, hattached, Option.isSome_map]
  rcases (Filter.authentication_eq_value_iff hboth).mp hrun with
    ⟨i, after, hanswer, hestablish⟩ | ⟨after, hnobody, -, rfl⟩
  · cases hj.symm.trans (Filter.leaves_of_establish hestablish).1
    exact identity_eq_iff_of_establish ha hreached hattached hanswer hestablish hs
  · -- Nobody new was found: identity and session are those that were restored.
    change reached.attachments.session = some session at hs
    change reached.attachments.identity = some j at hj
    rw [hrestored, ← hattached, hs] at hj
    refine iff_of_true (Option.some.inj hj) ?_
    rintro ⟨ha', hreached', -, hanswer, -, -⟩
    cases ha.symm.trans ha'
    cases hreached.symm.trans hreached'
    cases hnobody.symm.trans hanswer

/-! ## A planted session -/

/-- An authenticator that knows the token of one user. -/
def aliceOnly : Authenticator :=
  ⟨.firstSuccess,
    [Strategy.bearer (fun token =>
      pure (if token = "alice" then some (.ofSubject "idp" "alice") else none))]⟩

/-- A chain that restores sessions and authenticates, with a strategy for logins or none. -/
def withStrategy (chosen : Option LoginStrategy) : ChainPlan :=
  ofSettings
    ([.withoutCsrf, .restoringSessions .default, .authenticatedBy aliceOnly] ++
      (chosen.map (fun strategy => .onLogin (LoginHook.ofStrategy strategy))).toList)

/-- What the settings amount to. -/
theorem withStrategy_eq (chosen : Option LoginStrategy) :
    withStrategy chosen =
      ⟨.any, none, some aliceOnly, false, chosen.map LoginHook.ofStrategy,
        some "GATEKEEP_SESSION", []⟩ := by
  cases chosen <;> rfl

/-- A live session of a guest. -/
def guestSession : Session :=
  ⟨"planted", .ofSubject "anonymous" "guest", [], ⟨0, 0⟩, ⟨3600, 0⟩⟩

/-- A world in which the guest's session is all there is. -/
def guestWorld : World :=
  .initial { Realm.initial ⟨0, 0⟩ .strokes with store := Store.empty.save guestSession } .deserted
    ⟨fun _ => [], 0⟩

/-- A request with the guest's session and the user's token. -/
def plantedRequest : Request :=
  ⟨"GET", .origin "/",
    ⟨[("cookie", "GATEKEEP_SESSION=planted"), ("authorization", "Bearer alice")]⟩, .empty⟩

/-- With a strategy that rebinds sessions in between two that do not, the request is handed on
with a session of the user. -/
theorem identity_eq_iff_not_takesOver_rotated :
    let chosen : Option LoginStrategy :=
      some (.sequence [.limit 1 false, .changeId .default true true, .register])
    let plan := withStrategy chosen
    let outcome := FilterChain.runAll .debug plan.build.filters ⟨plantedRequest, guestWorld⟩
    let session : Session := ⟨"1", .ofSubject "idp" "alice", [], ⟨0, 0⟩, ⟨3600, 0⟩⟩
    outcome.1 = .value () ∧ outcome.2.attachments.session = some session ∧
      outcome.2.attachments.identity = some (.ofSubject "idp" "alice") ∧
      ¬plan.TakesOver (chosen.getD .keep) .debug plantedRequest guestWorld := by
  intro chosen plan outcome session
  have hpass : outcome.1 = .value () := by decide +kernel
  have hs : outcome.2.attachments.session = some session := by decide +kernel
  have hj : outcome.2.attachments.identity = some (.ofSubject "idp" "alice") := by decide +kernel
  have hrun : outcome = (.value (), outcome.2) := by rw [← hpass]
  have hplan := withStrategy_eq chosen
  refine ⟨hpass, hs, hj, ?_⟩
  refine (identity_eq_iff_not_takesOver (congrArg ChainPlan.authenticator hplan)
    (congrArg ChainPlan.hook hplan) (congrArg ChainPlan.filters hplan) rfl rfl hrun hs hj).mp ?_
  rfl

/-- Without a strategy the request is handed on as the user's with the session of the guest:
not every request names one user. -/
theorem not_identity_eq_guest :
    ¬∀ (plan : ChainPlan) (cookieName : String) (a : Authenticator)
        (chosen : Option LoginStrategy) (level : LogLevel) (r : Request) (w : World)
        (left : Passage) (session : Session) (j : Identity),
      plan.sessionCookie = some cookieName → plan.authenticator = some a →
      plan.hook = chosen.map LoginHook.ofStrategy → plan.filters = [] →
      r.attachments = .empty → w.realm.IsSound →
      FilterChain.runAll level plan.build.filters ⟨r, w⟩ = (.value (), left) →
      left.attachments.session = some session → left.attachments.identity = some j →
      session.identity = j := by
  intro h
  let plan := withStrategy none
  let outcome := FilterChain.runAll .debug plan.build.filters ⟨plantedRequest, guestWorld⟩
  have hpass : outcome.1 = .value () := by decide +kernel
  have hs : outcome.2.attachments.session = some guestSession := by decide +kernel
  have hj : outcome.2.attachments.identity = some (.ofSubject "idp" "alice") := by decide +kernel
  have hrun : outcome = (.value (), outcome.2) := by rw [← hpass]
  have hplan := withStrategy_eq none
  have hsame := h plan "GATEKEEP_SESSION" aliceOnly none .debug plantedRequest guestWorld outcome.2
    guestSession (.ofSubject "idp" "alice") (congrArg ChainPlan.sessionCookie hplan)
    (congrArg ChainPlan.authenticator hplan) (congrArg ChainPlan.hook hplan)
    (congrArg ChainPlan.filters hplan) rfl (Realm.isSound_initial ⟨0, 0⟩ .strokes) hrun hs hj
  exact absurd hsame (by decide)

end ChainPlan

end WebAuth.Web
