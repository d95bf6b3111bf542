import WebAuth.Proofs.Session.Runs
import WebAuth.Proofs.Web.SessionSite

/-!
# Chains that require an identity

A chain whose settings end with an identity being required lets no anonymous request
pass.  Whatever else is set, and in whatever order, a request that comes with nothing
attached passes such a chain only with an identity: the one that the authenticator
finds for it, or that of the live session which its cookie names.

Main results:

- Theorem `Filter.authentication_eq_value_iff`: the two ways past the authentication of a
  request.
- Theorem `ChainPlan.request_of_runAll`: what the filters before the authentication make
  of a request.
- Theorem `ChainPlan.identity_of_runAll`: whose requests pass a chain that requires an
  identity.
-/

namespace WebAuth.Web

open Http

/-! ## Filters one after another -/

namespace FilterChain

variable {level : LogLevel} {p left : Passage}

/-- A request passes a filter and then others exactly if it passes the filter and, as the
filter leaves it, the others. -/
theorem runAll_cons_eq_value_iff {f : Filter} {rest : List Filter} :
    runAll level (f :: rest) p = (.value (), left) ↔
      ∃ middle, f.run p = (.value (), middle) ∧ runAll level rest middle = (.value (), left) := by
  constructor
  · intro h
    rw [runAll, Run.bind_apply, Run.attempt] at h
    rcases hf : f.run p with ⟨done | e | _, middle⟩
    · rw [hf] at h
      exact ⟨middle, rfl, h⟩
    · rw [hf] at h
      cases h
    · rw [hf] at h
      cases h
  · rintro ⟨middle, hf, hrest⟩
    rw [runAll_cons hf, hrest]

/-- A request passes filters in two groups. -/
theorem runAll_append_eq_value_iff {fs gs : List Filter} :
    runAll level (fs ++ gs) p = (.value (), left) ↔
      ∃ middle, runAll level fs p = (.value (), middle) ∧
        runAll level gs middle = (.value (), left) := by
  induction fs generalizing p with
  | nil =>
      constructor
      · exact fun h => ⟨p, rfl, h⟩
      · rintro ⟨middle, hnone, h⟩
        cases hnone
        exact h
  | cons f rest ih =>
      rw [List.cons_append, runAll_cons_eq_value_iff]
      constructor
      · rintro ⟨first, hf, hrest⟩
        obtain ⟨middle, hfs, hgs⟩ := ih.mp hrest
        exact ⟨middle, runAll_cons_eq_value_iff.mpr ⟨first, hf, hfs⟩, hgs⟩
      · rintro ⟨middle, hfs, hgs⟩
        obtain ⟨first, hf, hrest⟩ := runAll_cons_eq_value_iff.mp hfs
        exact ⟨first, hf, ih.mpr ⟨middle, hrest, hgs⟩⟩

/-- A request passes a single filter. -/
theorem runAll_singleton_eq_value_iff {f : Filter} :
    runAll level [f] p = (.value (), left) ↔ f.run p = (.value (), left) := by
  rw [runAll_cons_eq_value_iff]
  constructor
  · rintro ⟨middle, hf, hnone⟩
    cases hnone
    exact hf
  · exact fun hf => ⟨left, hf, rfl⟩

end FilterChain

/-! ## What single filters leave -/

/-- The request with a token attached, or none. -/
def Request.withToken (r : Request) (token : Option CsrfToken) : Request :=
  { r with attachments := { r.attachments with csrfToken := token } }

namespace Filter

variable {p left : Passage}

/-- A filter that leaves a request that it lets pass an identity, if it had one. -/
def KeepsIdentity (f : Filter) : Prop :=
  ∀ p left, f.run p = (.value (), left) → p.attachments.identity.isSome = true →
    left.attachments.identity.isSome = true

/-- Filters that keep identities keep them one after another. -/
theorem keepsIdentity_runAll {level : LogLevel} {filters : List Filter}
    (h : ∀ f ∈ filters, f.KeepsIdentity)
    (hrun : FilterChain.runAll level filters p = (.value (), left))
    (hidentity : p.attachments.identity.isSome = true) :
    left.attachments.identity.isSome = true := by
  induction filters generalizing p with
  | nil =>
      cases hrun
      exact hidentity
  | cons f rest ih =>
      obtain ⟨middle, hf, hrest⟩ := FilterChain.runAll_cons_eq_value_iff.mp hrun
      exact ih (fun g hg => h g (List.mem_cons_of_mem f hg)) hrest
        (h f List.mem_cons_self p middle hf hidentity)

/-- Leaving a mark keeps identities. -/
theorem keepsIdentity_mark (name : String) (error : Option AccessError) :
    (mark name error).KeepsIdentity := by
  intro p left h hidentity
  obtain ⟨done, marked, hmark, h⟩ := Run.bind_eq_value_iff.mp h
  cases hmark
  cases error with
  | some e => cases h
  | none =>
      cases h
      exact hidentity

/-- A session that could be loaded is the live session of its id. -/
theorem found_of_load {id : String} {r after : Realm} {found : Option Session}
    (h : Realm.load id r = (.value found, after)) : found = r.store.live? r.clock id := by
  rw [Realm.load, Realm.useStore] at h
  cases hfault : r.faults .load with
  | some e =>
      rw [hfault] at h
      cases h
  | none =>
      rw [hfault] at h
      cases h
      rfl

/-- The session that the cookie names is restored. -/
theorem request_of_sessions {cookieName : String}
    (h : (sessions cookieName).run p = (.value (), left)) :
    left.request = p.request.restored ((p.request.headers.cookie? cookieName).bind
      (p.world.realm.store.live? p.world.realm.clock)) := by
  cases hcookie : p.request.headers.cookie? cookieName with
  | none =>
      rw [sessions_run_of_no_cookie hcookie] at h
      cases h
      rfl
  | some id =>
      obtain ⟨r, start, hr, h⟩ := Run.bind_eq_value_iff.mp h
      cases hr
      obtain ⟨found, after, hload, h⟩ := Run.bind_eq_value_iff.mp h
      obtain ⟨w, hw, rfl⟩ := Run.within_eq_value_iff.mp hload
      obtain ⟨realm, hrealm, rfl⟩ := Run.within_eq_value_iff.mp hw
      rw [Realm.loadNamed, hcookie] at hrealm
      have hfound : found = p.world.realm.store.live? p.world.realm.clock id :=
        found_of_load hrealm
      rw [Option.bind_some, ← hfound]
      cases found with
      | none =>
          cases h
          rfl
      | some session =>
          cases h
          rfl

/-- The check for forged requests leaves a request as it is, but for a token. -/
theorem request_of_csrf {config : CsrfConfig} (h : (csrf config).run p = (.value (), left)) :
    ∃ token, left.request = p.request.withToken token := by
  have hchecked {start : Passage}
      (hcheck : (if needsNoToken config p.request || tokensAgree config p.request then pure ()
        else .refuse .csrfMismatch : Run Passage AccessError Unit) start =
          (.value (), left)) : left = start := by
    split at hcheck
    · cases hcheck
      rfl
    · cases hcheck
  obtain ⟨r, start, hr, h⟩ := Run.bind_eq_value_iff.mp h
  cases hr
  split at h
  · obtain ⟨done, after, hissue, h⟩ := Run.bind_eq_value_iff.mp h
    rw [hchecked h]
    cases hissue
    exact ⟨_, rfl⟩
  · rw [hchecked h]
    exact ⟨p.request.attachments.csrfToken, rfl⟩

/-- An identity is established when the hook carries out its work, and then attached with the
session that the hook leaves. -/
theorem establish_eq_value_iff {hook : LoginHook} {i : Identity} :
    establish hook i p = (.value (), left) ↔
      ∃ s, hook i p.request.withoutSession ⟨p.attachments.session, p.world.realm⟩ =
          (.value (), s) ∧
        ⟨{ p.request with
            attachments := { p.attachments with identity := some i, session := s.slot } },
          { p.world with realm := s.realm }⟩ = left := by
  rw [establish_apply]
  rcases hook i p.request.withoutSession ⟨p.attachments.session, p.world.realm⟩ with
    ⟨done | reason | _, s⟩
  · simp
  · simp
  · simp

/-- Establishing an identity attaches it. -/
theorem identity_of_establish {hook : LoginHook} {i : Identity}
    (h : establish hook i p = (.value (), left)) : left.attachments.identity = some i := by
  obtain ⟨s, -, rfl⟩ := establish_eq_value_iff.mp h
  rfl

/-- The two ways past the authentication of a request whose identity, if it has one, comes
from its session: the authenticator finds an identity and the login succeeds, or it finds
nobody and none is missing. -/
theorem authentication_eq_value_iff {a : Authenticator} {hook : LoginHook} {required : Bool}
    (hrestored : p.attachments.identity.isSome = p.attachments.session.isSome) :
    (authentication a hook required).run p = (.value (), left) ↔
      (∃ i w, a.authenticate p.request p.world = (.value (some i), w) ∧
          establish hook i ⟨p.request, w⟩ = (.value (), left)) ∨
        ∃ w, a.authenticate p.request p.world = (.value none, w) ∧
          (required = true → p.attachments.identity.isSome = true) ∧ left = ⟨p.request, w⟩ := by
  rw [authentication_run hrestored, Run.bind_eq_value_iff]
  constructor
  · rintro ⟨found, after, hfound, h⟩
    obtain ⟨w, hanswer, rfl⟩ := Run.within_eq_value_iff.mp hfound
    cases found with
    | some i => exact Or.inl ⟨i, w, hanswer, h⟩
    | none =>
        by_cases hmissing : (required && p.attachments.identity.isNone) = true
        · simp only [hmissing, if_true] at h
          cases h
        · simp only [hmissing] at h
          cases h
          refine Or.inr ⟨w, hanswer, ?_, rfl⟩
          intro hrequired
          simpa [hrequired, ← Option.ne_none_iff_isSome] using hmissing
  · rintro (⟨i, w, hanswer, h⟩ | ⟨w, hanswer, hfound, rfl⟩)
    · exact ⟨some i, _, Run.within_eq_value_iff.mpr ⟨w, hanswer, rfl⟩, h⟩
    · refine ⟨none, _, Run.within_eq_value_iff.mpr ⟨w, hanswer, rfl⟩, ?_⟩
      have hpresent : (required && p.attachments.identity.isNone) = false := by
        cases required with
        | false => rfl
        | true => simpa using hfound rfl
      simp only [hpresent]
      rfl

end Filter

/-! ## What settings amount to -/

namespace ChainPlan

/-- The settings end with an identity being required: none of the later ones says
otherwise. -/
def RequireIdentity (settings : List ChainSetting) : Prop :=
  ∃ earlier later, settings = earlier ++ .requiring true :: later ∧
    ∀ required, .requiring required ∉ later

/-- Settings that do not say whether an identity is required leave that as it is. -/
theorem required_foldl_apply {settings : List ChainSetting}
    (h : ∀ required, .requiring required ∉ settings) (plan : ChainPlan) :
    (settings.foldl apply plan).required = plan.required := by
  induction settings generalizing plan with
  | nil => rfl
  | cons setting rest ih =>
      have hrest : ∀ required, .requiring required ∉ rest :=
        fun required hmem => h required (List.mem_cons_of_mem setting hmem)
      rw [List.foldl_cons, ih hrest]
      cases setting with
      | requiring required => exact absurd List.mem_cons_self (h required)
      | _ => rfl

/-- The last word on whether an identity is required counts. -/
theorem required_of_requireIdentity {settings : List ChainSetting}
    (h : RequireIdentity settings) : (ofSettings settings).required = true := by
  obtain ⟨earlier, later, rfl, hlater⟩ := h
  rw [ofSettings, List.foldl_append, List.foldl_cons, required_foldl_apply hlater]
  rfl

/-- The filters of the application are those that were added. -/
theorem adding_mem_of_mem_filters {f : Filter} {settings : List ChainSetting} {plan : ChainPlan}
    (h : f ∈ (settings.foldl apply plan).filters) :
    f ∈ plan.filters ∨ .adding f ∈ settings := by
  induction settings generalizing plan with
  | nil => exact Or.inl h
  | cons setting rest ih =>
      rcases ih h with hplan | hrest
      · cases setting with
        | adding g =>
            rcases List.mem_append.mp hplan with hbefore | hadded
            · exact Or.inl hbefore
            · rw [List.mem_singleton.mp hadded]
              exact Or.inr List.mem_cons_self
        | _ => exact Or.inl hplan
      · exact Or.inr (List.mem_cons_of_mem setting hrest)

/-- A plan that requires an identity asks for one. -/
theorem authenticationFilter_of_required {plan : ChainPlan} (h : plan.required = true) :
    plan.authenticationFilter =
      [Filter.authentication (plan.authenticator.getD Authenticator.silent)
        (plan.hook.getD (LoginHook.ofStrategy .keep)) true] := by
  rw [authenticationFilter, h, Bool.or_true, if_pos rfl]

/-! ## Before the authentication -/

/-- The live session that the cookie of a request names, if the plan restores sessions. -/
def named? (plan : ChainPlan) (realm : Realm) (r : Request) : Option Session :=
  plan.sessionCookie.bind (fun cookieName =>
    (r.headers.cookie? cookieName).bind (realm.store.live? realm.clock))

/-- Before the authentication, the session of a request is restored and perhaps a token
attached. -/
theorem request_of_runAll {plan : ChainPlan} {level : LogLevel} {r : Request} {w : World}
    {reached : Passage}
    (h : FilterChain.runAll level (plan.sessionFilter ++ plan.csrfFilter) ⟨r, w⟩ =
      (.value (), reached)) :
    ∃ token, reached.request = (r.restored (plan.named? w.realm r)).withToken token := by
  obtain ⟨middle, hsessions, hcsrf⟩ := FilterChain.runAll_append_eq_value_iff.mp h
  have hrestored : middle.request = r.restored (plan.named? w.realm r) := by
    rw [sessionFilter] at hsessions
    rw [named?]
    cases hcookie : plan.sessionCookie with
    | none =>
        rw [hcookie] at hsessions
        cases hsessions
        rfl
    | some cookieName =>
        rw [hcookie] at hsessions
        exact Filter.request_of_sessions
          (FilterChain.runAll_singleton_eq_value_iff.mp hsessions)
  rw [csrfFilter] at hcsrf
  cases hconfig : plan.csrf with
  | none =>
      rw [hconfig] at hcsrf
      cases hcsrf
      refine ⟨reached.request.attachments.csrfToken, ?_⟩
      rw [← hrestored]
      rfl
  | some config =>
      rw [hconfig] at hcsrf
      obtain ⟨token, htoken⟩ :=
        Filter.request_of_csrf (FilterChain.runAll_singleton_eq_value_iff.mp hcsrf)
      exact ⟨token, by rw [htoken, hrestored]⟩

/-! ## Whose requests pass -/

/-- Where the identity comes from with which a request passes the authentication of a
chain.  The request arrived as `r` in the world `w` and has reached the authentication. -/
inductive Identified (plan : ChainPlan) (r : Request) (w : World) (reached : Passage)
    (i : Identity) : Prop where
  /-- The authenticator of the plan has found it for the request. -/
  | authenticated {a : Authenticator} {after : World} (ha : plan.authenticator = some a)
      (hanswer : a.authenticate reached.request reached.world = (.value (some i), after))
  /-- It is that of the live session which the cookie of the request names. -/
  | restored {cookieName id : String} {session : Session}
      (hcookie : plan.sessionCookie = some cookieName)
      (hid : r.headers.cookie? cookieName = some id)
      (hlive : w.realm.store.live? w.realm.clock id = some session)
      (hidentity : session.identity = i)

/-- Without an authenticator nobody is found. -/
theorem authenticator_of_found {plan : ChainPlan} {r : Request} {w after : World} {i : Identity}
    (h : (plan.authenticator.getD Authenticator.silent).authenticate r w =
      (.value (some i), after)) :
    ∃ a, plan.authenticator = some a ∧ a.authenticate r w = (.value (some i), after) := by
  cases ha : plan.authenticator with
  | none =>
      rw [ha] at h
      cases h
  | some a =>
      rw [ha] at h
      exact ⟨a, rfl, h⟩

/-- A session that a request is restored from is the one that its cookie names. -/
theorem identified_of_named? {plan : ChainPlan} {r : Request} {w : World} {reached : Passage}
    {session : Session} (h : plan.named? w.realm r = some session) :
    plan.Identified r w reached session.identity := by
  obtain ⟨cookieName, hcookie, hnamed⟩ := Option.bind_eq_some_iff.mp h
  obtain ⟨id, hid, hlive⟩ := Option.bind_eq_some_iff.mp hnamed
  exact .restored hcookie hid hlive rfl

/-- What is attached, before the authentication, to a request that came with neither identity
nor session. -/
theorem attached_of_restored {plan : ChainPlan} {r : Request} {w : World} {reached : Passage}
    {token : Option CsrfToken} (hidentity : r.attachments.identity = none)
    (hsession : r.attachments.session = none)
    (hreached : reached.request = (r.restored (plan.named? w.realm r)).withToken token) :
    reached.attachments.identity = (plan.named? w.realm r).map Session.identity ∧
      reached.attachments.session = plan.named? w.realm r := by
  rw [Passage.attachments, hreached]
  cases plan.named? w.realm r with
  | none => exact ⟨hidentity, hsession⟩
  | some session => exact ⟨rfl, rfl⟩

/-- A request that comes with neither identity nor session passes the authentication that a
plan requires only with an identity that the authenticator or its session gives it. -/
theorem identity_of_authentication {plan : ChainPlan} {r : Request} {w : World}
    {reached passed : Passage} {token : Option CsrfToken} (hidentity : r.attachments.identity = none)
    (hsession : r.attachments.session = none)
    (hreached : reached.request = (r.restored (plan.named? w.realm r)).withToken token)
    (hrun : (Filter.authentication (plan.authenticator.getD Authenticator.silent)
      (plan.hook.getD (LoginHook.ofStrategy .keep)) true).run reached = (.value (), passed)) :
    ∃ i, passed.attachments.identity = some i ∧ plan.Identified r w reached i := by
  have hattached := attached_of_restored hidentity hsession hreached
  have hrestored :
      reached.attachments.identity.isSome = reached.attachments.session.isSome := by
    rw [hattached.1, hattached.2, Option.isSome_map]
  rcases (Filter.authentication_eq_value_iff hrestored).mp hrun with
    ⟨i, after, hanswer, hestablish⟩ | ⟨after, -, hpresent, rfl⟩
  · obtain ⟨a, ha, hfound⟩ := authenticator_of_found hanswer
    exact ⟨i, Filter.identity_of_establish hestablish, .authenticated ha hfound⟩
  · obtain ⟨i, hi⟩ := Option.isSome_iff_exists.mp (hpresent rfl)
    have hnamed := hattached.1.symm.trans hi
    obtain ⟨session, hsome, rfl⟩ := Option.map_eq_some_iff.mp hnamed
    exact ⟨session.identity, hi, identified_of_named? hsome⟩

/-- A request that comes with neither identity nor session passes a chain whose settings
require an identity, and whose added filters keep identities, only with an identity.  It
has passed the authentication with the identity that the authenticator found for it, or
with that of the live session which its cookie names. -/
theorem identity_of_runAll {settings : List ChainSetting} (hrequired : RequireIdentity settings)
    (hadded : ∀ f, .adding f ∈ settings → f.KeepsIdentity) {r : Request}
    (hidentity : r.attachments.identity = none) (hsession : r.attachments.session = none)
    {level : LogLevel} {w : World} {left : Passage}
    (hpass : FilterChain.runAll level (ofSettings settings).build.filters ⟨r, w⟩ =
      (.value (), left)) :
    let plan := ofSettings settings
    left.attachments.identity.isSome = true ∧
      ∃ authentication reached passed token i,
        plan.authenticationFilter = [authentication] ∧
          FilterChain.runAll level (plan.sessionFilter ++ plan.csrfFilter) ⟨r, w⟩ =
            (.value (), reached) ∧
          reached.request = (r.restored (plan.named? w.realm r)).withToken token ∧
          authentication.run reached = (.value (), passed) ∧
          FilterChain.runAll level plan.filters passed = (.value (), left) ∧
          passed.attachments.identity = some i ∧ plan.Identified r w reached i := by
  intro plan
  have hasked := authenticationFilter_of_required (required_of_requireIdentity hrequired)
  rw [build_filters, hasked, List.append_assoc, List.singleton_append] at hpass
  obtain ⟨reached, hbefore, hrest⟩ := FilterChain.runAll_append_eq_value_iff.mp hpass
  obtain ⟨passed, hauthentication, hafter⟩ := FilterChain.runAll_cons_eq_value_iff.mp hrest
  obtain ⟨token, hreached⟩ := request_of_runAll hbefore
  obtain ⟨i, hi, hidentified⟩ :=
    identity_of_authentication hidentity hsession hreached hauthentication
  refine ⟨?_, _, reached, passed, token, i, hasked, hbefore, hreached, hauthentication, hafter,
    hi, hidentified⟩
  refine Filter.keepsIdentity_runAll ?_ hafter (by rw [hi]; rfl)
  intro f hf
  rcases adding_mem_of_mem_filters hf with hnone | hmem
  · cases hnone
  · exact hadded f hmem

/-- Settings that first require no identity and then one. -/
def readersOnly : List ChainSetting :=
  [.requiring false, .adding (.mark "audited" none),
    .authenticatedBy ⟨.firstSuccess,
      [Strategy.bearer (fun token =>
        pure (if token = "alice" then some (.ofSubject "idp" "alice") else none))]⟩,
    .restoringSessions .default, .requiring true]

/-- A reader who has no session passes with the identity that the authenticator finds. -/
theorem identity_of_runAll_reader :
    let r : Request := ⟨"GET", .origin "/", ⟨[("authorization", "Bearer alice")]⟩, .empty⟩
    let w : World := .initial (.initial ⟨0, 0⟩ .strokes) .deserted ⟨fun _ => [], 0⟩
    let plan := ofSettings readersOnly
    let outcome := FilterChain.runAll .debug plan.build.filters ⟨r, w⟩
    RequireIdentity readersOnly ∧ (∀ f, .adding f ∈ readersOnly → f.KeepsIdentity) ∧
      r.attachments.identity = none ∧ r.attachments.session = none ∧
      outcome.1 = .value () ∧ outcome.2.attachments.identity.isSome = true ∧
      ∃ reached i, FilterChain.runAll .debug (plan.sessionFilter ++ plan.csrfFilter) ⟨r, w⟩ =
        (.value (), reached) ∧ plan.Identified r w reached i := by
  intro r w plan outcome
  have hrequired : RequireIdentity readersOnly := ⟨readersOnly.take 4, [], rfl, by simp⟩
  have hadded (f : Filter) (hf : .adding f ∈ readersOnly) : f.KeepsIdentity := by
    have hmark : f = .mark "audited" none := by simpa [readersOnly] using hf
    rw [hmark]
    exact Filter.keepsIdentity_mark "audited" none
  have hpass : outcome.1 = .value () := by decide +kernel
  obtain ⟨hsome, -, reached, -, -, i, -, hreached, -, -, -, -, hidentified⟩ :=
    identity_of_runAll hrequired hadded (r := r) rfl rfl (w := w) (Prod.ext hpass rfl)
  exact ⟨hrequired, hadded, rfl, rfl, hpass, hsome, reached, i, hreached, hidentified⟩

end ChainPlan

end WebAuth.Web
