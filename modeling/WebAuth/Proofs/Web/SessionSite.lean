import WebAuth.Proofs.Http.NamedCookie
import WebAuth.Proofs.Session.Effects
import WebAuth.Web.Chain

/-!
# A site that keeps sessions

A site restores the session that a cookie names, asks an authenticator whose answers
depend on the request alone, and gives the session a new id whenever the authenticator
finds an identity.  What one request does to such a site is described once, by what
becomes of the realm and of the request.

Main results:

- Theorem `Site.visit_of_handle`: a request passes as it is restored, is stopped, opens
  a session, or moves the one that it names.
-/

namespace WebAuth.Web

open Http LoginStrategy

/-! ## Sites -/

/-- The answers of an authenticator depend on the request alone, and it leaves sessions
alone. -/
def Authenticator.Answers (a : Authenticator)
    (answer : Request → Ending AccessError (Option Identity)) : Prop :=
  ∀ r w, (a.authenticate r w).1 = answer r ∧ (a.authenticate r w).2.realm = w.realm

/-- Bearer tokens that are checked one by one depend on the request alone. -/
theorem Authenticator.answers_bearer (check : String → Option Identity) :
    (Authenticator.mk .firstSuccess [Strategy.bearer (fun token => pure (check token))]).Answers
      (fun r => .value (r.headers.bearerToken?.bind check)) := by
  intro r w
  have hidentify : (Strategy.bearer (fun token => pure (check token))).identify r w =
      (.value (r.headers.bearerToken?.bind check), w) := by
    cases htoken : r.headers.bearerToken? with
    | none => exact Strategy.bearer_of_none htoken w
    | some token => simp only [Strategy.bearer, htoken]; rfl
  simp only [authenticate]
  generalize r.headers.bearerToken?.bind check = found at hidentify
  rw [firstSuccess_cons hidentify]
  cases found with
  | none => exact ⟨rfl, rfl⟩
  | some identity => exact ⟨rfl, rfl⟩

/-- A site that keeps sessions under new ids for every login. -/
structure Site where
  authenticator : Authenticator
  /-- What the authenticator answers. -/
  answer : Request → Ending AccessError (Option Identity)
  answers : authenticator.Answers answer
  /-- Refuse requests of nobody. -/
  required : Bool
  config : SessionConfig
  named : IsCookieName config.cookieName
  /-- Keep the attributes of a session that moves. -/
  migrate : Bool
  /-- The level of reports about refused requests. -/
  level : LogLevel

namespace Site

/-- A site that checks bearer tokens and lets requests of nobody pass. -/
def ofBearer (check : String → Option Identity) (config : SessionConfig)
    (named : IsCookieName config.cookieName) : Site where
  authenticator := ⟨.firstSuccess, [Strategy.bearer (fun token => pure (check token))]⟩
  answer r := .value (r.headers.bearerToken?.bind check)
  answers := Authenticator.answers_bearer check
  required := false
  config := config
  named := named
  migrate := true
  level := .warn

/-- What the site does to sessions when an identity is established. -/
def strategy (s : Site) : LoginStrategy := .changeId s.config false s.migrate

/-- The filter chain of the site. -/
def chain (s : Site) : FilterChain :=
  (ChainPlan.ofSettings
    [.withoutCsrf, .restoringSessions s.config, .authenticatedBy s.authenticator,
      .requiring s.required, .onLogin (LoginHook.ofStrategy s.strategy)]).build

/-- Sessions are restored before requests are authenticated, and nothing else is done. -/
theorem chain_filters (s : Site) :
    s.chain.filters = [Filter.sessions s.config.cookieName,
      Filter.authentication s.authenticator (LoginHook.ofStrategy s.strategy) s.required] :=
  rfl

/-- Handle a request. -/
def handle (s : Site) (w : World) (r : Request) : Ending AccessError Unit × Passage :=
  FilterChain.runAll s.level s.chain.filters ⟨r, w⟩

/-- The live session that the cookie of a request names. -/
def named? (s : Site) (realm : Realm) (r : Request) : Option Session :=
  (r.headers.cookie? s.config.cookieName).bind (realm.store.live? realm.clock)

end Site

/-- The request with a session and its identity restored. -/
def Request.restored (r : Request) : Option Session → Request
  | some session =>
      { r with attachments :=
        { r.attachments with identity := some session.identity, session := some session } }
  | none => r

/-- The request without its session. -/
def Request.withoutSession (r : Request) : Request :=
  { r with attachments := { r.attachments with session := none } }

/-! ## Restoring -/

/-- The realm after a look-up in the store, if there is an id to look up. -/
def lookedUp (realm : Realm) : Option String → Realm
  | some id => realm.note .load id
  | none => realm

theorem lookedUp_store (realm : Realm) (id? : Option String) :
    (lookedUp realm id?).store = realm.store := by
  cases id? <;> rfl

theorem lookedUp_registry (realm : Realm) (id? : Option String) :
    (lookedUp realm id?).registry = realm.registry := by
  cases id? <;> rfl

/-- A look-up leaves nothing but a note of it. -/
theorem lookedUp_eq_withCalls (realm : Realm) (id? : Option String) :
    ∃ calls, lookedUp realm id? = realm.withCalls calls := by
  cases id? with
  | none => exact ⟨realm.calls, rfl⟩
  | some id => exact ⟨(realm.note .load id).calls, rfl⟩

namespace Filter

/-- The session that the cookie names is looked up and restored. -/
theorem sessions_run_lookedUp {w : World} (h : w.realm.IsSound) (cookieName : String)
    (r : Request) :
    (sessions cookieName).run ⟨r, w⟩ =
      (.value (),
        ⟨r.restored
          ((r.headers.cookie? cookieName).bind (w.realm.store.live? w.realm.clock)),
          { w with realm := lookedUp w.realm (r.headers.cookie? cookieName) }⟩) := by
  cases hcookie : r.headers.cookie? cookieName with
  | none => exact sessions_run_of_no_cookie hcookie
  | some id =>
      have hload : Passage.inWorld (World.inRealm (Realm.loadNamed cookieName r.headers))
          ⟨r, w⟩ = (.value (w.realm.store.live? w.realm.clock id),
            ⟨r, { w with realm := w.realm.note .load id }⟩) := by
        simp [Passage.inWorld, Realm.loadNamed, hcookie, Realm.load_apply h]
      simp only [sessions]
      rw [Run.bind_value (Run.reads_apply _ _), Run.bind_value hload, Option.bind_some]
      cases w.realm.store.live? w.realm.clock id with
      | none => rfl
      | some session => rfl

/-- The session that the cookie names is restored. -/
theorem sessions_run {w : World} (h : w.realm.IsSound) (cookieName : String) (r : Request) :
    ∃ calls, (sessions cookieName).run ⟨r, w⟩ =
      (.value (),
        ⟨r.restored
          ((r.headers.cookie? cookieName).bind (w.realm.store.live? w.realm.clock)),
          { w with realm := w.realm.withCalls calls }⟩) := by
  obtain ⟨calls, hcalls⟩ := lookedUp_eq_withCalls w.realm (r.headers.cookie? cookieName)
  exact ⟨calls, by rw [sessions_run_lookedUp h, hcalls]⟩

end Filter

/-! ## Authenticating -/

namespace Filter

variable {a : Authenticator} {answer : Request → Ending AccessError (Option Identity)}
  {p : Passage}

/-- The answer of an authenticator comes with a world in which sessions are as before. -/
theorem inWorld_authenticate (ha : a.Answers answer) (p : Passage) :
    ∃ w, w.realm = p.world.realm ∧
      Passage.inWorld (a.authenticate p.request) p = (answer p.request, ⟨p.request, w⟩) := by
  obtain ⟨hanswer, hrealm⟩ := ha p.request p.world
  refine ⟨_, hrealm, ?_⟩
  rw [← hanswer]
  rfl

/-- A request is authenticated by its own credentials, unless it has an identity without a
session. -/
theorem authentication_run_of_asked
    (hasked : (p.attachments.identity.isSome && p.attachments.session.isNone) = false)
    (hook : LoginHook) (required : Bool) :
    (authentication a hook required).run p =
      ((do
        match ← Passage.inWorld (a.authenticate p.request) with
        | some identity => establish hook identity
        | none =>
            if required && p.attachments.identity.isNone then .refuse .unauthenticated
            else pure ()) : Run Passage AccessError Unit) p := by
  simp only [authentication]
  rw [Run.bind_value (Run.reads_apply _ _)]
  simp only [hasked, Bool.false_eq_true, if_false]
  exact Run.bind_value (Run.reads_apply _ _)

/-- A request whose identity comes from its session is authenticated by its own
credentials. -/
theorem authentication_run
    (hrestored : p.attachments.identity.isSome = p.attachments.session.isSome)
    (hook : LoginHook) (required : Bool) :
    (authentication a hook required).run p =
      ((do
        match ← Passage.inWorld (a.authenticate p.request) with
        | some identity => establish hook identity
        | none =>
            if required && p.attachments.identity.isNone then .refuse .unauthenticated
            else pure ()) : Run Passage AccessError Unit) p := by
  refine authentication_run_of_asked ?_ hook required
  rw [hrestored]
  cases p.attachments.session <;> rfl

/-- The request is without its session while the hook works, and has what the hook leaves only
if it carries out its work. -/
theorem establish_apply (hook : LoginHook) (identity : Identity) (p : Passage) :
    establish hook identity p =
      match hook identity p.request.withoutSession ⟨p.attachments.session, p.world.realm⟩ with
      | (.value (), s) =>
          (.value (),
            ⟨{ p.request with
              attachments :=
                { p.attachments with identity := some identity, session := s.slot } },
              { p.world with realm := s.realm }⟩)
      | (.refused e, s) =>
          (.refused e.toAccessError,
            ⟨p.request.withoutSession, { p.world with realm := s.realm }⟩)
      | (.aborted, s) =>
          (.aborted, ⟨p.request.withoutSession, { p.world with realm := s.realm }⟩) := by
  have hdetach : Passage.attach (fun a => { a with session := none }) p =
      ((.value (), ⟨p.request.withoutSession, p.world⟩) : Ending AccessError Unit × Passage) :=
    rfl
  rw [establish, Run.bind_value (Run.reads_apply _ _), Run.bind_value hdetach,
    Run.bind_value (Run.reads_apply _ _), Run.bind_apply, Passage.inWorld, Run.within_apply,
    runHook]
  rcases hook identity p.request.withoutSession ⟨p.attachments.session, p.world.realm⟩ with
    ⟨done | e | _, s⟩
  · rfl
  · rfl
  · rfl

/-- A hook that carries out its work leaves its session with the request. -/
theorem establish_of_value {hook : LoginHook} {identity : Identity} {left : LoginState}
    (h : ∀ r, hook identity r ⟨p.attachments.session, p.world.realm⟩ = (.value (), left)) :
    establish hook identity p =
      (.value (),
        ⟨{ p.request with
          attachments :=
            { p.attachments with identity := some identity, session := left.slot } },
          { p.world with realm := left.realm }⟩) := by
  rw [establish_apply, h]

/-- A hook that breaks off leaves the request without its session. -/
theorem establish_of_aborted {hook : LoginHook} {identity : Identity} {left : LoginState}
    (h : ∀ r, hook identity r ⟨p.attachments.session, p.world.realm⟩ = (.aborted, left)) :
    establish hook identity p =
      (.aborted,
        ⟨{ p.request with attachments := { p.attachments with session := none } },
          { p.world with realm := left.realm }⟩) := by
  rw [establish_apply, h]
  rfl

end Filter

/-- With a single filter, only a report is added to what the filter does. -/
theorem FilterChain.runAll_singleton (level : LogLevel) (f : Filter) (p : Passage) :
    (runAll level [f] p).1 = (f.run p).1 ∧
      (runAll level [f] p).2.request = (f.run p).2.request ∧
        (runAll level [f] p).2.world.realm = (f.run p).2.world.realm := by
  rw [runAll, Run.bind_apply, Run.attempt]
  rcases f.run p with ⟨result | e | _, p'⟩
  · exact ⟨rfl, rfl, rfl⟩
  · exact ⟨rfl, rfl, rfl⟩
  · exact ⟨rfl, rfl, rfl⟩

/-! ## One request -/

namespace Site

/-- What becomes of the realm and of a request that comes with nothing attached. -/
inductive Visit (s : Site) (r : Request) (realm : Realm) :
    Ending AccessError Unit → Attachments → Realm → Prop where
  /-- Nobody new is found, and the request goes on as it is restored. -/
  | passed (calls : List StoreCall)
      (hanswer : s.answer (r.restored (s.named? realm r)) = .value none) :
      Visit s r realm (.value ()) (r.restored (s.named? realm r)).attachments
        (realm.withCalls calls)
  /-- The authenticator stops the request, or it comes from nobody. -/
  | stopped {ending : Ending AccessError Unit} (a : Attachments) (calls : List StoreCall)
      (hending : ending.isValue = false)
      (hanswer : (∀ found, s.answer (r.restored (s.named? realm r)) ≠ .value found) ∨
        s.named? realm r = none) :
      Visit s r realm ending a (realm.withCalls calls)
  /-- The end of a new session lies outside the calendar. -/
  | exhausted (i : Identity) (a : Attachments) (calls : List StoreCall)
      (hanswer : s.answer (r.restored (s.named? realm r)) = .value (some i))
      (hnamed : s.named? realm r = none) :
      Visit s r realm .aborted a
        ({ realm with sessionIds := realm.sessionIds.advance }.withCalls calls)
  /-- A new session is opened. -/
  | created (i : Identity) {session : Session} (calls : List StoreCall)
      (hanswer : s.answer (r.restored (s.named? realm r)) = .value (some i))
      (hnamed : s.named? realm r = none)
      (hnew : newSession? s.config realm i = some session) :
      Visit s r realm (.value ())
        { Attachments.empty with identity := some i, session := some session }
        ((created realm session).withCalls calls)
  /-- The session of the request is moved. -/
  | moved (i : Identity) {current : Session} (calls : List StoreCall)
      (hanswer : s.answer (r.restored (s.named? realm r)) = .value (some i))
      (hnamed : s.named? realm r = some current) :
      Visit s r realm (.value ())
        { Attachments.empty with
          identity := some i
          session := some (rebound current realm.sessionIds.next i s.migrate) }
        ((moved realm false s.migrate i current).withCalls calls)

/-- What the login of an identity does to a restored request. -/
theorem visit_of_establish (s : Site) {realm : Realm} (h : realm.IsSound) {r : Request}
    (hbare : r.attachments = .empty) {i : Identity}
    (hanswer : s.answer (r.restored (s.named? realm r)) = .value (some i)) {w : World}
    {calls : List StoreCall} (hrealm : w.realm = realm.withCalls calls) :
    Visit s r realm
      (Filter.establish (LoginHook.ofStrategy s.strategy) i
        ⟨r.restored (s.named? realm r), w⟩).1
      (Filter.establish (LoginHook.ofStrategy s.strategy) i
        ⟨r.restored (s.named? realm r), w⟩).2.request.attachments
      (Filter.establish (LoginHook.ofStrategy s.strategy) i
        ⟨r.restored (s.named? realm r), w⟩).2.world.realm := by
  have hsound : (realm.withCalls calls).IsSound := h.withCalls calls
  cases hnamed : s.named? realm r with
  | none =>
      have hhook {left : Ending LoginError Unit × LoginState}
          (hrun : run i s.strategy ⟨none, realm.withCalls calls⟩ = left) (r' : Request) :
          LoginHook.ofStrategy s.strategy i r'
            ⟨(Passage.mk r w).attachments.session, w.realm⟩ = left := by
        rw [Passage.attachments, hbare, hrealm]
        exact hrun
      obtain ⟨later, hrun⟩ := run_changeId_none hsound i s.config false s.migrate
      cases hnew : newSession? s.config (realm.withCalls calls) i with
      | none =>
          simp only [hnew] at hrun
          rw [Request.restored, Filter.establish_of_aborted (hhook hrun)]
          exact .exhausted i _ _ (hnamed ▸ hanswer) hnamed
      | some session =>
          simp only [hnew] at hrun
          rw [Request.restored, Filter.establish_of_value (hhook hrun), Passage.attachments,
            hbare]
          exact .created i _ (hnamed ▸ hanswer) hnamed hnew
  | some current =>
      obtain ⟨later, hrun⟩ := run_changeId_some hsound i current s.config false s.migrate
      have hhook {left : Ending LoginError Unit × LoginState}
          (hrun : run i s.strategy ⟨some current, realm.withCalls calls⟩ = left)
          (r' : Request) : LoginHook.ofStrategy s.strategy i r'
            ⟨(Passage.mk (r.restored (some current)) w).attachments.session, w.realm⟩ =
              left := by
        rw [hrealm]
        exact hrun
      rw [Filter.establish_of_value (hhook hrun)]
      change Visit s r realm _ { r.attachments with
        identity := some i
        session := some (rebound current realm.sessionIds.next i s.migrate) } _
      rw [hbare]
      exact .moved i _ (hnamed ▸ hanswer) hnamed

/-- What the authentication of a restored request does. -/
theorem visit_of_authentication (s : Site) {realm : Realm} (h : realm.IsSound) {r : Request}
    (hbare : r.attachments = .empty) {p : Passage} {calls : List StoreCall}
    (hrequest : p.request = r.restored (s.named? realm r))
    (hrealm : p.world.realm = realm.withCalls calls) :
    Visit s r realm
      ((Filter.authentication s.authenticator (LoginHook.ofStrategy s.strategy)
        s.required).run p).1
      ((Filter.authentication s.authenticator (LoginHook.ofStrategy s.strategy)
        s.required).run p).2.request.attachments
      ((Filter.authentication s.authenticator (LoginHook.ofStrategy s.strategy)
        s.required).run p).2.world.realm := by
  have hattached : p.attachments.identity.isSome = p.attachments.session.isSome := by
    rw [Passage.attachments, hrequest]
    cases s.named? realm r <;> simp [Request.restored, hbare, Attachments.empty]
  rw [Filter.authentication_run hattached]
  obtain ⟨w, hw, hauthenticated⟩ := Filter.inWorld_authenticate s.answers p
  rw [hrealm] at hw
  cases hanswer : s.answer p.request with
  | refused e =>
      rw [hanswer] at hauthenticated
      rw [Run.bind_refused hauthenticated]
      rw [hrequest] at hanswer
      change Visit s r realm (.refused e) p.request.attachments w.realm
      rw [hw]
      exact .stopped _ _ rfl (Or.inl (by simp [hanswer]))
  | aborted =>
      rw [hanswer] at hauthenticated
      rw [Run.bind_aborted hauthenticated]
      rw [hrequest] at hanswer
      change Visit s r realm .aborted p.request.attachments w.realm
      rw [hw]
      exact .stopped _ _ rfl (Or.inl (by simp [hanswer]))
  | value found =>
      rw [hanswer] at hauthenticated
      rw [Run.bind_value hauthenticated]
      rw [hrequest] at hanswer
      cases found with
      | none =>
          by_cases hnobody : (s.required && p.attachments.identity.isNone) = true
          · have hnamed : s.named? realm r = none := by
              rw [Bool.and_eq_true] at hnobody
              cases hnamed : s.named? realm r with
              | none => rfl
              | some session =>
                  simp [Passage.attachments, hrequest, hnamed, Request.restored] at hnobody
            simp only [hnobody, if_true]
            change Visit s r realm (.refused .unauthenticated) p.request.attachments w.realm
            rw [hw]
            exact .stopped _ _ rfl (Or.inr hnamed)
          · simp only [hnobody]
            change Visit s r realm (.value ()) p.request.attachments w.realm
            rw [hw, hrequest]
            exact .passed _ hanswer
      | some i =>
          rw [hrequest]
          exact visit_of_establish s h hbare hanswer hw

/-- A request passes as it is restored, is stopped, opens a session, or moves the one
that it names. -/
theorem visit_of_handle (s : Site) {w : World} (h : w.realm.IsSound) {r : Request}
    (hbare : r.attachments = .empty) :
    Visit s r w.realm (s.handle w r).1 (s.handle w r).2.request.attachments
      (s.handle w r).2.world.realm := by
  obtain ⟨calls, hsessions⟩ := Filter.sessions_run h s.config.cookieName r
  rw [handle, chain_filters, FilterChain.runAll_cons hsessions]
  obtain ⟨hending, hrequest, hrealm⟩ := FilterChain.runAll_singleton s.level
    (Filter.authentication s.authenticator (LoginHook.ofStrategy s.strategy) s.required)
    ⟨r.restored (s.named? w.realm r), { w with realm := w.realm.withCalls calls }⟩
  have hvisit := visit_of_authentication s h hbare
    (p := ⟨r.restored (s.named? w.realm r), { w with realm := w.realm.withCalls calls }⟩)
    rfl rfl
  rw [← hending, ← hrequest, ← hrealm] at hvisit
  exact hvisit

end Site

end WebAuth.Web
