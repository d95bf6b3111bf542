import WebAuth.Session.Login

/-!
# What login strategies do to a realm in working order

Each strategy is described once by what it makes of a realm whose store is in
working order.  The recorded uses of the store are left open: no later step reads
them.

Main results:

- Theorem `LoginStrategy.run_limit`: a limit drops the registrations of sessions
  that are gone, and then refuses, makes room or does nothing.
- Theorem `LoginStrategy.run_changeId_some`: a session is stored and registered
  under its new id only.
- Theorem `LoginStrategy.run_changeId_none`: without a session a new one is
  stored, unless its end lies outside the calendar.
- Theorem `LoginStrategy.run_register`: the session in the slot is registered.
-/

namespace WebAuth

/-! ## Forgetting several sessions -/

namespace Store

/-- Forget the sessions of some ids. -/
def deleteAll (store : Store) (ids : List String) : Store := ids.foldl delete store

/-- Exactly the sessions of those ids are forgotten. -/
theorem find?_deleteAll (store : Store) (ids : List String) (id : String) :
    (store.deleteAll ids).find? id = if id ∈ ids then none else store.find? id := by
  induction ids generalizing store with
  | nil => simp [deleteAll]
  | cons first rest ih =>
      have hstep : store.deleteAll (first :: rest) = (store.delete first).deleteAll rest := rfl
      rw [hstep, ih]
      by_cases hrest : id ∈ rest
      · simp [hrest]
      · by_cases hfirst : id = first
        · subst hfirst
          simp
        · simp [hrest, hfirst, find?_delete_of_ne hfirst]

end Store

namespace Registry

/-- Take several sessions off every principal's list. -/
def removeAll (registry : Registry) (ids : List String) : Registry :=
  ids.foldl remove registry

/-- Exactly the sessions of those ids leave every list. -/
theorem sessionsFor_removeAll (registry : Registry) (ids : List String) (principal : String) :
    (registry.removeAll ids).sessionsFor principal =
      (registry.sessionsFor principal).filter (fun r => r.sessionId ∉ ids) := by
  induction ids generalizing registry with
  | nil => exact (List.filter_eq_self.mpr (by simp)).symm
  | cons first rest ih =>
      have hstep : registry.removeAll (first :: rest) = (registry.remove first).removeAll rest :=
        rfl
      rw [hstep, ih, sessionsFor_remove, Registration.without, List.filter_filter]
      congr 1
      funext r
      simp [Bool.and_comm]

end Registry

/-! ## Live and dead registrations -/

namespace Realm

/-- The same realm with other recorded uses of its store. -/
def withCalls (r : Realm) (calls : List StoreCall) : Realm := { r with calls := calls }

/-- Whether the session of a registration is live. -/
def hasLive (r : Realm) (g : Registration) : Bool :=
  (r.store.live? r.clock g.sessionId).isSome

/-- The registrations of a principal whose sessions are live, in order. -/
def liveSessionsFor (r : Realm) (principal : String) : List Registration :=
  (r.registry.sessionsFor principal).filter r.hasLive

/-- Drop the registrations among `gs` whose sessions are gone. -/
def dropDead (r : Realm) (gs : List Registration) : Realm :=
  { r with
    registry := r.registry.removeAll
      ((gs.filter (fun g => !r.hasLive g)).map Registration.sessionId) }

/-- Drop the registrations of a principal whose sessions are gone. -/
def swept (r : Realm) (principal : String) : Realm :=
  r.dropDead (r.registry.sessionsFor principal)

/-- End the sessions of some ids. -/
def ended (r : Realm) (ids : List String) : Realm :=
  { r with store := r.store.deleteAll ids, registry := r.registry.removeAll ids }

/-- A registration of a live session is not dropped. -/
theorem dropDead_cons_of_live {r : Realm} {g : Registration} (h : r.hasLive g = true)
    (rest : List Registration) : r.dropDead (g :: rest) = r.dropDead rest := by
  simp [dropDead, h]

/-- A registration of a session that is gone is dropped first. -/
theorem dropDead_cons_of_dead {r : Realm} {g : Registration} (h : r.hasLive g = false)
    (rest : List Registration) :
    r.dropDead (g :: rest) = (r.unregister g.sessionId).dropDead rest := by
  simp only [dropDead, List.filter_cons, h]
  rfl

theorem IsSound.withCalls {r : Realm} (h : r.IsSound) (calls : List StoreCall) :
    (r.withCalls calls).IsSound :=
  h

end Realm

/-! ## The steps of strategies -/

namespace LoginStrategy

open LoginState

variable {s : LoginState}

section UseStore

variable {α : Type} {operation : StoreOperation} {id : String} {answer : Realm → α}
  {effect : Realm → Realm}

/-- A use of the store that is out of order is noted and does nothing. -/
theorem inRealm_useStore_of_fault {e : AccessError} (h : s.realm.faults operation = some e) :
    inRealm (Realm.useStore operation id answer effect) s =
      (.refused (.store e), { s with realm := s.realm.note operation id }) := by
  simp [inRealm, Realm.useStore, h, Ending.mapReason]

theorem inRealm_useStore_of_no_fault (h : s.realm.faults operation = none) :
    inRealm (Realm.useStore operation id answer effect) s =
      (.value (answer s.realm), { s with realm := effect (s.realm.note operation id) }) := by
  simp [inRealm, Realm.useStore, h, Ending.mapReason]

end UseStore

theorem inRealm_load (h : s.realm.IsSound) (id : String) :
    inRealm (Realm.load id) s =
      (.value (s.realm.store.live? s.realm.clock id),
        { s with realm := s.realm.note .load id }) :=
  inRealm_useStore_of_no_fault (h .load)

theorem inRealm_save (h : s.realm.IsSound) (session : Session) :
    inRealm (Realm.save session) s =
      (.value (), { s with realm :=
        { s.realm.note .save session.id with store := s.realm.store.save session } }) :=
  inRealm_useStore_of_no_fault (h .save)

theorem inRealm_delete (h : s.realm.IsSound) (id : String) :
    inRealm (Realm.delete id) s =
      (.value (), { s with realm :=
        { s.realm.note .delete id with store := s.realm.store.delete id } }) :=
  inRealm_useStore_of_no_fault (h .delete)

theorem changeRealm_apply (f : Realm → Realm) (s : LoginState) :
    changeRealm f s = (.value (), { s with realm := f s.realm }) :=
  rfl

theorem put_apply (session : Session) (s : LoginState) :
    put session s = (.value (), { s with slot := some session }) :=
  rfl

theorem drawId_apply (s : LoginState) :
    drawId s = (.value s.realm.sessionIds.next,
      { s with realm := { s.realm with sessionIds := s.realm.sessionIds.advance } }) :=
  rfl

/-- The live registrations are found in order; the others are dropped. -/
theorem liveRegistrations_apply (h : s.realm.IsSound) (gs : List Registration) :
    ∃ calls, liveRegistrations gs s =
      (.value (gs.filter s.realm.hasLive),
        { s with realm := (s.realm.dropDead gs).withCalls calls }) := by
  induction gs generalizing s with
  | nil => exact ⟨s.realm.calls, rfl⟩
  | cons g rest ih =>
      rw [liveRegistrations, Run.bind_value (inRealm_load h g.sessionId)]
      cases hlive : s.realm.store.live? s.realm.clock g.sessionId with
      | some session =>
          have hkeep : s.realm.hasLive g = true := by simp [Realm.hasLive, hlive]
          obtain ⟨calls, hrest⟩ :=
            ih (s := { s with realm := s.realm.note .load g.sessionId }) h
          refine ⟨calls, ?_⟩
          change (liveRegistrations rest >>= fun others => pure (g :: others)) _ = _
          rw [Run.bind_value hrest, Realm.dropDead_cons_of_live hkeep,
            List.filter_cons_of_pos hkeep]
          rfl
      | none =>
          have hdrop : s.realm.hasLive g = false := by simp [Realm.hasLive, hlive]
          obtain ⟨calls, hrest⟩ := ih (s := { s with
            realm := Realm.unregister g.sessionId (s.realm.note .load g.sessionId) }) h
          refine ⟨calls, ?_⟩
          change (changeRealm (Realm.unregister g.sessionId) >>= fun _ =>
            liveRegistrations rest) _ = _
          rw [Run.bind_value (changeRealm_apply _ _), Realm.dropDead_cons_of_dead hdrop,
            List.filter_cons_of_neg (by simp [hdrop])]
          exact hrest

/-- Ending sessions takes them out of the store and the registry. -/
theorem expire_apply (h : s.realm.IsSound) (gs : List Registration) :
    ∃ calls, expire gs s =
      (.value (), { s with
        realm := (s.realm.ended (gs.map Registration.sessionId)).withCalls calls }) := by
  induction gs generalizing s with
  | nil => exact ⟨s.realm.calls, rfl⟩
  | cons g rest ih =>
      obtain ⟨calls, hrest⟩ := ih (s := { s with
        realm := Realm.unregister g.sessionId
          { s.realm.note .delete g.sessionId with
            store := s.realm.store.delete g.sessionId } }) h
      refine ⟨calls, ?_⟩
      rw [expire, Run.bind_value (inRealm_delete h g.sessionId),
        Run.bind_value (changeRealm_apply _ _)]
      exact hrest

/-! ## Limits -/

/-- Whether the session of a login fits under the limit as it is: there is room for
one more, or it is one of the sessions that fill the limit exactly. -/
def fits (maximum : Int) (slot : Option Session) (live : List Registration) : Bool :=
  live.length < maximum.toNat || (live.length = maximum.toNat && holdsOneOf slot live)

/-- The ids of the oldest sessions, which have to end to make room for one more. -/
def oldest (maximum : Int) (live : List Registration) : List String :=
  (live.take (live.length + 1 - maximum.toNat)).map Registration.sessionId

/-- What a limit answers and what it makes of the realm. -/
def limited (maximum : Int) (strict : Bool) (principal : String) (slot : Option Session)
    (r : Realm) : Ending LoginError Unit × Realm :=
  let live := r.liveSessionsFor principal
  if maximum < 0 then (.value (), r)
  else if fits maximum slot live then (.value (), r.swept principal)
  else if strict ∨ maximum.toNat = 0 then
    (.refused (.maximumExceeded principal maximum), r.swept principal)
  else (.value (), (r.swept principal).ended (oldest maximum live))

/-- The live sessions of a principal are found and the other registrations dropped. -/
theorem liveRegistrations_sessionsFor (h : s.realm.IsSound) (principal : String) :
    ∃ calls, liveRegistrations (s.realm.registry.sessionsFor principal) s =
      (.value (s.realm.liveSessionsFor principal),
        { s with realm := (s.realm.swept principal).withCalls calls }) :=
  liveRegistrations_apply h _

/-- A limit drops the registrations of sessions that are gone, and then refuses,
makes room or does nothing. -/
theorem run_limit (h : s.realm.IsSound) (identity : Identity) (maximum : Int) (strict : Bool) :
    ∃ calls, run identity (.limit maximum strict) s =
      ((limited maximum strict identity.principal s.slot s.realm).1,
        { s with realm :=
          (limited maximum strict identity.principal s.slot s.realm).2.withCalls calls }) := by
  by_cases hneg : maximum < 0
  · refine ⟨s.realm.calls, ?_⟩
    simp [run, limited, hneg, Realm.withCalls]
  · obtain ⟨calls, hlive⟩ := liveRegistrations_sessionsFor h identity.principal
    simp only [run, limited, hneg, if_false, makeRoom]
    rw [Run.bind_value (Run.reads_apply _ _), Run.bind_value hlive,
      Run.bind_value (Run.reads_apply _ _)]
    generalize s.realm.liveSessionsFor identity.principal = live
    by_cases hroom : live.length < maximum.toNat
    · exact ⟨calls, by simp [fits, hroom]⟩
    by_cases hfull : live.length = maximum.toNat ∧ holdsOneOf s.slot live = true
    · exact ⟨calls, by simp [fits, hfull]⟩
    have hfits : fits maximum s.slot live = false := by
      simpa [fits, hroom] using hfull
    simp only [hroom, if_false, hfull, hfits]
    by_cases hrefused : strict = true ∨ maximum.toNat = 0
    · exact ⟨calls, by simp only [hrefused, if_true]; rfl⟩
    · obtain ⟨later, hexpire⟩ := expire_apply
        (s := { s with realm := (s.realm.swept identity.principal).withCalls calls })
        h (live.take (live.length + 1 - maximum.toNat))
      refine ⟨later, ?_⟩
      simp only [hrefused, if_false]
      exact hexpire

/-! ## New ids -/

/-- The realm after a session has taken a new id; its registration keeps its place. -/
def moved (r : Realm) (tracked migrate : Bool) (identity : Identity) (current : Session) :
    Realm :=
  { r with
    store := (r.store.save (rebound current r.sessionIds.next identity migrate)).delete
      current.id
    registry := if tracked then r.registry.rename current.id r.sessionIds.next else r.registry
    sessionIds := r.sessionIds.advance }

/-- A login with a session moves it to a new id. -/
theorem run_changeId_eq_moveSession (r : Realm) (identity : Identity) (current : Session)
    (config : SessionConfig) (tracked migrate : Bool) :
    run identity (.changeId config tracked migrate) ⟨some current, r⟩ =
      moveSession tracked migrate identity current ⟨some current, r⟩ := by
  simp only [run]
  rw [Run.bind_value (Run.reads_apply _ _)]

/-- A session is stored and registered under its new id only. -/
theorem run_changeId_some {r : Realm} (h : r.IsSound) (identity : Identity) (current : Session)
    (config : SessionConfig) (tracked migrate : Bool) :
    ∃ calls, run identity (.changeId config tracked migrate) ⟨some current, r⟩ =
      (.value (),
        ⟨some (rebound current r.sessionIds.next identity migrate),
          (moved r tracked migrate identity current).withCalls calls⟩) := by
  rw [run_changeId_eq_moveSession, moveSession, Run.bind_value (drawId_apply _),
    Run.bind_value (put_apply _ _), Run.bind_value (inRealm_save h _),
    Run.bind_value (inRealm_delete h _)]
  cases tracked with
  | true => exact ⟨_, rfl⟩
  | false => exact ⟨_, rfl⟩

/-- The session of a login that comes without one; none if its end lies outside the
calendar. -/
def newSession? (config : SessionConfig) (r : Realm) (identity : Identity) : Option Session :=
  config.lifetime?.bind (Session.create? r.sessionIds.next identity r.clock)

/-- The realm after a new session has been stored. -/
def created (r : Realm) (session : Session) : Realm :=
  { r with store := r.store.save session, sessionIds := r.sessionIds.advance }

/-- A login without a session creates one. -/
theorem run_changeId_eq_createSession (r : Realm) (identity : Identity) (config : SessionConfig)
    (tracked migrate : Bool) :
    run identity (.changeId config tracked migrate) ⟨none, r⟩ =
      createSession config identity ⟨none, r⟩ := by
  simp only [run]
  rw [Run.bind_value (Run.reads_apply _ _)]

/-- Without a session a new one is stored, unless its end lies outside the calendar. -/
theorem run_changeId_none {r : Realm} (h : r.IsSound) (identity : Identity)
    (config : SessionConfig) (tracked migrate : Bool) :
    ∃ calls, run identity (.changeId config tracked migrate) ⟨none, r⟩ =
      match newSession? config r identity with
      | some session => (.value (), ⟨some session, (created r session).withCalls calls⟩)
      | none => (.aborted, ⟨none, { r with sessionIds := r.sessionIds.advance }⟩) := by
  rw [run_changeId_eq_createSession, createSession, Run.bind_value (drawId_apply _),
    Run.bind_value (Run.reads_apply _ _)]
  simp only [newSession?]
  cases config.lifetime?.bind (Session.create? r.sessionIds.next identity r.clock) with
  | none => exact ⟨[], rfl⟩
  | some session =>
      refine ⟨⟨.save, session.id, (r.faults .save).isSome⟩ :: r.calls, ?_⟩
      change (inRealm (Realm.save session) >>= fun _ => put session) _ = _
      rw [Run.bind_value (inRealm_save h _)]
      rfl

/-! ## Registration -/

/-- The session in the slot is registered. -/
theorem run_register (identity : Identity) (current : Session) (r : Realm) :
    run identity .register ⟨some current, r⟩ =
      (.value (), ⟨some current, r.register current.id identity.principal⟩) := by
  simp only [run, registerSession]
  rw [Run.bind_value (Run.reads_apply _ _)]
  rfl

end LoginStrategy

end WebAuth
