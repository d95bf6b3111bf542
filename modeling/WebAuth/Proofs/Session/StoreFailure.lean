import WebAuth.Proofs.Session.Runs

/-!
# New ids while the store is out of order

A login that brings a session asks the store twice: it saves the session under its new id, and
then deletes the old one.  Each of the two may be out of order.  As either is asked only once,
the faults of a realm cover every way in which the store can fail during the login.

Where the store fails, the session of the old id stays stored and the registry as it was.  The
session in the slot does not: it has the new id and the new identity before the store is asked
for the first time, and keeps them.  A login without a session is more careful.  It fills the
slot only after the store has taken the new session.

Main results:

- Theorem `LoginStrategy.relocation_of_run`: the three ways in which a session takes a new id.
- Theorem `LoginStrategy.creation_of_run`: the three ways in which a login without one ends.
- Theorem `LoginStrategy.slot_of_run_refused`: a login without a session that fails leaves the
  slot empty.
- Theorem `LoginStrategy.isUntouched_iff_no_fault`: a session is left as it was by the failures
  of its login only if there is none.
- Theorem `LoginStrategy.not_isUntouched_unsaved`: a session whose login fails can be left with
  an id that is not stored.
-/

namespace WebAuth

namespace LoginStrategy

open LoginState

variable {s left : LoginState} {r : Realm} {identity : Identity} {current stored : Session}
  {config : SessionConfig} {tracked migrate : Bool} {e : AccessError}
  {ending : Ending LoginError Unit}

/-! ## Sessions that take a new id -/

/-- How a login with a session ends when the store may be out of order, and which slot and realm
it leaves. -/
inductive Relocation (tracked migrate : Bool) (identity : Identity) (current : Session)
    (r : Realm) : Ending LoginError Unit → LoginState → Prop where
  /-- The session could not be saved under its new id. -/
  | unsaved {e : AccessError} (calls : List StoreCall) (hsave : r.faults .save = some e) :
      Relocation tracked migrate identity current r (.refused (.store e))
        ⟨some (rebound current r.sessionIds.next identity migrate),
          { r with sessionIds := r.sessionIds.advance }.withCalls calls⟩
  /-- The session of the old id could not be deleted. -/
  | undeleted {e : AccessError} (calls : List StoreCall) (hsave : r.faults .save = none)
      (hdelete : r.faults .delete = some e) :
      Relocation tracked migrate identity current r (.refused (.store e))
        ⟨some (rebound current r.sessionIds.next identity migrate),
          { r with
            store := r.store.save (rebound current r.sessionIds.next identity migrate)
            sessionIds := r.sessionIds.advance }.withCalls calls⟩
  /-- The store has done both. -/
  | moved (calls : List StoreCall) (hsave : r.faults .save = none)
      (hdelete : r.faults .delete = none) :
      Relocation tracked migrate identity current r (.value ())
        ⟨some (rebound current r.sessionIds.next identity migrate),
          (moved r tracked migrate identity current).withCalls calls⟩

/-- A login with a session fails when the session is saved or when the old one is deleted, or it
moves the session. -/
theorem relocation_of_run (r : Realm) (identity : Identity) (current : Session)
    (config : SessionConfig) (tracked migrate : Bool) :
    Relocation tracked migrate identity current r
      (run identity (.changeId config tracked migrate) ⟨some current, r⟩).1
      (run identity (.changeId config tracked migrate) ⟨some current, r⟩).2 := by
  rw [run_changeId_eq_moveSession, moveSession, Run.bind_value (drawId_apply _),
    Run.bind_value (put_apply _ _), Realm.save, Realm.delete]
  cases hsave : r.faults .save with
  | some e =>
      rw [Run.bind_refused (inRealm_useStore_of_fault hsave)]
      exact .unsaved _ hsave
  | none =>
      rw [Run.bind_value (inRealm_useStore_of_no_fault hsave)]
      cases hdelete : r.faults .delete with
      | some e =>
          rw [Run.bind_refused (inRealm_useStore_of_fault hdelete)]
          exact .undeleted _ hsave hdelete
      | none =>
          rw [Run.bind_value (inRealm_useStore_of_no_fault hdelete)]
          cases tracked with
          | true => exact .moved _ hsave hdelete
          | false => exact .moved _ hsave hdelete

/-! ## Logins without a session -/

/-- How a login without a session ends when the store may be out of order, and which slot and
realm it leaves. -/
inductive Creation (config : SessionConfig) (identity : Identity) (r : Realm) :
    Ending LoginError Unit → LoginState → Prop where
  /-- The end of a new session would lie outside the calendar. -/
  | endless (hnew : newSession? config r identity = none) :
      Creation config identity r .aborted ⟨none, { r with sessionIds := r.sessionIds.advance }⟩
  /-- The new session could not be saved. -/
  | unsaved {e : AccessError} {session : Session} (calls : List StoreCall)
      (hnew : newSession? config r identity = some session) (hsave : r.faults .save = some e) :
      Creation config identity r (.refused (.store e))
        ⟨none, { r with sessionIds := r.sessionIds.advance }.withCalls calls⟩
  /-- The new session is in the store and in the slot. -/
  | created {session : Session} (calls : List StoreCall)
      (hnew : newSession? config r identity = some session) (hsave : r.faults .save = none) :
      Creation config identity r (.value ()) ⟨some session, (created r session).withCalls calls⟩

/-- A login without a session aborts, fails when the new session is saved, or creates it. -/
theorem creation_of_run (r : Realm) (identity : Identity) (config : SessionConfig)
    (tracked migrate : Bool) :
    Creation config identity r (run identity (.changeId config tracked migrate) ⟨none, r⟩).1
      (run identity (.changeId config tracked migrate) ⟨none, r⟩).2 := by
  rw [run_changeId_eq_createSession, createSession, Run.bind_value (drawId_apply _),
    Run.bind_value (Run.reads_apply _ _)]
  cases hnew : config.lifetime?.bind (Session.create? r.sessionIds.next identity r.clock) with
  | none => exact .endless hnew
  | some session =>
      change Creation config identity r ((inRealm (Realm.save session) >>= fun _ => put session)
        _).1 ((inRealm (Realm.save session) >>= fun _ => put session) _).2
      rw [Realm.save]
      cases hsave : r.faults .save with
      | some e =>
          rw [Run.bind_refused (inRealm_useStore_of_fault hsave)]
          exact .unsaved _ hnew hsave
      | none =>
          rw [Run.bind_value (inRealm_useStore_of_no_fault hsave)]
          exact .created _ hnew hsave

/-- A login without a session that fails leaves the slot empty, and store and registry as they
were. -/
theorem slot_of_run_refused {reason : LoginError}
    (h : run identity (.changeId config tracked migrate) ⟨none, r⟩ = (.refused reason, left)) :
    left.slot = none ∧ left.realm.store = r.store ∧ left.realm.registry = r.registry := by
  have hcreation := creation_of_run r identity config tracked migrate
  rw [h] at hcreation
  cases hcreation with
  | unsaved calls hnew hsave => exact ⟨rfl, rfl, rfl⟩

/-! ## What a failure leaves -/

/-- The session that a login came with is as it was: in the slot, in the store and in the
registry. -/
structure IsUntouched (current stored : Session) (r : Realm) (after : LoginState) : Prop where
  slot_eq : after.slot = some current
  find?_eq : after.realm.store.find? current.id = some stored
  registry_eq : after.realm.registry = r.registry

/-- A login with a session fails exactly if the store is out of order for saving or for
deleting. -/
theorem Relocation.refused_iff
    (h : Relocation tracked migrate identity current r ending left) :
    (∃ reason, ending = .refused reason) ↔
      ¬(r.faults .save = none ∧ r.faults .delete = none) := by
  cases h with
  | unsaved calls hsave => simp [hsave]
  | undeleted calls hsave hdelete => simp [hdelete]
  | moved calls hsave hdelete => simp [hsave, hdelete]

/-- A login with a session that fails leaves the stored session and the registry alone, and in
the slot the session under its new id, stored or not. -/
theorem Relocation.leaves_of_refused {reason : LoginError}
    (h : Relocation tracked migrate identity current r ending left)
    (hending : ending = .refused reason) (hstored : r.store.find? current.id = some stored)
    (hnew : r.store.find? r.sessionIds.next = none) :
    left.slot = some (rebound current r.sessionIds.next identity migrate) ∧
      left.realm.store.find? current.id = some stored ∧ left.realm.registry = r.registry ∧
      left.realm.store.find? r.sessionIds.next =
        if r.faults .save = none then
          some (rebound current r.sessionIds.next identity migrate)
        else none := by
  cases h with
  | unsaved calls hsave =>
      refine ⟨rfl, hstored, rfl, ?_⟩
      rw [hsave]
      exact hnew
  | undeleted calls hsave hdelete =>
      have hne : current.id ≠ r.sessionIds.next := by
        intro heq
        rw [← heq, hstored] at hnew
        cases hnew
      refine ⟨rfl, ?_, rfl, ?_⟩
      · exact (Store.find?_save_of_ne hne r.store).trans hstored
      · rw [if_pos hsave]
        exact Store.find?_save_self _ _
  | moved calls hsave hdelete => cases hending

/-- A login brings a session that is stored under its id, and the id that is handed out next is
not stored.  The login fails exactly if the store is out of order for saving or for deleting.
When it fails, the session of the old id is stored as before and the registry is as before, but
the slot has the session under its new id, which is stored only if it could be saved.  So a
session is left as it was by the failures of its login only if there are none. -/
theorem isUntouched_iff_no_fault (hstored : r.store.find? current.id = some stored)
    (hnew : r.store.find? r.sessionIds.next = none) (identity : Identity)
    (config : SessionConfig) (tracked migrate : Bool) :
    let outcome := run identity (.changeId config tracked migrate) ⟨some current, r⟩
    let moved := rebound current r.sessionIds.next identity migrate
    ((∃ reason, outcome.1 = .refused reason) ↔
        ¬(r.faults .save = none ∧ r.faults .delete = none)) ∧
      (∀ reason, outcome.1 = .refused reason →
        outcome.2.slot = some moved ∧
          outcome.2.realm.store.find? current.id = some stored ∧
          outcome.2.realm.registry = r.registry ∧
          outcome.2.realm.store.find? moved.id =
            if r.faults .save = none then some moved else none) ∧
      ((∀ reason, outcome.1 = .refused reason → IsUntouched current stored r outcome.2) ↔
        r.faults .save = none ∧ r.faults .delete = none) := by
  intro outcome moved
  have houtcome : Relocation tracked migrate identity current r outcome.1 outcome.2 :=
    relocation_of_run r identity current config tracked migrate
  have hleaves : ∀ reason, outcome.1 = .refused reason → _ := fun reason hending =>
    houtcome.leaves_of_refused hending hstored hnew
  refine ⟨houtcome.refused_iff, hleaves, ?_⟩
  constructor
  · intro huntouched
    refine Decidable.byContradiction fun hfault => ?_
    obtain ⟨reason, hending⟩ := houtcome.refused_iff.mpr hfault
    -- The slot has a session of another id than before.
    have hslot := (huntouched reason hending).slot_eq.symm.trans (hleaves reason hending).1
    have hid : current.id = r.sessionIds.next := congrArg Session.id (Option.some.inj hslot)
    rw [← hid, hstored] at hnew
    cases hnew
  · intro hsound reason hending
    exact absurd hsound (houtcome.refused_iff.mp ⟨reason, hending⟩)

/-! ## A store that is out of order -/

/-- A store in which a guest's session is kept, and which does not carry out one operation. -/
def faultyRealm (operation : StoreOperation) (kept : Session) : Realm :=
  { Realm.initial ⟨0, 0⟩ .strokes with
    store := Store.empty.save kept
    registry := Registry.empty.register kept.id kept.identity.principal ⟨0, 0⟩
    faults := fun other => if other = operation then some (.session "out of order") else none }

/-- A guest's session with something in it. -/
def guestCart : Session :=
  ⟨"cart", .ofSubject "anonymous" "guest", [("items", .array [.string "book"])], ⟨0, 0⟩,
    ⟨3600, 0⟩⟩

/-- If the session of the old id cannot be deleted, both are stored. -/
theorem isUntouched_iff_no_fault_undeleted :
    let r := faultyRealm .delete guestCart
    let outcome := run (.ofSubject "idp" "alice") (.changeId .default true true)
      ⟨some guestCart, r⟩
    r.store.find? "cart" = some guestCart ∧ r.store.find? r.sessionIds.next = none ∧
      outcome.2.realm.store.find? "cart" = some guestCart ∧
      outcome.2.realm.store.find? "1" =
        some (rebound guestCart "1" (.ofSubject "idp" "alice") true) ∧
      ¬∀ reason, outcome.1 = .refused reason → IsUntouched guestCart guestCart r outcome.2 := by
  intro r outcome
  have hstored : r.store.find? guestCart.id = some guestCart := by decide
  have hnew : r.store.find? r.sessionIds.next = none := by decide
  obtain ⟨hfails, hleaves, huntouched⟩ := isUntouched_iff_no_fault hstored hnew
    (.ofSubject "idp" "alice") .default true true
  have hfaults : ¬(r.faults .save = none ∧ r.faults .delete = none) := by decide
  obtain ⟨reason, hrefused⟩ := hfails.mpr hfaults
  obtain ⟨-, hold, -, hmoved⟩ := hleaves reason hrefused
  exact ⟨hstored, hnew, hold, hmoved, fun h => hfaults (huntouched.mp h)⟩

/-- If the session cannot be saved under its new id, the slot has a session that is not stored:
not every failure leaves the session of a login as it was. -/
theorem not_isUntouched_unsaved :
    ¬∀ (r : Realm) (identity : Identity) (current : Session) (config : SessionConfig)
        (tracked migrate : Bool) (reason : LoginError) (left : LoginState),
      r.store.find? current.id = some current → r.store.find? r.sessionIds.next = none →
      run identity (.changeId config tracked migrate) ⟨some current, r⟩ =
        (.refused reason, left) →
      IsUntouched current current r left := by
  intro h
  have huntouched := h (faultyRealm .save guestCart) (.ofSubject "idp" "alice") guestCart .default
    true true _ _ (by decide) (by decide) rfl
  exact absurd huntouched.slot_eq (by decide)

end LoginStrategy

end WebAuth
