import WebAuth.Session.Config
import WebAuth.Session.Realm

/-!
# What a login does to sessions

When an identity is established, a login strategy works on the request's session,
which may be none, and on the realm.  It can give the session a new id, so that an
id planted before the login is worthless after it; limit how many sessions a
principal keeps; and register the session.

The slot that holds the request's session keeps what was put into it when a
strategy stops early.

Main results:

* `LoginStrategy.run_keep`, `LoginStrategy.run_sequence_nil`,
  `LoginStrategy.run_sequence_cons`: the order of the steps of a sequence.
-/

namespace WebAuth

open Calendar

/-! ## Errors -/

/-- Why a login is refused. -/
inductive LoginError where
  | maximumExceeded (principal : String) (maximum : Int)
  | store (error : AccessError)
deriving DecidableEq, Repr

namespace LoginError

/-- The wording of a login error. -/
def message : LoginError → String
  | maximumExceeded _ maximum =>
      "Maximum sessions of " ++ toString maximum ++ " for this principal exceeded"
  | store e => "Session store error: " ++ e.message

/-- The access error that a login error amounts to. -/
def toAccessError : LoginError → AccessError
  | store e => e
  | maximumExceeded principal maximum =>
      .session (maximumExceeded principal maximum).message

end LoginError

/-! ## Strategies -/

/-- The request's session and the realm. -/
structure LoginState where
  slot : Option Session
  realm : Realm

/-- What a login does to sessions. -/
inductive LoginStrategy where
  /-- Nothing. -/
  | keep
  /-- Give the session a new id, or create one. -/
  | changeId (config : SessionConfig) (tracked migrate : Bool)
  /-- Let a principal keep at most so many sessions; a negative number is no
  limit.  A strict limit refuses the login, otherwise the oldest sessions go. -/
  | limit (maximum : Int) (strict : Bool)
  /-- Register the session under the identity's principal. -/
  | register
  /-- One strategy after another. -/
  | sequence (steps : List LoginStrategy)
deriving Repr

namespace LoginState

/-- Work on the realm, whose refusals are the store's. -/
def inRealm {α : Type} (x : Run Realm AccessError α) : Run LoginState LoginError α :=
  (x.within LoginState.realm (fun s r => { s with realm := r })).mapReason .store

/-- Change the realm. -/
def changeRealm (f : Realm → Realm) : Run LoginState LoginError Unit :=
  .change (fun s => { s with realm := f s.realm })

/-- Put a session into the slot. -/
def put (session : Session) : Run LoginState LoginError Unit :=
  .change (fun s => { s with slot := some session })

/-- Hand out a session id. -/
def drawId : Run LoginState LoginError String :=
  inRealm Realm.drawId

end LoginState

namespace LoginStrategy

open LoginState

/-! ## New ids -/

/-- The session of a login under its new id. -/
def rebound (session : Session) (id : String) (identity : Identity) (migrate : Bool) :
    Session :=
  { session with
    id := id
    identity := identity
    attributes := if migrate then session.attributes else [] }

/-- Move the session to a new id. -/
def moveSession (tracked migrate : Bool) (identity : Identity) (current : Session) :
    Run LoginState LoginError Unit := do
  let id ← drawId
  let moved := rebound current id identity migrate
  put moved
  inRealm (Realm.save moved)
  inRealm (Realm.delete current.id)
  if tracked then changeRealm (Realm.renameSession current.id id)

/-- Create a session; a lifetime beyond the calendar aborts. -/
def createSession (config : SessionConfig) (identity : Identity) :
    Run LoginState LoginError Unit := do
  let id ← drawId
  let now ← .reads (fun s => s.realm.clock)
  match config.lifetime?.bind (Session.create? id identity now) with
  | none => .abort
  | some created =>
      inRealm (Realm.save created)
      put created

/-! ## Limits -/

/-- The registrations whose sessions are live; the others are dropped from the
registry. -/
def liveRegistrations : List Registration → Run LoginState LoginError (List Registration)
  | [] => pure []
  | r :: rest => do
      match ← inRealm (Realm.load r.sessionId) with
      | some _ =>
          let others ← liveRegistrations rest
          pure (r :: others)
      | none =>
          changeRealm (Realm.unregister r.sessionId)
          liveRegistrations rest

/-- End some sessions. -/
def expire : List Registration → Run LoginState LoginError Unit
  | [] => pure ()
  | r :: rest => do
      inRealm (Realm.delete r.sessionId)
      changeRealm (Realm.unregister r.sessionId)
      expire rest

/-- Whether the session in the slot is one of those registered. -/
def holdsOneOf (slot : Option Session) (rs : List Registration) : Bool :=
  match slot with
  | some current => rs.any (fun r => r.sessionId = current.id)
  | none => false

/-- Make room for one more session of a principal, or refuse it. -/
def makeRoom (maximum : Int) (strict : Bool) (principal : String) :
    Run LoginState LoginError Unit := do
  let registered ← .reads (fun s => s.realm.registry.sessionsFor principal)
  let live ← liveRegistrations registered
  let slot ← .reads LoginState.slot
  let allowed := maximum.toNat
  if live.length < allowed then pure ()
  else if live.length = allowed ∧ holdsOneOf slot live then pure ()
  else if strict ∨ allowed = 0 then .refuse (.maximumExceeded principal maximum)
  else expire (live.take (live.length + 1 - allowed))

/-- Register the session in the slot, if there is one. -/
def registerSession (principal : String) : Run LoginState LoginError Unit := do
  match ← .reads LoginState.slot with
  | some current => changeRealm (Realm.register current.id principal)
  | none => pure ()

/-! ## Running a strategy -/

mutual

/-- What a strategy does when an identity is established. -/
def run (identity : Identity) : LoginStrategy → Run LoginState LoginError Unit
  | keep => pure ()
  | changeId config tracked migrate => do
      match ← .reads LoginState.slot with
      | some current => moveSession tracked migrate identity current
      | none => createSession config identity
  | limit maximum strict =>
      if maximum < 0 then pure () else makeRoom maximum strict identity.principal
  | register => registerSession identity.principal
  | sequence steps => runAll identity steps

/-- What some strategies do, one after another. -/
def runAll (identity : Identity) : List LoginStrategy → Run LoginState LoginError Unit
  | [] => pure ()
  | step :: rest => do
      run identity step
      runAll identity rest

end

@[simp]
theorem run_keep (identity : Identity) : run identity keep = pure () := by
  simp only [run]

theorem run_sequence (identity : Identity) (steps : List LoginStrategy) :
    run identity (sequence steps) = runAll identity steps := by
  simp only [run]

@[simp]
theorem run_sequence_nil (identity : Identity) : run identity (sequence []) = pure () := by
  simp only [run, runAll]

/-- A sequence does its first step and then the others. -/
theorem run_sequence_cons (identity : Identity) (step : LoginStrategy)
    (rest : List LoginStrategy) :
    run identity (sequence (step :: rest)) =
      (do
        run identity step
        run identity (sequence rest)) := by
  simp only [run, runAll]

end LoginStrategy

end WebAuth
