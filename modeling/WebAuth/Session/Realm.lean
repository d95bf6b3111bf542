import WebAuth.AccessError
import WebAuth.Run
import WebAuth.Session.Registry
import WebAuth.Session.Store
import WebAuth.Supply

/-!
# The session realm

Everything that logins share: the session store, the registry, the clock and the
supply of session ids.  The store is reached through three operations, each of
which is recorded and may be out of order; an operation that is out of order is
refused before it does anything.

Main results:

* `Realm.load_apply`, `Realm.save_apply`, `Realm.delete_apply`: the operations on
  a store in working order.
-/

namespace WebAuth

open Calendar

/-- What is asked of the store. -/
inductive StoreOperation where
  | load
  | save
  | delete
deriving DecidableEq, Repr

/-- A recorded use of the store. -/
structure StoreCall where
  operation : StoreOperation
  id : String
  refused : Bool
deriving DecidableEq, Repr

/-- What logins share. -/
structure Realm where
  store : Store
  registry : Registry
  clock : Timestamp
  sessionIds : Supply String
  /-- Why an operation of the store is out of order, if it is. -/
  faults : StoreOperation → Option AccessError
  /-- The uses of the store, the latest first. -/
  calls : List StoreCall

namespace Realm

/-- A realm without sessions, in working order. -/
def initial (clock : Timestamp) (sessionIds : Supply String) : Realm :=
  ⟨Store.empty, Registry.empty, clock, sessionIds, fun _ => none, []⟩

/-- Whether the store is in working order. -/
def IsSound (r : Realm) : Prop := ∀ operation, r.faults operation = none

/-- Note a use of the store. -/
def note (operation : StoreOperation) (id : String) (r : Realm) : Realm :=
  { r with calls := ⟨operation, id, (r.faults operation).isSome⟩ :: r.calls }

/-- Use the store, unless the operation is out of order. -/
def useStore {α : Type} (operation : StoreOperation) (id : String)
    (answer : Realm → α) (effect : Realm → Realm) : Run Realm AccessError α := fun r =>
  match r.faults operation with
  | some e => (.refused e, r.note operation id)
  | none => (.value (answer r), effect (r.note operation id))

/-- The session of an id, if it is live. -/
def load (id : String) : Run Realm AccessError (Option Session) :=
  useStore .load id (fun r => r.store.live? r.clock id) (fun r => r)

/-- Keep a session under its id. -/
def save (session : Session) : Run Realm AccessError Unit :=
  useStore .save session.id (fun _ => ())
    (fun r => { r with store := r.store.save session })

/-- Forget the session of an id. -/
def delete (id : String) : Run Realm AccessError Unit :=
  useStore .delete id (fun _ => ()) (fun r => { r with store := r.store.delete id })

/-- Register a session under a principal. -/
def register (id principal : String) (r : Realm) : Realm :=
  { r with registry := r.registry.register id principal r.clock }

/-- Take a session out of the registry. -/
def unregister (id : String) (r : Realm) : Realm :=
  { r with registry := r.registry.remove id }

/-- Give a registered session its new id. -/
def renameSession (old new : String) (r : Realm) : Realm :=
  { r with registry := r.registry.rename old new }

/-- Hand out a session id. -/
def drawId {ε : Type} : Run Realm ε String := fun r =>
  (.value r.sessionIds.next, { r with sessionIds := r.sessionIds.advance })

/-! ## A store in working order -/

theorem load_apply {r : Realm} (h : r.IsSound) (id : String) :
    load id r = (.value (r.store.live? r.clock id), r.note .load id) := by
  simp [load, useStore, h .load]

theorem save_apply {r : Realm} (h : r.IsSound) (session : Session) :
    save session r =
      (.value (), { r.note .save session.id with store := r.store.save session }) := by
  simp [save, useStore, h .save, note]

theorem delete_apply {r : Realm} (h : r.IsSound) (id : String) :
    delete id r = (.value (), { r.note .delete id with store := r.store.delete id }) := by
  simp [delete, useStore, h .delete, note]

@[simp]
theorem note_store (operation : StoreOperation) (id : String) (r : Realm) :
    (r.note operation id).store = r.store :=
  rfl

@[simp]
theorem note_registry (operation : StoreOperation) (id : String) (r : Realm) :
    (r.note operation id).registry = r.registry :=
  rfl

@[simp]
theorem note_faults (operation : StoreOperation) (id : String) (r : Realm) :
    (r.note operation id).faults = r.faults :=
  rfl

end Realm

end WebAuth
