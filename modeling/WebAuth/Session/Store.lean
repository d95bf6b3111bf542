import WebAuth.Session.Basic

/-!
# The session store

Sessions are kept under their ids.  Saving replaces the session of that id;
expired sessions stay until they are deleted but are no longer loaded.

Main results:

* `Store.find?_save_self`, `Store.find?_save_of_ne`: saving changes one entry;
* `Store.find?_delete_self`, `Store.find?_delete_of_ne`: so does deleting.
-/

namespace WebAuth

open Calendar

/-- Sessions under their ids. -/
structure Store where
  entries : List Session
  /-- No id is stored twice. -/
  ids_nodup : (entries.map Session.id).Nodup

namespace Store

/-- The store without sessions. -/
def empty : Store := ⟨[], List.nodup_nil⟩

/-- The stored ids. -/
def ids (store : Store) : List String := store.entries.map Session.id

/-- The number of sessions, expired ones included. -/
def size (store : Store) : Nat := store.entries.length

/-- The session stored under an id, expired or not. -/
def find? (store : Store) (id : String) : Option Session :=
  store.entries.find? (fun s => s.id = id)

/-- The session stored under an id, if it has not come to its end. -/
def live? (store : Store) (now : Timestamp) (id : String) : Option Session :=
  (store.find? id).filter (fun s => !s.isExpired now)

/-- Forget the session of an id. -/
def delete (store : Store) (id : String) : Store where
  entries := store.entries.filter (fun s => s.id ≠ id)
  ids_nodup := store.ids_nodup.sublist (List.filter_sublist.map _)

/-- Keep a session under its id. -/
def save (store : Store) (session : Session) : Store where
  entries := (store.delete session.id).entries ++ [session]
  ids_nodup := by
    rw [List.map_append, List.nodup_append]
    refine ⟨(store.delete session.id).ids_nodup, by simp, ?_⟩
    intro id hid other hother
    simp only [delete, List.mem_map, List.mem_filter] at hid
    obtain ⟨s, ⟨_, hne⟩, rfl⟩ := hid
    simp only [List.map_cons, List.map_nil, List.mem_singleton] at hother
    subst hother
    simpa using hne

/-! ## What the operations change -/

@[simp]
theorem find?_empty (id : String) : empty.find? id = none :=
  rfl

@[simp]
theorem find?_delete_self (store : Store) (id : String) :
    (store.delete id).find? id = none := by
  simp [find?, delete]

theorem find?_delete_of_ne {id other : String} (h : other ≠ id) (store : Store) :
    (store.delete id).find? other = store.find? other := by
  simp only [find?, delete, List.find?_filter]
  congr 1
  funext s
  by_cases hs : s.id = other
  · simp [hs, h]
  · simp [hs]

@[simp]
theorem find?_save_self (store : Store) (session : Session) :
    (store.save session).find? session.id = some session := by
  have hnone : (store.delete session.id).entries.find? (fun s => s.id = session.id) = none :=
    find?_delete_self store session.id
  simp only [find?, save, List.find?_append, hnone]
  simp

theorem find?_save_of_ne {session : Session} {other : String} (h : other ≠ session.id)
    (store : Store) : (store.save session).find? other = store.find? other := by
  have hkeep : (store.delete session.id).entries.find? (fun s => s.id = other) =
      store.find? other := find?_delete_of_ne h store
  have hne : session.id ≠ other := fun heq => h heq.symm
  simp only [find?, save, List.find?_append] at hkeep ⊢
  rw [hkeep]
  simp [hne]

/-- What is found under an id has that id. -/
theorem id_of_find? {store : Store} {id : String} {s : Session}
    (h : store.find? id = some s) : s.id = id := by
  simpa using List.find?_some h

end Store

end WebAuth
