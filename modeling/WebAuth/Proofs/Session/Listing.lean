import Mathlib.Data.List.Nodup
import WebAuth.Proofs.Session.Runs

/-!
# The ids on the lists of the registry

A registration is known by its session's id.  What the operations of the registry do to a
principal's list is said here for the ids alone, and a login keeps every list free of
repetitions: it adds an id only where it is missing, and gives a session only an id that
no list has.

Main results:

- Theorems `Registry.mem_idsFor_register`, `Registry.mem_idsFor_rename` and
  `Registry.mem_idsFor_removeAll`: which ids are on a list after an operation.
- Theorem `LoginStrategy.Rotation.listsOnce`: after a login, too, no id is on a list twice.
-/

namespace WebAuth

/-- An id is stored if a session is found under it. -/
theorem Store.mem_ids_iff {store : Store} {id : String} :
    id ∈ store.ids ↔ ∃ s, store.find? id = some s := by
  rw [ids, List.mem_map, ← Option.isSome_iff_exists, find?, List.find?_isSome]
  simp

namespace Registry

variable {registry : Registry} {id other old new p q : String} {now : Calendar.Timestamp}

/-- The ids on a principal's list, in order. -/
def idsFor (registry : Registry) (principal : String) : List String :=
  (registry.sessionsFor principal).map Registration.sessionId

/-- No id is on the same list twice. -/
def ListsOnce (registry : Registry) : Prop := ∀ p, (registry.idsFor p).Nodup

theorem mem_idsFor : id ∈ registry.idsFor p ↔ ∃ g ∈ registry.sessionsFor p, g.sessionId = id :=
  List.mem_map

theorem listsOnce_empty : empty.ListsOnce := fun _ => List.nodup_nil

/-! ## Registration -/

/-- A registration is put at the end of its principal's list unless its id is there. -/
theorem sessionsFor_register_self_eq (registry : Registry) (id principal : String)
    (now : Calendar.Timestamp) :
    (registry.register id principal now).sessionsFor principal =
      if id ∈ registry.idsFor principal then registry.sessionsFor principal
      else registry.sessionsFor principal ++ [⟨id, principal, now⟩] := by
  have hany : ((registry.sessionsFor principal).any
      (fun other => other.sessionId = id)) = true ↔ id ∈ registry.idsFor principal := by
    simp [mem_idsFor]
  rw [sessionsFor_register_self, Registration.addTo]
  by_cases hmem : id ∈ registry.idsFor principal
  · rw [if_pos hmem, if_pos (hany.mpr hmem)]
  · rw [if_neg hmem, if_neg (fun h => hmem (hany.mp h))]

/-- An id is added to its principal's list unless it is there. -/
theorem idsFor_register_self (registry : Registry) (id principal : String)
    (now : Calendar.Timestamp) :
    (registry.register id principal now).idsFor principal =
      if id ∈ registry.idsFor principal then registry.idsFor principal
      else registry.idsFor principal ++ [id] := by
  rw [idsFor, sessionsFor_register_self_eq]
  split
  · rfl
  · exact List.map_append

theorem idsFor_register_of_ne (h : q ≠ p) :
    (registry.register id p now).idsFor q = registry.idsFor q := by
  rw [idsFor, sessionsFor_register_of_ne h, idsFor]

/-- After a registration, a list holds what it held and, if it is its principal's, the new
id. -/
theorem mem_idsFor_register :
    other ∈ (registry.register id p now).idsFor q ↔
      other ∈ registry.idsFor q ∨ q = p ∧ other = id := by
  by_cases hq : q = p
  · subst hq
    rw [idsFor_register_self]
    split
    · rename_i hmem
      constructor
      · exact Or.inl
      · rintro (h | ⟨-, rfl⟩)
        · exact h
        · exact hmem
    · simp
  · rw [idsFor_register_of_ne hq]
    simp [hq]

theorem ListsOnce.register (h : registry.ListsOnce) (id principal : String)
    (now : Calendar.Timestamp) : (registry.register id principal now).ListsOnce := by
  intro q
  by_cases hq : q = principal
  · subst hq
    rw [idsFor_register_self]
    split
    · exact h q
    · rename_i hnew
      exact List.nodup_append'.mpr
        ⟨h q, List.nodup_singleton id, List.disjoint_singleton.mpr hnew⟩
  · rw [idsFor_register_of_ne hq]
    exact h q

/-! ## New ids -/

theorem idsFor_rename (registry : Registry) (old new p : String) :
    (registry.rename old new).idsFor p =
      (registry.idsFor p).map (fun id => if id = old then new else id) := by
  rw [idsFor, sessionsFor_rename, idsFor, List.map_map, List.map_map]
  refine List.map_congr_left ?_
  intro g _
  exact g.sessionId_rename old new

/-- After a session has got its new id, a list holds its other ids and, if it held the old
one, the new one. -/
theorem mem_idsFor_rename :
    id ∈ (registry.rename old new).idsFor p ↔
      id ≠ old ∧ id ∈ registry.idsFor p ∨ id = new ∧ old ∈ registry.idsFor p := by
  rw [idsFor_rename, List.mem_map]
  constructor
  · rintro ⟨before, hbefore, heq⟩
    by_cases hold : before = old
    · rw [if_pos hold] at heq
      exact Or.inr ⟨heq.symm, hold ▸ hbefore⟩
    · rw [if_neg hold] at heq
      exact Or.inl ⟨heq ▸ hold, heq ▸ hbefore⟩
  · rintro (⟨hne, hmem⟩ | ⟨rfl, hmem⟩)
    · exact ⟨id, hmem, if_neg hne⟩
    · exact ⟨old, hmem, if_pos rfl⟩

/-- An id that is on no list can replace another. -/
theorem ListsOnce.rename (h : registry.ListsOnce) (hnew : ∀ p, new ∉ registry.idsFor p)
    (old : String) : (registry.rename old new).ListsOnce := by
  intro p
  rw [idsFor_rename]
  refine (h p).map_on ?_
  intro first hfirst second hsecond heq
  have hother {id : String} (hid : id ∈ registry.idsFor p) : id ≠ new := by
    intro hsame
    exact hnew p (hsame ▸ hid)
  by_cases hone : first = old
  · by_cases htwo : second = old
    · rw [hone, htwo]
    · rw [if_pos hone, if_neg htwo] at heq
      exact absurd heq.symm (hother hsecond)
  · by_cases htwo : second = old
    · rw [if_neg hone, if_pos htwo] at heq
      exact absurd heq (hother hfirst)
    · rwa [if_neg hone, if_neg htwo] at heq

/-! ## Removal -/

/-- Exactly the ids that are removed leave a list. -/
theorem mem_idsFor_removeAll {ids : List String} :
    id ∈ (registry.removeAll ids).idsFor p ↔ id ∈ registry.idsFor p ∧ id ∉ ids := by
  rw [mem_idsFor, mem_idsFor, sessionsFor_removeAll]
  constructor
  · rintro ⟨g, hg, rfl⟩
    obtain ⟨hmem, hkept⟩ := List.mem_filter.mp hg
    exact ⟨⟨g, hmem, rfl⟩, by simpa using hkept⟩
  · rintro ⟨⟨g, hmem, rfl⟩, hkept⟩
    exact ⟨g, List.mem_filter.mpr ⟨hmem, by simpa using hkept⟩, rfl⟩

end Registry

/-! ## Logins -/

/-- What is handed out next is on no list. -/
theorem Realm.Numbered.next_notMem_idsFor {r : Realm} (h : r.Numbered)
    (hfresh : r.sessionIds.IsFresh) (p : String) :
    r.sessionIds.next ∉ r.registry.idsFor p := by
  intro hmem
  obtain ⟨g, hg, hid⟩ := Registry.mem_idsFor.mp hmem
  exact Supply.ne_next_of_hasGiven hfresh (h.registered hg) hid

/-- Making room repeats no id. -/
theorem Realm.Trimmed.listsOnce {r room : Realm} (h : Trimmed r room)
    (hr : r.registry.ListsOnce) : room.registry.ListsOnce :=
  fun p => (hr p).sublist ((h.sublist p).map Registration.sessionId)

namespace LoginStrategy

variable {maximum : Int} {strict : Bool} {config : SessionConfig} {tracked migrate : Bool}
  {identity : Identity} {slot : Option Session} {r : Realm} {ending : Ending LoginError Unit}
  {after : LoginState}

/-- A session that takes an id that is on no list repeats none. -/
theorem listsOnce_moved (h : r.registry.ListsOnce)
    (hnew : ∀ p, r.sessionIds.next ∉ r.registry.idsFor p) (tracked migrate : Bool)
    (identity : Identity) (current : Session) :
    (moved r tracked migrate identity current).registry.ListsOnce := by
  cases tracked with
  | false => exact h
  | true => exact h.rename hnew current.id

/-- After a login, too, no id is on a list twice. -/
theorem Rotation.listsOnce
    (h : Rotation maximum strict config tracked migrate identity slot r ending after)
    (hfresh : r.sessionIds.IsFresh) (hnumbered : r.Numbered) (hr : r.registry.ListsOnce) :
    after.realm.registry.ListsOnce := by
  cases h with
  | refused room calls hroom =>
      have hroomOnce := (trimmed_of_limited hroom).listsOnce hr
      exact hroomOnce
  | aborted room calls hroom hslot =>
      have hroomOnce := (trimmed_of_limited hroom).listsOnce hr
      exact hroomOnce
  | created room calls hroom hslot hnew =>
      have hroomOnce := (trimmed_of_limited hroom).listsOnce hr
      exact hroomOnce.register _ _ _
  | moved room calls hroom hslot =>
      have htrimmed := trimmed_of_limited hroom
      have hnext := (htrimmed.numbered hnumbered).next_notMem_idsFor
        (htrimmed.sessionIds_eq ▸ hfresh)
      exact (listsOnce_moved (htrimmed.listsOnce hr) hnext _ _ _ _).register _ _ _

end LoginStrategy

end WebAuth
