import WebAuth.Proofs.Session.Listing
import WebAuth.Proofs.Session.Ownership

/-!
# Stored and registered ids

The store keeps sessions by id, and the registry lists ids by principal.  Logins that limit,
renew and register sessions touch the two at different places and by different look-ups, and
yet, as long as no session comes to its end by itself, exactly the stored ids are registered.
A session that ends by itself stays in the store when its registration is dropped, which is
why its end is excluded.

Main results:

- Theorem `LoginStrategy.Rotation.inStep`: a login keeps store and registry in step.
- Theorem `LoginStrategy.Rotation.holdsOwnSession`: an accepted login leaves the session of its
  identity in the slot, stored and registered.
- Theorem `Realm.inStep_play`: both hold after every event of a run.
-/

namespace WebAuth

open Calendar

/-! ## Store and registry in step -/

namespace Realm

variable {r : Realm}

/-- No stored session has come to its end. -/
def AllLasting (r : Realm) : Prop := ∀ s ∈ r.store.entries, s.isExpired r.clock = false

instance (r : Realm) : Decidable r.AllLasting :=
  inferInstanceAs (Decidable (∀ s ∈ r.store.entries, s.isExpired r.clock = false))

/-- Exactly the stored ids are registered, under whomever, and no list repeats one. -/
structure InStep (r : Realm) : Prop where
  mem_ids_iff : ∀ id, id ∈ r.store.ids ↔ ∃ p, id ∈ r.registry.idsFor p
  listsOnce : r.registry.ListsOnce

theorem inStep_initial (clock : Timestamp) (sessionIds : Supply String) :
    (initial clock sessionIds).InStep where
  mem_ids_iff id := by simp [initial, Store.ids, Store.empty, Registry.idsFor]
  listsOnce := Registry.listsOnce_empty

/-- What is found in the store has not come to its end. -/
theorem AllLasting.isExpired_eq_false (h : r.AllLasting) {id : String} {s : Session}
    (hs : r.store.find? id = some s) : s.isExpired r.clock = false :=
  h s (List.mem_of_find?_eq_some hs)

/-! ## Making room -/

/-- Exactly the sessions of those ids are not stored any more. -/
theorem mem_ids_ended (r : Realm) (ids : List String) (id : String) :
    id ∈ (r.ended ids).store.ids ↔ id ∈ r.store.ids ∧ id ∉ ids := by
  rw [Store.mem_ids_iff, Store.mem_ids_iff, ended, Store.find?_deleteAll]
  by_cases hmem : id ∈ ids
  · simp [hmem]
  · simp [hmem]

/-- A sweep drops nothing from a principal's list if all its sessions are live. -/
theorem swept_eq_self {principal : String}
    (h : ∀ g ∈ r.registry.sessionsFor principal, r.hasLive g = true) :
    r.swept principal = r := by
  have hnone : (r.registry.sessionsFor principal).filter (fun g => !r.hasLive g) = [] := by
    apply List.filter_eq_nil_iff.mpr
    intro g hg
    simp [h g hg]
  rw [swept, dropDead, hnone]
  rfl

/-- Where every registered session is stored and lasts, there is nothing to sweep. -/
theorem InStep.swept_eq_self (h : r.InStep) (hlasting : r.AllLasting) (principal : String) :
    r.swept principal = r := by
  apply Realm.swept_eq_self
  intro g hg
  have hlisted : g.sessionId ∈ r.registry.idsFor principal :=
    Registry.mem_idsFor.mpr ⟨g, hg, rfl⟩
  obtain ⟨s, hs⟩ := Store.mem_ids_iff.mp ((h.mem_ids_iff g.sessionId).mpr ⟨principal, hlisted⟩)
  exact hasLive_iff.mpr
    ⟨s, Store.live?_eq_some_iff.mpr ⟨hs, hlasting.isExpired_eq_false hs⟩⟩

/-- Sessions that are ended leave the store and the registry. -/
theorem InStep.ended (h : r.InStep) (ids : List String) : (r.ended ids).InStep where
  mem_ids_iff id := by
    have hlisted (p : String) :
        id ∈ (r.ended ids).registry.idsFor p ↔ id ∈ r.registry.idsFor p ∧ id ∉ ids :=
      Registry.mem_idsFor_removeAll
    rw [mem_ids_ended, h.mem_ids_iff]
    simp only [hlisted, exists_and_right]
  listsOnce := (trimmed_ended r ids).listsOnce h.listsOnce

end Realm

/-! ## One login -/

namespace LoginStrategy

variable {maximum : Int} {strict : Bool} {config : SessionConfig} {tracked migrate : Bool}
  {identity : Identity} {slot : Option Session} {r room : Realm}
  {ending : Ending LoginError Unit} {after : LoginState}

/-- Room is made by ending sessions alone where there is nothing to sweep. -/
theorem limited_of_swept_eq_self {principal : String} (h : r.swept principal = r)
    (maximum : Int) (strict : Bool) (slot : Option Session) :
    (limited maximum strict principal slot r).2 = r ∨
      ∃ ids, (limited maximum strict principal slot r).2 = r.ended ids := by
  simp only [limited, h]
  split
  · exact Or.inl rfl
  · split
    · exact Or.inl rfl
    · split
      · exact Or.inl rfl
      · exact Or.inr ⟨_, rfl⟩

/-- Making room keeps store and registry in step while sessions last. -/
theorem inStep_of_limited (h : r.InStep) (hlasting : r.AllLasting)
    (hroom : limited maximum strict identity.principal slot r = (ending, room)) :
    room.InStep := by
  have hleft : room = (limited maximum strict identity.principal slot r).2 := by rw [hroom]
  rcases limited_of_swept_eq_self (h.swept_eq_self hlasting identity.principal) maximum strict
    slot with hsame | ⟨ids, hended⟩
  · rw [hleft, hsame]
    exact h
  · rw [hleft, hended]
    exact h.ended ids

theorem mem_ids_created (r : Realm) (session : Session) (id : String) :
    id ∈ (created r session).store.ids ↔ id = session.id ∨ id ∈ r.store.ids := by
  rw [Store.mem_ids_iff, Store.mem_ids_iff, find?_created]
  by_cases hid : id = session.id
  · simp [hid]
  · simp [hid]

/-- A new session is stored and registered. -/
theorem inStep_created (h : r.InStep) (session : Session) (principal : String) :
    ((created r session).register session.id principal).InStep where
  mem_ids_iff id := by
    have hlisted (p : String) :
        id ∈ ((created r session).register session.id principal).registry.idsFor p ↔
          id ∈ r.registry.idsFor p ∨ p = principal ∧ id = session.id :=
      Registry.mem_idsFor_register
    change id ∈ (created r session).store.ids ↔ _
    rw [mem_ids_created, h.mem_ids_iff]
    simp only [hlisted, exists_or, exists_eq_left]
    exact or_comm
  listsOnce := h.listsOnce.register _ _ _

/-- The new id takes the place of the old one in the store. -/
theorem mem_ids_moved {current : Session} (hne : r.sessionIds.next ≠ current.id)
    (tracked migrate : Bool) (identity : Identity) (id : String) :
    id ∈ (moved r tracked migrate identity current).store.ids ↔
      id = r.sessionIds.next ∨ id ≠ current.id ∧ id ∈ r.store.ids := by
  rw [Store.mem_ids_iff, Store.mem_ids_iff, find?_moved]
  by_cases hold : id = current.id
  · simp [hold, hne.symm]
  · by_cases hid : id = r.sessionIds.next
    · simp [hid, hne]
    · simp [hold, hid]

/-- A session takes its new id in the store and on every list that had its old one, and is
registered under it. -/
theorem inStep_moved (h : r.InStep) (hnew : ∀ p, r.sessionIds.next ∉ r.registry.idsFor p)
    {current : Session} (hne : r.sessionIds.next ≠ current.id) (migrate : Bool)
    (identity : Identity) :
    ((moved r true migrate identity current).register r.sessionIds.next
      identity.principal).InStep where
  mem_ids_iff id := by
    have hlisted (p : String) :
        id ∈ ((moved r true migrate identity current).register r.sessionIds.next
            identity.principal).registry.idsFor p ↔
          (id ≠ current.id ∧ id ∈ r.registry.idsFor p ∨
              id = r.sessionIds.next ∧ current.id ∈ r.registry.idsFor p) ∨
            p = identity.principal ∧ id = r.sessionIds.next := by
      rw [← Registry.mem_idsFor_rename]
      exact Registry.mem_idsFor_register
    change id ∈ (moved r true migrate identity current).store.ids ↔ _
    rw [mem_ids_moved hne, h.mem_ids_iff]
    simp only [hlisted]
    constructor
    · rintro (rfl | ⟨hold, p, hmem⟩)
      · exact ⟨identity.principal, Or.inr ⟨rfl, rfl⟩⟩
      · exact ⟨p, Or.inl (Or.inl ⟨hold, hmem⟩)⟩
    · rintro ⟨p, (⟨hold, hmem⟩ | ⟨hid, -⟩) | ⟨-, hid⟩⟩
      · exact Or.inr ⟨hold, p, hmem⟩
      · exact Or.inl hid
      · exact Or.inl hid
  listsOnce := (listsOnce_moved h.listsOnce hnew true _ _ _).register _ _ _

/-- While sessions last, a login that the registry follows keeps store and registry in
step. -/
theorem Rotation.inStep
    (h : Rotation maximum strict config true migrate identity slot r ending after)
    (hwell : r.WellKept) (hlasting : r.AllLasting) (hr : r.InStep)
    (hlive : ∀ {current}, slot = some current →
      r.store.live? r.clock current.id = some current) : after.realm.InStep := by
  cases h with
  | refused room calls hroom =>
      have hinStep := inStep_of_limited hr hlasting hroom
      exact ⟨hinStep.mem_ids_iff, hinStep.listsOnce⟩
  | aborted room calls hroom hslot =>
      have hinStep := inStep_of_limited hr hlasting hroom
      exact ⟨hinStep.mem_ids_iff, hinStep.listsOnce⟩
  | @created room session calls hroom hslot hnew =>
      have hinStep := inStep_created (inStep_of_limited hr hlasting hroom) session
        identity.principal
      exact ⟨hinStep.mem_ids_iff, hinStep.listsOnce⟩
  | @moved room current calls hroom hslot =>
      have htrimmed := trimmed_of_limited hroom
      have hfresh : room.sessionIds.IsFresh := htrimmed.sessionIds_eq ▸ hwell.fresh
      have hnew := (htrimmed.numbered hwell.numbered).next_notMem_idsFor hfresh
      have hne : room.sessionIds.next ≠ current.id := by
        have hgiven := hwell.numbered.stored (Store.live?_eq_some_iff.mp (hlive hslot)).1
        rw [htrimmed.sessionIds_eq]
        exact (Supply.ne_next_of_hasGiven hwell.fresh hgiven).symm
      have hinStep := inStep_moved (inStep_of_limited hr hlasting hroom) hnew hne migrate
        identity
      exact ⟨hinStep.mem_ids_iff, hinStep.listsOnce⟩

/-- An accepted login leaves in the slot a session of its identity that is stored under its
id and registered under the identity's principal. -/
theorem Rotation.holdsOwnSession
    (h : Rotation maximum strict config tracked migrate identity slot r (.value ()) after)
    (hne : ∀ {current}, slot = some current → r.sessionIds.next ≠ current.id) :
    ∃ s, after.slot = some s ∧ s.identity = identity ∧
      after.realm.store.find? s.id = some s ∧
      s.id ∈ after.realm.registry.idsFor identity.principal := by
  cases h with
  | @created room session calls hroom hslot hnew =>
      refine ⟨session, rfl, identity_of_newSession? hnew, ?_, ?_⟩
      · change (LoginStrategy.created room session).store.find? session.id = some session
        rw [find?_created, if_pos rfl]
      · exact Registry.mem_idsFor_register.mpr (Or.inr ⟨rfl, rfl⟩)
  | @moved room current calls hroom hslot =>
      have hnext : room.sessionIds.next ≠ current.id := by
        rw [(trimmed_of_limited hroom).sessionIds_eq]
        exact hne hslot
      refine ⟨rebound current room.sessionIds.next identity migrate, rfl, rfl, ?_, ?_⟩
      · change (LoginStrategy.moved room tracked migrate identity current).store.find?
          room.sessionIds.next = _
        rw [find?_moved, if_neg hnext, if_pos rfl]
      · exact Registry.mem_idsFor_register.mpr (Or.inr ⟨rfl, rfl⟩)

end LoginStrategy

/-! ## Runs -/

namespace Realm

open LoginStrategy

variable {maximum : Int} {strict : Bool} {config : SessionConfig} {migrate : Bool} {r : Realm}

/-- The id of the session that a login brings is not handed out next. -/
theorem WellKept.next_ne_of_slot (h : r.WellKept) {sessionId : Option String}
    {current : Session} (hslot : r.slot sessionId = some current) :
    r.sessionIds.next ≠ current.id := by
  have hstored := (Store.live?_eq_some_iff.mp (live?_of_slot hslot)).1
  exact (Supply.ne_next_of_hasGiven h.fresh (h.numbered.stored hstored)).symm

/-- While sessions last, every event keeps store and registry in step. -/
theorem WellKept.step_inStep (h : r.WellKept) (hlasting : r.AllLasting) (hr : r.InStep)
    (e : LoginEvent) :
    (Realm.step (limitedLogin maximum strict config migrate) r e).InStep := by
  cases e with
  | login identity sessionId =>
      have hrotation := rotation_of_run h.sound maximum strict config true migrate identity
        (r.slot sessionId)
      exact hrotation.inStep h hlasting hr (fun hslot => live?_of_slot hslot)
  | elapse clock =>
      simp only [Realm.step]
      split
      · exact ⟨hr.mem_ids_iff, hr.listsOnce⟩
      · exact hr

/-- In a run in which no session ends by itself, exactly the stored ids are registered after
every event, in particular after every login, accepted or refused, and no list repeats one;
and an accepted login leaves in its slot a session of its identity, stored under its id and
registered under the identity's principal. -/
theorem inStep_play {sessionIds : Supply String} (hfresh : sessionIds.IsFresh) (maximum : Int)
    (strict : Bool) (config : SessionConfig) (migrate : Bool) (clock : Timestamp)
    (events : List LoginEvent) :
    let strategy := limitedLogin maximum strict config migrate
    let realmAfter := fun n => (initial clock sessionIds).play strategy (events.take n)
    (∀ n, (realmAfter n).AllLasting) →
      ∀ n, (realmAfter n).InStep ∧
        ∀ identity sessionId after,
          strategy.run identity ⟨(realmAfter n).slot sessionId, realmAfter n⟩ =
            (.value (), after) →
          ∃ s, after.slot = some s ∧ s.identity = identity ∧
            after.realm.store.find? s.id = some s ∧
            s.id ∈ after.realm.registry.idsFor identity.principal := by
  intro strategy realmAfter hlasting n
  have hkept (n : Nat) : (realmAfter n).WellKept :=
    play_induction (wellKept_initial clock hfresh) (fun _ e h => h.step e) (events.take n)
  constructor
  · apply play_take_induction (inStep_initial clock sessionIds) events
    intro m e _ hm
    exact (hkept m).step_inStep (hlasting m) hm e
  · intro identity sessionId after hrun
    have hrotation := rotation_of_run (hkept n).sound maximum strict config true migrate
      identity ((realmAfter n).slot sessionId)
    rw [← limitedLogin_eq_rotatingLogin, hrun] at hrotation
    exact hrotation.holdsOwnSession (fun hslot => (hkept n).next_ne_of_slot hslot)

/-- Two identities log in, the second one logs in again with the session of the first, and the
first one logs in without a session. -/
def handover : List LoginEvent :=
  [.login (.ofSubject "idp" "alice") none, .login (.ofSubject "idp" "bob") none,
    .login (.ofSubject "idp" "bob") (some "1"), .login (.ofSubject "idp" "alice") none]

/-- At a limit of one session, two sessions end in this run, one of them registered under
both. -/
theorem inStep_play_handover :
    let strategy := limitedLogin 1 false .default true
    let realmAfter := fun n => (initial ⟨0, 0⟩ .strokes).play strategy (handover.take n)
    Supply.strokes.IsFresh ∧ (∀ n, (realmAfter n).AllLasting) ∧
      ∀ n, (realmAfter n).InStep ∧
        ∀ identity sessionId after,
          strategy.run identity ⟨(realmAfter n).slot sessionId, realmAfter n⟩ =
            (.value (), after) →
          ∃ s, after.slot = some s ∧ s.identity = identity ∧
            after.realm.store.find? s.id = some s ∧
            s.id ∈ after.realm.registry.idsFor identity.principal := by
  intro strategy realmAfter
  have hall : ∀ n ≤ 4, (realmAfter n).AllLasting := by decide +kernel
  have hlasting (n : Nat) : (realmAfter n).AllLasting := by
    have htake : handover.take n = handover.take (min n 4) := List.take_eq_take_min
    simp only [realmAfter, htake]
    exact hall (min n 4) (Nat.min_le_right n 4)
  exact ⟨Supply.isFresh_strokes, hlasting,
    inStep_play Supply.isFresh_strokes 1 false .default true ⟨0, 0⟩ handover hlasting⟩

end Realm

end WebAuth
