import Mathlib.Data.List.Nodup
import WebAuth.Proofs.Session.Limit
import WebAuth.Proofs.Session.Listing

/-!
# Which sessions a limit ends

A limit looks at the ids that are registered under a principal and live in the store, in the
order of their registration.  Where they leave no place for the login, it either refuses the
login or ends the oldest of them.  The registrations of sessions that are gone are dropped in
both cases.  Nothing else is touched: neither the session in the slot nor any other stored
session, and the lists of other principals lose only ids that are dropped or ended.

The lists of the registry may share ids, and a limit may stand at zero.

Main results:

- Definition `LoginStrategy.Evicts`: what a limit that is not negative does.
- Theorem `LoginStrategy.limited_eq_ended`: a limit sweeps and ends the sessions that stand in
  the way.
- Theorem `LoginStrategy.evicts_run`: every limit does so, from every store and registry.
-/

namespace WebAuth

/-! ## Registered ids -/

/-- Exactly the ids that are removed leave a list, and the others keep their order. -/
theorem Registry.idsFor_removeAll (registry : Registry) (ids : List String)
    (principal : String) :
    (registry.removeAll ids).idsFor principal =
      (registry.idsFor principal).filter (fun id => id ∉ ids) := by
  rw [idsFor, sessionsFor_removeAll, idsFor, List.filter_map]
  rfl

namespace Realm

/-- The ids that are registered under a principal and live, in the order of their
registration. -/
def liveIdsFor (r : Realm) (principal : String) : List String :=
  (r.registry.idsFor principal).filter (fun id => (r.store.live? r.clock id).isSome)

/-- The ids that are registered under a principal and not live. -/
def deadIdsFor (r : Realm) (principal : String) : List String :=
  (r.registry.idsFor principal).filter (fun id => (r.store.live? r.clock id).isNone)

variable {r : Realm} {principal id : String}

theorem mem_liveIdsFor :
    id ∈ r.liveIdsFor principal ↔
      id ∈ r.registry.idsFor principal ∧ (r.store.live? r.clock id).isSome = true :=
  List.mem_filter

theorem nodup_liveIdsFor (h : (r.registry.idsFor principal).Nodup) :
    (r.liveIdsFor principal).Nodup :=
  h.filter _

/-- The live registrations of a principal are those of its live ids. -/
theorem map_liveSessionsFor (r : Realm) (principal : String) :
    (r.liveSessionsFor principal).map Registration.sessionId = r.liveIdsFor principal := by
  rw [liveSessionsFor, liveIdsFor, Registry.idsFor, List.filter_map]
  rfl

theorem length_liveSessionsFor (r : Realm) (principal : String) :
    (r.liveSessionsFor principal).length = (r.liveIdsFor principal).length := by
  rw [← map_liveSessionsFor, List.length_map]

/-- A sweep takes the ids that are not live off every list. -/
theorem swept_eq (r : Realm) (principal : String) :
    r.swept principal =
      { r with registry := r.registry.removeAll (r.deadIdsFor principal) } := by
  have hdead : ((r.registry.sessionsFor principal).filter (fun g => !r.hasLive g)).map
      Registration.sessionId = r.deadIdsFor principal := by
    rw [deadIdsFor, Registry.idsFor, List.filter_map]
    congr 1
    refine List.filter_congr ?_
    intro g _
    exact Option.not_isSome _
  rw [swept, dropDead, hdead]

end Realm

/-! ## What a limit does -/

namespace LoginStrategy

/-- The live ids of a principal leave no place for a login: there are as many as the limit
allows or more, and not just as many with that of the login's own session among them. -/
def IsFull (maximum : Int) (principal : String) (s : LoginState) : Prop :=
  maximum ≤ (s.realm.liveIdsFor principal).length ∧
    ¬(((s.realm.liveIdsFor principal).length : Int) = maximum ∧
      ∃ current ∈ s.slot, current.id ∈ s.realm.liveIdsFor principal)

/-- The limit does not give way: it is strict, or it leaves room for nobody. -/
def IsFirm (maximum : Int) (strict : Bool) : Prop := strict = true ∨ maximum = 0

instance (maximum : Int) (principal : String) (s : LoginState) :
    Decidable (IsFull maximum principal s) :=
  inferInstanceAs (Decidable (_ ∧ _))

instance (maximum : Int) (strict : Bool) : Decidable (IsFirm maximum strict) :=
  inferInstanceAs (Decidable (_ ∨ _))

/-- The ids of the sessions that end for a login: the oldest, as many as there are too many
with one more; none if there is a place or the limit does not give way. -/
def evicted (maximum : Int) (strict : Bool) (principal : String) (s : LoginState) :
    List String :=
  if IsFull maximum principal s ∧ ¬IsFirm maximum strict then
    (s.realm.liveIdsFor principal).take
      ((s.realm.liveIdsFor principal).length + 1 - maximum.toNat)
  else []

/-- What a limit that is not negative does to a login and to the sessions of its principal. -/
structure Evicts (maximum : Int) (strict : Bool) (principal : String) (before : LoginState)
    (ending : Ending LoginError Unit) (after : LoginState) : Prop where
  /-- It refuses the login exactly if there is no place and it does not give way. -/
  refused_iff : ending = .refused (.maximumExceeded principal maximum) ↔
    IsFull maximum principal before ∧ IsFirm maximum strict
  /-- Otherwise the login goes on. -/
  accepted_iff : ending = .value () ↔
    ¬(IsFull maximum principal before ∧ IsFirm maximum strict)
  /-- The number of sessions that end is neither cut off at zero nor more than there are. -/
  length_eq : IsFull maximum principal before → ¬IsFirm maximum strict →
    ((evicted maximum strict principal before).length : Int) =
      (before.realm.liveIdsFor principal).length + 1 - maximum
  /-- The login's session stays as it is. -/
  slot_eq : after.slot = before.slot
  /-- Where no session ends the store is left alone. -/
  store_eq : evicted maximum strict principal before = [] →
    after.realm.store = before.realm.store
  /-- Exactly the evicted sessions leave the store. -/
  find?_eq : ∀ id, after.realm.store.find? id =
    if id ∈ evicted maximum strict principal before then none
    else before.realm.store.find? id
  /-- The principal keeps its other live sessions, in order. -/
  idsFor_eq : after.realm.registry.idsFor principal =
    (before.realm.liveIdsFor principal).filter (fun id =>
      id ∉ evicted maximum strict principal before)
  /-- Every list keeps its registrations, in order, but for ids of the principal that were not
  live or are evicted. -/
  sessionsFor_eq : ∀ p, after.realm.registry.sessionsFor p =
    (before.realm.registry.sessionsFor p).filter (fun g =>
      g.sessionId ∉ before.realm.deadIdsFor principal ∧
        g.sessionId ∉ evicted maximum strict principal before)
  /-- Clock, supply of ids and working order stay as they are. -/
  realm_eq : after.realm = { before.realm with
    store := after.realm.store
    registry := after.realm.registry
    calls := after.realm.calls }

variable {maximum : Int} {strict : Bool} {principal : String} {s : LoginState}

/-! ## The places under a limit -/

theorem holdsOneOf_iff {slot : Option Session} {gs : List Registration} :
    holdsOneOf slot gs = true ↔
      ∃ current ∈ slot, current.id ∈ gs.map Registration.sessionId := by
  cases slot with
  | none => simp [holdsOneOf]
  | some current => simp [holdsOneOf]

/-- A login fits under a limit exactly if the live ids leave it a place. -/
theorem fits_iff_not_isFull (h : 0 ≤ maximum) :
    fits maximum s.slot (s.realm.liveSessionsFor principal) = true ↔
      ¬IsFull maximum principal s := by
  obtain ⟨allowed, rfl⟩ := Int.eq_ofNat_of_zero_le h
  rw [fits, Bool.or_eq_true, Bool.and_eq_true, decide_eq_true_eq, decide_eq_true_eq,
    holdsOneOf_iff, Realm.map_liveSessionsFor, Realm.length_liveSessionsFor, Int.toNat_natCast,
    IsFull, Int.ofNat_le, Int.natCast_inj, not_and, not_not]
  constructor
  · rintro (hless | hfull) hle
    · omega
    · exact hfull
  · intro hplace
    by_cases hless : (s.realm.liveIdsFor principal).length < allowed
    · exact Or.inl hless
    · exact Or.inr (hplace (Nat.le_of_not_lt hless))

/-- The oldest sessions are the first of the live ids. -/
theorem oldest_liveSessionsFor (maximum : Int) (r : Realm) (principal : String) :
    oldest maximum (r.liveSessionsFor principal) =
      (r.liveIdsFor principal).take ((r.liveIdsFor principal).length + 1 - maximum.toNat) := by
  rw [oldest, List.map_take, Realm.map_liveSessionsFor, Realm.length_liveSessionsFor]

/-- A limit that gives way where there is no place ends as many sessions as there are too many
with one more. -/
theorem length_evicted (h : 0 ≤ maximum) (hfull : IsFull maximum principal s)
    (hgives : ¬IsFirm maximum strict) :
    ((evicted maximum strict principal s).length : Int) =
      (s.realm.liveIdsFor principal).length + 1 - maximum := by
  have hle : maximum ≤ (s.realm.liveIdsFor principal).length := hfull.1
  have hpositive : maximum ≠ 0 := fun hzero => hgives (Or.inr hzero)
  rw [evicted, if_pos ⟨hfull, hgives⟩, List.length_take]
  omega

/-- A limit sweeps, and ends the sessions that stand in the way unless it refuses the
login. -/
theorem limited_eq_ended (h : 0 ≤ maximum) (strict : Bool) (principal : String)
    (s : LoginState) :
    limited maximum strict principal s.slot s.realm =
      (if IsFull maximum principal s ∧ IsFirm maximum strict then
          .refused (.maximumExceeded principal maximum)
        else .value (),
        (s.realm.swept principal).ended (evicted maximum strict principal s)) := by
  have hnone : (s.realm.swept principal).ended [] = s.realm.swept principal := rfl
  have hneg : ¬maximum < 0 := Int.not_lt.mpr h
  have hfirm_iff : (strict = true ∨ maximum.toNat = 0) ↔ IsFirm maximum strict :=
    or_congr_right (by omega)
  simp only [limited, hneg, if_false, fits_iff_not_isFull h, hfirm_iff, oldest_liveSessionsFor]
  by_cases hfull : IsFull maximum principal s
  · by_cases hfirm : IsFirm maximum strict
    · rw [if_neg (not_not.mpr hfull), if_pos hfirm, if_pos ⟨hfull, hfirm⟩, evicted,
        if_neg (fun hgives => hgives.2 hfirm), hnone]
    · rw [if_neg (not_not.mpr hfull), if_neg hfirm, if_neg (fun hrefuses => hfirm hrefuses.2),
        evicted, if_pos ⟨hfull, hfirm⟩]
  · rw [if_pos hfull, if_neg (fun hrefuses => hfull hrefuses.1), evicted,
      if_neg (fun hgives => hfull hgives.1), hnone]

/-! ## Runs of a limit -/

/-- What is left of a registry after a sweep and the end of some sessions. -/
theorem sessionsFor_swept_ended (r : Realm) (principal : String) (ids : List String)
    (p : String) :
    ((r.swept principal).ended ids).registry.sessionsFor p =
      (r.registry.sessionsFor p).filter (fun g =>
        g.sessionId ∉ r.deadIdsFor principal ∧ g.sessionId ∉ ids) := by
  rw [Realm.swept_eq, Realm.ended, Registry.sessionsFor_removeAll,
    Registry.sessionsFor_removeAll, List.filter_filter]
  refine List.filter_congr ?_
  intro g _
  simp [Bool.and_comm]

/-- What is left of the principal's own list. -/
theorem idsFor_swept_ended (r : Realm) (principal : String) (ids : List String) :
    ((r.swept principal).ended ids).registry.idsFor principal =
      (r.liveIdsFor principal).filter (fun id => id ∉ ids) := by
  have hswept : (r.swept principal).registry.idsFor principal = r.liveIdsFor principal := by
    rw [Registry.idsFor, Realm.sessionsFor_swept, Realm.map_liveSessionsFor]
  rw [Realm.ended, Registry.idsFor_removeAll, hswept]

/-- A limit that is not negative refuses the login or ends the sessions that stand in its way,
and leaves the other sessions and registrations alone. -/
theorem evicts_of_nonneg (hsound : s.realm.IsSound) (identity : Identity)
    (hmaximum : 0 ≤ maximum) (strict : Bool) :
    Evicts maximum strict identity.principal s (run identity (.limit maximum strict) s).1
      (run identity (.limit maximum strict) s).2 := by
  obtain ⟨calls, hrun⟩ := run_limit hsound identity maximum strict
  rw [limited_eq_ended hmaximum] at hrun
  rw [hrun]
  exact {
    refused_iff := by
      by_cases hrefuses : IsFull maximum identity.principal s ∧ IsFirm maximum strict
      · simp [hrefuses]
      · simp [hrefuses]
    accepted_iff := by
      by_cases hrefuses : IsFull maximum identity.principal s ∧ IsFirm maximum strict
      · simp [hrefuses]
      · simp [hrefuses]
    length_eq := fun hfull hgives => length_evicted hmaximum hfull hgives
    slot_eq := rfl
    store_eq := by
      intro hnone
      rw [hnone]
      rfl
    find?_eq := fun id => Store.find?_deleteAll s.realm.store _ id
    idsFor_eq := idsFor_swept_ended _ _ _
    sessionsFor_eq := fun p => sessionsFor_swept_ended _ _ _ p
    realm_eq := rfl }

/-- A negative limit does nothing.  Every other one, whatever is registered and stored, refuses
the login exactly where there is no place and it does not give way, and else ends as many of
the oldest sessions as it takes. -/
theorem evicts_run (hsound : s.realm.IsSound) (identity : Identity) (maximum : Int)
    (strict : Bool) :
    (maximum < 0 → run identity (.limit maximum strict) s = (.value (), s)) ∧
      (0 ≤ maximum →
        Evicts maximum strict identity.principal s (run identity (.limit maximum strict) s).1
          (run identity (.limit maximum strict) s).2) := by
  refine ⟨fun hneg => ?_, fun hmaximum => evicts_of_nonneg hsound identity hmaximum strict⟩
  simp only [run, hneg, if_true]
  rfl

/-- Alice has three live sessions and one that is gone.  The first and the one that is gone are
on Bob's list as well.  She logs in again with the last one. -/
def crowded : LoginState where
  slot := some ⟨"third", .ofSubject "idp" "alice", [], ⟨0, 0⟩, ⟨3600, 0⟩⟩
  realm := { Realm.initial ⟨0, 0⟩ .strokes with
    store := ["first", "second", "third"].foldl
      (fun store id => store.save ⟨id, .ofSubject "idp" "alice", [], ⟨0, 0⟩, ⟨3600, 0⟩⟩)
      Store.empty
    registry := [("gone", "idp:alice"), ("first", "idp:alice"), ("second", "idp:alice"),
        ("third", "idp:alice"), ("gone", "idp:bob"), ("first", "idp:bob")].foldl
      (fun registry entry => registry.register entry.1 entry.2 ⟨0, 0⟩) Registry.empty }

/-- With a limit of two, the first two of Alice's sessions end. -/
theorem evicts_run_crowded :
    let alice : Identity := .ofSubject "idp" "alice"
    crowded.realm.IsSound ∧ evicted 2 false alice.principal crowded = ["first", "second"] ∧
      Evicts 2 false alice.principal crowded (run alice (.limit 2 false) crowded).1
        (run alice (.limit 2 false) crowded).2 :=
  ⟨fun _ => rfl, by decide,
    (evicts_run (s := crowded) (fun _ => rfl) (.ofSubject "idp" "alice") 2 false).2 (by decide)⟩

end LoginStrategy

end WebAuth
