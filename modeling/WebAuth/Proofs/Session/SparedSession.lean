import Mathlib.Data.List.Basic
import Mathlib.Data.List.Count
import WebAuth.Proofs.Session.Eviction

/-!
# The session that a limit makes room for

A login may come with a session that is live and registered already.  Such a session needs no
further place, so a limit that gives way should leave it, and end just as many others as there
are too many beside it.

A limit does so as long as it is not exceeded.  Where there are more sessions already, the
login's own one is taken for one of the others.  Then one session ends more than has to, and
unless fewer than the limit allows were registered from the login's own session on, that is one
of those that end.

Main results:

- Theorem `LoginStrategy.Evicts.liveIdsFor_eq`: which ids are live and registered after a
  limit.
- Theorem `LoginStrategy.spares_iff_length_le`: a limit spares the session that it makes room
  for exactly as long as it is not exceeded.
- Theorem `LoginStrategy.not_spares_lowered`: a limit that has been lowered can end it.
-/

namespace WebAuth

/-! ## Lists without repetitions -/

/-- In a list without repetitions, the first members are found as often as there are some. -/
theorem countP_mem_take {l : List String} (h : l.Nodup) (count : Nat) :
    l.countP (fun a => a ∈ l.take count) = (l.take count).length := by
  have hfirst : l.filter (fun a => a ∈ l.take count) = l.take count := by
    conv_rhs => rw [h.take_eq_filter_mem]
    refine List.filter_congr ?_
    intro a _
    exact (List.elem_eq_mem a _).symm
  rw [List.countP_eq_length_filter, hfirst]

/-! ## What a limit should leave -/

namespace Realm

/-- How many of the sessions of some ids are not live. -/
def goneCount (r : Realm) (ids : List String) : Nat :=
  ids.countP (fun id => (r.store.live? r.clock id).isNone)

/-- The session of an id is spared when a limit makes room beside it: it is live and registered
afterwards, and as many of the principal's other live sessions have ended as there are too many
beside it. -/
structure Spares (maximum : Int) (principal id : String) (before after : Realm) : Prop where
  kept : id ∈ after.liveIdsFor principal
  others : (after.goneCount ((before.liveIdsFor principal).erase id) : Int) =
    max 0 (((before.liveIdsFor principal).erase id).length - (maximum - 1))

end Realm

/-! ## What a limit leaves -/

namespace LoginStrategy

variable {maximum : Int} {strict : Bool} {principal id : String} {before after s : LoginState}
  {ending : Ending LoginError Unit} {current : Session} {identity : Identity}

/-- After a limit, what was live is live but for the evicted sessions. -/
theorem Evicts.live?_eq (h : Evicts maximum strict principal before ending after) (id : String) :
    after.realm.store.live? after.realm.clock id =
      if id ∈ evicted maximum strict principal before then none
      else before.realm.store.live? before.realm.clock id := by
  have hclock : after.realm.clock = before.realm.clock := by rw [h.realm_eq]
  rw [Store.live?, h.find?_eq, hclock]
  split
  · rfl
  · rfl

/-- After a limit, the live ids of the principal are those of before but for the evicted
ones. -/
theorem Evicts.liveIdsFor_eq (h : Evicts maximum strict principal before ending after) :
    after.realm.liveIdsFor principal =
      (before.realm.liveIdsFor principal).filter (fun id =>
        id ∉ evicted maximum strict principal before) := by
  rw [Realm.liveIdsFor, h.idsFor_eq, List.filter_eq_self]
  intro id hid
  obtain ⟨hlive, hkept⟩ := List.mem_filter.mp hid
  rw [h.live?_eq, if_neg (by simpa using hkept)]
  exact (Realm.mem_liveIdsFor.mp hlive).2

theorem Evicts.mem_liveIdsFor (h : Evicts maximum strict principal before ending after)
    (hid : id ∈ before.realm.liveIdsFor principal) :
    id ∈ after.realm.liveIdsFor principal ↔ id ∉ evicted maximum strict principal before := by
  rw [h.liveIdsFor_eq, List.mem_filter]
  simp [hid]

/-- Of the live sessions of the principal, the evicted ones are gone after a limit. -/
theorem Evicts.goneCount_eq (h : Evicts maximum strict principal before ending after)
    {ids : List String} (hids : ∀ id ∈ ids, id ∈ before.realm.liveIdsFor principal) :
    after.realm.goneCount ids =
      ids.countP (fun id => id ∈ evicted maximum strict principal before) := by
  refine List.countP_congr ?_
  intro id hid
  have hlive := (Realm.mem_liveIdsFor.mp (hids id hid)).2
  rw [h.live?_eq]
  split
  · rename_i hevicted
    simp [hevicted]
  · rename_i hkept
    simp [hkept, Option.isNone_eq_false_iff.mpr hlive]

/-! ## The login's own session -/

/-- A limit that is to be at least one and not strict gives way. -/
theorem not_isFirm (hmaximum : 1 ≤ maximum) : ¬IsFirm maximum false := by
  rintro (hstrict | hzero)
  · cases hstrict
  · omega

/-- For a login whose own session is counted, a place is missing only beyond the limit. -/
theorem isFull_iff_of_mem (hslot : s.slot = some current)
    (hown : current.id ∈ s.realm.liveIdsFor principal) :
    IsFull maximum principal s ↔ maximum < (s.realm.liveIdsFor principal).length := by
  have hholds : ∃ own ∈ s.slot, own.id ∈ s.realm.liveIdsFor principal :=
    ⟨current, hslot, hown⟩
  rw [IsFull]
  constructor
  · rintro ⟨hle, hnot⟩
    have hne : ((s.realm.liveIdsFor principal).length : Int) ≠ maximum :=
      fun heq => hnot ⟨heq, hholds⟩
    omega
  · intro hless
    refine ⟨by omega, fun hfull => ?_⟩
    have heq := hfull.1
    omega

theorem evicted_of_not_isFull (h : ¬IsFull maximum principal s) :
    evicted maximum strict principal s = [] :=
  if_neg fun hgives => h hgives.1

/-- Where some of the oldest sessions have to end, a live one is among them by its place. -/
theorem mem_evicted_iff (hid : id ∈ s.realm.liveIdsFor principal)
    (hfull : IsFull maximum principal s) (hgives : ¬IsFirm maximum strict) :
    id ∈ evicted maximum strict principal s ↔
      (s.realm.liveIdsFor principal).idxOf id <
        (s.realm.liveIdsFor principal).length + 1 - maximum.toNat := by
  rw [evicted, if_pos ⟨hfull, hgives⟩, List.mem_take_iff_idxOf_lt hid]

/-- Of the principal's live sessions, as many end as are evicted. -/
theorem countP_mem_evicted (h : (s.realm.liveIdsFor principal).Nodup) :
    (s.realm.liveIdsFor principal).countP (fun id => id ∈ evicted maximum strict principal s) =
      (evicted maximum strict principal s).length := by
  rw [evicted]
  split
  · exact countP_mem_take h _
  · simp

/-- Of the principal's other live sessions, one less ends if the session itself is evicted. -/
theorem Evicts.goneCount_erase (h : Evicts maximum strict principal before ending after)
    (hone : (before.realm.liveIdsFor principal).Nodup)
    (hid : id ∈ before.realm.liveIdsFor principal) :
    after.realm.goneCount ((before.realm.liveIdsFor principal).erase id) =
      (evicted maximum strict principal before).length -
        if id ∈ evicted maximum strict principal before then 1 else 0 := by
  rw [h.goneCount_eq fun other hother => List.mem_of_mem_erase hother, List.countP_erase,
    countP_mem_evicted hone]
  simp [hid]

/-- The login's own session stays as long as the limit is not exceeded, and beyond it if it is
registered late enough. -/
theorem Evicts.mem_liveIdsFor_iff
    (h : Evicts maximum false principal before ending after) (hmaximum : 1 ≤ maximum)
    (hslot : before.slot = some current)
    (hown : current.id ∈ before.realm.liveIdsFor principal) :
    current.id ∈ after.realm.liveIdsFor principal ↔
      (before.realm.liveIdsFor principal).length ≤ maximum ∨
        (before.realm.liveIdsFor principal).length <
          (before.realm.liveIdsFor principal).idxOf current.id + maximum := by
  have hfull : IsFull maximum principal before ↔
      maximum < (before.realm.liveIdsFor principal).length :=
    isFull_iff_of_mem hslot hown
  rw [h.mem_liveIdsFor hown]
  by_cases hover : maximum < (before.realm.liveIdsFor principal).length
  · rw [mem_evicted_iff hown (hfull.mpr hover) (not_isFirm hmaximum)]
    omega
  · rw [evicted_of_not_isFull (mt hfull.mp hover)]
    exact iff_of_true List.not_mem_nil (Or.inl (Int.not_lt.mp hover))

/-- Beyond the limit, one session more ends than there are too many. -/
theorem Evicts.goneCount_liveIdsFor
    (h : Evicts maximum false principal before ending after) (hmaximum : 1 ≤ maximum)
    (hone : (before.realm.liveIdsFor principal).Nodup) (hslot : before.slot = some current)
    (hown : current.id ∈ before.realm.liveIdsFor principal)
    (hover : maximum < (before.realm.liveIdsFor principal).length) :
    (after.realm.goneCount (before.realm.liveIdsFor principal) : Int) =
      ((before.realm.liveIdsFor principal).length - maximum) + 1 := by
  have hlength := h.length_eq ((isFull_iff_of_mem hslot hown).mpr hover) (not_isFirm hmaximum)
  rw [h.goneCount_eq fun _ hid => hid, countP_mem_evicted hone, hlength]
  omega

/-- The login's own session is spared exactly as long as the limit is not exceeded. -/
theorem Evicts.spares_iff
    (h : Evicts maximum false principal before ending after) (hmaximum : 1 ≤ maximum)
    (hone : (before.realm.liveIdsFor principal).Nodup) (hslot : before.slot = some current)
    (hown : current.id ∈ before.realm.liveIdsFor principal) :
    Realm.Spares maximum principal current.id before.realm after.realm ↔
      (before.realm.liveIdsFor principal).length ≤ maximum := by
  have hfull : IsFull maximum principal before ↔
      maximum < (before.realm.liveIdsFor principal).length :=
    isFull_iff_of_mem hslot hown
  have hothers := h.goneCount_erase hone hown
  have hkept := h.mem_liveIdsFor hown
  have herase := List.length_erase_of_mem hown
  have hpositive := List.length_pos_of_mem hown
  by_cases hover : maximum < (before.realm.liveIdsFor principal).length
  · -- If the session itself stays, one of the others ends in its stead.
    refine iff_of_false ?_ (Int.not_le.mpr hover)
    rintro ⟨hstays, hcount⟩
    have hlength := h.length_eq (hfull.mpr hover) (not_isFirm hmaximum)
    rw [hothers, if_neg (hkept.mp hstays)] at hcount
    omega
  · -- Nobody ends, and there are no more others than the limit leaves beside the session.
    have hnone : evicted maximum false principal before = [] :=
      evicted_of_not_isFull (mt hfull.mp hover)
    rw [hnone] at hkept hothers
    refine iff_of_true ⟨hkept.mpr List.not_mem_nil, ?_⟩ (Int.not_lt.mp hover)
    rw [hothers, List.length_nil, if_neg List.not_mem_nil]
    omega

/-- A login with a session of its own that is live and registered goes on under every limit
that gives way.  The limit spares the session and as many others as it can exactly as long as
it is not exceeded.  Beyond it the session ends unless fewer sessions than the limit allows
were registered from it on, and in any case one session ends more than has to. -/
theorem spares_iff_length_le (hsound : s.realm.IsSound)
    (hone : (s.realm.registry.idsFor identity.principal).Nodup) (hmaximum : 1 ≤ maximum)
    (hslot : s.slot = some current)
    (hown : current.id ∈ s.realm.liveIdsFor identity.principal) :
    let live := s.realm.liveIdsFor identity.principal
    let outcome := run identity (.limit maximum false) s
    let left := outcome.2.realm
    outcome.1 = .value () ∧
      (Realm.Spares maximum identity.principal current.id s.realm left ↔
        live.length ≤ maximum) ∧
      (current.id ∈ left.liveIdsFor identity.principal ↔
        live.length ≤ maximum ∨ live.length < live.idxOf current.id + maximum) ∧
      (maximum < live.length →
        (left.goneCount live : Int) = (live.length - maximum) + 1) := by
  intro live outcome left
  have heffect := evicts_of_nonneg hsound identity (by omega : 0 ≤ maximum) false
  have hlive := Realm.nodup_liveIdsFor hone
  refine ⟨?_, heffect.spares_iff hmaximum hlive hslot hown,
    heffect.mem_liveIdsFor_iff hmaximum hslot hown,
    heffect.goneCount_liveIdsFor hmaximum hlive hslot hown⟩
  exact heffect.accepted_iff.mpr fun hrefuses => not_isFirm hmaximum hrefuses.2

/-! ## A limit that has been lowered -/

/-- Alice has logged in some times without a limit, and comes back with one of the sessions. -/
def returning (logins : Nat) (id : String) : LoginState :=
  let r := (Realm.initial ⟨0, 0⟩ .strokes).play
    (.sequence [.changeId .default true true, .register])
    (List.replicate logins (.login (.ofSubject "idp" "alice") none))
  ⟨r.slot (some id), r⟩

/-- Under a limit of two, the last of three sessions stays, but both of the others end. -/
theorem spares_iff_length_le_returning :
    let alice : Identity := .ofSubject "idp" "alice"
    let s := returning 3 "111"
    let left := (run alice (.limit 2 false) s).2.realm
    s.slot = some ⟨"111", alice, [], ⟨0, 0⟩, ⟨86400, 0⟩⟩ ∧
      s.realm.liveIdsFor alice.principal = ["1", "11", "111"] ∧
      "111" ∈ left.liveIdsFor alice.principal ∧
      ¬Realm.Spares 2 alice.principal "111" s.realm left := by
  intro alice s left
  have hslot : s.slot = some ⟨"111", alice, [], ⟨0, 0⟩, ⟨86400, 0⟩⟩ := by decide +kernel
  have hlive : s.realm.liveIdsFor alice.principal = ["1", "11", "111"] := by decide +kernel
  have hsound : s.realm.IsSound := fun operation => by cases operation <;> decide +kernel
  have hone : (s.realm.registry.idsFor alice.principal).Nodup := by decide +kernel
  obtain ⟨-, hspares, hkept, -⟩ := spares_iff_length_le hsound hone (by decide : 1 ≤ (2 : Int))
    hslot (by rw [hlive]; decide)
  rw [hlive] at hspares hkept
  exact ⟨hslot, hlive, hkept.mpr (Or.inr (by decide)), fun h => absurd (hspares.mp h) (by decide)⟩

/-- Under a limit of one, the first of two sessions ends although it is that of the login: not
every limit that gives way spares the session that it makes room for. -/
theorem not_spares_lowered :
    ¬∀ (s : LoginState) (identity : Identity) (maximum : Int) (current : Session),
      s.realm.IsSound → s.realm.registry.ListsOnce → 1 ≤ maximum → s.slot = some current →
      current.id ∈ s.realm.liveIdsFor identity.principal →
      Realm.Spares maximum identity.principal current.id s.realm
        (run identity (.limit maximum false) s).2.realm := by
  intro h
  have hspares := h (returning 2 "1") (.ofSubject "idp" "alice") 1
    ⟨"1", .ofSubject "idp" "alice", [], ⟨0, 0⟩, ⟨86400, 0⟩⟩
    (fun operation => by cases operation <;> decide +kernel)
    ((Registry.listsOnce_empty.register "1" "idp:alice" ⟨0, 0⟩).register "11" "idp:alice" ⟨0, 0⟩)
    (by decide) (by decide +kernel) (by decide +kernel)
  exact absurd hspares.kept (by decide +kernel)

end LoginStrategy

end WebAuth
