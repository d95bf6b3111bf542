import WebAuth.Proofs.Session.Runs

/-!
# The session limit

Under a limit no principal has more live sessions than the limit says, whatever
identities log in, whichever sessions they bring, and however much time passes.  The
invariant is stronger: it bounds the registrations, so that expiry plays no part.

Main results:

- Theorem `LoginStrategy.room_of_limited`: a login that goes on has found or made room,
  or its session is one of those that fill the limit.
- Theorem `Realm.liveSessionsFor_play_le`: the limit holds throughout every run.
-/

namespace WebAuth

open Calendar

/-! ## Lists of registrations -/

/-- Without the ids of its first members a list is shorter by their number. -/
theorem length_filter_not_mem_take (gs : List Registration) (count : Nat) :
    (gs.filter (fun g => g.sessionId ∉ (gs.take count).map Registration.sessionId)).length ≤
      gs.length - count := by
  generalize hp : (fun g : Registration =>
    decide (g.sessionId ∉ (gs.take count).map Registration.sessionId)) = p
  have hfirst : (gs.take count).filter p = [] := by
    refine List.filter_eq_nil_iff.mpr ?_
    intro g hg
    have hmem : g.sessionId ∈ (gs.take count).map Registration.sessionId :=
      List.mem_map_of_mem hg
    simp only [← hp, decide_eq_true_eq]
    exact fun hnot => hnot hmem
  have hsplit : gs.filter p = (gs.take count).filter p ++ (gs.drop count).filter p := by
    rw [← List.filter_append, List.take_append_drop]
  calc
    (gs.filter p).length = ((gs.drop count).filter p).length := by
      rw [hsplit, hfirst, List.nil_append]
    _ ≤ (gs.drop count).length := List.length_filter_le _ _
    _ = gs.length - count := List.length_drop

theorem Registration.length_addTo_le (g : Registration) (gs : List Registration) :
    (g.addTo gs).length ≤ gs.length + 1 := by
  unfold addTo
  split <;> simp

/-- A session that is on the list is not added again. -/
theorem Registration.addTo_of_mem {g other : Registration} {gs : List Registration}
    (h : other ∈ gs) (hid : other.sessionId = g.sessionId) : g.addTo gs = gs := by
  have hany : gs.any (fun other => other.sessionId = g.sessionId) = true :=
    List.any_eq_true.mpr ⟨other, h, by simpa using hid⟩
  simp [addTo, hany]

/-! ## Room for a login -/

namespace Realm

/-- A sweep leaves a principal its live sessions. -/
theorem sessionsFor_swept (r : Realm) (principal : String) :
    (r.swept principal).registry.sessionsFor principal = r.liveSessionsFor principal := by
  rw [swept, dropDead, Registry.sessionsFor_removeAll, liveSessionsFor]
  refine List.filter_congr ?_
  intro g hg
  cases hlive : r.hasLive g with
  | true =>
      simp only [decide_eq_true_eq, List.mem_map, List.mem_filter, not_exists, not_and]
      intro dead hdead heq
      have hsame : r.hasLive dead = r.hasLive g := by simp [hasLive, heq]
      simp [hsame, hlive] at hdead
  | false =>
      simp only [decide_eq_false_iff_not, Classical.not_not, List.mem_map, List.mem_filter]
      exact ⟨g, ⟨hg, by simp [hlive]⟩, rfl⟩

end Realm

namespace LoginStrategy

variable {maximum : Int} {strict : Bool} {config : SessionConfig} {migrate : Bool}
  {identity : Identity} {slot : Option Session} {r left room : Realm}
  {ending : Ending LoginError Unit}

/-- A login that goes on has found or made room, or its session is one of those that
fill the limit. -/
theorem room_of_limited (hmaximum : 0 ≤ maximum) {principal : String}
    (h : limited maximum strict principal slot r = (.value (), room)) :
    (room.registry.sessionsFor principal).length < maximum.toNat ∨
      (room.registry.sessionsFor principal).length = maximum.toNat ∧
        holdsOneOf slot (room.registry.sessionsFor principal) = true := by
  have hneg : ¬ maximum < 0 := by omega
  simp only [limited, hneg, if_false] at h
  split at h
  · rename_i hfits
    cases h
    rw [Realm.sessionsFor_swept]
    simpa [fits] using hfits
  · rename_i hfits
    split at h
    · cases h
    · rename_i hrefused
      cases h
      left
      have hshort := length_filter_not_mem_take (r.liveSessionsFor principal)
        ((r.liveSessionsFor principal).length + 1 - maximum.toNat)
      rw [Realm.ended, Registry.sessionsFor_removeAll, Realm.sessionsFor_swept, oldest]
      simp only [fits, Bool.or_eq_true, decide_eq_true_eq, not_or] at hfits
      omega

end LoginStrategy

/-! ## The invariant -/

/-- No principal has more registrations than the limit says. -/
def Realm.WithinLimit (maximum : Int) (r : Realm) : Prop :=
  ∀ p, (r.registry.sessionsFor p).length ≤ maximum.toNat

namespace LoginStrategy

variable {maximum : Int} {strict : Bool} {config : SessionConfig} {migrate : Bool}
  {identity : Identity} {slot : Option Session} {r left : Realm}
  {ending : Ending LoginError Unit}

/-- Making room adds no registration. -/
theorem withinLimit_of_trimmed {room : Realm} (h : Realm.Trimmed r room)
    (hr : r.WithinLimit maximum) : room.WithinLimit maximum :=
  fun p => Nat.le_trans (h.sublist p).length_le (hr p)

/-- A registration changes only the list of its principal, by at most one entry. -/
theorem length_sessionsFor_register_le (registry : Registry) (id principal other : String)
    (now : Timestamp) {bound : Nat} (h : (registry.sessionsFor other).length ≤ bound)
    (hroom : other = principal → (registry.sessionsFor principal).length < bound) :
    ((registry.register id principal now).sessionsFor other).length ≤ bound := by
  by_cases hother : other = principal
  · subst hother
    rw [Registry.sessionsFor_register_self]
    have hadd := Registration.length_addTo_le ⟨id, other, now⟩ (registry.sessionsFor other)
    have hless := hroom rfl
    omega
  · rw [Registry.sessionsFor_register_of_ne hother]
    exact h

/-- Every login keeps the limit. -/
theorem Admission.withinLimit (hmaximum : 0 ≤ maximum)
    (h : Admission maximum strict config migrate identity slot r ending left)
    (hr : r.WithinLimit maximum) : left.WithinLimit maximum := by
  obtain ⟨later, hrotation⟩ := h
  cases hrotation with
  | refused room calls hroom =>
      have hwithin := withinLimit_of_trimmed (trimmed_of_limited hroom) hr
      exact fun p => hwithin p
  | aborted room calls hroom hslot =>
      have hwithin := withinLimit_of_trimmed (trimmed_of_limited hroom) hr
      exact fun p => hwithin p
  | @created room session calls hroom hslot hnew =>
      have hwithin := withinLimit_of_trimmed (trimmed_of_limited hroom) hr
      have hless : (room.registry.sessionsFor identity.principal).length < maximum.toNat := by
        rcases room_of_limited hmaximum hroom with hless | ⟨-, hholds⟩
        · exact hless
        · simp [hslot, holdsOneOf] at hholds
      intro p
      exact length_sessionsFor_register_le _ _ _ _ _ (hwithin p) (fun _ => hless)
  | @moved room current calls hroom hslot =>
      have hwithin := withinLimit_of_trimmed (trimmed_of_limited hroom) hr
      have hlength (p : String) :
          ((room.registry.rename current.id room.sessionIds.next).sessionsFor p).length =
            (room.registry.sessionsFor p).length := by
        rw [Registry.sessionsFor_rename, List.length_map]
      intro p
      change (((room.registry.rename current.id room.sessionIds.next).register
        room.sessionIds.next identity.principal room.clock).sessionsFor p).length ≤ _
      rcases room_of_limited hmaximum hroom with hless | ⟨-, hholds⟩
      · refine length_sessionsFor_register_le _ _ _ _ _ ?_ (fun _ => ?_)
        · rw [hlength]
          exact hwithin p
        · rw [hlength]
          exact hless
      · -- The session already fills a place, which the registry gives to its new id.
        by_cases hp : p = identity.principal
        · subst hp
          simp only [hslot, holdsOneOf, List.any_eq_true, decide_eq_true_eq] at hholds
          obtain ⟨g, hg, hid⟩ := hholds
          have hmem : g.rename current.id room.sessionIds.next ∈
              (room.registry.rename current.id room.sessionIds.next).sessionsFor
                identity.principal :=
            Registry.mem_sessionsFor_rename.mpr ⟨g, hg, rfl⟩
          rw [Registry.sessionsFor_register_self,
            Registration.addTo_of_mem hmem (by simp [hid]), hlength]
          exact hwithin _
        · rw [Registry.sessionsFor_register_of_ne hp, hlength]
          exact hwithin p

end LoginStrategy

namespace Realm

open LoginStrategy

/-- After every event of a run, in particular after every login, accepted or refused,
every principal has at most as many live sessions as the limit says. -/
theorem liveSessionsFor_play_le {maximum : Int} (h : 0 ≤ maximum) (strict : Bool)
    (config : SessionConfig) (migrate : Bool) (clock : Timestamp)
    (sessionIds : Supply String) (events : List LoginEvent) (principal : String) :
    (((initial clock sessionIds).play (limitedLogin maximum strict config migrate)
      events).liveSessionsFor principal).length ≤ maximum := by
  have hwithin : ((initial clock sessionIds).play
      (limitedLogin maximum strict config migrate) events).WithinLimit maximum := by
    refine play_invariant (isSound_initial clock sessionIds) ?_ ?_ ?_ events
    · intro p
      simp [initial]
    · intro r clock _ hr
      exact hr
    · intro r identity sessionId ending left hr hadmission
      exact hadmission.withinLimit h hr
  have hlive := List.length_filter_le (hasLive ((initial clock sessionIds).play
    (limitedLogin maximum strict config migrate) events))
    (((initial clock sessionIds).play
      (limitedLogin maximum strict config migrate) events).registry.sessionsFor principal)
  have hregistered := hwithin principal
  rw [liveSessionsFor]
  omega

/-- At a limit of one session: two logins without a session, then a login of somebody
else who brings the second one's. -/
theorem liveSessionsFor_play_le_one :
    (0 : Int) ≤ 1 ∧
      (((initial ⟨0, 0⟩ .strokes).play (limitedLogin 1 false .default true)
        [.login (.ofSubject "idp" "alice") none, .login (.ofSubject "idp" "alice") none,
          .login (.ofSubject "idp" "bob") (some "11")]).liveSessionsFor "idp:alice").length ≤
        (1 : Int) :=
  ⟨by decide, liveSessionsFor_play_le (by decide) _ _ _ _ _ _ _⟩

/-- The limit is reached. -/
example :
    (((initial ⟨0, 0⟩ .strokes).play (limitedLogin 1 false .default true)
      [.login (.ofSubject "idp" "alice") none,
        .login (.ofSubject "idp" "alice") none]).liveSessionsFor "idp:alice").length = 1 := by
  decide

end Realm

end WebAuth
