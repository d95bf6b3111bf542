import WebAuth.Proofs.Session.Interleaving
import WebAuth.Proofs.Session.Limit
import WebAuth.Proofs.Session.Ownership

/-!
# How a login stands with a limit

A login that has passed its check owes the limit a place until its session is registered.
Before the check it owes nothing, and afterwards only its own session: a step of the other
login neither lists that session nor takes it off the count.

Main results:

- Theorem `LoginStrategy.liveCount_lt_of_limited`: a check that is passed leaves a place,
  unless the session has one already.
- Theorem `Attempt.Standing.of_other`: a step of one login leaves the other's standing alone.
- Theorem `Attempt.Standing.advance`: what a step does to the sessions counted and owed.
-/

namespace WebAuth

open LoginStrategy

/-! ## Ids to come -/

/-- The value is not handed out any more. -/
def Supply.Avoids {α : Type} (s : Supply α) (a : α) : Prop := ∀ n, s.used ≤ n → s.item n ≠ a

namespace Supply

variable {α : Type} {s : Supply α} {a : α}

theorem Avoids.advance (h : s.Avoids a) : s.advance.Avoids a :=
  fun n hn => h n (Nat.le_of_succ_le hn)

theorem Avoids.ne_next (h : s.Avoids a) : a ≠ s.next :=
  fun heq => h s.used (Nat.le_refl _) heq.symm

/-- A fresh supply does not hand out again what it has handed out. -/
theorem HasGiven.avoids (h : s.HasGiven a) (hfresh : s.IsFresh) : s.Avoids a := by
  obtain ⟨n, hn, rfl⟩ := h
  intro later hlater heq
  have hsame : later = n := hfresh later n heq
  omega

theorem avoids_advance_next (hfresh : s.IsFresh) : s.advance.Avoids s.next :=
  s.hasGiven_advance_next.avoids hfresh

end Supply

/-- No id is handed out twice, and none that is registered is handed out any more. -/
structure Realm.IssuesNewIds (r : Realm) : Prop where
  fresh : r.sessionIds.IsFresh
  registered : ∀ {p g}, g ∈ r.registry.sessionsFor p → r.sessionIds.Avoids g.sessionId

theorem Realm.WellKept.issuesNewIds {r : Realm} (h : r.WellKept) : r.IssuesNewIds where
  fresh := h.fresh
  registered hg := (h.numbered.registered hg).avoids h.fresh

/-! ## Live sessions of a principal -/

namespace Realm

variable {r left room : Realm} {principal id : String}

/-- The number of live sessions of a principal. -/
def liveCount (r : Realm) (principal : String) : Nat := (r.liveSessionsFor principal).length

/-- Making room adds no live session. -/
theorem Trimmed.liveCount_le (h : Trimmed r room) (principal : String) :
    room.liveCount principal ≤ r.liveCount principal := by
  have hlive : ((room.registry.sessionsFor principal).filter room.hasLive).length ≤
      ((room.registry.sessionsFor principal).filter r.hasLive).length := by
    rw [← List.countP_eq_length_filter, ← List.countP_eq_length_filter]
    exact List.countP_mono_left (fun _ _ hg => h.hasLive_of_hasLive hg)
  exact Nat.le_trans hlive ((h.sublist principal).filter _).length_le

/-- A list whose registrations are only renamed has no more live sessions if those that
are live now were live before. -/
theorem liveCount_le_of_map {f : Registration → Registration}
    (hlist : left.registry.sessionsFor principal =
      (r.registry.sessionsFor principal).map f)
    (hlive : ∀ g ∈ r.registry.sessionsFor principal, left.hasLive (f g) = true →
      r.hasLive g = true) : left.liveCount principal ≤ r.liveCount principal := by
  rw [liveCount, liveCount, liveSessionsFor, liveSessionsFor, hlist,
    ← List.countP_eq_length_filter, ← List.countP_eq_length_filter, List.countP_map]
  exact List.countP_mono_left hlive

/-- The registration of a session of this id would add no live session. -/
def IsCounted (r : Realm) (principal id : String) : Prop :=
  (∃ g ∈ r.registry.sessionsFor principal, g.sessionId = id) ∨ r.store.live? r.clock id = none

/-- A session of this id is not on the principal's list. -/
def IsUnlisted (r : Realm) (principal id : String) : Prop :=
  ∀ g ∈ r.registry.sessionsFor principal, g.sessionId ≠ id

/-- A registration leaves the store alone, so what was live on the list is live still. -/
theorem liveCount_register (r : Realm) (id principal : String) :
    (r.register id principal).liveCount principal =
      ((Registration.addTo ⟨id, principal, r.clock⟩
        (r.registry.sessionsFor principal)).filter r.hasLive).length := by
  have hlist : (r.register id principal).registry.sessionsFor principal =
      Registration.addTo ⟨id, principal, r.clock⟩ (r.registry.sessionsFor principal) :=
    Registry.sessionsFor_register_self _ _ _ _
  rw [liveCount, liveSessionsFor, hlist]
  rfl

/-- A registration adds at most one live session. -/
theorem liveCount_register_le (r : Realm) (id principal : String) :
    (r.register id principal).liveCount principal ≤ r.liveCount principal + 1 := by
  rw [liveCount_register, Registration.addTo]
  split
  · exact Nat.le_succ _
  · rw [List.filter_append, List.length_append]
    exact Nat.add_le_add_left (List.length_filter_le _ _) _

/-- The registration of a session that is counted adds no live session. -/
theorem liveCount_register_of_isCounted (h : r.IsCounted principal id) :
    (r.register id principal).liveCount principal ≤ r.liveCount principal := by
  rw [liveCount_register]
  rcases h with ⟨g, hg, hid⟩ | hgone
  · rw [Registration.addTo_of_mem hg hid]
    exact Nat.le_refl _
  · have hdead : r.hasLive ⟨id, principal, r.clock⟩ = false := by
      simp [hasLive, hgone]
    rw [Registration.addTo]
    split
    · exact Nat.le_refl _
    · simp [List.filter_append, hdead, liveCount, liveSessionsFor]

end Realm

namespace LoginStrategy

variable {maximum : Int} {strict : Bool} {r room : Realm} {principal : String}

/-- A login whose session is not on the list goes on only with room for one more. -/
theorem liveCount_lt_of_limited (hmaximum : 1 ≤ maximum) {slot : Option Session}
    (hunlisted : ∀ s, slot = some s → r.IsUnlisted principal s.id)
    (h : limited maximum strict principal slot r = (.value (), room)) :
    room.liveCount principal < maximum.toNat := by
  have hcount : room.liveCount principal ≤ (room.registry.sessionsFor principal).length :=
    List.length_filter_le _ _
  rcases room_of_limited (by omega) h with hless | ⟨-, hholds⟩
  · exact Nat.lt_of_le_of_lt hcount hless
  · cases slot with
    | none => cases hholds
    | some current =>
        have htrimmed := limited_trimmed maximum strict principal (some current) r
        rw [h] at htrimmed
        simp only [holdsOneOf, List.any_eq_true, decide_eq_true_eq] at hholds
        obtain ⟨g, hg, hid⟩ := hholds
        exact absurd hid (hunlisted current rfl g ((htrimmed.sublist principal).subset hg))

/-- A login whose session is counted already goes on as long as the limit holds, and
nobody's session ends. -/
theorem limited_of_listed (hmaximum : 1 ≤ maximum) (strict : Bool) {s : Session}
    (hlive : r.store.live? r.clock s.id = some s)
    (hlisted : ∃ g ∈ r.registry.sessionsFor principal, g.sessionId = s.id)
    (hwithin : r.liveCount principal ≤ maximum.toNat) :
    limited maximum strict principal (some s) r = (.value (), r.swept principal) := by
  obtain ⟨g, hg, hid⟩ := hlisted
  have hholds : holdsOneOf (some s) (r.liveSessionsFor principal) = true := by
    refine List.any_eq_true.mpr ⟨g, List.mem_filter.mpr ⟨hg, ?_⟩, by simpa using hid⟩
    exact Realm.hasLive_iff.mpr ⟨s, hid ▸ hlive⟩
  have hfits : fits maximum (some s) (r.liveSessionsFor principal) = true := by
    rcases Nat.lt_or_eq_of_le hwithin with hless | hfull
    · have hroom : (r.liveSessionsFor principal).length < maximum.toNat := hless
      simp [fits, hroom]
    · have hexact : (r.liveSessionsFor principal).length = maximum.toNat := hfull
      simp [fits, hexact, hholds]
  have hneg : ¬ maximum < 0 := by omega
  simp [limited, hneg, hfits]

/-- A new session is on no list yet. -/
theorem liveCount_created_le {config : SessionConfig} {identity : Identity}
    {session : Session} (hids : r.IssuesNewIds)
    (hnew : newSession? config r identity = some session) (principal : String) :
    (created r session).liveCount principal ≤ r.liveCount principal := by
  refine Realm.liveCount_le_of_map (f := id) (List.map_id _).symm ?_
  intro g hg hcreated
  have hne : g.sessionId ≠ session.id := id_of_newSession? hnew ▸ (hids.registered hg).ne_next
  obtain ⟨s, hs⟩ := Realm.hasLive_iff.mp hcreated
  rcases live?_created hs with ⟨hid, -⟩ | ⟨-, hlive⟩
  · exact absurd hid hne
  · exact Realm.hasLive_iff.mpr ⟨s, hlive⟩

/-- A session that moves adds no live session to a list on which it is live or not at
all. -/
theorem liveCount_moved_le (hids : r.IssuesNewIds) (tracked migrate : Bool)
    (identity : Identity) {current : Session}
    (hlive : ∀ g ∈ r.registry.sessionsFor principal, g.sessionId = current.id →
      r.hasLive g = true) :
    (moved r tracked migrate identity current).liveCount principal ≤
      r.liveCount principal := by
  have hother {g : Registration} (hg : g ∈ r.registry.sessionsFor principal)
      (hmoved : (moved r tracked migrate identity current).hasLive g = true) :
      r.hasLive g = true := by
    obtain ⟨s, hs⟩ := Realm.hasLive_iff.mp hmoved
    rcases live?_moved tracked hs with ⟨hnext, -⟩ | ⟨-, -, hbefore⟩
    · exact absurd hnext (hids.registered hg).ne_next
    · exact Realm.hasLive_iff.mpr ⟨s, hbefore⟩
  cases tracked with
  | false =>
      refine Realm.liveCount_le_of_map (f := id) (List.map_id _).symm ?_
      exact fun g hg hmoved => hother hg hmoved
  | true =>
      refine Realm.liveCount_le_of_map (Registry.sessionsFor_rename _ _ _ _) ?_
      intro g hg hmoved
      by_cases hold : g.sessionId = current.id
      · exact hlive g hg hold
      · rw [Registration.rename_of_ne hold] at hmoved
        exact hother hg hmoved

end LoginStrategy

/-! ## One step -/

namespace Attempt

variable {maximum : Int} {strict : Bool} {config : SessionConfig} {migrate : Bool}
  {a b : Attempt} {r left : Realm} {principal : String}

namespace Advance

/-- What is not handed out any more is not handed out after a step. -/
theorem avoids (h : Advance maximum strict config migrate a r b left) {id : String}
    (hid : r.sessionIds.Avoids id) : left.sessionIds.Avoids id := by
  rcases h.slot_cases with ⟨-, hsame | hnext⟩ | ⟨hnext, -⟩
  · exact hsame ▸ hid
  · exact hnext ▸ hid.advance
  · exact hnext ▸ hid.advance

theorem isFresh (h : Advance maximum strict config migrate a r b left)
    (hfresh : r.sessionIds.IsFresh) : left.sessionIds.IsFresh := by
  rcases h.slot_cases with ⟨-, hsame | hnext⟩ | ⟨hnext, -⟩
  · exact hsame ▸ hfresh
  · exact hnext ▸ hfresh
  · exact hnext ▸ hfresh

/-- The id of the session in the slot is not handed out any more. -/
theorem avoids_slot (h : Advance maximum strict config migrate a r b left)
    (hfresh : r.sessionIds.IsFresh)
    (hslot : ∀ s, a.slot = some s → r.sessionIds.Avoids s.id) {s : Session}
    (hs : b.slot = some s) : left.sessionIds.Avoids s.id := by
  rcases h.slot_cases with ⟨hsame, -⟩ | ⟨hnext, new, hnew, hid⟩
  · exact h.avoids (hslot s (hsame ▸ hs))
  · rw [hs] at hnew
    cases hnew
    rw [hnext, hid]
    exact Supply.avoids_advance_next hfresh

/-- After a step, too, no id that is registered is handed out any more. -/
theorem issuesNewIds (h : Advance maximum strict config migrate a r b left)
    (hids : r.IssuesNewIds) (hslot : ∀ s, a.slot = some s → r.sessionIds.Avoids s.id) :
    left.IssuesNewIds := by
  refine ⟨h.isFresh hids.fresh, ?_⟩
  intro p g hg
  cases h with
  | finished hrest => exact hids.registered hg
  | refused calls hrest hroom =>
      have htrimmed := trimmed_of_limited hroom
      exact htrimmed.sessionIds_eq ▸ hids.registered ((htrimmed.sublist p).subset hg)
  | admitted calls hrest hroom =>
      have htrimmed := trimmed_of_limited hroom
      exact htrimmed.sessionIds_eq ▸ hids.registered ((htrimmed.sublist p).subset hg)
  | aborted hrest hslot => exact (hids.registered hg).advance
  | created calls hrest hslot hnew => exact (hids.registered hg).advance
  | moved calls hrest hslot =>
      obtain ⟨before, hbefore, rfl⟩ := Registry.mem_sessionsFor_rename.mp hg
      rw [Registration.sessionId_rename]
      split
      · exact Supply.avoids_advance_next hids.fresh
      · exact (hids.registered hbefore).advance
  | @registered current hrest hcurrent =>
      rcases Registry.mem_sessionsFor_register hg with hg | ⟨-, rfl⟩
      · exact hids.registered hg
      · exact hslot current hcurrent

variable {id : String}

/-- A login lists no session but its own. -/
theorem isUnlisted (h : Advance maximum strict config migrate a r b left)
    (hunlisted : r.IsUnlisted principal id) (hid : r.sessionIds.Avoids id)
    (hown : ∀ s, a.slot = some s → s.id ≠ id) : left.IsUnlisted principal id := by
  intro g hg
  cases h with
  | finished hrest => exact hunlisted g hg
  | refused calls hrest hroom =>
      exact hunlisted g (((trimmed_of_limited hroom).sublist principal).subset hg)
  | admitted calls hrest hroom =>
      exact hunlisted g (((trimmed_of_limited hroom).sublist principal).subset hg)
  | aborted hrest hslot => exact hunlisted g hg
  | created calls hrest hslot hnew => exact hunlisted g hg
  | moved calls hrest hslot =>
      obtain ⟨before, hbefore, rfl⟩ := Registry.mem_sessionsFor_rename.mp hg
      rw [Registration.sessionId_rename]
      split
      · exact hid.ne_next.symm
      · exact hunlisted before hbefore
  | @registered current hrest hslot =>
      rcases Registry.mem_sessionsFor_register hg with hg | ⟨-, rfl⟩
      · exact hunlisted g hg
      · exact hown current hslot

/-- A login leaves the other's session counted. -/
theorem isCounted (h : Advance maximum strict config migrate a r b left)
    (hcounted : r.IsCounted principal id) (hid : r.sessionIds.Avoids id)
    (hown : ∀ s, a.slot = some s → s.id ≠ id) : left.IsCounted principal id := by
  have htrimmedCase {room : Realm} (htrimmed : Realm.Trimmed r room) :
      room.IsCounted principal id := by
    cases hlive : room.store.live? room.clock id with
    | none => exact Or.inr hlive
    | some s =>
        rcases hcounted with ⟨g, hg, rfl⟩ | hgone
        · exact Or.inl ⟨g, htrimmed.mem_of_hasLive hg (Realm.hasLive_iff.mpr ⟨s, hlive⟩), rfl⟩
        · rw [htrimmed.live?_of_live? hlive] at hgone
          cases hgone
  cases h with
  | finished hrest => exact hcounted
  | refused calls hrest hroom =>
      have hkept := htrimmedCase (trimmed_of_limited hroom)
      exact hkept
  | admitted calls hrest hroom =>
      have hkept := htrimmedCase (trimmed_of_limited hroom)
      exact hkept
  | aborted hrest hslot => exact hcounted
  | @created session calls hrest hslot hnew =>
      refine hcounted.imp_right (fun hgone => ?_)
      change (LoginStrategy.created r session).store.live? r.clock id = none
      have hne : id ≠ session.id := id_of_newSession? hnew ▸ hid.ne_next
      rw [Store.live?, find?_created, if_neg hne]
      exact hgone
  | @moved current calls hrest hslot =>
      rcases hcounted with ⟨g, hg, rfl⟩ | hgone
      · refine Or.inl ⟨g, Registry.mem_sessionsFor_rename.mpr ⟨g, hg, ?_⟩, rfl⟩
        exact Registration.rename_of_ne (hown current hslot).symm _
      · refine Or.inr ?_
        change (LoginStrategy.moved r true migrate a.identity current).store.live? r.clock id =
          none
        rw [Store.live?, find?_moved, if_neg (hown current hslot).symm, if_neg hid.ne_next]
        exact hgone
  | registered hrest hslot =>
      rcases hcounted with ⟨g, hg, rfl⟩ | hgone
      · exact Or.inl ⟨g, Registry.mem_sessionsFor_register_of_mem hg _ _ _, rfl⟩
      · exact Or.inr hgone

end Advance

variable (maximum strict config migrate) in
/-- How a login stands: how many live sessions it owes to the limit that has let it pass,
and how many it may still add at all. -/
inductive Standing (a : Attempt) (r : Realm) (principal : String) : Nat → Nat → Prop where
  /-- The check is still to come. -/
  | waiting (hrest : a.rest = limitedSteps maximum strict config migrate)
      (hunlisted : ∀ s, a.slot = some s → r.IsUnlisted principal s.id) :
      Standing a r principal 0 1
  /-- The check has been passed. -/
  | admitted (hrest : a.rest = [.changeId config true migrate, .register])
      (hunlisted : ∀ s, a.slot = some s → r.IsUnlisted principal s.id) :
      Standing a r principal 1 1
  /-- The session is still to be registered. -/
  | changed {s : Session} (hrest : a.rest = [.register]) (hslot : a.slot = some s) :
      Standing a r principal 1 1
  /-- The session is still to be registered, but is counted already. -/
  | settled {s : Session} (hrest : a.rest = [.register]) (hslot : a.slot = some s)
      (hcounted : r.IsCounted principal s.id) : Standing a r principal 0 0
  | finished (hrest : a.rest = []) : Standing a r principal 0 0

namespace Standing

variable {owed toCome : Nat}

theorem owed_le_toCome (h : Standing maximum strict config migrate a r principal owed toCome) :
    owed ≤ toCome := by
  cases h <;> decide

theorem toCome_le_one (h : Standing maximum strict config migrate a r principal owed toCome) :
    toCome ≤ 1 := by
  cases h <;> decide

/-- A login whose check is still to come may add a session. -/
theorem toCome_eq_one (h : Standing maximum strict config migrate a r principal owed toCome)
    (hwaiting : a.rest.length = 3) : toCome = 1 := by
  cases h with
  | waiting hrest hunlisted => rfl
  | admitted hrest hunlisted => rfl
  | changed hrest hslot => rfl
  | settled hrest hslot hcounted => simp [hrest] at hwaiting
  | finished hrest => simp [hrest] at hwaiting

/-- A login owes nothing before its check and after its end. -/
theorem owed_eq_zero (h : Standing maximum strict config migrate a r principal owed toCome)
    (hrest : ¬(1 ≤ a.rest.length ∧ a.rest.length ≤ 2)) : owed = 0 := by
  cases h with
  | waiting _ hunlisted => rfl
  | admitted hadmitted hunlisted => simp [hadmitted] at hrest
  | changed hchanged hslot => simp [hchanged] at hrest
  | settled _ hslot hcounted => rfl
  | finished _ => rfl

/-- A step of one login does not change how the other stands. -/
theorem of_other {other : Attempt}
    (h : Standing maximum strict config migrate other r principal owed toCome)
    (hadvance : Advance maximum strict config migrate a r b left)
    (hslot : ∀ s, other.slot = some s → r.sessionIds.Avoids s.id)
    (hapart : ∀ s t, a.slot = some s → other.slot = some t → s.id ≠ t.id) :
    Standing maximum strict config migrate other left principal owed toCome := by
  have hunlisted (hnone : ∀ s, other.slot = some s → r.IsUnlisted principal s.id) (s : Session)
      (hs : other.slot = some s) : left.IsUnlisted principal s.id :=
    hadvance.isUnlisted (hnone s hs) (hslot s hs) (fun own hown => hapart own s hown hs)
  cases h with
  | waiting hrest hnone => exact .waiting hrest (hunlisted hnone)
  | admitted hrest hnone => exact .admitted hrest (hunlisted hnone)
  | changed hrest hs => exact .changed hrest hs
  | settled hrest hs hcounted =>
      exact .settled hrest hs
        (hadvance.isCounted hcounted (hslot _ hs) (fun own hown => hapart own _ hown hs))
  | finished hrest => exact .finished hrest

/-- Before its check a login owes nothing and may add a session that is not listed. -/
theorem of_waiting (h : Standing maximum strict config migrate a r principal owed toCome)
    (hrest : a.rest = limitedSteps maximum strict config migrate) :
    owed = 0 ∧ toCome = 1 ∧ ∀ s, a.slot = some s → r.IsUnlisted principal s.id := by
  cases h with
  | waiting _ hunlisted => exact ⟨rfl, rfl, hunlisted⟩
  | admitted hother _ => simp [hrest, limitedSteps] at hother
  | changed hother _ => simp [hrest, limitedSteps] at hother
  | settled hother _ _ => simp [hrest, limitedSteps] at hother
  | finished hother => simp [hrest, limitedSteps] at hother

/-- After its check a login owes a session that is not listed. -/
theorem of_admitted (h : Standing maximum strict config migrate a r principal owed toCome)
    (hrest : a.rest = [.changeId config true migrate, .register]) :
    owed = 1 ∧ toCome = 1 ∧ ∀ s, a.slot = some s → r.IsUnlisted principal s.id := by
  cases h with
  | waiting hother _ => simp [hrest, limitedSteps] at hother
  | admitted _ hunlisted => exact ⟨rfl, rfl, hunlisted⟩
  | changed hother _ => simp [hrest] at hother
  | settled hother _ _ => simp [hrest] at hother
  | finished hother => simp [hrest] at hother

/-- A login that has its session registered owes it, unless it is counted already. -/
theorem of_changed (h : Standing maximum strict config migrate a r principal owed toCome)
    (hrest : a.rest = [.register]) {s : Session} (hslot : a.slot = some s) :
    owed = 1 ∧ toCome = 1 ∨ owed = 0 ∧ toCome = 0 ∧ r.IsCounted principal s.id := by
  cases h with
  | waiting hother _ => simp [hrest, limitedSteps] at hother
  | admitted hother _ => simp [hrest] at hother
  | changed _ _ => exact Or.inl ⟨rfl, rfl⟩
  | settled _ hs hcounted =>
      rw [hslot] at hs
      cases hs
      exact Or.inr ⟨rfl, rfl, hcounted⟩
  | finished hother => simp [hrest] at hother

/-- A step adds no live session that was not to come; and what it adds was owed, unless
the step is a check that leaves room for it. -/
theorem advance (h : Standing maximum strict config migrate a r principal owed toCome)
    (hadvance : Advance maximum strict config migrate a r b left) (hmaximum : 1 ≤ maximum)
    (hprincipal : a.identity.principal = principal) (hids : r.IssuesNewIds) :
    ∃ owed' toCome', Standing maximum strict config migrate b left principal owed' toCome' ∧
      toCome' ≤ toCome ∧
      left.liveCount principal + toCome' ≤ r.liveCount principal + toCome ∧
      (left.liveCount principal + owed' ≤ r.liveCount principal + owed ∨
        a.rest.length = 3 ∧ left.liveCount principal + owed' ≤ maximum.toNat) := by
  cases hadvance with
  | finished hrest =>
      exact ⟨owed, toCome, h, Nat.le_refl _, Nat.le_refl _, Or.inl (Nat.le_refl _)⟩
  | @refused room e calls hrest hroom =>
      have hcount : (room.withCalls calls).liveCount principal ≤ r.liveCount principal :=
        (trimmed_of_limited hroom).liveCount_le principal
      exact ⟨0, 0, .finished rfl, Nat.zero_le _, by omega, Or.inl (by omega)⟩
  | @admitted room calls hrest hroom =>
      obtain ⟨rfl, rfl, hunlisted⟩ := h.of_waiting hrest
      have htrimmed := trimmed_of_limited hroom
      have hcount : (room.withCalls calls).liveCount principal ≤ r.liveCount principal :=
        htrimmed.liveCount_le principal
      have hless : room.liveCount principal < maximum.toNat :=
        liveCount_lt_of_limited hmaximum hunlisted (hprincipal ▸ hroom)
      refine ⟨1, 1, .admitted rfl ?_, Nat.le_refl _, by omega, Or.inr ⟨by rw [hrest]; rfl, hless⟩⟩
      intro s hs g hg
      exact hunlisted s hs g ((htrimmed.sublist principal).subset hg)
  | aborted hrest hslot =>
      exact ⟨0, 0, .finished rfl, Nat.zero_le _, Nat.add_le_add_left (Nat.zero_le _) _,
        Or.inl (Nat.add_le_add_left (Nat.zero_le _) _)⟩
  | @created session calls hrest hslot hnew =>
      obtain ⟨rfl, rfl, -⟩ := h.of_admitted hrest
      have hcount := liveCount_created_le hids hnew principal
      exact ⟨1, 1, .changed rfl rfl, Nat.le_refl _, Nat.add_le_add_right hcount 1,
        Or.inl (Nat.add_le_add_right hcount 1)⟩
  | @moved current calls hrest hslot =>
      obtain ⟨rfl, rfl, hunlisted⟩ := h.of_admitted hrest
      have hcount := liveCount_moved_le hids true migrate a.identity
        (fun g hg hid => absurd hid (hunlisted current hslot g hg))
      exact ⟨1, 1, .changed rfl rfl, Nat.le_refl _, Nat.add_le_add_right hcount 1,
        Or.inl (Nat.add_le_add_right hcount 1)⟩
  | @registered current hrest hslot =>
      rw [hprincipal]
      rcases h.of_changed hrest hslot with ⟨rfl, rfl⟩ | ⟨rfl, rfl, hcounted⟩
      · have hcount := r.liveCount_register_le current.id principal
        exact ⟨0, 0, .finished rfl, Nat.zero_le _, by omega, Or.inl (by omega)⟩
      · have hcount := Realm.liveCount_register_of_isCounted hcounted
        exact ⟨0, 0, .finished rfl, Nat.zero_le _, by omega, Or.inl (by omega)⟩

end Standing

end Attempt

end WebAuth
