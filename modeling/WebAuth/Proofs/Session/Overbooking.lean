import WebAuth.Proofs.Session.Standing

/-!
# How far two logins at the same time pass a limit

Two logins can both pass their checks before either is registered, so the limit can be
passed by one session, and by no more.

A session that both logins have loaded is moved by each of them.  The second to move it
works on what it has loaded, although that session is gone, and so makes a second session
of it.

Main results:

- Theorem `Contest.Accounted.play`: the account of two logins with sessions of their own.
- Theorem `Contest.Sharing.play`: the same for two logins that have loaded one session.
- Theorem `Contest.limit_play`: how far two logins pass a limit, and when they keep it.
-/

namespace WebAuth

open LoginStrategy

/-! ## Two logins with sessions of their own -/

/-- What both logins amount to. -/
def Side.total (amount : Side → Nat) : Nat := amount .one + amount .two

theorem Side.total_eq (amount : Side → Nat) (turn : Side) :
    total amount = amount turn + amount turn.other := by
  cases turn with
  | one => rfl
  | two => exact Nat.add_comm _ _

/-- One side's amount can change alone. -/
theorem Side.exists_change (amount : Side → Nat) (turn : Side) (new : Nat) :
    ∃ changed : Side → Nat, changed turn = new ∧ changed turn.other = amount turn.other :=
  ⟨fun side => if side = turn then new else amount side, if_pos rfl, if_neg turn.other_ne⟩

namespace Contest

/-- A login makes its check while the other has passed its own and has so many steps left,
or more. -/
def ChecksAmid (c : Contest) (least : Nat) (turn : Side) : Prop :=
  (c.attempt turn).rest.length = 3 ∧ least ≤ (c.attempt turn.other).rest.length ∧
    (c.attempt turn.other).rest.length ≤ 2

/-- At some turn a login does so. -/
def Overlaps (c : Contest) (least : Nat) (turns : List Side) : Prop :=
  ∃ earlier turn later, turns = earlier ++ turn :: later ∧
    (c.play earlier).ChecksAmid least turn

variable {maximum : Int} {strict : Bool} {config : SessionConfig} {migrate : Bool}
  {c : Contest} {principal : String} {owed toCome : Side → Nat} {turn : Side}
  {turns : List Side} {least : Nat}

theorem ChecksAmid.overlaps (h : c.ChecksAmid least turn) :
    c.Overlaps least (turn :: turns) :=
  ⟨[], turn, turns, rfl, h⟩

theorem Overlaps.of_step (h : (c.step turn).Overlaps least turns) :
    c.Overlaps least (turn :: turns) := by
  obtain ⟨earlier, later, rest, rfl, hchecks⟩ := h
  exact ⟨turn :: earlier, later, rest, rfl, hchecks⟩

variable (maximum strict config migrate principal) in
/-- The account of two limited logins of a principal that hold no session in common. -/
structure Accounted (owed toCome : Side → Nat) (c : Contest) : Prop where
  limited : c.IsLimited maximum strict config migrate
  newIds : c.realm.IssuesNewIds
  principal_eq : ∀ side, (c.attempt side).identity.principal = principal
  spent : ∀ side s, (c.attempt side).slot = some s → c.realm.sessionIds.Avoids s.id
  apart : ∀ side s t, (c.attempt side).slot = some s → (c.attempt side.other).slot = some t →
    s.id ≠ t.id
  standing : ∀ side, (c.attempt side).Standing maximum strict config migrate c.realm principal
    (owed side) (toCome side)

namespace Accounted

/-- A step changes the account of its login only. -/
theorem step (h : c.Accounted maximum strict config migrate principal owed toCome)
    (hmaximum : 1 ≤ maximum) (turn : Side) :
    ∃ owed' toCome',
      (c.step turn).Accounted maximum strict config migrate principal owed' toCome' ∧
      owed' turn.other = owed turn.other ∧ toCome' turn.other = toCome turn.other ∧
      toCome' turn ≤ toCome turn ∧
      (c.step turn).realm.liveCount principal + toCome' turn ≤
        c.realm.liveCount principal + toCome turn ∧
      ((c.step turn).realm.liveCount principal + owed' turn ≤
          c.realm.liveCount principal + owed turn ∨
        (c.attempt turn).rest.length = 3 ∧
          (c.step turn).realm.liveCount principal + owed' turn ≤ maximum.toNat) := by
  have hadvance := h.limited.advance turn
  obtain ⟨owing, coming, hstanding, hcoming, hadded, howed⟩ :=
    (h.standing turn).advance hadvance hmaximum (h.principal_eq turn) h.newIds
  have hspent {s : Session} (hs : ((c.step turn).attempt turn).slot = some s) :
      (c.step turn).realm.sessionIds.Avoids s.id :=
    hadvance.avoids_slot h.newIds.fresh (h.spent turn) hs
  have hapart {s t : Session} (hs : ((c.step turn).attempt turn).slot = some s)
      (ht : (c.attempt turn.other).slot = some t) : s.id ≠ t.id := by
    rcases hadvance.slot_cases with ⟨hsame, -⟩ | ⟨-, new, hnew, hid⟩
    · exact h.apart turn s t (hsame ▸ hs) ht
    · rw [hs] at hnew
      cases hnew
      rw [hid]
      exact (h.spent turn.other t ht).ne_next.symm
  obtain ⟨owed', howedTurn, howedOther⟩ := Side.exists_change owed turn owing
  obtain ⟨toCome', hcomeTurn, hcomeOther⟩ := Side.exists_change toCome turn coming
  rw [← hcomeTurn] at hcoming hadded
  rw [← howedTurn] at howed
  refine ⟨owed', toCome', ?_, howedOther, hcomeOther, hcoming, hadded, howed⟩
  refine ⟨h.limited.step turn, hadvance.issuesNewIds h.newIds (h.spent turn), ?_, ?_, ?_, ?_⟩
  · intro side
    rw [h.limited.identity_step turn side]
    exact h.principal_eq side
  · intro side s hs
    rcases side.eq_or_eq_other turn with rfl | rfl
    · exact hspent hs
    · rw [attempt_step_other] at hs
      exact hadvance.avoids (h.spent turn.other s hs)
  · intro side s t hs ht
    rcases side.eq_or_eq_other turn with rfl | rfl
    · rw [attempt_step_other] at ht
      exact hapart hs ht
    · rw [attempt_step_other] at hs
      rw [Side.other_other] at ht
      exact (hapart ht hs).symm
  · intro side
    rcases side.eq_or_eq_other turn with rfl | rfl
    · rw [howedTurn, hcomeTurn]
      exact hstanding
    · rw [howedOther, hcomeOther, attempt_step_other]
      exact (h.standing turn.other).of_other hadvance (h.spent turn.other)
        (h.apart turn)

/-- Two logins pass a bound on what is live and owed only if one makes its check while the
other owes a session that the bound has no place for; and they add no more sessions than
are to come. -/
theorem play (h : c.Accounted maximum strict config migrate principal owed toCome)
    (hmaximum : 1 ≤ maximum) (turns : List Side) {bound : Nat} (hbound : maximum.toNat ≤ bound)
    (hcount : c.realm.liveCount principal + Side.total owed ≤ bound)
    (hsafe : maximum.toNat + 1 ≤ bound ∨ (∃ side, toCome side = 0) ∨ ¬c.Overlaps 1 turns) :
    (c.play turns).realm.liveCount principal ≤ bound ∧
      (c.play turns).realm.liveCount principal ≤
        c.realm.liveCount principal + Side.total toCome := by
  induction turns generalizing c owed toCome with
  | nil => exact ⟨Nat.le_trans (Nat.le_add_right _ _) hcount, Nat.le_add_right _ _⟩
  | cons turn rest ih =>
      obtain ⟨owed', toCome', haccounted, howedOther, hcomeOther, hcoming, hadded, howed⟩ :=
        h.step hmaximum turn
      rw [Side.total_eq owed turn] at hcount
      have hnext : (c.step turn).realm.liveCount principal + Side.total owed' ≤ bound := by
        rw [Side.total_eq owed' turn, howedOther]
        rcases howed with hpaid | ⟨hwaiting, hroom⟩
        · omega
        · -- What the other owes at a check has to find its place above the limit.
          have hother : maximum.toNat + owed turn.other ≤ bound := by
            have hle := (h.standing turn.other).owed_le_toCome
            rcases hsafe with habove | ⟨side, hnone⟩ | hapart
            · have hone := (h.standing turn.other).toCome_le_one
              omega
            · rcases side.eq_or_eq_other turn with rfl | rfl
              · have hcome := (h.standing side).toCome_eq_one hwaiting
                omega
              · omega
            · have hzero := (h.standing turn.other).owed_eq_zero
                (fun hbetween => hapart (ChecksAmid.overlaps ⟨hwaiting, hbetween⟩))
              omega
          omega
      have hstillSafe : maximum.toNat + 1 ≤ bound ∨ (∃ side, toCome' side = 0) ∨
          ¬(c.step turn).Overlaps 1 rest := by
        rcases hsafe with habove | ⟨side, hnone⟩ | hapart
        · exact Or.inl habove
        · refine Or.inr (Or.inl ⟨side, ?_⟩)
          rcases side.eq_or_eq_other turn with rfl | rfl
          · omega
          · rw [hcomeOther]
            exact hnone
        · exact Or.inr (Or.inr (fun hoverlaps => hapart hoverlaps.of_step))
      obtain ⟨hwithin, hfew⟩ := ih haccounted hnext hstillSafe
      refine ⟨hwithin, Nat.le_trans hfew ?_⟩
      rw [Side.total_eq toCome' turn, Side.total_eq toCome turn, hcomeOther]
      omega

end Accounted

/-! ## Two logins that have loaded one session -/

variable (maximum strict config migrate principal) in
/-- Both logins of a principal have loaded the same listed live session, and neither has
changed it. -/
structure Sharing (s : Session) (c : Contest) : Prop where
  limited : c.IsLimited maximum strict config migrate
  newIds : c.realm.IssuesNewIds
  principal_eq : ∀ side, (c.attempt side).identity.principal = principal
  slot : ∀ side, (c.attempt side).slot = some s
  unchanged : ∀ side, 2 ≤ (c.attempt side).rest.length
  live : c.realm.store.live? c.realm.clock s.id = some s
  listed : ∃ g ∈ c.realm.registry.sessionsFor principal, g.sessionId = s.id
  within : c.realm.liveCount principal ≤ maximum.toNat

namespace Sharing

variable {s : Session}

/-- The id of the shared session is not handed out any more. -/
theorem avoids (h : c.Sharing maximum strict config migrate principal s) :
    c.realm.sessionIds.Avoids s.id := by
  obtain ⟨g, hg, hid⟩ := h.listed
  exact hid ▸ h.newIds.registered hg

/-- A login that has the session shared has passed its check or not. -/
theorem rest_cases (h : c.Sharing maximum strict config migrate principal s) (side : Side) :
    (c.attempt side).rest = limitedSteps maximum strict config migrate ∨
      (c.attempt side).rest = [.changeId config true migrate, .register] := by
  have hlong := h.unchanged side
  rcases List.suffix_cons_iff.mp (h.limited.attempts side).1 with hrest | hsuffix
  · exact Or.inl hrest
  rcases List.suffix_cons_iff.mp hsuffix with hrest | hsuffix
  · exact Or.inr hrest
  · have hshort := hsuffix.length_le
    simp at hshort
    omega

/-- Neither login comes to its end without changing the session. -/
theorem not_isFinished (h : c.Sharing maximum strict config migrate principal s) :
    ¬c.IsFinished := by
  intro hfinished
  have hlong := h.unchanged .one
  rw [hfinished .one] at hlong
  cases hlong

/-- A check lets the login pass and ends no session. -/
theorem step_of_waiting (h : c.Sharing maximum strict config migrate principal s)
    (hmaximum : 1 ≤ maximum) (hwaiting : (c.attempt turn).rest.length = 3) :
    (c.step turn).Sharing maximum strict config migrate principal s ∧
      (c.step turn).realm.liveCount principal ≤ c.realm.liveCount principal := by
  have hrest : (c.attempt turn).rest = limitedSteps maximum strict config migrate := by
    rcases h.rest_cases turn with hrest | hrest
    · exact hrest
    · simp [hrest] at hwaiting
  have hadvance := h.limited.advance turn
  have hpasses := limited_of_listed hmaximum strict h.live h.listed h.within
  obtain ⟨calls, hattempt, hrealm⟩ : ∃ calls,
      (c.step turn).attempt turn =
        { c.attempt turn with rest := [.changeId config true migrate, .register] } ∧
      (c.step turn).realm = (c.realm.swept principal).withCalls calls := by
    generalize (c.step turn).attempt turn = b at hadvance
    generalize (c.step turn).realm = left at hadvance
    cases hadvance with
    | refused calls _ hroom =>
        rw [h.slot turn, h.principal_eq turn, hpasses] at hroom
        cases hroom
    | admitted calls _ hroom =>
        rw [h.slot turn, h.principal_eq turn, hpasses] at hroom
        cases hroom
        exact ⟨calls, rfl, rfl⟩
    | finished hother => simp [hrest, limitedSteps] at hother
    | aborted hother _ => simp [hrest, limitedSteps] at hother
    | created _ hother _ _ => simp [hrest, limitedSteps] at hother
    | moved _ hother _ => simp [hrest, limitedSteps] at hother
    | registered hother _ => simp [hrest, limitedSteps] at hother
  have htrimmed : Realm.Trimmed c.realm (c.realm.swept principal) := Realm.trimmed_dropDead _ _
  have hcount : (c.step turn).realm.liveCount principal ≤ c.realm.liveCount principal := by
    rw [hrealm]
    exact htrimmed.liveCount_le principal
  obtain ⟨g, hg, hid⟩ := h.listed
  refine ⟨⟨h.limited.step turn, ?_, ?_, ?_, ?_, ?_, ?_, Nat.le_trans hcount h.within⟩, hcount⟩
  · refine hadvance.issuesNewIds h.newIds (fun t ht => ?_)
    rw [h.slot turn] at ht
    cases ht
    exact h.avoids
  · intro side
    rw [h.limited.identity_step turn side]
    exact h.principal_eq side
  · intro side
    rcases side.eq_or_eq_other turn with rfl | rfl
    · rw [hattempt]
      exact h.slot side
    · rw [attempt_step_other]
      exact h.slot turn.other
  · intro side
    rcases side.eq_or_eq_other turn with rfl | rfl
    · rw [hattempt]
      exact Nat.le_refl 2
    · rw [attempt_step_other]
      exact h.unchanged turn.other
  · rw [hrealm]
    exact h.live
  · refine ⟨g, ?_, hid⟩
    rw [hrealm]
    exact htrimmed.mem_of_hasLive hg (Realm.hasLive_iff.mpr ⟨s, hid ▸ h.live⟩)

/-- The first to change the session adds none; the other is left with a session that is
gone, and owes a place if it has passed its check. -/
theorem step_of_admitted (h : c.Sharing maximum strict config migrate principal s)
    (hadmitted : (c.attempt turn).rest.length = 2) :
    ∃ owed toCome : Side → Nat,
      (c.step turn).Accounted maximum strict config migrate principal owed toCome ∧
      owed turn = 0 ∧ toCome turn = 0 ∧ toCome turn.other = 1 ∧
      ((c.attempt turn.other).rest.length = 3 → owed turn.other = 0) ∧
      (c.step turn).realm.liveCount principal ≤ c.realm.liveCount principal ∧
      (c.step turn).realm.store.find? s.id = none := by
  have hrest : (c.attempt turn).rest = [.changeId config true migrate, .register] := by
    rcases h.rest_cases turn with hrest | hrest
    · simp [hrest, limitedSteps] at hadmitted
    · exact hrest
  have hadvance := h.limited.advance turn
  obtain ⟨calls, hattempt, hrealm⟩ : ∃ calls,
      (c.step turn).attempt turn =
        { c.attempt turn with
          slot := some (rebound s c.realm.sessionIds.next (c.attempt turn).identity migrate)
          rest := [.register] } ∧
      (c.step turn).realm =
        (moved c.realm true migrate (c.attempt turn).identity s).withCalls calls := by
    generalize (c.step turn).attempt turn = b at hadvance
    generalize (c.step turn).realm = left at hadvance
    cases hadvance with
    | moved calls _ hslot =>
        rw [h.slot turn] at hslot
        cases hslot
        exact ⟨calls, rfl, rfl⟩
    | created _ _ hslot _ =>
        rw [h.slot turn] at hslot
        cases hslot
    | aborted _ hslot =>
        rw [h.slot turn] at hslot
        cases hslot
    | finished hother => simp [hrest] at hother
    | refused _ hother _ => simp [hrest, limitedSteps] at hother
    | admitted _ hother _ => simp [hrest, limitedSteps] at hother
    | registered hother _ => simp [hrest] at hother
  have hspent : ∀ t, (c.attempt turn).slot = some t → c.realm.sessionIds.Avoids t.id := by
    intro t ht
    rw [h.slot turn] at ht
    cases ht
    exact h.avoids
  have hcount : (c.step turn).realm.liveCount principal ≤ c.realm.liveCount principal := by
    rw [hrealm]
    exact liveCount_moved_le h.newIds true _ _
      (fun g hg hid => Realm.hasLive_iff.mpr ⟨s, hid ▸ h.live⟩)
  obtain ⟨g, hg, hid⟩ := h.listed
  have hcounted : (c.step turn).realm.IsCounted principal c.realm.sessionIds.next := by
    refine Or.inl ⟨g.rename s.id c.realm.sessionIds.next, ?_, by simp [hid]⟩
    rw [hrealm]
    exact Registry.mem_sessionsFor_rename.mpr ⟨g, hg, rfl⟩
  have hunlisted : (c.step turn).realm.IsUnlisted principal s.id := by
    intro listed hlisted
    rw [hrealm] at hlisted
    obtain ⟨before, -, rfl⟩ := Registry.mem_sessionsFor_rename.mp hlisted
    rw [Registration.sessionId_rename]
    split
    · exact h.avoids.ne_next.symm
    · assumption
  have hgone : (c.step turn).realm.store.find? s.id = none := by
    rw [hrealm]
    change (moved c.realm true migrate (c.attempt turn).identity s).store.find? s.id = none
    rw [find?_moved, if_pos rfl]
  have hleft : ∀ t, (c.attempt turn.other).slot = some t → t = s := by
    intro t ht
    rw [h.slot turn.other] at ht
    exact (Option.some.inj ht).symm
  obtain ⟨owing, hother, hzero⟩ : ∃ owing,
      (c.attempt turn.other).Standing maximum strict config migrate (c.step turn).realm
        principal owing 1 ∧ ((c.attempt turn.other).rest.length = 3 → owing = 0) := by
    rcases h.rest_cases turn.other with hwaiting | hpassed
    · exact ⟨0, .waiting hwaiting (fun t ht => hleft t ht ▸ hunlisted), fun _ => rfl⟩
    · refine ⟨1, .admitted hpassed (fun t ht => hleft t ht ▸ hunlisted), ?_⟩
      intro hlength
      simp [hpassed] at hlength
  have hslot {t : Session} (ht : ((c.step turn).attempt turn).slot = some t) :
      t.id = c.realm.sessionIds.next := by
    rw [hattempt] at ht
    cases ht
    rfl
  obtain ⟨owed, howedTurn, howedOther⟩ := Side.exists_change (fun _ => owing) turn 0
  obtain ⟨toCome, hcomeTurn, hcomeOther⟩ := Side.exists_change (fun _ => 1) turn 0
  refine ⟨owed, toCome, ?_, howedTurn, hcomeTurn, hcomeOther,
    fun hwaiting => howedOther.trans (hzero hwaiting), hcount, hgone⟩
  refine ⟨h.limited.step turn, hadvance.issuesNewIds h.newIds hspent, ?_, ?_, ?_, ?_⟩
  · intro side
    rw [h.limited.identity_step turn side]
    exact h.principal_eq side
  · intro side t ht
    rcases side.eq_or_eq_other turn with rfl | rfl
    · exact hadvance.avoids_slot h.newIds.fresh hspent ht
    · rw [attempt_step_other] at ht
      exact hleft t ht ▸ hadvance.avoids h.avoids
  · intro side t u ht hu
    rcases side.eq_or_eq_other turn with rfl | rfl
    · rw [attempt_step_other] at hu
      rw [hslot ht, hleft u hu]
      exact h.avoids.ne_next.symm
    · rw [attempt_step_other] at ht
      rw [Side.other_other] at hu
      rw [hslot hu, hleft t ht]
      exact h.avoids.ne_next
  · intro side
    rcases side.eq_or_eq_other turn with rfl | rfl
    · rw [howedTurn, hcomeTurn, hattempt]
      exact .settled rfl rfl hcounted
    · rw [howedOther, hcomeOther, attempt_step_other]
      exact hother

end Sharing

/-- What is gone stays gone: no login stores it again. -/
theorem find?_play_eq_none (h : c.IsLimited maximum strict config migrate) {id : String}
    (hid : c.realm.sessionIds.Avoids id) (hgone : c.realm.store.find? id = none)
    (turns : List Side) : (c.play turns).realm.store.find? id = none := by
  let P (d : Contest) : Prop := d.IsLimited maximum strict config migrate ∧
    d.realm.sessionIds.Avoids id ∧ d.realm.store.find? id = none
  refine (play_induction (P := P) ⟨h, hid, hgone⟩ ?_ turns).2.2
  rintro d turn ⟨hlimited, hspent, hnone⟩
  have hadvance := hlimited.advance turn
  refine ⟨hlimited.step turn, hadvance.avoids hspent, ?_⟩
  cases hfound : (d.step turn).realm.store.find? id with
  | none => rfl
  | some s =>
      rcases hadvance.stored hfound with hbefore | ⟨hnext, -⟩
      · rw [hnone] at hbefore
        cases hbefore
      · exact absurd hnext hspent.ne_next

namespace Sharing

variable {s : Session}

/-- Two logins that have loaded one session pass a bound only if one makes its check while
the other is about to change the session; they add one session at most; and once both have
come to their end the id that they have loaded is gone. -/
theorem play (h : c.Sharing maximum strict config migrate principal s)
    (hmaximum : 1 ≤ maximum) (turns : List Side) {bound : Nat} (hbound : maximum.toNat ≤ bound)
    (hsafe : maximum.toNat + 1 ≤ bound ∨
      (∃ side, (c.attempt side).rest.length = 3) ∧ ¬c.Overlaps 2 turns) :
    (c.play turns).realm.liveCount principal ≤ bound ∧
      (c.play turns).realm.liveCount principal ≤ c.realm.liveCount principal + 1 ∧
      ((c.play turns).IsFinished → (c.play turns).realm.store.find? s.id = none) := by
  induction turns generalizing c with
  | nil =>
      refine ⟨Nat.le_trans h.within hbound, Nat.le_succ _, ?_⟩
      intro hfinished
      exact absurd hfinished h.not_isFinished
  | cons turn rest ih =>
      have hother : (c.attempt turn.other).rest.length = 3 ∨
          (c.attempt turn.other).rest.length = 2 := by
        rcases h.rest_cases turn.other with hrest | hrest
        · exact Or.inl (by rw [hrest]; rfl)
        · exact Or.inr (by rw [hrest]; rfl)
      rcases h.rest_cases turn with hrest | hrest
      · have hwaiting : (c.attempt turn).rest.length = 3 := by
          rw [hrest]
          rfl
        obtain ⟨hsharing, hcount⟩ := h.step_of_waiting hmaximum hwaiting
        have hstillSafe : maximum.toNat + 1 ≤ bound ∨
            (∃ side, ((c.step turn).attempt side).rest.length = 3) ∧
              ¬(c.step turn).Overlaps 2 rest := by
          refine hsafe.imp_right (fun ⟨_, hapart⟩ => ⟨⟨turn.other, ?_⟩, ?_⟩)
          · rw [attempt_step_other]
            refine hother.resolve_right (fun hpassed => hapart (ChecksAmid.overlaps ?_))
            exact ⟨hwaiting, by omega, by omega⟩
          · exact fun hoverlaps => hapart hoverlaps.of_step
        obtain ⟨hwithin, hfew, hgone⟩ := ih hsharing hstillSafe
        exact ⟨hwithin, by rw [play_cons]; omega, hgone⟩
      · have hpassed : (c.attempt turn).rest.length = 2 := by
          rw [hrest]
          rfl
        obtain ⟨owed, toCome, haccounted, howed, hcome, hcomeOther, hzero, hcount, hgone⟩ :=
          h.step_of_admitted hpassed
        have hwithin := h.within
        have howing : maximum.toNat + owed turn.other ≤ bound := by
          rcases hsafe with habove | ⟨⟨side, hwaiting⟩, -⟩
          · have hone := (haccounted.standing turn.other).toCome_le_one
            have hle := (haccounted.standing turn.other).owed_le_toCome
            omega
          · rcases side.eq_or_eq_other turn with rfl | rfl
            · omega
            · have hnone := hzero hwaiting
              omega
        obtain ⟨hkept, hfew⟩ := haccounted.play hmaximum rest hbound
          (by rw [Side.total_eq owed turn]; omega) (Or.inr (Or.inl ⟨turn, hcome⟩))
        rw [Side.total_eq toCome turn] at hfew
        refine ⟨hkept, by rw [play_cons]; omega, fun _ => ?_⟩
        exact find?_play_eq_none (h.limited.step turn)
          ((h.limited.advance turn).avoids h.avoids) hgone rest

end Sharing

/-! ## Two logins of a principal -/

variable (maximum strict config migrate principal) in
/-- Two limited logins of a principal are about to begin, on a realm in working order that
keeps the limit and hands out new ids. -/
structure IsReady (c : Contest) : Prop where
  sound : c.realm.IsSound
  newIds : c.realm.IssuesNewIds
  rest : ∀ side, (c.attempt side).rest = limitedSteps maximum strict config migrate
  principal_eq : ∀ side, (c.attempt side).identity.principal = principal
  within : c.realm.liveCount principal ≤ maximum

/-- Both logins come without a session. -/
def ComesEmpty (c : Contest) : Prop := ∀ side, (c.attempt side).slot = none

/-- Both logins come with the same session, which is live and listed under the
principal. -/
structure Shares (principal : String) (s : Session) (c : Contest) : Prop where
  slot : ∀ side, (c.attempt side).slot = some s
  live : c.realm.store.live? c.realm.clock s.id = some s
  listed : ∃ g ∈ c.realm.registry.sessionsFor principal, g.sessionId = s.id

namespace IsReady

theorem isLimited (h : c.IsReady maximum strict config migrate principal) :
    c.IsLimited maximum strict config migrate where
  sound := h.sound
  attempts side := by
    refine ⟨h.rest side ▸ List.suffix_rfl, fun hregister => ?_⟩
    rw [h.rest side] at hregister
    simp [limitedSteps] at hregister

/-- Logins without sessions owe nothing before they begin, and may add a session each. -/
theorem accounted (h : c.IsReady maximum strict config migrate principal)
    (hempty : c.ComesEmpty) :
    c.Accounted maximum strict config migrate principal (fun _ => 0) (fun _ => 1) := by
  have hnone {side : Side} {s : Session} (hs : (c.attempt side).slot = some s) : False := by
    rw [hempty side] at hs
    cases hs
  exact
    { limited := h.isLimited
      newIds := h.newIds
      principal_eq := h.principal_eq
      spent := fun _ _ hs => (hnone hs).elim
      apart := fun _ _ _ hs _ => (hnone hs).elim
      standing := fun side => .waiting (h.rest side) (fun _ hs => (hnone hs).elim) }

theorem sharing (h : c.IsReady maximum strict config migrate principal) {s : Session}
    (hshares : c.Shares principal s) :
    c.Sharing maximum strict config migrate principal s where
  limited := h.isLimited
  newIds := h.newIds
  principal_eq := h.principal_eq
  slot := hshares.slot
  unchanged side := by
    rw [h.rest side]
    exact Nat.le_succ 2
  live := hshares.live
  listed := hshares.listed
  within := by
    have hwithin := h.within
    omega

end IsReady

/-- Two logins of a principal, in whatever order they take their steps, pass the limit by
one session at most.  They keep it if neither makes its check while the other has passed
its own and has still to register its new session, or to change the session that both have
loaded.  Each leaves at most one session behind, and the id that both have loaded is gone
once they have come to their end. -/
theorem limit_play (hmaximum : 1 ≤ maximum)
    (h : c.IsReady maximum strict config migrate principal) (turns : List Side) :
    let d := c.play turns
    (c.ComesEmpty →
      d.realm.liveCount principal ≤ maximum + 1 ∧
      d.realm.liveCount principal ≤ c.realm.liveCount principal + 2 ∧
      (¬c.Overlaps 1 turns → d.realm.liveCount principal ≤ maximum)) ∧
    (∀ s, c.Shares principal s →
      d.realm.liveCount principal ≤ maximum + 1 ∧
      d.realm.liveCount principal ≤ c.realm.liveCount principal + 1 ∧
      (¬c.Overlaps 2 turns → d.realm.liveCount principal ≤ maximum) ∧
      (d.IsFinished → d.realm.store.find? s.id = none)) ∧
    ∀ id s, d.realm.store.find? id = some s → c.realm.store.find? id = some s ∨
      ∃ side, (d.attempt side).slot = some s ∧ (d.attempt side).rest.length ≤ 1 := by
  dsimp only
  have hwithin := h.within
  refine ⟨?_, ?_, fun id s hs => stored_play h.isLimited turns hs⟩
  · intro hempty
    have haccounted := h.accounted hempty
    obtain ⟨habove, hfew⟩ := haccounted.play hmaximum turns (Nat.le_succ _)
      (by simp only [Side.total]; omega) (Or.inl (Nat.le_refl _))
    refine ⟨by omega, hfew, fun hapart => ?_⟩
    obtain ⟨hkept, -⟩ := haccounted.play hmaximum turns (Nat.le_refl _)
      (by simp only [Side.total]; omega) (Or.inr (Or.inr hapart))
    omega
  · intro s hshares
    have hsharing := h.sharing hshares
    obtain ⟨habove, hfew, hgone⟩ := hsharing.play hmaximum turns (Nat.le_succ _)
      (Or.inl (Nat.le_refl _))
    refine ⟨by omega, hfew, fun hapart => ?_, hgone⟩
    have hwaiting : (c.attempt .one).rest.length = 3 := by
      rw [h.rest]
      rfl
    obtain ⟨hkept, -, -⟩ := hsharing.play hmaximum turns (Nat.le_refl _)
      (Or.inr ⟨⟨.one, hwaiting⟩, hapart⟩)
    omega

/-- Two logins of one person under a limit of one session. -/
def race (slot : Option Session) (r : Realm) : Contest :=
  ⟨r, fun _ => ⟨.ofSubject "idp" "alice", slot, limitedSteps 1 false .default true⟩⟩

/-- Two logins without sessions where nobody has logged in before. -/
def emptyRace : Contest := race none (Realm.initial ⟨0, 0⟩ .strokes)

/-- The session of a login before. -/
def loadedSession : Session := ⟨"1", .ofSubject "idp" "alice", [], ⟨0, 0⟩, ⟨86400, 0⟩⟩

/-- Two logins that have both loaded that session. -/
def sharedRace : Contest :=
  race (some loadedSession) ((Realm.initial ⟨0, 0⟩ .strokes).play
    (limitedLogin 1 false .default true) [.login (.ofSubject "idp" "alice") none])

/-- The logins take their steps in turns. -/
def lockstep : List Side := [.one, .two, .one, .two, .one, .two]

theorem emptyRace_isReady : emptyRace.IsReady 1 false .default true "idp:alice" where
  sound := Realm.isSound_initial _ _
  newIds := (Realm.wellKept_initial ⟨0, 0⟩ Supply.isFresh_strokes).issuesNewIds
  rest _ := rfl
  principal_eq _ := rfl
  within := by decide

theorem sharedRace_wellKept : sharedRace.realm.WellKept := by
  change (Realm.step (limitedLogin 1 false .default true) (Realm.initial ⟨0, 0⟩ .strokes)
    (.login (.ofSubject "idp" "alice") none)).WellKept
  exact (Realm.wellKept_initial ⟨0, 0⟩ Supply.isFresh_strokes).step _

theorem sharedRace_isReady : sharedRace.IsReady 1 false .default true "idp:alice" where
  sound := sharedRace_wellKept.sound
  newIds := sharedRace_wellKept.issuesNewIds
  rest _ := rfl
  principal_eq _ := rfl
  within := by decide

theorem sharedRace_shares : sharedRace.Shares "idp:alice" loadedSession where
  slot _ := rfl
  live := by decide
  listed := by decide

/-- How far the logins that take their steps in turns pass a limit of one session. -/
theorem limit_play_lockstep :
    (1 : Int) ≤ 1 ∧
      ((emptyRace.play lockstep).realm.liveCount "idp:alice" ≤ (1 : Int) + 1 ∧
        (emptyRace.play lockstep).realm.liveCount "idp:alice" ≤
          emptyRace.realm.liveCount "idp:alice" + 2) ∧
      (sharedRace.play lockstep).realm.liveCount "idp:alice" ≤ (1 : Int) + 1 ∧
      (sharedRace.play lockstep).realm.liveCount "idp:alice" ≤
        sharedRace.realm.liveCount "idp:alice" + 1 := by
  have hone : (1 : Int) ≤ 1 := Int.le_refl 1
  obtain ⟨habove, hfew, -⟩ :=
    (limit_play hone emptyRace_isReady lockstep).1 (fun _ => rfl)
  obtain ⟨habove', hfew', -⟩ :=
    (limit_play hone sharedRace_isReady lockstep).2.1 loadedSession sharedRace_shares
  exact ⟨hone, ⟨habove, hfew⟩, habove', hfew'⟩

/-- Two logins at the same time leave two live sessions under a limit of one, and make two
live sessions of the one that both have loaded. -/
theorem not_limit_lockstep :
    (emptyRace.IsReady 1 false .default true "idp:alice" ∧ emptyRace.ComesEmpty ∧
        (emptyRace.play lockstep).IsFinished ∧
        ¬(emptyRace.play lockstep).realm.liveCount "idp:alice" ≤ (1 : Int)) ∧
      sharedRace.IsReady 1 false .default true "idp:alice" ∧
        sharedRace.Shares "idp:alice" loadedSession ∧
        (sharedRace.play lockstep).IsFinished ∧
        ¬(sharedRace.play lockstep).realm.liveCount "idp:alice" ≤ (1 : Int) ∧
        (sharedRace.play lockstep).realm.store.live? ⟨0, 0⟩ "11" ≠ none ∧
        (sharedRace.play lockstep).realm.store.live? ⟨0, 0⟩ "111" ≠ none := by
  refine ⟨⟨emptyRace_isReady, fun _ => rfl, ?_, by decide⟩, sharedRace_isReady,
    sharedRace_shares, ?_, by decide, by decide, by decide⟩
  · intro side
    cases side with
    | one => rfl
    | two => rfl
  · intro side
    cases side with
    | one => rfl
    | two => rfl

end Contest

end WebAuth
