import WebAuth.Proofs.Session.Runs

/-!
# Logins at the same time

Two logins take their steps in turns on one realm.  A step is done as a whole, but between
two steps of one login the other may take any number of its own.  A login whose step is
refused or breaks off takes no more steps.

Nothing reserves a place for a login between its check of the limit and its registration,
and a session that both logins have loaded is worked on by both of them.

Main results:

- Theorem `Contest.play_replicate`: a login that is not interrupted runs as a sequence;
  `Contest.realm_play_of_limited`: so does a limited login.
- Theorem `Attempt.advance_cases`: what a step of a limited login can do.
- Theorem `Contest.stored_play`: each login leaves at most one session.
-/

namespace WebAuth

open LoginStrategy

/-! ## Logins in steps -/

/-- A login under way: who logs in, the request's session and the steps that are left. -/
structure Attempt where
  identity : Identity
  slot : Option Session
  rest : List LoginStrategy

/-- Take the next step, if one is left; after a step without a value none is. -/
def Attempt.advance (a : Attempt) (r : Realm) : Attempt × Realm :=
  match a.rest with
  | [] => (a, r)
  | step :: rest =>
      let (ending, left) := step.run a.identity ⟨a.slot, r⟩
      ({ a with slot := left.slot, rest := if ending.isValue then rest else [] }, left.realm)

/-- One of two logins. -/
inductive Side where
  | one
  | two
deriving DecidableEq, Repr

/-- The other login. -/
def Side.other : Side → Side
  | one => two
  | two => one

theorem Side.eq_or_eq_other (side turn : Side) : side = turn ∨ side = turn.other := by
  cases side <;> cases turn <;> decide

@[simp]
theorem Side.other_ne (turn : Side) : turn.other ≠ turn := by
  cases turn <;> decide

@[simp]
theorem Side.other_other (turn : Side) : turn.other.other = turn := by
  cases turn <;> rfl

/-- Two logins on one realm. -/
structure Contest where
  realm : Realm
  attempt : Side → Attempt

namespace Contest

/-- One of the logins takes its next step. -/
def step (c : Contest) (turn : Side) : Contest where
  realm := ((c.attempt turn).advance c.realm).2
  attempt side := if side = turn then ((c.attempt turn).advance c.realm).1 else c.attempt side

/-- The logins take steps in some order. -/
def play (c : Contest) (turns : List Side) : Contest := turns.foldl step c

/-- Both logins have come to their end. -/
def IsFinished (c : Contest) : Prop := ∀ side, (c.attempt side).rest = []

variable {c : Contest} {turn : Side}

@[simp]
theorem realm_step : (c.step turn).realm = ((c.attempt turn).advance c.realm).2 :=
  rfl

@[simp]
theorem attempt_step_self :
    (c.step turn).attempt turn = ((c.attempt turn).advance c.realm).1 :=
  if_pos rfl

theorem attempt_step_of_ne {side : Side} (h : side ≠ turn) :
    (c.step turn).attempt side = c.attempt side :=
  if_neg h

@[simp]
theorem attempt_step_other : (c.step turn).attempt turn.other = c.attempt turn.other :=
  attempt_step_of_ne turn.other_ne

@[simp]
theorem play_nil (c : Contest) : c.play [] = c :=
  rfl

@[simp]
theorem play_cons (c : Contest) (turn : Side) (rest : List Side) :
    c.play (turn :: rest) = (c.step turn).play rest :=
  rfl

/-- What every step keeps holds throughout. -/
theorem play_induction {P : Contest → Prop} (h : P c)
    (hstep : ∀ c turn, P c → P (c.step turn)) (turns : List Side) : P (c.play turns) := by
  induction turns generalizing c with
  | nil => exact h
  | cons turn rest ih => exact ih (hstep c turn h)

/-- A login that has come to its end does nothing when it is its turn. -/
theorem step_of_finished (h : (c.attempt turn).rest = []) : c.step turn = c := by
  have hadvance : (c.attempt turn).advance c.realm = (c.attempt turn, c.realm) := by
    simp [Attempt.advance, h]
  have hattempt : (c.step turn).attempt = c.attempt := by
    funext side
    by_cases hside : side = turn
    · rw [hside, attempt_step_self, hadvance]
    · exact attempt_step_of_ne hside
  calc
    c.step turn = ⟨(c.step turn).realm, (c.step turn).attempt⟩ := rfl
    _ = c := by rw [hattempt, realm_step, hadvance]

theorem play_replicate_of_finished (h : (c.attempt turn).rest = []) (count : Nat) :
    c.play (List.replicate count turn) = c := by
  induction count with
  | zero => rfl
  | succ count ih => rw [List.replicate_succ, play_cons, step_of_finished h, ih]

/-- A login that takes all its steps without being interrupted runs as a sequence. -/
theorem play_replicate (c : Contest) (turn : Side) :
    let a := c.attempt turn
    let left := (run a.identity (.sequence a.rest) ⟨a.slot, c.realm⟩).2
    let d := c.play (List.replicate a.rest.length turn)
    d.realm = left.realm ∧ (d.attempt turn).slot = left.slot ∧ (d.attempt turn).rest = [] ∧
      d.attempt turn.other = c.attempt turn.other := by
  obtain ⟨steps, hsteps⟩ : ∃ steps, (c.attempt turn).rest = steps := ⟨_, rfl⟩
  simp only [hsteps]
  induction steps generalizing c with
  | nil =>
      rw [run_sequence_nil]
      exact ⟨rfl, rfl, hsteps, rfl⟩
  | cons first rest ih =>
      rw [List.length_cons, List.replicate_succ, play_cons, run_sequence_cons, Run.bind_apply]
      have hadvance : (c.step turn).attempt turn = ((c.attempt turn).advance c.realm).1 :=
        attempt_step_self
      have hrealm : (c.step turn).realm = ((c.attempt turn).advance c.realm).2 := realm_step
      simp only [Attempt.advance, hsteps] at hadvance hrealm
      rcases hrun : run (c.attempt turn).identity first ⟨(c.attempt turn).slot, c.realm⟩ with
        ⟨ending, left⟩
      rw [hrun] at hadvance hrealm
      cases ending with
      | value _ =>
          obtain ⟨hleft, hslot, hrest, hother⟩ := ih (c.step turn) (by rw [hadvance]; rfl)
          rw [hadvance, hrealm] at hleft hslot
          rw [attempt_step_other] at hother
          exact ⟨hleft, hslot, hrest, hother⟩
      | refused e =>
          have hnone : ((c.step turn).attempt turn).rest = [] := by
            rw [hadvance]
            rfl
          rw [play_replicate_of_finished hnone]
          exact ⟨hrealm, by rw [hadvance], hnone, attempt_step_other⟩
      | aborted =>
          have hnone : ((c.step turn).attempt turn).rest = [] := by
            rw [hadvance]
            rfl
          rw [play_replicate_of_finished hnone]
          exact ⟨hrealm, by rw [hadvance], hnone, attempt_step_other⟩

end Contest

/-! ## The steps of a limited login -/

namespace LoginStrategy

/-- The steps of a login that limits the sessions of its principal. -/
def limitedSteps (maximum : Int) (strict : Bool) (config : SessionConfig) (migrate : Bool) :
    List LoginStrategy :=
  [.limit maximum strict, .changeId config true migrate, .register]

end LoginStrategy

namespace Attempt

variable (maximum : Int) (strict : Bool) (config : SessionConfig) (migrate : Bool)

/-- A limited login has some of its last steps left, and to register it has a session. -/
def IsLimited (a : Attempt) : Prop :=
  a.rest <:+ limitedSteps maximum strict config migrate ∧
    (a.rest = [.register] → ∃ s, a.slot = some s)

/-- What a step of a limited login makes of the login and the realm. -/
inductive Advance (a : Attempt) (r : Realm) : Attempt → Realm → Prop where
  /-- No step is left. -/
  | finished (hrest : a.rest = []) : Advance a r a r
  /-- The principal has too many sessions. -/
  | refused {room : Realm} {e : LoginError} (calls : List StoreCall)
      (hrest : a.rest = limitedSteps maximum strict config migrate)
      (hroom : limited maximum strict a.identity.principal a.slot r = (.refused e, room)) :
      Advance a r { a with rest := [] } (room.withCalls calls)
  /-- There is or there was made room. -/
  | admitted {room : Realm} (calls : List StoreCall)
      (hrest : a.rest = limitedSteps maximum strict config migrate)
      (hroom : limited maximum strict a.identity.principal a.slot r = (.value (), room)) :
      Advance a r { a with rest := [.changeId config true migrate, .register] }
        (room.withCalls calls)
  /-- The end of a new session lies outside the calendar. -/
  | aborted (hrest : a.rest = [.changeId config true migrate, .register])
      (hslot : a.slot = none) :
      Advance a r { a with rest := [] } { r with sessionIds := r.sessionIds.advance }
  /-- A new session is stored. -/
  | created {session : Session} (calls : List StoreCall)
      (hrest : a.rest = [.changeId config true migrate, .register]) (hslot : a.slot = none)
      (hnew : newSession? config r a.identity = some session) :
      Advance a r { a with slot := some session, rest := [.register] }
        ((LoginStrategy.created r session).withCalls calls)
  /-- The session in the slot takes a new id. -/
  | moved {current : Session} (calls : List StoreCall)
      (hrest : a.rest = [.changeId config true migrate, .register])
      (hslot : a.slot = some current) :
      Advance a r
        { a with
          slot := some (rebound current r.sessionIds.next a.identity migrate)
          rest := [.register] }
        ((LoginStrategy.moved r true migrate a.identity current).withCalls calls)
  /-- The session in the slot is registered. -/
  | registered {current : Session} (hrest : a.rest = [.register])
      (hslot : a.slot = some current) :
      Advance a r { a with rest := [] } (r.register current.id a.identity.principal)

variable {maximum strict config migrate}

/-- A step of a limited login does one of these things. -/
theorem advance_cases {a : Attempt} {r : Realm} (hsound : r.IsSound)
    (h : a.IsLimited maximum strict config migrate) :
    Advance maximum strict config migrate a r (a.advance r).1 (a.advance r).2 := by
  obtain ⟨identity, slot, rest⟩ := a
  obtain ⟨hsuffix, hslot⟩ := h
  rcases List.suffix_cons_iff.mp hsuffix with rfl | hsuffix
  · obtain ⟨calls, hlimit⟩ := run_limit (s := ⟨slot, r⟩) hsound identity maximum strict
    dsimp only at hlimit
    simp only [advance, hlimit]
    rcases limited_cases maximum strict identity.principal slot r with
      ⟨e, room, hroom⟩ | ⟨room, hroom⟩
    · rw [hroom]
      exact .refused calls rfl hroom
    · rw [hroom]
      exact .admitted calls rfl hroom
  rcases List.suffix_cons_iff.mp hsuffix with rfl | hsuffix
  · cases slot with
    | none =>
        obtain ⟨calls, hnew⟩ := run_changeId_none hsound identity config true migrate
        simp only [advance, hnew]
        cases hsession : newSession? config r identity with
        | none => exact .aborted rfl rfl
        | some session => exact .created calls rfl rfl hsession
    | some current =>
        obtain ⟨calls, hmoved⟩ := run_changeId_some hsound identity current config true migrate
        simp only [advance, hmoved]
        exact .moved calls rfl rfl
  rcases List.suffix_cons_iff.mp hsuffix with rfl | hsuffix
  · obtain ⟨current, rfl⟩ := hslot rfl
    simp only [advance, run_register]
    exact .registered rfl rfl
  · obtain rfl := List.suffix_nil.mp hsuffix
    exact .finished rfl

namespace Advance

variable {a b : Attempt} {r left : Realm}

/-- After a step a limited login is one still. -/
theorem isLimited (h : Advance maximum strict config migrate a r b left)
    (ha : a.IsLimited maximum strict config migrate) :
    b.IsLimited maximum strict config migrate := by
  cases h with
  | finished hrest => exact ha
  | refused calls hrest hroom => exact ⟨List.nil_suffix, nofun⟩
  | admitted calls hrest hroom => exact ⟨List.suffix_cons _ _, nofun⟩
  | aborted hrest hslot => exact ⟨List.nil_suffix, nofun⟩
  | created calls hrest hslot hnew =>
      exact ⟨(List.suffix_cons _ _).trans (List.suffix_cons _ _), fun _ => ⟨_, rfl⟩⟩
  | moved calls hrest hslot =>
      exact ⟨(List.suffix_cons _ _).trans (List.suffix_cons _ _), fun _ => ⟨_, rfl⟩⟩
  | registered hrest hslot => exact ⟨List.nil_suffix, nofun⟩

/-- A step changes neither who logs in nor the working order of the store nor the
clock. -/
theorem frame (h : Advance maximum strict config migrate a r b left) :
    b.identity = a.identity ∧ left.faults = r.faults ∧ left.clock = r.clock := by
  cases h with
  | finished hrest => exact ⟨rfl, rfl, rfl⟩
  | refused calls hrest hroom =>
      have htrimmed := trimmed_of_limited hroom
      exact ⟨rfl, htrimmed.faults_eq, htrimmed.clock_eq⟩
  | admitted calls hrest hroom =>
      have htrimmed := trimmed_of_limited hroom
      exact ⟨rfl, htrimmed.faults_eq, htrimmed.clock_eq⟩
  | aborted hrest hslot => exact ⟨rfl, rfl, rfl⟩
  | created calls hrest hslot hnew => exact ⟨rfl, rfl, rfl⟩
  | moved calls hrest hslot => exact ⟨rfl, rfl, rfl⟩
  | registered hrest hslot => exact ⟨rfl, rfl, rfl⟩

/-- What is stored after a step was stored before, or is the session that the login has
just changed, under the id handed out for it. -/
theorem stored (h : Advance maximum strict config migrate a r b left) {id : String}
    {s : Session} (hs : left.store.find? id = some s) :
    r.store.find? id = some s ∨
      id = r.sessionIds.next ∧ b.slot = some s ∧ b.rest = [.register] := by
  cases h with
  | finished hrest => exact Or.inl hs
  | refused calls hrest hroom => exact Or.inl ((trimmed_of_limited hroom).find?_of_find? hs)
  | admitted calls hrest hroom => exact Or.inl ((trimmed_of_limited hroom).find?_of_find? hs)
  | aborted hrest hslot => exact Or.inl hs
  | @created session calls hrest hslot hnew =>
      change (LoginStrategy.created r session).store.find? id = some s at hs
      rw [find?_created] at hs
      split at hs
      · rename_i hid
        exact Or.inr ⟨hid.trans (id_of_newSession? hnew), hs, rfl⟩
      · exact Or.inl hs
  | @moved current calls hrest hslot =>
      change (LoginStrategy.moved r true migrate a.identity current).store.find? id = some s at hs
      rw [find?_moved] at hs
      split at hs
      · contradiction
      · split at hs
        · rename_i hid
          exact Or.inr ⟨hid, hs, rfl⟩
        · exact Or.inl hs
  | registered hrest hslot => exact Or.inl hs

/-- A step leaves the slot alone, or puts a session into it with the id handed out. -/
theorem slot_cases (h : Advance maximum strict config migrate a r b left) :
    b.slot = a.slot ∧ (left.sessionIds = r.sessionIds ∨
        left.sessionIds = r.sessionIds.advance) ∨
      left.sessionIds = r.sessionIds.advance ∧
        ∃ s, b.slot = some s ∧ s.id = r.sessionIds.next := by
  cases h with
  | finished hrest => exact Or.inl ⟨rfl, Or.inl rfl⟩
  | refused calls hrest hroom =>
      exact Or.inl ⟨rfl, Or.inl (trimmed_of_limited hroom).sessionIds_eq⟩
  | admitted calls hrest hroom =>
      exact Or.inl ⟨rfl, Or.inl (trimmed_of_limited hroom).sessionIds_eq⟩
  | aborted hrest hslot => exact Or.inl ⟨rfl, Or.inr rfl⟩
  | created calls hrest hslot hnew => exact Or.inr ⟨rfl, _, rfl, id_of_newSession? hnew⟩
  | moved calls hrest hslot => exact Or.inr ⟨rfl, _, rfl, rfl⟩
  | registered hrest hslot => exact Or.inl ⟨rfl, Or.inl rfl⟩

/-- A login that has changed its session keeps it. -/
theorem keeps_slot (h : Advance maximum strict config migrate a r b left)
    (hchanged : a.rest.length ≤ 1) : b.slot = a.slot ∧ b.rest.length ≤ 1 := by
  cases h with
  | finished hrest => exact ⟨rfl, hchanged⟩
  | refused calls hrest hroom => exact ⟨rfl, Nat.zero_le 1⟩
  | admitted calls hrest hroom => simp [hrest, limitedSteps] at hchanged
  | aborted hrest hslot => exact ⟨rfl, Nat.zero_le 1⟩
  | created calls hrest hslot hnew => simp [hrest] at hchanged
  | moved calls hrest hslot => simp [hrest] at hchanged
  | registered hrest hslot => exact ⟨rfl, Nat.zero_le 1⟩

end Advance

end Attempt

/-! ## Sessions after two logins -/

namespace Contest

variable {maximum : Int} {strict : Bool} {config : SessionConfig} {migrate : Bool}
  {c : Contest}

/-- The logins are limited and the store is in working order. -/
structure IsLimited (maximum : Int) (strict : Bool) (config : SessionConfig) (migrate : Bool)
    (c : Contest) : Prop where
  sound : c.realm.IsSound
  attempts : ∀ side, (c.attempt side).IsLimited maximum strict config migrate

/-- What a step does in a contest of limited logins. -/
theorem IsLimited.advance (h : c.IsLimited maximum strict config migrate) (turn : Side) :
    Attempt.Advance maximum strict config migrate (c.attempt turn) c.realm
      ((c.step turn).attempt turn) (c.step turn).realm := by
  rw [attempt_step_self]
  exact Attempt.advance_cases h.sound (h.attempts turn)

theorem IsLimited.step (h : c.IsLimited maximum strict config migrate) (turn : Side) :
    (c.step turn).IsLimited maximum strict config migrate where
  sound := by
    intro operation
    rw [(h.advance turn).frame.2.1]
    exact h.sound operation
  attempts side := by
    rcases side.eq_or_eq_other turn with rfl | rfl
    · exact (h.advance side).isLimited (h.attempts side)
    · rw [attempt_step_other]
      exact h.attempts turn.other

/-- A step changes nobody's identity. -/
theorem IsLimited.identity_step (h : c.IsLimited maximum strict config migrate)
    (turn side : Side) : ((c.step turn).attempt side).identity = (c.attempt side).identity := by
  rcases side.eq_or_eq_other turn with rfl | rfl
  · exact (h.advance side).frame.1
  · rw [attempt_step_other]

/-- A limited login that is not interrupted does what it does in one piece. -/
theorem realm_play_of_limited {turn : Side}
    (hrest : (c.attempt turn).rest = limitedSteps maximum strict config migrate) :
    (c.play (List.replicate 3 turn)).realm =
      (run (c.attempt turn).identity (limitedLogin maximum strict config migrate)
        ⟨(c.attempt turn).slot, c.realm⟩).2.realm := by
  have halone := (c.play_replicate turn).1
  rw [hrest] at halone
  exact halone

/-- Every session that is stored was stored before, or is the one that a login holds after
it has changed it. -/
theorem stored_play (h : c.IsLimited maximum strict config migrate) (turns : List Side)
    {id : String} {s : Session} (hs : (c.play turns).realm.store.find? id = some s) :
    c.realm.store.find? id = some s ∨
      ∃ side, ((c.play turns).attempt side).slot = some s ∧
        ((c.play turns).attempt side).rest.length ≤ 1 := by
  let P (d : Contest) : Prop := d.IsLimited maximum strict config migrate ∧
    ∀ {id s}, d.realm.store.find? id = some s → c.realm.store.find? id = some s ∨
      ∃ side, (d.attempt side).slot = some s ∧ (d.attempt side).rest.length ≤ 1
  refine (play_induction (P := P) ⟨h, fun hs => Or.inl hs⟩ ?_ turns).2 hs
  rintro d turn ⟨hlimited, hstored⟩
  refine ⟨hlimited.step turn, ?_⟩
  intro id s hs
  have hadvance := hlimited.advance turn
  rcases hadvance.stored hs with hbefore | ⟨-, hslot, hrest⟩
  · rcases hstored hbefore with hinitial | ⟨side, hslot, hchanged⟩
    · exact Or.inl hinitial
    · refine Or.inr ⟨side, ?_⟩
      rcases side.eq_or_eq_other turn with rfl | rfl
      · obtain ⟨hsame, hlater⟩ := hadvance.keeps_slot hchanged
        exact ⟨hsame.trans hslot, hlater⟩
      · rw [attempt_step_other]
        exact ⟨hslot, hchanged⟩
  · exact Or.inr ⟨turn, hslot, by rw [hrest]; exact Nat.le_refl 1⟩

end Contest

end WebAuth
