import WebAuth.Session.Login

/-!
# Which strategies rebind the session

A login works on the session of its request, which may belong to somebody else.  A strategy
that gives the session a new id also binds it to the identity that logs in.  Any other
strategy leaves the session of the request as it was, whatever it does to other sessions and
to the registry.  This holds of sequences of strategies too, and in whatever order the store
is.

Main results:

- Theorem `LoginStrategy.leaves_run`: the session that a login leaves with its request.
-/

namespace WebAuth

/-! ## Work that leaves the slot alone -/

namespace LoginState

variable {α β : Type} {x : Run LoginState LoginError α}

/-- Work that leaves the session in the slot as it is, however the work ends. -/
def KeepsSlot (x : Run LoginState LoginError α) : Prop :=
  ∀ s, (x s).2.slot = s.slot

theorem keepsSlot_pure (a : α) : KeepsSlot (pure a) :=
  fun _ => rfl

theorem keepsSlot_refuse (e : LoginError) : KeepsSlot (Run.refuse e : Run LoginState LoginError α) :=
  fun _ => rfl

theorem keepsSlot_reads (f : LoginState → α) : KeepsSlot (Run.reads f) :=
  fun _ => rfl

theorem keepsSlot_inRealm (x : Run Realm AccessError α) : KeepsSlot (inRealm x) :=
  fun _ => rfl

theorem keepsSlot_changeRealm (f : Realm → Realm) : KeepsSlot (changeRealm f) :=
  fun _ => rfl

/-- One piece of work after another. -/
theorem KeepsSlot.bind {f : α → Run LoginState LoginError β} (hx : KeepsSlot x)
    (hf : ∀ a, KeepsSlot (f a)) : KeepsSlot (x >>= f) := by
  intro s
  have hslot := hx s
  rw [Run.bind_apply]
  rcases h : x s with ⟨a | e | _, t⟩
  · rw [h] at hslot
    exact (hf a t).trans hslot
  · rw [h] at hslot
    exact hslot
  · rw [h] at hslot
    exact hslot

theorem KeepsSlot.slot_eq (hx : KeepsSlot x) {s left : LoginState} {a : α}
    (h : x s = (.value a, left)) : left.slot = s.slot := by
  rw [← hx s, h]

end LoginState

namespace LoginStrategy

open LoginState

variable {identity : Identity} {s left : LoginState}

/-! ## Limits and the registry -/

/-- Looking which sessions are live keeps the slot. -/
theorem keepsSlot_liveRegistrations (gs : List Registration) :
    KeepsSlot (liveRegistrations gs) := by
  induction gs with
  | nil => exact keepsSlot_pure []
  | cons g rest ih =>
      refine (keepsSlot_inRealm _).bind ?_
      intro found
      cases found with
      | none => exact (keepsSlot_changeRealm _).bind fun _ => ih
      | some session => exact ih.bind fun others => keepsSlot_pure (g :: others)

/-- Ending other sessions keeps the slot. -/
theorem keepsSlot_expire (gs : List Registration) : KeepsSlot (expire gs) := by
  induction gs with
  | nil => exact keepsSlot_pure ()
  | cons g rest ih =>
      exact (keepsSlot_inRealm _).bind fun _ => (keepsSlot_changeRealm _).bind fun _ => ih

/-- Making room keeps the slot. -/
theorem keepsSlot_makeRoom (maximum : Int) (strict : Bool) (principal : String) :
    KeepsSlot (makeRoom maximum strict principal) := by
  refine (keepsSlot_reads _).bind fun registered => ?_
  refine (keepsSlot_liveRegistrations registered).bind fun live => ?_
  refine (keepsSlot_reads _).bind fun slot => ?_
  dsimp only
  split
  · exact keepsSlot_pure ()
  · split
    · exact keepsSlot_pure ()
    · split
      · exact keepsSlot_refuse _
      · exact keepsSlot_expire _

/-- Registering keeps the slot. -/
theorem keepsSlot_registerSession (principal : String) :
    KeepsSlot (registerSession principal) := by
  refine (keepsSlot_reads _).bind fun slot => ?_
  cases slot with
  | none => exact keepsSlot_pure ()
  | some current => exact keepsSlot_changeRealm _

/-! ## New ids -/

/-- A moved session is bound to the identity that logs in. -/
theorem slot_of_moveSession {tracked migrate : Bool} {current : Session}
    (h : moveSession tracked migrate identity current s = (.value (), left)) :
    ∃ session, left.slot = some session ∧ session.identity = identity := by
  obtain ⟨id, drawn, -, h⟩ := Run.bind_eq_value_iff.mp h
  obtain ⟨done, moved, hput, h⟩ := Run.bind_eq_value_iff.mp h
  -- The session is in the slot before the store is used; what follows keeps it there.
  have hkeeps : KeepsSlot (do
      inRealm (Realm.save (rebound current id identity migrate))
      inRealm (Realm.delete current.id)
      if tracked then changeRealm (Realm.renameSession current.id id)) := by
    refine (keepsSlot_inRealm _).bind fun _ => (keepsSlot_inRealm _).bind fun _ => ?_
    split
    · exact keepsSlot_changeRealm _
    · exact keepsSlot_pure ()
  cases hput
  exact ⟨rebound current id identity migrate, hkeeps.slot_eq h, rfl⟩

/-- A created session is bound to the identity that logs in. -/
theorem slot_of_createSession {config : SessionConfig}
    (h : createSession config identity s = (.value (), left)) :
    ∃ session, left.slot = some session ∧ session.identity = identity := by
  obtain ⟨id, drawn, -, h⟩ := Run.bind_eq_value_iff.mp h
  obtain ⟨now, same, -, h⟩ := Run.bind_eq_value_iff.mp h
  cases hnew : config.lifetime?.bind (Session.create? id identity now) with
  | none =>
      rw [hnew] at h
      cases h
  | some created =>
      rw [hnew] at h
      obtain ⟨done, saved, -, h⟩ := Run.bind_eq_value_iff.mp h
      cases h
      obtain ⟨lifetime, -, hcreated⟩ := Option.bind_eq_some_iff.mp hnew
      obtain ⟨expiry, -, rfl⟩ := Option.map_eq_some_iff.mp hcreated
      exact ⟨_, rfl, rfl⟩

/-! ## All strategies -/

mutual

/-- Whether a strategy gives the session of a request a new id. -/
def rebinds : LoginStrategy → Bool
  | keep => false
  | changeId _ _ _ => true
  | limit _ _ => false
  | register => false
  | sequence steps => anyRebinds steps

/-- Whether one of some strategies does. -/
def anyRebinds : List LoginStrategy → Bool
  | [] => false
  | step :: rest => rebinds step || anyRebinds rest

end

/-- The session that is left with a request, seen from the one that the request came with:
one of the identity that has logged in, or the same as before. -/
def Leaves (identity : Identity) (rebinds : Bool) (before after : Option Session) : Prop :=
  if rebinds then ∃ session, after = some session ∧ session.identity = identity
  else after = before

/-- What two strategies leave one after the other. -/
theorem Leaves.trans {first second : Bool} {before middle after : Option Session}
    (hfirst : Leaves identity first before middle)
    (hsecond : Leaves identity second middle after) :
    Leaves identity (first || second) before after := by
  cases second with
  | true =>
      rw [Bool.or_true]
      exact hsecond
  | false =>
      have hafter : after = middle := hsecond
      rw [Bool.or_false, hafter]
      exact hfirst

mutual

/-- A login leaves a session of its identity with the request if its strategy rebinds, and
else the session that the request came with. -/
theorem leaves_run (identity : Identity) (strategy : LoginStrategy) {s left : LoginState}
    (h : run identity strategy s = (.value (), left)) :
    Leaves identity strategy.rebinds s.slot left.slot := by
  cases strategy with
  | keep =>
      rw [run_keep] at h
      exact (keepsSlot_pure ()).slot_eq h
  | changeId config tracked migrate =>
      simp only [run] at h
      obtain ⟨slot, same, hslot, h⟩ := Run.bind_eq_value_iff.mp h
      cases slot with
      | none => exact slot_of_createSession h
      | some current => exact slot_of_moveSession h
  | limit maximum strict =>
      simp only [run] at h
      split at h
      · exact (keepsSlot_pure ()).slot_eq h
      · exact (keepsSlot_makeRoom _ _ _).slot_eq h
  | register =>
      simp only [run] at h
      exact (keepsSlot_registerSession _).slot_eq h
  | sequence steps =>
      rw [run_sequence] at h
      exact leaves_runAll identity steps h

/-- So do strategies one after another. -/
theorem leaves_runAll (identity : Identity) (steps : List LoginStrategy) {s left : LoginState}
    (h : runAll identity steps s = (.value (), left)) :
    Leaves identity (anyRebinds steps) s.slot left.slot := by
  cases steps with
  | nil =>
      simp only [runAll] at h
      exact (keepsSlot_pure ()).slot_eq h
  | cons step rest =>
      simp only [runAll] at h
      obtain ⟨done, middle, hstep, hrest⟩ := Run.bind_eq_value_iff.mp h
      exact (leaves_run identity step hstep).trans (leaves_runAll identity rest hrest)

end

end LoginStrategy

end WebAuth
