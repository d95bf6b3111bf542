/-!
# Runs over a state

Work on sessions, requests and remote documents changes a state and may stop
early.  `Run σ ε α` is such a piece of work: from a state it produces an
`Ending` and the state that is left behind.  The state survives a refusal, so
what was done before it stays done.

Main results:

* `Run.bind_value`, `Run.bind_refused`, `Run.bind_aborted`: the three ways a
  sequence can continue or stop.
-/

namespace WebAuth

/-- How a piece of work ends: with a value, refused for a reason its caller can
handle, or aborted because a date left the calendar. -/
inductive Ending (ε α : Type) where
  | value (result : α)
  | refused (reason : ε)
  | aborted
deriving DecidableEq, Repr

namespace Ending

variable {ε δ α β : Type}

/-- Apply a function to the value, if there is one. -/
def map (f : α → β) : Ending ε α → Ending ε β
  | value a => value (f a)
  | refused e => refused e
  | aborted => aborted

/-- Restate the reason of a refusal. -/
def mapReason (f : ε → δ) : Ending ε α → Ending δ α
  | value a => value a
  | refused e => refused (f e)
  | aborted => aborted

/-- The ending that a checked result amounts to. -/
def ofExcept : Except ε α → Ending ε α
  | .ok a => value a
  | .error e => refused e

/-- Whether the work was carried out to its end. -/
def isValue : Ending ε α → Bool
  | value _ => true
  | _ => false

end Ending

/-- A piece of work over the state `σ`. -/
def Run (σ ε α : Type) : Type := σ → Ending ε α × σ

namespace Run

variable {σ τ ε δ α β : Type}

/-- Do nothing and answer `a`. -/
protected def pure (a : α) : Run σ ε α := fun s => (.value a, s)

/-- Do `x`, then what `f` makes of its value; stop where `x` stops. -/
protected def bind (x : Run σ ε α) (f : α → Run σ ε β) : Run σ ε β := fun s =>
  match x s with
  | (.value a, t) => f a t
  | (.refused e, t) => (.refused e, t)
  | (.aborted, t) => (.aborted, t)

instance : Monad (Run σ ε) where
  pure := Run.pure
  bind := Run.bind

/-- Stop with a reason. -/
def refuse (e : ε) : Run σ ε α := fun s => (.refused e, s)

/-- Stop because a date left the calendar. -/
def abort : Run σ ε α := fun s => (.aborted, s)

/-- The current state. -/
def read : Run σ ε σ := fun s => (.value s, s)

/-- A view of the current state. -/
def reads (f : σ → α) : Run σ ε α := fun s => (.value (f s), s)

/-- Replace the state by `f` of it. -/
def change (f : σ → σ) : Run σ ε Unit := fun s => (.value (), f s)

/-- Continue with a result that is already known. -/
def ofExcept : Except ε α → Run σ ε α
  | .ok a => Run.pure a
  | .error e => refuse e

/-- Restate the reason of a refusal. -/
def mapReason (f : ε → δ) (x : Run σ ε α) : Run σ δ α := fun s =>
  let (ending, t) := x s
  (ending.mapReason f, t)

/-- Do `x` and hand a refusal over as a value; an abort still stops. -/
def attempt (x : Run σ ε α) : Run σ δ (Except ε α) := fun s =>
  match x s with
  | (.value a, t) => (.value (.ok a), t)
  | (.refused e, t) => (.value (.error e), t)
  | (.aborted, t) => (.aborted, t)

/-- Do work on a part of a larger state: `part` looks it up and `replace` puts
the part that is left behind back. -/
def within (part : τ → σ) (replace : τ → σ → τ) (x : Run σ ε α) : Run τ ε α := fun t =>
  let (ending, s) := x (part t)
  (ending, replace t s)

/-! ## Equations -/

@[simp]
theorem pure_apply (a : α) (s : σ) :
    (pure a : Run σ ε α) s = (.value a, s) :=
  rfl

theorem bind_apply (x : Run σ ε α) (f : α → Run σ ε β) (s : σ) :
    (x >>= f) s = match x s with
      | (.value a, t) => f a t
      | (.refused e, t) => (.refused e, t)
      | (.aborted, t) => (.aborted, t) :=
  rfl

/-- After a value, the sequence continues from the state left behind. -/
theorem bind_value {x : Run σ ε α} {f : α → Run σ ε β} {s t : σ} {a : α}
    (h : x s = (.value a, t)) : (x >>= f) s = f a t := by
  rw [bind_apply, h]

/-- After a refusal, nothing more is done. -/
theorem bind_refused {x : Run σ ε α} {f : α → Run σ ε β} {s t : σ} {e : ε}
    (h : x s = (.refused e, t)) : (x >>= f) s = (.refused e, t) := by
  rw [bind_apply, h]

/-- After an abort, nothing more is done. -/
theorem bind_aborted {x : Run σ ε α} {f : α → Run σ ε β} {s t : σ}
    (h : x s = (.aborted, t)) : (x >>= f) s = (.aborted, t) := by
  rw [bind_apply, h]

/-- A sequence ends with a value exactly if both of its parts do. -/
theorem bind_eq_value_iff {x : Run σ ε α} {f : α → Run σ ε β} {s u : σ} {b : β} :
    (x >>= f) s = (.value b, u) ↔ ∃ a t, x s = (.value a, t) ∧ f a t = (.value b, u) := by
  rw [bind_apply]
  constructor
  · intro h
    rcases hx : x s with ⟨a | e | _, t⟩
    · rw [hx] at h
      exact ⟨a, t, rfl, h⟩
    · simp [hx] at h
    · simp [hx] at h
  · rintro ⟨a, t, hx, hf⟩
    rw [hx]
    exact hf

@[simp]
theorem refuse_apply (e : ε) (s : σ) :
    (refuse e : Run σ ε α) s = (.refused e, s) :=
  rfl

@[simp]
theorem abort_apply (s : σ) : (abort : Run σ ε α) s = (.aborted, s) :=
  rfl

@[simp]
theorem read_apply (s : σ) : (read : Run σ ε σ) s = (.value s, s) :=
  rfl

@[simp]
theorem reads_apply (f : σ → α) (s : σ) :
    (reads f : Run σ ε α) s = (.value (f s), s) :=
  rfl

@[simp]
theorem change_apply (f : σ → σ) (s : σ) :
    (change f : Run σ ε Unit) s = (.value (), f s) :=
  rfl

@[simp]
theorem mapReason_apply (f : ε → δ) (x : Run σ ε α) (s : σ) :
    mapReason f x s = ((x s).1.mapReason f, (x s).2) :=
  rfl

@[simp]
theorem within_apply (part : τ → σ) (replace : τ → σ → τ) (x : Run σ ε α) (t : τ) :
    within part replace x t = ((x (part t)).1, replace t (x (part t)).2) :=
  rfl

/-- A refusal that is handed over is a value. -/
theorem attempt_of_ofExcept {x : Run σ ε α} {s t : σ} {result : Except ε α}
    (h : x s = (.ofExcept result, t)) :
    (attempt x : Run σ δ (Except ε α)) s = (.value result, t) := by
  rw [attempt, h]
  cases result <;> rfl

/-- Work on a part ends with a value exactly if the work on its own does. -/
theorem within_eq_value_iff {part : τ → σ} {replace : τ → σ → τ} {x : Run σ ε α} {t u : τ}
    {a : α} :
    within part replace x t = (.value a, u) ↔
      ∃ s, x (part t) = (.value a, s) ∧ replace t s = u := by
  rw [within_apply, Prod.mk.injEq]
  constructor
  · rintro ⟨hvalue, hleft⟩
    exact ⟨(x (part t)).2, Prod.ext hvalue rfl, hleft⟩
  · rintro ⟨s, hx, hleft⟩
    rw [hx]
    exact ⟨rfl, hleft⟩

/-- Restating reasons does not touch values. -/
theorem mapReason_eq_value_iff {f : ε → δ} {x : Run σ ε α} {s t : σ} {a : α} :
    mapReason f x s = (.value a, t) ↔ x s = (.value a, t) := by
  rw [mapReason_apply]
  rcases x s with ⟨result | e | _, u⟩ <;> simp [Ending.mapReason]

/-- Continuing with a known result leaves the state as it is. -/
theorem ofExcept_apply (x : Except ε α) (s : σ) :
    (ofExcept x : Run σ ε α) s = (.ofExcept x, s) := by
  cases x <;> rfl

/-- A result that is already known changes nothing. -/
theorem ofExcept_eq_value_iff {x : Except ε α} {s t : σ} {a : α} :
    (ofExcept x : Run σ ε α) s = (.value a, t) ↔ x = .ok a ∧ s = t := by
  cases x with
  | ok b => simp [ofExcept, Run.pure]
  | error e => simp [ofExcept]

end Run

/-! ## Checked results -/

section Checked

variable {ε α β : Type} {x : Except ε α} {f : α → Except ε β}

/-- Checked results can be compared. -/
instance decidableEqExcept [DecidableEq ε] [DecidableEq α] : DecidableEq (Except ε α)
  | .ok a, .ok b => decidable_of_decidable_of_iff (Iff.of_eq (Except.ok.injEq a b).symm)
  | .error a, .error b => decidable_of_decidable_of_iff (Iff.of_eq (Except.error.injEq a b).symm)
  | .ok _, .error _ => isFalse nofun
  | .error _, .ok _ => isFalse nofun

/-- A sequence of checks passes exactly if both of its parts do. -/
theorem bind_eq_ok_iff {b : β} : (x >>= f) = .ok b ↔ ∃ a, x = .ok a ∧ f a = .ok b := by
  cases x with
  | ok a => simp [bind, Except.bind]
  | error e => simp [bind, Except.bind]

end Checked

end WebAuth
