import WebAuth.Web.Request
import WebAuth.Web.World

/-!
# Authenticators

A strategy looks at one kind of credentials of a request: it finds an identity, or
nothing, or it is refused.  An authenticator asks its strategies in order and
combines their answers under a policy.

Main results:

* `Authenticator.firstSuccess_cons`, `Authenticator.allSuccess_cons`,
  `Authenticator.skipErrors_cons`: what the answer of the first strategy decides.
-/

namespace WebAuth.Web

/-- A way to find out who a request comes from. -/
structure Strategy where
  name : String
  identify : Request → Run World AccessError (Option Identity)

/-- How the answers of strategies are combined. -/
inductive Policy where
  /-- The first identity counts; an error stops. -/
  | firstSuccess
  /-- Every strategy has to find an identity; the last one counts. -/
  | allSuccess
  /-- The first identity counts; errors are passed over. -/
  | skipErrors
deriving DecidableEq, Repr

/-- Strategies under a policy. -/
structure Authenticator where
  policy : Policy
  strategies : List Strategy

namespace Authenticator

/-- An authenticator that asks nobody. -/
def silent : Authenticator := ⟨.firstSuccess, []⟩

/-- Ask until an identity is found or an error comes. -/
def firstSuccess (r : Request) : List Strategy → Run World AccessError (Option Identity)
  | [] => pure none
  | s :: rest => do
      match ← s.identify r with
      | some identity => pure (some identity)
      | none => firstSuccess r rest

/-- Ask until one finds nothing or an error comes; `found` is what the one before has
found. -/
def allSuccess (r : Request) (found : Option Identity) :
    List Strategy → Run World AccessError (Option Identity)
  | [] => pure found
  | s :: rest => do
      match ← s.identify r with
      | some identity => allSuccess r (some identity) rest
      | none => pure none

/-- Ask until an identity is found. -/
def skipErrors (r : Request) : List Strategy → Run World AccessError (Option Identity)
  | [] => pure none
  | s :: rest => do
      match ← (s.identify r).attempt with
      | .ok (some identity) => pure (some identity)
      | _ => skipErrors r rest

/-- Who a request comes from; nobody if it is anonymous under the policy. -/
def authenticate (a : Authenticator) (r : Request) : Run World AccessError (Option Identity) :=
  match a.policy with
  | .firstSuccess => firstSuccess r a.strategies
  | .allSuccess => allSuccess r none a.strategies
  | .skipErrors => skipErrors r a.strategies

/-! ## What the first answer decides -/

/-- An identity counts at once, and nothing leads to the next strategy. -/
theorem firstSuccess_cons {r : Request} {s : Strategy} {w w' : World}
    {found : Option Identity} (h : s.identify r w = (.value found, w'))
    (rest : List Strategy) :
    firstSuccess r (s :: rest) w =
      match found with
      | some identity => (.value (some identity), w')
      | none => firstSuccess r rest w' := by
  rw [firstSuccess, Run.bind_value h]
  cases found <;> rfl

/-- An identity leads to the next strategy, and nothing decides. -/
theorem allSuccess_cons {r : Request} {s : Strategy} {w w' : World}
    {found : Option Identity} (h : s.identify r w = (.value found, w'))
    (before : Option Identity) (rest : List Strategy) :
    allSuccess r before (s :: rest) w =
      match found with
      | some identity => allSuccess r (some identity) rest w'
      | none => (.value none, w') := by
  rw [allSuccess, Run.bind_value h]
  cases found <;> rfl

/-- An error leads to the next strategy. -/
theorem skipErrors_cons_refused {r : Request} {s : Strategy} {w w' : World}
    {e : AccessError} (h : s.identify r w = (.refused e, w')) (rest : List Strategy) :
    skipErrors r (s :: rest) w = skipErrors r rest w' := by
  have hattempt : (s.identify r).attempt w =
      ((.value (.error e) : Ending AccessError (Except AccessError (Option Identity))), w') := by
    simp [Run.attempt, h]
  rw [skipErrors, Run.bind_value hattempt]

/-- An identity counts at once, and nothing leads to the next strategy. -/
theorem skipErrors_cons {r : Request} {s : Strategy} {w w' : World}
    {found : Option Identity} (h : s.identify r w = (.value found, w'))
    (rest : List Strategy) :
    skipErrors r (s :: rest) w =
      match found with
      | some identity => (.value (some identity), w')
      | none => skipErrors r rest w' := by
  have hattempt : (s.identify r).attempt w =
      ((.value (.ok found) : Ending AccessError (Except AccessError (Option Identity))), w') := by
    simp [Run.attempt, h]
  rw [skipErrors, Run.bind_value hattempt]
  cases found <;> rfl

end Authenticator

end WebAuth.Web
