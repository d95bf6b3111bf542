/-!
# Supplies of fresh values

Ids and random octets come from outside as an endless sequence; a supply
remembers how many of them have been handed out.

Main results:

* `Supply.next_advance`: after handing one out, the next one follows.
-/

namespace WebAuth

/-- An endless sequence of values, and how many have been handed out. -/
structure Supply (α : Type) where
  item : Nat → α
  used : Nat

namespace Supply

variable {α : Type}

/-- The value that is handed out next. -/
def next (s : Supply α) : α := s.item s.used

/-- The supply after handing one out. -/
def advance (s : Supply α) : Supply α := { s with used := s.used + 1 }

/-- No value comes twice. -/
def IsFresh (s : Supply α) : Prop := ∀ i j, s.item i = s.item j → i = j

@[simp]
theorem next_advance (s : Supply α) : s.advance.next = s.item (s.used + 1) :=
  rfl

end Supply

end WebAuth
