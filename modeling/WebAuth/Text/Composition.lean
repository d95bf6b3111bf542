import WebAuth.Text.CombiningClass
import WebAuth.Text.Composite

/-!
# Composed texts

One text can be written with composites or with their parts, and marks of different
classes can stand in any order.  The composed form of a text is the one way that is
chosen: everything is taken apart, marks are sorted by class, and what can be joined
is joined again.

Main results:

* `Composition.compose_of_ascii`: ASCII text is composed already.
-/

namespace WebAuth.Text.Composition

/-! ## Taking apart -/

/-- How deep composites are nested at most. -/
def depth : Nat := 4

/-- The parts of a character, taken apart again and again. -/
def partsOf : Nat → Char → List Char
  | 0, c => [c]
  | fuel + 1, c =>
      match Composite.parts? c with
      | some (a, b) => partsOf fuel a ++ [b]
      | none => [c]

/-! ## Sorting marks -/

/-- Put a character before a sorted text; marks of lower classes go before it. -/
def settle (c : Char) : List Char → List Char
  | [] => [c]
  | d :: rest =>
      if 0 < combiningClass d ∧ combiningClass d < combiningClass c then d :: settle c rest
      else c :: d :: rest

/-- A text whose marks are sorted. -/
def sorted (cs : List Char) : List Char := cs.foldr settle []

/-! ## Joining -/

/-- Whether waiting marks keep a character from its letter: the last of them has at
least its class. -/
def isBlocked (waiting : List Char) (c : Char) : Bool :=
  waiting.getLast?.any (fun last => combiningClass c ≤ combiningClass last)

/-- Join characters to a letter; the waiting marks could not be joined to it. -/
def joinAfter (letter : Char) (waiting : List Char) : List Char → List Char
  | [] => letter :: waiting
  | c :: rest =>
      match if isBlocked waiting c then none else Composite.join? letter c with
      | some both => joinAfter both waiting rest
      | none =>
          if combiningClass c = 0 then letter :: waiting ++ joinAfter c [] rest
          else joinAfter letter (waiting ++ [c]) rest

/-- Join what can be joined. -/
def joined : List Char → List Char
  | [] => []
  | c :: rest => joinAfter c [] rest

/-- The composed form of a text. -/
def compose (cs : List Char) : List Char := joined (sorted (cs.flatMap (partsOf depth)))

/-! ## ASCII -/

/-- Taking ASCII apart changes nothing. -/
theorem flatMap_partsOf_of_ascii {cs : List Char} (h : ∀ c ∈ cs, c.toNat < 128) :
    cs.flatMap (partsOf depth) = cs := by
  induction cs with
  | nil => rfl
  | cons c rest ih =>
      have hc : Composite.parts? c = none :=
        Composite.parts?_of_lt (Nat.lt_trans (h c List.mem_cons_self) (by decide))
      rw [List.flatMap_cons, ih (fun d hd => h d (List.mem_cons_of_mem c hd))]
      simp [depth, partsOf, hc]

/-- ASCII holds no marks to sort. -/
theorem sorted_of_ascii {cs : List Char} (h : ∀ c ∈ cs, c.toNat < 128) : sorted cs = cs := by
  induction cs with
  | nil => rfl
  | cons c rest ih =>
      have hc : combiningClass c = 0 :=
        combiningClass_of_lt (Nat.lt_trans (h c List.mem_cons_self) (by decide))
      have hrest : sorted rest = rest := ih (fun d hd => h d (List.mem_cons_of_mem c hd))
      have hstep : sorted (c :: rest) = settle c (sorted rest) := rfl
      rw [hstep, hrest]
      cases rest <;> simp [settle, hc]

/-- ASCII is not joined. -/
theorem joinAfter_of_ascii (letter : Char) {cs : List Char} (h : ∀ c ∈ cs, c.toNat < 128) :
    joinAfter letter [] cs = letter :: cs := by
  induction cs generalizing letter with
  | nil => rfl
  | cons c rest ih =>
      have hlt : c.toNat < 0x300 := Nat.lt_trans (h c List.mem_cons_self) (by decide)
      have hrest := ih c (fun d hd => h d (List.mem_cons_of_mem c hd))
      simp [joinAfter, isBlocked, Composite.join?_of_lt letter hlt,
        combiningClass_of_lt hlt, hrest]

/-- ASCII text is composed already. -/
theorem compose_of_ascii {cs : List Char} (h : ∀ c ∈ cs, c.toNat < 128) : compose cs = cs := by
  rw [compose, flatMap_partsOf_of_ascii h, sorted_of_ascii h]
  cases cs with
  | nil => rfl
  | cons c rest =>
      exact joinAfter_of_ascii c (fun d hd => h d (List.mem_cons_of_mem c hd))

end WebAuth.Text.Composition
