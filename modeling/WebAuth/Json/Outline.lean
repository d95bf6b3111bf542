import WebAuth.Json.Parser

/-!
# Outlines of documents

A reader that looks for certain fields passes over all others without reading them.  What
it passes over has to be written as JSON, but need not stand for any value: its numbers may
be of any size, its values may nest to any depth, and its strings may hold halves of
characters and octets that are not UTF-8.

The outline of a document is what such a reader sees of it: how its arrays and objects nest,
with every string, number and word in the octets that it is written in.  All marks of the
notation are ASCII, so each octet is looked at as the character with its number.

Main results:

* `Outline.readMembers?_cons_of_not_mem`: the value of a member that is not looked for does
  not matter;
* `Outline.record?_object`: of a document that can be read as a whole, a record has the
  fields that it looks for;
* `Outline.get?_of_record?`: under each of their names it has what the document has.
-/

namespace WebAuth

/-- How a document is written, down to its strings, numbers and words. -/
inductive Outline where
  /-- A string, a number or a word. -/
  | atom (written : List UInt8)
  | array (items : List Outline)
  /-- Each name as it is written, with its quotes. -/
  | object (members : List (List UInt8 × Outline))
deriving Repr, Inhabited

namespace Outline

open Json (hexDigit?)

/-! ## Octets passed over -/

/-- The character that an octet counts as. -/
def charOf (o : UInt8) : Char := Char.ofNat o.toNat

/-- Whether an octet is a decimal digit. -/
def isDigit (o : UInt8) : Bool := (charOf o).isDigit

/-- Drop spaces, tabs and line ends. -/
def dropBlanks (os : List UInt8) : List UInt8 :=
  os.dropWhile (fun o => charOf o = ' ' || charOf o = '\n' || charOf o = '\t' || charOf o = '\r')

/-- The octets before what is left of them. -/
def before (os left : List UInt8) : List UInt8 := os.take (os.length - left.length)

/-- What follows an escape, after its backslash.  A number may be any four digits. -/
def skipEscape : List UInt8 → Option (List UInt8)
  | [] => none
  | o :: rest =>
      if charOf o = 'u' then
        if 4 ≤ rest.length ∧ (rest.take 4).all (fun d => (hexDigit? (charOf d)).isSome) then
          some (rest.drop 4)
        else none
      else if ['"', '\\', '/', 'b', 'f', 'n', 'r', 't'].contains (charOf o) then some rest
      else none

/-- What follows a string, after its opening quote. -/
def skipString : Nat → List UInt8 → Option (List UInt8)
  | 0, _ => none
  | _, [] => none
  | fuel + 1, o :: rest =>
      if charOf o = '"' then some rest
      else if charOf o = '\\' then (skipEscape rest).bind (skipString fuel)
      else if o < 32 then none
      else skipString fuel rest

/-- What follows some digits; at least one is needed. -/
def skipDigits : List UInt8 → Option (List UInt8)
  | [] => none
  | o :: rest => if isDigit o then some (rest.dropWhile isDigit) else none

/-- What follows an exponent, if there is one. -/
def skipExponent : List UInt8 → Option (List UInt8)
  | [] => some []
  | o :: rest =>
      if charOf o = 'e' ∨ charOf o = 'E' then
        match rest with
        | sign :: digits =>
            if charOf sign = '+' ∨ charOf sign = '-' then skipDigits digits else skipDigits rest
        | [] => none
      else some (o :: rest)

/-- What follows a fraction and an exponent, where they stand. -/
def skipFraction : List UInt8 → Option (List UInt8)
  | [] => some []
  | o :: rest =>
      if charOf o = '.' then (skipDigits rest).bind skipExponent else skipExponent (o :: rest)

/-- What follows a number after its sign; no digit may follow a leading zero. -/
def skipUnsigned : List UInt8 → Option (List UInt8)
  | [] => none
  | o :: rest =>
      if charOf o = '0' then
        if rest.head?.any isDigit then none else skipFraction rest
      else (skipDigits (o :: rest)).bind skipFraction

/-- What follows the rest of a word. -/
def skipWord : List Char → List UInt8 → Option (List UInt8)
  | [], os => some os
  | _ :: _, [] => none
  | w :: ws, o :: rest => if charOf o = w then skipWord ws rest else none

/-- What follows a string, a number or a word. -/
def skipAtom : List UInt8 → Option (List UInt8)
  | [] => none
  | o :: rest =>
      let c := charOf o
      if c = '"' then skipString (rest.length + 1) rest
      else if c = 'n' then skipWord ['u', 'l', 'l'] rest
      else if c = 't' then skipWord ['r', 'u', 'e'] rest
      else if c = 'f' then skipWord ['a', 'l', 's', 'e'] rest
      else if c = '-' then skipUnsigned rest
      else skipUnsigned (o :: rest)

/-! ## Outlines -/

mutual

/-- The outline of a value, and the octets after it. -/
def scan : Nat → List UInt8 → Option (Outline × List UInt8)
  | 0, _ => none
  | fuel + 1, os =>
      match dropBlanks os with
      | [] => none
      | o :: rest =>
          if charOf o = '[' then do
            let (items, rest) ← scanItems fuel true rest
            some (array items, rest)
          else if charOf o = '\x7b' then do
            let (members, rest) ← scanMembers fuel true rest
            some (object members, rest)
          else do
            let left ← skipAtom (o :: rest)
            some (atom (before (o :: rest) left), left)

/-- The items of an array up to its bracket. -/
def scanItems : Nat → Bool → List UInt8 → Option (List Outline × List UInt8)
  | 0, _, _ => none
  | fuel + 1, first, os =>
      match dropBlanks os with
      | [] => none
      | o :: rest =>
          if charOf o = ']' then some ([], rest)
          else if first ∨ charOf o = ',' then do
            let (item, rest) ← scan fuel (if first then o :: rest else rest)
            let (items, rest) ← scanItems fuel false rest
            some (item :: items, rest)
          else none

/-- The members of an object up to its brace. -/
def scanMembers : Nat → Bool → List UInt8 → Option (List (List UInt8 × Outline) × List UInt8)
  | 0, _, _ => none
  | fuel + 1, first, os =>
      match dropBlanks os with
      | [] => none
      | o :: rest =>
          if charOf o = '\x7d' then some ([], rest)
          else if first then scanMember fuel (o :: rest)
          else if charOf o = ',' then scanMember fuel (dropBlanks rest)
          else none

/-- A member that must stand here, and the members after it. -/
def scanMember : Nat → List UInt8 → Option (List (List UInt8 × Outline) × List UInt8)
  | 0, _ => none
  | _, [] => none
  | fuel + 1, o :: rest =>
      if charOf o = '"' then do
        let left ← skipString (rest.length + 1) rest
        match dropBlanks left with
        | [] => none
        | mark :: rest' =>
            if charOf mark = ':' then do
              let (value, rest') ← scan fuel rest'
              let (members, rest') ← scanMembers fuel false rest'
              some ((before (o :: rest) left, value) :: members, rest')
            else none
      else none

end

/-- The outline of a document. -/
def ofOctets? (octets : List UInt8) : Option Outline := do
  let (outline, left) ← scan (Json.callBound octets.length) octets
  if (dropBlanks left).isEmpty then some outline else none

/-! ## Reading from an outline -/

/-- The text of a name. -/
def name? (written : List UInt8) : Option String :=
  (Json.parseOctets? written).bind Json.asString?

mutual

/-- The value of which this is the outline. -/
def value? : Outline → Option Json
  | atom written => Json.parseOctets? written
  | array items => (values? items).map Json.array
  | object members => (fields? members).map Json.object

/-- The values of some items. -/
def values? : List Outline → Option (List Json)
  | [] => some []
  | item :: rest => do
      let value ← value? item
      let values ← values? rest
      some (value :: values)

/-- The fields of an object. -/
def fields? : List (List UInt8 × Outline) → Option (List (String × Json))
  | [] => some []
  | (written, value) :: rest => do
      let name ← name? written
      let value ← value? value
      let fields ← fields? rest
      some ((name, value) :: fields)

end

/-- The members with one of these names.  The values of the others are not read, but their
names are. -/
def readMembers? (names : List String) (read : Outline → Option Json) :
    List (List UInt8 × Outline) → Option (List (String × Json))
  | [] => some []
  | (written, value) :: rest => do
      let name ← name? written
      let fields ← readMembers? names read rest
      if names.contains name then do
        let value ← read value
        some ((name, value) :: fields)
      else some fields

/-- A record with these fields, of whose members only those are read.  In an array of the
fields every item is one of them. -/
def record? (names : List String) (read : Outline → Option Json) : Outline → Option Json
  | object members => (readMembers? names read members).map Json.object
  | array items => (items.mapM read).map Json.array
  | other => other.value?

/-- A list, each of whose items is read in the same way. -/
def list? (read : Outline → Option Json) : Outline → Option Json
  | array items => (items.mapM read).map Json.array
  | other => other.value?

section

variable {names : List String} {read : Outline → Option Json} {name : String}
  {written : List UInt8} {rest members : List (List UInt8 × Outline)}
  {fields : List (String × Json)}

/-- The value of a member that is not looked for does not matter. -/
theorem readMembers?_cons_of_not_mem (hname : name? written = some name) (h : name ∉ names)
    (value : Outline) :
    readMembers? names read ((written, value) :: rest) = readMembers? names read rest := by
  rw [readMembers?, hname]
  cases hrest : readMembers? names read rest <;> simp [h]

/-- Of members that can all be read, those with the names are found. -/
theorem readMembers?_eq_filter (h : fields? members = some fields) :
    readMembers? names value? members =
      some (fields.filter (fun field => names.contains field.1)) := by
  induction members generalizing fields with
  | nil =>
      cases h
      rfl
  | cons member rest ih =>
      obtain ⟨written, value⟩ := member
      simp only [fields?, Option.bind_eq_bind, Option.bind_eq_some_iff, Option.some.injEq] at h
      obtain ⟨name, hname, json, hjson, others, hothers, rfl⟩ := h
      rw [readMembers?, hname, ih hothers, List.filter_cons]
      by_cases hknown : name ∈ names <;> simp [hknown, hjson]

/-- Of a document that can be read as a whole, a record has the fields that it looks for. -/
theorem record?_object (h : fields? members = some fields) :
    record? names value? (object members) =
      some (.object (fields.filter (fun field => names.contains field.1))) := by
  rw [record?, readMembers?_eq_filter h, Option.map_some]

/-- Under each of its names a record has what the document has. -/
theorem get?_of_record? (h : fields? members = some fields) (hname : name ∈ names) :
    (record? names value? (object members)).bind (fun record => record.get? name) =
      fields.lookup name := by
  rw [record?_object h, Option.bind_some, Json.get?_object]
  clear h
  induction fields with
  | nil => rfl
  | cons field rest ih =>
      obtain ⟨key, value⟩ := field
      by_cases heq : name = key
      · subst heq
        simp [hname]
      · have hne : (name == key) = false := by simpa using heq
        rw [List.filter_cons, List.lookup_cons, hne]
        split
        · rw [List.lookup_cons, hne, ih]
        · exact ih

end

end Outline

end WebAuth
