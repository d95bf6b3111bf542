import WebAuth.Text.Cut

/-!
# Header fields

Fields are kept in the order in which they were added, under lowercase names.  A
name has to be a token and a value must hold no controls but the tab; a value
counts as readable text only if it is visible ASCII, spaces and tabs.

Main results:

* `Headers.getAll_append?`, `Headers.getAll_append`: what an added field changes.
-/

namespace WebAuth.Http

/-- The characters of methods and field names. -/
def isTokenChar (c : Char) : Bool :=
  c.isAlphanum ||
    ['!', '#', '$', '%', '&', '\'', '*', '+', '-', '.', '^', '_', '\x60', '|', '~'].contains c

/-- Whether a text is a token. -/
def isToken (s : String) : Bool :=
  !s.toList.isEmpty && s.toList.all isTokenChar

/-- The lowercase form of a field name; none if it is no token. -/
def fieldName? (s : String) : Option String :=
  if isToken s then some (String.ofList (s.toList.map Char.toLower)) else none

/-- Whether a text can be a field value. -/
def isFieldValue (s : String) : Bool :=
  s.toList.all (fun c => c = '\t' || (32 ≤ c.toNat && c.toNat ≠ 127))

/-- Whether a field value is readable text. -/
def isReadable (s : String) : Bool :=
  s.toList.all (fun c => c = '\t' || (32 ≤ c.toNat && c.toNat ≤ 126))

@[simp]
theorem isReadable_append (s t : String) : isReadable (s ++ t) = (isReadable s && isReadable t) := by
  simp [isReadable]

/-- Readable text can be a field value. -/
theorem isFieldValue_of_isReadable {s : String} (h : isReadable s = true) :
    isFieldValue s = true := by
  simp only [isReadable, isFieldValue, List.all_eq_true, Bool.or_eq_true, Bool.and_eq_true,
    decide_eq_true_eq] at h ⊢
  intro c hc
  refine (h c hc).imp_right ?_
  rintro ⟨hlow, hhigh⟩
  exact ⟨hlow, by omega⟩

/-- Header fields: names with values. -/
structure Headers where
  fields : List (String × String)
deriving DecidableEq, Repr

namespace Headers

/-- No fields. -/
def empty : Headers := ⟨[]⟩

/-- Add a field after the others; none if its name or value is not allowed. -/
def append? (h : Headers) (name value : String) : Option Headers :=
  match fieldName? name with
  | some lower => if isFieldValue value then some ⟨h.fields ++ [(lower, value)]⟩ else none
  | none => none

/-- Add a field if it is allowed. -/
def append (h : Headers) (name value : String) : Headers :=
  (h.append? name value).getD h

/-- The values under a name, in order; the name is taken in any letter case. -/
def getAll (h : Headers) (name : String) : List String :=
  match fieldName? name with
  | some lower => (h.fields.filter (fun field => field.1 = lower)).map Prod.snd
  | none => []

/-- The first value under a name. -/
def get? (h : Headers) (name : String) : Option String :=
  (h.getAll name).head?

/-- The first value under a name, if it is readable text. -/
def readableFirst? (h : Headers) (name : String) : Option String :=
  (h.get? name).filter isReadable

/-- The names in the order of their first fields. -/
def names (h : Headers) : List String :=
  (h.fields.map Prod.fst).eraseDups

/-- All fields, those of one name together. -/
def grouped (h : Headers) : List (String × String) :=
  h.names.flatMap (fun name => h.fields.filter (fun field => field.1 = name))

@[simp]
theorem getAll_empty (name : String) : empty.getAll name = [] := by
  unfold getAll
  split <;> rfl

/-- An added field comes last under its name and leaves other names alone. -/
theorem getAll_append? {h h' : Headers} {name value other lower lowerOther : String}
    (hname : fieldName? name = some lower) (hother : fieldName? other = some lowerOther)
    (hadded : h.append? name value = some h') :
    h'.getAll other = h.getAll other ++ if lower = lowerOther then [value] else [] := by
  simp only [append?, hname] at hadded
  split at hadded
  · cases hadded
    by_cases heq : lower = lowerOther
    · simp [getAll, hother, heq]
    · simp [getAll, hother, heq]
  · contradiction

/-- A field that is allowed is added. -/
theorem getAll_append (h : Headers) {name value other lower lowerOther : String}
    (hname : fieldName? name = some lower) (hother : fieldName? other = some lowerOther)
    (hvalue : isFieldValue value = true) :
    (h.append name value).getAll other =
      h.getAll other ++ if lower = lowerOther then [value] else [] := by
  have hadded : h.append? name value = some ⟨h.fields ++ [(lower, value)]⟩ := by
    simp [append?, hname, hvalue]
  rw [append, hadded, Option.getD_some]
  exact getAll_append? hname hother hadded

end Headers

end WebAuth.Http
