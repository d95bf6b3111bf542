import WebAuth.Decimal.Shortest
import WebAuth.Dictionary

/-!
# JSON values

A document as it is written keeps the fields of an object in their order, with
repetitions.  Its canonical form has every object's fields sorted by name, the
last of equal names kept.

Numbers that fit 64 bits, signed or unsigned, stay exact; others are rounded to
double precision.

Main results:

* `Json.decEq`: equality of values is decided by comparing them.
-/

namespace WebAuth

open Decimal

/-- A number in a document. -/
inductive Number where
  | integer (value : Int)
  | real (value : Double)
deriving DecidableEq, Repr

/-- A JSON value. -/
inductive Json where
  | null
  | boolean (value : Bool)
  | number (value : Number)
  | string (value : String)
  | array (items : List Json)
  | object (fields : List (String × Json))
deriving Repr, Inhabited

namespace Json

/-! ## Equality -/

mutual

/-- Decide whether two values are equal. -/
def decEq : (x y : Json) → Decidable (x = y)
  | null, null => isTrue rfl
  | boolean a, boolean b => if h : a = b then isTrue (h ▸ rfl) else isFalse (by simp [h])
  | number a, number b => if h : a = b then isTrue (h ▸ rfl) else isFalse (by simp [h])
  | string a, string b => if h : a = b then isTrue (h ▸ rfl) else isFalse (by simp [h])
  | array a, array b =>
      match decEqItems a b with
      | isTrue h => isTrue (h ▸ rfl)
      | isFalse h => isFalse (by simp [h])
  | object a, object b =>
      match decEqFields a b with
      | isTrue h => isTrue (h ▸ rfl)
      | isFalse h => isFalse (by simp [h])
  | null, boolean _ | null, number _ | null, string _ | null, array _ | null, object _ =>
      isFalse nofun
  | boolean _, null | boolean _, number _ | boolean _, string _ | boolean _, array _
  | boolean _, object _ => isFalse nofun
  | number _, null | number _, boolean _ | number _, string _ | number _, array _
  | number _, object _ => isFalse nofun
  | string _, null | string _, boolean _ | string _, number _ | string _, array _
  | string _, object _ => isFalse nofun
  | array _, null | array _, boolean _ | array _, number _ | array _, string _
  | array _, object _ => isFalse nofun
  | object _, null | object _, boolean _ | object _, number _ | object _, string _
  | object _, array _ => isFalse nofun

/-- Decide whether two lists of items are equal. -/
def decEqItems : (xs ys : List Json) → Decidable (xs = ys)
  | [], [] => isTrue rfl
  | x :: xs, y :: ys =>
      match decEq x y, decEqItems xs ys with
      | isTrue h, isTrue g => isTrue (by rw [h, g])
      | isFalse h, _ => isFalse (by simp [h])
      | _, isFalse g => isFalse (by simp [g])
  | [], _ :: _ => isFalse nofun
  | _ :: _, [] => isFalse nofun

/-- Decide whether two lists of fields are equal. -/
def decEqFields : (xs ys : List (String × Json)) → Decidable (xs = ys)
  | [], [] => isTrue rfl
  | (k, x) :: xs, (l, y) :: ys =>
      match instDecidableEqString k l, decEq x y, decEqFields xs ys with
      | isTrue h, isTrue g, isTrue f => isTrue (by rw [h, g, f])
      | isFalse h, _, _ => isFalse (by simp [h])
      | _, isFalse g, _ => isFalse (by simp [g])
      | _, _, isFalse f => isFalse (by simp [f])
  | [], _ :: _ => isFalse nofun
  | _ :: _, [] => isFalse nofun

end

instance : DecidableEq Json := decEq

/-! ## Canonical form -/

mutual

/-- Sort the fields of every object and keep the last of equal names. -/
def canonical : Json → Json
  | array items => array (canonicalItems items)
  | object fields => object (Dictionary.ofList (canonicalFields fields))
  | value => value

/-- The canonical forms of some items. -/
def canonicalItems : List Json → List Json
  | [] => []
  | item :: rest => canonical item :: canonicalItems rest

/-- The fields with canonical values. -/
def canonicalFields : List (String × Json) → List (String × Json)
  | [] => []
  | (name, value) :: rest => (name, canonical value) :: canonicalFields rest

end

/-- Every canonical field was written. -/
theorem mem_of_mem_canonicalFields {fields : List (String × Json)} {name : String}
    {value : Json} (h : (name, value) ∈ canonicalFields fields) :
    ∃ written, (name, written) ∈ fields ∧ value = written.canonical := by
  induction fields with
  | nil => simp [canonicalFields] at h
  | cons field rest ih =>
      obtain ⟨key, first⟩ := field
      rw [canonicalFields, List.mem_cons] at h
      rcases h with h | h
      · cases h
        exact ⟨first, List.mem_cons_self, rfl⟩
      · obtain ⟨written, hmem, hvalue⟩ := ih h
        exact ⟨written, List.mem_cons_of_mem _ hmem, hvalue⟩

/-- The canonical fields have the same names. -/
theorem map_fst_canonicalFields (fields : List (String × Json)) :
    (canonicalFields fields).map Prod.fst = fields.map Prod.fst := by
  induction fields with
  | nil => rfl
  | cons field rest ih =>
      obtain ⟨key, first⟩ := field
      rw [canonicalFields, List.map_cons, List.map_cons, ih]

/-! ## Views -/

/-- The field of that name, if the value is an object that has one. -/
def get? (value : Json) (name : String) : Option Json :=
  match value with
  | object fields => fields.lookup name
  | _ => none

/-- The text of a string. -/
def asString? : Json → Option String
  | string s => some s
  | _ => none

/-- The value of an integer. -/
def asInteger? : Json → Option Int
  | number (.integer i) => some i
  | _ => none

/-- Whether one of these names comes twice in an object. -/
def repeatsAny (value : Json) (names : List String) : Bool :=
  match value with
  | object fields => names.any (fun name => 1 < (fields.map Prod.fst).count name)
  | _ => false

@[simp]
theorem asString?_string (s : String) : (string s).asString? = some s :=
  rfl

@[simp]
theorem get?_object (fields : List (String × Json)) (name : String) :
    (object fields).get? name = fields.lookup name :=
  rfl

end Json

end WebAuth
