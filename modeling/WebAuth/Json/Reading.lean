import WebAuth.Calendar.Rfc3339
import WebAuth.Json.Printer
import WebAuth.Text.Quoted

/-!
# Typed reading

A canonical JSON value is read as a value of a known type.  The fields of an
object are visited in the order of their names and the first that cannot be read
is reported; only then are missing fields looked for, in the order in which the
record declares them.  A record may also be written as an array of its fields in
declared order.

Main results:

* `RecordFormat.readDraft_object`: an object is read field by field;
* `ReadError.message_missing`: the wording of a missing field.
-/

namespace WebAuth

open Calendar Text

/-! ## Errors -/

/-- What stood where something else was expected. -/
inductive Found where
  | null
  | boolean (value : Bool)
  | number (value : Number)
  | string (value : String)
  | sequence
  | map
deriving DecidableEq, Repr

/-- Why a JSON value cannot be read as a value of a type. -/
inductive ReadError where
  | missingField (name : String)
  | unexpected (found : Found) (expected : String)
  | outOfRange (value : Int) (expected : String)
  | unknownVariant (name : String) (known : List String)
  | notOneKey
  | wrongLength (length : Nat) (expected : String)
  | noVariant (name : String)
  | badDate (error : DateError)
deriving DecidableEq, Repr

namespace Found

/-- What a value counts as. -/
def ofJson : Json → Found
  | .null => null
  | .boolean b => boolean b
  | .number n => number n
  | .string s => string s
  | .array _ => sequence
  | .object _ => map

/-- The wording of what was found. -/
def text : Found → String
  | null => "null"
  | boolean true => "boolean `true`"
  | boolean false => "boolean `false`"
  | number (.integer i) => "integer `" ++ toString i ++ "`"
  | number (.real d) => "floating point `" ++ (Number.real d).text ++ "`"
  | string s => "string " ++ quoted s
  | sequence => "sequence"
  | map => "map"

end Found

namespace ReadError

/-- Names as alternatives. -/
def alternatives (names : List String) : String :=
  match names.map (fun n => "`" ++ n ++ "`") with
  | [one] => one
  | [one, two] => one ++ " or " ++ two
  | several => "one of " ++ ", ".intercalate several

/-- The wording of a read error. -/
def message : ReadError → String
  | missingField name => "missing field `" ++ name ++ "`"
  | unexpected found expected =>
      "invalid type: " ++ found.text ++ ", expected " ++ expected
  | outOfRange value expected =>
      "invalid value: integer `" ++ toString value ++ "`, expected " ++ expected
  | unknownVariant name known =>
      "unknown variant `" ++ name ++ "`, expected " ++ alternatives known
  | notOneKey => "invalid value: map, expected map with a single key"
  | wrongLength length expected =>
      "invalid length " ++ toString length ++ ", expected " ++ expected
  | noVariant name => "data did not match any variant of untagged enum " ++ name
  | badDate e => e.message

theorem message_missing (name : String) :
    (missingField name).message = "missing field `" ++ name ++ "`" :=
  rfl

end ReadError

/-! ## Simple values -/

namespace Json

/-- The value is not of the expected kind. -/
def refused {α : Type} (value : Json) (expected : String) : Except ReadError α :=
  .error (.unexpected (Found.ofJson value) expected)

/-- Read a string. -/
def readString : Json → Except ReadError String
  | string s => .ok s
  | value => value.refused "a string"

/-- Read a truth value. -/
def readBoolean : Json → Except ReadError Bool
  | boolean b => .ok b
  | value => value.refused "a boolean"

/-- Read an integer of a named range. -/
def readInteger (name : String) (least greatest : Int) : Json → Except ReadError Int
  | number (.integer i) =>
      if least ≤ i ∧ i ≤ greatest then .ok i else .error (.outOfRange i name)
  | value => value.refused name

/-- Read a signed integer of 32 bits. -/
def readInt32 : Json → Except ReadError Int :=
  readInteger "i32" (-2147483648) 2147483647

/-- Read a signed integer of 64 bits. -/
def readInt64 : Json → Except ReadError Int :=
  readInteger "i64" (-9223372036854775808) 9223372036854775807

/-- Read an unsigned integer of 64 bits. -/
def readNat64 (value : Json) : Except ReadError Nat :=
  (readInteger "u64" 0 18446744073709551615 value).map Int.toNat

/-- Read an instant. -/
def readTimestamp : Json → Except ReadError Timestamp
  | string s =>
      match Timestamp.readText s with
      | .ok t => .ok t
      | .error e => .error (.badDate e)
  | value => value.refused "an RFC 3339 formatted date and time string"

/-- Read a value that may be null. -/
def readOption {α : Type} (item : Json → Except ReadError α) :
    Json → Except ReadError (Option α)
  | null => .ok none
  | value => (item value).map some

/-- Read the items of an array. -/
def readList {α : Type} (item : Json → Except ReadError α) :
    Json → Except ReadError (List α)
  | array items => items.mapM item
  | value => value.refused "a sequence"

/-- Read the fields of an object as a dictionary. -/
def readDictionary {α : Type} (item : Json → Except ReadError α) :
    Json → Except ReadError (List (String × α))
  | object fields => fields.mapM (fun (name, value) => do .ok (name, ← item value))
  | value => value.refused "a map"

/-- Read one of some named alternatives, written as its name or as an object
that maps its name to null. -/
def readVariant {α : Type} (variants : List (String × α)) : Json → Except ReadError α
  | string name => find name
  | object [(name, payload)] => do
      let variant ← find name
      match payload with
      | null => .ok variant
      | other => other.refused "unit"
  | object _ => .error .notOneKey
  | value => value.refused "string or map"
where
  find (name : String) : Except ReadError α :=
    match variants.lookup name with
    | some variant => .ok variant
    | none => .error (.unknownVariant name (variants.map Prod.fst))

end Json

/-! ## Records -/

/-- How a record is read into a draft that collects its fields. -/
structure RecordFormat (δ : Type) where
  name : String
  /-- The fields in declared order. -/
  fields : List String
  /-- The fields that an array may leave out at its end. -/
  defaulted : List String
  /-- What a field adds to the draft; unknown names add nothing. -/
  readField : String → Json → δ → Except ReadError δ

namespace RecordFormat

variable {δ : Type}

/-- What an array of the fields has to be. -/
def shape (f : RecordFormat δ) : String :=
  "struct " ++ f.name ++ " with " ++ toString f.fields.length ++
    (if f.fields.length = 1 then " element" else " elements")

/-- Read named values in the order given. -/
def readFields (f : RecordFormat δ) (draft : δ) (entries : List (String × Json)) :
    Except ReadError δ :=
  entries.foldlM (fun d entry => f.readField entry.1 entry.2 d) draft

/-- Read a record. -/
def readDraft (f : RecordFormat δ) (empty : δ) : Json → Except ReadError δ
  | .object entries => f.readFields empty entries
  | .array items => do
      let draft ← f.readFields empty (f.fields.zip items)
      if f.fields.length < items.length then
        .error (.wrongLength items.length "fewer elements in array")
      else
        match (f.fields.drop items.length).findIdx? (fun n => !f.defaulted.contains n) with
        | some i => .error (.wrongLength (items.length + i) f.shape)
        | none => .ok draft
  | value => value.refused ("struct " ++ f.name)

/-- An object is read field by field. -/
@[simp]
theorem readDraft_object (f : RecordFormat δ) (empty : δ) (entries : List (String × Json)) :
    f.readDraft empty (.object entries) = f.readFields empty entries :=
  rfl

end RecordFormat

/-- The value of a field that has to be there. -/
def requireField {α : Type} (name : String) : Option α → Except ReadError α
  | some value => .ok value
  | none => .error (.missingField name)

end WebAuth
