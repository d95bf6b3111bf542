import WebAuth.Json.Basic

/-!
# Compact JSON text

A value on one line without blanks.  In strings the quote, the backslash and the
controls are escaped, the latter shortly where a short escape exists; all else
stands for itself.  A real number always shows a fraction or an exponent.

Main results:

* `Json.le_of_mem_escapeChar`: no control is written into a string.
-/

namespace WebAuth

open Decimal

namespace Number

/-- Real numbers are written positionally from a hundred thousandth up to below
ten quadrillions. -/
def style : Double.Style := ⟨-5, 16⟩

/-- The text of a number. -/
def text : Number → String
  | integer i => toString i
  | real d => d.textWith style

end Number

namespace Json

/-- A character inside a string. -/
def escapeChar (c : Char) : List Char :=
  if c = '"' ∨ c = '\\' then ['\\', c]
  else if c = '\n' then ['\\', 'n']
  else if c = '\r' then ['\\', 'r']
  else if c = '\t' then ['\\', 't']
  else if c = '\x08' then ['\\', 'b']
  else if c = '\x0c' then ['\\', 'f']
  else if c.toNat < 32 then
    ['\\', 'u', '0', '0', Nat.digitChar (c.toNat / 16), Nat.digitChar (c.toNat % 16)]
  else [c]

/-- A string with its quotes. -/
def stringText (s : String) : String :=
  String.ofList ('"' :: s.toList.flatMap escapeChar ++ ['"'])

mutual

/-- The text of a value. -/
def compact : Json → String
  | null => "null"
  | boolean true => "true"
  | boolean false => "false"
  | number n => n.text
  | string s => stringText s
  | array items => "[" ++ ",".intercalate (compactItems items) ++ "]"
  | object fields => "\x7b" ++ ",".intercalate (compactFields fields) ++ "\x7d"

/-- The texts of some items. -/
def compactItems : List Json → List String
  | [] => []
  | item :: rest => compact item :: compactItems rest

/-- The texts of some fields. -/
def compactFields : List (String × Json) → List String
  | [] => []
  | (name, value) :: rest =>
      (stringText name ++ ":" ++ compact value) :: compactFields rest

end

/-! ## Laws -/

/-- No control is written into a string. -/
theorem le_of_mem_escapeChar {c d : Char} (h : d ∈ escapeChar c) : 32 ≤ d.toNat := by
  have hpair {e : Char} (he : 32 ≤ e.toNat) (hd : d ∈ ['\\', e]) : 32 ≤ d.toNat := by
    rcases List.mem_cons.mp hd with rfl | hd
    · decide
    · rw [List.mem_singleton.mp hd]
      exact he
  have hdigit : ∀ n < 16, 32 ≤ (Nat.digitChar n).toNat := by
    decide
  unfold escapeChar at h
  split at h
  · rename_i hmark
    exact hpair (by rcases hmark with rfl | rfl <;> decide) h
  split at h
  · exact hpair (by decide) h
  split at h
  · exact hpair (by decide) h
  split at h
  · exact hpair (by decide) h
  split at h
  · exact hpair (by decide) h
  split at h
  · exact hpair (by decide) h
  split at h
  · simp only [List.mem_cons, List.not_mem_nil, or_false] at h
    rcases h with rfl | rfl | rfl | rfl | rfl | rfl
    · decide
    · decide
    · decide
    · decide
    · exact hdigit _ (by omega)
    · exact hdigit _ (Nat.mod_lt _ (by decide))
  · rw [List.mem_singleton.mp h]
    omega

example :
    (array [null, boolean true, number (.integer (-5)), string "a\"\n", object []]).compact =
      "[null,true,-5,\"a\\\"\\n\",\x7b\x7d]" := by
  decide +kernel

end Json

end WebAuth
