import WebAuth.Json.Basic

/-!
# Reading JSON text

A recursive descent over the characters.  A text is refused either because it
ends too early or because some character cannot stand where it does; objects and
arrays nest at most 127 deep.  Numbers keep the digits that fit 64 bits, and an
exponent that makes a number too large is refused.

The parser calls itself once for each value, item and field, and each call but
the first follows a character that it consumed, so twice the length of the text
bounds the depth of calls.

Main results:

* `Json.parse_of_parseObject`: an object is read as the whole of its text.
-/

namespace WebAuth.Json

open Decimal

/-- Why a text is not JSON. -/
inductive TextError where
  | malformed
  | endOfText
deriving DecidableEq, Repr

/-- What was read, and the characters after it. -/
abbrev Scanned (α : Type) := α × List Char

/-- Drop spaces, tabs and line ends. -/
def skipBlanks (cs : List Char) : List Char :=
  cs.dropWhile (fun c => c = ' ' || c = '\n' || c = '\t' || c = '\r')

/-! ## Strings -/

/-- The value of a hexadecimal digit of either case. -/
def hexDigit? (c : Char) : Option Nat :=
  if '0' ≤ c && c ≤ '9' then some (c.toNat - 48)
  else if 'a' ≤ c && c ≤ 'f' then some (c.toNat - 87)
  else if 'A' ≤ c && c ≤ 'F' then some (c.toNat - 55)
  else none

/-- Four hexadecimal digits.  Fewer than four octets are an early end. -/
def scanHex (cs : List Char) : Except TextError (Scanned Nat) :=
  match cs with
  | a :: b :: c :: d :: rest =>
      match hexDigit? a, hexDigit? b, hexDigit? c, hexDigit? d with
      | some w, some x, some y, some z => .ok (((w * 16 + x) * 16 + y) * 16 + z, rest)
      | _, _, _, _ => .error .malformed
  | short =>
      if 4 ≤ short.foldl (fun n c => n + c.utf8Size) 0 then .error .malformed else .error .endOfText

/-- The second half of a character beyond the basic plane. -/
def scanTrail (lead : Nat) (cs : List Char) : Except TextError (Scanned Char) :=
  match cs with
  | '\\' :: 'u' :: rest => do
      let (trail, rest) ← scanHex rest
      if 0xdc00 ≤ trail ∧ trail ≤ 0xdfff then
        .ok (Char.ofNat (0x10000 + (lead - 0xd800) * 0x400 + (trail - 0xdc00)), rest)
      else .error .malformed
  | [] | ['\\'] => .error .endOfText
  | _ => .error .malformed

/-- What an escape stands for, after its backslash. -/
def scanEscape (cs : List Char) : Except TextError (Scanned Char) :=
  match cs with
  | [] => .error .endOfText
  | c :: rest =>
      if c = '"' ∨ c = '\\' ∨ c = '/' then .ok (c, rest)
      else if c = 'b' then .ok ('\x08', rest)
      else if c = 'f' then .ok ('\x0c', rest)
      else if c = 'n' then .ok ('\n', rest)
      else if c = 'r' then .ok ('\r', rest)
      else if c = 't' then .ok ('\t', rest)
      else if c = 'u' then do
        let (unit, rest) ← scanHex rest
        if 0xdc00 ≤ unit ∧ unit ≤ 0xdfff then .error .malformed
        else if 0xd800 ≤ unit ∧ unit ≤ 0xdbff then scanTrail unit rest
        else .ok (Char.ofNat unit, rest)
      else .error .malformed

/-- The characters of a string up to its closing quote; `seen` holds those
before, last first. -/
def scanString : Nat → List Char → List Char → Except TextError (Scanned String)
  | 0, _, _ => .error .endOfText
  | fuel + 1, seen, cs =>
      match cs with
      | [] => .error .endOfText
      | c :: rest =>
          if c = '"' then .ok (String.ofList seen.reverse, rest)
          else if c = '\\' then do
            let (plain, rest) ← scanEscape rest
            scanString fuel (plain :: seen) rest
          else if c.toNat < 32 then .error .malformed
          else scanString fuel (c :: seen) rest

/-! ## Numbers -/

/-- Whether a significand stays below `2 ^ 64`. -/
def fits (n : Nat) : Bool := n < 0x10000000000000000

/-- Digits before the point: those that fit are kept, the others are counted. -/
def wholeDigits (ds : List Char) : Nat × Nat :=
  ds.foldl (fun (kept, dropped) d =>
    let next := kept * 10 + (d.toNat - 48)
    if dropped = 0 ∧ fits next then (next, 0) else (kept, dropped + 1)) (0, 0)

/-- Digits after the point: those that fit are kept and counted. -/
def fractionDigits : List Char → Nat → Nat → Nat × Nat
  | [], kept, count => (kept, count)
  | d :: ds, kept, count =>
      let next := kept * 10 + (d.toNat - 48)
      if fits next then fractionDigits ds next (count + 1) else (kept, count)

/-- The value of a run of digits. -/
def digitsValue (ds : List Char) : Nat :=
  ds.foldl (fun n d => n * 10 + (d.toNat - 48)) 0

/-- Some digits; at least one is needed. -/
def scanDigits (cs : List Char) : Except TextError (Scanned (List Char)) :=
  match cs.takeWhile Char.isDigit, cs.dropWhile Char.isDigit with
  | [], [] => .error .endOfText
  | [], _ => .error .malformed
  | ds, rest => .ok (ds, rest)

/-- The exponent after its letter. -/
def scanExponent (cs : List Char) : Except TextError (Scanned Int) := do
  let (negative, cs) := match cs with
    | '+' :: rest => (false, rest)
    | '-' :: rest => (true, rest)
    | other => (false, other)
  let (ds, rest) ← scanDigits cs
  let size : Int := digitsValue ds
  .ok (if negative then -size else size, rest)

/-- The number with these parts. -/
def realNumber (negative : Bool) (kept : Nat) (exponent : Int) :
    Except TextError Number :=
  if kept = 0 then .ok (.real ⟨negative, 0⟩)
  else if 1000 < exponent then .error .malformed
  else if exponent < -1000 then .ok (.real ⟨negative, 0⟩)
  else match Double.ofDecimal? negative kept exponent with
    | some d => .ok (.real d)
    | none => .error .malformed

/-- A whole number, exact where 64 bits hold it. -/
def wholeNumber (negative : Bool) (kept dropped : Nat) : Except TextError Number :=
  if dropped = 0 ∧ negative = false then .ok (.integer kept)
  else if dropped = 0 ∧ 0 < kept ∧ kept ≤ 0x8000000000000000 then .ok (.integer (-kept))
  else realNumber negative kept dropped

/-- An exponent part, if there is one, and the number it completes. -/
def scanScaled (negative : Bool) (kept : Nat) (exponent : Int) (cs : List Char) :
    Except TextError (Scanned Number) :=
  match cs with
  | c :: rest =>
      if c = 'e' ∨ c = 'E' then do
        let (shift, rest) ← scanExponent rest
        .ok (← realNumber negative kept (exponent + shift), rest)
      else do .ok (← realNumber negative kept exponent, cs)
  | [] => do .ok (← realNumber negative kept exponent, cs)

/-- A number after its sign. -/
def scanUnsigned (negative : Bool) (cs : List Char) : Except TextError (Scanned Number) := do
  let (ds, rest) ← scanDigits cs
  if ds.head? = some '0' ∧ 1 < ds.length then .error .malformed
  else
    let (kept, dropped) := wholeDigits ds
    match rest with
    | '.' :: rest => do
        let (ds, rest) ← scanDigits rest
        let (kept, count) := fractionDigits ds kept 0
        scanScaled negative kept ((dropped : Int) - count) rest
    | c :: _ =>
        if c = 'e' ∨ c = 'E' then scanScaled negative kept dropped rest
        else do .ok (← wholeNumber negative kept dropped, rest)
    | [] => do .ok (← wholeNumber negative kept dropped, rest)

/-- A number. -/
def scanNumber (cs : List Char) : Except TextError (Scanned Number) :=
  match cs with
  | '-' :: rest => scanUnsigned true rest
  | _ => scanUnsigned false cs

/-! ## Values -/

/-- The rest of a word that has only one continuation. -/
def scanWord (value : Json) : List Char → List Char → Except TextError (Scanned Json)
  | [], cs => .ok (value, cs)
  | _ :: _, [] => .error .endOfText
  | w :: ws, c :: cs => if w = c then scanWord value ws cs else .error .malformed

/-- How deep values may nest, counted with the level that is refused. -/
def depthLimit : Nat := 128

mutual

/-- A value; `room` counts the levels that may still be opened, plus one. -/
def scanValue : Nat → Nat → List Char → Except TextError (Scanned Json)
  | 0, _, _ => .error .endOfText
  | fuel + 1, room, cs =>
      match skipBlanks cs with
      | [] => .error .endOfText
      | c :: rest =>
          if c = '"' then do
            let (s, rest) ← scanString (rest.length + 1) [] rest
            .ok (.string s, rest)
          else if c = '[' then
            if room ≤ 1 then .error .malformed
            else do
              let (items, rest) ← scanItems fuel (room - 1) true rest
              .ok (.array items, rest)
          else if c = '\x7b' then
            if room ≤ 1 then .error .malformed
            else do
              let (fields, rest) ← scanFields fuel (room - 1) true rest
              .ok (.object fields, rest)
          else if c = 'n' then scanWord .null ['u', 'l', 'l'] rest
          else if c = 't' then scanWord (.boolean true) ['r', 'u', 'e'] rest
          else if c = 'f' then scanWord (.boolean false) ['a', 'l', 's', 'e'] rest
          else if c = '-' ∨ c.isDigit then do
            let (n, rest) ← scanNumber (c :: rest)
            .ok (.number n, rest)
          else .error .malformed

/-- The items of an array up to its bracket. -/
def scanItems : Nat → Nat → Bool → List Char → Except TextError (Scanned (List Json))
  | 0, _, _, _ => .error .endOfText
  | fuel + 1, room, first, cs =>
      match skipBlanks cs with
      | [] => .error .endOfText
      | c :: rest =>
          if c = ']' then .ok ([], rest)
          else if first then do
            let (item, rest) ← scanValue fuel room (c :: rest)
            let (items, rest) ← scanItems fuel room false rest
            .ok (item :: items, rest)
          else if c = ',' then do
            let (item, rest) ← scanValue fuel room rest
            let (items, rest) ← scanItems fuel room false rest
            .ok (item :: items, rest)
          else .error .malformed

/-- The fields of an object up to its brace. -/
def scanFields : Nat → Nat → Bool → List Char → Except TextError (Scanned (List (String × Json)))
  | 0, _, _, _ => .error .endOfText
  | fuel + 1, room, first, cs =>
      match skipBlanks cs with
      | [] => .error .endOfText
      | c :: rest =>
          if c = '\x7d' then .ok ([], rest)
          else if first then scanField fuel room (c :: rest)
          else if c = ',' then scanField fuel room (skipBlanks rest)
          else .error .malformed

/-- A field that must stand here, and the fields after it. -/
def scanField : Nat → Nat → List Char → Except TextError (Scanned (List (String × Json)))
  | 0, _, _ => .error .endOfText
  | _, _, [] => .error .endOfText
  | fuel + 1, room, c :: rest =>
      if c = '"' then do
        let (name, rest) ← scanString (rest.length + 1) [] rest
        match skipBlanks rest with
        | [] => .error .endOfText
        | c :: rest =>
            if c = ':' then do
              let (value, rest) ← scanValue fuel room rest
              let (fields, rest) ← scanFields fuel room false rest
              .ok ((name, value) :: fields, rest)
            else .error .malformed
      else .error .malformed

end

/-- Room for every nested call on a text of `n` characters. -/
def callBound (n : Nat) : Nat := 2 * n + 4

/-- A value with nothing but blanks after it, as it is written. -/
def parse (cs : List Char) : Except TextError Json := do
  let (value, rest) ← scanValue (callBound cs.length) depthLimit cs
  if (skipBlanks rest).isEmpty then .ok value else .error .malformed

/-- A value in UTF-8 octets, as it is written. -/
def parseOctets? (octets : List UInt8) : Option Json := do
  let text ← String.fromUTF8? ⟨octets.toArray⟩
  (parse text.toList).toOption

/-! ## Objects -/

/-- Why a text is not a JSON object. -/
inductive ObjectTextError where
  | text (error : TextError)
  | notAnObject
deriving DecidableEq, Repr

/-- A text that must be an object.  What else its first character opens is
refused at once, an array without reading its items. -/
def parseObject (cs : List Char) : Except ObjectTextError (List (String × Json)) :=
  match skipBlanks cs with
  | '\x7b' :: _ =>
      match parse cs with
      | .ok (.object fields) => .ok fields
      | .ok _ => .error .notAnObject
      | .error e => .error (.text e)
  | '[' :: _ => .error .notAnObject
  | _ =>
      match scanValue (callBound cs.length) depthLimit cs with
      | .ok _ => .error .notAnObject
      | .error e => .error (.text e)

/-- An object is read as the whole of its text. -/
theorem parse_of_parseObject {cs : List Char} {fields : List (String × Json)}
    (h : parseObject cs = .ok fields) : parse cs = .ok (.object fields) := by
  unfold parseObject at h
  split at h
  · split at h
    · rename_i hread
      cases h
      exact hread
    · cases h
    · cases h
  · cases h
  · split at h
    · cases h
    · cases h

-- Repeated fields are kept as they are written.
example :
    parseObject "\x7b\"a\": 1, \"a\": -0 \x7d".toList =
      .ok [("a", .number (.integer 1)), ("a", .number (.real ⟨true, 0⟩))] := by
  with_unfolding_all rfl

end WebAuth.Json
