/-!
# Percent escapes

Characters that may not stand in a part of an address are replaced by the escapes
of their UTF-8 octets.  Each part has its own class of characters to escape;
characters beyond ASCII and controls are in every class.

Main results:

* `Percent.encode_of_plain`: a text without such characters stays as it is.
-/

namespace WebAuth.Percent

/-- Controls and characters beyond ASCII. -/
def isControl (c : Char) : Bool := c.toNat < 32 || 126 < c.toNat

/-- What is escaped in fragments. -/
def inFragment (c : Char) : Bool :=
  isControl c || [' ', '"', '<', '>', '\x60'].contains c

/-- What is escaped in paths. -/
def inPath (c : Char) : Bool :=
  inFragment c || ['#', '?', '\x7b', '\x7d'].contains c

/-- What is escaped in user names and passwords. -/
def inUserInfo (c : Char) : Bool :=
  inPath c || ['/', ':', ';', '=', '@', '[', '\\', ']', '^', '|'].contains c

/-- What is escaped in queries. -/
def inQuery (c : Char) : Bool :=
  isControl c || [' ', '"', '#', '<', '>'].contains c

/-- What is escaped in queries of special schemes. -/
def inSpecialQuery (c : Char) : Bool := inQuery c || c = '\''

/-- A hexadecimal digit. -/
def hexDigit (n : Nat) : Char :=
  if n < 10 then Char.ofNat (48 + n) else Char.ofNat (55 + n)

/-- The escape of an octet. -/
def escapeOctet (octet : UInt8) : List Char :=
  ['%', hexDigit (octet.toNat / 16), hexDigit (octet.toNat % 16)]

/-- A character, escaped if it is in the class. -/
def encodeChar (isEscaped : Char → Bool) (c : Char) : List Char :=
  if isEscaped c then (String.singleton c).toUTF8.data.toList.flatMap escapeOctet else [c]

/-- A text with the characters of a class escaped. -/
def encode (isEscaped : Char → Bool) (cs : List Char) : List Char :=
  cs.flatMap (encodeChar isEscaped)

/-- The value of a hexadecimal digit of either case. -/
def hexValue? (c : Char) : Option Nat :=
  if '0' ≤ c && c ≤ '9' then some (c.toNat - 48)
  else if 'a' ≤ c && c ≤ 'f' then some (c.toNat - 87)
  else if 'A' ≤ c && c ≤ 'F' then some (c.toNat - 55)
  else none

/-- The octets of a text in which escapes stand for octets. -/
def decode : List Char → List UInt8
  | [] => []
  | '%' :: a :: b :: rest =>
      match hexValue? a, hexValue? b with
      | some m, some n => UInt8.ofNat (m * 16 + n) :: decode rest
      | _, _ => 0x25 :: decode (a :: b :: rest)
  | c :: rest => (String.singleton c).toUTF8.data.toList ++ decode rest

/-- A text without characters of the class stays as it is. -/
theorem encode_of_plain {isEscaped : Char → Bool} {cs : List Char}
    (h : ∀ c ∈ cs, isEscaped c = false) : encode isEscaped cs = cs := by
  induction cs with
  | nil => rfl
  | cons c rest ih =>
      have hrest := ih (fun d hd => h d (List.mem_cons_of_mem c hd))
      rw [encode, List.flatMap_cons, encodeChar, h c List.mem_cons_self]
      simpa [encode] using hrest

end WebAuth.Percent
