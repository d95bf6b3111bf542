import WebAuth.Text.Printable

/-!
# Quoted display

A text is displayed between double quotes.  Quotes and backslashes are escaped,
four common controls have short escapes, and every other character that leaves
no mark of its own is written as its code point.  A list of texts is displayed
in brackets.

Main results:

* `displayChar_of_printable`: ordinary characters stand for themselves.
-/

namespace WebAuth.Text

/-- The display of one character inside quotes. -/
def displayChar (c : Char) : List Char :=
  if c = '"' ∨ c = '\\' then ['\\', c]
  else if c = '\x00' then ['\\', '0']
  else if c = '\t' then ['\\', 't']
  else if c = '\n' then ['\\', 'n']
  else if c = '\r' then ['\\', 'r']
  else if isPrintable c then [c]
  else ['\\', 'u', '\x7b'] ++ Nat.toDigits 16 c.toNat ++ ['\x7d']

/-- A text between quotes. -/
def quoted (s : String) : String :=
  String.ofList ('"' :: s.toList.flatMap displayChar ++ ['"'])

/-- A list of texts in brackets. -/
def quotedList (texts : List String) : String :=
  "[" ++ ", ".intercalate (texts.map quoted) ++ "]"

/-- A printable character other than the quote and the backslash stands for
itself. -/
theorem displayChar_of_printable {c : Char} (hquote : c ≠ '"') (hslash : c ≠ '\\')
    (hnul : c ≠ '\x00') (htab : c ≠ '\t') (hline : c ≠ '\n') (hreturn : c ≠ '\r')
    (h : isPrintable c = true) : displayChar c = [c] := by
  simp [displayChar, hquote, hslash, hnul, htab, hline, hreturn, h]

end WebAuth.Text
