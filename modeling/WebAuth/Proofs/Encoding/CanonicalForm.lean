import Mathlib.Algebra.Group.Nat.Defs
import WebAuth.Encoding.Base64

/-!
# The canonical form of base64

Octets have one text, and no other text is read.  So two texts never stand for the same
octets, and a text that is changed in any way, be it in bits that no octet uses or in its
padding, stands for other octets or for none.  Which text it is follows from the binary
places of the octets.

Main results:

- Theorem `Alphabet.IsProper.decode?_eq_some_iff`: reading undoes writing, and nothing else
  is read.
- Theorem `Alphabet.forall_mem_encode`: the characters of a text.
- Theorem `spells_iff`: the text that is written, by binary places.
-/

namespace WebAuth.Encoding

namespace Alphabet

/-! ## Symbols and their numbers -/

/-- The code of a letter or digit. -/
def IsPlain (c : Char) : Prop :=
  (65 ≤ c.toNat ∧ c.toNat ≤ 90) ∨ (97 ≤ c.toNat ∧ c.toNat ≤ 122) ∨
    (48 ≤ c.toNat ∧ c.toNat ≤ 57)

instance (c : Char) : Decidable (IsPlain c) :=
  inferInstanceAs (Decidable (_ ∨ _))

/-- An alphabet in which every symbol has one number and the mark of padding has none. -/
structure IsProper (a : Alphabet) : Prop where
  not_plain62 : ¬IsPlain a.symbol62
  not_plain63 : ¬IsPlain a.symbol63
  distinct : a.symbol62 ≠ a.symbol63
  not_mark62 : a.symbol62 ≠ '='
  not_mark63 : a.symbol63 ≠ '='

theorem isProper_standard : standard.IsProper :=
  ⟨by decide, by decide, by decide, by decide, by decide⟩

theorem isProper_addressSafe : addressSafe.IsProper :=
  ⟨by decide, by decide, by decide, by decide, by decide⟩

variable {a : Alphabet} {c d e f : Char} {n : Nat}

/-- The number of a symbol by its code. -/
theorem digit?_eq (a : Alphabet) (c : Char) :
    a.digit? c =
      if 65 ≤ c.toNat ∧ c.toNat ≤ 90 then some (c.toNat - 65)
      else if 97 ≤ c.toNat ∧ c.toNat ≤ 122 then some (c.toNat - 71)
      else if 48 ≤ c.toNat ∧ c.toNat ≤ 57 then some (c.toNat + 4)
      else if c = a.symbol62 then some 62
      else if c = a.symbol63 then some 63
      else none := by
  have hle (x y : Char) : x ≤ y ↔ x.toNat ≤ y.toNat := UInt32.le_iff_toNat_le
  simp only [digit?, Bool.and_eq_true, decide_eq_true_eq, hle]
  rfl

/-- The code of a letter or digit by its number. -/
theorem toNat_symbol_cases (a : Alphabet) (h : n < 62) :
    n < 26 ∧ (a.symbol n).toNat = 65 + n ∨
      (26 ≤ n ∧ n < 52) ∧ (a.symbol n).toNat = 71 + n ∨
        52 ≤ n ∧ (a.symbol n).toNat = n - 4 := by
  have hcode (k : Nat) (hk : k < 128) : (Char.ofNat k).toNat = k := by
    have hvalid : k.isValidChar := Or.inl (by omega)
    rw [Char.ofNat, dif_pos hvalid]
    rfl
  by_cases h26 : n < 26
  · rw [symbol, if_pos h26]
    exact Or.inl ⟨h26, hcode _ (by omega)⟩
  · by_cases h52 : n < 52
    · rw [symbol, if_neg h26, if_pos h52]
      exact Or.inr (Or.inl ⟨⟨by omega, h52⟩, hcode _ (by omega)⟩)
    · rw [symbol, if_neg h26, if_neg h52, if_pos h]
      exact Or.inr (Or.inr ⟨by omega, hcode _ (by omega)⟩)

@[simp]
theorem symbol_62 (a : Alphabet) : a.symbol 62 = a.symbol62 :=
  rfl

@[simp]
theorem symbol_63 (a : Alphabet) : a.symbol 63 = a.symbol63 :=
  rfl

/-- A symbol is a letter or digit or one of the last two. -/
theorem symbol_cases (a : Alphabet) (h : n < 64) :
    n < 62 ∧ IsPlain (a.symbol n) ∨
      n = 62 ∧ a.symbol n = a.symbol62 ∨ n = 63 ∧ a.symbol n = a.symbol63 := by
  by_cases hn : n < 62
  · refine Or.inl ⟨hn, ?_⟩
    have hcode := toNat_symbol_cases a hn
    unfold IsPlain
    omega
  · have hlast : n = 62 ∨ n = 63 := by omega
    rcases hlast with rfl | rfl
    · exact Or.inr (Or.inl ⟨rfl, rfl⟩)
    · exact Or.inr (Or.inr ⟨rfl, rfl⟩)

namespace IsProper

variable (ha : a.IsProper)

include ha

/-- The mark of padding is no symbol. -/
theorem symbol_ne_mark (h : n < 64) : a.symbol n ≠ '=' := by
  rcases a.symbol_cases h with ⟨-, hsymbol⟩ | ⟨-, hsymbol⟩ | ⟨-, hsymbol⟩
  · intro hmark
    rw [hmark] at hsymbol
    exact absurd hsymbol (by decide)
  · rw [hsymbol]
    exact ha.not_mark62
  · rw [hsymbol]
    exact ha.not_mark63

/-- A character has a number exactly if it is the symbol of the number. -/
theorem digit?_eq_some_iff : a.digit? c = some n ↔ n < 64 ∧ c = a.symbol n := by
  have h62 := ha.not_plain62
  have h63 := ha.not_plain63
  unfold IsPlain at h62 h63
  constructor
  · intro h
    rw [digit?_eq] at h
    -- A letter or digit is known by its code.
    have hplain {k : Nat} (hk : k < 62)
        (hcode : k < 26 ∧ c.toNat = 65 + k ∨ (26 ≤ k ∧ k < 52) ∧ c.toNat = 71 + k ∨
          52 ≤ k ∧ c.toNat = k - 4) : k < 64 ∧ c = a.symbol k := by
      have hsymbol := toNat_symbol_cases a hk
      exact ⟨by omega, Char.toNat_inj.mp (by omega)⟩
    split at h
    · cases h
      exact hplain (by omega) (by omega)
    · split at h
      · cases h
        exact hplain (by omega) (by omega)
      · split at h
        · cases h
          exact hplain (by omega) (by omega)
        · split at h
          · cases h
            rename_i hsymbol
            exact ⟨by omega, hsymbol⟩
          · split at h
            · cases h
              rename_i hsymbol
              exact ⟨by omega, hsymbol⟩
            · cases h
  · rintro ⟨hn, rfl⟩
    rw [digit?_eq]
    by_cases hplain : n < 62
    · rcases toNat_symbol_cases a hplain with ⟨hn, hcode⟩ | ⟨hn, hcode⟩ | ⟨hn, hcode⟩
      · rw [if_pos (by omega), hcode]
        congr 1
        omega
      · rw [if_neg (by omega), if_pos (by omega), hcode]
        congr 1
        omega
      · rw [if_neg (by omega), if_neg (by omega), if_pos (by omega), hcode]
        congr 1
        omega
    · have hlast : n = 62 ∨ n = 63 := by omega
      rcases hlast with rfl | rfl
      · rw [symbol_62, if_neg (by omega), if_neg (by omega), if_neg (by omega), if_pos rfl]
      · rw [symbol_63, if_neg (by omega), if_neg (by omega), if_neg (by omega),
          if_neg ha.distinct.symm, if_pos rfl]

/-! ## Groups -/

variable {octets : List UInt8}

omit ha in
theorem toNat_ofNat_of_lt {k : Nat} (h : k < 256) : (UInt8.ofNat k).toNat = k :=
  UInt8.toNat_ofNat_of_lt' h

omit ha in
theorem ofNat_eq_of_toNat {k : Nat} {x : UInt8} (h : k = x.toNat) : UInt8.ofNat k = x := by
  rw [h, UInt8.ofNat_toNat]

/-- Two symbols for one octet. -/
theorem lastOctet?_eq_some_iff :
    a.lastOctet? c d = some octets ↔
      ∃ x : UInt8, octets = [x] ∧ c = a.symbol (x.toNat / 4) ∧
        d = a.symbol (x.toNat % 4 * 16) := by
  simp only [lastOctet?, bind, Option.bind_eq_some_iff, ha.digit?_eq_some_iff,
    Option.ite_none_right_eq_some, Option.some.injEq]
  constructor
  · rintro ⟨m, ⟨hm, rfl⟩, n, ⟨hn, rfl⟩, hloose, rfl⟩
    have hx := toNat_ofNat_of_lt (k := m * 4 + n / 16) (by omega)
    exact ⟨_, rfl, congrArg a.symbol (by omega), congrArg a.symbol (by omega)⟩
  · rintro ⟨x, rfl, rfl, rfl⟩
    have hx := x.toNat_lt
    refine ⟨_, ⟨by omega, rfl⟩, _, ⟨by omega, rfl⟩, by omega, ?_⟩
    rw [ofNat_eq_of_toNat (x := x) (by omega)]

/-- Three symbols for two octets. -/
theorem lastTwoOctets?_eq_some_iff :
    a.lastTwoOctets? c d e = some octets ↔
      ∃ x y : UInt8, octets = [x, y] ∧ c = a.symbol (x.toNat / 4) ∧
        d = a.symbol (x.toNat % 4 * 16 + y.toNat / 16) ∧ e = a.symbol (y.toNat % 16 * 4) := by
  simp only [lastTwoOctets?, bind, Option.bind_eq_some_iff, ha.digit?_eq_some_iff,
    Option.ite_none_right_eq_some, Option.some.injEq]
  constructor
  · rintro ⟨m, ⟨hm, rfl⟩, n, ⟨hn, rfl⟩, k, ⟨hk, rfl⟩, hloose, rfl⟩
    have hx := toNat_ofNat_of_lt (k := m * 4 + n / 16) (by omega)
    have hy := toNat_ofNat_of_lt (k := n % 16 * 16 + k / 4) (by omega)
    exact ⟨_, _, rfl, congrArg a.symbol (by omega), congrArg a.symbol (by omega),
      congrArg a.symbol (by omega)⟩
  · rintro ⟨x, y, rfl, rfl, rfl, rfl⟩
    have hx := x.toNat_lt
    have hy := y.toNat_lt
    refine ⟨_, ⟨by omega, rfl⟩, _, ⟨by omega, rfl⟩, _, ⟨by omega, rfl⟩, by omega, ?_⟩
    rw [ofNat_eq_of_toNat (x := x) (by omega), ofNat_eq_of_toNat (x := y) (by omega)]

/-- Four symbols for three octets. -/
theorem threeOctets?_eq_some_iff :
    a.threeOctets? c d e f = some octets ↔
      ∃ x y z : UInt8, octets = [x, y, z] ∧ c = a.symbol (x.toNat / 4) ∧
        d = a.symbol (x.toNat % 4 * 16 + y.toNat / 16) ∧
        e = a.symbol (y.toNat % 16 * 4 + z.toNat / 64) ∧ f = a.symbol (z.toNat % 64) := by
  simp only [threeOctets?, bind, Option.bind_eq_some_iff, ha.digit?_eq_some_iff,
    Option.some.injEq]
  constructor
  · rintro ⟨m, ⟨hm, rfl⟩, n, ⟨hn, rfl⟩, k, ⟨hk, rfl⟩, l, ⟨hl, rfl⟩, rfl⟩
    have hx := toNat_ofNat_of_lt (k := m * 4 + n / 16) (by omega)
    have hy := toNat_ofNat_of_lt (k := n % 16 * 16 + k / 4) (by omega)
    have hz := toNat_ofNat_of_lt (k := k % 4 * 64 + l) (by omega)
    exact ⟨_, _, _, rfl, congrArg a.symbol (by omega), congrArg a.symbol (by omega),
      congrArg a.symbol (by omega), congrArg a.symbol (by omega)⟩
  · rintro ⟨x, y, z, rfl, rfl, rfl, rfl, rfl⟩
    have hx := x.toNat_lt
    have hy := y.toNat_lt
    have hz := z.toNat_lt
    refine ⟨_, ⟨by omega, rfl⟩, _, ⟨by omega, rfl⟩, _, ⟨by omega, rfl⟩, _, ⟨by omega, rfl⟩, ?_⟩
    rw [ofNat_eq_of_toNat (x := x) (by omega), ofNat_eq_of_toNat (x := y) (by omega),
      ofNat_eq_of_toNat (x := z) (by omega)]

omit ha in
/-- A full group is read before what follows it. -/
theorem decode?_group (hf : f ≠ '=') (rest : List Char) :
    a.decode? (c :: d :: e :: f :: rest) =
      (a.threeOctets? c d e f).bind (fun head => (a.decode? rest).map (head ++ ·)) := by
  cases rest with
  | nil => simp [decode?, hf]
  | cons g rest =>
      rw [decode?]
      · cases a.threeOctets? c d e f with
        | none => rfl
        | some head => cases a.decode? (g :: rest) <;> rfl
      · simp

/-- What is written is read back. -/
theorem decode?_encode (octets : List UInt8) : a.decode? (a.encode octets) = some octets := by
  fun_induction encode a octets with
  | case1 => rfl
  | case2 x =>
      have hlast := ha.lastOctet?_eq_some_iff.mpr ⟨x, rfl, rfl, rfl⟩
      cases hpadded : a.padded with
      | true => simpa [padding, hpadded, decode?] using hlast
      | false => simpa [padding, hpadded, decode?] using hlast
  | case3 x y =>
      have hlast := ha.lastTwoOctets?_eq_some_iff.mpr ⟨x, y, rfl, rfl, rfl, rfl⟩
      have hmark := ha.symbol_ne_mark (n := y.toNat % 16 * 4) (by omega)
      cases hpadded : a.padded with
      | true => simpa [padding, hpadded, decode?, hmark] using hlast
      | false => simpa [padding, hpadded, decode?] using hlast
  | case4 x y z rest ih =>
      have hgroup := ha.threeOctets?_eq_some_iff.mpr ⟨x, y, z, rfl, rfl, rfl, rfl, rfl⟩
      rw [decode?_group (ha.symbol_ne_mark (by omega)), hgroup, ih]
      rfl

/-- Only what is written is read. -/
theorem eq_encode_of_decode? {text : List Char} (h : a.decode? text = some octets) :
    text = a.encode octets := by
  fun_induction decode? a text generalizing octets with
  | case1 =>
      cases h
      rfl
  | case2 c d hpadded => cases h
  | case3 c d hpadded =>
      obtain ⟨x, rfl, rfl, rfl⟩ := ha.lastOctet?_eq_some_iff.mp h
      simp [encode, padding, hpadded]
  | case4 c d e hpadded => cases h
  | case5 c d e hpadded =>
      obtain ⟨x, y, rfl, rfl, rfl, rfl⟩ := ha.lastTwoOctets?_eq_some_iff.mp h
      simp [encode, padding, hpadded]
  | case6 c d f hmarks =>
      simp only [Bool.and_eq_true, decide_eq_true_eq] at hmarks
      obtain ⟨hpadded, rfl⟩ := hmarks
      obtain ⟨x, rfl, rfl, rfl⟩ := ha.lastOctet?_eq_some_iff.mp h
      simp [encode, padding, hpadded]
  | case7 c d e f hmarks hsymbol =>
      simp only [Bool.and_eq_true, decide_eq_true_eq] at hmarks
      obtain ⟨hpadded, rfl⟩ := hmarks
      obtain ⟨x, y, rfl, rfl, rfl, rfl⟩ := ha.lastTwoOctets?_eq_some_iff.mp h
      simp [encode, padding, hpadded]
  | case8 c d e f hmarks =>
      obtain ⟨x, y, z, rfl, rfl, rfl, rfl, rfl⟩ := ha.threeOctets?_eq_some_iff.mp h
      rfl
  | case9 c d e f rest hmore ih =>
      simp only [bind, Option.bind_eq_some_iff, Option.some.injEq] at h
      obtain ⟨head, hhead, tail, htail, rfl⟩ := h
      obtain ⟨x, y, z, rfl, rfl, rfl, rfl, rfl⟩ := ha.threeOctets?_eq_some_iff.mp hhead
      rw [ih htail]
      rfl
  | case10 => cases h

/-- Reading undoes writing, and nothing else is read. -/
theorem decode?_eq_some_iff {text : List Char} :
    a.decode? text = some octets ↔ text = a.encode octets := by
  constructor
  · exact ha.eq_encode_of_decode?
  · rintro rfl
    exact ha.decode?_encode octets

-- A last symbol with bits beyond the last octet is refused.
example :
    standard.decode? ['a', 'G', 'k', '='] = some [0x68, 0x69] ∧
      standard.decode? ['a', 'G', 'l', '='] = none := by
  decide

end IsProper

/-! ## The characters of a text -/

/-- A text consists of symbols and, if it is padded, of marks. -/
theorem forall_mem_encode {P : Char → Prop} (hsymbol : ∀ n < 64, P (a.symbol n))
    (hmark : a.padded = true → P '=') (octets : List UInt8) : ∀ c ∈ a.encode octets, P c := by
  have hpadding (k : Nat) : ∀ c ∈ a.padding k, P c := by
    unfold padding
    split
    · rename_i hpadded
      intro c hc
      rw [(List.mem_replicate.mp hc).2]
      exact hmark hpadded
    · exact List.forall_mem_nil _
  fun_induction encode a octets with
  | case1 => exact List.forall_mem_nil _
  | case2 x =>
      have hx := x.toNat_lt
      simp only [List.forall_mem_cons]
      exact ⟨hsymbol _ (by omega), hsymbol _ (by omega), hpadding 2⟩
  | case3 x y =>
      have hx := x.toNat_lt
      have hy := y.toNat_lt
      simp only [List.forall_mem_cons]
      exact ⟨hsymbol _ (by omega), hsymbol _ (by omega), hsymbol _ (by omega), hpadding 1⟩
  | case4 x y z rest ih =>
      have hx := x.toNat_lt
      have hy := y.toNat_lt
      have hz := z.toNat_lt
      simp only [List.forall_mem_cons]
      exact ⟨hsymbol _ (by omega), hsymbol _ (by omega), hsymbol _ (by omega),
        hsymbol _ (by omega), ih⟩

end Alphabet

/-! ## What a text spells -/

open Alphabet

/-- The last binary places of a number, the highest one first. -/
def bits : Nat → Nat → List Bool
  | 0, _ => []
  | width + 1, n => bits width (n / 2) ++ [decide (n % 2 = 1)]

@[simp]
theorem length_bits (width n : Nat) : (bits width n).length = width := by
  induction width generalizing n with
  | zero => rfl
  | succ width ih => simp [bits, ih]

/-- Higher places and lower ones. -/
theorem bits_add {k l m n : Nat} (h : n < 2 ^ l) :
    bits (k + l) (m * 2 ^ l + n) = bits k m ++ bits l n := by
  induction l generalizing n with
  | zero =>
      have hn : n = 0 := by omega
      simp [hn, bits]
  | succ l ih =>
      have hdouble : m * 2 ^ (l + 1) = 2 * (m * 2 ^ l) := by
        rw [Nat.pow_succ, ← Nat.mul_assoc, Nat.mul_comm]
      have hhalf : (m * 2 ^ (l + 1) + n) / 2 = m * 2 ^ l + n / 2 := by omega
      have hlast : (m * 2 ^ (l + 1) + n) % 2 = n % 2 := by omega
      rw [← Nat.add_assoc, bits, hhalf, hlast, ih (by omega), List.append_assoc]
      rfl

/-- The places of any number, cut behind the first `k`. -/
theorem bits_eq_append (k l n : Nat) :
    bits (k + l) n = bits k (n / 2 ^ l) ++ bits l (n % 2 ^ l) := by
  rw [← bits_add (Nat.mod_lt _ (Nat.two_pow_pos l)), Nat.div_add_mod']

/-- A number is known by its places. -/
theorem eq_of_bits_eq {width m n : Nat} (hm : m < 2 ^ width) (hn : n < 2 ^ width)
    (h : bits width m = bits width n) : m = n := by
  induction width generalizing m n with
  | zero => omega
  | succ width ih =>
      obtain ⟨hhigh, hlast⟩ := List.append_inj h (by simp)
      have hhalf : m / 2 = n / 2 := ih (by omega) (by omega) hhigh
      have hparity : m % 2 = 1 ↔ n % 2 = 1 := by simpa using hlast
      omega

/-- The symbols of padded base64, each at the place of its number. -/
def table : List Char :=
  "ABCDEFGHIJKLMNOPQRSTUVWXYZabcdefghijklmnopqrstuvwxyz0123456789+/".toList

/-- The text spells the octets.  Their binary places, filled up with zeros to groups of six,
are those of the numbers of its symbols, and marks fill it up to groups of four. -/
def Spells (octets : List UInt8) (text : List Char) : Prop :=
  ∃ (digits : List Nat) (zeros marks : Nat), (∀ d ∈ digits, d < 64) ∧
    text = digits.map (fun d => table.getD d '=') ++ List.replicate marks '=' ∧
    digits.flatMap (bits 6) =
      octets.flatMap (fun x => bits 8 x.toNat) ++ List.replicate zeros false ∧
    zeros < 6 ∧ marks < 4 ∧ 4 ∣ digits.length + marks

theorem Alphabet.symbol_standard : ∀ n < 64, standard.symbol n = table.getD n '=' := by
  decide

section Groups

variable {x y z : Nat}

/-- The first group has the first six places of an octet. -/
theorem bits_first (x : Nat) : bits 8 x = bits 6 (x / 4) ++ bits 2 (x % 4) :=
  bits_eq_append 6 2 x

/-- The second group has the last two places of an octet and the first four of the next. -/
theorem bits_second (hy : y < 256) :
    bits 6 (x % 4 * 16 + y / 16) = bits 2 (x % 4) ++ bits 4 (y / 16) :=
  bits_add (k := 2) (l := 4) (by omega)

/-- The third group has the last four places of an octet and the first two of the next. -/
theorem bits_third (hz : z < 256) :
    bits 6 (y % 16 * 4 + z / 64) = bits 4 (y % 16) ++ bits 2 (z / 64) :=
  bits_add (k := 4) (l := 2) (by omega)

/-- Two groups for one octet. -/
theorem bits_lastOctet (x : Nat) :
    bits 6 (x / 4) ++ bits 6 (x % 4 * 16) = bits 8 x ++ List.replicate 4 false := by
  have hsecond : bits 6 (x % 4 * 2 ^ 4 + 0) = bits 2 (x % 4) ++ bits 4 0 :=
    bits_add (k := 2) (l := 4) (by omega)
  simp only [Nat.reducePow, Nat.add_zero] at hsecond
  rw [hsecond, bits_first, List.append_assoc]
  rfl

/-- Three groups for two octets. -/
theorem bits_lastTwoOctets (hy : y < 256) :
    bits 6 (x / 4) ++ (bits 6 (x % 4 * 16 + y / 16) ++ bits 6 (y % 16 * 4)) =
      bits 8 x ++ (bits 8 y ++ List.replicate 2 false) := by
  have hmiddle : bits 8 y = bits 4 (y / 16) ++ bits 4 (y % 16) := bits_eq_append 4 4 y
  have hthird : bits 6 (y % 16 * 2 ^ 2 + 0) = bits 4 (y % 16) ++ bits 2 0 :=
    bits_add (k := 4) (l := 2) (by omega)
  simp only [Nat.reducePow, Nat.add_zero] at hthird
  simp only [bits_second hy, hthird, bits_first, hmiddle, List.append_assoc]
  rfl

/-- Four groups for three octets. -/
theorem bits_threeOctets (hy : y < 256) (hz : z < 256) :
    bits 6 (x / 4) ++ (bits 6 (x % 4 * 16 + y / 16) ++
        (bits 6 (y % 16 * 4 + z / 64) ++ bits 6 (z % 64))) =
      bits 8 x ++ (bits 8 y ++ bits 8 z) := by
  have hmiddle : bits 8 y = bits 4 (y / 16) ++ bits 4 (y % 16) := bits_eq_append 4 4 y
  have hlast : bits 8 z = bits 2 (z / 64) ++ bits 6 (z % 64) := bits_eq_append 2 6 z
  simp only [bits_second hy, bits_third hz, bits_first, hmiddle, hlast, List.append_assoc]

end Groups

/-- What is written spells the octets. -/
theorem spells_encode (octets : List UInt8) : Spells octets (standard.encode octets) := by
  have hpadding (k : Nat) : standard.padding k = List.replicate k '=' := rfl
  fun_induction encode standard octets with
  | case1 => exact ⟨[], 0, 0, by simp, rfl, rfl, by omega, by omega, by simp⟩
  | case2 x =>
      have hx := x.toNat_lt
      refine ⟨[x.toNat / 4, x.toNat % 4 * 16], 4, 2, ?_, ?_, ?_, by omega, by omega, by simp⟩
      · simp only [List.forall_mem_cons]
        exact ⟨by omega, by omega, List.forall_mem_nil _⟩
      · rw [symbol_standard _ (by omega), symbol_standard _ (by omega), hpadding]
        rfl
      · simpa using bits_lastOctet x.toNat
  | case3 x y =>
      have hx := x.toNat_lt
      have hy := y.toNat_lt
      refine ⟨[x.toNat / 4, x.toNat % 4 * 16 + y.toNat / 16, y.toNat % 16 * 4], 2, 1, ?_, ?_, ?_,
        by omega, by omega, by simp⟩
      · simp only [List.forall_mem_cons]
        exact ⟨by omega, by omega, by omega, List.forall_mem_nil _⟩
      · rw [symbol_standard _ (by omega), symbol_standard _ (by omega),
          symbol_standard _ (by omega), hpadding]
        rfl
      · simpa using bits_lastTwoOctets hy
  | case4 x y z rest ih =>
      have hx := x.toNat_lt
      have hy := y.toNat_lt
      have hz := z.toNat_lt
      obtain ⟨digits, zeros, marks, hdigits, htext, hbits, hzeros, hmarks, hfull⟩ := ih
      refine ⟨x.toNat / 4 :: (x.toNat % 4 * 16 + y.toNat / 16) ::
        (y.toNat % 16 * 4 + z.toNat / 64) :: z.toNat % 64 :: digits, zeros, marks, ?_, ?_, ?_,
        hzeros, hmarks, ?_⟩
      · simp only [List.forall_mem_cons]
        exact ⟨by omega, by omega, by omega, by omega, hdigits⟩
      · rw [symbol_standard _ (by omega), symbol_standard _ (by omega),
          symbol_standard _ (by omega), symbol_standard _ (by omega), htext]
        rfl
      · have hgroup := bits_threeOctets (x := x.toNat) hy hz
        simp only [List.flatMap_cons, hbits, ← List.append_assoc] at hgroup ⊢
        rw [hgroup]
      · simp only [List.length_cons]
        omega

/-- Numbers of symbols are known by their places. -/
theorem eq_of_flatMap_bits_eq {digits others : List Nat} (hdigits : ∀ d ∈ digits, d < 64)
    (hothers : ∀ d ∈ others, d < 64) (hlength : digits.length = others.length)
    (h : digits.flatMap (bits 6) = others.flatMap (bits 6)) : digits = others := by
  induction digits generalizing others with
  | nil => exact (List.length_eq_zero_iff.mp hlength.symm).symm
  | cons d digits ih =>
      cases others with
      | nil => cases hlength
      | cons e others =>
          rw [List.forall_mem_cons] at hdigits hothers
          obtain ⟨hfirst, hrest⟩ := List.append_inj h (by simp)
          rw [eq_of_bits_eq hdigits.1 hothers.1 hfirst,
            ih hdigits.2 hothers.2 (Nat.succ.inj hlength) hrest]

/-- Octets have one spelling, which is what is written. -/
theorem spells_iff {octets : List UInt8} {text : List Char} :
    Spells octets text ↔ text = standard.encode octets := by
  constructor
  · rintro ⟨digits, zeros, marks, hdigits, rfl, hbits, hzeros, hmarks, hfull⟩
    obtain ⟨others, zeros', marks', hothers, htext, hbits', hzeros', hmarks', hfull'⟩ :=
      spells_encode octets
    -- Less than a group of zeros and less than a group of marks: their numbers are known.
    have hcount := congrArg List.length hbits
    have hcount' := congrArg List.length hbits'
    simp only [List.length_append, List.length_replicate, List.length_flatMap, length_bits,
      List.map_const', List.sum_replicate_nat] at hcount hcount'
    have hlength : digits.length = others.length := by omega
    obtain rfl : zeros = zeros' := by omega
    obtain rfl : marks = marks' := by omega
    rw [htext, eq_of_flatMap_bits_eq hdigits hothers hlength (hbits.trans hbits'.symm)]
  · rintro rfl
    exact spells_encode octets

end WebAuth.Encoding
