import WebAuth.Issuer.Discovery

/-!
# The issuer that a document declares

A document may declare its issuer by a value that is no text; then the JSON text of that
value is what is compared with the issuer that was asked for.  This cannot make a document
pass for somebody's: who was asked for was asked at an address, addresses start with the
letters of a scheme, and JSON texts start with a mark or are single words without a colon.

Main results:

- Theorem `Json.parse_compact`: no JSON text is an address.
- Theorem `Discovery.validate_eq_ok_iff`: an address is declared by itself, as a text, only.
-/

namespace WebAuth

open Text Decimal

/-! ## Texts that start with a mark -/

/-- A text starts with a character that is visible and no letter. -/
def StartsWithMark (cs : List Char) : Prop :=
  ∃ c rest, cs = c :: rest ∧ 32 < c.toNat ∧ c.isAlpha = false

namespace StartsWithMark

variable {c : Char} {cs : List Char}

/-- What follows the mark does not matter. -/
theorem append (h : StartsWithMark cs) (rest : List Char) : StartsWithMark (cs ++ rest) := by
  obtain ⟨c, after, rfl, hvisible, hletter⟩ := h
  exact ⟨c, after ++ rest, rfl, hvisible, hletter⟩

/-- The start of a text that is not empty has the text's mark. -/
theorem take (h : StartsWithMark cs) (n : Nat) : StartsWithMark (cs.take (n + 1)) := by
  obtain ⟨c, after, rfl, hvisible, hletter⟩ := h
  exact ⟨c, after.take n, rfl, hvisible, hletter⟩

/-- The mark counts. -/
theorem significant (h : StartsWithMark cs) : StartsWithMark (Url.significant cs) := by
  obtain ⟨c, rest, rfl, hvisible, hletter⟩ := h
  have hedge : decide (c.toNat ≤ 32) = false := by simpa using hvisible
  have hskipped : Url.isSkipped c = false := by
    have hne {d : Char} (hd : d.toNat ≤ 32) : c ≠ d := by
      rintro rfl
      omega
    simp [Url.isSkipped, hne (show '\t'.toNat ≤ 32 by decide),
      hne (show '\n'.toNat ≤ 32 by decide), hne (show '\r'.toNat ≤ 32 by decide)]
  refine ⟨c, (dropEndWhile (fun c => c.toNat ≤ 32) rest).filter (fun c => !Url.isSkipped c),
    ?_, hvisible, hletter⟩
  rw [Url.significant, List.dropWhile_cons_of_neg (by simpa using hvisible),
    dropEndWhile_cons hedge, List.filter_cons_of_pos (by simp [hskipped])]

/-- A scheme does not start with a mark. -/
theorem scheme?_eq_none (h : StartsWithMark cs) : Url.scheme? cs = none := by
  obtain ⟨c, rest, rfl, -, hletter⟩ := h
  simp [Url.scheme?, hletter]

/-- A text that starts with a mark is no address. -/
theorem parse_eq_error {s : String} (h : StartsWithMark s.toList) :
    Url.parse s = .error .relativeWithoutBase := by
  rw [Url.parse, Url.parseFrom, h.significant.scheme?_eq_none]

end StartsWithMark

/-! ## The first character of JSON texts -/

/-- A digit is a mark. -/
theorem startsWithMark_of_isDigit {c : Char} (h : c.isDigit = true) (rest : List Char) :
    StartsWithMark (c :: rest) := by
  have hrange : 48 ≤ c.toNat ∧ c.toNat ≤ 57 := by
    simp only [Char.isDigit, Bool.and_eq_true, decide_eq_true_eq, ge_iff_le,
      UInt32.le_iff_toNat_le] at h
    exact h
  have hletters : c.isAlpha = true → 65 ≤ c.toNat := by
    intro hletter
    rcases Bool.or_eq_true_iff.mp hletter with hupper | hlower
    · exact (of_decide_eq_true hupper).1
    · have hsmall : 97 ≤ c.toNat :=
        of_decide_eq_true (Bool.and_eq_true_iff.mp hlower).1
      omega
  refine ⟨c, rest, rfl, by omega, Bool.eq_false_iff.mpr fun hletter => ?_⟩
  have := hletters hletter
  omega

/-- A numeral starts with a mark. -/
theorem startsWithMark_toDigits (n : Nat) : StartsWithMark (Nat.toDigits 10 n) := by
  cases hdigits : Nat.toDigits 10 n with
  | nil => exact absurd hdigits Nat.toDigits_ne_nil
  | cons c rest =>
      refine startsWithMark_of_isDigit ?_ rest
      refine Nat.isDigit_of_mem_toDigits (b := 10) (n := n) (by decide) (by decide) ?_
      rw [hdigits]
      exact List.mem_cons_self

/-- The sign of a number is a mark. -/
theorem startsWithMark_minus (cs : List Char) : StartsWithMark ('-' :: cs) :=
  ⟨'-', cs, rfl, by decide, by decide⟩

/-- A real number starts with its sign or its first digit. -/
theorem Decimal.Double.startsWithMark_textWith (style : Double.Style) (d : Double) :
    StartsWithMark (d.textWith style).toList := by
  have hdigits := startsWithMark_toDigits (Double.shortest d.rank).1
  have hzero (rest : List Char) : StartsWithMark ('0' :: rest) :=
    startsWithMark_of_isDigit (by decide) rest
  rw [Double.textWith, String.toList_ofList]
  split
  · exact startsWithMark_minus _
  · simp only
    split
    · exact hzero _
    · split
      · split
        · exact (hdigits.append _).append _
        · split
          · exact (hdigits.take _).append _
          · exact hzero _
      · refine StartsWithMark.append ?_ _
        split
        · rename_i first second rest hcut
          rw [hcut] at hdigits
          exact hdigits.take 0 |>.append _
        · exact hdigits

/-- A number starts with its sign or its first digit. -/
theorem Number.startsWithMark_text (n : Number) : StartsWithMark n.text.toList := by
  cases n with
  | integer i =>
      rw [text, Int.toString_eq_repr, Int.repr_eq_if]
      split
      · rw [Nat.toList_repr]
        exact startsWithMark_toDigits _
      · rw [String.toList_append]
        exact startsWithMark_minus _
  | real d => exact d.startsWithMark_textWith _

/-- No JSON text is an address. -/
theorem Json.parse_compact (value : Json) : Url.parse value.compact = .error .relativeWithoutBase := by
  have hmark {c : Char} (hvisible : 32 < c.toNat) (hletter : c.isAlpha = false) (s : String) :
      Url.parse (String.singleton c ++ s) = .error .relativeWithoutBase := by
    refine StartsWithMark.parse_eq_error ⟨c, s.toList, ?_, hvisible, hletter⟩
    simp
  cases value with
  | null => rfl
  | boolean b => cases b <;> rfl
  | number n => exact n.startsWithMark_text.parse_eq_error
  | string s =>
      refine StartsWithMark.parse_eq_error ?_
      exact ⟨'"', _, String.toList_ofList, by decide, by decide⟩
  | array items =>
      rw [compact, String.append_assoc]
      exact hmark (c := '[') (by decide) (by decide) _
  | object fields =>
      rw [compact, String.append_assoc]
      exact hmark (c := '\x7b') (by decide) (by decide) _

/-! ## Declared issuers -/

namespace IssuerMetadata

/-- What a document has under a name is the canonical form of what was last written there. -/
theorem get?_ofFields (fields : List (String × Json)) (name : String) :
    (ofFields fields).get? name = (fields.reverse.lookup name).map Json.canonical := by
  have hcanonical (written : List (String × Json)) :
      Json.canonicalFields written = written.map (fun field => (field.1, field.2.canonical)) := by
    induction written with
    | nil => rfl
    | cons field rest ih =>
        obtain ⟨key, value⟩ := field
        rw [Json.canonicalFields, ih, List.map_cons]
  have hlookup (written : List (String × Json)) :
      (written.map (fun field => (field.1, field.2.canonical))).lookup name =
        (written.lookup name).map Json.canonical := by
    induction written with
    | nil => rfl
    | cons field rest ih =>
        rw [List.map_cons, List.lookup_cons, List.lookup_cons, ih]
        split <;> rfl
  rw [get?, ofFields, Dictionary.lookup_ofList, hcanonical, ← List.map_reverse, hlookup]

/-- A text in a document was written as that text. -/
theorem get?_ofFields_eq_string_iff {fields : List (String × Json)} {name s : String} :
    (ofFields fields).get? name = some (.string s) ↔
      fields.reverse.lookup name = some (.string s) := by
  rw [get?_ofFields]
  cases fields.reverse.lookup name with
  | none => simp
  | some value => cases value <;> simp [Json.canonical]

end IssuerMetadata

namespace Discovery

/-- A document passes for an address exactly if it declares the address as a text. -/
theorem validate_eq_ok_iff {m : IssuerMetadata} {issuer : String} {url : Url}
    (haddress : Url.parse issuer = .ok url) :
    validate m issuer = .ok () ↔ m.get? "issuer" = some (.string issuer) := by
  have hcompact (value : Json) : value.compact ≠ issuer := by
    rintro rfl
    rw [Json.parse_compact] at haddress
    cases haddress
  have hdeclared : validate m issuer = .ok () ↔
      m.declaresIssuer = true ∧ m.displayIssuer = issuer := by
    simp [validate]
  rw [hdeclared, IssuerMetadata.declaresIssuer, IssuerMetadata.displayIssuer,
    IssuerMetadata.present?]
  cases m.get? "issuer" with
  | none => simp
  | some value => cases value <;> simp [Option.filter, hcompact]

end Discovery

end WebAuth
