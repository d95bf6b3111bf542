import WebAuth.Proofs.Token.Soundness

/-!
# Lists of allowed algorithms

A validator looks up a token's algorithm in its list of allowed algorithms, and then checks the
signature as if no other algorithm were allowed.  So the list decides only which tokens get
past the first checks, and a longer list never costs a token its acceptance, whatever families
of keys its algorithms are of.  Checked against the whole list, no signature would be accepted
as soon as the list has algorithms of two families.

Main results:

- Theorem `TokenValidator.checkSignature_ne_ok_of_mixed`: what two families would lead to.
- Theorem `TokenValidator.decodeClaims_withAlgorithms`: a longer list changes nothing for the
  tokens that the shorter one lets through.
- Theorem `TokenValidator.decodeClaims_withAlgorithms_iff`: what is accepted with each of them.
-/

namespace WebAuth

namespace TokenValidator

variable {v : TokenValidator} {narrow wide : List Algorithm} {token : String}

/-! ## Signatures under several algorithms -/

/-- No key is of the family of an RSA algorithm and of another one that is not RSA. -/
theorem not_suits_of_isRsa {key : VerificationKey} {a b : Algorithm} (ha : a.isRsa = true)
    (hb : b.isRsa = false) (hsuits : key.suits a = true) : key.suits b = false := by
  cases key with
  | rsa modulus exponent => exact hb
  | point octets =>
      rcases (VerificationKey.suits_point octets a).mp hsuits with rfl | rfl
      · cases ha
      · cases ha

/-- Under a list with an RSA algorithm and another one that is not RSA, no signature is
accepted. -/
theorem checkSignature_ne_ok_of_mixed {allowed : List Algorithm} {a b : Algorithm}
    (ha : a ∈ allowed) (hb : b ∈ allowed) (hrsa : a.isRsa = true) (hother : b.isRsa = false)
    (key : VerificationKey) (algorithm : Algorithm) (t : SignedToken) :
    checkSignature allowed key algorithm t ≠ .ok () := by
  intro haccepted
  obtain ⟨⟨-, hall⟩, -⟩ := checkSignature_allowed_eq_ok_iff.mp haccepted
  have hnot := not_suits_of_isRsa hrsa hother (hall a ha)
  rw [hall b hb] at hnot
  cases hnot

/-! ## Shorter and longer lists -/

/-- A list with an algorithm replaces the one before. -/
theorem withAlgorithms_of_ne_nil (h : narrow ≠ []) :
    v.withAlgorithms narrow = { v with algorithms := narrow } := by
  rw [withAlgorithms, if_neg (by simpa using h)]

/-- A token that is accepted names an allowed algorithm. -/
theorem namesOneOf_of_decodeClaims {moment : Moment} {c : Claims} {d left : KeyDesk}
    (h : v.decodeClaims moment token d = (.value c, left)) : NamesOneOf v.algorithms token := by
  obtain ⟨t, header, -, -, hscreen, -⟩ := decodeClaims_eq_value_iff.mp h
  exact ⟨t, header, screen_eq_ok_iff.mp hscreen⟩

/-- For a token that names an algorithm of the shorter list it makes no difference whether that
list is allowed or a longer one. -/
theorem decodeClaims_withAlgorithms (hsub : narrow ⊆ wide) (hnames : NamesOneOf narrow token)
    (moment : Moment) :
    (v.withAlgorithms narrow).decodeClaims moment token =
      (v.withAlgorithms wide).decodeClaims moment token := by
  obtain ⟨t, header, hparts, hheader, hmem⟩ := hnames
  have hnarrow : ({ v with algorithms := narrow } : TokenValidator).screen token =
      .ok (t, header) := screen_eq_ok_iff.mpr ⟨hparts, hheader, hmem⟩
  have hwide : ({ v with algorithms := wide } : TokenValidator).screen token = .ok (t, header) :=
    screen_eq_ok_iff.mpr ⟨hparts, hheader, hsub hmem⟩
  rw [withAlgorithms_of_ne_nil (List.ne_nil_of_mem hmem),
    withAlgorithms_of_ne_nil (List.ne_nil_of_mem (hsub hmem)), decodeClaims, decodeClaims,
    hnarrow, hwide]
  -- What is checked after the screening does not depend on the list.
  rfl

/-- A longer list of algorithms accepts all tokens that the shorter one does, with the same
claims; and of the tokens that it accepts, the shorter one accepts, with the same claims, those
that name one of its algorithms. -/
theorem decodeClaims_withAlgorithms_iff (hnonempty : narrow ≠ []) (hsub : narrow ⊆ wide)
    {moment : Moment} {c : Claims} {d left : KeyDesk} :
    (v.withAlgorithms narrow).decodeClaims moment token d = (.value c, left) ↔
      (v.withAlgorithms wide).decodeClaims moment token d = (.value c, left) ∧
        NamesOneOf narrow token := by
  constructor
  · intro haccepted
    have hnames : NamesOneOf narrow token := by
      have hallowed := namesOneOf_of_decodeClaims haccepted
      rw [withAlgorithms_of_ne_nil hnonempty] at hallowed
      exact hallowed
    rw [← decodeClaims_withAlgorithms hsub hnames moment]
    exact ⟨haccepted, hnames⟩
  · rintro ⟨haccepted, hnames⟩
    rw [decodeClaims_withAlgorithms hsub hnames moment]
    exact haccepted

/-- The token with the second key is accepted with algorithms of all families allowed, and also
if only its own algorithm is allowed. -/
theorem decodeClaims_withAlgorithms_secondKey :
    ∃ left, permissiveValidator.decodeClaims ⟨0, 4102444860⟩ secondKeyToken twoKeyDesk =
        (.value secondKeyClaims, left) ∧
      (permissiveValidator.withAlgorithms [.rs256]).decodeClaims ⟨0, 4102444860⟩ secondKeyToken
        twoKeyDesk = (.value secondKeyClaims, left) := by
  have hvalue : ((permissiveValidator.withAlgorithms [.rs256]).decodeClaims ⟨0, 4102444860⟩
      secondKeyToken twoKeyDesk).1 = .value secondKeyClaims := by
    decide +kernel
  cases haccepted : (permissiveValidator.withAlgorithms [.rs256]).decodeClaims ⟨0, 4102444860⟩
      secondKeyToken twoKeyDesk with
  | mk ending left =>
      rw [haccepted] at hvalue
      cases hvalue
      have hsub : [.rs256] ⊆ permissiveValidator.algorithms := by decide
      have hwide := (decodeClaims_withAlgorithms_iff (by decide) hsub).mp haccepted
      exact ⟨left, hwide.1, rfl⟩

end TokenValidator

end WebAuth
