import WebAuth.Proofs.Token.Acceptance

/-!
# Keys that cannot be used

A published key can be of an unknown type, lack a component of its type, or have a component
that is not base64.  In each case no signature can be verified with it, whatever the token.  The
first two are reported as flaws of the key.  The last one has the same error as a token that is
not base64, so it is held against the token, which then vouches for nobody.

Main results:

- Theorem `PublishedKey.verificationKey_eq_error_iff`: why a key cannot be used.
- Theorem `TokenValidator.validate_refused_iff_of_broken`: which broken keys are reported.
- Theorem `TokenValidator.not_validate_refused_garbled`: a broken key can go unreported.
-/

namespace WebAuth

open Encoding

namespace PublishedKey

variable {k : PublishedKey} {e : TokenError}

/-! ## Components -/

/-- The components that a key of a known type has to have, under their names. -/
def components? (k : PublishedKey) : Option (List (String × Option String)) :=
  if k.type = "RSA" then some [("n", k.modulus), ("e", k.exponent)]
  else if k.type = "EC" then some [("x", k.x), ("y", k.y)]
  else none

/-- Of some components the first that is missing is this one. -/
def FirstMissing (components : List (String × Option String)) (name : String) : Prop :=
  components.find? (fun c => c.2.isNone) = some (name, none)

/-- Some components are all there, and one of them is not base64. -/
def Garbled (components : List (String × Option String)) : Prop :=
  (∀ c ∈ components, c.2.isSome = true) ∧
    ∃ name text, (name, some text) ∈ components ∧
      Alphabet.addressSafe.decode? text.toList = none

/-- What is said to be wrong with a key: its type is unknown, or a component is missing. -/
inductive HasFlaw (k : PublishedKey) : KeyFlaw → Prop where
  | unknownType (htype : k.components? = none) : HasFlaw k (.unsupportedType k.type)
  | missing {components : List (String × Option String)} {name : String}
      (hcomponents : k.components? = some components) (hmissing : FirstMissing components name) :
      HasFlaw k (.missingComponent name)

/-- A key is of a known type and has all components, and one of them is not base64. -/
def IsGarbled (k : PublishedKey) : Prop :=
  ∃ components, k.components? = some components ∧ Garbled components

/-! ## Pairs of components -/

/-- The key that is made of two components. -/
def pairKey (first second : String × Option String)
    (make : List UInt8 → List UInt8 → VerificationKey) : Except TokenError VerificationKey := do
  let a ← component first.1 first.2
  let b ← component second.1 second.2
  .ok (make (← componentOctets a) (← componentOctets b))

/-- A key of an unknown type cannot be used, and of any other it is made of two components. -/
theorem verificationKey_eq_pairKey (k : PublishedKey) :
    (k.components? = none ∧
        k.verificationKey = .error (.unusableKey (.unsupportedType k.type))) ∨
      ∃ first second make, k.components? = some [first, second] ∧
        k.verificationKey = pairKey first second make := by
  rw [components?, verificationKey]
  by_cases hrsa : k.type = "RSA"
  · rw [if_pos hrsa, if_pos hrsa]
    exact Or.inr ⟨("n", k.modulus), ("e", k.exponent), .rsa, rfl, rfl⟩
  · rw [if_neg hrsa, if_neg hrsa]
    by_cases hcurve : k.type = "EC"
    · rw [if_pos hcurve, if_pos hcurve]
      exact Or.inr ⟨("x", k.x), ("y", k.y), fun x y => .point (0x04 :: x ++ y), rfl, rfl⟩
    · rw [if_neg hcurve, if_neg hcurve]
      exact Or.inl ⟨rfl, rfl⟩

/-- A component that is there is base64 or leads to the error of a token that is not. -/
theorem componentOctets_cases (text : String) :
    (∃ octets, Alphabet.addressSafe.decode? text.toList = some octets ∧
        componentOctets text = .ok octets) ∨
      (Alphabet.addressSafe.decode? text.toList = none ∧
        componentOctets text = .error (.faulty .notBase64)) := by
  rw [componentOctets]
  cases Alphabet.addressSafe.decode? text.toList with
  | some octets => exact Or.inl ⟨octets, rfl, rfl⟩
  | none => exact Or.inr ⟨rfl, rfl⟩

/-- Of two components that are there, one is not base64. -/
theorem garbled_pair_iff {m n s t : String} :
    Garbled [(m, some s), (n, some t)] ↔
      Alphabet.addressSafe.decode? s.toList = none ∨
        Alphabet.addressSafe.decode? t.toList = none := by
  constructor
  · rintro ⟨-, name, text, hmem, hbad⟩
    simp only [List.mem_cons, Prod.mk.injEq, Option.some.injEq, List.not_mem_nil,
      or_false] at hmem
    rcases hmem with ⟨-, rfl⟩ | ⟨-, rfl⟩
    · exact Or.inl hbad
    · exact Or.inr hbad
  · intro hbad
    refine ⟨by simp, ?_⟩
    rcases hbad with hbad | hbad
    · exact ⟨m, s, by simp, hbad⟩
    · exact ⟨n, t, by simp, hbad⟩

/-- No key is made of two components if one is missing, of which the first is named, or if one
is not base64. -/
theorem pairKey_eq_error_iff {first second : String × Option String}
    {make : List UInt8 → List UInt8 → VerificationKey} :
    pairKey first second make = .error e ↔
      (∃ name, FirstMissing [first, second] name ∧ e = .unusableKey (.missingComponent name)) ∨
        (Garbled [first, second] ∧ e = .faulty .notBase64) := by
  obtain ⟨m, _ | s⟩ := first
  · have hmissing : pairKey (m, none) second make = .error (.unusableKey (.missingComponent m)) :=
      rfl
    rw [hmissing, Except.error.injEq, eq_comm]
    simp [FirstMissing, Garbled]
  obtain ⟨n, _ | t⟩ := second
  · have hmissing : pairKey (m, some s) (n, none) make =
        .error (.unusableKey (.missingComponent n)) := rfl
    rw [hmissing, Except.error.injEq, eq_comm]
    simp [FirstMissing, Garbled]
  · have hpair : pairKey (m, some s) (n, some t) make =
        (do .ok (make (← componentOctets s) (← componentOctets t))) := rfl
    have hnone : ¬∃ name, FirstMissing [(m, some s), (n, some t)] name ∧
        e = .unusableKey (.missingComponent name) := by
      simp [FirstMissing]
    rw [hpair, garbled_pair_iff, or_iff_right hnone]
    rcases componentOctets_cases s with ⟨a, hs, ha⟩ | ⟨hs, ha⟩
    · rcases componentOctets_cases t with ⟨b, ht, hb⟩ | ⟨ht, hb⟩
      · simp [bind, Except.bind, hs, ha, ht, hb]
      · simp [bind, Except.bind, ht, ha, hb, eq_comm]
    · simp [bind, Except.bind, hs, ha, eq_comm]

/-! ## Why a key cannot be used -/

/-- A key cannot be used if its type is unknown or a component is missing, which is reported as
a flaw of the key, or if a component is not base64, which is reported as a fault of the token. -/
theorem verificationKey_eq_error_iff :
    k.verificationKey = .error e ↔
      (∃ flaw, k.HasFlaw flaw ∧ e = .unusableKey flaw) ∨
        (k.IsGarbled ∧ e = .faulty .notBase64) := by
  rcases k.verificationKey_eq_pairKey with ⟨hnone, hkey⟩ | ⟨first, second, make, hpair, hkey⟩
  · rw [hkey, Except.error.injEq, eq_comm]
    constructor
    · intro he
      exact Or.inl ⟨_, .unknownType hnone, he⟩
    · rintro (⟨flaw, hflaw, he⟩ | ⟨⟨components, hsome, -⟩, -⟩)
      · cases hflaw with
        | unknownType _ => exact he
        | missing hsome _ => cases hnone.symm.trans hsome
      · cases hnone.symm.trans hsome
  · rw [hkey, pairKey_eq_error_iff]
    refine or_congr ?_ (and_congr_left fun _ => ?_)
    · constructor
      · rintro ⟨name, hmissing, he⟩
        exact ⟨_, .missing hpair hmissing, he⟩
      · rintro ⟨flaw, hflaw, he⟩
        cases hflaw with
        | unknownType hnone => cases hpair.symm.trans hnone
        | missing hsome hmissing =>
            cases hpair.symm.trans hsome
            exact ⟨_, hmissing, he⟩
    · constructor
      · intro hgarbled
        exact ⟨_, hpair, hgarbled⟩
      · rintro ⟨components, hsome, hgarbled⟩
        cases hpair.symm.trans hsome
        exact hgarbled

/-- A key with a component that is not base64 has no flaw that could be reported. -/
theorem IsGarbled.not_hasFlaw (h : k.IsGarbled) (flaw : KeyFlaw) : ¬k.HasFlaw flaw := by
  intro hflaw
  have hgarbled := verificationKey_eq_error_iff.mpr (Or.inr ⟨h, rfl⟩)
  rw [verificationKey_eq_error_iff.mpr (Or.inl ⟨flaw, hflaw, rfl⟩)] at hgarbled
  cases hgarbled

end PublishedKey

/-! ## Tokens that mean such a key -/

namespace TokenValidator

variable {v : TokenValidator} {moment : Moment} {token : String} {t : SignedToken}
  {header : TokenHeader} {d left : KeyDesk} {k : PublishedKey} {e : TokenError}

/-- A token that means a key that cannot be used is refused for that reason. -/
theorem decodeClaims_of_verificationKey (hscreen : v.screen token = .ok (t, header))
    (hfound : v.source.findKey moment.steady header.keyId d = (.value (some k), left))
    (hkey : k.verificationKey = .error e) :
    v.decodeClaims moment token d = (.refused e, left) := by
  rw [decodeClaims, hscreen]
  simp only
  rw [Run.bind_value hfound]
  simp only [hkey]
  rfl

/-- A token with a header of an allowed algorithm means a key that cannot be used.  This is
reported if the key has a flaw, and held against the token if one of its components is not
base64. -/
theorem validate_refused_iff_of_broken (hparts : SignedToken.ofText? token.toList = some t)
    (hheader : TokenHeader.ofToken t = .ok header) (hallowed : header.algorithm ∈ v.algorithms)
    (hfound : v.source.findKey moment.steady header.keyId d = (.value (some k), left))
    (hbroken : k.verificationKey = .error e) :
    ((∃ reason, v.validate moment token d = (.refused reason, left)) ↔ ¬k.IsGarbled) ∧
      (v.validate moment token d = (.value none, left) ↔ k.IsGarbled) ∧
      ∀ flaw, k.HasFlaw flaw →
        v.validate moment token d =
          (.refused (TokenError.unusableKey flaw).toAccessError, left) := by
  have hscreen := screen_eq_ok_iff.mpr ⟨hparts, hheader, hallowed⟩
  have hanswer {e : TokenError} (hkey : k.verificationKey = .error e) :
      v.validate moment token d =
        (if e.faultsToken then .value none else .refused e.toAccessError, left) :=
    validate_of_refused (decodeClaims_of_verificationKey hscreen hfound hkey)
  have hreported (flaw : KeyFlaw) (hflaw : k.HasFlaw flaw) :
      v.validate moment token d =
        (.refused (TokenError.unusableKey flaw).toAccessError, left) :=
    hanswer (PublishedKey.verificationKey_eq_error_iff.mpr (Or.inl ⟨flaw, hflaw, rfl⟩))
  rcases PublishedKey.verificationKey_eq_error_iff.mp hbroken with
    ⟨flaw, hflaw, -⟩ | ⟨hgarbled, rfl⟩
  · have hnot : ¬k.IsGarbled := fun h => h.not_hasFlaw flaw hflaw
    refine ⟨iff_of_true ⟨_, hreported flaw hflaw⟩ hnot, iff_of_false ?_ hnot, hreported⟩
    rw [hreported flaw hflaw]
    nofun
  · have hsilent : v.validate moment token d = (.value none, left) := hanswer hbroken
    refine ⟨iff_of_false ?_ (not_not_intro hgarbled), iff_of_true hsilent hgarbled, hreported⟩
    rintro ⟨reason, hrefused⟩
    rw [hsilent] at hrefused
    cases hrefused

/-- A key whose modulus is not base64. -/
def garbledKey : PublishedKey :=
  { id := some "k1", type := "RSA", algorithm := none, modulus := some "not base64"
    exponent := some "AQAB", curve := none, x := none, y := none }

/-- A key without a modulus. -/
def keyWithoutModulus : PublishedKey := { garbledKey with id := some "k2", modulus := none }

/-- A validator of the issuer of these keys. -/
def brokenValidator : TokenValidator := ofKeyLocation "http://idp.example.com/jwks"

/-- A desk that holds these keys. -/
def brokenDesk : KeyDesk := ⟨⟨some ⟨⟨[garbledKey, keyWithoutModulus]⟩, 0⟩, []⟩, .deserted⟩

/-- A token of an allowed algorithm that means the key whose modulus is not base64. -/
def garbledKeyToken : String := "eyJhbGciOiJSUzI1NiIsImtpZCI6ImsxIn0.e30.AA"

/-- A token of an allowed algorithm that means the key without a modulus. -/
def missingModulusToken : String := "eyJhbGciOiJSUzI1NiIsImtpZCI6ImsyIn0.e30.AA"

/-- It is reported that the modulus is missing. -/
theorem validate_missingModulusToken :
    brokenValidator.validate ⟨0, 0⟩ missingModulusToken brokenDesk =
      (.refused (TokenError.unusableKey (.missingComponent "n")).toAccessError, brokenDesk) := by
  have hparts : SignedToken.ofText? missingModulusToken.toList =
      some ⟨"eyJhbGciOiJSUzI1NiIsImtpZCI6ImsyIn0".toList, "e30".toList, "AA".toList⟩ := by
    decide +kernel
  have hheader : TokenHeader.ofToken
      ⟨"eyJhbGciOiJSUzI1NiIsImtpZCI6ImsyIn0".toList, "e30".toList, "AA".toList⟩ =
        .ok ⟨.rs256, some "k2"⟩ := by
    decide +kernel
  have hallowed : Algorithm.rs256 ∈ brokenValidator.algorithms := by decide
  have hfound : brokenValidator.source.findKey (⟨0, 0⟩ : Moment).steady (some "k2") brokenDesk =
      (.value (some keyWithoutModulus), brokenDesk) := by rfl
  have hbroken : keyWithoutModulus.verificationKey =
      .error (.unusableKey (.missingComponent "n")) := by rfl
  have hflaw : keyWithoutModulus.HasFlaw (.missingComponent "n") := .missing (by rfl) (by rfl)
  exact (validate_refused_iff_of_broken hparts hheader hallowed hfound hbroken).2.2 _ hflaw

/-- It is not reported that a modulus is not base64: the token vouches for nobody. -/
theorem not_validate_refused_garbled :
    ¬∀ (v : TokenValidator) (moment : Moment) (token : String) (t : SignedToken)
        (header : TokenHeader) (d left : KeyDesk) (k : PublishedKey) (e : TokenError),
      SignedToken.ofText? token.toList = some t → TokenHeader.ofToken t = .ok header →
        header.algorithm ∈ v.algorithms →
          v.source.findKey moment.steady header.keyId d = (.value (some k), left) →
            k.verificationKey = .error e →
              ∃ reason, v.validate moment token d = (.refused reason, left) := by
  intro hall
  have hparts : SignedToken.ofText? garbledKeyToken.toList =
      some ⟨"eyJhbGciOiJSUzI1NiIsImtpZCI6ImsxIn0".toList, "e30".toList, "AA".toList⟩ := by
    decide +kernel
  have hheader : TokenHeader.ofToken
      ⟨"eyJhbGciOiJSUzI1NiIsImtpZCI6ImsxIn0".toList, "e30".toList, "AA".toList⟩ =
        .ok ⟨.rs256, some "k1"⟩ := by
    decide +kernel
  have hallowed : Algorithm.rs256 ∈ brokenValidator.algorithms := by decide
  have hfound : brokenValidator.source.findKey 0 (some "k1") brokenDesk =
      (.value (some garbledKey), brokenDesk) := by rfl
  have hkey : garbledKey.verificationKey = .error (.faulty .notBase64) := by decide +kernel
  have hscreen := screen_eq_ok_iff.mpr ⟨hparts, hheader, hallowed⟩
  have hrefused : brokenValidator.decodeClaims ⟨0, 0⟩ garbledKeyToken brokenDesk =
      (.refused (.faulty .notBase64), brokenDesk) :=
    decodeClaims_of_verificationKey hscreen hfound hkey
  have hsilent := validate_of_refused hrefused
  obtain ⟨reason, hreported⟩ := hall brokenValidator ⟨0, 0⟩ garbledKeyToken _ _ brokenDesk
    brokenDesk garbledKey _ hparts hheader hallowed hfound hkey
  rw [hsilent] at hreported
  cases hreported

end TokenValidator

end WebAuth
