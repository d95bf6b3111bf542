import WebAuth.Proofs.Token.Acceptance
import WebAuth.Proofs.Token.Payload

/-!
# What a required issuer requires

A validator that requires an issuer compares it with the issuer that a token names.
A token that names none, because its payload has no `iss` or null for it, is not
compared and passes.

Main results:

- Theorem `TokenValidator.issuer_of_ofDiscovery`: a validator made from an issuer's
  metadata requires that issuer.
- Theorem `TokenValidator.decodeClaims_iff_of_issuer`: which tokens pass.
-/

namespace WebAuth

/-! ## Validators that require an issuer -/

namespace TokenValidator

/-- The same demands on tokens of any issuer. -/
def withoutIssuer (v : TokenValidator) : TokenValidator := { v with issuer := none }

/-- A validator made from an issuer's metadata requires that issuer. -/
theorem issuer_of_ofDiscovery
    {resolve : String → Run Http.Network DiscoveryError IssuerMetadata} {issuer : String}
    {n left : Http.Network} {v : TokenValidator}
    (h : ofDiscovery resolve issuer n = (.value v, left)) : v.issuer = some issuer := by
  obtain ⟨document, after, -, hmade⟩ := Run.bind_eq_value_iff.mp h
  cases hvalid : ofMetadata document issuer with
  | error e =>
      rw [hvalid] at hmade
      cases hmade
  | ok made =>
      rw [hvalid] at hmade
      cases hmade
      unfold ofMetadata at hvalid
      split at hvalid
      · cases hvalid
      · split at hvalid
        · cases hvalid
        · cases hvalid
          rfl

/-- A required issuer is compared with the issuer that the claims name, if they name
one. -/
theorem checkClaims_iff_of_issuer {v : TokenValidator} {issuer : String}
    (h : v.issuer = some issuer) {seconds : Int} {c : Claims} :
    v.checkClaims seconds c = .ok () ↔
      v.withoutIssuer.checkClaims seconds c = .ok () ∧
        (c.issuer = none ∨ c.issuer = some issuer) := by
  have hnamed : (∀ required named, v.issuer = some required → c.issuer = some named →
      named = required) ↔ c.issuer = none ∨ c.issuer = some issuer := by
    rw [h]
    cases c.issuer <;> simp
  rw [checkClaims_eq_ok_iff, checkClaims_eq_ok_iff, hnamed]
  constructor
  · rintro ⟨hexpiry, hissuer, haudience⟩
    exact ⟨⟨hexpiry, nofun, haudience⟩, hissuer⟩
  · rintro ⟨⟨hexpiry, -, haudience⟩, hissuer⟩
    exact ⟨hexpiry, hissuer, haudience⟩

/-- The issuer among the claims of a token is the required one or none exactly if the
payload names that issuer, none, or null. -/
theorem issuer_iff_claim? {token : String} {t : SignedToken} {c : Claims}
    (hparts : SignedToken.ofText? token.toList = some t) (hclaims : payloadClaims t = .ok c)
    (issuer : String) :
    (c.issuer = none ∨ c.issuer = some issuer) ↔
      SignedToken.claim? token "iss" = none ∨
        SignedToken.claim? token "iss" = some .null ∨
          SignedToken.claim? token "iss" = some (.string issuer) := by
  have hread := Claims.isField_issuer.readOption_claim? hparts hclaims
  cases hclaim : SignedToken.claim? token "iss" with
  | none =>
      rw [hclaim, Option.getD_none] at hread
      simp [← Except.ok.inj hread]
  | some value =>
      rw [hclaim, Option.getD_some] at hread
      cases value with
      | null => simp [← Except.ok.inj hread]
      | string s => simp [← Except.ok.inj hread]
      | _ => cases hread

/-- A validator that requires an issuer accepts exactly those of the tokens accepted
without that demand whose payload has that issuer, no `iss`, or null for it. -/
theorem decodeClaims_iff_of_issuer {v : TokenValidator} {issuer : String}
    (h : v.issuer = some issuer) (moment : Moment) (token : String) (d left : KeyDesk)
    (c : Claims) :
    v.decodeClaims moment token d = (.value c, left) ↔
      v.withoutIssuer.decodeClaims moment token d = (.value c, left) ∧
        (SignedToken.claim? token "iss" = none ∨
          SignedToken.claim? token "iss" = some .null ∨
            SignedToken.claim? token "iss" = some (.string issuer)) := by
  refine decodeClaims_iff_of_demand rfl rfl (checkClaims_iff_of_issuer h) ?_
  intro t hparts hclaims
  exact issuer_iff_claim? hparts hclaims issuer

/-- A token that says who it is about and when it ends, but not who issued it. -/
def namelessToken : String :=
  "eyJhbGciOiJSUzI1NiJ9" ++ "." ++
    "eyJleHAiOjQxMDI0NDQ4MDAsInN1YiI6ImFsaWNlIn0" ++ "." ++
    "K-WrKKOAGQV3_D9608Is1RO3IWNCtUAfUIhpE_kll8EPFuFRZaxoJEKjGlf8z8Uylol9M3kNjZrqBjj5JjEWSw"

/-- A desk that holds the key of that token. -/
def namelessDesk : KeyDesk :=
  let key : PublishedKey :=
    { id := none, type := "RSA", algorithm := none
      modulus := some
        "yD8iscM8VcCzJOANYCoqfMGAGEUcMjyuEfo3J6EocFWPSUKJr2nVPSgsW3mwjtUjuGDS7upwOMfIK1w-mC-GYQ"
      exponent := some "AQAB", curve := none, x := none, y := none }
  ⟨⟨some ⟨⟨[key]⟩, 0⟩, []⟩, .deserted⟩

/-- What that token says. -/
def namelessClaims : Claims :=
  { Claims.empty with subject := some "alice", expiry := some 4102444800 }

/-- A validator that requires an issuer. -/
def guardedValidator : TokenValidator :=
  (ofKeyLocation "https://idp.example.com/keys").withIssuer "https://idp.example.com"

/-- The condition at the token without an issuer. -/
theorem decodeClaims_iff_of_issuer_nameless :
    guardedValidator.issuer = some "https://idp.example.com" ∧
      (guardedValidator.decodeClaims ⟨0, 0⟩ namelessToken namelessDesk =
          (.value namelessClaims, namelessDesk) ↔
        guardedValidator.withoutIssuer.decodeClaims ⟨0, 0⟩ namelessToken namelessDesk =
            (.value namelessClaims, namelessDesk) ∧
          (SignedToken.claim? namelessToken "iss" = none ∨
            SignedToken.claim? namelessToken "iss" = some .null ∨
              SignedToken.claim? namelessToken "iss" =
                some (.string "https://idp.example.com"))) :=
  ⟨rfl, decodeClaims_iff_of_issuer rfl ⟨0, 0⟩ namelessToken namelessDesk namelessDesk
    namelessClaims⟩

/-- The validator accepts the token although its payload has no `iss`. -/
theorem decodeClaims_nameless :
    (guardedValidator.decodeClaims ⟨0, 0⟩ namelessToken namelessDesk).1 =
        .value namelessClaims ∧
      SignedToken.claim? namelessToken "iss" = none := by
  constructor
  · decide +kernel
  · decide +kernel

end TokenValidator

end WebAuth
