import WebAuth.Proofs.Token.Acceptance
import WebAuth.Proofs.Token.Payload

/-!
# When a token may be used

Of the times in a token's payload only its end is compared with the clock.  The start has to
be readable and is handed out among the claims, but a token is accepted before it as after it,
and the seconds by which clocks may differ matter for the end alone.

Main results:

- Theorem `TokenValidator.checkClaims_iff_of_checkClaims`: what the clock means to claims that
  have been checked at some other time.
- Theorem `TokenValidator.decodeClaims_iff_of_start`: at which times a token with a start is
  accepted.
-/

namespace WebAuth

namespace TokenValidator

variable {v : TokenValidator} {c : Claims}

/-- A token is not past its end up to the seconds by which clocks may differ. -/
theorem isExpired_eq_false_iff {seconds : Int} {expiry : Nat} :
    v.isExpired seconds expiry = false ↔ seconds ≤ expiry + v.leeway := by
  rw [isExpired, decide_eq_false_iff_not, Int.not_lt]

/-- Claims that pass at one time pass at exactly the times that are not past their end. -/
theorem checkClaims_iff_of_checkClaims {usual seconds : Int}
    (h : v.checkClaims usual c = .ok ()) :
    v.checkClaims seconds c = .ok () ↔
      ∃ expiry, c.expiry = some expiry ∧ seconds ≤ expiry + v.leeway := by
  obtain ⟨-, hissuer, haudience⟩ := checkClaims_eq_ok_iff.mp h
  simp only [checkClaims_eq_ok_iff, isExpired_eq_false_iff]
  exact ⟨And.left, fun hexpiry => ⟨hexpiry, hissuer, haudience⟩⟩

/-- A token whose payload has a number as its start is accepted at exactly those times that are
not past its end, if it is accepted at any time at all: whether they are before the start does
not matter, as long as the start is an integer, which is handed out. -/
theorem decodeClaims_iff_of_start {token : String} {written : Number}
    (hstart : SignedToken.claim? token "nbf" = some (.number written)) (steady : Nat)
    (seconds : Int) (d left : KeyDesk) :
    v.decodeClaims ⟨steady, seconds⟩ token d = (.value c, left) ↔
      (∃ usual : Int, v.decodeClaims ⟨steady, usual⟩ token d = (.value c, left)) ∧
        (∃ expiry : Nat, SignedToken.claim? token "exp" = some (.number (.integer expiry)) ∧
          seconds ≤ expiry + v.leeway) ∧
        ∃ start : Nat, written = .integer start ∧ c.notBefore = some start := by
  constructor
  · intro haccepted
    obtain ⟨t, hparts, hclaims, hcheck⟩ := checkClaims_of_decodeClaims haccepted
    obtain ⟨expiry, hexpiry, hintime⟩ := (checkClaims_iff_of_checkClaims hcheck).mp hcheck
    refine ⟨⟨seconds, haccepted⟩, ⟨expiry, ?_, hintime⟩, ?_⟩
    · exact (Claims.isField_expiry.eq_some_iff_claim? hparts hclaims).mp hexpiry
    · exact (Claims.isField_notBefore.claim?_eq_number_iff hparts hclaims).mp hstart
  · rintro ⟨⟨usual, haccepted⟩, ⟨expiry, hexpiry, hintime⟩, -⟩
    obtain ⟨t, hparts, hclaims, hcheck⟩ := checkClaims_of_decodeClaims haccepted
    refine decodeClaims_of_checkClaims rfl rfl haccepted ?_
    exact (checkClaims_iff_of_checkClaims hcheck).mpr
      ⟨expiry, (Claims.isField_expiry.eq_some_iff_claim? hparts hclaims).mpr hexpiry, hintime⟩

/-- A token that starts long after it is shown. -/
def prematureToken : String :=
  "eyJhbGciOiJSUzI1NiJ9" ++ "." ++
    "eyJleHAiOjQxMDI0NDQ4MDAsIm5iZiI6NDAwMDAwMDAwMCwic3ViIjoiYWxpY2UifQ" ++ "." ++
    "ekRGs5Lx-rIYUy8m2ELQLz6yI9uET9Sy5eHIeBTxjKqlKZstSqXfDZAeb32zZ3GWsYcxuZAL6dvsOA192aMRFw"

/-- A desk that holds the key of that token. -/
def prematureDesk : KeyDesk :=
  let key : PublishedKey :=
    { id := none, type := "RSA", algorithm := none
      modulus := some
        "-sSkcnQDdIMBucWw64rc0kIVNI1NsY3eB16WpUNI87GjozFMyK9I_C2rp_7TW-QsMxH3bHPJ3HGSi9U6wBfH9Q"
      exponent := some "AQAB", curve := none, x := none, y := none }
  ⟨⟨some ⟨⟨[key]⟩, 0⟩, []⟩, .deserted⟩

/-- What that token says. -/
def prematureClaims : Claims :=
  { Claims.empty with
    subject := some "alice", expiry := some 4102444800, notBefore := some 4000000000 }

/-- The token's payload has a start. -/
theorem claim?_prematureToken :
    SignedToken.claim? prematureToken "nbf" = some (.number (.integer 4000000000)) := by
  decide +kernel

/-- A validator that lets clocks differ by a minute. -/
def minuteValidator : TokenValidator := ofKeyLocation "https://idp.example.com/keys"

/-- The condition at the token that starts later. -/
theorem decodeClaims_iff_of_start_premature :
    SignedToken.claim? prematureToken "nbf" = some (.number (.integer 4000000000)) ∧
      (minuteValidator.decodeClaims ⟨0, 0⟩ prematureToken prematureDesk =
          (.value prematureClaims, prematureDesk) ↔
        (∃ usual : Int, minuteValidator.decodeClaims ⟨0, usual⟩ prematureToken prematureDesk =
            (.value prematureClaims, prematureDesk)) ∧
          (∃ expiry : Nat,
            SignedToken.claim? prematureToken "exp" = some (.number (.integer expiry)) ∧
              0 ≤ (expiry : Int) + minuteValidator.leeway) ∧
          ∃ start : Nat, Number.integer 4000000000 = .integer start ∧
            prematureClaims.notBefore = some start) :=
  ⟨claim?_prematureToken,
    decodeClaims_iff_of_start claim?_prematureToken 0 0 prematureDesk prematureDesk⟩

/-- The validator accepts the token at the epoch, over a century before the start. -/
theorem decodeClaims_premature :
    (minuteValidator.decodeClaims ⟨0, 0⟩ prematureToken prematureDesk).1 =
        .value prematureClaims ∧
      SignedToken.claim? prematureToken "nbf" = some (.number (.integer 4000000000)) ∧
      (0 : Int) + minuteValidator.leeway < 4000000000 := by
  refine ⟨?_, claim?_prematureToken, ?_⟩
  · decide +kernel
  · decide

end TokenValidator

end WebAuth
