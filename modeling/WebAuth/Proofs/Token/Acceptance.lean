import WebAuth.Token.Validator

/-!
# When a token is accepted

A token is accepted exactly if every check of the validator accepts it.  The checks
are taken apart here, so that what a single setting means can be read off.

Main results:

- Theorem `TokenValidator.screen_eq_ok_iff`: what the parts and the header have to be.
- Theorem `TokenValidator.checkClaims_eq_ok_iff`: what the claims have to be.
- Theorem `TokenValidator.decodeClaims_eq_value_iff`: the steps of an acceptance.
- Theorem `TokenValidator.decodeClaims_of_checkClaims`: from one validator to another.
- Theorem `TokenValidator.decodeClaims_iff_of_demand`: what one more demand on claims does.
-/

namespace WebAuth

open Encoding

namespace TokenValidator

variable {v : TokenValidator} {t : SignedToken} {c : Claims}

/-- The first checks accept a token in three parts with a header of an allowed algorithm. -/
theorem screen_eq_ok_iff {token : String} {header : TokenHeader} :
    v.screen token = .ok (t, header) ↔
      SignedToken.ofText? token.toList = some t ∧ TokenHeader.ofToken t = .ok header ∧
        header.algorithm ∈ v.algorithms := by
  unfold screen
  cases SignedToken.ofText? token.toList with
  | none => exact ⟨nofun, fun h => nomatch h.1⟩
  | some parts =>
      cases hheader : TokenHeader.ofToken parts with
      | error fault =>
          refine ⟨fun h => by simp [hheader] at h, ?_⟩
          rintro ⟨hparts, h, -⟩
          cases hparts
          rw [hheader] at h
          cases h
      | ok named =>
          simp only [hheader, List.contains_iff_mem]
          split
          · rename_i hallowed
            constructor
            · intro h
              cases h
              exact ⟨rfl, hheader, hallowed⟩
            · rintro ⟨hparts, h, -⟩
              cases hparts
              rw [hheader] at h
              cases h
              rfl
          · rename_i hrefused
            refine ⟨nofun, ?_⟩
            rintro ⟨hparts, h, hallowed⟩
            cases hparts
            rw [hheader] at h
            cases h
            exact absurd hallowed hrefused

/-- A token has a readable header, which names one of some algorithms. -/
def NamesOneOf (algorithms : List Algorithm) (token : String) : Prop :=
  ∃ t header, SignedToken.ofText? token.toList = some t ∧ TokenHeader.ofToken t = .ok header ∧
    header.algorithm ∈ algorithms

/-- The first checks refuse a token exactly if it names none of the allowed algorithms. -/
theorem screen_eq_error_iff {token : String} :
    (∃ e, v.screen token = .error e) ↔ ¬NamesOneOf v.algorithms token := by
  cases hscreen : v.screen token with
  | ok parts =>
      obtain ⟨t, header⟩ := parts
      obtain ⟨hparts, hheader, hallowed⟩ := screen_eq_ok_iff.mp hscreen
      exact iff_of_false nofun (not_not_intro ⟨t, header, hparts, hheader, hallowed⟩)
  | error e =>
      refine iff_of_true ⟨e, rfl⟩ ?_
      rintro ⟨t, header, hparts, hheader, hallowed⟩
      rw [screen_eq_ok_iff.mpr ⟨hparts, hheader, hallowed⟩] at hscreen
      cases hscreen

/-- A token that does not pass the checks without keys is at fault. -/
theorem faultsToken_of_screen {e : TokenError} (h : v.screen token = .error e) :
    e.faultsToken = true := by
  unfold screen at h
  split at h
  · cases h
    rfl
  · split at h
    · cases h
      rfl
    · split at h
      · cases h
      · cases h
        rfl

/-- A token has an end that is not past, and the issuer and the audience that it names
are the required ones. -/
theorem checkClaims_eq_ok_iff {seconds : Int} :
    v.checkClaims seconds c = .ok () ↔
      (∃ expiry, c.expiry = some expiry ∧ v.isExpired seconds expiry = false) ∧
        (∀ required named, v.issuer = some required → c.issuer = some named →
          named = required) ∧
        ∀ required audience, v.audience = some required → c.audience = some audience →
          audience.admits required = true := by
  have hissuer : v.issuer.any (fun required => c.issuer.any (· ≠ required)) = false ↔
      ∀ required named, v.issuer = some required → c.issuer = some named →
        named = required := by
    cases v.issuer <;> cases c.issuer <;> simp
  have haudience :
      v.audience.any (fun required => c.audience.any (fun a => !a.admits required)) = false ↔
        ∀ required audience, v.audience = some required → c.audience = some audience →
          audience.admits required = true := by
    cases v.audience <;> cases c.audience <;> simp
  rw [← hissuer, ← haudience]
  unfold checkClaims
  generalize v.issuer.any (fun required => c.issuer.any (· ≠ required)) = wrongIssuer
  generalize v.audience.any (fun required => c.audience.any (fun a => !a.admits required)) =
    wrongAudience
  cases c.expiry with
  | none => simp
  | some expiry =>
      have hexpiry : (∃ e, some expiry = some e ∧ v.isExpired seconds e = false) ↔
          v.isExpired seconds expiry = false := by
        simp
      rw [hexpiry]
      cases hexpired : v.isExpired seconds expiry <;> cases wrongIssuer <;>
        cases wrongAudience <;> simp [hexpired]

/-- Under a list of algorithms a signature is accepted if its algorithm is one of the list, the
key goes with all of the list, and the signature is base64 and fits. -/
theorem checkSignature_allowed_eq_ok_iff {allowed : List Algorithm} {key : VerificationKey}
    {algorithm : Algorithm} :
    checkSignature allowed key algorithm t = .ok () ↔
      (algorithm ∈ allowed ∧ ∀ a ∈ allowed, key.suits a = true) ∧
        key.isOnCurveOf algorithm = true ∧
        ∃ signature, Alphabet.addressSafe.decode? t.signature = some signature ∧
          key.verifies algorithm t.messageOctets signature = true := by
  by_cases hmem : algorithm ∈ allowed
  · by_cases hall : ∀ a ∈ allowed, key.suits a = true
    · have hsuits : key.suits algorithm = true := hall algorithm hmem
      have hfamily : allowed.all key.suits = true := List.all_eq_true.mpr hall
      have hallowed : algorithm ∈ allowed ∧ ∀ a ∈ allowed, key.suits a = true := ⟨hmem, hall⟩
      rw [and_iff_right hallowed]
      unfold checkSignature
      cases key.isOnCurveOf algorithm with
      | false => simp [hmem, hsuits]
      | true => cases Alphabet.addressSafe.decode? t.signature <;> simp [hmem, hsuits, hfamily]
    · refine iff_of_false ?_ (fun h => hall h.1.2)
      have hfamily : allowed.all key.suits = false := by
        rw [← List.all_eq_true] at hall
        exact Bool.eq_false_iff.mpr hall
      unfold checkSignature
      cases key.suits algorithm <;> cases key.isOnCurveOf algorithm <;> simp [hmem, hfamily]
  · refine iff_of_false ?_ (fun h => hmem h.1.1)
    simp [checkSignature, hmem]

/-- A signature is accepted if it is base64, fits, and the key is one for the algorithm. -/
theorem checkSignature_eq_ok_iff {key : VerificationKey} {algorithm : Algorithm} :
    checkSignature [algorithm] key algorithm t = .ok () ↔
      key.suits algorithm = true ∧ key.isOnCurveOf algorithm = true ∧
        ∃ signature, Alphabet.addressSafe.decode? t.signature = some signature ∧
          key.verifies algorithm t.messageOctets signature = true := by
  rw [checkSignature_allowed_eq_ok_iff]
  simp

/-- With a key, a token is accepted if its signature fits and its claims pass. -/
theorem openWith_eq_ok_iff {seconds : Int} {key : VerificationKey} {algorithm : Algorithm} :
    v.openWith seconds key algorithm t = .ok c ↔
      checkSignature [algorithm] key algorithm t = .ok () ∧ payloadClaims t = .ok c ∧
        v.checkClaims seconds c = .ok () := by
  unfold openWith
  cases checkSignature [algorithm] key algorithm t with
  | error fault => exact ⟨nofun, fun h => nomatch h.1⟩
  | ok _ =>
      cases payloadClaims t with
      | error fault => exact ⟨nofun, fun h => nomatch h.2.1⟩
      | ok claims =>
          cases hcheck : v.checkClaims seconds claims with
          | error fault =>
              refine ⟨fun h => ?_, ?_⟩
              · change (v.checkClaims seconds claims >>= fun _ => .ok claims) = .ok c at h
                rw [hcheck] at h
                cases h
              · rintro ⟨-, hclaims, hpassed⟩
                cases hclaims
                rw [hcheck] at hpassed
                cases hpassed
          | ok _ =>
              constructor
              · intro h
                change (v.checkClaims seconds claims >>= fun _ => .ok claims) = .ok c at h
                rw [hcheck] at h
                cases h
                exact ⟨rfl, rfl, hcheck⟩
              · rintro ⟨-, hclaims, -⟩
                cases hclaims
                change (v.checkClaims seconds c >>= fun _ => .ok c) = .ok c
                rw [hcheck]
                rfl

/-- A token is accepted if it has a header of an allowed algorithm, its key is found and
can be used, and it passes the checks with that key. -/
theorem decodeClaims_eq_value_iff {moment : Moment} {token : String} {d left : KeyDesk} :
    v.decodeClaims moment token d = (.value c, left) ↔
      ∃ t header published key, v.screen token = .ok (t, header) ∧
        v.source.findKey moment.steady header.keyId d = (.value (some published), left) ∧
        published.verificationKey = .ok key ∧
        v.openWith moment.seconds key header.algorithm t = .ok c := by
  unfold decodeClaims
  cases hscreen : v.screen token with
  | error e => exact ⟨nofun, by rintro ⟨_, _, _, _, h, -⟩; cases h⟩
  | ok parts =>
      obtain ⟨t, header⟩ := parts
      simp only
      rw [Run.bind_eq_value_iff]
      constructor
      · rintro ⟨found, after, hfound, hrest⟩
        cases found with
        | none => cases hrest
        | some published =>
            obtain ⟨key, after', hkey, hopen⟩ := Run.bind_eq_value_iff.mp hrest
            cases husable : published.verificationKey with
            | error e =>
                rw [husable] at hkey
                cases hkey
            | ok usable =>
                rw [husable] at hkey
                cases hkey
                cases haccepted : v.openWith moment.seconds key header.algorithm t with
                | error fault =>
                    rw [haccepted] at hopen
                    cases hopen
                | ok claims =>
                    rw [haccepted] at hopen
                    cases hopen
                    exact ⟨t, header, published, key, rfl, hfound, husable, haccepted⟩
      · rintro ⟨t', header', published, key, hparts, hfound, husable, haccepted⟩
        cases hparts
        refine ⟨some published, left, hfound, ?_⟩
        refine Run.bind_eq_value_iff.mpr ⟨key, left, by rw [husable]; rfl, ?_⟩
        rw [haccepted]
        rfl

/-! ## Answers -/

/-- Nobody is vouched for by a token that is refused and at fault itself; any other reason is
passed on. -/
theorem validate_of_refused {moment : Moment} {token : String} {d left : KeyDesk} {e : TokenError}
    (h : v.decodeClaims moment token d = (.refused e, left)) :
    v.validate moment token d =
      (if e.faultsToken then .value none else .refused e.toAccessError, left) := by
  have hresult : v.decodeClaims moment token d = (.ofExcept (.error e), left) := h
  rw [validate, Run.bind_value (Run.attempt_of_ofExcept hresult)]
  simp only
  cases e.faultsToken <;> rfl

/-! ## Accepted claims -/

/-- The claims that are handed out are those in the payload, and they have been checked. -/
theorem checkClaims_of_decodeClaims {moment : Moment} {token : String} {d left : KeyDesk}
    (h : v.decodeClaims moment token d = (.value c, left)) :
    ∃ t, SignedToken.ofText? token.toList = some t ∧ payloadClaims t = .ok c ∧
      v.checkClaims moment.seconds c = .ok () := by
  obtain ⟨t, header, published, key, hscreen, -, -, hopen⟩ := decodeClaims_eq_value_iff.mp h
  obtain ⟨-, hclaims, hcheck⟩ := openWith_eq_ok_iff.mp hopen
  exact ⟨t, (screen_eq_ok_iff.mp hscreen).1, hclaims, hcheck⟩

/-- A token that one validator accepts is accepted by any other of the same keys and
algorithms whose demands on the claims are met, if the keys are of the same age. -/
theorem decodeClaims_of_checkClaims {u : TokenValidator} {steady : Nat} {seconds other : Int}
    {token : String} {d left : KeyDesk} (hsource : u.source = v.source)
    (halgorithms : u.algorithms = v.algorithms)
    (h : v.decodeClaims ⟨steady, seconds⟩ token d = (.value c, left))
    (hcheck : u.checkClaims other c = .ok ()) :
    u.decodeClaims ⟨steady, other⟩ token d = (.value c, left) := by
  obtain ⟨t, header, published, key, hscreen, hfound, hkey, hopen⟩ :=
    decodeClaims_eq_value_iff.mp h
  obtain ⟨hsignature, hclaims, -⟩ := openWith_eq_ok_iff.mp hopen
  rw [screen_eq_ok_iff, ← halgorithms, ← screen_eq_ok_iff] at hscreen
  rw [← hsource] at hfound
  exact decodeClaims_eq_value_iff.mpr ⟨t, header, published, key, hscreen, hfound, hkey,
    openWith_eq_ok_iff.mpr ⟨hsignature, hclaims, hcheck⟩⟩

/-- One more demand on the claims lets those tokens pass whose payload meets it. -/
theorem decodeClaims_iff_of_demand {u : TokenValidator} {moment : Moment} {token : String}
    {d left : KeyDesk} {demand met : Prop} (hsource : u.source = v.source)
    (halgorithms : u.algorithms = v.algorithms)
    (hdemand : v.checkClaims moment.seconds c = .ok () ↔
      u.checkClaims moment.seconds c = .ok () ∧ demand)
    (hmet : ∀ {t}, SignedToken.ofText? token.toList = some t → payloadClaims t = .ok c →
      (demand ↔ met)) :
    v.decodeClaims moment token d = (.value c, left) ↔
      u.decodeClaims moment token d = (.value c, left) ∧ met := by
  constructor
  · intro haccepted
    obtain ⟨t, hparts, hclaims, hcheck⟩ := checkClaims_of_decodeClaims haccepted
    obtain ⟨hothers, hmeets⟩ := hdemand.mp hcheck
    exact ⟨decodeClaims_of_checkClaims hsource halgorithms haccepted hothers,
      (hmet hparts hclaims).mp hmeets⟩
  · rintro ⟨haccepted, hmeets⟩
    obtain ⟨t, hparts, hclaims, hothers⟩ := checkClaims_of_decodeClaims haccepted
    exact decodeClaims_of_checkClaims hsource.symm halgorithms.symm haccepted
      (hdemand.mpr ⟨hothers, (hmet hparts hclaims).mpr hmeets⟩)

end TokenValidator

end WebAuth
