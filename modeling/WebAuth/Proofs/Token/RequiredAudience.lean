import WebAuth.Proofs.Token.RequiredIssuer

/-!
# What a required audience requires

A validator that requires an audience looks for it among those that a token is meant for.
A token that is meant for nobody in particular, because its payload has no `aud` or null for
it, is not compared and passes.

Main results:

- Theorem `TokenValidator.checkClaims_iff_of_audience`: what the demand adds to the others.
- Theorem `TokenValidator.decodeClaims_iff_of_audience`: which tokens pass.
-/

namespace WebAuth

/-- A value names an audience: it is its name or an array of names with that name. -/
inductive Audience.IsNamedBy (name : String) : Json → Prop where
  | single : IsNamedBy name (.string name)
  | several {names : List String} (h : name ∈ names) : IsNamedBy name (Json.ofTexts names)

/-- An audience admits a name exactly if its notation names it. -/
theorem Audience.isNamedBy_toJson_iff {a : Audience} {name : String} :
    IsNamedBy name a.toJson ↔ a.admits name = true := by
  cases a with
  | single only =>
      rw [toJson, admits, decide_eq_true_iff]
      constructor
      · rintro ⟨⟩
        rfl
      · rintro rfl
        exact .single
  | several names =>
      rw [toJson, admits, List.contains_iff_mem]
      constructor
      · intro h
        generalize hvalue : Json.ofTexts names = value at h
        cases h with
        | single => cases hvalue
        | several h => exact Json.ofTexts_injective hvalue ▸ h
      · exact .several

namespace TokenValidator

/-- The same demands on tokens for any audience. -/
def withoutAudience (v : TokenValidator) : TokenValidator := { v with audience := none }

/-- A required audience is looked for in the audience that the claims name, if they name
one. -/
theorem checkClaims_iff_of_audience {v : TokenValidator} {name : String}
    (h : v.audience = some name) {seconds : Int} {c : Claims} :
    v.checkClaims seconds c = .ok () ↔
      v.withoutAudience.checkClaims seconds c = .ok () ∧
        ∀ a, c.audience = some a → a.admits name = true := by
  rw [checkClaims_eq_ok_iff, checkClaims_eq_ok_iff]
  constructor
  · rintro ⟨hexpiry, hissuer, haudience⟩
    exact ⟨⟨hexpiry, hissuer, nofun⟩, fun a ha => haudience name a h ha⟩
  · rintro ⟨⟨hexpiry, hissuer, -⟩, haudience⟩
    refine ⟨hexpiry, hissuer, ?_⟩
    intro required a hrequired ha
    cases h.symm.trans hrequired
    exact haudience a ha

/-- The audience among the claims of a token, if there is one, admits a name exactly if the
payload names it, or nobody, or has null. -/
theorem audience_iff_claim? {token : String} {t : SignedToken} {c : Claims}
    (hparts : SignedToken.ofText? token.toList = some t) (hclaims : payloadClaims t = .ok c)
    (name : String) :
    (∀ a, c.audience = some a → a.admits name = true) ↔
      SignedToken.claim? token "aud" = none ∨ SignedToken.claim? token "aud" = some .null ∨
        ∃ value, SignedToken.claim? token "aud" = some value ∧ Audience.IsNamedBy name value := by
  have hread := Claims.isField_audience.readOption_claim? hparts hclaims
  rcases Json.readOption_eq_ok_iff.mp hread with ⟨hnull, hnone⟩ | ⟨hvalue, a, ha, hsome⟩
  · -- Nobody is named, and both sides hold.
    rw [hnone]
    refine ⟨fun _ => ?_, fun _ => nofun⟩
    cases hclaim : SignedToken.claim? token "aud" with
    | none => exact Or.inl rfl
    | some value =>
        rw [hclaim, Option.getD_some] at hnull
        rw [hnull]
        exact Or.inr (Or.inl rfl)
  · cases hclaim : SignedToken.claim? token "aud" with
    | none => exact absurd (by rw [hclaim]; rfl) hvalue
    | some value =>
        rw [hclaim, Option.getD_some] at hvalue ha
        rw [Audience.ofJson_eq_ok_iff] at ha
        subst ha
        simp [hsome, hvalue, Audience.isNamedBy_toJson_iff]

/-- A validator that requires an audience accepts exactly those of the tokens accepted
without that demand whose payload names the audience, or has no `aud`, or null for it. -/
theorem decodeClaims_iff_of_audience {v : TokenValidator} {name : String}
    (h : v.audience = some name) (moment : Moment) (token : String) (d left : KeyDesk)
    (c : Claims) :
    v.decodeClaims moment token d = (.value c, left) ↔
      v.withoutAudience.decodeClaims moment token d = (.value c, left) ∧
        (SignedToken.claim? token "aud" = none ∨ SignedToken.claim? token "aud" = some .null ∨
          ∃ value, SignedToken.claim? token "aud" = some value ∧
            Audience.IsNamedBy name value) := by
  refine decodeClaims_iff_of_demand rfl rfl (checkClaims_iff_of_audience h) ?_
  intro t hparts hclaims
  exact audience_iff_claim? hparts hclaims name

/-- A validator that requires an audience. -/
def serviceValidator : TokenValidator :=
  (ofKeyLocation "https://idp.example.com/keys").withAudience "api"

/-- The condition at a token that is meant for nobody in particular. -/
theorem decodeClaims_iff_of_audience_unaddressed :
    serviceValidator.audience = some "api" ∧
      (serviceValidator.decodeClaims ⟨0, 0⟩ namelessToken namelessDesk =
          (.value namelessClaims, namelessDesk) ↔
        serviceValidator.withoutAudience.decodeClaims ⟨0, 0⟩ namelessToken namelessDesk =
            (.value namelessClaims, namelessDesk) ∧
          (SignedToken.claim? namelessToken "aud" = none ∨
            SignedToken.claim? namelessToken "aud" = some .null ∨
              ∃ value, SignedToken.claim? namelessToken "aud" = some value ∧
                Audience.IsNamedBy "api" value)) :=
  ⟨rfl, decodeClaims_iff_of_audience rfl ⟨0, 0⟩ namelessToken namelessDesk namelessDesk
    namelessClaims⟩

/-- The validator accepts the token although its payload has no `aud`. -/
theorem decodeClaims_unaddressed :
    (serviceValidator.decodeClaims ⟨0, 0⟩ namelessToken namelessDesk).1 =
        .value namelessClaims ∧
      SignedToken.claim? namelessToken "aud" = none := by
  constructor
  · decide +kernel
  · decide +kernel

end TokenValidator

end WebAuth
