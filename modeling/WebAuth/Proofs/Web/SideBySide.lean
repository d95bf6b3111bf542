import WebAuth.Proofs.Token.ReachableKeys
import WebAuth.Proofs.Token.RequiredIssuer
import WebAuth.Web.Strategies

/-!
# Two issuers side by side

An authenticator asks the validator of one issuer and then that of another.  The token of one
issuer is the other one's foreign token; as long as that is held against the token, nothing is
found by the one validator and the other is asked.  But a foreign token that asks for a key
that is not in the set is taken for a failure, which stops the authenticator before its own
validator is asked.

Main results:

- Theorem `TokenValidator.validate_of_hasKeys`: what a validator answers as a strategy.
- Theorem `Authenticator.authenticate_iff_not_asksInVain`: in which order an authenticator
  finds whose token it is.
-/

namespace WebAuth

/-! ## Answers of validators -/

namespace TokenValidator

/-- What a strategy answers where a validator has come to a result. -/
def answer : Except TokenError Claims → Ending AccessError (Option Identity)
  | .ok c => .value (some c.toIdentity)
  | .error e => if e.faultsToken then .value none else .refused e.toAccessError

/-- A validator whose keys can be had answers what it makes of the token with the set. -/
theorem validate_of_hasKeys {v : TokenValidator} {keys : KeySet} {d : KeyDesk}
    (h : v.source.HasKeys keys d) (moment : Moment) (token : String) :
    ∃ left, v.validate moment token d = (answer (v.judge moment.seconds keys token), left) ∧
      v.source.Settled keys d left := by
  obtain ⟨left, hdecode, hleft⟩ := decodeClaims_of_hasKeys h moment token
  refine ⟨left, ?_, hleft⟩
  rw [validate, Run.bind_value (Run.attempt_of_ofExcept hdecode)]
  cases v.judge moment.seconds keys token with
  | ok c => rfl
  | error e =>
      simp only [answer]
      cases e.faultsToken <;> rfl

end TokenValidator

namespace Web

open Http TokenValidator

/-! ## Validators as strategies -/

variable {v : TokenValidator} {number : Nat} {r : Request} {w : World} {token : String}
  {keys : KeySet}

/-- A strategy with a validator whose keys can be had answers what the validator makes of the
token. -/
theorem Strategy.identify_validated (h : v.source.HasKeys keys (w.desk number))
    (htoken : r.headers.bearerToken? = some token) :
    ∃ left, (validated v number).identify r w =
        (answer (v.judge w.moment.seconds keys token), w.setDesk number left) ∧
      v.source.Settled keys (w.desk number) left := by
  obtain ⟨left, hvalidate, hleft⟩ := validate_of_hasKeys h w.moment token
  refine ⟨left, ?_, hleft⟩
  simp only [validated, bearer, htoken]
  rw [Run.bind_value (Run.reads_apply _ _), World.inDesk, Run.within_apply, hvalidate]

/-- Working on a desk takes no time. -/
theorem World.moment_setDesk (w : World) (d : KeyDesk) : (w.setDesk number d).moment = w.moment :=
  rfl

/-- What can be had at one desk can still be had there when another one has been asked. -/
theorem World.hasKeys_setDesk {s : KeySource} {other : Nat} {left : KeyDesk}
    (h : s.HasKeys keys (w.desk other)) (hne : other ≠ number)
    (hrespond : left.network.respond = w.network.respond) :
    s.HasKeys keys ((w.setDesk number left).desk other) := by
  have hdesk : (w.setDesk number left).desk other = ⟨w.keyCaches other, left.network⟩ := by
    simp [setDesk, desk, hne]
  rw [hdesk]
  exact h.of_respond hrespond

/-! ## One after the other -/

namespace Authenticator

/-- Ask one strategy, and another one if the first finds nothing. -/
def either (first second : Strategy) : Authenticator := ⟨.firstSuccess, [first, second]⟩

variable {first second : Strategy} {r : Request} {w after : World}

/-- An identity that the first strategy finds is found. -/
theorem either_of_found {i : Identity} (h : first.identify r w = (.value (some i), after)) :
    (either first second).authenticate r w = (.value (some i), after) := by
  change firstSuccess r [first, second] w = _
  rw [firstSuccess_cons h]

/-- If the first strategy finds nothing, the second one is asked. -/
theorem either_of_nothing (h : first.identify r w = (.value none, after)) {i : Identity}
    {left : World} (hsecond : second.identify r after = (.value (some i), left)) :
    (either first second).authenticate r w = (.value (some i), left) := by
  change firstSuccess r [first, second] w = _
  rw [firstSuccess_cons h]
  simp only
  rw [firstSuccess_cons hsecond]

/-- If the first strategy is refused, so is the authenticator. -/
theorem either_of_refused {e : AccessError} (h : first.identify r w = (.refused e, after)) :
    (either first second).authenticate r w = (.refused e, after) := by
  change firstSuccess r [first, second] w = _
  rw [firstSuccess, Run.bind_refused h]

/-- Of two validators whose keys can be had and used, one accepts a token and the other does
not.  An authenticator that asks the one that accepts it first finds the identity.  If it asks
the other first, it finds the identity exactly if the token does not ask that one for a key
that its set does not have; else it is refused. -/
theorem authenticate_iff_not_asksInVain {own other : TokenValidator} {i j : Nat}
    {mine theirs : KeySet} {token : String} {c : Claims} (hij : i ≠ j)
    (hown : own.source.HasKeys mine (w.desk i)) (hother : other.source.HasKeys theirs (w.desk j))
    (husable : theirs.AreUsable) (htoken : r.headers.bearerToken? = some token)
    (haccepts : (own.decodeClaims w.moment token (w.desk i)).1 = .value c)
    (hrejects : ∀ claims, (other.decodeClaims w.moment token (w.desk j)).1 ≠ .value claims) :
    ((either (.validated own i) (.validated other j)).authenticate r w).1 =
        .value (some c.toIdentity) ∧
      (((either (.validated other j) (.validated own i)).authenticate r w).1 =
          .value (some c.toIdentity) ↔ ¬other.AsksInVain theirs token) ∧
      (((either (.validated other j) (.validated own i)).authenticate r w).1 =
          .refused TokenError.keyNotFound.toAccessError ↔ other.AsksInVain theirs token) := by
  have hmine : own.judge w.moment.seconds mine token = .ok c :=
    (decodeClaims_eq_value_iff_judge hown).mp haccepts
  obtain ⟨e, htheirs⟩ : ∃ e, other.judge w.moment.seconds theirs token = .error e := by
    cases hjudge : other.judge w.moment.seconds theirs token with
    | error e => exact ⟨e, rfl⟩
    | ok claims =>
        exact absurd ((decodeClaims_eq_value_iff_judge hother).mpr hjudge) (hrejects claims)
  obtain ⟨left, hfirst, -⟩ := Strategy.identify_validated hown htoken
  rw [hmine] at hfirst
  refine ⟨by rw [either_of_found hfirst], ?_⟩
  obtain ⟨left, hsecond, hleft⟩ := Strategy.identify_validated hother htoken
  rw [htheirs] at hsecond
  rcases judge_eq_error_cases husable htheirs with ⟨hfault, hnot⟩ | ⟨rfl, hvain⟩
  · -- The token is held to be at fault, and its own validator is asked in turn.
    simp only [answer, hfault, if_true] at hsecond
    have hstill := World.hasKeys_setDesk hown hij hleft.respond
    obtain ⟨last, hthen, -⟩ := Strategy.identify_validated hstill htoken
    rw [World.moment_setDesk, hmine] at hthen
    rw [either_of_nothing hsecond hthen]
    exact ⟨iff_of_true rfl hnot, iff_of_false nofun hnot⟩
  · -- That a key is missing is a failure.
    rw [either_of_refused hsecond]
    exact ⟨iff_of_false nofun (not_not_intro hvain), iff_of_true rfl hvain⟩

/-! ## A foreign token with an unknown key -/

/-- The set of one RSA key. -/
def rsaKeys (id modulus : String) : KeySet :=
  ⟨[{ id := some id, type := "RSA", algorithm := none, modulus := some modulus
      exponent := some "AQAB", curve := none, x := none, y := none }]⟩

/-- The document of that set. -/
def rsaDocument (id modulus : String) : List UInt8 :=
  ("\x7b\"keys\":[\x7b\"kid\":\"" ++ id ++ "\",\"kty\":\"RSA\",\"n\":\"" ++ modulus ++
    "\",\"e\":\"AQAB\"\x7d]\x7d").toUTF8.toList

/-- The modulus of the key that the token is signed with. -/
def homeModulus : String :=
  "ucEzjKK3jjX0I-Osq_cr-qjxi839La1qqPAMjKlXZrIO1N1ZNnJVU4xTZeVZzDyFXLtmLvWsJ0K4Syux09YtrQ"

/-- The modulus of another issuer's key. -/
def foreignModulus : String :=
  "yD8iscM8VcCzJOANYCoqfMGAGEUcMjyuEfo3J6EocFWPSUKJr2nVPSgsW3mwjtUjuGDS7upwOMfIK1w-mC-GYQ"

/-- The keys of the token's issuer. -/
def homeKeys : KeySet := rsaKeys "k2" homeModulus

/-- The keys of the other issuer. -/
def foreignKeys : KeySet := rsaKeys "login-1" foreignModulus

/-- A validator of the other issuer. -/
def foreignValidator : TokenValidator :=
  (ofKeyLocation "https://login.example.org/keys").withIssuer "https://login.example.org"

/-- A network on which both issuers publish their keys. -/
def bothOnline : Network where
  respond _ query :=
    if query.address = "https://idp.example.com/keys" then
      .answered ⟨200, none, rsaDocument "k2" homeModulus⟩
    else if query.address = "https://login.example.org/keys" then
      .answered ⟨200, none, rsaDocument "login-1" foreignModulus⟩
    else .unreachable
  queries := []

/-- A world in which no keys have been fetched yet. -/
def freshWorld : World := .initial (Realm.initial ⟨0, 0⟩ ⟨Nat.repr, 0⟩) bothOnline ⟨fun _ => [], 0⟩

/-- A request with the token of the first issuer. -/
def homeRequest : Request :=
  ⟨"GET", .origin "/", ⟨[("authorization", "Bearer " ++ secondKeyToken)]⟩, .empty⟩

theorem hasKeys_home : guardedValidator.source.HasKeys homeKeys (freshWorld.desk 0) where
  served := Network.IsSteady.serves (fun _ _ _ => rfl) (by decide +kernel)
  held := nofun

theorem hasKeys_foreign : foreignValidator.source.HasKeys foreignKeys (freshWorld.desk 1) where
  served := Network.IsSteady.serves (fun _ _ _ => rfl) (by decide +kernel)
  held := nofun

/-- A key with a modulus in base64 can be used. -/
theorem areUsable_rsaKeys {id modulus : String}
    (h : (Encoding.Alphabet.addressSafe.decode? modulus.toList).isSome = true) :
    (rsaKeys id modulus).AreUsable := by
  obtain ⟨octets, hmodulus⟩ := Option.isSome_iff_exists.mp h
  have hoctets : PublishedKey.componentOctets modulus = .ok octets := by
    rw [PublishedKey.componentOctets, hmodulus]
  have hexponent : PublishedKey.componentOctets "AQAB" = .ok [1, 0, 1] := by decide
  intro k hk
  obtain rfl := List.mem_singleton.mp hk
  refine ⟨.rsa octets [1, 0, 1], ?_⟩
  simp [PublishedKey.verificationKey, PublishedKey.component, hoctets, hexponent, bind,
    Except.bind]

/-- The token's issuer accepts it. -/
theorem decodeClaims_home :
    (guardedValidator.decodeClaims freshWorld.moment secondKeyToken (freshWorld.desk 0)).1 =
      .value secondKeyClaims := by
  rw [decodeClaims_eq_value_iff_judge hasKeys_home]
  decide +kernel

/-- The other issuer does not know the token's key. -/
theorem judge_foreign :
    foreignValidator.judge freshWorld.moment.seconds foreignKeys secondKeyToken =
      .error .keyNotFound := by
  decide +kernel

theorem decodeClaims_foreign (claims : Claims) :
    (foreignValidator.decodeClaims freshWorld.moment secondKeyToken (freshWorld.desk 1)).1 ≠
      .value claims := by
  rw [ne_eq, decodeClaims_eq_value_iff_judge hasKeys_foreign, judge_foreign]
  nofun

theorem bearerToken?_homeRequest :
    homeRequest.headers.bearerToken? = some secondKeyToken := by
  decide +kernel

/-- Both orders of the two validators at the token of the one. -/
theorem authenticate_iff_not_asksInVain_home :
    let own := Strategy.validated guardedValidator 0
    let other := Strategy.validated foreignValidator 1
    (0 ≠ 1 ∧ guardedValidator.source.HasKeys homeKeys (freshWorld.desk 0) ∧
      foreignValidator.source.HasKeys foreignKeys (freshWorld.desk 1) ∧
      foreignKeys.AreUsable ∧ homeRequest.headers.bearerToken? = some secondKeyToken ∧
      (guardedValidator.decodeClaims freshWorld.moment secondKeyToken (freshWorld.desk 0)).1 =
        .value secondKeyClaims ∧
      ∀ claims, (foreignValidator.decodeClaims freshWorld.moment secondKeyToken
        (freshWorld.desk 1)).1 ≠ .value claims) ∧
    ((either own other).authenticate homeRequest freshWorld).1 =
        .value (some secondKeyClaims.toIdentity) ∧
      (((either other own).authenticate homeRequest freshWorld).1 =
          .value (some secondKeyClaims.toIdentity) ↔
        ¬foreignValidator.AsksInVain foreignKeys secondKeyToken) ∧
      (((either other own).authenticate homeRequest freshWorld).1 =
          .refused TokenError.keyNotFound.toAccessError ↔
        foreignValidator.AsksInVain foreignKeys secondKeyToken) := by
  intro own other
  have husable : foreignKeys.AreUsable := areUsable_rsaKeys (by decide +kernel)
  exact ⟨⟨by decide, hasKeys_home, hasKeys_foreign, husable, bearerToken?_homeRequest,
      decodeClaims_home, decodeClaims_foreign⟩,
    authenticate_iff_not_asksInVain (by decide) hasKeys_home hasKeys_foreign husable
      bearerToken?_homeRequest decodeClaims_home decodeClaims_foreign⟩

/-- Not in every order does an authenticator with the validators of two issuers find whose token
it is. -/
theorem not_authenticate_of_accepted :
    ¬∀ (own other : TokenValidator) (i j : Nat) (mine theirs : KeySet) (r : Request) (w : World)
        (token : String) (c : Claims),
      own.issuer.isSome = true → other.issuer.isSome = true → own.issuer ≠ other.issuer →
      i ≠ j → own.source.HasKeys mine (w.desk i) → other.source.HasKeys theirs (w.desk j) →
      mine.AreUsable → theirs.AreUsable → r.headers.bearerToken? = some token →
      (own.decodeClaims w.moment token (w.desk i)).1 = .value c →
      (∀ claims, (other.decodeClaims w.moment token (w.desk j)).1 ≠ .value claims) →
      ((either (.validated other j) (.validated own i)).authenticate r w).1 =
        .value (some c.toIdentity) := by
  intro h
  have hfound := h guardedValidator foreignValidator 0 1 homeKeys foreignKeys homeRequest freshWorld
    secondKeyToken secondKeyClaims rfl rfl (by decide) (by decide) hasKeys_home hasKeys_foreign
    (areUsable_rsaKeys (by decide +kernel)) (areUsable_rsaKeys (by decide +kernel))
    bearerToken?_homeRequest decodeClaims_home decodeClaims_foreign
  obtain ⟨left, hidentify, -⟩ :=
    Strategy.identify_validated hasKeys_foreign bearerToken?_homeRequest
  rw [judge_foreign] at hidentify
  rw [either_of_refused hidentify] at hfound
  cases hfound

end Authenticator

end Web

end WebAuth
