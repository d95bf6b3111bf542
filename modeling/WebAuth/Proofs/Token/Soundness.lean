import WebAuth.Proofs.Token.Acceptance
import WebAuth.Proofs.Token.Payload

/-!
# What an accepted token has shown

A validator that hands out claims has found the token's key in the key set that it then
holds, whether that set was held before, fetched because none was fresh, or fetched again
because the token names an unknown key.  The key's type decides which algorithms it can
be used with, so the list of allowed algorithms can narrow the choice but not widen it.

Main results:

- Theorem `KeySource.held_of_findKey`: the key comes from the keys held afterwards.
- Theorem `PublishedKey.isOfFamily_of_suits`: types of keys and families of algorithms.
- Theorem `TokenValidator.hasShown_of_decodeClaims`: what an accepted token has shown.
-/

namespace WebAuth

open Encoding Http

/-! ## The key that a token means -/

/-- A token with an id of a key can only mean a key with that id; a token without one can
mean any key. -/
def PublishedKey.CanBeMeant (k : PublishedKey) (id : Option String) : Prop :=
  ∀ name, id = some name → k.id = some name

/-- A token without an id can mean any key. -/
theorem PublishedKey.canBeMeant_none (k : PublishedKey) : k.CanBeMeant none :=
  nofun

/-- A token with an id can mean the keys with that id. -/
theorem PublishedKey.canBeMeant_some_iff {k : PublishedKey} {name : String} :
    k.CanBeMeant (some name) ↔ k.id = some name := by
  constructor
  · intro h
    exact h name rfl
  · rintro h _ ⟨⟩
    exact h

namespace KeySet

/-- A key is the first of a set that can be meant. -/
def IsFirst (s : KeySet) (id : Option String) (k : PublishedKey) : Prop :=
  ∃ before after, s.keys = before ++ k :: after ∧ k.CanBeMeant id ∧
    ∀ earlier ∈ before, ¬earlier.CanBeMeant id

/-- The key that is found is the first that can be meant. -/
theorem findKey_eq_some_iff {s : KeySet} {id : Option String} {k : PublishedKey} :
    s.findKey id = some k ↔ s.IsFirst id k := by
  cases id with
  | none =>
      rw [findKey_none, List.head?_eq_some_iff]
      constructor
      · rintro ⟨after, hkeys⟩
        exact ⟨[], after, hkeys, nofun, nofun⟩
      · rintro ⟨before, after, hkeys, -, hnone⟩
        cases before with
        | nil => exact ⟨after, hkeys⟩
        | cons earlier rest =>
            exact absurd earlier.canBeMeant_none (hnone earlier List.mem_cons_self)
  | some name =>
      simp only [findKey, List.find?_eq_some_iff_append, IsFirst,
        PublishedKey.canBeMeant_some_iff]
      constructor
      · rintro ⟨hid, before, after, hkeys, hearlier⟩
        exact ⟨before, after, hkeys, by simpa using hid, by simpa using hearlier⟩
      · rintro ⟨before, after, hkeys, hid, hearlier⟩
        exact ⟨by simpa using hid, before, after, hkeys, by simpa using hearlier⟩

/-- No key is found if none can be meant. -/
theorem findKey_eq_none_iff {s : KeySet} {id : Option String} :
    s.findKey id = none ↔ ∀ k ∈ s.keys, ¬k.CanBeMeant id := by
  cases id with
  | none =>
      simp [List.eq_nil_iff_forall_not_mem, PublishedKey.canBeMeant_none]
  | some name =>
      simp [findKey, PublishedKey.canBeMeant_some_iff]

end KeySet

/-! ## The keys held after a look-up -/

namespace KeySource

variable {s : KeySource} {now : Nat} {d left : KeyDesk} {keys : KeySet}

/-- Keys that a fetch brings are held afterwards. -/
theorem held_of_renew {cause : FetchCause}
    (h : s.renew now cause d = (.value keys, left)) :
    left.cache.held = some ⟨keys, now⟩ := by
  obtain ⟨answer, fetched, -, hrest⟩ := Run.bind_eq_value_iff.mp h
  cases answer with
  | error e =>
      obtain ⟨_, _, -, hrefused⟩ := Run.bind_eq_value_iff.mp hrest
      cases hrefused
  | ok brought =>
      obtain ⟨_, after, hremember, hpure⟩ := Run.bind_eq_value_iff.mp hrest
      cases hpure
      cases hremember
      rfl

/-- The keys that are used are held afterwards. -/
theorem held_of_keys (h : s.keys now d = (.value keys, left)) :
    ∃ held, left.cache.held = some held ∧ held.keys = keys := by
  obtain ⟨held?, after, hread, hrest⟩ := Run.bind_eq_value_iff.mp h
  cases hread
  cases hfresh : d.cache.held.filter (s.isFresh now) with
  | none =>
      rw [hfresh] at hrest
      exact ⟨_, held_of_renew hrest, rfl⟩
  | some held =>
      rw [hfresh] at hrest
      cases hrest
      exact ⟨held, (Option.filter_eq_some_iff.mp hfresh).1, rfl⟩

/-- What is found for an id is found in the keys that are held afterwards. -/
theorem held_of_findKey {id : Option String} {found : Option PublishedKey}
    (h : s.findKey now id d = (.value found, left)) :
    ∃ held, left.cache.held = some held ∧ held.keys.findKey id = found := by
  obtain ⟨keys, after, hkeys, hrest⟩ := Run.bind_eq_value_iff.mp h
  obtain ⟨held, hheld, rfl⟩ := held_of_keys hkeys
  cases hfound : held.keys.findKey id with
  | some key =>
      rw [hfound] at hrest
      cases hrest
      exact ⟨held, hheld, hfound⟩
  | none =>
      rw [hfound] at hrest
      obtain ⟨held?, same, hread, hagain⟩ := Run.bind_eq_value_iff.mp hrest
      cases hread
      cases hrecent : after.cache.held.filter (s.isRecent now) with
      | some recent =>
          rw [hrecent] at hagain
          cases hagain
          exact ⟨recent, (Option.filter_eq_some_iff.mp hrecent).1, rfl⟩
      | none =>
          -- The id is unknown and the set is not recent, so the keys are fetched again.
          rw [hrecent] at hagain
          obtain ⟨fresh, renewed, hrenew, hpure⟩ := Run.bind_eq_value_iff.mp hagain
          cases hpure
          exact ⟨_, held_of_renew hrenew, rfl⟩

end KeySource

/-! ## Types of keys and families of algorithms -/

namespace Algorithm

/-- The algorithms of RSA keys. -/
def ofRsa : List Algorithm := [rs256, rs384, rs512, ps256, ps384, ps512]

/-- The algorithms of keys on elliptic curves. -/
def ofCurves : List Algorithm := [es256, es384]

/-- The algorithms of shared secrets. -/
def ofSecrets : List Algorithm := [hs256, hs384, hs512]

end Algorithm

namespace PublishedKey

variable {k : PublishedKey} {key : VerificationKey} {a : Algorithm}

/-- An algorithm goes with the type of a published key. -/
def IsOfFamily (k : PublishedKey) (a : Algorithm) : Prop :=
  (k.type = "RSA" ∧ a ∈ Algorithm.ofRsa) ∨ (k.type = "EC" ∧ a ∈ Algorithm.ofCurves)

/-- A usable key has one of the two known types and is of that type's form. -/
theorem verificationKey_cases (h : k.verificationKey = .ok key) :
    (k.type = "RSA" ∧ ∃ modulus exponent, key = .rsa modulus exponent) ∨
      (k.type = "EC" ∧ ∃ octets, key = .point octets) := by
  unfold verificationKey at h
  split at h
  · rename_i hrsa
    obtain ⟨_, -, h⟩ := bind_eq_ok_iff.mp h
    obtain ⟨_, -, h⟩ := bind_eq_ok_iff.mp h
    obtain ⟨modulus, -, h⟩ := bind_eq_ok_iff.mp h
    obtain ⟨exponent, -, h⟩ := bind_eq_ok_iff.mp h
    exact Or.inl ⟨hrsa, modulus, exponent, (Except.ok.inj h).symm⟩
  · split at h
    · rename_i hcurve
      obtain ⟨_, -, h⟩ := bind_eq_ok_iff.mp h
      obtain ⟨_, -, h⟩ := bind_eq_ok_iff.mp h
      obtain ⟨_, -, h⟩ := bind_eq_ok_iff.mp h
      obtain ⟨_, -, h⟩ := bind_eq_ok_iff.mp h
      exact Or.inr ⟨hcurve, _, (Except.ok.inj h).symm⟩
    · cases h

/-- The algorithms that a usable key suits go with the key's type. -/
theorem isOfFamily_of_suits (h : k.verificationKey = .ok key) (hsuits : key.suits a = true) :
    k.IsOfFamily a := by
  rcases verificationKey_cases h with ⟨htype, modulus, exponent, rfl⟩ | ⟨htype, octets, rfl⟩
  · rw [VerificationKey.suits_rsa] at hsuits
    exact Or.inl ⟨htype, by revert hsuits; cases a <;> decide⟩
  · rcases (VerificationKey.suits_point octets a).mp hsuits with rfl | rfl
    · exact Or.inr ⟨htype, by decide⟩
    · exact Or.inr ⟨htype, by decide⟩

/-- No type of key goes with shared secrets or Edwards curves. -/
theorem not_mem_of_isOfFamily (h : k.IsOfFamily a) : a ∉ .edDsa :: Algorithm.ofSecrets := by
  rcases h with ⟨-, hmem⟩ | ⟨-, hmem⟩
  · revert hmem
    cases a <;> decide
  · revert hmem
    cases a <;> decide

end PublishedKey

/-! ## Signatures -/

/-- A token's signature fits its header and payload under a published key and an
algorithm. -/
def SignedToken.IsSignedWith (t : SignedToken) (k : PublishedKey) (a : Algorithm) : Prop :=
  ∃ key signature, k.verificationKey = .ok key ∧
    Alphabet.addressSafe.decode? t.signature = some signature ∧
    key.verifies a t.messageOctets signature = true

/-! ## Accepted tokens -/

namespace TokenValidator

/-- What an accepted token has shown: its parts and header, the keys held, the key that
was used and the document in the payload are as the claims need them to be. -/
structure HasShown (v : TokenValidator) (seconds : Int) (token : String) (keys : KeySet)
    (t : SignedToken) (header : TokenHeader) (k : PublishedKey) (document : Json)
    (c : Claims) : Prop where
  parts : SignedToken.ofText? token.toList = some t
  headed : TokenHeader.ofToken t = .ok header
  allowed : header.algorithm ∈ v.algorithms
  meant : keys.IsFirst header.keyId k
  family : k.IsOfFamily header.algorithm
  asymmetric : header.algorithm ∉ .edDsa :: Algorithm.ofSecrets
  signed : t.IsSignedWith k header.algorithm
  payload : t.document? = some document
  claims : Claims.ofDocument? document = some c
  /-- The payload has an end that is a number and, but for the leeway, not past. -/
  current : ∃ expiry : Nat, document.get? "exp" = some (.number (.integer expiry)) ∧
    seconds ≤ expiry + v.leeway

/-- An end among the claims is written in the document as a number. -/
theorem expiry_of_document {document : Json} {c : Claims} {expiry : Nat}
    (hclaims : Claims.ofDocument? document = some c) (hexpiry : c.expiry = some expiry) :
    document.get? "exp" = some (.number (.integer expiry)) :=
  (Claims.isField_expiry.get?_eq_number_iff hclaims).mpr ⟨expiry, rfl, hexpiry⟩

/-- Whatever a validator allows, holds and fetches, the tokens that it accepts have shown
that they may be. -/
theorem hasShown_of_decodeClaims {v : TokenValidator} {moment : Moment} {token : String}
    {d left : KeyDesk} {c : Claims}
    (h : v.decodeClaims moment token d = (.value c, left)) :
    ∃ held t header k document, left.cache.held = some held ∧
      v.HasShown moment.seconds token held.keys t header k document c := by
  obtain ⟨t, header, k, key, hscreen, hfound, hkey, hopen⟩ := decodeClaims_eq_value_iff.mp h
  obtain ⟨hparts, hheader, hallowed⟩ := screen_eq_ok_iff.mp hscreen
  obtain ⟨held, hheld, hmeant⟩ := KeySource.held_of_findKey hfound
  obtain ⟨hsignature, hpayload, hcheck⟩ := openWith_eq_ok_iff.mp hopen
  obtain ⟨hsuits, -, signature, hdecoded, hverifies⟩ := checkSignature_eq_ok_iff.mp hsignature
  obtain ⟨document, hdocument, hclaims⟩ := payloadClaims_eq_ok_iff.mp hpayload
  obtain ⟨⟨expiry, hexpiry, hcurrent⟩, -, -⟩ := checkClaims_eq_ok_iff.mp hcheck
  have hfamily := PublishedKey.isOfFamily_of_suits hkey hsuits
  refine ⟨held, t, header, k, document, hheld, ?_⟩
  exact
    { parts := hparts
      headed := hheader
      allowed := hallowed
      meant := KeySet.findKey_eq_some_iff.mp hmeant
      family := hfamily
      asymmetric := PublishedKey.not_mem_of_isOfFamily hfamily
      signed := ⟨key, signature, hkey, hdecoded, hverifies⟩
      payload := hdocument
      claims := hclaims
      current := ⟨expiry, expiry_of_document hclaims hexpiry, by
        simpa [isExpired] using hcurrent⟩ }

/-- A token that names the second of the keys held, and has been signed with it. -/
def secondKeyToken : String :=
  "eyJhbGciOiJSUzI1NiIsImtpZCI6ImsyIn0" ++ "." ++
    "eyJleHAiOjQxMDI0NDQ4MDAsImlzcyI6Imh0dHBzOi8vaWRwLmV4YW1wbGUuY29tIiwic3ViIjoiYWxpY2UifQ" ++
    "." ++
    "qNyOnHYmHaPdrtZvZpyXy0hKFk9tDeSjrPya2sINlw5JaUMlXId9kR3rRBRFenVG82SDn7zKCdvo1Ej8gYlnfw"

/-- A desk that holds two keys of different types. -/
def twoKeyDesk : KeyDesk :=
  let point : PublishedKey :=
    { id := some "k1", type := "EC", algorithm := none, modulus := none, exponent := none
      curve := some "P-256", x := some "AQ", y := some "AQ" }
  let rsa : PublishedKey :=
    { id := some "k2", type := "RSA", algorithm := none
      modulus := some
        "ucEzjKK3jjX0I-Osq_cr-qjxi839La1qqPAMjKlXZrIO1N1ZNnJVU4xTZeVZzDyFXLtmLvWsJ0K4Syux09YtrQ"
      exponent := some "AQAB", curve := none, x := none, y := none }
  ⟨⟨some ⟨⟨[point, rsa]⟩, 0⟩, []⟩, .deserted⟩

/-- A validator that allows algorithms of all families. -/
def permissiveValidator : TokenValidator :=
  (ofKeyLocation "https://idp.example.com/keys").withAlgorithms [.hs256, .es256, .rs256, .edDsa]

/-- What the token with the second key says. -/
def secondKeyClaims : Claims :=
  { Claims.empty with
    issuer := some "https://idp.example.com"
    subject := some "alice"
    expiry := some 4102444800 }

/-- What the token with the second key has shown in the last second of its leeway. -/
theorem hasShown_of_decodeClaims_secondKey :
    ∃ left held t header k document,
      permissiveValidator.decodeClaims ⟨0, 4102444860⟩ secondKeyToken twoKeyDesk =
          (.value secondKeyClaims, left) ∧
        left.cache.held = some held ∧
        permissiveValidator.HasShown 4102444860 secondKeyToken held.keys t header k document
          secondKeyClaims := by
  have hvalue : (permissiveValidator.decodeClaims ⟨0, 4102444860⟩ secondKeyToken
      twoKeyDesk).1 = .value secondKeyClaims := by
    decide +kernel
  cases haccepted : permissiveValidator.decodeClaims ⟨0, 4102444860⟩ secondKeyToken
      twoKeyDesk with
  | mk ending left =>
      rw [haccepted] at hvalue
      cases hvalue
      obtain ⟨held, t, header, k, document, hheld, hshown⟩ :=
        hasShown_of_decodeClaims haccepted
      exact ⟨left, held, t, header, k, document, rfl, hheld, hshown⟩

end TokenValidator

end WebAuth
