import WebAuth.Proofs.Token.KeyHistory

/-!
# Validators whose keys can be had

As long as a network answers with the same key set, it makes no difference to a validator
which keys it holds and which it has to fetch: what it makes of a token is a function of the
set, the token and the time.  If all keys of the set can be used, then a token that is refused
is held to be at fault itself, except when it asks for a key that the set does not have.

Main results:

- Theorem `KeySource.HasKeys.findKey`: looking up a key amounts to looking it up in the set.
- Theorem `TokenValidator.decodeClaims_of_hasKeys`: an acceptance as a function of the set.
- Theorem `TokenValidator.judge_eq_error_cases`: why tokens are refused.
-/

namespace WebAuth

open Http

/-! ## Keys that can be had -/

/-- At a location a network answers with a key set, whatever it has been asked before. -/
def Http.Network.Serves (n : Network) (location : String) (keys : KeySet) : Prop :=
  ∀ queries, (fetchKeys location { n with queries := queries }).1 = .value keys

/-- All keys of a set can be used. -/
def KeySet.AreUsable (s : KeySet) : Prop :=
  ∀ k ∈ s.keys, ∃ key, k.verificationKey = .ok key

/-- On a steady network a fetch of keys ends alike. -/
theorem Http.Network.IsSteady.fetchKeys {n : Network} (h : n.IsSteady) (location : String) :
    n.EndsAlike (fetchKeys location) := by
  unfold WebAuth.fetchKeys
  cases Url.parse location with
  | error e => exact endsAlike_of_apply fun _ => rfl
  | ok url =>
      refine (h.fetch keyType url).bind fun answer => ?_
      exact endsAlike_of_apply fun n => Run.ofExcept_apply (keySetOf answer) n

/-- A steady network serves the keys that it answers with once. -/
theorem Http.Network.IsSteady.serves {n : Network} (h : n.IsSteady) {location : String}
    {keys : KeySet} (honce : (WebAuth.fetchKeys location n).1 = .value keys) :
    n.Serves location keys := by
  obtain ⟨ending, hending⟩ := h.fetchKeys location
  obtain ⟨later, hnow⟩ := hending n.queries
  intro queries
  obtain ⟨later, hthen⟩ := hending queries
  have hsame : ending = .value keys := by
    rw [← honce]
    exact (congrArg Prod.fst hnow).symm
  rw [hthen, hsame]

namespace KeySource

variable {s : KeySource} {keys : KeySet} {now : Nat} {d left : KeyDesk}

/-- The keys of a source can be had: they are served, and no others are held. -/
structure HasKeys (s : KeySource) (keys : KeySet) (d : KeyDesk) : Prop where
  served : d.network.Serves s.location keys
  held : ∀ held, d.cache.held = some held → held.keys = keys

/-- Fetching keys does not change how a network answers. -/
theorem respond_fetchKeys (location : String) (n : Network) :
    (fetchKeys location n).2.respond = n.respond := by
  obtain ⟨queries, -, -, hleaves⟩ := fetchKeys_leaves location n
  rw [hleaves]
  rfl

/-- Keys are served as long as the network answers as it does. -/
theorem HasKeys.of_respond {cache : KeyCache} {n : Network} (h : s.HasKeys keys ⟨cache, n⟩)
    {after : Network} (hrespond : after.respond = n.respond) : s.HasKeys keys ⟨cache, after⟩ where
  served queries := by
    have hserved := h.served queries
    rw [← hrespond] at hserved
    exact hserved
  held := h.held

/-- What is left of a desk that has been asked for keys: they can still be had there, and its
network answers as before. -/
structure Settled (s : KeySource) (keys : KeySet) (d left : KeyDesk) : Prop where
  hasKeys : s.HasKeys keys left
  respond : left.network.respond = d.network.respond

/-- A renewal brings the keys. -/
theorem HasKeys.renew (h : s.HasKeys keys d) (now : Nat) (cause : FetchCause) :
    ∃ left, s.renew now cause d = (.value keys, left) ∧ s.Settled keys d left := by
  have hserved : (fetchKeys s.location d.network).1 = .value keys := h.served d.network.queries
  have hrespond := respond_fetchKeys s.location d.network
  rcases s.renew_cases now cause d with ⟨brought, after, hfetch, hrenew⟩ | ⟨e, after, hfetch, -⟩
  · rw [hfetch] at hserved hrespond
    cases hserved
    refine ⟨_, hrenew, ⟨?_, ?_⟩, hrespond⟩
    · exact (h.of_respond hrespond).served
    · rintro held ⟨⟩
      rfl
  · rw [hfetch] at hserved
    cases hserved

/-- Asking for the keys brings them. -/
theorem HasKeys.ask (h : s.HasKeys keys d) (now : Nat) :
    ∃ left, s.keys now d = (.value keys, left) ∧ s.Settled keys d left := by
  rcases s.keys_cases now d with ⟨held, hheld, -, hfresh⟩ | hstale
  · rw [h.held held hheld] at hfresh
    exact ⟨d, hfresh, h, rfl⟩
  · rw [hstale]
    exact h.renew now .notFresh

/-- Looking up a key amounts to looking it up in the set. -/
theorem HasKeys.findKey (h : s.HasKeys keys d) (now : Nat) (id : Option String) :
    ∃ left, s.findKey now id d = (.value (keys.findKey id), left) ∧ s.Settled keys d left := by
  obtain ⟨middle, hkeys, hmiddle⟩ := h.ask now
  rw [KeySource.findKey, Run.bind_value hkeys]
  cases hfound : keys.findKey id with
  | some key => exact ⟨middle, rfl, hmiddle⟩
  | none =>
      simp only
      rw [Run.bind_value (Run.reads_apply _ _)]
      cases hrecent : middle.cache.held.filter (s.isRecent now) with
      | some held =>
          have hheld := hmiddle.hasKeys.held held (Option.filter_eq_some_iff.mp hrecent).1
          refine ⟨middle, ?_, hmiddle⟩
          rw [← hfound, ← hheld]
          rfl
      | none =>
          obtain ⟨left, hrenew, hleft⟩ := hmiddle.hasKeys.renew now .unknownKey
          refine ⟨left, ?_, hleft.hasKeys, hleft.respond.trans hmiddle.respond⟩
          simp only
          rw [Run.bind_value hrenew, hfound]
          rfl

end KeySource

/-! ## Tokens and key sets -/

namespace TokenValidator

variable {v : TokenValidator} {seconds : Int} {keys : KeySet} {token : String}

/-- What a validator makes of a token with the keys of a set. -/
def judge (v : TokenValidator) (seconds : Int) (keys : KeySet) (token : String) :
    Except TokenError Claims :=
  match v.screen token with
  | .error e => .error e
  | .ok (t, header) =>
      match keys.findKey header.keyId with
      | none => .error .keyNotFound
      | some published => do
          let key ← published.verificationKey
          (v.openWith seconds key header.algorithm t).mapError .faulty

/-- If the keys can be had, what a validator makes of a token depends on the set alone. -/
theorem decodeClaims_of_hasKeys {d : KeyDesk} (h : v.source.HasKeys keys d) (moment : Moment)
    (token : String) :
    ∃ left, v.decodeClaims moment token d =
        (.ofExcept (v.judge moment.seconds keys token), left) ∧ v.source.Settled keys d left := by
  cases hscreen : v.screen token with
  | error e =>
      refine ⟨d, ?_, h, rfl⟩
      rw [decodeClaims_of_fault hscreen, judge, hscreen]
      rfl
  | ok parts =>
      obtain ⟨t, header⟩ := parts
      obtain ⟨left, hfound, hleft⟩ := h.findKey moment.steady header.keyId
      refine ⟨left, ?_, hleft⟩
      rw [decodeClaims, judge, hscreen]
      simp only
      rw [Run.bind_value hfound]
      cases keys.findKey header.keyId with
      | none => rfl
      | some published =>
          simp only
          cases published.verificationKey with
          | error e => rfl
          | ok key => exact (Run.bind_value rfl).trans (Run.ofExcept_apply _ left)

/-- If the keys can be had, a token is accepted exactly if it is with the set. -/
theorem decodeClaims_eq_value_iff_judge {d : KeyDesk} {c : Claims}
    (h : v.source.HasKeys keys d) {moment : Moment} :
    (v.decodeClaims moment token d).1 = .value c ↔
      v.judge moment.seconds keys token = .ok c := by
  obtain ⟨left, hdecode, -⟩ := decodeClaims_of_hasKeys h moment token
  rw [hdecode]
  cases v.judge moment.seconds keys token <;> simp [Ending.ofExcept]

/-- A token asks for a key that a set does not have: it is screened without a fault, and no key
of the set can be meant. -/
def AsksInVain (v : TokenValidator) (keys : KeySet) (token : String) : Prop :=
  ∃ t header, SignedToken.ofText? token.toList = some t ∧ TokenHeader.ofToken t = .ok header ∧
    header.algorithm ∈ v.algorithms ∧ ∀ k ∈ keys.keys, ¬k.CanBeMeant header.keyId

/-- Once a token is screened, it asks for a key in vain exactly if none is found. -/
theorem asksInVain_iff_of_screen {t : SignedToken} {header : TokenHeader}
    (h : v.screen token = .ok (t, header)) :
    v.AsksInVain keys token ↔ keys.findKey header.keyId = none := by
  obtain ⟨hparts, hheader, hallowed⟩ := screen_eq_ok_iff.mp h
  rw [KeySet.findKey_eq_none_iff]
  constructor
  · rintro ⟨t', header', hparts', hheader', -, hnone⟩
    cases hparts.symm.trans hparts'
    cases hheader.symm.trans hheader'
    exact hnone
  · intro hnone
    exact ⟨t, header, hparts, hheader, hallowed, hnone⟩

/-- If the keys can be used, a token that is refused is at fault, or it asks for a key that the
set does not have. -/
theorem judge_eq_error_cases {e : TokenError} (husable : keys.AreUsable)
    (h : v.judge seconds keys token = .error e) :
    (e.faultsToken = true ∧ ¬v.AsksInVain keys token) ∨
      (e = .keyNotFound ∧ v.AsksInVain keys token) := by
  cases hscreen : v.screen token with
  | error fault =>
      rw [judge, hscreen] at h
      cases h
      refine Or.inl ⟨faultsToken_of_screen hscreen, ?_⟩
      rintro ⟨t, header, hparts, hheader, hallowed, -⟩
      exact screen_eq_error_iff.mp ⟨_, hscreen⟩ ⟨t, header, hparts, hheader, hallowed⟩
  | ok parts =>
      obtain ⟨t, header⟩ := parts
      rw [asksInVain_iff_of_screen hscreen]
      simp only [judge, hscreen] at h
      cases hfound : keys.findKey header.keyId with
      | none =>
          rw [hfound] at h
          cases h
          exact Or.inr ⟨rfl, rfl⟩
      | some published =>
          obtain ⟨before, after, hkeys, -⟩ := KeySet.findKey_eq_some_iff.mp hfound
          obtain ⟨key, hkey⟩ := husable published (by simp [hkeys])
          simp only [hfound, hkey, bind, Except.bind] at h
          cases hopen : v.openWith seconds key header.algorithm t with
          | ok claims =>
              rw [hopen] at h
              cases h
          | error fault =>
              rw [hopen] at h
              cases h
              exact Or.inl ⟨rfl, nofun⟩

end TokenValidator

end WebAuth
