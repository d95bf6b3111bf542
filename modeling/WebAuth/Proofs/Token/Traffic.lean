import WebAuth.Proofs.Token.Pacing

/-!
# Requests that tokens cause

A validator asks for keys only when a token has passed the first checks: it has a readable
header, which names an allowed algorithm.  Other tokens leave the keys held and the network as
they are.  A token that has passed causes a request if no fresh keys are held, and one if the
keys that are then held lack its key and are not recent.  Keys that have just been fetched are
recent unless the pause is zero, so that it is otherwise one request at most.

Main results:

- Theorem `KeySource.Requests.sent`: the queries of some requests for keys.
- Theorem `KeySource.requests_findKey`: how many requests a look-up makes.
- Theorem `TokenValidator.validate_requests`: which tokens cause requests, and how many.
- Theorem `TokenValidator.requests_present`: how many requests any tokens cause together.
-/

namespace WebAuth

open Http

namespace KeySource

variable {s : KeySource} {now : Nat} {id : Option String} {d left : KeyDesk}
  {requests : List (List Query)}

/-! ## Requests -/

/-- Some requests for keys, the latest first, lead a desk from one state to another.  Each is
made by a renewal and has the queries that this leaves on the network. -/
inductive Requests (s : KeySource) (d : KeyDesk) : KeyDesk → List (List Query) → Prop where
  | nothing : Requests s d d []
  | renewed {middle : KeyDesk} {requests : List (List Query)} {queries : List Query}
      (h : Requests s d middle requests) (now : Nat) (cause : FetchCause)
      (hqueries : (s.renew now cause middle).2.network = middle.network.after queries) :
      Requests s d (s.renew now cause middle).2 (queries :: requests)

/-- A renewal leaves the queries of one request behind. -/
theorem renew_leaves (s : KeySource) (now : Nat) (cause : FetchCause) (d : KeyDesk) :
    ∃ queries, IsKeyRequest s.location queries ∧ (d.network.NeverRedirects → queries.length ≤ 1) ∧
      (s.renew now cause d).2.network = d.network.after queries := by
  obtain ⟨queries, hqueries, hdirect, hleaves⟩ := fetchKeys_leaves s.location d.network
  refine ⟨queries, hqueries, hdirect, ?_⟩
  rw [← hleaves]
  rcases s.renew_cases now cause d with ⟨keys, after, hfetch, hrenew⟩ | ⟨e, after, hfetch, hrenew⟩
  · rw [hrenew, hfetch]
    rfl
  · rw [hrenew, hfetch]
    rfl

/-- Some requests after others. -/
theorem Requests.trans {middle : KeyDesk} {more : List (List Query)}
    (h : s.Requests d middle requests) (hmore : s.Requests middle left more) :
    s.Requests d left (more ++ requests) := by
  induction hmore with
  | nothing => exact h
  | renewed _ now cause hqueries ih => exact ih.renewed now cause hqueries

/-- A renewal makes one more request. -/
theorem Requests.renew (h : s.Requests d left requests) (now : Nat) (cause : FetchCause) :
    ∃ queries, s.Requests d (s.renew now cause left).2 (queries :: requests) := by
  obtain ⟨queries, -, -, hleaves⟩ := s.renew_leaves now cause left
  exact ⟨queries, h.renewed now cause hleaves⟩

/-- What reaches servers are the queries of the requests, each for the address of the keys and
for the redirections that are followed from there. -/
theorem Requests.sent (h : s.Requests d left requests) :
    left.network = d.network.after requests.flatten ∧
      (∀ queries ∈ requests, IsKeyRequest s.location queries) ∧
      (d.network.NeverRedirects → requests.flatten.length ≤ requests.length) := by
  induction h with
  | nothing => exact ⟨rfl, nofun, fun _ => Nat.le_refl 0⟩
  | @renewed middle requests queries _ now cause hqueries ih =>
      obtain ⟨hsent, hall, hdirect⟩ := ih
      obtain ⟨own, hrequest, hone, hleaves⟩ := s.renew_leaves now cause middle
      have hown : own = queries := Network.after_inj (hleaves.symm.trans hqueries)
      subst hown
      refine ⟨?_, List.forall_mem_cons.mpr ⟨hrequest, hall⟩, ?_⟩
      · rw [hqueries, hsent, Network.after_after, List.flatten_cons]
      · intro hnever
        have hmiddle : middle.network.NeverRedirects := by
          rw [hsent]
          exact hnever
        have hlength := hone hmiddle
        have hrest := hdirect hnever
        rw [List.flatten_cons, List.length_append, List.length_cons]
        omega

/-! ## Look-ups -/

/-- Fresh keys are held. -/
def HoldsFresh (s : KeySource) (now : Nat) (d : KeyDesk) : Prop :=
  ∃ held, d.cache.held = some held ∧ s.isFresh now held = true

/-- Keys are held that were fetched only a moment ago. -/
def HoldsRecent (s : KeySource) (now : Nat) (d : KeyDesk) : Prop :=
  ∃ held, d.cache.held = some held ∧ s.isRecent now held = true

/-- How many requests a look-up makes. -/
inductive RequestCount (s : KeySource) (now : Nat) (id : Option String) (d : KeyDesk) :
    Nat → Prop where
  /-- Fresh keys are held that have the key or are recent. -/
  | none (hfresh : s.HoldsFresh now d) (hfound : ¬s.Misses now id d) : RequestCount s now id d 0
  /-- Fresh keys are held that lack the key and are not recent. -/
  | again (hfresh : s.HoldsFresh now d) (hmisses : s.Misses now id d) : RequestCount s now id d 1
  /-- The keys have to be fetched, and those have the key or are recent. -/
  | first (hstale : ¬s.HoldsFresh now d) (hfound : ¬s.Misses now id d) : RequestCount s now id d 1
  /-- The keys have to be fetched, and those lack the key and are not even then recent. -/
  | both (hstale : ¬s.HoldsFresh now d) (hmisses : s.Misses now id d) : RequestCount s now id d 2

/-- A look-up makes a request if no fresh keys are held, and one if it misses the key. -/
theorem requests_findKey (s : KeySource) (now : Nat) (id : Option String) (d : KeyDesk) :
    ∃ requests, s.Requests d (s.findKey now id d).2 requests ∧
      s.RequestCount now id d requests.length := by
  by_cases hfresh : s.HoldsFresh now d
  · obtain ⟨held, hheld, hage⟩ := hfresh
    rcases s.findKey_fetches now id d with ⟨hleft, hmisses⟩ | ⟨hleft, hfound⟩
    · rw [hleft, keys_of_fresh hheld hage]
      obtain ⟨queries, hrequests⟩ := Requests.nothing.renew now .unknownKey
      exact ⟨_, hrequests, .again ⟨held, hheld, hage⟩ hmisses⟩
    · rw [hleft, keys_of_fresh hheld hage]
      exact ⟨[], .nothing, .none ⟨held, hheld, hage⟩ hfound⟩
  · have hkeys : s.keys now d = s.renew now .notFresh d := by
      rcases s.keys_cases now d with ⟨held, hheld, hage, -⟩ | hrenew
      · exact absurd ⟨held, hheld, hage⟩ hfresh
      · exact hrenew
    obtain ⟨queries, hfirst⟩ := (Requests.nothing (s := s) (d := d)).renew now .notFresh
    rcases s.findKey_fetches now id d with ⟨hleft, hmisses⟩ | ⟨hleft, hfound⟩
    · rw [hleft, hkeys]
      obtain ⟨more, hsecond⟩ := hfirst.renew now .unknownKey
      exact ⟨_, hsecond, .both hfresh hmisses⟩
    · rw [hleft, hkeys]
      exact ⟨_, hfirst, .first hfresh hfound⟩

/-- Keys that have just been fetched are recent, unless the pause is zero. -/
theorem Misses.pause_eq_zero (h : s.Misses now id d) (hstale : ¬s.HoldsFresh now d) :
    s.pause = 0 := by
  obtain ⟨⟨keys, fetchedAt⟩, hvalue, hheld, -, hrecent⟩ := h
  rcases s.keys_cases now d with ⟨before, hbefore, hage, -⟩ | hrenew
  · exact absurd ⟨before, hbefore, hage⟩ hstale
  · rw [hrenew] at hvalue hheld
    rw [held_of_renew hvalue] at hheld
    cases hheld
    simpa [isRecent] using hrecent

/-- A look-up makes two requests at most, and two only if keys are never recent. -/
theorem RequestCount.le {count : Nat} (h : s.RequestCount now id d count) :
    count ≤ 2 ∧ (0 < s.pause → count ≤ 1) := by
  cases h with
  | none _ _ => omega
  | again _ _ => omega
  | first _ _ => omega
  | both hstale hmisses =>
      have hpause := hmisses.pause_eq_zero hstale
      omega

/-- Keys are recent only under a pause. -/
theorem HoldsRecent.pause_pos (h : s.HoldsRecent now d) : 0 < s.pause := by
  obtain ⟨held, -, hrecent⟩ := h
  rw [isRecent, decide_eq_true_eq] at hrecent
  omega

end KeySource

/-! ## Tokens -/

namespace TokenValidator

variable {v : TokenValidator} {moment : Moment} {token : String} {d : KeyDesk}

/-- Answering changes nothing. -/
theorem validate_leaves (v : TokenValidator) (moment : Moment) (token : String) (d : KeyDesk) :
    (v.validate moment token d).2 = (v.decodeClaims moment token d).2 := by
  rw [validate, Run.bind_apply, Run.attempt]
  rcases v.decodeClaims moment token d with ⟨claims | e | _, left⟩
  · rfl
  · simp only
    cases e.faultsToken <;> rfl
  · rfl

/-- Of a token that passes the first checks only the look-up of its key changes anything. -/
theorem decodeClaims_leaves {t : SignedToken} {header : TokenHeader}
    (h : v.screen token = .ok (t, header)) :
    (v.decodeClaims moment token d).2 = (v.source.findKey moment.steady header.keyId d).2 := by
  rw [decodeClaims, h]
  simp only [Run.bind_apply]
  rcases v.source.findKey moment.steady header.keyId d with ⟨(_ | published) | e | _, left⟩
  · rfl
  · simp only
    cases published.verificationKey with
    | error e => rfl
    | ok key =>
        exact congrArg Prod.snd ((Run.bind_value rfl).trans (Run.ofExcept_apply _ left))
  · rfl
  · rfl

/-- A token that does not pass the first checks vouches for nobody and changes nothing. -/
theorem validate_of_not_namesOneOf (h : ¬NamesOneOf v.algorithms token) :
    v.validate moment token d = (.value none, d) := by
  obtain ⟨e, hscreen⟩ := screen_eq_error_iff.mpr h
  rw [validate_of_refused (decodeClaims_of_fault hscreen moment d),
    faultsToken_of_screen hscreen]
  rfl

/-- A token that passes the first checks causes two requests at most, and two only if keys are
never recent. -/
theorem requests_of_screen {t : SignedToken} {header : TokenHeader}
    (h : v.screen token = .ok (t, header)) (moment : Moment) (d : KeyDesk) :
    ∃ requests, v.source.Requests d (v.validate moment token d).2 requests ∧
      requests.length ≤ 2 ∧ (0 < v.source.pause → requests.length ≤ 1) := by
  obtain ⟨requests, hrequests, hcount⟩ := v.source.requests_findKey moment.steady header.keyId d
  rw [← decodeClaims_leaves h, ← validate_leaves] at hrequests
  exact ⟨requests, hrequests, hcount.le⟩

/-- Whatever keys are held and whatever a network answers, a token without a readable header of
an allowed algorithm vouches for nobody, and it neither changes the keys held nor causes a
request.  Any other token causes two requests for the keys at most, and one at most if those
held are recent or will be once they are fetched. -/
theorem validate_requests (v : TokenValidator) (moment : Moment) (token : String) (d : KeyDesk) :
    (¬NamesOneOf v.algorithms token → v.validate moment token d = (.value none, d)) ∧
      ∃ requests, v.source.Requests d (v.validate moment token d).2 requests ∧
        (v.validate moment token d).2.network = d.network.after requests.flatten ∧
        (∀ queries ∈ requests, KeySource.IsKeyRequest v.source.location queries) ∧
        (d.network.NeverRedirects → requests.flatten.length ≤ requests.length) ∧
        (requests ≠ [] → NamesOneOf v.algorithms token) ∧ requests.length ≤ 2 ∧
        (v.source.HoldsRecent moment.steady d ∨ 0 < v.source.pause → requests.length ≤ 1) := by
  refine ⟨validate_of_not_namesOneOf, ?_⟩
  cases hscreen : v.screen token with
  | error e =>
      have hunusable := screen_eq_error_iff.mp ⟨e, hscreen⟩
      rw [validate_of_not_namesOneOf hunusable]
      exact ⟨[], .nothing, rfl, nofun, fun _ => Nat.le_refl 0, fun h => absurd rfl h,
        Nat.zero_le 2, fun _ => Nat.zero_le 1⟩
  | ok parts =>
      obtain ⟨t, header⟩ := parts
      obtain ⟨requests, hrequests, htwo, hone⟩ := requests_of_screen hscreen moment d
      obtain ⟨hsent, hall, hdirect⟩ := hrequests.sent
      refine ⟨requests, hrequests, hsent, hall, hdirect,
        fun _ => ⟨t, header, screen_eq_ok_iff.mp hscreen⟩, htwo, ?_⟩
      rintro (hrecent | hpause)
      · exact hone hrecent.pause_pos
      · exact hone hpause

/-- If keys are never recent and all sets are empty, there are two requests. -/
example :
    let v := (ofKeyLocation "https://idp.example.com/keys").withKeyPause 0
    let n : Network :=
      ⟨fun _ _ => .answered ⟨200, none, "\x7b\"keys\":[]\x7d".toUTF8.toList⟩, []⟩
    (v.validate ⟨0, 0⟩ "eyJhbGciOiJSUzI1NiIsImtpZCI6ImsxIn0.e30.AA" ⟨.empty, n⟩).2.network.queries =
      List.replicate 2 ⟨"https://idp.example.com/keys", keyType⟩ := by
  decide +kernel

/-! ## Many tokens -/

/-- What is left of a desk when some tokens have been presented, one after another. -/
def present (v : TokenValidator) (d : KeyDesk) (visits : List (Moment × String)) : KeyDesk :=
  visits.foldl (fun d visit => (v.validate visit.1 visit.2 d).2) d

theorem present_cons (v : TokenValidator) (d : KeyDesk) (moment : Moment) (token : String)
    (rest : List (Moment × String)) :
    v.present d ((moment, token) :: rest) = v.present (v.validate moment token d).2 rest :=
  rfl

/-- However many tokens are presented, there are no more requests than two for each that passes
the first checks, and one if fetched keys are recent at all. -/
theorem requests_present (v : TokenValidator) (d : KeyDesk) (visits : List (Moment × String)) :
    ∃ requests, v.source.Requests d (v.present d visits) requests ∧
      requests.length ≤ 2 * visits.countP (fun visit => (v.screen visit.2).isOk) ∧
      (0 < v.source.pause →
        requests.length ≤ visits.countP (fun visit => (v.screen visit.2).isOk)) := by
  induction visits generalizing d with
  | nil => exact ⟨[], .nothing, Nat.le_refl 0, fun _ => Nat.le_refl 0⟩
  | cons visit rest ih =>
      obtain ⟨moment, token⟩ := visit
      rw [present_cons]
      obtain ⟨later, hlater, htwice, honce⟩ := ih (v.validate moment token d).2
      cases hscreen : v.screen token with
      | error e =>
          rw [validate_of_not_namesOneOf (screen_eq_error_iff.mp ⟨e, hscreen⟩)] at hlater ⊢
          refine ⟨later, hlater, ?_, ?_⟩
          · simpa [hscreen, Except.isOk, Except.toBool] using htwice
          · simpa [hscreen, Except.isOk, Except.toBool] using honce
      | ok parts =>
          obtain ⟨t, header⟩ := parts
          obtain ⟨own, hown, htwo, hone⟩ := requests_of_screen hscreen moment d
          have hcount : ((moment, token) :: rest).countP (fun visit => (v.screen visit.2).isOk) =
              rest.countP (fun visit => (v.screen visit.2).isOk) + 1 := by
            simp [hscreen, Except.isOk, Except.toBool]
          refine ⟨later ++ own, hown.trans hlater, ?_, ?_⟩
          · rw [List.length_append, hcount]
            omega
          · intro hpause
            have hfirst := hone hpause
            have hrest := honce hpause
            rw [List.length_append, hcount]
            omega

end TokenValidator

end WebAuth
