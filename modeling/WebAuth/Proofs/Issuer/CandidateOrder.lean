import Mathlib.Data.List.Forall2
import WebAuth.Issuer.Discovery
import WebAuth.Proofs.Http.Exchange

/-!
# The order in which an issuer's locations are tried

The search for an issuer's metadata is compared with a description of it that does not
search: some of the locations, from the first on, are asked one after another; all but the
last of them blame the client, and the answer of the last decides.  Only when every
location blames the client is nothing decided.

Main results:

- Theorem `requests_askAll`: asking addresses one after another makes one request for each.
- Theorem `follows_fetchFirst`: how locations are tried in turn.
- Theorem `search_resolve`: what the two ways to find an issuer's metadata do.
-/

namespace WebAuth.Discovery

open Http

/-! ## Asking without choosing -/

/-- What becomes of a request for metadata. -/
abbrev Answer : Type := Ending FetchError (Reply × Url)

/-- Ask some addresses one after another, whatever they answer. -/
def askAll : List Url → Network → List Answer × Network
  | [], n => ([], n)
  | url :: rest, n =>
      let asked := fetch metadataType url n
      let others := askAll rest asked.2
      (asked.1 :: others.1, others.2)

@[simp]
theorem askAll_nil (n : Network) : askAll [] n = ([], n) :=
  rfl

theorem askAll_cons (url : Url) (rest : List Url) (n : Network) :
    askAll (url :: rest) n =
      ((fetch metadataType url n).1 :: (askAll rest (fetch metadataType url n).2).1,
        (askAll rest (fetch metadataType url n).2).2) :=
  rfl

/-- There is one answer for each address. -/
theorem length_askAll (tried : List Url) (n : Network) :
    (askAll tried n).1.length = tried.length := by
  induction tried generalizing n with
  | nil => rfl
  | cons url rest ih => rw [askAll_cons, List.length_cons, ih, List.length_cons]

/-- Asking addresses one after another makes one request for each, in their order. -/
theorem requests_askAll (tried : List Url) (n : Network) :
    ∃ requests, List.Forall₂ (IsRequestFor metadataType) tried requests ∧
      (askAll tried n).2 = n.after requests.reverse.flatten := by
  induction tried generalizing n with
  | nil => exact ⟨[], .nil, rfl⟩
  | cons url rest ih =>
      obtain ⟨ending, queries, -, hqueries, hfetch⟩ := fetch_leaves metadataType url n
      obtain ⟨requests, hrequests, hrest⟩ := ih (n.after queries)
      refine ⟨queries :: requests, .cons hqueries hrequests, ?_⟩
      rw [askAll_cons, hfetch]
      change (askAll rest (n.after queries)).2 = _
      rw [hrest, Network.after_after]
      simp

/-! ## What answers mean -/

/-- The answer says that the client is at fault. -/
def BlamesClient (answer : Answer) : Prop :=
  ∃ reply url, answer = .value (reply, url) ∧ 400 ≤ reply.status ∧ reply.status < 500

/-- What an answer that does not blame the client decides about an issuer. -/
inductive Decides (issuer : String) : Answer → Ending DiscoveryError IssuerMetadata → Prop where
  /-- There is no answer. -/
  | unreached (e : FetchError) :
      Decides issuer (.refused e) (.refused (.unresolved issuer (some e)))
  /-- The answer blames the server. -/
  | failed {reply : Reply} {url : Url} (hstatus : 500 ≤ reply.status ∧ reply.status < 600) :
      Decides issuer (.value (reply, url))
        (.refused (.unresolved issuer (some (.status reply.status (shownAddress url)))))
  /-- The body is no JSON object. -/
  | unreadable {reply : Reply} {url : Url} (hstatus : reply.status < 400 ∨ 600 ≤ reply.status)
      (hbody : ∀ fields, Json.parseOctets? reply.body ≠ some (.object fields)) :
      Decides issuer (.value (reply, url))
        (.refused (.unresolved issuer (some (.body (shownAddress url)))))
  /-- The body is an object that states no location of keys. -/
  | keyless {reply : Reply} {url : Url} {fields : List (String × Json)}
      (hstatus : reply.status < 400 ∨ 600 ≤ reply.status)
      (hbody : Json.parseOctets? reply.body = some (.object fields))
      (hkeys : (IssuerMetadata.ofFields fields).get? "jwks_uri" = none ∨
        (IssuerMetadata.ofFields fields).get? "jwks_uri" = some .null) :
      Decides issuer (.value (reply, url)) (.refused .missingKeyLocation)
  /-- The body is an object that states one. -/
  | found {reply : Reply} {url : Url} {fields : List (String × Json)} {location : Json}
      (hstatus : reply.status < 400 ∨ 600 ≤ reply.status)
      (hbody : Json.parseOctets? reply.body = some (.object fields))
      (hkeys : (IssuerMetadata.ofFields fields).get? "jwks_uri" = some location)
      (hlocation : location ≠ .null) :
      Decides issuer (.value (reply, url)) (.value (IssuerMetadata.ofFields fields))

/-! ## Which answers decide -/

theorem isClientError_iff {status : Nat} :
    isClientError status = true ↔ 400 ≤ status ∧ status < 500 := by
  simp [isClientError]

theorem isServerError_iff {status : Nat} :
    isServerError status = true ↔ 500 ≤ status ∧ status < 600 := by
  simp [isServerError]

/-- A document states a location of keys if its value is there and not null. -/
theorem hasKeyLocation_iff {m : IssuerMetadata} :
    m.hasKeyLocation = true ↔
      ∃ location, m.get? "jwks_uri" = some location ∧ location ≠ .null := by
  rw [IssuerMetadata.hasKeyLocation, IssuerMetadata.present?, Option.isSome_iff_exists]
  simp only [Option.filter_eq_some_iff, decide_eq_true_eq]

/-- A JSON value is a document if it is an object. -/
theorem ofJson?_eq_some_iff {value : Json} {m : IssuerMetadata} :
    IssuerMetadata.ofJson? value = some m ↔
      ∃ fields, value = .object fields ∧ IssuerMetadata.ofFields fields = m := by
  cases value <;> simp [IssuerMetadata.ofJson?]

/-- The document in the body of an answer that blames nobody. -/
theorem documentOf_eq {reply : Reply} (url : Url) (hclient : isClientError reply.status = false)
    (hserver : isServerError reply.status = false) :
    documentOf (reply, url) =
      match (Json.parseOctets? reply.body).bind IssuerMetadata.ofJson? with
      | some document => .ok document
      | none => .error (.body (shownAddress url)) := by
  have haccepted : accepted (reply, url) = .ok (reply.body, url) := by
    simp [accepted, hclient, hserver]
  rw [documentOf, haccepted]
  rfl

/-- The body of an answer that blames nobody decides. -/
theorem decides_body (issuer : String) {reply : Reply} (url : Url)
    (hclient : isClientError reply.status = false) (hserver : isServerError reply.status = false) :
    Decides issuer (.value (reply, url)) (.ofExcept (verdict issuer (reply, url))) := by
  have hstatus : reply.status < 400 ∨ 600 ≤ reply.status := by
    have hc := mt isClientError_iff.mpr (Bool.eq_false_iff.mp hclient)
    have hs := mt isServerError_iff.mpr (Bool.eq_false_iff.mp hserver)
    omega
  rw [verdict, documentOf_eq url hclient hserver]
  cases hread : (Json.parseOctets? reply.body).bind IssuerMetadata.ofJson? with
  | none =>
      refine .unreadable hstatus ?_
      intro fields hbody
      rw [hbody] at hread
      cases hread
  | some document =>
      obtain ⟨value, hbody, hobject⟩ := Option.bind_eq_some_iff.mp hread
      obtain ⟨fields, rfl, rfl⟩ := ofJson?_eq_some_iff.mp hobject
      cases hkeys : (IssuerMetadata.ofFields fields).hasKeyLocation with
      | true =>
          obtain ⟨location, hstated, hlocation⟩ := hasKeyLocation_iff.mp hkeys
          simp only [hkeys, if_true]
          exact .found hstatus hbody hstated hlocation
      | false =>
          have habsent := mt hasKeyLocation_iff.mpr (Bool.eq_false_iff.mp hkeys)
          simp only [hkeys, Bool.false_eq_true, if_false]
          refine .keyless hstatus hbody ?_
          cases hstated : (IssuerMetadata.ofFields fields).get? "jwks_uri" with
          | none => exact Or.inl rfl
          | some location =>
              refine Or.inr (congrArg some ?_)
              by_contra hlocation
              exact habsent ⟨location, hstated, hlocation⟩

/-- An answer decides at most one thing. -/
theorem Decides.unique {issuer : String} {answer : Answer}
    {decision other : Ending DiscoveryError IssuerMetadata} (h : Decides issuer answer decision)
    (hother : Decides issuer answer other) : decision = other := by
  cases h with
  | unreached e =>
      cases hother
      rfl
  | failed hstatus =>
      cases hother with
      | failed _ => rfl
      | unreadable hlow _ => omega
      | keyless hlow _ _ => omega
      | found hlow _ _ _ => omega
  | unreadable hlow hbody =>
      cases hother with
      | failed hstatus => omega
      | unreadable _ _ => rfl
      | keyless _ hfields _ => exact absurd hfields (hbody _)
      | found _ hfields _ _ => exact absurd hfields (hbody _)
  | keyless hlow hfields hkeys =>
      cases hother with
      | failed hstatus => omega
      | unreadable _ hbody => exact absurd hfields (hbody _)
      | keyless _ _ _ => rfl
      | found _ hsame hstated hlocation =>
          cases hfields.symm.trans hsame
          rw [hstated] at hkeys
          simp [hlocation] at hkeys
  | found hlow hfields hstated hlocation =>
      cases hother with
      | failed hstatus => omega
      | unreadable _ hbody => exact absurd hfields (hbody _)
      | keyless _ hsame hkeys =>
          cases hfields.symm.trans hsame
          rw [hstated] at hkeys
          simp [hlocation] at hkeys
      | found _ hsame _ _ =>
          cases hfields.symm.trans hsame
          rfl

/-- An answer that does not blame the client decides what the verdict on it says. -/
theorem decides_verdict (issuer : String) {reply : Reply} (url : Url)
    (hclient : isClientError reply.status = false) :
    Decides issuer (.value (reply, url)) (.ofExcept (verdict issuer (reply, url))) := by
  cases hserver : isServerError reply.status with
  | false => exact decides_body issuer url hclient hserver
  | true =>
      have hdocument : documentOf (reply, url) =
          .error (.status reply.status (shownAddress url)) := by
        simp only [documentOf, accepted, hserver, Bool.or_true, if_true]
        rfl
      rw [verdict, hdocument]
      exact .failed (isServerError_iff.mp hserver)

/-! ## Trying in turn -/

/-- How a search through some locations goes: those tried have been asked in their order, and
nothing else.  All but the last blame the client, and the last decides; or all of them blame
the client, and there is no cause why nothing was found. -/
inductive Follows (issuer : String) (candidates : List Url) (n : Network) :
    List Url → Ending DiscoveryError IssuerMetadata × Network → Prop where
  | decided {tried rest : List Url} (answers : List Answer) {last : Answer}
      {decision : Ending DiscoveryError IssuerMetadata} {left : Network}
      (hcandidates : candidates = tried ++ rest)
      (hasked : askAll tried n = (answers ++ [last], left))
      (hearlier : ∀ answer ∈ answers, BlamesClient answer)
      (hlast : Decides issuer last decision) :
      Follows issuer candidates n tried (decision, left)
  | exhausted (answers : List Answer) {left : Network}
      (hasked : askAll candidates n = (answers, left))
      (hall : ∀ answer ∈ answers, BlamesClient answer) :
      Follows issuer candidates n candidates (.refused (.unresolved issuer none), left)

variable {issuer : String} {url : Url} {candidates rest tried : List Url} {n n' : Network}
  {answer : Answer} {outcome : Ending DiscoveryError IssuerMetadata × Network}

/-- A location that decides ends the search. -/
theorem Follows.of_decides {decision : Ending DiscoveryError IssuerMetadata}
    (hfetch : fetch metadataType url n = (answer, n')) (h : Decides issuer answer decision)
    (rest : List Url) : Follows issuer (url :: rest) n [url] (decision, n') :=
  .decided [] (List.singleton_append).symm (by rw [askAll_cons, hfetch]; rfl)
    (List.forall_mem_nil BlamesClient) h

/-- A location that blames the client gives way to the others. -/
theorem Follows.cons (hfetch : fetch metadataType url n = (answer, n'))
    (hblames : BlamesClient answer) (h : Follows issuer rest n' tried outcome) :
    Follows issuer (url :: rest) n (url :: tried) outcome := by
  cases h with
  | @decided _ later answers last decision left hcandidates hasked hearlier hlast =>
      refine .decided (answer :: answers) (by rw [hcandidates, List.cons_append])
        ?_ (List.forall_mem_cons.mpr ⟨hblames, hearlier⟩) hlast
      rw [askAll_cons, hfetch, hasked]
      rfl
  | @exhausted answers left hasked hall =>
      refine .exhausted (answer :: answers) ?_
        (List.forall_mem_cons.mpr ⟨hblames, hall⟩)
      rw [askAll_cons, hfetch, hasked]

/-- What the search leaves behind are the requests for the locations tried. -/
theorem Follows.askAll_tried (h : Follows issuer candidates n tried outcome) :
    (askAll tried n).2 = outcome.2 := by
  cases h with
  | decided answers hcandidates hasked hearlier hlast => rw [hasked]
  | exhausted answers hasked hall => rw [hasked]

/-- A first location that does not blame the client is the only one that is tried, and its
answer decides. -/
theorem Follows.of_first (h : Follows issuer (url :: rest) n tried outcome)
    (hfetch : fetch metadataType url n = (answer, n')) (hblames : ¬BlamesClient answer) :
    outcome.2 = n' ∧ Decides issuer answer outcome.1 := by
  cases h with
  | @decided _ later answers last decision left hcandidates hasked hearlier hlast =>
      cases tried with
      | nil => simp at hasked
      | cons first others =>
          obtain ⟨rfl, -⟩ := List.cons.inj hcandidates
          rw [askAll_cons, hfetch] at hasked
          obtain ⟨hanswers, rfl⟩ := Prod.mk.inj hasked
          cases answers with
          | nil =>
              obtain ⟨rfl, hnone⟩ := List.cons.inj hanswers
              have hothers : others = [] := by
                rw [← List.length_eq_zero_iff, ← length_askAll others n', hnone, List.length_nil]
              rw [hothers]
              exact ⟨rfl, hlast⟩
          | cons earlier later =>
              obtain ⟨rfl, -⟩ := List.cons.inj hanswers
              exact absurd (hearlier answer List.mem_cons_self) hblames
  | @exhausted answers left hasked hall =>
      rw [askAll_cons, hfetch] at hasked
      cases hasked
      exact absurd (hall answer List.mem_cons_self) hblames

/-- A location that cannot be fetched ends the search. -/
theorem fetchFirst_cons_refused {e : FetchError} (hfetch : fetch metadataType url n = (.refused e, n'))
    (issuer : String) (rest : List Url) :
    fetchFirst issuer (url :: rest) n = (.refused (.unresolved issuer (some e)), n') := by
  have hrun : (fetch metadataType url).mapReason
      (fun e => DiscoveryError.unresolved issuer (some e)) n =
        (.refused (.unresolved issuer (some e)), n') := by
    simp [hfetch, Ending.mapReason]
  rw [fetchFirst, Run.bind_refused hrun]

/-- Locations are tried in turn. -/
theorem follows_fetchFirst (issuer : String) (candidates : List Url) (n : Network) :
    ∃ tried, Follows issuer candidates n tried (fetchFirst issuer candidates n) := by
  induction candidates generalizing n with
  | nil => exact ⟨[], .exhausted [] (askAll_nil n) (List.forall_mem_nil BlamesClient)⟩
  | cons url rest ih =>
      obtain ⟨ending, queries, hending, -, hfetch⟩ := fetch_leaves metadataType url n
      cases ending with
      | value answer =>
          rw [fetchFirst_cons hfetch]
          cases hclient : isClientError answer.1.status with
          | true =>
              -- The other locations are asked on the network that this request has left.
              obtain ⟨tried, hrest⟩ := ih (n.after queries)
              refine ⟨url :: tried, ?_⟩
              rw [if_pos rfl]
              exact .cons hfetch ⟨answer.1, answer.2, rfl, isClientError_iff.mp hclient⟩ hrest
          | false =>
              refine ⟨[url], ?_⟩
              rw [if_neg Bool.false_ne_true, Run.ofExcept_apply]
              exact .of_decides hfetch (decides_verdict issuer answer.2 hclient) rest
      | refused e =>
          rw [fetchFirst_cons_refused hfetch]
          exact ⟨[url], .of_decides hfetch (.unreached e) rest⟩
      | aborted => exact absurd rfl hending

/-! ## The two searches -/

/-- What a search through some locations has done: it went as described, and all that is left
of it is one request for each location tried, in their order. -/
structure Search (issuer : String) (candidates : List Url) (n : Network)
    (outcome : Ending DiscoveryError IssuerMetadata × Network) (tried : List Url) : Prop where
  follows : Follows issuer candidates n tried outcome
  requests : ∃ requests, List.Forall₂ (IsRequestFor metadataType) tried requests ∧
    outcome.2 = n.after requests.reverse.flatten

theorem search_fetchFirst (issuer : String) (candidates : List Url) (n : Network) :
    ∃ tried, Search issuer candidates n (fetchFirst issuer candidates n) tried := by
  obtain ⟨tried, hfollows⟩ := follows_fetchFirst issuer candidates n
  obtain ⟨requests, hrequests, hleft⟩ := requests_askAll tried n
  refine ⟨tried, hfollows, requests, hrequests, ?_⟩
  rw [← hfollows.askAll_tried, hleft]

/-- Whether further locations are known does not matter if the first does not blame the
client. -/
theorem fetchFirst_eq_of_first (issuer : String) (url : Url) (rest : List Url) (n : Network)
    (hblames : ¬BlamesClient (fetch metadataType url n).1) :
    fetchFirst issuer (url :: rest) n = fetchFirst issuer [url] n := by
  obtain ⟨_, hmany⟩ := follows_fetchFirst issuer (url :: rest) n
  obtain ⟨_, hone⟩ := follows_fetchFirst issuer [url] n
  obtain ⟨hleftMany, hdecidesMany⟩ := hmany.of_first rfl hblames
  obtain ⟨hleftOne, hdecidesOne⟩ := hone.of_first rfl hblames
  exact Prod.ext (hdecidesMany.unique hdecidesOne) (hleftMany.trans hleftOne.symm)

/-- A name that is no hierarchical address is no issuer. -/
theorem issuerAddress_of_not_hierarchical {issuer : String}
    (h : ∀ url, Url.parse issuer = .ok url → url.hierarchical = false) :
    ∃ flaw, issuerAddress issuer = .error (.invalidIssuer issuer flaw) := by
  rw [issuerAddress]
  cases hparse : Url.parse issuer with
  | error e => exact ⟨.notAddress e, rfl⟩
  | ok url => exact ⟨.notHierarchical, by simp [h url hparse]⟩

theorem issuerAddress_of_hierarchical {issuer : String} {url : Url}
    (hparse : Url.parse issuer = .ok url) (h : url.hierarchical = true) :
    issuerAddress issuer = .ok url := by
  rw [issuerAddress, hparse]
  simp only [h, if_true]

/-- The locations that are made of an issuer's address, in the order in which they are tried. -/
def locations (url : Url) : List Url :=
  [WellKnown.openIdAppended.endpoint url, WellKnown.openIdInserted.endpoint url,
    WellKnown.oauthInserted.endpoint url]

/-- A name that is no hierarchical address is refused by both searches without a request.
Else one search goes through all three locations of the issuer and the other through the
first alone; they end alike unless the first blames the client. -/
theorem search_resolve (issuer : String) (n : Network) :
    ((∀ url, Url.parse issuer = .ok url → url.hierarchical = false) →
      ∃ flaw, resolve issuer n = (.refused (.invalidIssuer issuer flaw), n) ∧
        resolveOpenId issuer n = (.refused (.invalidIssuer issuer flaw), n)) ∧
    ∀ url, Url.parse issuer = .ok url → url.hierarchical = true →
      candidateEndpoints issuer = .ok (locations url) ∧
        (∃ tried, Search issuer (locations url) n (resolve issuer n) tried) ∧
        (∃ tried, Search issuer ((locations url).take 1) n (resolveOpenId issuer n) tried) ∧
        ∀ answer left, fetch metadataType (WellKnown.openIdAppended.endpoint url) n =
            (answer, left) → ¬BlamesClient answer →
          resolveOpenId issuer n = resolve issuer n := by
  constructor
  · intro hname
    obtain ⟨flaw, hflaw⟩ := issuerAddress_of_not_hierarchical hname
    have hcandidates : candidateEndpoints issuer = .error (.invalidIssuer issuer flaw) := by
      rw [candidateEndpoints, hflaw]
      rfl
    refine ⟨flaw, ?_, ?_⟩
    · rw [resolve, hcandidates]
      rfl
    · rw [resolveOpenId, hflaw]
      rfl
  · intro url hparse hhierarchical
    have haddress := issuerAddress_of_hierarchical hparse hhierarchical
    have hcandidates : candidateEndpoints issuer = .ok (locations url) :=
      candidates_of_issuerAddress haddress
    have hresolve : resolve issuer n = fetchFirst issuer (locations url) n := by
      rw [resolve, hcandidates]
    have hopenId : resolveOpenId issuer n = fetchFirst issuer ((locations url).take 1) n := by
      rw [resolveOpenId, haddress]
      rfl
    rw [hresolve, hopenId]
    refine ⟨hcandidates, search_fetchFirst issuer _ n, search_fetchFirst issuer _ n, ?_⟩
    intro answer left hfetch hblames
    refine (fetchFirst_eq_of_first issuer _ _ n ?_).symm
    rw [hfetch]
    exact hblames

end WebAuth.Discovery
