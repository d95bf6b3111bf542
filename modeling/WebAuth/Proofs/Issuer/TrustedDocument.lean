import WebAuth.Proofs.Issuer.CandidateOrder
import WebAuth.Proofs.Issuer.DeclaredIssuer
import WebAuth.Token.Validator

/-!
# On whose word a validator is made

A validator can be made from nothing but an issuer's name.  Where its keys are then comes
from a document that the search for the issuer's metadata has found, and that document has
to name the issuer by the very text that was asked for.  Documents found elsewhere, found
after a location that did not blame the client, or naming the issuer by another JSON value
do not count.

Main results:

- Theorem `Discovery.Follows.unique`: a search through given locations goes only one way.
- Theorem `Discovery.isVouchedFor_iff`: which documents a search can find.
- Theorem `TokenValidator.made_iff_isVouchedFor`: when a validator is made, and which.
-/

namespace WebAuth

open Http

namespace Discovery

variable {issuer : String} {url : Url} {candidates rest tried other : List Url} {n n' left : Network}
  {answer : Answer} {outcome another : Ending DiscoveryError IssuerMetadata × Network}
  {m : IssuerMetadata} {location : String}

/-! ## One way to search -/

/-- An answer that decides does not blame the client. -/
theorem Decides.not_blamesClient {decision : Ending DiscoveryError IssuerMetadata}
    (h : Decides issuer answer decision) : ¬BlamesClient answer := by
  rintro ⟨reply, url, hanswer, hleast, hmost⟩
  cases h with
  | unreached e => cases hanswer
  | failed hstatus =>
      cases hanswer
      omega
  | unreadable hstatus _ =>
      cases hanswer
      omega
  | keyless hstatus _ _ =>
      cases hanswer
      omega
  | found hstatus _ _ _ =>
      cases hanswer
      omega

/-- Without locations nothing is found, for no cause. -/
theorem Follows.of_nil (h : Follows issuer [] n tried outcome) :
    outcome = (.refused (.unresolved issuer none), n) := by
  cases h with
  | decided answers hcandidates hasked hearlier hlast =>
      rw [(List.append_eq_nil_iff.mp hcandidates.symm).1, askAll_nil] at hasked
      simp at hasked
  | exhausted answers hasked hall =>
      cases hasked
      rfl

/-- After a first location that blames the client, the search is one through the others. -/
theorem Follows.of_blamed (h : Follows issuer (url :: rest) n tried outcome)
    (hfetch : fetch metadataType url n = (answer, n')) (hblames : BlamesClient answer) :
    ∃ later, Follows issuer rest n' later outcome := by
  cases h with
  | @decided _ after answers last decision left hcandidates hasked hearlier hlast =>
      cases tried with
      | nil => simp at hasked
      | cons first later =>
          obtain ⟨rfl, hrest⟩ := List.cons.inj hcandidates
          rw [askAll_cons, hfetch] at hasked
          obtain ⟨hanswers, hleft⟩ := Prod.mk.inj hasked
          cases answers with
          | nil =>
              obtain ⟨rfl, -⟩ := List.cons.inj hanswers
              exact absurd hblames hlast.not_blamesClient
          | cons earlier answers =>
              obtain ⟨rfl, hlater⟩ := List.cons.inj hanswers
              refine ⟨later, .decided answers hrest (Prod.ext hlater hleft) ?_ hlast⟩
              exact fun answer hmem => hearlier answer (List.mem_cons_of_mem _ hmem)
  | @exhausted answers left hasked hall =>
      rw [askAll_cons, hfetch] at hasked
      obtain ⟨rfl, hleft⟩ := Prod.mk.inj hasked
      refine ⟨rest, .exhausted _ (Prod.ext rfl hleft) ?_⟩
      exact fun answer hmem => hall answer (List.mem_cons_of_mem _ hmem)

/-- A search through given locations goes only one way. -/
theorem Follows.unique (h : Follows issuer candidates n tried outcome)
    (hother : Follows issuer candidates n other another) : outcome = another := by
  induction candidates generalizing n tried other with
  | nil => rw [h.of_nil, hother.of_nil]
  | cons url rest ih =>
      by_cases hblames : BlamesClient (fetch metadataType url n).1
      · obtain ⟨later, hlater⟩ := h.of_blamed rfl hblames
        obtain ⟨after, hafter⟩ := hother.of_blamed rfl hblames
        exact ih hlater hafter
      · obtain ⟨hleft, hdecides⟩ := h.of_first rfl hblames
        obtain ⟨hsame, hdecidesToo⟩ := hother.of_first rfl hblames
        exact Prod.ext (hdecides.unique hdecidesToo) (hleft.trans hsame.symm)

/-- Trying locations in turn ends as any description of the search says. -/
theorem Follows.fetchFirst_eq (h : Follows issuer candidates n tried outcome) :
    fetchFirst issuer candidates n = outcome := by
  obtain ⟨_, hfollows⟩ := follows_fetchFirst issuer candidates n
  exact hfollows.unique h

/-! ## Documents that vouch for keys -/

/-- Some of the locations, from the first on, are asked one after another.  All but the last
blame the client; the last serves a JSON object whose `issuer` is the issuer's name and whose
`jwks_uri` is the location of keys, both as texts.  Of equal names in an object the last
counts. -/
inductive IsVouchedFor (issuer : String) (candidates : List Url) (n : Network)
    (location : String) : Network → Prop where
  | served {tried rest : List Url} (answers : List Answer) {reply : Reply} {url : Url}
      {fields : List (String × Json)} {left : Network}
      (hcandidates : candidates = tried ++ rest)
      (hasked : askAll tried n = (answers ++ [.value (reply, url)], left))
      (hearlier : ∀ answer ∈ answers, BlamesClient answer)
      (hstatus : reply.status < 400 ∨ 600 ≤ reply.status)
      (hbody : Json.parseOctets? reply.body = some (.object fields))
      (hissuer : fields.reverse.lookup "issuer" = some (.string issuer))
      (hkeys : fields.reverse.lookup "jwks_uri" = some (.string location)) :
      IsVouchedFor issuer candidates n location left

/-- Keys are vouched for exactly if the search finds a document with the issuer's name and
their location. -/
theorem isVouchedFor_iff :
    IsVouchedFor issuer candidates n location left ↔
      ∃ m, fetchFirst issuer candidates n = (.value m, left) ∧
        m.get? "issuer" = some (.string issuer) ∧ m.get? "jwks_uri" = some (.string location) := by
  constructor
  · rintro ⟨answers, hcandidates, hasked, hearlier, hstatus, hbody, hissuer, hkeys⟩
    rename_i tried rest reply url fields
    have hlocation := IssuerMetadata.get?_ofFields_eq_string_iff.mpr hkeys
    have hfollows : Follows issuer candidates n tried
        (.value (IssuerMetadata.ofFields fields), left) :=
      .decided answers hcandidates hasked hearlier (.found hstatus hbody hlocation (by simp))
    exact ⟨_, hfollows.fetchFirst_eq, IssuerMetadata.get?_ofFields_eq_string_iff.mpr hissuer,
      hlocation⟩
  · rintro ⟨m, hfound, hissuer, hkeys⟩
    obtain ⟨tried, hfollows⟩ := follows_fetchFirst issuer candidates n
    rw [hfound] at hfollows
    cases hfollows with
    | decided answers hcandidates hasked hearlier hlast =>
        cases hlast with
        | found hstatus hbody _ _ =>
            exact .served answers hcandidates hasked hearlier hstatus hbody
              (IssuerMetadata.get?_ofFields_eq_string_iff.mp hissuer)
              (IssuerMetadata.get?_ofFields_eq_string_iff.mp hkeys)

/-! ## Both searches -/

/-- Search the locations that are picked for an issuer's address. -/
def resolveAmong (pick : Url → List Url) (issuer : String) :
    Run Network DiscoveryError IssuerMetadata :=
  match issuerAddress issuer with
  | .error e => .refuse e
  | .ok url => fetchFirst issuer (pick url)

theorem resolve_eq : resolve = resolveAmong locations := by
  funext issuer
  rw [resolve, resolveAmong, candidateEndpoints]
  cases issuerAddress issuer <;> rfl

theorem resolveOpenId_eq : resolveOpenId = resolveAmong (fun url => (locations url).take 1) := by
  funext issuer
  rw [resolveOpenId, resolveAmong]
  cases issuerAddress issuer <;> rfl

theorem issuerAddress_eq_ok_iff :
    issuerAddress issuer = .ok url ↔ Url.parse issuer = .ok url ∧ url.hierarchical = true := by
  rw [issuerAddress]
  cases Url.parse issuer with
  | error e => simp
  | ok address =>
      simp only [Except.ok.injEq]
      split <;> grind

/-- A search finds a document exactly if the issuer's name is a hierarchical address and the
document is found at the locations picked for it. -/
theorem resolveAmong_eq_value_iff {pick : Url → List Url} :
    resolveAmong pick issuer n = (.value m, left) ↔
      ∃ url, Url.parse issuer = .ok url ∧ url.hierarchical = true ∧
        fetchFirst issuer (pick url) n = (.value m, left) := by
  rw [resolveAmong]
  constructor
  · intro hfound
    cases haddress : issuerAddress issuer with
    | error e =>
        rw [haddress] at hfound
        cases hfound
    | ok url =>
        rw [haddress] at hfound
        obtain ⟨hparse, hhierarchical⟩ := issuerAddress_eq_ok_iff.mp haddress
        exact ⟨url, hparse, hhierarchical, hfound⟩
  · rintro ⟨url, hparse, hhierarchical, hfound⟩
    rw [issuerAddress_eq_ok_iff.mpr ⟨hparse, hhierarchical⟩]
    exact hfound

end Discovery

/-! ## Validators made for issuers -/

namespace TokenValidator

open Discovery

variable {issuer : String} {url : Url} {n left : Network} {m : IssuerMetadata} {v : TokenValidator}

/-- A document makes a validator for an address exactly if it has the address as its issuer
and a location of keys, both as texts. -/
theorem ofMetadata_eq_ok_iff (haddress : Url.parse issuer = .ok url) :
    ofMetadata m issuer = .ok v ↔
      ∃ location, m.get? "issuer" = some (.string issuer) ∧
        m.get? "jwks_uri" = some (.string location) ∧
        v = (ofKeyLocation location).withIssuer issuer := by
  have hlocation : ∀ location, m.keyLocation? = some location ↔
      m.get? "jwks_uri" = some (.string location) := by
    intro location
    rw [IssuerMetadata.keyLocation?]
    cases m.get? "jwks_uri" with
    | none => simp
    | some value => cases value <;> simp [Json.asString?]
  rw [ofMetadata, ← validate_eq_ok_iff haddress]
  cases Discovery.validate m issuer with
  | error e => simp
  | ok _ =>
      cases hkeys : m.keyLocation? with
      | none => simp [← hlocation, hkeys]
      | some location => simp [← hlocation, hkeys, eq_comm]

/-- A validator is made of the document that is found. -/
theorem ofDiscovery_eq_value_iff {resolve : String → Run Network DiscoveryError IssuerMetadata} :
    ofDiscovery resolve issuer n = (.value v, left) ↔
      ∃ m, resolve issuer n = (.value m, left) ∧ ofMetadata m issuer = .ok v := by
  rw [ofDiscovery, Run.bind_eq_value_iff]
  constructor
  · rintro ⟨m, after, hfound, hmade⟩
    obtain ⟨hvalid, rfl⟩ := Run.ofExcept_eq_value_iff.mp hmade
    exact ⟨m, Run.mapReason_eq_value_iff.mp hfound, hvalid⟩
  · rintro ⟨m, hfound, hmade⟩
    exact ⟨m, left, Run.mapReason_eq_value_iff.mpr hfound,
      Run.ofExcept_eq_value_iff.mpr ⟨hmade, rfl⟩⟩

/-- Whichever locations are searched, a validator is made exactly if the issuer's name is a
hierarchical address and keys are vouched for at those locations; it then takes its keys from
there and requires the issuer. -/
theorem ofDiscovery_iff_isVouchedFor {pick : Url → List Url} :
    ofDiscovery (resolveAmong pick) issuer n = (.value v, left) ↔
      ∃ url location, Url.parse issuer = .ok url ∧ url.hierarchical = true ∧
        IsVouchedFor issuer (pick url) n location left ∧
        v = (ofKeyLocation location).withIssuer issuer := by
  rw [ofDiscovery_eq_value_iff]
  constructor
  · rintro ⟨m, hfound, hmade⟩
    obtain ⟨url, hparse, hhierarchical, hfound⟩ := resolveAmong_eq_value_iff.mp hfound
    obtain ⟨location, hissuer, hkeys, hv⟩ := (ofMetadata_eq_ok_iff hparse).mp hmade
    exact ⟨url, location, hparse, hhierarchical, isVouchedFor_iff.mpr ⟨m, hfound, hissuer, hkeys⟩,
      hv⟩
  · rintro ⟨url, location, hparse, hhierarchical, hvouched, hv⟩
    obtain ⟨m, hfound, hissuer, hkeys⟩ := isVouchedFor_iff.mp hvouched
    exact ⟨m, resolveAmong_eq_value_iff.mpr ⟨url, hparse, hhierarchical, hfound⟩,
      (ofMetadata_eq_ok_iff hparse).mpr ⟨location, hissuer, hkeys, hv⟩⟩

/-- A validator is made for an issuer exactly if the issuer's name is a hierarchical address
and, of the locations made of it, the first that does not blame the client serves a document
with that very name and a location of keys as texts.  The validator takes its keys from there
and requires the issuer.  For the OpenID way the same holds with the first location alone. -/
theorem made_iff_isVouchedFor (issuer : String) (n left : Network) (v : TokenValidator) :
    (ofIssuer issuer n = (.value v, left) ↔
      ∃ url location, Url.parse issuer = .ok url ∧ url.hierarchical = true ∧
        IsVouchedFor issuer (locations url) n location left ∧
        v = (ofKeyLocation location).withIssuer issuer) ∧
    (ofOpenIdIssuer issuer n = (.value v, left) ↔
      ∃ url location, Url.parse issuer = .ok url ∧ url.hierarchical = true ∧
        IsVouchedFor issuer ((locations url).take 1) n location left ∧
        v = (ofKeyLocation location).withIssuer issuer) := by
  rw [ofIssuer, ofOpenIdIssuer, resolve_eq, resolveOpenId_eq]
  exact ⟨ofDiscovery_iff_isVouchedFor, ofDiscovery_iff_isVouchedFor⟩

end TokenValidator

end WebAuth
