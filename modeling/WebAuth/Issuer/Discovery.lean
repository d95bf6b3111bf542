import WebAuth.Issuer.Location

/-!
# Finding an issuer's metadata

The candidate addresses are asked in order.  A candidate that blames the client
gives way to the next; any other answer decides.

Main results:

* `fetchFirst_nil`, `fetchFirst_cons`: how candidates are tried in turn.
-/

namespace WebAuth.Discovery

open Http

/-- Metadata are asked for as JSON. -/
def metadataType : String := "application/json"

/-- The metadata document in the body of an answer. -/
def documentOf (answer : Reply × Url) : Except FetchError IssuerMetadata := do
  let (body, url) ← accepted answer
  match (Json.parseOctets? body).bind IssuerMetadata.ofJson? with
  | some document => .ok document
  | none => .error (.body (shownAddress url))

/-- What an answer that does not blame the client decides. -/
def verdict (issuer : String) (answer : Reply × Url) : Except DiscoveryError IssuerMetadata :=
  match documentOf answer with
  | .error e => .error (.unresolved issuer (some e))
  | .ok document =>
      if document.hasKeyLocation then .ok document else .error .missingKeyLocation

/-- Ask some addresses in turn. -/
def fetchFirst (issuer : String) : List Url → Run Network DiscoveryError IssuerMetadata
  | [] => .refuse (.unresolved issuer none)
  | url :: rest => do
      let answer ← (fetch metadataType url).mapReason (fun e => .unresolved issuer (some e))
      if isClientError answer.1.status then fetchFirst issuer rest
      else .ofExcept (verdict issuer answer)

/-- Find the metadata of an issuer. -/
def resolve (issuer : String) : Run Network DiscoveryError IssuerMetadata :=
  match candidateEndpoints issuer with
  | .error e => .refuse e
  | .ok candidates => fetchFirst issuer candidates

/-- Find the metadata of an issuer at its OpenID location only. -/
def resolveOpenId (issuer : String) : Run Network DiscoveryError IssuerMetadata :=
  match issuerAddress issuer with
  | .error e => .refuse e
  | .ok url => fetchFirst issuer [WellKnown.openIdAppended.endpoint url]

/-- Check that a document is about the issuer that was asked for. -/
def validate (document : IssuerMetadata) (issuer : String) :
    Except DiscoveryError Unit :=
  if document.declaresIssuer && document.displayIssuer = issuer then .ok ()
  else .error (.issuerMismatch document.displayIssuer issuer)

/-- Without candidates there is no document. -/
@[simp]
theorem fetchFirst_nil (issuer : String) :
    fetchFirst issuer [] = .refuse (.unresolved issuer none) :=
  rfl

/-- A candidate that blames the client gives way to the next. -/
theorem fetchFirst_cons {issuer : String} {url : Url} {rest : List Url} {n n' : Network}
    {answer : Reply × Url} (h : fetch metadataType url n = (.value answer, n')) :
    fetchFirst issuer (url :: rest) n =
      if isClientError answer.1.status then fetchFirst issuer rest n'
      else Run.ofExcept (verdict issuer answer) n' := by
  have hrun : (fetch metadataType url).mapReason
      (fun e => DiscoveryError.unresolved issuer (some e)) n = (.value answer, n') := by
    simp [h, Ending.mapReason]
  rw [fetchFirst, Run.bind_value hrun]
  split <;> rfl

end WebAuth.Discovery
