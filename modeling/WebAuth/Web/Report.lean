import WebAuth.Web.Configuration

/-!
# Reporting on an issuer

A report on an issuer says where its metadata may be and where they are, and tries the
way of one request through a pipeline that accepts the issuer's tokens.  It ends early
where the issuer cannot be found.

Main results:

* `Report.trialProxy_eq`: the pipeline of the trial is one chain;
* `Report.lines_say`: a line is written after those before it.
-/

namespace WebAuth.Web

open Http Text

/-- Why a report ends early. -/
inductive ReportError where
  | noIssuer
  | discovery (error : DiscoveryError)
  | validator (error : TokenError)
  | configuration (error : ConfigError)

/-- The wording of a report error. -/
def ReportError.message : ReportError → String
  | noIssuer => "environment variable not found"
  | discovery e => e.message
  | validator e => e.message
  | configuration e => e.message

/-- A report being written. -/
structure Report where
  world : World
  /-- The lines so far, the latest first. -/
  written : List String

namespace Report

/-- A report without lines. -/
def blank (w : World) : Report := ⟨w, []⟩

/-- The lines in order. -/
def lines (r : Report) : List String := r.written.reverse

/-- Write a line. -/
def say (line : String) : Run Report ReportError Unit :=
  .change (fun r => { r with written := line :: r.written })

/-- Write some lines. -/
def sayAll : List String → Run Report ReportError Unit
  | [] => pure ()
  | line :: rest => do
      say line
      sayAll rest

/-- Work on the network. -/
def inNetwork {ε α : Type} (x : Run Network ε α) : Run Report ε α :=
  x.within (fun r => r.world.network)
    (fun r n => { r with world := { r.world with network := n } })

/-! ## The issuer -/

/-- Where the metadata may be. -/
def sayCandidates (issuer : String) : Run Report ReportError Unit := do
  say ("Metadata locations for " ++ issuer ++ ":")
  let candidates ← Run.ofExcept ((candidateEndpoints issuer).mapError .discovery)
  sayAll (candidates.map (fun url => "  " ++ url.text))

/-- What the metadata are. -/
def metadataLines (document : IssuerMetadata) : List String :=
  ("Resolved issuer " ++ document.displayIssuer) ::
    match document.provider with
    | .error _ => []
    | .ok provider =>
        ("  jwks_uri: " ++ provider.jwksUri) ::
          (provider.tokenEndpoint.map ("  token_endpoint: " ++ ·)).toList

/-! ## The trial -/

/-- The address of the trial. -/
def trialPath : String := "/api/me"

/-- The request of the trial, with a token if there is one. -/
def trialRequest (token : Option String) : Request :=
  let request : Request := ⟨"GET", .origin trialPath, Headers.empty, Attachments.empty⟩
  match token with
  | some t => request.withBearer t
  | none => request

/-- The settings of the chain of the trial. -/
def trialSettings (v : TokenValidator) : List ChainSetting :=
  [.selecting (.under "/api"), .withoutCsrf,
    .authenticatedBy ⟨.firstSuccess, [Strategy.validated v 0]⟩, .requiring true]

/-- The pipeline of the trial. -/
def trialProxy (v : TokenValidator) : Except ConfigError Proxy :=
  { Configuration.empty with chains := [(ChainPlan.ofSettings (trialSettings v)).build] }.build

/-- How the trial went. -/
def trialText : Except AccessError (Option Identity) → String
  | .ok (some identity) =>
      "authenticated as " ++ identity.principal ++ " " ++ quotedList identity.authorities
  | .ok none => "passed anonymously"
  | .error e => "rejected with " ++ e.statusPhrase ++ ": " ++ e.message

/-- Pass a request through a pipeline: the identity with which it passed. -/
def passage (p : Proxy) (request : Request) : Run Report AccessError (Option Identity) :=
  fun r =>
    let (ending, after) := p.filter ⟨request, r.world⟩
    (ending.map (fun _ => after.attachments.identity), { r with world := after.world })

/-- Try a token. -/
def sayTrial (v : TokenValidator) (token : Option String) : Run Report ReportError Unit := do
  let p ← Run.ofExcept ((trialProxy v).mapError .configuration)
  let outcome ← (passage p (trialRequest token)).attempt
  say ("GET " ++ trialPath ++ " " ++ trialText outcome)

/-! ## The report -/

/-- Report on an issuer and try a token. -/
def onIssuer (issuer : String) (token : Option String) : Run Report ReportError Unit := do
  sayCandidates issuer
  let document ← (inNetwork (Discovery.resolve issuer)).mapReason .discovery
  sayAll (metadataLines document)
  let v ← (inNetwork (TokenValidator.ofIssuer issuer)).mapReason .validator
  say ("Validating tokens against " ++ v.source.location)
  sayTrial v token

/-- Report on an issuer, if one is named. -/
def compose (issuer token : Option String) : Run Report ReportError Unit :=
  match issuer with
  | none => .refuse .noIssuer
  | some name => onIssuer name token

/-- The exit code of a program that reports. -/
def exitCode (ending : Ending ReportError Unit) : Nat := if ending.isValue then 0 else 1

/-! ## Laws -/

/-- The pipeline of the trial is one chain. -/
theorem trialProxy_eq (v : TokenValidator) :
    trialProxy v = .ok ⟨[], [(ChainPlan.ofSettings (trialSettings v)).build], false⟩ := by
  simp [trialProxy, Configuration.build, Configuration.start, Configuration.empty,
    Configuration.inOrder, Configuration.firstClash, Configuration.adjustments,
    Configuration.effectiveConfigurers]

/-- A line is written after those before it. -/
theorem lines_say (line : String) (r : Report) :
    (say line r).2.lines = r.lines ++ [line] := by
  simp [say, lines]

/-- Some lines are written after those before them. -/
theorem lines_sayAll (texts : List String) (r : Report) :
    (sayAll texts r).2.lines = r.lines ++ texts := by
  induction texts generalizing r with
  | nil => simp [sayAll]
  | cons line rest ih =>
      have hsay : say line r = (.value (), (say line r).2) := rfl
      rw [sayAll, Run.bind_value hsay, ih, lines_say, List.append_assoc, List.singleton_append]

end Report

end WebAuth.Web
