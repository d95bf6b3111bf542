import WebAuth.AccessError
import WebAuth.Http.Network
import WebAuth.Issuer.Metadata

/-!
# Where metadata are published

From an issuer's address three well-known addresses are made.  Slashes at the end
of the issuer's path do not count, and its fragment is dropped; all else is kept.

Main results:

* `WellKnown.endpoint_withoutFragment`: the fragment does not count;
* `candidates_of_issuerAddress`: the candidates in their order.
-/

namespace WebAuth

open Http Text

/-! ## Errors -/

/-- What is wrong with an issuer's address. -/
inductive IssuerFlaw where
  | notAddress (error : UrlError)
  | notHierarchical
deriving DecidableEq, Repr

/-- The wording of a flaw. -/
def IssuerFlaw.message : IssuerFlaw → String
  | .notAddress e => e.message
  | .notHierarchical => "issuer must be a hierarchical URI"

/-- Why an issuer's metadata cannot be found or trusted. -/
inductive DiscoveryError where
  | invalidIssuer (issuer : String) (flaw : IssuerFlaw)
  | missingKeyLocation
  /-- No location answered; there is a cause if one could not be asked. -/
  | unresolved (issuer : String) (cause : Option FetchError)
  | issuerMismatch (actual expected : String)
deriving DecidableEq, Repr

namespace DiscoveryError

/-- The wording of a discovery error. -/
def message : DiscoveryError → String
  | invalidIssuer issuer flaw => "Invalid issuer \"" ++ issuer ++ "\": " ++ flaw.message
  | missingKeyLocation => "The public JWK set URI must not be null"
  | unresolved issuer _ =>
      "Unable to resolve the Configuration with the provided Issuer of \"" ++ issuer ++ "\""
  | issuerMismatch actual expected =>
      "The Issuer \"" ++ actual ++
        "\" provided in the configuration did not match the requested issuer \"" ++
        expected ++ "\""

/-- Whether the published configuration is at fault. -/
def isConfigurationError : DiscoveryError → Bool
  | unresolved _ _ | issuerMismatch _ _ => true
  | invalidIssuer _ _ | missingKeyLocation => false

/-- What a client is told. -/
def toAccessError (e : DiscoveryError) : AccessError := .configuration e.message

end DiscoveryError

/-! ## Well-known locations -/

/-- The ways to make a well-known address. -/
inductive WellKnown where
  /-- The OpenID path after the issuer's path. -/
  | openIdAppended
  /-- The OpenID path before the issuer's path. -/
  | openIdInserted
  /-- The OAuth path before the issuer's path. -/
  | oauthInserted
deriving DecidableEq, Repr

namespace WellKnown

/-- The path of OpenID metadata. -/
def openIdPath : String := "/.well-known/openid-configuration"

/-- The path of OAuth metadata. -/
def oauthPath : String := "/.well-known/oauth-authorization-server"

/-- All ways, in the order in which they are tried. -/
def all : List WellKnown := [openIdAppended, openIdInserted, oauthInserted]

/-- A path without slashes at its end. -/
def trimmedPath (path : String) : String :=
  String.ofList (dropEndWhile (· = '/') path.toList)

/-- The path of a well-known address. -/
def path (location : WellKnown) (issuerPath : String) : String :=
  match location with
  | openIdAppended => trimmedPath issuerPath ++ openIdPath
  | openIdInserted => openIdPath ++ trimmedPath issuerPath
  | oauthInserted => oauthPath ++ trimmedPath issuerPath

/-- The well-known address of an issuer. -/
def endpoint (location : WellKnown) (issuer : Url) : Url :=
  (issuer.withPath (location.path issuer.path)).withoutFragment

/-- The fragment does not count. -/
@[simp]
theorem endpoint_withoutFragment (location : WellKnown) (issuer : Url) :
    location.endpoint issuer.withoutFragment = location.endpoint issuer :=
  rfl

end WellKnown

/-- The address that an issuer's name is. -/
def issuerAddress (issuer : String) : Except DiscoveryError Url :=
  match Url.parse issuer with
  | .error e => .error (.invalidIssuer issuer (.notAddress e))
  | .ok url =>
      if url.hierarchical then .ok url else .error (.invalidIssuer issuer .notHierarchical)

/-- The addresses where an issuer's metadata may be, in the order in which they are
tried. -/
def candidateEndpoints (issuer : String) : Except DiscoveryError (List Url) :=
  (issuerAddress issuer).map (fun url => WellKnown.all.map (fun w => w.endpoint url))

/-- The candidates in their order. -/
theorem candidates_of_issuerAddress {issuer : String} {url : Url}
    (h : issuerAddress issuer = .ok url) :
    candidateEndpoints issuer =
      .ok [WellKnown.openIdAppended.endpoint url, WellKnown.openIdInserted.endpoint url,
        WellKnown.oauthInserted.endpoint url] := by
  simp [candidateEndpoints, h, WellKnown.all, Except.map]

end WebAuth
