import WebAuth.Proofs.Issuer.CandidateOrder
import WebAuth.Proofs.Url.Notation

/-!
# The locations of different issuers

The locations of an issuer keep all of its address but the fragment and the slashes at the end of
the path.  Issuers whose addresses differ in anything else have different locations: each of the
three ways to make a location tells them apart, and so does the notation that a location is asked
for with.

Main results:

- Theorem `WellKnown.trimmedPath_spec`: what is left of an issuer's path.
- Theorem `WellKnown.path_eq_iff`: only slashes at the end of an issuer's path do not count.
- Theorem `WellKnown.isWeb_endpoint`: the locations of an issuer on the web are on the web.
- Theorem `WellKnown.endpoint_text_eq_iff`: which issuers share a location.
- Theorem `Discovery.candidateEndpoints_of_web`: the candidates of two issuers on the web.
-/

namespace WebAuth

open Text

/-- The addresses are of one issuer: they differ at most in slashes at the end of their paths and
in their fragments. -/
structure Url.SameIssuer (u v : Url) : Prop where
  scheme : u.scheme = v.scheme
  /-- User information, host and port. -/
  authority : u.authority = v.authority
  path : WellKnown.trimmedPath u.path = WellKnown.trimmedPath v.path
  query : u.query = v.query

namespace WellKnown

variable {u v : Url}

/-! ## Paths -/

/-- A path is what is left of it with all slashes behind that it ends in. -/
theorem trimmedPath_spec (path : String) :
    (trimmedPath path).toList.getLast? ≠ some '/' ∧
      ∃ n, path.toList = (trimmedPath path).toList ++ List.replicate n '/' := by
  rw [trimmedPath, String.toList_ofList]
  constructor
  · intro hlast
    have hkept := getLast?_dropEndWhile (fun c => c = '/') path.toList
    rw [hlast] at hkept
    exact absurd hkept (by decide)
  · obtain ⟨slashes, hslashes, hpath⟩ :=
      exists_eq_dropEndWhile_append (fun c => c = '/') path.toList
    refine ⟨slashes.length, ?_⟩
    rw [← List.eq_replicate_iff.mpr ⟨rfl, fun c hc => of_decide_eq_true (hslashes c hc)⟩]
    exact hpath

/-- Only slashes at the end of an issuer's path do not count. -/
theorem path_eq_iff (location : WellKnown) {path other : String} :
    location.path path = location.path other ↔ trimmedPath path = trimmedPath other := by
  cases location <;> simp [WellKnown.path, ← String.toList_inj]

/-- The path of a location is rooted. -/
theorem head?_path (location : WellKnown) {path : String} (h : path.toList.head? = some '/') :
    (location.path path).toList.head? = some '/' := by
  cases location with
  | openIdAppended =>
      obtain ⟨-, n, hpath⟩ := trimmedPath_spec path
      rw [WellKnown.path, String.toList_append]
      cases htrimmed : (trimmedPath path).toList with
      | nil => rfl
      | cons c rest =>
          rw [htrimmed] at hpath
          rwa [hpath] at h
  | openIdInserted =>
      rw [WellKnown.path, String.toList_append]
      rfl
  | oauthInserted =>
      rw [WellKnown.path, String.toList_append]
      rfl

/-- There is nothing to escape in the path of a location. -/
theorem plain_path (location : WellKnown) {path : String}
    (h : ∀ c ∈ path.toList, Percent.inPath c = false) :
    ∀ c ∈ (location.path path).toList, Percent.inPath c = false := by
  obtain ⟨-, n, hpath⟩ := trimmedPath_spec path
  have htrimmed : ∀ c ∈ (trimmedPath path).toList, Percent.inPath c = false := by
    rw [hpath] at h
    exact (List.forall_mem_append.mp h).1
  have hplain {text : String} (h : text.toList.all (fun c => !Percent.inPath c) = true) :
      ∀ c ∈ text.toList, Percent.inPath c = false := by
    simpa using h
  have hopenId : ∀ c ∈ openIdPath.toList, Percent.inPath c = false := hplain (by decide +kernel)
  have hoauth : ∀ c ∈ oauthPath.toList, Percent.inPath c = false := hplain (by decide +kernel)
  cases location with
  | openIdAppended =>
      rw [WellKnown.path, String.toList_append]
      exact List.forall_mem_append.mpr ⟨htrimmed, hopenId⟩
  | openIdInserted =>
      rw [WellKnown.path, String.toList_append]
      exact List.forall_mem_append.mpr ⟨hopenId, htrimmed⟩
  | oauthInserted =>
      rw [WellKnown.path, String.toList_append]
      exact List.forall_mem_append.mpr ⟨hoauth, htrimmed⟩

/-! ## Locations -/

/-- A location is the issuer's address with another path and without a fragment. -/
theorem endpoint_eq (location : WellKnown) (h : u.scheme ≠ "file") :
    location.endpoint u = { u with path := location.path u.path, fragment := none } := by
  rw [endpoint, Url.withPath, Url.normalPath_of_ne_file h]
  rfl

/-- The locations of an issuer on the web are on the web. -/
theorem isWeb_endpoint (location : WellKnown) (h : u.IsWeb) : (location.endpoint u).IsWeb := by
  rw [endpoint_eq location (Url.ne_file_of_web h.scheme)]
  exact ⟨h.scheme, h.authority, h.guarded, h.hierarchical, location.head?_path h.rooted,
    location.plain_path h.path, h.query⟩

/-- Addresses share a location exactly if they are of one issuer. -/
theorem endpoint_eq_iff (location : WellKnown) (hu : u.IsWeb) (hv : v.IsWeb) :
    location.endpoint u = location.endpoint v ↔ u.SameIssuer v := by
  rw [endpoint_eq location (Url.ne_file_of_web hu.scheme),
    endpoint_eq location (Url.ne_file_of_web hv.scheme), Url.mk.injEq]
  constructor
  · rintro ⟨hscheme, hauthority, -, hpath, -, hquery, -⟩
    exact ⟨hscheme, hauthority, location.path_eq_iff.mp hpath, hquery⟩
  · rintro ⟨hscheme, hauthority, hpath, hquery⟩
    exact ⟨hscheme, hauthority, hu.guarded.trans hv.guarded.symm, location.path_eq_iff.mpr hpath,
      hu.hierarchical.trans hv.hierarchical.symm, hquery, rfl⟩

/-- Addresses share the notation of a location exactly if they are of one issuer. -/
theorem endpoint_text_eq_iff (location : WellKnown) (hu : u.IsWeb) (hv : v.IsWeb) :
    (location.endpoint u).text = (location.endpoint v).text ↔ u.SameIssuer v := by
  rw [← location.endpoint_eq_iff hu hv]
  exact ⟨(location.isWeb_endpoint hu).text_inj (location.isWeb_endpoint hv), congrArg Url.text⟩

end WellKnown

namespace Discovery

open WellKnown

/-- Two issuers on the web have the same candidates, and the same notations of them, exactly if
their addresses differ at most in slashes at the end of their paths and in their fragments.  If they
differ in anything else, all three candidates differ, each from its like.  A candidate has the
well-known path behind or before the issuer's path without slashes at its end, no fragment, and all
else from the issuer's address. -/
theorem candidateEndpoints_of_web {issuer other : String} {u v : Url}
    (hissuer : Url.parse issuer = .ok u) (hother : Url.parse other = .ok v)
    (hu : u.scheme = "http" ∨ u.scheme = "https") (hv : v.scheme = "http" ∨ v.scheme = "https") :
    candidateEndpoints issuer = .ok (locations u) ∧
      candidateEndpoints other = .ok (locations v) ∧
      (locations u = locations v ↔ u.SameIssuer v) ∧
      ((locations u).map Url.text = (locations v).map Url.text ↔ u.SameIssuer v) ∧
      (¬u.SameIssuer v → List.Forall₂ (fun x y => x.text ≠ y.text) (locations u) (locations v)) ∧
      locations u =
        [{ u with path := trimmedPath u.path ++ openIdPath, fragment := none },
          { u with path := openIdPath ++ trimmedPath u.path, fragment := none },
          { u with path := oauthPath ++ trimmedPath u.path, fragment := none }] := by
  have hweb := Url.isWeb_of_parse hissuer hu
  have hweb' := Url.isWeb_of_parse hother hv
  refine ⟨?_, ?_, ?_, ?_, ?_, ?_⟩
  · exact candidates_of_issuerAddress (issuerAddress_of_hierarchical hissuer hweb.hierarchical)
  · exact candidates_of_issuerAddress (issuerAddress_of_hierarchical hother hweb'.hierarchical)
  · simp only [locations, List.cons.injEq, endpoint_eq_iff _ hweb hweb', and_true, and_self]
  · simp only [locations, List.map_cons, List.map_nil, List.cons.injEq,
      endpoint_text_eq_iff _ hweb hweb', and_true, and_self]
  · intro hdiffer
    have hplace (location : WellKnown) :
        (location.endpoint u).text ≠ (location.endpoint v).text :=
      fun h => hdiffer ((location.endpoint_text_eq_iff hweb hweb').mp h)
    exact .cons (hplace _) (.cons (hplace _) (.cons (hplace _) .nil))
  · simp only [locations, endpoint_eq _ (Url.ne_file_of_web hu), WellKnown.path]

/-- The address of a tenant on a shared host. -/
def tenantAddress (path : String) (fragment : Option String) : Url :=
  ⟨"https", some ⟨"", "", some (.domain "id.example"), some 8443⟩, false, path, true, some "v=2",
    fragment⟩

/-- One tenant keeps its candidates, and shares none with another. -/
theorem candidateEndpoints_of_web_tenants :
    Url.parse "https://id.example:8443/one//?v=2#top" = .ok (tenantAddress "/one//" (some "top")) ∧
      Url.parse "https://ID.example:8443/one?v=2" = .ok (tenantAddress "/one" none) ∧
      Url.parse "https://id.example:8443/two?v=2" = .ok (tenantAddress "/two" none) ∧
      candidateEndpoints "https://id.example:8443/one//?v=2#top" =
        candidateEndpoints "https://ID.example:8443/one?v=2" ∧
      List.Forall₂ (fun x y => x.text ≠ y.text) (locations (tenantAddress "/one" none))
        (locations (tenantAddress "/two" none)) := by
  have hlong : Url.parse "https://id.example:8443/one//?v=2#top" =
      .ok (tenantAddress "/one//" (some "top")) := by
    decide +kernel
  have hone : Url.parse "https://ID.example:8443/one?v=2" = .ok (tenantAddress "/one" none) := by
    decide +kernel
  have htwo : Url.parse "https://id.example:8443/two?v=2" = .ok (tenantAddress "/two" none) := by
    decide +kernel
  have hsame : (tenantAddress "/one//" (some "top")).SameIssuer (tenantAddress "/one" none) :=
    ⟨rfl, rfl, by decide +kernel, rfl⟩
  have hdiffer : ¬(tenantAddress "/one" none).SameIssuer (tenantAddress "/two" none) :=
    fun h => absurd h.path (by decide +kernel)
  obtain ⟨hlongList, honeList, hequal, -, -, -⟩ :=
    candidateEndpoints_of_web hlong hone (.inr rfl) (.inr rfl)
  obtain ⟨-, -, -, -, hall, -⟩ := candidateEndpoints_of_web hone htwo (.inr rfl) (.inr rfl)
  refine ⟨hlong, hone, htwo, ?_, hall hdiffer⟩
  rw [hlongList, honeList, hequal.mpr hsame]

end Discovery

end WebAuth
