import WebAuth.Proofs.Encoding.CanonicalForm
import WebAuth.Proofs.Http.ClientFields
import WebAuth.Web.Request

/-!
# User names and passwords in headers

A user name and a password travel in the first `Authorization` field: joined by a colon,
which the name cannot have, and spelled in base64.  Blanks may stand around the spelling,
and it has to be the canonical one.  So a field tells one name and one password, and of its
letters only the blanks can vary.

Main results:

- Theorem `Headers.credentialsOf?_eq_some_iff`: which spelling tells a name and a password.
- Theorem `Headers.basicCredentials?_eq_some_iff`: which header tells them.
- Theorem `Headers.basicCredentials?_iff_carriesBasic`: the same, and that a request sends
  the name and the password that are put into it.
-/

namespace WebAuth.Http

open Encoding Text

/-! ## Spellings -/

/-- Octets are read as text exactly if they are the octets of the text. -/
theorem fromUTF8?_eq_some_iff {octets : List UInt8} {text : String} :
    String.fromUTF8? ⟨octets.toArray⟩ = some text ↔ octets = text.toUTF8.data.toList := by
  constructor
  · intro h
    unfold String.fromUTF8? at h
    split at h
    · cases h
      rfl
    · cases h
  · rintro rfl
    unfold String.fromUTF8?
    rw [Array.toArray_toList]
    exact dif_pos text.isValidUTF8

/-- The characters of a spelling are visible. -/
theorem isVisible_of_spells {octets : List UInt8} {text : List Char} (h : Spells octets text) :
    ∀ c ∈ text, IsVisible c := by
  rw [spells_iff] at h
  subst h
  exact Alphabet.forall_mem_encode (by decide) (fun _ => by decide) octets

namespace Headers

variable {h : Headers} {username password : String}

/-- A spelling tells a name without colons and a password if it spells both with a colon
between them. -/
theorem credentialsOf?_eq_some_iff {encoded : List Char} :
    credentialsOf? encoded = some (username, password) ↔
      ':' ∉ username.toList ∧
        Spells (username ++ ":" ++ password).toUTF8.data.toList encoded := by
  simp only [credentialsOf?, bind, Option.bind_eq_some_iff, Option.some.injEq, Prod.mk.injEq,
    Prod.exists, cutAt?_eq_some_iff, fromUTF8?_eq_some_iff, spells_iff,
    Alphabet.isProper_standard.decode?_eq_some_iff]
  constructor
  · rintro ⟨octets, rfl, plain, rfl, before, after, ⟨hcolon, hplain⟩, rfl, rfl⟩
    refine ⟨by simpa using hcolon, ?_⟩
    have htext : plain = String.ofList before ++ ":" ++ String.ofList after := by
      rw [← String.toList_inj, hplain]
      simp
    rw [htext]
  · rintro ⟨hcolon, rfl⟩
    refine ⟨_, rfl, _, rfl, username.toList, password.toList, ⟨hcolon, ?_⟩, ?_, ?_⟩
    · simp
    · simp
    · simp

/-- What follows a scheme, without blanks around it. -/
theorem authorization?_eq_some_iff {scheme : String} {rest : List Char} :
    h.authorization? scheme = some rest ↔
      ∃ value, h.IsFirstField "authorization" value ∧
        ∃ raw, value.toList = scheme.toList ++ ' ' :: raw ∧ trim raw = rest := by
  simp only [authorization?, bind, Option.bind_eq_some_iff, readableFirst?_eq_some_iff,
    dropStart?_eq_some_iff, List.append_assoc, List.singleton_append, Option.some.injEq]

/-- The first `Authorization` field carries a user name and a password: behind the scheme
stands, with blanks around it, the spelling of both with a colon between them. -/
def CarriesBasic (h : Headers) (username password : String) : Prop :=
  ':' ∉ username.toList ∧
    ∃ before encoded after, IsSpacing before ∧ IsSpacing after ∧
      Spells (username ++ ":" ++ password).toUTF8.data.toList encoded.toList ∧
      h.IsFirstField "authorization" ("Basic " ++ before ++ encoded ++ after)

/-- A user name and a password are read exactly if they are carried. -/
theorem basicCredentials?_eq_some_iff :
    h.basicCredentials? = some (username, password) ↔ h.CarriesBasic username password := by
  rw [basicCredentials?, Option.bind_eq_some_iff]
  simp only [authorization?_eq_some_iff, credentialsOf?_eq_some_iff]
  constructor
  · rintro ⟨encoded, ⟨value, hfirst, raw, hvalue, rfl⟩, hcolon, hspells⟩
    obtain ⟨before, after, hbefore, hafter, hraw⟩ := exists_blanks_trim raw
    obtain ⟨others, hfields, hreadable⟩ := hfirst
    have htext : value = "Basic " ++ String.ofList before ++ String.ofList (trim raw) ++
        String.ofList after := by
      rw [← String.toList_inj, hvalue]
      conv => lhs; rw [hraw]
      simp
    refine ⟨hcolon, String.ofList before, String.ofList (trim raw), String.ofList after,
      isSpacing_of_isReadable hreadable ?_ hbefore, isSpacing_of_isReadable hreadable ?_ hafter,
      by simpa using hspells, others, ?_, ?_⟩
    · intro c hc
      rw [htext]
      simp [hc]
    · intro c hc
      rw [htext]
      simp [hc]
    · rw [hfields, htext]
    · rw [← htext]
      exact hreadable
  · rintro ⟨hcolon, before, encoded, after, hbefore, hafter, hspells, hfirst⟩
    refine ⟨encoded.toList, ⟨_, hfirst, before.toList ++ (encoded.toList ++ after.toList), ?_, ?_⟩,
      hcolon, hspells⟩
    · simp
    · rw [trim_blanks_append _ hbefore.isBlank, trim_append_blanks _ hafter.isBlank,
        trim_eq_self (fun c hc => (isVisible_of_spells hspells c hc).isBlank_eq_false)]

/-- A request that has no such field yet carries the name and the password that are put
into it. -/
theorem carriesBasic_withBasic {r : Web.Request} (hnone : r.headers.getAll "authorization" = [])
    (hcolon : ':' ∉ username.toList) :
    (r.withBasic username password).headers.CarriesBasic username password := by
  have hspells := spells_encode (username ++ ":" ++ password).toUTF8.data.toList
  have hreadable : isReadable (basicValue username password) = true := by
    have hscheme : isReadable "Basic " = true := by decide +kernel
    have hencoded := isReadable_ofList (isVisible_of_spells hspells)
    rw [basicValue, isReadable_append, hscheme, hencoded]
    rfl
  have hname : fieldName? "authorization" = some "authorization" := by decide +kernel
  have hfields : (r.withBasic username password).headers.getAll "authorization" =
      [basicValue username password] := by
    have hadded := getAll_append r.headers hname hname (isFieldValue_of_isReadable hreadable)
    rw [hnone, if_pos rfl] at hadded
    exact hadded
  refine ⟨hcolon, "", String.ofList _, "", by simp [IsSpacing], by simp [IsSpacing],
    by simpa using hspells, [], ?_, ?_⟩
  · simpa [basicValue] using hfields
  · simpa [basicValue] using hreadable

/-- Which header tells a user name and a password, and a request tells those that are put
into it. -/
theorem basicCredentials?_iff_carriesBasic :
    (∀ (h : Headers) (username password : String),
      h.basicCredentials? = some (username, password) ↔ h.CarriesBasic username password) ∧
    ∀ (r : Web.Request) (username password : String),
      r.headers.getAll "authorization" = [] → ':' ∉ username.toList →
        (r.withBasic username password).headers.basicCredentials? =
          some (username, password) := by
  refine ⟨fun h username password => basicCredentials?_eq_some_iff, ?_⟩
  intro r username password hnone hcolon
  exact basicCredentials?_eq_some_iff.mpr (carriesBasic_withBasic hnone hcolon)

/-- A password may have colons, and a name any letters. -/
theorem basicCredentials?_iff_carriesBasic_colons :
    let r : Web.Request := ⟨"GET", .origin "/", ⟨[("host", "shop.example.com")]⟩, .empty⟩
    r.headers.getAll "authorization" = [] ∧ ':' ∉ "zo\u00eb".toList ∧
      (r.withBasic "zo\u00eb" ":a:b").headers.basicCredentials? = some ("zo\u00eb", ":a:b") := by
  intro r
  have hnone : r.headers.getAll "authorization" = [] := by decide +kernel
  have hcolon : ':' ∉ "zo\u00eb".toList := by decide
  exact ⟨hnone, hcolon, basicCredentials?_iff_carriesBasic.2 r _ _ hnone hcolon⟩

/-- The name and the password of a request that somebody else has put together. -/
example : Headers.basicCredentials? ⟨[("authorization", "Basic  dXNlcjpwYTpzcw==\t")]⟩ =
    some ("user", "pa:ss") := by
  decide +kernel

end Headers

end WebAuth.Http
