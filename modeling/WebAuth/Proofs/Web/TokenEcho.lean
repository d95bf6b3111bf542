import WebAuth.Proofs.Encoding.CanonicalForm
import WebAuth.Proofs.Http.CookieJar
import WebAuth.Proofs.Web.ForgeryGate

/-!
# Tokens that come back

A client gets a token and sends it back twice, as a cookie and in a header field.  No character
of a token ends a cookie or is passed over, so under names that are allowed the gate reads both
as they were sent: it accepts the token and does not issue another one.  If the field differs
from the cookie, then the request is refused, unless it needs no token.

Main results:

- Theorem `Filter.csrf_run_bringing`: the gate compares the cookie with the field as they were
  sent.
- Theorem `Filter.csrf_echo`: tokens that come back are accepted, tampered ones are not.
-/

namespace WebAuth.Web

open Encoding Http Text

/-! ## The characters of a token -/

namespace CsrfToken

/-- All characters of a token are visible, and none is a semicolon. -/
theorem isVisible_of_mem (cookieName : String) (octets : List UInt8) :
    ∀ c ∈ (ofOctets cookieName octets).value.toList, IsVisible c ∧ c ≠ ';' := by
  rw [ofOctets, String.toList_ofList]
  exact Alphabet.forall_mem_encode (by decide) nofun octets

/-- A token comes back whole in a cookie. -/
theorem isCookieValue_value (cookieName : String) (octets : List UInt8) :
    IsCookieValue (ofOctets cookieName octets).value where
  no_semicolon h := (isVisible_of_mem cookieName octets _ h).2 rfl
  no_blank c h := (isVisible_of_mem cookieName octets c h).1.isBlank_eq_false

theorem isReadable_value (cookieName : String) (octets : List UInt8) :
    isReadable (ofOctets cookieName octets).value = true := by
  have hvisible (c : Char) (hc : c ∈ (ofOctets cookieName octets).value.toList) : IsVisible c :=
    (isVisible_of_mem cookieName octets c hc).1
  simpa using isReadable_ofList hvisible

end CsrfToken

/-! ## What is sent -/

/-- Names under which a token can come back. -/
structure CsrfConfig.IsUsable (config : CsrfConfig) : Prop where
  cookie : IsCookieName config.cookieName
  readable : isReadable config.cookieName = true
  field : ∃ lower, fieldName? config.headerName = some lower ∧ lower ≠ "cookie"

/-- The cookie in which a token comes back. -/
def CsrfToken.cookie {config : CsrfConfig} (hconfig : config.IsUsable) (octets : List UInt8) :
    Cookie where
  name := config.cookieName
  value := (ofOctets config.cookieName octets).value
  isName := hconfig.cookie
  readable_name := hconfig.readable
  no_semicolon := (isCookieValue_value config.cookieName octets).no_semicolon
  trimmed := trim_eq_self (isCookieValue_value config.cookieName octets).no_blank
  readable_value := isReadable_value config.cookieName octets

namespace Request

/-- Neither a cookie nor a field of the names has been sent. -/
structure IsFree (r : Request) (config : CsrfConfig) : Prop where
  no_cookie : ¬r.headers.Sends config.cookieName
  no_field : r.headers.getAll config.headerName = []

/-- Send a cookie and a field of the names. -/
def bringing (r : Request) (config : CsrfConfig) (cookie field : String) : Request :=
  (r.header "cookie" (config.cookieName ++ "=" ++ cookie)).header config.headerName field

/-- A token is sent as cookie and field. -/
theorem withCsrf_eq_bringing (r : Request) (config : CsrfConfig) (tampered : Bool)
    (octets : List UInt8) :
    let value := (CsrfToken.ofOctets config.cookieName octets).value
    r.withCsrf config tampered octets =
      r.bringing config value (if tampered then value ++ "-invalid" else value) :=
  rfl

section Bringing

variable {config : CsrfConfig} (hconfig : config.IsUsable) {r : Request} (hfree : r.IsFree config)
  {cookie field : String} (hcookie : IsCookieValue cookie) (hreadable : isReadable cookie = true)
  (hfield : isReadable field = true)

theorem fieldName?_cookie : fieldName? "cookie" = some "cookie" := by
  decide +kernel

include hconfig hreadable in
/-- What is sent as a cookie is readable. -/
theorem isReadable_cookieText : isReadable (config.cookieName ++ "=" ++ cookie) = true := by
  simp [hconfig.readable, hreadable, isReadable_equals]

include hconfig hfree hcookie hreadable hfield

/-- The cookie comes after all others, none of which has its name. -/
theorem isFirstCookie_bringing :
    (r.bringing config cookie field).headers.IsFirstCookie config.cookieName cookie := by
  obtain ⟨lower, hlower, hother⟩ := hconfig.field
  have htext := isReadable_cookieText hconfig hreadable
  have hsent : (r.bringing config cookie field).headers.getAll "cookie" =
      r.headers.getAll "cookie" ++ [config.cookieName ++ "=" ++ cookie] := by
    rw [bringing, header,
      Headers.getAll_append _ hlower fieldName?_cookie (isFieldValue_of_isReadable hfield),
      if_neg hother, List.append_nil, header,
      Headers.getAll_append _ fieldName?_cookie fieldName?_cookie
        (isFieldValue_of_isReadable htext), if_pos rfl]
  refine ⟨r.headers.cookies, (config.cookieName.toList, cookie.toList), [], ?_, ?_, ?_, ?_⟩
  · rw [Headers.cookies, hsent, List.filter_append, List.flatMap_append,
      List.filter_cons_of_pos htext, List.filter_nil, List.flatMap_singleton,
      Headers.cookiesOf_single hconfig.cookie hcookie]
    rfl
  · intro earlier hearlier hname
    exact hfree.no_cookie ⟨earlier, hearlier, hname⟩
  · exact hconfig.cookie.trimmed
  · rw [trim_eq_self hcookie.no_blank, String.ofList_toList]

omit hcookie in
/-- There is no other field of the name. -/
theorem isFirstField_bringing :
    (r.bringing config cookie field).headers.IsFirstField config.headerName field := by
  obtain ⟨lower, hlower, hother⟩ := hconfig.field
  have htext := isReadable_cookieText hconfig hreadable
  refine ⟨[], ?_, hfield⟩
  rw [bringing, header, Headers.getAll_append _ hlower hlower (isFieldValue_of_isReadable hfield),
    if_pos rfl, header,
    Headers.getAll_append _ fieldName?_cookie hlower (isFieldValue_of_isReadable htext),
    if_neg hother.symm, hfree.no_field]
  rfl

/-- The request is forged if it has to bring a token and its field differs from its cookie. -/
theorem isForged_bringing :
    (r.bringing config cookie field).IsForged config ↔
      (r.method ∉ ["GET", "HEAD", "TRACE", "OPTIONS"] ∧
        ∀ m ∈ config.ignored, r.isMatchedBy m = false) ∧ field ≠ cookie := by
  have hfound := Headers.cookie?_eq_some_iff.mpr
    (isFirstCookie_bringing hconfig hfree hcookie hreadable hfield)
  have hgot := Headers.readableFirst?_eq_some_iff.mpr
    (isFirstField_bringing hconfig hfree hreadable hfield)
  have hagree : (∃ token,
      (r.bringing config cookie field).headers.IsFirstCookie config.cookieName token ∧
        (r.bringing config cookie field).headers.IsFirstField config.headerName token) ↔
      field = cookie := by
    rw [← Filter.tokensAgree_iff, Filter.tokensAgree, hfound, hgot]
    simp
  constructor
  · intro hforged
    exact ⟨⟨hforged.writes, hforged.guarded⟩, mt hagree.mpr hforged.unproven⟩
  · rintro ⟨⟨hwrites, hguarded⟩, hdiffers⟩
    exact ⟨hwrites, hguarded, mt hagree.mp hdiffers⟩

end Bringing

end Request

/-- The request brings the token in the first field of the name and in the first cookie of its
name, however its cookies are written. -/
structure Request.Echoes (r : Request) (config : CsrfConfig) (token : CsrfToken) : Prop where
  cookie : ∃ (fields : List CookieField) (before : List Cookie) (c : Cookie) (after : List Cookie),
    r.headers.getAll "cookie" = fields.map CookieField.text ∧
      fields.flatMap CookieField.cookies = before ++ c :: after ∧
      (∀ earlier ∈ before, earlier.name ≠ c.name) ∧
      c.name = token.cookieName ∧ c.value = token.value
  field : r.headers.IsFirstField config.headerName token.value

/-! ## What the gate does -/

/-- Nothing is issued to a request that sends the cookie. -/
theorem Passage.issued_of_isFirstCookie {p : Passage} {config : CsrfConfig} {value : String}
    (h : p.request.headers.IsFirstCookie config.cookieName value) : p.issued config = p := by
  obtain ⟨before, pair, after, hcookies, -, hname, -⟩ := h
  rw [issued, if_pos ⟨pair, by simp [hcookies], hname⟩]

namespace Filter

variable {config : CsrfConfig}

/-- A token that is found in the cookies and in the field is accepted. -/
theorem csrf_run_of_echoes {p : Passage} {token : CsrfToken}
    (hname : token.cookieName = config.cookieName) (h : p.request.Echoes config token) :
    (csrf config).run p = (.value (), p) := by
  obtain ⟨fields, before, c, after, hsent, hcookies, hearlier, hcname, hcvalue⟩ := h.cookie
  have hfirst : p.request.headers.IsFirstCookie config.cookieName token.value := by
    rw [← Headers.cookie?_eq_some_iff, ← hname, ← hcname, ← hcvalue]
    exact Headers.cookie?_of_first hsent hcookies hearlier
  have hforged : ¬p.request.IsForged config :=
    fun hforged => hforged.unproven ⟨token.value, hfirst, h.field⟩
  rw [csrf_run, if_neg hforged, Passage.issued_of_isFirstCookie hfirst]

variable (hconfig : config.IsUsable)

include hconfig

/-- The gate compares the cookie with the field as they were sent, and issues no token. -/
theorem csrf_run_bringing {r : Request} (hfree : r.IsFree config) {cookie field : String}
    (hcookie : IsCookieValue cookie) (hreadable : isReadable cookie = true)
    (hfield : isReadable field = true) (w : World) :
    (csrf config).run ⟨r.bringing config cookie field, w⟩ =
      (if (r.method ∉ ["GET", "HEAD", "TRACE", "OPTIONS"] ∧
          ∀ m ∈ config.ignored, r.isMatchedBy m = false) ∧ field ≠ cookie then
        .refused .csrfMismatch
      else .value (), ⟨r.bringing config cookie field, w⟩) := by
  have hfirst := Request.isFirstCookie_bringing hconfig hfree hcookie hreadable hfield
  rw [csrf_run, Passage.issued_of_isFirstCookie hfirst]
  simp only [Request.isForged_bringing hconfig hfree hcookie hreadable hfield]

/-- A token that is sent as cookie and as field is accepted. -/
theorem csrf_run_bringing_token {r : Request} (hfree : r.IsFree config) (octets : List UInt8)
    (w : World) :
    let value := (CsrfToken.ofOctets config.cookieName octets).value
    (csrf config).run ⟨r.bringing config value value, w⟩ =
      (.value (), ⟨r.bringing config value value, w⟩) := by
  intro value
  have hreadable := CsrfToken.isReadable_value config.cookieName octets
  rw [csrf_run_bringing hconfig hfree (CsrfToken.isCookieValue_value _ octets) hreadable hreadable,
    if_neg (fun h => h.2 rfl)]

/-- A token that is tampered with is refused wherever one is needed. -/
theorem csrf_run_tampered {r : Request} (hfree : r.IsFree config) (octets : List UInt8)
    (w : World) :
    (csrf config).run ⟨r.withCsrf config true octets, w⟩ =
      (if r.method ∉ ["GET", "HEAD", "TRACE", "OPTIONS"] ∧
          ∀ m ∈ config.ignored, r.isMatchedBy m = false then .refused .csrfMismatch
      else .value (), ⟨r.withCsrf config true octets, w⟩) := by
  have hreadable := CsrfToken.isReadable_value config.cookieName octets
  have hsuffix : isReadable "-invalid" = true := by decide +kernel
  have hfield : isReadable ((CsrfToken.ofOctets config.cookieName octets).value ++ "-invalid") =
      true := by
    rw [isReadable_append, hreadable, hsuffix]
    rfl
  have hdiffers : (CsrfToken.ofOctets config.cookieName octets).value ++ "-invalid" ≠
      (CsrfToken.ofOctets config.cookieName octets).value := by
    intro heq
    have hlength := congrArg String.length heq
    have hlong : "-invalid".length = 8 := by decide +kernel
    rw [String.length_append, hlong] at hlength
    omega
  rw [Request.withCsrf_eq_bringing, if_pos rfl,
    csrf_run_bringing hconfig hfree (CsrfToken.isCookieValue_value _ octets) hreadable hfield]
  simp only [and_iff_left hdiffers]

/-- Under names that are allowed, a token is accepted if it comes back as cookie and field, and
no other one is issued; if the field is tampered with, then the request is refused wherever a
token is needed.  A request without the cookie gets a token that can be sent as a cookie, and
each later request that brings this token is accepted. -/
theorem csrf_echo :
    (∀ (r : Request) (octets : List UInt8) (w : World), r.IsFree config →
      let sent : Passage := ⟨r.withCsrf config false octets, w⟩
      let tampered : Passage := ⟨r.withCsrf config true octets, w⟩
      (csrf config).run sent = (.value (), sent) ∧
        ((csrf config).run tampered).2 = tampered ∧
        (((csrf config).run tampered).1 = .refused .csrfMismatch ↔
          r.method ∉ ["GET", "HEAD", "TRACE", "OPTIONS"] ∧
            ∀ m ∈ config.ignored, r.isMatchedBy m = false)) ∧
      ∀ p : Passage, ¬p.request.headers.Sends config.cookieName →
        let token := CsrfToken.ofOctets config.cookieName p.world.csrfOctets.next
        ((csrf config).run p).2.attachments.csrfToken = some token ∧
          (∀ (r : Request) (w : World), r.IsFree config →
            let sent : Passage :=
              ⟨(r.header "cookie" (token.cookieName ++ "=" ++ token.value)).header
                config.headerName token.value, w⟩
            (csrf config).run sent = (.value (), sent)) ∧
          (∃ c : Cookie, c.name = token.cookieName ∧ c.value = token.value) ∧
          ∀ later : Passage, later.request.Echoes config token →
            (csrf config).run later = (.value (), later) := by
  constructor
  · intro r octets w hfree sent tampered
    have htampered : (csrf config).run tampered = _ := csrf_run_tampered hconfig hfree octets w
    refine ⟨csrf_run_bringing_token hconfig hfree octets w, by rw [htampered], ?_⟩
    rw [htampered]
    by_cases hneeded : r.method ∉ ["GET", "HEAD", "TRACE", "OPTIONS"] ∧
        ∀ m ∈ config.ignored, r.isMatchedBy m = false
    · rw [if_pos hneeded]
      exact ⟨fun _ => hneeded, fun _ => rfl⟩
    · rw [if_neg hneeded]
      exact ⟨nofun, fun h => absurd h hneeded⟩
  · intro p hnone token
    refine ⟨?_, ?_, ⟨CsrfToken.cookie hconfig p.world.csrfOctets.next, rfl, rfl⟩, ?_⟩
    · rw [csrf_run, Passage.issued, if_neg hnone]
      rfl
    · intro r w hfree
      exact csrf_run_bringing_token hconfig hfree p.world.csrfOctets.next w
    · intro later hechoes
      exact csrf_run_of_echoes (CsrfToken.ofOctets_cookieName _ _) hechoes

omit hconfig

/-- Names of a shop whose payments are reported without a token. -/
def shop : CsrfConfig := ⟨"shop token", "X-Shop-Token", [.under "/payments"]⟩

theorem isUsable_shop : shop.IsUsable where
  cookie := ⟨by decide, by decide, by decide⟩
  readable := by decide +kernel
  field := ⟨"x-shop-token", by decide +kernel, by decide⟩

/-- A cookie that has nothing to do with tokens. -/
def theme : Cookie :=
  ⟨"theme", "dark=1", ⟨by decide, by decide, by decide⟩, by decide, by decide, by decide,
    by decide⟩

/-- In a shop that has already set another cookie a token comes back or is tampered with. -/
theorem csrf_echo_shop :
    let octets : List UInt8 := List.replicate 32 0xfb
    let token := CsrfToken.ofOctets shop.cookieName octets
    let w : World := .initial (.initial ⟨0, 0⟩ .strokes) .deserted ⟨fun _ => octets, 0⟩
    let r : Request :=
      ⟨"PATCH", .origin "/cart",
        ⟨[("cookie", "theme=dark=1; token=1"), ("cookie", "shop token=\u00e9")]⟩, .empty⟩
    let later : Request :=
      ⟨"PATCH", .origin "/cart",
        ⟨[("x-shop-token", token.value),
          ("cookie", "theme=dark=1; shop token =" ++ token.value)]⟩, .empty⟩
    shop.IsUsable ∧ r.IsFree shop ∧ later.Echoes shop token ∧
      (csrf shop).run ⟨r.withCsrf shop false octets, w⟩ =
        (.value (), ⟨r.withCsrf shop false octets, w⟩) ∧
      ((csrf shop).run ⟨r.withCsrf shop true octets, w⟩).1 = .refused .csrfMismatch ∧
      ((csrf shop).run ⟨r, w⟩).2.attachments.csrfToken = some token ∧
      (csrf shop).run ⟨later, w⟩ = (.value (), ⟨later, w⟩) := by
  intro octets token w r later
  have hfree : r.IsFree shop := ⟨by decide +kernel, by decide +kernel⟩
  have hneeded : r.method ∉ ["GET", "HEAD", "TRACE", "OPTIONS"] ∧
      ∀ m ∈ shop.ignored, r.isMatchedBy m = false := by decide +kernel
  have hechoes : later.Echoes shop token := by
    let echo : Cookie := CsrfToken.cookie isUsable_shop octets
    let field : CookieField := .written [
      .cookie theme Headers.unspaced Headers.unspaced Headers.unspaced Headers.unspaced,
      .cookie echo Headers.spaced Headers.spaced Headers.unspaced Headers.unspaced]
    refine ⟨⟨[field], [theme], echo, [], ?_, rfl, ?_, rfl, rfl⟩, [], ?_, ?_⟩
    · decide +kernel
    · decide +kernel
    · decide +kernel
    · decide +kernel
  obtain ⟨hbrought, hissued⟩ := csrf_echo isUsable_shop
  obtain ⟨haccepted, -, hrefused⟩ := hbrought r octets w hfree
  obtain ⟨hattached, -, -, hlater⟩ := hissued ⟨r, w⟩ hfree.no_cookie
  exact ⟨isUsable_shop, hfree, hechoes, haccepted, hrefused.mpr hneeded, hattached,
    hlater ⟨later, w⟩ hechoes⟩

end Filter

end WebAuth.Web
