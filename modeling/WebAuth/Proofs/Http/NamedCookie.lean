import WebAuth.Http.Credentials

/-!
# Cookies that come back

A server names a cookie and gives it a value; the client sends both back in one
header field.  What the server then reads under the name is the value it gave.

Main results:

- Theorem `Headers.cookie?_of_presents`: a presented cookie is read as it was given.
-/

namespace WebAuth.Http

open Text

/-- A text under which a cookie can be found again. -/
structure IsCookieName (name : String) : Prop where
  no_equals : '=' ∉ name.toList
  no_semicolon : ';' ∉ name.toList
  trimmed : trim name.toList = name.toList

/-- A text that comes back whole as the value of a cookie. -/
structure IsCookieValue (value : String) : Prop where
  no_semicolon : ';' ∉ value.toList
  no_blank : ∀ c ∈ value.toList, isBlank c = false

/-- The only cookie of a request.  Its field is readable, since fields of other than
visible characters are passed over. -/
structure Presents (h : Headers) (name value : String) : Prop where
  only : h.getAll "cookie" = [name ++ "=" ++ value]
  readable : isReadable (name ++ "=" ++ value) = true

namespace Headers

/-- A field with one cookie holds that cookie. -/
theorem cookiesOf_single {name value : String} (hname : IsCookieName name)
    (hvalue : IsCookieValue value) :
    cookiesOf (name ++ "=" ++ value) = [(name.toList, value.toList)] := by
  have htext : (name ++ "=" ++ value).toList = name.toList ++ '=' :: value.toList := by
    simp
  have hsplit : ';' ∉ name.toList ++ '=' :: value.toList := by
    rw [List.mem_append, List.mem_cons, not_or, not_or]
    exact ⟨hname.no_semicolon, by decide, hvalue.no_semicolon⟩
  rw [cookiesOf, htext, List.splitOn_eq_singleton hsplit, List.filterMap_cons,
    cutAt?_append hname.no_equals]
  rfl

/-- A presented cookie is read as it was given. -/
theorem cookie?_of_presents {h : Headers} {name value : String} (hname : IsCookieName name)
    (hvalue : IsCookieValue value) (hpresents : Presents h name value) :
    h.cookie? name = some value := by
  have hcookies : h.cookies = [(name.toList, value.toList)] := by
    rw [cookies, hpresents.only, List.filter_cons_of_pos hpresents.readable, List.filter_nil,
      List.flatMap_singleton, cookiesOf_single hname hvalue]
  rw [cookie?, hcookies, cookieIn_cons_self hname.trimmed, trim_eq_self hvalue.no_blank,
    Option.map_some, String.ofList_toList]

end Headers

end WebAuth.Http
