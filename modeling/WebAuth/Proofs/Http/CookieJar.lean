import WebAuth.Proofs.Http.ClientFields
import WebAuth.Proofs.Http.NamedCookie

/-!
# Cookies among others

A client writes its cookies as names and values with equals signs, one behind the other with
semicolons, in one field or in several.  Blanks do not matter, nor do texts without a value
that somebody else has put between the cookies, nor fields that are not readable.  However
the cookies are written, what is read under a name is the value of the first cookie of that
name.

Main results:

- Theorem `Headers.trimmed_cookiesOf`: the cookies of a written field.
- Theorem `Headers.cookie?_of_written`: the cookie of a name among all that are sent.
-/

namespace WebAuth.Http

open Text

/-! ## How cookies are written -/

/-- Spaces and tabs. -/
abbrev Spacing : Type := { s : String // IsSpacing s }

/-- A cookie that can be sent: its name and its value are readable, neither has a blank at an
end, and only the value may have equals signs. -/
structure Cookie where
  name : String
  value : String
  isName : IsCookieName name
  readable_name : isReadable name = true
  no_semicolon : ';' ∉ value.toList
  trimmed : trim value.toList = value.toList
  readable_value : isReadable value = true

/-- What stands between two semicolons. -/
inductive Segment where
  | cookie (c : Cookie) (beforeName afterName beforeValue afterValue : Spacing)
  /-- A readable text without a value. -/
  | bare (text : String) (no_equals : '=' ∉ text.toList) (no_semicolon : ';' ∉ text.toList)
      (readable : isReadable text = true)

namespace Segment

/-- How a segment is written. -/
def text : Segment → String
  | cookie c beforeName afterName beforeValue afterValue =>
      beforeName ++ c.name ++ afterName ++ "=" ++ (beforeValue ++ c.value ++ afterValue)
  | bare text _ _ _ => text

/-- The cookie of a segment. -/
def cookie? : Segment → Option Cookie
  | cookie c _ _ _ _ => some c
  | bare _ _ _ _ => none

end Segment

/-- A field in which cookies can be sent. -/
inductive CookieField where
  | written (segments : List Segment)
  | unreadable (value : String) (h : isReadable value = false)

namespace CookieField

/-- How a field is written. -/
def text : CookieField → String
  | written segments => ";".intercalate (segments.map Segment.text)
  | unreadable value _ => value

/-- The cookies of a field. -/
def cookies : CookieField → List Cookie
  | written segments => segments.filterMap Segment.cookie?
  | unreadable _ _ => []

end CookieField

/-! ## What is written is readable -/

/-- Spaces and tabs can be read. -/
theorem isReadable_spacing (s : Spacing) : isReadable s.1 = true := by
  rw [isReadable, List.all_eq_true]
  intro c hc
  rcases s.2 c hc with rfl | rfl <;> decide

theorem isReadable_equals : isReadable "=" = true := by
  decide +kernel

/-- There is no other character among spaces and tabs. -/
theorem notMem_spacing (s : Spacing) {c : Char} (hc : isBlank c = false) : c ∉ s.1.toList := by
  intro hmem
  rw [s.2.isBlank c hmem] at hc
  cases hc

/-- Semicolons can be read, and so can what stands between them. -/
theorem isReadable_intercalate {texts : List String} (h : ∀ t ∈ texts, isReadable t = true) :
    isReadable (";".intercalate texts) = true := by
  induction texts with
  | nil => rfl
  | cons t rest ih =>
      rw [List.forall_mem_cons] at h
      cases rest with
      | nil => simpa using h.1
      | cons u rest =>
          have hsemicolon : isReadable ";" = true := by decide +kernel
          rw [String.intercalate_cons_cons, isReadable_append, isReadable_append, h.1, ih h.2,
            hsemicolon]
          rfl

namespace Segment

theorem isReadable_text (s : Segment) : isReadable s.text = true := by
  cases s with
  | cookie c b a b' a' =>
      simp [text, isReadable_equals, c.readable_name, c.readable_value, isReadable_spacing]
  | bare text _ _ hreadable => exact hreadable

/-- No segment reaches beyond its semicolon. -/
theorem semicolon_notMem_text (s : Segment) : ';' ∉ s.text.toList := by
  cases s with
  | cookie c b a b' a' =>
      have hblank : isBlank ';' = false := by decide
      simp [text, c.isName.no_semicolon, c.no_semicolon, notMem_spacing _ hblank]
  | bare text _ hsemicolon _ => exact hsemicolon

end Segment

/-! ## What is read -/

/-- A name and a value without the blanks around them. -/
def trimmed (pair : List Char × List Char) : List Char × List Char := (trim pair.1, trim pair.2)

/-- The letters of a cookie's name and value. -/
def Cookie.letters (c : Cookie) : List Char × List Char := (c.name.toList, c.value.toList)

/-- A segment is cut behind the name of its cookie, and what does not belong to the cookie is
blank. -/
theorem Segment.cut_text (s : Segment) :
    (cutAt? '=' s.text.toList).map trimmed = s.cookie?.map Cookie.letters := by
  cases s with
  | cookie c b a b' a' =>
      have hblank : isBlank '=' = false := by decide
      have hname : '=' ∉ b.1.toList ++ (c.name.toList ++ a.1.toList) := by
        simp [c.isName.no_equals, notMem_spacing _ hblank]
      have htext : (cookie c b a b' a').text.toList =
          (b.1.toList ++ (c.name.toList ++ a.1.toList)) ++
            '=' :: (b'.1.toList ++ (c.value.toList ++ a'.1.toList)) := by
        simp [text]
      rw [htext, cutAt?_append hname, Option.map_some, trimmed, trim_blanks_append _ b.2.isBlank,
        trim_append_blanks _ a.2.isBlank, c.isName.trimmed, trim_blanks_append _ b'.2.isBlank,
        trim_append_blanks _ a'.2.isBlank, c.trimmed]
      rfl
  | bare text hequals _ _ =>
      have hnone : cutAt? '=' (bare text hequals ‹_› ‹_›).text.toList = none :=
        cutAt?_eq_none hequals
      rw [hnone]
      rfl

namespace Headers

/-- The cookies of a written field. -/
theorem trimmed_cookiesOf (segments : List Segment) :
    (cookiesOf (CookieField.written segments).text).map trimmed =
      (CookieField.written segments).cookies.map Cookie.letters := by
  have hpieces : (segments.map (fun s => s.text.toList)).filterMap
        (fun piece => (cutAt? '=' piece).map trimmed) =
      segments.filterMap (fun s => s.cookie?.map Cookie.letters) := by
    rw [List.filterMap_map]
    exact congrArg (fun f => segments.filterMap f) (funext Segment.cut_text)
  rw [cookiesOf, List.map_filterMap, CookieField.cookies, List.map_filterMap, ← hpieces]
  by_cases hnone : segments = []
  · subst hnone
    rfl
  · have htext : (CookieField.written segments).text.toList =
        [';'].intercalate (segments.map (fun s => s.text.toList)) := by
      rw [CookieField.text, String.toList_intercalate, List.map_map]
      rfl
    rw [htext, List.splitOn_intercalate]
    · intro piece hpiece
      obtain ⟨s, -, rfl⟩ := List.mem_map.mp hpiece
      exact s.semicolon_notMem_text
    · simpa using hnone

/-- Cookies are compared without the blanks around their names and handed out without those
around their values. -/
theorem cookieIn_eq_find?_trimmed (name : List Char) (pairs : List (List Char × List Char)) :
    cookieIn name pairs =
      ((pairs.map trimmed).find? (fun pair => pair.1 = name)).map Prod.snd := by
  rw [cookieIn, List.find?_map, Option.map_map]
  rfl

variable {h : Headers}

/-- The cookies of all fields. -/
theorem trimmed_cookies {fields : List CookieField}
    (hsent : h.getAll "cookie" = fields.map CookieField.text) :
    h.cookies.map trimmed = (fields.flatMap CookieField.cookies).map Cookie.letters := by
  rw [cookies, hsent]
  clear hsent
  induction fields with
  | nil => rfl
  | cons field rest ih =>
      rw [List.map_cons, List.flatMap_cons, List.map_append, ← ih]
      cases field with
      | written segments =>
          have hreadable : isReadable (CookieField.written segments).text = true := by
            apply isReadable_intercalate
            intro t ht
            obtain ⟨s, -, rfl⟩ := List.mem_map.mp ht
            exact s.isReadable_text
          rw [List.filter_cons_of_pos hreadable, List.flatMap_cons, List.map_append,
            trimmed_cookiesOf]
      | unreadable value hvalue =>
          have hskipped : ¬isReadable (CookieField.unreadable value hvalue).text = true := by
            rw [CookieField.text, hvalue]
            exact Bool.false_ne_true
          rw [List.filter_cons_of_neg hskipped]
          rfl

/-- However cookies are written, the first one of a name is read as it was given. -/
theorem cookie?_of_fields {fields : List CookieField}
    (hsent : h.getAll "cookie" = fields.map CookieField.text) (name : String) :
    h.cookie? name =
      ((fields.flatMap CookieField.cookies).find? (fun c => c.name = name)).map
        Cookie.value := by
  rw [cookie?, cookieIn_eq_find?_trimmed, trimmed_cookies hsent, List.find?_map, Option.map_map,
    Option.map_map]
  have hname : (fun pair : List Char × List Char => decide (pair.1 = name.toList)) ∘
      Cookie.letters = fun c => decide (c.name = name) := by
    funext c
    simp [Cookie.letters, String.toList_inj]
  have hvalue : (String.ofList ∘ Prod.snd) ∘ Cookie.letters = Cookie.value := by
    funext c
    simp [Cookie.letters]
  rw [hname, ← hvalue]

/-- Of the cookies of one name the first one is read. -/
theorem cookie?_of_first {fields : List CookieField} {before after : List Cookie} {c : Cookie}
    (hsent : h.getAll "cookie" = fields.map CookieField.text)
    (hcookies : fields.flatMap CookieField.cookies = before ++ c :: after)
    (hearlier : ∀ earlier ∈ before, earlier.name ≠ c.name) : h.cookie? c.name = some c.value := by
  have hfirst : (fields.flatMap CookieField.cookies).find?
      (fun other => decide (other.name = c.name)) = some c := by
    rw [List.find?_eq_some_iff_append]
    exact ⟨decide_eq_true rfl, before, after, hcookies, by simpa using hearlier⟩
  rw [cookie?_of_fields hsent, hfirst, Option.map_some]

/-- Without a cookie of the name none is read. -/
theorem cookie?_of_absent {fields : List CookieField} {name : String}
    (hsent : h.getAll "cookie" = fields.map CookieField.text)
    (hnone : ∀ c ∈ fields.flatMap CookieField.cookies, c.name ≠ name) :
    h.cookie? name = none := by
  have hfind : (fields.flatMap CookieField.cookies).find?
      (fun c => decide (c.name = name)) = none := by
    rw [List.find?_eq_none]
    simpa using hnone
  rw [cookie?_of_fields hsent, hfind, Option.map_none]

/-- However cookies are spread over fields and written there, what is read under a name is the
value of the first of them that has the name, and nothing if none has it. -/
theorem cookie?_of_written {jar : List Cookie} {fields : List CookieField}
    (hspread : fields.flatMap CookieField.cookies = jar)
    (hsent : h.getAll "cookie" = fields.map CookieField.text) :
    (∀ before c after, jar = before ++ c :: after → (∀ earlier ∈ before, earlier.name ≠ c.name) →
        h.cookie? c.name = some c.value) ∧
      ∀ name, (∀ c ∈ jar, c.name ≠ name) → h.cookie? name = none := by
  subst hspread
  constructor
  · intro before c after hjar hearlier
    exact cookie?_of_first hsent hjar hearlier
  · intro name hnone
    exact cookie?_of_absent hsent hnone

/-- No blanks. -/
def unspaced : Spacing := ⟨"", by simp [IsSpacing]⟩

/-- A space. -/
def spaced : Spacing := ⟨" ", by simp [IsSpacing]⟩

/-- A cookie with an equals sign in its value. -/
def firstChoice : Cookie :=
  ⟨"choice", "size=10", ⟨by decide, by decide, by decide⟩, by decide, by decide, by decide,
    by decide⟩

/-- A later cookie of that name. -/
def secondChoice : Cookie :=
  ⟨"choice", "2", ⟨by decide, by decide, by decide⟩, by decide, by decide, by decide,
    by decide⟩

/-- A field that is not readable, one with blanks and a text without a value, and one more. -/
def choices : List CookieField :=
  [.unreadable "choice=\u00e9" (by decide),
    .written [.bare " seen" (by decide) (by decide) (by decide),
      .cookie firstChoice spaced spaced spaced unspaced],
    .written [.cookie secondChoice unspaced unspaced unspaced unspaced]]

/-- The first of two cookies of one name is read, and none of a name that nobody gave. -/
theorem cookie?_of_written_choices :
    let h : Headers :=
      ⟨[("cookie", "choice=\u00e9"), ("host", "shop.example.com"),
        ("cookie", " seen; choice = size=10"), ("cookie", "choice=2")]⟩
    choices.flatMap CookieField.cookies = [firstChoice, secondChoice] ∧
      h.getAll "cookie" = choices.map CookieField.text ∧
      h.cookie? "choice" = some "size=10" ∧ h.cookie? "seen" = none := by
  intro h
  have hspread : choices.flatMap CookieField.cookies = [firstChoice, secondChoice] := rfl
  have hsent : h.getAll "cookie" = choices.map CookieField.text := by decide +kernel
  obtain ⟨hfirst, hnone⟩ := cookie?_of_written hspread hsent
  refine ⟨hspread, hsent, hfirst [] firstChoice [secondChoice] rfl ?_, hnone "seen" ?_⟩
  · exact List.forall_mem_nil _
  · simp [firstChoice, secondChoice]

end Headers

end WebAuth.Http
