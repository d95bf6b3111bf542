import WebAuth.Http.Credentials

/-!
# What a client sends

Of several cookies or fields of one name only the first counts.  A field counts if it is
readable text; cookies in fields that are not readable are passed over.

Main results:

- Theorem `Headers.cookie?_eq_some_iff`, `Headers.cookie?_eq_none_iff`: which cookie is found.
- Theorem `Headers.readableFirst?_eq_some_iff`: which field is found.
- Theorem `isSpacing_of_isReadable`: the blanks that can stand in a field that counts.
-/

namespace WebAuth.Http

open Text

/-! ## Readable text -/

/-- Nothing but spaces and tabs. -/
def IsSpacing (s : String) : Prop := ∀ c ∈ s.toList, c = ' ' ∨ c = '\t'

/-- Spaces and tabs are blanks. -/
theorem IsSpacing.isBlank {s : String} (h : IsSpacing s) : ∀ c ∈ s.toList, isBlank c = true := by
  intro c hc
  rcases h c hc with rfl | rfl <;> decide

/-- The only blanks in readable text are spaces and tabs. -/
theorem isSpacing_of_isReadable {value : String} {blanks : List Char}
    (hreadable : isReadable value = true) (hsub : ∀ c ∈ blanks, c ∈ value.toList)
    (hblanks : ∀ c ∈ blanks, isBlank c = true) : IsSpacing (String.ofList blanks) := by
  intro c hc
  rw [String.toList_ofList] at hc
  have hblank := hblanks c hc
  simp only [isReadable, List.all_eq_true, Bool.or_eq_true, Bool.and_eq_true,
    decide_eq_true_eq] at hreadable
  rcases hreadable c (hsub c hc) with htab | ⟨hlow, hhigh⟩
  · exact Or.inr htab
  · left
    apply Char.toNat_inj.mp
    have hcode : (' ' : Char).toNat = 32 := rfl
    simp only [isBlank, Bool.or_eq_true, Bool.and_eq_true, decide_eq_true_eq,
      beq_iff_eq] at hblank
    omega

/-- A character of ASCII that is neither a blank nor a control. -/
def IsVisible (c : Char) : Prop := 33 ≤ c.toNat ∧ c.toNat ≤ 126

instance (c : Char) : Decidable (IsVisible c) :=
  inferInstanceAs (Decidable (33 ≤ c.toNat ∧ c.toNat ≤ 126))

theorem IsVisible.isBlank_eq_false {c : Char} (h : IsVisible c) : isBlank c = false := by
  rw [← Bool.not_eq_true]
  simp only [isBlank, Bool.or_eq_true, Bool.and_eq_true, decide_eq_true_eq, beq_iff_eq]
  unfold IsVisible at h
  omega

/-- Visible text is readable. -/
theorem isReadable_ofList {text : List Char} (h : ∀ c ∈ text, IsVisible c) :
    isReadable (String.ofList text) = true := by
  simp only [isReadable, String.toList_ofList, List.all_eq_true, Bool.or_eq_true,
    Bool.and_eq_true, decide_eq_true_eq]
  intro c hc
  have hlow := (h c hc).1
  exact Or.inr ⟨by omega, (h c hc).2⟩

/-! ## First cookies and fields -/

namespace Headers

variable {h : Headers} {name value : String}

/-- There is a readable cookie of the name. -/
def Sends (h : Headers) (name : String) : Prop :=
  ∃ pair ∈ h.cookies, trim pair.1 = name.toList

instance (h : Headers) (name : String) : Decidable (h.Sends name) :=
  inferInstanceAs (Decidable (∃ pair ∈ h.cookies, trim pair.1 = name.toList))

/-- The value of the first readable cookie of the name. -/
def IsFirstCookie (h : Headers) (name value : String) : Prop :=
  ∃ before pair after, h.cookies = before ++ pair :: after ∧
    (∀ earlier ∈ before, trim earlier.1 ≠ name.toList) ∧
    trim pair.1 = name.toList ∧ String.ofList (trim pair.2) = value

/-- The value of the first field of the name, which is readable text. -/
def IsFirstField (h : Headers) (name value : String) : Prop :=
  ∃ others, h.getAll name = value :: others ∧ isReadable value = true

/-- The cookie of a name is the first one. -/
theorem cookie?_eq_some_iff : h.cookie? name = some value ↔ h.IsFirstCookie name value := by
  rw [cookie?, cookieIn, Option.map_map, Option.map_eq_some_iff]
  constructor
  · rintro ⟨pair, hfind, hvalue⟩
    obtain ⟨hname, before, after, hcookies, hearlier⟩ := List.find?_eq_some_iff_append.mp hfind
    exact ⟨before, pair, after, hcookies, by simpa using hearlier, by simpa using hname, hvalue⟩
  · rintro ⟨before, pair, after, hcookies, hearlier, hname, hvalue⟩
    refine ⟨pair, List.find?_eq_some_iff_append.mpr ?_, hvalue⟩
    exact ⟨by simpa using hname, before, after, hcookies, by simpa using hearlier⟩

/-- Without a cookie of the name none is found. -/
theorem cookie?_eq_none_iff : h.cookie? name = none ↔ ¬h.Sends name := by
  rw [cookie?, cookieIn, Option.map_map, Option.map_eq_none_iff, List.find?_eq_none, Sends]
  simp

/-- The first field of a name counts, if it is readable. -/
theorem readableFirst?_eq_some_iff :
    h.readableFirst? name = some value ↔ h.IsFirstField name value := by
  rw [readableFirst?, get?, Option.filter_eq_some_iff, List.head?_eq_some_iff]
  constructor
  · rintro ⟨⟨others, hfields⟩, hreadable⟩
    exact ⟨others, hfields, hreadable⟩
  · rintro ⟨others, hfields, hreadable⟩
    exact ⟨⟨others, hfields⟩, hreadable⟩

end Headers

end WebAuth.Http
