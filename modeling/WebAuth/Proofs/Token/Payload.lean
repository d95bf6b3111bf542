import WebAuth.Token.Validator

/-!
# What the payload of a token says

The payload of a token is a document, and its claims are read from the named values of
that document; members that no claim is named after are passed over.  Each claim is read
under its own name and from nothing else, although the document is put into canonical form
first.

Main results:

- Theorem `Claims.reads_of_readField`: reading one named value sets one claim.
- Theorem `Audience.ofJson_eq_ok_iff`: audiences and their notation.
- Theorem `Claims.IsField.readOption_get?`: a claim is what the document has under its
  name.
- Theorem `Claims.IsField.claim?_eq_number_iff`: numbers among the claims and in the
  payload.
- Theorem `TokenValidator.payloadClaims_eq_ok_iff`: the claims are those of the document
  in the payload.
-/

namespace WebAuth

open Encoding

/-! ## Documents in payloads -/

namespace SignedToken

/-- The document in a token's payload, as far as it holds claims. -/
def document? (t : SignedToken) : Option Json :=
  (Alphabet.addressSafe.decode? t.payload).bind Claims.document?

/-- What the payload of a token, given as a text, has under the name of a claim. -/
def claim? (token name : String) : Option Json :=
  (ofText? token.toList).bind (fun t => t.document?.bind (fun document => document.get? name))

/-- A payload has under a name what its document has. -/
theorem claim?_eq_get? {token : String} {t : SignedToken} {document : Json}
    (hparts : ofText? token.toList = some t) (hdocument : t.document? = some document)
    (name : String) : claim? token name = document.get? name := by
  rw [claim?, hparts, Option.bind_some, hdocument, Option.bind_some]

end SignedToken

/-- The claims come from the document in the payload. -/
theorem TokenValidator.payloadClaims_eq_ok_iff {t : SignedToken} {c : Claims} :
    payloadClaims t = .ok c ↔
      ∃ document, t.document? = some document ∧ Claims.ofDocument? document = some c := by
  rw [payloadClaims, SignedToken.document?]
  cases Alphabet.addressSafe.decode? t.payload with
  | none => exact ⟨nofun, by rintro ⟨_, hnone, -⟩; cases hnone⟩
  | some octets =>
      have hread : Claims.ofOctets? octets = some c ↔ ∃ document,
          Claims.document? octets = some document ∧ Claims.ofDocument? document = some c :=
        Option.bind_eq_some_iff
      rw [Option.bind_some, ← hread]
      dsimp only
      cases Claims.ofOctets? octets with
      | none => exact ⟨nofun, nofun⟩
      | some claims =>
          constructor
          · intro h
            rw [Except.ok.inj h]
          · intro h
            rw [Option.some.inj h]

/-! ## Single values -/

namespace Json

variable {α : Type} {read : Json → Except ReadError α}

/-- Neither arrays nor objects can be read. -/
def ReadsPlain (read : Json → Except ReadError α) : Prop :=
  (∀ items a, read (array items) ≠ .ok a) ∧ ∀ fields a, read (object fields) ≠ .ok a

theorem readsPlain_readString : ReadsPlain readString := ⟨nofun, nofun⟩

theorem readsPlain_readNat64 : ReadsPlain readNat64 := ⟨nofun, nofun⟩

/-- A number that can be read is written as an integer. -/
theorem eq_integer_of_readNat64 {value : Json} {n : Nat}
    (h : readOption readNat64 value = .ok (some n)) : value = number (.integer n) := by
  cases value with
  | number written =>
      cases written with
      | integer i =>
          rw [readOption, readNat64, readInteger] at h
          · split at h
            · rename_i hrange
              cases h
              rw [Int.toNat_of_nonneg hrange.1]
            · cases h
          · exact nofun
      | _ => cases h
  | _ => cases h

/-- What is read from a value in canonical form is read from the value as it is written. -/
def ReadsAsWritten (read : Json → Except ReadError α) : Prop :=
  ∀ (value : Json) (a : α), read value.canonical = .ok a → read value = .ok a

/-- A value that may be null is null or read. -/
theorem readOption_eq_ok_iff {value : Json} {a : Option α} :
    readOption read value = .ok a ↔
      (value = null ∧ a = none) ∨ (value ≠ null ∧ ∃ b, read value = .ok b ∧ a = some b) := by
  unfold readOption
  split
  · simp [eq_comm]
  · rename_i hvalue
    have hnull : value ≠ null := hvalue
    cases read value <;> simp [hnull, Except.map, eq_comm]

/-- Canonical form does not change what is read, nor what is null. -/
theorem ReadsAsWritten.readOption (h : ReadsAsWritten read) {value : Json} {a : Option α}
    (hread : readOption read value.canonical = .ok a) : readOption read value = .ok a := by
  have hnull : value.canonical = null ↔ value = null := by
    cases value <;> simp [canonical]
  rw [readOption_eq_ok_iff, hnull] at hread
  rw [readOption_eq_ok_iff]
  rcases hread with hnone | ⟨hvalue, b, hb, rfl⟩
  · exact Or.inl hnone
  · exact Or.inr ⟨mt hnull.mpr hvalue, b, h value b hb, rfl⟩

/-- What is no array and no object in canonical form was so before. -/
theorem ReadsPlain.readsAsWritten (hplain : ReadsPlain read) : ReadsAsWritten read := by
  intro value a h
  cases value with
  | array items => exact absurd h (hplain.1 _ a)
  | object fields => exact absurd h (hplain.2 _ a)
  | _ => exact h

/-- Texts are read from an array of strings and from nothing else. -/
theorem readList_readString_eq_ok_iff {value : Json} {texts : List String} :
    readList readString value = .ok texts ↔ value = ofTexts texts := by
  cases value with
  | array items =>
      rw [readList, ofTexts, array.injEq]
      induction items generalizing texts with
      | nil => cases texts <;> simp [pure, Except.pure]
      | cons item rest ih =>
          rw [List.mapM_cons]
          cases item with
          | string s =>
              cases hrest : rest.mapM readString <;> cases texts <;>
                simp [readString, bind, Except.bind, pure, Except.pure, ← ih, hrest]
          | _ => cases texts <;> simp [readString, refused, bind, Except.bind]
  | _ => simp [readList, refused, ofTexts]

/-- Different texts are written differently. -/
theorem ofTexts_injective : Function.Injective ofTexts := by
  intro texts others h
  have hread := readList_readString_eq_ok_iff.mpr h
  rw [readList_readString_eq_ok_iff.mpr rfl] at hread
  exact Except.ok.inj hread

/-- A string is in canonical form, and nothing else has that form. -/
theorem canonical_eq_string_iff {value : Json} {s : String} :
    value.canonical = string s ↔ value = string s := by
  cases value <;> simp [canonical]

/-- An array of strings is in canonical form, and nothing else has that form. -/
theorem canonical_eq_ofTexts_iff {value : Json} {texts : List String} :
    value.canonical = ofTexts texts ↔ value = ofTexts texts := by
  cases value with
  | array items =>
      rw [canonical, ofTexts, array.injEq, array.injEq]
      induction items generalizing texts with
      | nil => rw [canonicalItems]
      | cons item rest ih =>
          rw [canonicalItems]
          cases texts with
          | nil => simp
          | cons text texts =>
              rw [List.map_cons, List.cons.injEq, List.cons.injEq, canonical_eq_string_iff, ih]
  | _ => simp [canonical, ofTexts]

end Json

/-! ## Audiences -/

namespace Audience

/-- An audience is read from its own notation and from nothing else. -/
theorem ofJson_eq_ok_iff {value : Json} {a : Audience} :
    ofJson value = .ok a ↔ value = a.toJson := by
  unfold ofJson
  split
  · rename_i name
    cases a <;> simp [toJson, Json.ofTexts]
  · rename_i hother
    cases a with
    | single name =>
        have hne : value ≠ (single name).toJson := hother name
        split <;> simp [hne]
    | several names =>
        rw [toJson, ← Json.readList_readString_eq_ok_iff]
        split <;> simp_all

/-- Canonical form does not change what is read as an audience. -/
theorem readsAsWritten_ofJson : Json.ReadsAsWritten ofJson := by
  intro value a h
  rw [ofJson_eq_ok_iff] at h ⊢
  cases a with
  | single name => exact Json.canonical_eq_string_iff.mp h
  | several names => exact Json.canonical_eq_ofTexts_iff.mp h

end Audience

/-! ## Single claims -/

namespace Claims

/-- What reading a named value makes of the claims read so far. -/
inductive Reads (value : Json) (draft : Claims) : String → Claims → Prop where
  | issuer {found : Option String} (h : Json.readOption Json.readString value = .ok found) :
      Reads value draft "iss" { draft with issuer := found }
  | subject {found : Option String} (h : Json.readOption Json.readString value = .ok found) :
      Reads value draft "sub" { draft with subject := found }
  | audience {found : Option Audience}
      (h : Json.readOption Audience.ofJson value = .ok found) :
      Reads value draft "aud" { draft with audience := found }
  | expiry {found : Option Nat} (h : Json.readOption Json.readNat64 value = .ok found) :
      Reads value draft "exp" { draft with expiry := found }
  | notBefore {found : Option Nat} (h : Json.readOption Json.readNat64 value = .ok found) :
      Reads value draft "nbf" { draft with notBefore := found }
  | issuedAt {found : Option Nat} (h : Json.readOption Json.readNat64 value = .ok found) :
      Reads value draft "iat" { draft with issuedAt := found }
  | tokenId {found : Option String} (h : Json.readOption Json.readString value = .ok found) :
      Reads value draft "jti" { draft with tokenId := found }
  | scope {found : Option String} (h : Json.readOption Json.readString value = .ok found) :
      Reads value draft "scope" { draft with scope := found }
  /-- Other names say nothing. -/
  | other {name : String} (h : name ∉ format.fields) : Reads value draft name draft

/-- Reading one named value sets one claim. -/
theorem reads_of_readField {name : String} {value : Json} {draft c : Claims}
    (h : format.readField name value draft = .ok c) : Reads value draft name c := by
  have hbind {α : Type} {read : Except ReadError α} {f : α → Claims}
      (hread : (read >>= fun a => .ok (f a)) = .ok c) : ∃ a, read = .ok a ∧ f a = c := by
    cases read with
    | error e => cases hread
    | ok a => exact ⟨a, rfl, Except.ok.inj hread⟩
  simp only [format] at h
  split at h
  · obtain ⟨found, hfound, rfl⟩ := hbind h
    exact .issuer hfound
  · obtain ⟨found, hfound, rfl⟩ := hbind h
    exact .subject hfound
  · obtain ⟨found, hfound, rfl⟩ := hbind h
    exact .audience hfound
  · obtain ⟨found, hfound, rfl⟩ := hbind h
    exact .expiry hfound
  · obtain ⟨found, hfound, rfl⟩ := hbind h
    exact .notBefore hfound
  · obtain ⟨found, hfound, rfl⟩ := hbind h
    exact .issuedAt hfound
  · obtain ⟨found, hfound, rfl⟩ := hbind h
    exact .tokenId hfound
  · obtain ⟨found, hfound, rfl⟩ := hbind h
    exact .scope hfound
  · cases h
    exact .other (by simpa [format] using ⟨‹_›, ‹_›, ‹_›, ‹_›, ‹_›, ‹_›, ‹_›, ‹_›⟩)

/-- A claim is read under a name and from nothing else. -/
structure IsField {α : Type} (name : String) (get : Claims → Option α)
    (read : Json → Except ReadError α) : Prop where
  known : name ∈ format.fields
  asWritten : Json.ReadsAsWritten read
  absent : get empty = none
  of_reads : ∀ {value draft entry c}, Reads value draft entry c →
    (entry ≠ name ∧ get c = get draft) ∨
      (entry = name ∧ Json.readOption read value = .ok (get c))

theorem isField_issuer : IsField "iss" issuer Json.readString where
  known := by decide
  asWritten := Json.readsPlain_readString.readsAsWritten
  absent := rfl
  of_reads h := by
    cases h with
    | issuer h => exact Or.inr ⟨rfl, h⟩
    | other h => exact Or.inl ⟨fun heq => h (heq ▸ by decide), rfl⟩
    | _ => exact Or.inl ⟨by decide, rfl⟩

theorem isField_expiry : IsField "exp" expiry Json.readNat64 where
  known := by decide
  asWritten := Json.readsPlain_readNat64.readsAsWritten
  absent := rfl
  of_reads h := by
    cases h with
    | expiry h => exact Or.inr ⟨rfl, h⟩
    | other h => exact Or.inl ⟨fun heq => h (heq ▸ by decide), rfl⟩
    | _ => exact Or.inl ⟨by decide, rfl⟩

theorem isField_audience : IsField "aud" audience Audience.ofJson where
  known := by decide
  asWritten := Audience.readsAsWritten_ofJson
  absent := rfl
  of_reads h := by
    cases h with
    | audience h => exact Or.inr ⟨rfl, h⟩
    | other h => exact Or.inl ⟨fun heq => h (heq ▸ by decide), rfl⟩
    | _ => exact Or.inl ⟨by decide, rfl⟩

theorem isField_notBefore : IsField "nbf" notBefore Json.readNat64 where
  known := by decide
  asWritten := Json.readsPlain_readNat64.readsAsWritten
  absent := rfl
  of_reads h := by
    cases h with
    | notBefore h => exact Or.inr ⟨rfl, h⟩
    | other h => exact Or.inl ⟨fun heq => h (heq ▸ by decide), rfl⟩
    | _ => exact Or.inl ⟨by decide, rfl⟩

namespace IsField

variable {α : Type} {name : String} {get : Claims → Option α}
  {read : Json → Except ReadError α}

/-- Reading named values changes a claim only where they name it. -/
theorem readFields (hfield : IsField name get read) {entries : List (String × Json)}
    {draft c : Claims} (h : format.readFields draft entries = .ok c) :
    (name ∉ entries.map Prod.fst ∧ get c = get draft) ∨
      ∃ value, (name, value) ∈ entries ∧ Json.readOption read value = .ok (get c) := by
  induction entries generalizing draft with
  | nil =>
      cases h
      exact Or.inl ⟨by simp, rfl⟩
  | cons entry rest ih =>
      obtain ⟨key, value⟩ := entry
      rw [RecordFormat.readFields, List.foldlM_cons] at h
      cases hnext : format.readField key value draft with
      | error e =>
          rw [hnext] at h
          cases h
      | ok next =>
          rw [hnext] at h
          rcases ih h with ⟨hnone, hkeep⟩ | ⟨later, hmem, hread⟩
          · rcases hfield.of_reads (reads_of_readField hnext) with ⟨hne, hsame⟩ | ⟨rfl, hread⟩
            · refine Or.inl ⟨?_, hkeep.trans hsame⟩
              rw [List.map_cons, List.mem_cons, not_or]
              exact ⟨fun heq => hne heq.symm, hnone⟩
            · refine Or.inr ⟨value, List.mem_cons_self, ?_⟩
              rw [hkeep]
              exact hread
          · exact Or.inr ⟨later, List.mem_cons_of_mem _ hmem, hread⟩

/-- A claim is what the document has under its name; none if it has nothing or null. -/
theorem readOption_get? (hfield : IsField name get read) {document : Json} {c : Claims}
    (h : ofDocument? document = some c) :
    Json.readOption read ((document.get? name).getD .null) = .ok (get c) := by
  unfold ofDocument? at h
  split at h
  · rename_i fields
    split at h
    · cases h
    · rename_i hrepeat
      have honce : (fields.map Prod.fst).count name ≤ 1 := by
        simp only [Json.repeatsAny, Bool.not_eq_true, List.any_eq_false,
          decide_eq_true_eq, Nat.not_lt] at hrepeat
        exact hrepeat name hfield.known
      have hread : format.readFields empty
          (Dictionary.ofList (Json.canonicalFields fields)) = .ok c := by
        rw [ofJson, Json.canonical, RecordFormat.readDraft_object] at h
        cases hdraft : format.readFields empty
            (Dictionary.ofList (Json.canonicalFields fields)) with
        | error e =>
            rw [hdraft] at h
            cases h
        | ok draft =>
            rw [hdraft] at h
            exact congrArg Except.ok (Option.some.inj h)
      rw [Json.get?_object]
      rcases hfield.readFields hread with ⟨hnone, hkeep⟩ | ⟨value, hmem, hvalue⟩
      · have hmissing : fields.lookup name = none := by
          rw [Dictionary.mem_names_ofList, Json.map_fst_canonicalFields] at hnone
          exact (Dictionary.lookup_eq_none_iff_not_mem fields name).mpr hnone
        rw [hmissing, hkeep, hfield.absent]
        rfl
      · obtain ⟨written, hwritten, rfl⟩ :=
          Json.mem_of_mem_canonicalFields (Dictionary.mem_of_mem_ofList hmem)
        rw [Dictionary.lookup_eq_some_of_mem honce hwritten, Option.getD_some]
        exact hfield.asWritten.readOption hvalue
  · cases h

/-- A number among the claims is a number in the document, and the other way about. -/
theorem get?_eq_number_iff {get : Claims → Option Nat} (hfield : IsField name get Json.readNat64)
    {document : Json} {c : Claims} (h : ofDocument? document = some c) {written : Number} :
    document.get? name = some (.number written) ↔
      ∃ n : Nat, written = .integer n ∧ get c = some n := by
  have hread := hfield.readOption_get? h
  constructor
  · intro hnamed
    rw [hnamed, Option.getD_some] at hread
    rcases Json.readOption_eq_ok_iff.mp hread with ⟨hnull, -⟩ | ⟨-, n, -, hn⟩
    · cases hnull
    · rw [hn] at hread
      exact ⟨n, Json.number.inj (Json.eq_integer_of_readNat64 hread), hn⟩
  · rintro ⟨n, rfl, hn⟩
    rw [hn] at hread
    cases hnamed : document.get? name with
    | none =>
        rw [hnamed] at hread
        cases hread
    | some value =>
        rw [hnamed, Option.getD_some] at hread
        rw [Json.eq_integer_of_readNat64 hread]

/-- A claim is what the payload has under its name; none if it has nothing or null. -/
theorem readOption_claim? (hfield : IsField name get read) {token : String} {t : SignedToken}
    {c : Claims} (hparts : SignedToken.ofText? token.toList = some t)
    (hclaims : TokenValidator.payloadClaims t = .ok c) :
    Json.readOption read ((SignedToken.claim? token name).getD .null) = .ok (get c) := by
  obtain ⟨document, hdocument, hread⟩ := TokenValidator.payloadClaims_eq_ok_iff.mp hclaims
  rw [SignedToken.claim?_eq_get? hparts hdocument]
  exact hfield.readOption_get? hread

/-- A number among the claims is a number in the payload, and the other way about. -/
theorem claim?_eq_number_iff {get : Claims → Option Nat} (hfield : IsField name get Json.readNat64)
    {token : String} {t : SignedToken} {c : Claims}
    (hparts : SignedToken.ofText? token.toList = some t)
    (hclaims : TokenValidator.payloadClaims t = .ok c) {written : Number} :
    SignedToken.claim? token name = some (.number written) ↔
      ∃ n : Nat, written = .integer n ∧ get c = some n := by
  obtain ⟨document, hdocument, hread⟩ := TokenValidator.payloadClaims_eq_ok_iff.mp hclaims
  rw [SignedToken.claim?_eq_get? hparts hdocument]
  exact hfield.get?_eq_number_iff hread

/-- A number among the claims is the integer that the payload has under its name. -/
theorem eq_some_iff_claim? {get : Claims → Option Nat} (hfield : IsField name get Json.readNat64)
    {token : String} {t : SignedToken} {c : Claims}
    (hparts : SignedToken.ofText? token.toList = some t)
    (hclaims : TokenValidator.payloadClaims t = .ok c) {n : Nat} :
    get c = some n ↔ SignedToken.claim? token name = some (.number (.integer n)) := by
  rw [hfield.claim?_eq_number_iff hparts hclaims]
  constructor
  · intro h
    exact ⟨n, rfl, h⟩
  · rintro ⟨m, hm, h⟩
    rw [h, Int.ofNat_inj.mp (Number.integer.inj hm)]

end IsField

end Claims

end WebAuth
