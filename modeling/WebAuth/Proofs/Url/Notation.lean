import WebAuth.Proofs.Http.PathSegments
import WebAuth.Proofs.Url.NumericHost
import WebAuth.Run

/-!
# Web addresses and their notation

What is read as an address of the web is in one form: its host is a name or an address by number,
its path is rooted, and in each part the characters are escaped that delimit it.  So the notation
can be cut into its parts again, and determines the address.

Main results:

- Theorem `Url.isRead_of_specialHost`: what is read as the host of a special scheme.
- Theorem `Host.IsRead.text_inj`: a host is determined by its notation.
- Theorem `Percent.plain_of_mem_encode`: escaping leaves nothing to escape.
- Theorem `Authority.IsRead.text_inj`: an authority is determined by its notation.
- Theorem `Url.isWeb_of_parse`: what is read as an address of the web.
- Theorem `Url.IsWeb.text_inj`: a web address is determined by its notation.
-/

namespace WebAuth

open Text

/-! ## Hosts -/

/-- A host as special schemes read it. -/
inductive Host.IsRead : Host → Prop where
  /-- A name in ASCII that is no address of version 4. -/
  | domain {name : String} (hplain : IsPlainName name.toList)
      (hnumber : Ipv4.endsInNumber name.toList = false) : IsRead (.domain name)
  /-- An address of four octets. -/
  | ipv4 {address : Nat} (hlimit : address < Nat.pow 256 4) : IsRead (.ipv4 address)
  /-- An address of eight pieces. -/
  | ipv6 {pieces : List Nat} (hlength : pieces.length = 8) : IsRead (.ipv6 pieces)

/-- What is read as the host of a special scheme. -/
theorem Url.isRead_of_specialHost {cs : List Char} {host : Host} (h : specialHost cs = .ok host) :
    host.IsRead := by
  unfold specialHost at h
  split at h
  · unfold bracketedHost at h
    split at h
    · split at h
      · rename_i pieces hpieces
        cases h
        exact .ipv6 (Ipv6.length_of_parse? hpieces)
      · cases h
    · cases h
  · split at h
    · cases h
    · split at h
      · cases h
      · rename_i name hname
        split at h
        · cases h
        · split at h
          · split at h
            · rename_i address haddress
              cases h
              exact .ipv4 (Ipv4.lt_of_parse? haddress)
            · cases h
          · rename_i hnumber
            cases h
            refine .domain ?_ ?_
            · rw [String.toList_ofList]
              exact Domain.isPlainName_of_toAscii? hname
            · rw [String.toList_ofList]
              exact Bool.eq_false_iff.mpr hnumber

namespace Host

/-- The ways a host is written: plainly, or in brackets with colons. -/
inductive IsWritten : List Char → Prop where
  | plain {cs : List Char} (h : IsPlainName cs) : IsWritten cs
  | bracketed {cs : List Char} (h : ∀ c ∈ cs, Label.isForbidden c = false ∨ c = ':') :
      IsWritten ('[' :: (cs ++ [']']))

theorem toList_text_ipv6 (pieces : List Nat) :
    (Host.ipv6 pieces).text.toList = '[' :: ((Ipv6.text pieces).toList ++ [']']) := by
  simp [text]

variable {host other : Host}

theorem IsRead.isWritten (h : host.IsRead) : IsWritten host.text.toList := by
  cases h with
  | domain hplain hnumber => exact .plain hplain
  | ipv4 hlimit => exact .plain (Ipv4.isPlainName_text _)
  | ipv6 hlength =>
      rw [toList_text_ipv6]
      refine .bracketed ?_
      rw [Ipv6.toList_text]
      exact forall_mem_intercalate (.inr rfl)
        (fun group hgroup c hc => .inl (Ipv6.isPlainName_of_mem_groups hgroup c hc))

/-- A host is determined by its notation. -/
theorem IsRead.text_inj (hhost : host.IsRead) (hother : other.IsRead)
    (h : host.text = other.text) : host = other := by
  have hbracket {name : String} {pieces : List Nat} (hplain : IsPlainName name.toList) :
      name ≠ (Host.ipv6 pieces).text := by
    rintro rfl
    exact hplain.notMem (c := '[') (by decide) (by simp [toList_text_ipv6])
  have hnumbered {name : String} {address : Nat} (hnumber : Ipv4.endsInNumber name.toList = false) :
      name ≠ (Host.ipv4 address).text := by
    rintro rfl
    rw [text, Ipv4.endsInNumber_text] at hnumber
    cases hnumber
  cases hhost with
  | domain hplain hnumber =>
      cases hother with
      | domain hplain' hnumber' => exact congrArg Host.domain h
      | ipv4 hlimit => exact absurd h (hnumbered hnumber)
      | ipv6 hlength => exact absurd h (hbracket hplain)
  | ipv4 hlimit =>
      cases hother with
      | domain hplain hnumber => exact absurd h.symm (hnumbered hnumber)
      | ipv4 hlimit' => exact congrArg Host.ipv4 (Ipv4.text_inj hlimit hlimit' h)
      | ipv6 hlength => exact absurd h (hbracket (Ipv4.isPlainName_text _))
  | ipv6 hlength =>
      cases hother with
      | domain hplain hnumber => exact absurd h.symm (hbracket hplain)
      | ipv4 hlimit => exact absurd h.symm (hbracket (Ipv4.isPlainName_text _))
      | ipv6 hlength' =>
          refine congrArg Host.ipv6 (Ipv6.text_inj hlength hlength' ?_)
          have hlist := congrArg String.toList h
          rw [toList_text_ipv6, toList_text_ipv6] at hlist
          exact String.toList_inj.mp (List.append_cancel_right (List.cons.inj hlist).2)

end Host

/-! ## Parts behind marks -/

/-- A part behind its mark, or nothing if there is no such part. -/
def marked (mark : Char) : Option (List Char) → List Char
  | some part => mark :: part
  | none => []

theorem marked_inj {mark : Char} {part other : Option (List Char)}
    (h : marked mark part = marked mark other) : part = other := by
  cases part with
  | none =>
      cases other with
      | none => rfl
      | some other => cases h
  | some part =>
      cases other with
      | none => cases h
      | some other => rw [(List.cons.inj h).2]

theorem head?_marked (mark : Char) (part : Option (List Char)) :
    (marked mark part).head?.all (fun c => c = mark) = true := by
  cases part with
  | none => rfl
  | some part => exact decide_eq_true rfl

/-! ## Escaped texts -/

namespace Percent

/-- What escapes are made of is not escaped. -/
def KeepsEscapes (isEscaped : Char → Bool) : Prop :=
  isEscaped '%' = false ∧ ∀ n < 16, isEscaped (hexDigit n) = false

instance (isEscaped : Char → Bool) : Decidable (KeepsEscapes isEscaped) :=
  inferInstanceAs (Decidable (_ ∧ _))

/-- Escaping leaves nothing to escape. -/
theorem plain_of_mem_encode {isEscaped : Char → Bool} (h : KeepsEscapes isEscaped)
    {cs : List Char} : ∀ c ∈ encode isEscaped cs, isEscaped c = false := by
  intro c hc
  obtain ⟨d, -, hc⟩ := List.mem_flatMap.mp hc
  unfold encodeChar at hc
  split at hc
  · obtain ⟨octet, -, hc⟩ := List.mem_flatMap.mp hc
    have hoctet := octet.toNat_lt
    simp only [escapeOctet, List.mem_cons, List.not_mem_nil, or_false] at hc
    rcases hc with rfl | rfl | rfl
    · exact h.1
    · exact h.2 _ (by omega)
    · exact h.2 _ (by omega)
  · rename_i hd
    obtain rfl := List.mem_singleton.mp hc
    exact Bool.eq_false_iff.mpr hd

end Percent

/-! ## Authorities -/

/-- An authority as special schemes read it. -/
structure Authority.IsRead (a : Authority) : Prop where
  username : ∀ c ∈ a.username.toList, Percent.inUserInfo c = false
  password : ∀ c ∈ a.password.toList, Percent.inUserInfo c = false
  host : ∃ host, a.host = some host ∧ host.IsRead

namespace Url

theorem plain_of_credentials (info : List Char) :
    (∀ c ∈ (credentials info).1.toList, Percent.inUserInfo c = false) ∧
      ∀ c ∈ (credentials info).2.toList, Percent.inUserInfo c = false := by
  have hplain (cs : List Char) :
      ∀ c ∈ (String.ofList (Percent.encode Percent.inUserInfo cs)).toList,
        Percent.inUserInfo c = false := by
    rw [String.toList_ofList]
    exact Percent.plain_of_mem_encode (by decide)
  unfold credentials
  simp only
  split
  · exact ⟨hplain _, hplain _⟩
  · exact ⟨hplain _, List.forall_mem_nil _⟩

theorem isRead_of_host {cs rest : List Char} {found : Option Host}
    (h : host true cs = .ok (found, rest)) : ∃ read, found = some read ∧ read.IsRead := by
  unfold host at h
  simp only [true_or, if_true] at h
  split at h
  · cases h
  · obtain ⟨read, hread, h⟩ := bind_eq_ok_iff.mp h
    cases h
    exact ⟨read, rfl, isRead_of_specialHost hread⟩

/-- What is read as the authority of a special scheme. -/
theorem isRead_of_authorityOf {scheme : String} (hscheme : isSpecial scheme = true)
    {cs rest : List Char} {a : Authority} (h : authorityOf scheme cs = .ok (a, rest)) :
    a.IsRead := by
  unfold authorityOf at h
  rw [hscheme] at h
  simp only at h
  -- with user information and without
  split at h
  all_goals
    split at h
    · cases h
    · obtain ⟨⟨found, after⟩, hhost, h⟩ := bind_eq_ok_iff.mp h
      obtain ⟨⟨port, after'⟩, -, h⟩ := bind_eq_ok_iff.mp h
      split at h
      · cases h
      · cases h
        exact ⟨(plain_of_credentials _).1, (plain_of_credentials _).2, isRead_of_host hhost⟩

end Url

/-! ## The notation of authorities -/

/-- What stands between the brackets of a host, and outside. -/
theorem Host.IsWritten.forall_mem {cs : List Char} (h : IsWritten cs) :
    ∀ c ∈ cs, Label.isForbidden c = false ∨ c ∈ ['[', ']', ':'] := by
  cases h with
  | plain h => exact fun c hc => .inl (h c hc)
  | bracketed h =>
      refine List.forall_mem_cons.mpr ⟨.inr (by decide), List.forall_mem_append.mpr ⟨?_, ?_⟩⟩
      · rintro c hc
        rcases h c hc with hplain | rfl
        · exact .inl hplain
        · exact .inr (by decide)
      · exact List.forall_mem_singleton.mpr (.inr (by decide))

/-- A port starts at the first colon that is not between brackets. -/
theorem Host.IsWritten.append_inj {cs cs' : List Char} {port port' : Option (List Char)}
    (hcs : IsWritten cs) (hcs' : IsWritten cs')
    (h : cs ++ marked ':' port = cs' ++ marked ':' port') : cs = cs' ∧ port = port' := by
  have hbracket {inner : List Char} (hinner : ∀ c ∈ inner, Label.isForbidden c = false ∨ c = ':') :
      ']' ∉ inner :=
    fun hmem => absurd (hinner ']' hmem) (by decide)
  have hmixed {cs inner : List Char} {port port' : Option (List Char)} (hcs : IsPlainName cs) :
      cs ++ marked ':' port ≠ '[' :: (inner ++ [']']) ++ marked ':' port' := by
    intro h
    cases cs with
    | nil => cases port <;> cases h
    | cons c cs =>
        obtain rfl := (List.cons.inj h).1
        exact hcs.notMem (by decide) List.mem_cons_self
  cases hcs with
  | plain hplain =>
      cases hcs' with
      | plain hplain' =>
          obtain ⟨hhost, hport⟩ := append_inj_of_notMem (hplain.notMem (by decide))
            (hplain'.notMem (by decide)) (head?_marked _ _) (head?_marked _ _) h
          exact ⟨hhost, marked_inj hport⟩
      | bracketed hinner => exact absurd h (hmixed hplain)
  | bracketed hinner =>
      cases hcs' with
      | plain hplain => exact absurd h.symm (hmixed hplain)
      | bracketed hinner' =>
          simp only [List.cons_append, List.append_assoc, List.nil_append, List.cons.injEq,
            true_and] at h
          obtain ⟨rfl, hport⟩ := append_inj_of_notMem (hbracket hinner) (hbracket hinner') rfl rfl h
          exact ⟨rfl, marked_inj (List.cons.inj hport).2⟩

namespace Authority

variable {a b : Authority}

/-- The notation of user information before its mark. -/
def userInfo (a : Authority) : List Char :=
  a.username.toList ++ marked ':' (if a.password.isEmpty then none else some a.password.toList)

/-- The notation of user information with its mark. -/
def userText (a : Authority) : List Char :=
  if a.username.isEmpty && a.password.isEmpty then [] else a.userInfo ++ ['@']

/-- The notation of an authority with a host. -/
theorem toList_text {host : Host} (h : a.host = some host) :
    a.text.toList =
      a.userText ++ (host.text.toList ++ marked ':' (a.port.map (Nat.toDigits 10))) := by
  have huser : (if a.username.isEmpty && a.password.isEmpty then "" else
      a.username ++ (if a.password.isEmpty then "" else ":" ++ a.password) ++ "@").toList =
      a.userText := by
    unfold userText userInfo
    split
    · rfl
    · split <;> simp [marked]
  rw [text, h]
  simp only [String.toList_append, huser]
  cases a.port <;> simp [marked]

/-- User information has no marks but its own colon. -/
theorem IsRead.forall_mem_userInfo (h : a.IsRead) :
    ∀ c ∈ a.userInfo, Percent.inUserInfo c = false ∨ c = ':' := by
  refine List.forall_mem_append.mpr ⟨fun c hc => .inl (h.username c hc), ?_⟩
  split
  · exact List.forall_mem_nil _
  · exact List.forall_mem_cons.mpr ⟨.inr rfl, fun c hc => .inl (h.password c hc)⟩

theorem IsRead.userInfo_inj (ha : a.IsRead) (hb : b.IsRead) (h : a.userInfo = b.userInfo) :
    a.username = b.username ∧ a.password = b.password := by
  have hcolon {name : String} (hname : ∀ c ∈ name.toList, Percent.inUserInfo c = false) :
      ':' ∉ name.toList :=
    fun hmem => absurd (hname ':' hmem) (by decide)
  obtain ⟨hname, hword⟩ := append_inj_of_notMem (hcolon ha.username) (hcolon hb.username)
    (head?_marked _ _) (head?_marked _ _) h
  refine ⟨String.toList_inj.mp hname, ?_⟩
  have hword := marked_inj hword
  split at hword
  · rename_i hempty
    split at hword
    · rename_i hempty'
      rw [String.isEmpty_iff.mp hempty, String.isEmpty_iff.mp hempty']
    · cases hword
  · split at hword
    · cases hword
    · exact String.toList_inj.mp (Option.some.inj hword)

/-- User information ends at its mark. -/
theorem IsRead.userText_append_inj (ha : a.IsRead) (hb : b.IsRead) {site site' : List Char}
    (hsite : '@' ∉ site) (hsite' : '@' ∉ site') (h : a.userText ++ site = b.userText ++ site') :
    a.username = b.username ∧ a.password = b.password ∧ site = site' := by
  have hmark {a : Authority} (ha : a.IsRead) : '@' ∉ a.userInfo :=
    fun hmem => absurd (ha.forall_mem_userInfo '@' hmem) (by decide)
  unfold userText at h
  split at h
  · rename_i hempty
    split at h
    · rename_i hempty'
      rw [Bool.and_eq_true, String.isEmpty_iff, String.isEmpty_iff] at hempty hempty'
      exact ⟨hempty.1.trans hempty'.1.symm, hempty.2.trans hempty'.2.symm, h⟩
    · rw [List.nil_append] at h
      exact absurd (by simp [h]) hsite
  · split at h
    · rw [List.nil_append] at h
      exact absurd (by simp [← h]) hsite'
    · rw [List.append_assoc, List.append_assoc] at h
      obtain ⟨hinfo, hrest⟩ := append_inj_of_notMem (hmark ha) (hmark hb) rfl rfl h
      obtain ⟨hname, hword⟩ := ha.userInfo_inj hb hinfo
      exact ⟨hname, hword, (List.cons.inj hrest).2⟩

/-- A host and its port have no marks but colons and brackets. -/
theorem forall_mem_site {host : Host} (h : host.IsRead) (port : Option Nat) :
    ∀ c ∈ host.text.toList ++ marked ':' (port.map (Nat.toDigits 10)),
      Label.isForbidden c = false ∨ c ∈ ['[', ']', ':'] := by
  refine List.forall_mem_append.mpr ⟨h.isWritten.forall_mem, ?_⟩
  cases port with
  | none => exact List.forall_mem_nil _
  | some port =>
      refine List.forall_mem_cons.mpr ⟨.inr (by decide), fun c hc => .inl ?_⟩
      exact isPlainName_toDigits (by decide) (by decide) port c hc

/-- An authority is determined by its notation. -/
theorem IsRead.text_inj (ha : a.IsRead) (hb : b.IsRead) (h : a.text = b.text) : a = b := by
  obtain ⟨host, hhost, hread⟩ := ha.host
  obtain ⟨host', hhost', hread'⟩ := hb.host
  have hlist := congrArg String.toList h
  rw [toList_text hhost, toList_text hhost'] at hlist
  have hmark {host : Host} (hread : host.IsRead) (port : Option Nat) :
      '@' ∉ host.text.toList ++ marked ':' (port.map (Nat.toDigits 10)) :=
    fun hmem => absurd (forall_mem_site hread port '@' hmem) (by decide)
  obtain ⟨husername, hpassword, hsite⟩ :=
    ha.userText_append_inj hb (hmark hread _) (hmark hread' _) hlist
  obtain ⟨hhosts, hports⟩ := hread.isWritten.append_inj hread'.isWritten hsite
  obtain rfl := hread.text_inj hread' (String.toList_inj.mp hhosts)
  have hport : a.port = b.port :=
    Option.map_injective (fun _ _ => toDigits_inj (by decide) (by decide)) hports
  cases a
  cases b
  simp_all

/-- There is no slash in an authority. -/
theorem IsRead.slash_notMem_text (h : a.IsRead) : '/' ∉ a.text.toList := by
  obtain ⟨host, hhost, hread⟩ := h.host
  rw [toList_text hhost, List.mem_append]
  rintro (hmem | hmem)
  · unfold userText at hmem
    split at hmem
    · exact absurd hmem List.not_mem_nil
    · rcases List.mem_append.mp hmem with hmem | hmem
      · exact absurd (h.forall_mem_userInfo '/' hmem) (by decide)
      · exact absurd hmem (by decide)
  · exact absurd (forall_mem_site hread a.port '/' hmem) (by decide)

end Authority

/-! ## Paths -/

namespace Url

theorem mem_of_mem_shorten {segments : List (List Char)} {segment : List Char}
    (h : segment ∈ shorten segments) : segment ∈ segments := by
  unfold shorten at h
  split at h
  · split at h
    · exact h
    · exact List.dropLast_subset _ h
  · exact absurd h List.not_mem_nil

section Segments

variable {P : List Char → Prop} (hempty : P [])
include hempty

/-- What holds of the empty segment and of all segments so far holds when one is added. -/
theorem forall_mem_addSegment (last : Bool) {segments : List (List Char)} {segment : List Char}
    (hsegments : ∀ s ∈ segments, P s) (hsegment : P segment) :
    ∀ s ∈ addSegment false last segments segment, P s := by
  have hshorter : ∀ s ∈ shorten segments, P s := fun s hs => hsegments s (mem_of_mem_shorten hs)
  have hnext {segments : List (List Char)} (h : ∀ s ∈ segments, P s) {s : List Char} (hs : P s) :
      ∀ t ∈ segments ++ [s], P t :=
    List.forall_mem_append.mpr ⟨h, List.forall_mem_singleton.mpr hs⟩
  unfold addSegment
  split
  · simp only
    split
    · exact hnext hshorter hempty
    · exact hshorter
  · split
    · split
      · exact hnext hsegments hempty
      · exact hsegments
    · rw [Bool.false_and, Bool.false_and, if_neg Bool.false_ne_true]
      exact hnext hsegments hsegment

/-- What holds of the empty segment and of all that are added holds of the segments of a path. -/
theorem forall_mem_addSegments {segments pieces : List (List Char)}
    (hsegments : ∀ s ∈ segments, P s) (hpieces : ∀ s ∈ pieces, P s) :
    ∀ s ∈ addSegments false segments pieces, P s := by
  induction pieces generalizing segments with
  | nil => exact hsegments
  | cons piece rest ih =>
      obtain ⟨hpiece, hrest⟩ := List.forall_mem_cons.mp hpieces
      cases rest with
      | nil => exact forall_mem_addSegment hempty true hsegments hpiece
      | cons next rest => exact ih (forall_mem_addSegment hempty false hsegments hpiece) hrest

end Segments

/-- A path ends in a segment, be it empty. -/
theorem addSegments_ne_nil (isFile : Bool) {segments pieces : List (List Char)}
    (h : pieces ≠ []) : addSegments isFile segments pieces ≠ [] := by
  induction pieces generalizing segments with
  | nil => exact absurd rfl h
  | cons piece rest ih =>
      cases rest with
      | nil =>
          rw [addSegments, addSegment]
          split
          · simp
          · split
            · simp
            · split <;> simp
      | cons next rest => exact ih (List.cons_ne_nil _ _)

/-- The path behind an authority of a special scheme other than files. -/
theorem segmentsStart_spec {scheme : String} (hspecial : isSpecial scheme = true)
    (hfile : scheme ≠ "file") (cs : List Char) :
    (segmentsStart scheme cs).1 ≠ [] ∧
      ∀ s ∈ (segmentsStart scheme cs).1, ∀ c ∈ s, Percent.inPath c = false := by
  have hafter (cs : List Char) : (segmentsAfter scheme [] cs).1 ≠ [] ∧
      ∀ s ∈ (segmentsAfter scheme [] cs).1, ∀ c ∈ s, Percent.inPath c = false := by
    have hpieces (pieces : List (List Char)) :
        ∀ s ∈ pieces.map (Percent.encode Percent.inPath), ∀ c ∈ s, Percent.inPath c = false :=
      List.forall_mem_map.mpr fun piece _ => Percent.plain_of_mem_encode (by decide)
    simp only [segmentsAfter, decide_eq_false hfile]
    refine ⟨addSegments_ne_nil false ?_, ?_⟩
    · rw [ne_eq, List.map_eq_nil_iff]
      exact List.splitOnP_ne_nil _ _
    · exact forall_mem_addSegments (List.forall_mem_nil _) (List.forall_mem_nil _) (hpieces _)
  unfold segmentsStart
  rw [hspecial]
  split
  · split
    · exact hafter _
    · exact hafter _
  · simp

/-! ## Web addresses -/

/-- An address of the web as it is read. -/
structure IsWeb (u : Url) : Prop where
  scheme : u.scheme = "http" ∨ u.scheme = "https"
  authority : ∃ a, u.authority = some a ∧ a.IsRead
  guarded : u.guarded = false
  hierarchical : u.hierarchical = true
  rooted : u.path.toList.head? = some '/'
  path : ∀ c ∈ u.path.toList, Percent.inPath c = false
  query : ∀ q ∈ u.query, ∀ c ∈ q.toList, Percent.inSpecialQuery c = false

theorem isSpecial_of_web {scheme : String} (h : scheme = "http" ∨ scheme = "https") :
    isSpecial scheme = true := by
  rcases h with rfl | rfl <;> decide

theorem ne_file_of_web {scheme : String} (h : scheme = "http" ∨ scheme = "https") :
    scheme ≠ "file" := by
  rcases h with rfl | rfl <;> decide

/-- The query at the end of an address of a special scheme. -/
theorem plain_of_tail {scheme : String} (h : isSpecial scheme = true) (cs : List Char) :
    ∀ q ∈ (tail scheme cs).1, ∀ c ∈ q.toList, Percent.inSpecialQuery c = false := by
  intro q hq
  unfold tail at hq
  rw [h] at hq
  simp only at hq
  split at hq
  · obtain rfl := Option.some.inj hq
    rw [String.toList_ofList]
    exact Percent.plain_of_mem_encode (by decide)
  · cases hq
  · cases hq

/-- What is read behind the scheme of a web address. -/
theorem isWeb_of_afterSlashes {scheme : String} (hweb : scheme = "http" ∨ scheme = "https")
    {cs : List Char} {u : Url} (h : afterSlashes scheme cs = .ok u) : u.IsWeb := by
  have hspecial := isSpecial_of_web hweb
  unfold afterSlashes at h
  obtain ⟨⟨a, rest⟩, ha, h⟩ := bind_eq_ok_iff.mp h
  obtain ⟨hne, hplain⟩ := segmentsStart_spec hspecial (ne_file_of_web hweb) rest
  cases h
  obtain ⟨segment, others, hsegments⟩ := List.exists_cons_of_ne_nil hne
  refine ⟨hweb, ⟨a, rfl, isRead_of_authorityOf hspecial ha⟩, rfl, rfl, ?_, ?_,
    plain_of_tail hspecial _⟩
  · change (pathText (segmentsStart scheme rest).1).toList.head? = _
    rw [hsegments, toList_pathText_cons]
    rfl
  · change ∀ c ∈ (pathText (segmentsStart scheme rest).1).toList, _
    rw [pathText, String.toList_ofList]
    intro c hc
    obtain ⟨s, hs, hc⟩ := List.mem_flatMap.mp hc
    rcases List.mem_cons.mp hc with rfl | hc
    · decide
    · exact hplain s hs c hc

theorem scheme_of_afterFile {cs : List Char} {u : Url} (h : afterFile cs = .ok u) :
    u.scheme = "file" := by
  unfold afterFile at h
  split at h
  · split at h
    · simp only at h
      split at h
      · cases h
        rfl
      · generalize fileHost _ = found at h
        cases found with
        | error e => cases h
        | ok host =>
            cases h
            simp only
            split <;> rfl
    · cases h
      rfl
  · cases h
    rfl

theorem scheme_of_afterPlainScheme {scheme : String} {cs : List Char} {u : Url}
    (h : afterPlainScheme scheme cs = .ok u) : u.scheme = scheme := by
  unfold afterPlainScheme at h
  split at h
  · unfold afterSlashes at h
    obtain ⟨⟨a, rest⟩, -, h⟩ := bind_eq_ok_iff.mp h
    cases h
    rfl
  · cases h
    rfl
  · cases h
    rfl

/-- What is read as an address of the web. -/
theorem isWeb_of_parse {s : String} {u : Url} (h : parse s = .ok u)
    (hweb : u.scheme = "http" ∨ u.scheme = "https") : u.IsWeb := by
  unfold parse parseFrom at h
  simp only at h
  split at h
  · rename_i scheme rest hscheme
    split at h
    · exact absurd (scheme_of_afterFile h) (ne_file_of_web hweb)
    · split at h
      · have hsame : u.scheme = scheme := by
          unfold afterSlashes at h
          obtain ⟨⟨a, rest⟩, -, h⟩ := bind_eq_ok_iff.mp h
          cases h
          rfl
        exact isWeb_of_afterSlashes (hsame ▸ hweb) h
      · rename_i hplain
        rw [← scheme_of_afterPlainScheme h] at hplain
        exact absurd (isSpecial_of_web hweb) hplain
  · cases h

namespace IsWeb

variable {u v : Url}

/-- The notation of an address with an authority. -/
theorem toList_text {a : Authority} (ha : u.authority = some a) :
    u.text.toList = u.scheme.toList ++ ':' :: '/' :: '/' :: (a.text.toList ++ (u.path.toList ++
      (marked '?' (u.query.map String.toList) ++ marked '#' (u.fragment.map String.toList)))) := by
  rw [text, textBeforePath, leadText, ha, queryText]
  cases u.query <;> cases u.fragment <;> simp [marked]

/-- A path ends before query and fragment. -/
theorem path_append_inj (hu : u.IsWeb) (hv : v.IsWeb)
    {query fragment query' fragment' : Option (List Char)}
    (h : u.path.toList ++ (marked '?' query ++ marked '#' fragment) =
      v.path.toList ++ (marked '?' query' ++ marked '#' fragment')) :
    u.path = v.path ∧
      marked '?' query ++ marked '#' fragment = marked '?' query' ++ marked '#' fragment' := by
  let ends (c : Char) : Bool := c = '?' || c = '#'
  have hinside {u : Url} (hu : u.IsWeb) : ∀ c ∈ u.path.toList, ends c = false := by
    intro c hc
    rw [← Bool.not_eq_true]
    intro hends
    have hpath := hu.path c hc
    rcases Bool.or_eq_true_iff.mp hends with heq | heq
    all_goals
      obtain rfl := of_decide_eq_true heq
      exact absurd hpath (by decide)
  have hend (query fragment : Option (List Char)) :
      (marked '?' query ++ marked '#' fragment).head?.all ends = true := by
    cases query with
    | some query => rfl
    | none =>
        cases fragment with
        | some fragment => rfl
        | none => rfl
  obtain ⟨hpath, hrest⟩ :=
    append_inj_of_class (hinside hu) (hinside hv) (hend _ _) (hend _ _) h
  exact ⟨String.toList_inj.mp hpath, hrest⟩

/-- There is no mark of a fragment in a query. -/
theorem hash_notMem_query (hu : u.IsWeb) : '#' ∉ marked '?' (u.query.map String.toList) := by
  cases hquery : u.query with
  | none => exact List.not_mem_nil
  | some query =>
      intro hmem
      rcases List.mem_cons.mp hmem with heq | hmem
      · cases heq
      · exact absurd (hu.query query hquery '#' hmem) (by decide)

/-- A web address is determined by its notation. -/
theorem text_inj (hu : u.IsWeb) (hv : v.IsWeb) (h : u.text = v.text) : u = v := by
  obtain ⟨a, ha, hread⟩ := hu.authority
  obtain ⟨b, hb, hread'⟩ := hv.authority
  have hlist := congrArg String.toList h
  rw [toList_text ha, toList_text hb] at hlist
  have hcolon {u : Url} (hu : u.IsWeb) : ':' ∉ u.scheme.toList := by
    rcases hu.scheme with heq | heq <;> rw [heq] <;> decide
  obtain ⟨hscheme, hrest⟩ := append_inj_of_notMem (hcolon hu) (hcolon hv) rfl rfl hlist
  simp only [List.cons.injEq, true_and] at hrest
  have hrooted {u : Url} (hu : u.IsWeb) (rest : List Char) :
      (u.path.toList ++ rest).head?.all (fun c => c = '/') = true := by
    rw [List.head?_append, hu.rooted]
    rfl
  obtain ⟨hauthority, hpaths⟩ := append_inj_of_notMem hread.slash_notMem_text
    hread'.slash_notMem_text (hrooted hu _) (hrooted hv _) hrest
  obtain rfl := hread.text_inj hread' (String.toList_inj.mp hauthority)
  obtain ⟨hpath, hmarks⟩ := hu.path_append_inj hv hpaths
  obtain ⟨hquery, hfragment⟩ := append_inj_of_notMem hu.hash_notMem_query hv.hash_notMem_query
    (head?_marked _ _) (head?_marked _ _) hmarks
  have htext : Function.Injective String.toList := fun _ _ => String.toList_inj.mp
  have hquery := Option.map_injective htext (marked_inj hquery)
  have hfragment := Option.map_injective htext (marked_inj hfragment)
  have hscheme := String.toList_inj.mp hscheme
  have hguarded := hu.guarded.trans hv.guarded.symm
  have hhierarchical := hu.hierarchical.trans hv.hierarchical.symm
  cases u
  cases v
  simp_all

end IsWeb

end Url

end WebAuth
