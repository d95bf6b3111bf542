import WebAuth.Text.Cut
import WebAuth.Url.Domain

/-!
# The characters of names

A domain name is written in ASCII: a label as it is, or in punycode, whose digits are letters and
figures.  No character of a name delimits other parts of an address.

Main results:

- Theorem `Punycode.isPlainName_encode`: punycode keeps to the ASCII characters of a label, hyphens
  and digits.
- Theorem `Domain.isPlainName_of_toAscii?`: no character of a name delimits other parts of an
  address.
-/

namespace WebAuth

open Text

/-! ## Names -/

/-- No character of the text delimits other parts of an address. -/
def IsPlainName (cs : List Char) : Prop := ∀ c ∈ cs, Label.isForbidden c = false

theorem IsPlainName.append {first second : List Char} (hfirst : IsPlainName first)
    (hsecond : IsPlainName second) : IsPlainName (first ++ second) :=
  List.forall_mem_append.mpr ⟨hfirst, hsecond⟩

theorem IsPlainName.notMem {cs : List Char} {c : Char} (h : IsPlainName cs)
    (hc : Label.isForbidden c = true) : c ∉ cs := by
  intro hmem
  rw [h c hmem] at hc
  cases hc

namespace Punycode

theorem isForbidden_digit {n : Nat} (h : n < base) : Label.isForbidden (digit n) = false := by
  have hall : ∀ n < 36, Label.isForbidden (digit n) = false := by decide
  exact hall n h

/-- A difference is written in digits. -/
theorem isPlainName_digits (bias fuel position q : Nat) :
    IsPlainName (digits bias fuel position q) := by
  induction fuel generalizing position q with
  | zero => exact List.forall_mem_nil _
  | succ fuel ih =>
      have hthreshold : threshold position bias ≤ 26 := Nat.min_le_left _ _
      have hbase : base = 36 := rfl
      rw [digits]
      split
      · rename_i hlast
        refine List.forall_mem_singleton.mpr (isForbidden_digit ?_)
        omega
      · refine List.forall_mem_cons.mpr ⟨isForbidden_digit ?_, ih _ _⟩
        have hrest : (q - threshold position bias) % (base - threshold position bias) <
            base - threshold position bias := Nat.mod_lt _ (by omega)
        omega

namespace Writer

theorem isPlainName_pass {w : Writer} (h : IsPlainName w.output) (plain n : Nat) (c : Char) :
    IsPlainName (w.pass plain n c).output := by
  unfold pass
  split
  · exact h
  · split
    · exact h.append (isPlainName_digits _ _ _ _)
    · exact h

/-- What is written while a label is passed are digits. -/
theorem isPlainName_foldl_pass (plain n : Nat) (label : List Char) {w : Writer}
    (h : IsPlainName w.output) : IsPlainName (label.foldl (pass plain n) w).output := by
  induction label generalizing w with
  | nil => exact h
  | cons c rest ih => exact ih (isPlainName_pass h plain n c)

/-- What is written for code points are digits. -/
theorem isPlainName_write (label : List Char) (plain n : Nat) (points : List Nat) {w : Writer}
    (h : IsPlainName w.output) : IsPlainName (write label plain n points w).output := by
  induction points generalizing n w with
  | nil => exact h
  | cons next rest ih =>
      rw [write]
      exact ih _ (isPlainName_foldl_pass plain next label h)

end Writer

/-- A label is written in its own ASCII characters, a hyphen and digits. -/
theorem isPlainName_encode {label : List Char} (h : IsPlainName label) :
    IsPlainName (encode label) := by
  rw [encode]
  refine IsPlainName.append (IsPlainName.append ?_ ?_) ?_
  · intro c hc
    exact h c (List.mem_filter.mp hc).1
  · split
    · exact List.forall_mem_nil _
    · exact List.forall_mem_singleton.mpr (by decide)
  · exact Writer.isPlainName_write label _ _ _ (List.forall_mem_nil _)

end Punycode

/-- The way a label is written. -/
theorem Label.isPlainName_written {characters : List Char} {label : Label}
    (h : ofFolded? characters = some label) : IsPlainName label.written := by
  have hmark : IsPlainName mark := by simp [IsPlainName, mark, isForbidden]
  unfold ofFolded? at h
  split at h
  · cases h
  · rename_i hany
    have hplain : IsPlainName characters := by
      intro c hc
      rw [← Bool.not_eq_true]
      exact fun hforbidden => hany (List.any_eq_true.mpr ⟨c, hc, hforbidden⟩)
    split at h
    · obtain ⟨decoded, -, h⟩ := Option.bind_eq_some_iff.mp h
      split at h
      · cases h
        exact hmark.append (fun c hc => hplain c (List.mem_of_mem_drop hc))
      · cases h
    · split at h
      · cases h
        exact hplain
      · split at h
        · cases h
          exact hmark.append (Punycode.isPlainName_encode hplain)
        · cases h

/-- What is read from a list is read from one of its members. -/
theorem exists_of_mem_mapM {α β : Type} {f : α → Option β} {inputs : List α} {outputs : List β}
    (h : inputs.mapM f = some outputs) {output : β} (hmem : output ∈ outputs) :
    ∃ input ∈ inputs, f input = some output := by
  induction inputs generalizing outputs with
  | nil =>
      cases h
      exact absurd hmem List.not_mem_nil
  | cons first rest ih =>
      rw [List.mapM_cons] at h
      obtain ⟨head, hhead, h⟩ := Option.bind_eq_some_iff.mp h
      obtain ⟨tail, htail, h⟩ := Option.bind_eq_some_iff.mp h
      cases h
      rcases List.mem_cons.mp hmem with rfl | hmem
      · exact ⟨first, List.mem_cons_self, hhead⟩
      · obtain ⟨input, hinput, hread⟩ := ih htail hmem
        exact ⟨input, List.mem_cons_of_mem first hinput, hread⟩

/-- No character of a name delimits other parts of an address. -/
theorem Domain.isPlainName_of_toAscii? {cs name : List Char} (h : toAscii? cs = some name) :
    IsPlainName name := by
  obtain ⟨folded, -, h⟩ := Option.bind_eq_some_iff.mp h
  obtain ⟨labels, hlabels, h⟩ := Option.bind_eq_some_iff.mp h
  split at h
  · cases h
    refine forall_mem_intercalate (by decide) ?_
    rw [List.forall_mem_map]
    intro label hlabel
    obtain ⟨characters, -, hread⟩ := exists_of_mem_mapM hlabels hlabel
    exact Label.isPlainName_written hread
  · cases h

end WebAuth
