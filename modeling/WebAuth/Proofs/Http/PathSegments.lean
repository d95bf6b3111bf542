import Mathlib.Data.List.DropRight
import WebAuth.Http.Matcher
import WebAuth.Url.Parser

/-!
# Paths as lists of segments

A path is the notation of a list of segments, each behind a slash; of a segment it is only known
that it has no slash.  A matcher for a path and what is below it compares texts, yet it selects
exactly the paths whose segments start with those of its pattern.

Main results:

- Theorem `Url.pathText_segmentsOf`: a path is the notation of its segments.
- Theorem `Url.pathText_append_iff`: what starts with the notation of a path and goes on with a
  new segment.
- Theorem `RequestMatcher.matchesPath_under_trans`: what is below a selected path is selected.
- Theorem `RequestMatcher.matchesPath_under_iff`: which paths are below a pattern.
-/

namespace WebAuth

open Text Http.RequestMatcher

namespace Url

/-! ## Segments and their notation -/

@[simp]
theorem toList_pathText_nil : (pathText []).toList = [] :=
  rfl

@[simp]
theorem toList_pathText_cons (segment : List Char) (rest : List (List Char)) :
    (pathText (segment :: rest)).toList = '/' :: (segment ++ (pathText rest).toList) := by
  simp [pathText]

@[simp]
theorem toList_pathText_append (first second : List (List Char)) :
    (pathText (first ++ second)).toList = (pathText first).toList ++ (pathText second).toList := by
  simp [pathText]

/-- The notation of a path is empty or starts with a slash. -/
theorem startsSegment_pathText (segments : List (List Char)) :
    startsSegment (pathText segments).toList = true := by
  cases segments with
  | nil => rfl
  | cons segment rest =>
      rw [toList_pathText_cons]
      rfl

/-- Segments behind slashes are segments between slashes behind one slash. -/
theorem toList_pathText_eq_cons {segments : List (List Char)} (h : segments ≠ []) :
    (pathText segments).toList = '/' :: ['/'].intercalate segments := by
  induction segments with
  | nil => exact absurd rfl h
  | cons segment rest ih =>
      cases rest with
      | nil => simp
      | cons next rest =>
          rw [toList_pathText_cons, ih (by simp), List.intercalate_cons_cons, List.append_assoc,
            List.singleton_append]

/-- What stands between separators has none. -/
theorem notMem_of_mem_splitOn {c : Char} {cs piece : List Char} (h : piece ∈ cs.splitOn c) :
    c ∉ piece := by
  induction cs generalizing piece with
  | nil =>
      obtain rfl := List.mem_singleton.mp (List.splitOn_nil c ▸ h)
      exact List.not_mem_nil
  | cons d rest ih =>
      rw [List.splitOn_cons_eq_if_modifyHead] at h
      split at h
      · rcases List.mem_cons.mp h with rfl | h
        · exact List.not_mem_nil
        · exact ih h
      · rename_i hne
        obtain ⟨first, others, hpieces⟩ := List.exists_cons_of_ne_nil (List.splitOn_ne_nil c rest)
        rw [hpieces, List.modifyHead_cons] at h
        rw [hpieces] at ih
        rcases List.mem_cons.mp h with rfl | h
        · have hfirst := ih List.mem_cons_self
          simp only [beq_iff_eq] at hne
          simp [hfirst, Ne.symm hne]
        · exact ih (List.mem_cons_of_mem first h)

/-- Segments have no slashes. -/
theorem slash_notMem_of_mem_segmentsOf {path : String} {segment : List Char}
    (h : segment ∈ segmentsOf path) : '/' ∉ segment := by
  unfold segmentsOf at h
  split at h
  · rename_i first segments hsplit
    exact notMem_of_mem_splitOn (hsplit ▸ List.mem_cons_of_mem first h)
  · exact absurd h List.not_mem_nil

/-- A path is the notation of its segments. -/
theorem pathText_segmentsOf {path : String} (h : startsSegment path.toList = true) :
    pathText (segmentsOf path) = path := by
  rw [← String.toList_inj, segmentsOf]
  cases hpath : path.toList with
  | nil => rfl
  | cons c rest =>
      rw [hpath] at h
      obtain rfl : c = '/' := of_decide_eq_true h
      rw [List.splitOn_cons_eq_if_modifyHead]
      simp only [beq_self_eq_true, if_true]
      rw [toList_pathText_eq_cons (List.splitOn_ne_nil _ _), List.intercalate_splitOn]

/-! ## Notations of more segments -/

/-- The end of a segment is where a new one starts. -/
theorem append_inj_of_startsSegment {segment other rest left : List Char}
    (hsegment : '/' ∉ segment) (hother : '/' ∉ other) (hrest : startsSegment rest = true)
    (hleft : startsSegment left = true) (h : segment ++ rest = other ++ left) :
    segment = other ∧ rest = left := by
  have hbehind {cs : List Char} (hcs : startsSegment cs = true) :
      cs.head?.all (fun c => c = '/') = true := by
    cases cs with
    | nil => rfl
    | cons c cs => exact hcs
  exact append_inj_of_notMem hsegment hother (hbehind hrest) (hbehind hleft) h

/-- What starts with the notation of a path and goes on with a new segment, or ends there, is the
notation of a path with more segments. -/
theorem pathText_append_iff {segments others : List (List Char)}
    (hsegments : ∀ s ∈ segments, '/' ∉ s) (hothers : ∀ s ∈ others, '/' ∉ s) :
    (∃ rest, (pathText others).toList = (pathText segments).toList ++ rest ∧
        startsSegment rest = true) ↔ segments <+: others := by
  constructor
  · rintro ⟨rest, heq, hrest⟩
    induction segments generalizing others with
    | nil => exact List.nil_prefix
    | cons segment segments ih =>
        cases others with
        | nil => simp at heq
        | cons other others =>
            rw [List.forall_mem_cons] at hsegments hothers
            simp only [toList_pathText_cons, List.cons_append, List.append_assoc,
              List.cons.injEq, true_and] at heq
            have hafter : startsSegment ((pathText segments).toList ++ rest) = true := by
              cases segments with
              | nil => exact hrest
              | cons next segments =>
                  rw [toList_pathText_cons]
                  rfl
            obtain ⟨rfl, hothers'⟩ := append_inj_of_startsSegment hothers.1 hsegments.1
              (startsSegment_pathText others) hafter heq
            exact List.cons_prefix_cons.mpr ⟨rfl, ih hsegments.2 hothers.2 hothers'⟩
  · rintro ⟨more, rfl⟩
    exact ⟨(pathText more).toList, toList_pathText_append segments more,
      startsSegment_pathText more⟩

end Url

namespace Http.RequestMatcher

open Url

/-! ## Patterns -/

/-- A path without the slashes at its end. -/
def withoutEndSlashes (path : String) : String :=
  String.ofList (path.toList.rdropWhile (· = '/'))

theorem toList_withoutEndSlashes (path : String) :
    (withoutEndSlashes path).toList = path.toList.rdropWhile (· = '/') :=
  String.toList_ofList

/-- Some slashes. -/
def slashes (n : Nat) : String := String.ofList (List.replicate n '/')

variable {pattern below path : String}

/-- A path is selected if it goes on with a new segment where the pattern without the slashes at
its end is over. -/
theorem matchesPath_under_iff_append :
    (under pattern).matchesPath path = true ↔
      ∃ rest, path.toList = (withoutEndSlashes pattern).toList ++ rest ∧
        startsSegment rest = true := by
  have hpattern : dropEndWhile (· = '/') pattern.toList = (withoutEndSlashes pattern).toList :=
    (toList_withoutEndSlashes pattern).symm
  rw [matchesPath, hpattern]
  cases hdrop : dropStart? (withoutEndSlashes pattern).toList path.toList with
  | none =>
      refine iff_of_false Bool.false_ne_true ?_
      rintro ⟨rest, hrest, -⟩
      rw [dropStart?_eq_some_iff.mpr hrest] at hdrop
      cases hdrop
  | some rest =>
      rw [dropStart?_eq_some_iff] at hdrop
      constructor
      · intro hrest
        exact ⟨rest, hdrop, hrest⟩
      · rintro ⟨other, hother, hstarts⟩
        obtain rfl := List.append_cancel_left (hdrop.symm.trans hother)
        exact hstarts

/-- Slashes at the end are dropped. -/
theorem withoutEndSlashes_append_slashes (path : String) (n : Nat) :
    withoutEndSlashes (path ++ slashes n) = withoutEndSlashes path := by
  unfold withoutEndSlashes slashes
  rw [String.toList_append, String.toList_ofList]
  congr 1
  apply dropEndWhile_append_of_all
  intro c hc
  simp [List.eq_of_mem_replicate hc]

/-- A text that is empty or starts a new segment still does without some end of it. -/
theorem startsSegment_rdropWhile {p : Char → Bool} {cs : List Char}
    (h : startsSegment cs = true) : startsSegment (cs.rdropWhile p) = true := by
  obtain ⟨rest, hrest⟩ := List.rdropWhile_prefix p cs
  rw [← hrest] at h
  cases hkept : cs.rdropWhile p with
  | nil => rfl
  | cons c kept =>
      rw [hkept] at h
      exact h

theorem startsSegment_withoutEndSlashes (h : startsSegment path.toList = true) :
    startsSegment (withoutEndSlashes path).toList = true := by
  rw [toList_withoutEndSlashes]
  exact startsSegment_rdropWhile h

/-- Slashes at the end of a text do not reach into a text before it that ends without them. -/
theorem rdropWhile_append_of_kept {p : Char → Bool} {kept : List Char}
    (h : kept.rdropWhile p = kept) (rest : List Char) :
    (kept ++ rest).rdropWhile p = kept ++ rest.rdropWhile p := by
  have hreverse : kept.reverse.dropWhile p = kept.reverse := by
    rw [← List.reverse_inj, List.reverse_reverse]
    exact h
  rw [List.rdropWhile, List.reverse_append, List.dropWhile_append]
  split
  · rename_i hempty
    have hrest : rest.reverse.dropWhile p = [] := by simpa using hempty
    rw [hreverse, List.reverse_reverse, List.rdropWhile, hrest, List.reverse_nil,
      List.append_nil]
  · rw [List.reverse_append, List.reverse_reverse, List.rdropWhile]

/-- What is below a path that is selected is selected. -/
theorem matchesPath_under_trans (hbelow : (under pattern).matchesPath below = true)
    (hpath : (under below).matchesPath path = true) :
    (under pattern).matchesPath path = true := by
  rw [matchesPath_under_iff_append] at hbelow hpath ⊢
  obtain ⟨rest, hbelow, hrest⟩ := hbelow
  obtain ⟨left, hpath, hleft⟩ := hpath
  have hkept : (withoutEndSlashes pattern).toList.rdropWhile (· = '/') =
      (withoutEndSlashes pattern).toList := by
    rw [toList_withoutEndSlashes]
    exact List.rdropWhile_idempotent _ _
  have hsplit : (withoutEndSlashes below).toList =
      (withoutEndSlashes pattern).toList ++ rest.rdropWhile (· = '/') := by
    rw [toList_withoutEndSlashes, hbelow, rdropWhile_append_of_kept hkept]
  refine ⟨rest.rdropWhile (· = '/') ++ left, ?_, ?_⟩
  · rw [hpath, hsplit, List.append_assoc]
  · have hstarts := startsSegment_rdropWhile (p := (· = '/')) hrest
    cases hmiddle : rest.rdropWhile (· = '/') with
    | nil => exact hleft
    | cons c middle =>
        rw [hmiddle] at hstarts
        exact hstarts

/-- A path is below a pattern exactly if its segments start with those of the pattern without the
slashes at its end.  Such slashes do not matter, and what is below a path that is selected is
selected. -/
theorem matchesPath_under_iff (hpattern : startsSegment pattern.toList = true) :
    (∀ path : String, startsSegment path.toList = true →
        ((under pattern).matchesPath path = true ↔
          segmentsOf (withoutEndSlashes pattern) <+: segmentsOf path)) ∧
      (∀ n, (under (pattern ++ slashes n)).matchesPath = (under pattern).matchesPath) ∧
      ∀ below, (under pattern).matchesPath below = true →
        ∀ path, (under below).matchesPath path = true →
          (under pattern).matchesPath path = true := by
  refine ⟨?_, ?_, fun below hbelow path hpath => matchesPath_under_trans hbelow hpath⟩
  · intro path hpath
    have hkept := startsSegment_withoutEndSlashes hpattern
    rw [matchesPath_under_iff_append, ← pathText_append_iff
      (fun _ => slash_notMem_of_mem_segmentsOf) (fun _ => slash_notMem_of_mem_segmentsOf),
      pathText_segmentsOf hpath, pathText_segmentsOf hkept]
  · intro n
    funext path
    rw [Bool.eq_iff_iff, matchesPath_under_iff_append, matchesPath_under_iff_append,
      withoutEndSlashes_append_slashes]

/-- A pattern with an empty segment between two others and a slash at its end. -/
theorem matchesPath_under_iff_emptySegment :
    startsSegment "/api//v1/".toList = true ∧
      segmentsOf (withoutEndSlashes "/api//v1/") = ["api".toList, [], "v1".toList] ∧
      segmentsOf "/api//v1/users/" = ["api".toList, [], "v1".toList, "users".toList, []] ∧
      (under "/api//v1/").matchesPath "/api//v1/users/" = true ∧
      segmentsOf "/api/v1" = ["api".toList, "v1".toList] ∧
      (under "/api//v1/").matchesPath "/api/v1" = false ∧
      (under ("/api//v1/" ++ slashes 2)).matchesPath "/api//v1/users/" = true ∧
      (under "/api//v1/users/").matchesPath "/api//v1/users/7" = true ∧
      (under "/api//v1/").matchesPath "/api//v1/users/7" = true := by
  have hpattern : startsSegment "/api//v1/".toList = true := by decide
  obtain ⟨hselects, hslashes, hdown⟩ := matchesPath_under_iff hpattern
  have hkept : segmentsOf (withoutEndSlashes "/api//v1/") =
      ["api".toList, [], "v1".toList] := by decide +kernel
  have husers : segmentsOf "/api//v1/users/" =
      ["api".toList, [], "v1".toList, "users".toList, []] := by decide +kernel
  have hother : segmentsOf "/api/v1" = ["api".toList, "v1".toList] := by decide +kernel
  have hbelow : (under "/api//v1/").matchesPath "/api//v1/users/" = true := by
    rw [hselects _ (by decide), hkept, husers]
    decide
  have hdeeper : (under "/api//v1/users/").matchesPath "/api//v1/users/7" = true := by
    decide +kernel
  refine ⟨hpattern, hkept, husers, hbelow, hother, ?_, ?_, hdeeper, hdown _ hbelow _ hdeeper⟩
  · rw [← Bool.not_eq_true, hselects _ (by decide), hkept, hother]
    decide
  · rw [hslashes]
    exact hbelow

end Http.RequestMatcher

end WebAuth
