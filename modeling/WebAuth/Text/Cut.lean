import WebAuth.Text.Blank

/-!
# Cutting texts

Cutting a text at the first occurrence of a character, and dropping a text that
another one starts with.

Main results:

* `cutAt?_eq_some_iff`: the text before the first occurrence is cut off whole;
* `dropStart?_eq_some_iff`: what is left after a start is dropped;
* `append_inj_of_class`: the place before the first member of a class is determined;
* `forall_mem_intercalate`, `intercalate_append`: pieces joined by a separator.
-/

namespace WebAuth.Text

/-- The parts before and after the first occurrence of `c`. -/
def cutAt? (c : Char) : List Char → Option (List Char × List Char)
  | [] => none
  | d :: rest =>
      if d = c then some ([], rest)
      else (cutAt? c rest).map (fun (before, after) => (d :: before, after))

/-- What follows `start` in a text that begins with it. -/
def dropStart? : List Char → List Char → Option (List Char)
  | [], cs => some cs
  | _ :: _, [] => none
  | s :: start, c :: cs => if s = c then dropStart? start cs else none

/-- A text without the character is cut off whole. -/
theorem cutAt?_append {c : Char} {before : List Char} (h : c ∉ before)
    (after : List Char) : cutAt? c (before ++ c :: after) = some (before, after) := by
  induction before with
  | nil => simp [cutAt?]
  | cons d rest ih =>
      have hd : d ≠ c := fun heq => h (by simp [heq])
      have hrest : c ∉ rest := fun hmem => h (List.mem_cons_of_mem d hmem)
      simp [cutAt?, hd, ih hrest]

/-- A text is cut at the first occurrence. -/
theorem cutAt?_eq_some_iff {c : Char} {cs before after : List Char} :
    cutAt? c cs = some (before, after) ↔ c ∉ before ∧ cs = before ++ c :: after := by
  constructor
  · intro h
    induction cs generalizing before with
    | nil => cases h
    | cons d rest ih =>
        rw [cutAt?] at h
        split at h
        · rename_i hd
          cases h
          exact ⟨List.not_mem_nil, by rw [hd]; rfl⟩
        · rename_i hd
          obtain ⟨⟨start, left⟩, hrest, heq⟩ := Option.map_eq_some_iff.mp h
          cases heq
          obtain ⟨hnot, rfl⟩ := ih hrest
          exact ⟨fun hmem => (List.mem_cons.mp hmem).elim (fun heq => hd heq.symm) hnot, rfl⟩
  · rintro ⟨hnot, rfl⟩
    exact cutAt?_append hnot after

/-- A text without the character is not cut. -/
theorem cutAt?_eq_none {c : Char} {cs : List Char} (h : c ∉ cs) : cutAt? c cs = none := by
  induction cs with
  | nil => rfl
  | cons d rest ih =>
      have hd : d ≠ c := fun heq => h (by simp [heq])
      have hrest : c ∉ rest := fun hmem => h (List.mem_cons_of_mem d hmem)
      simp [cutAt?, hd, ih hrest]

/-- What is left is what stands after the start. -/
theorem dropStart?_eq_some_iff {start cs rest : List Char} :
    dropStart? start cs = some rest ↔ cs = start ++ rest := by
  induction start generalizing cs with
  | nil => simp [dropStart?]
  | cons s start ih =>
      cases cs with
      | nil => simp [dropStart?]
      | cons c cs =>
          by_cases heq : s = c
          · subst heq
            simp [dropStart?, ih]
          · have hne : ¬ c = s := fun h => heq h.symm
            simp [dropStart?, heq, hne]

/-! ## Cutting before a class -/

variable {α : Type} {p : α → Bool}

/-- What stands before the first member of a class is kept. -/
theorem takeWhile_append_of_class {before after : List α}
    (hbefore : ∀ c ∈ before, p c = false) (hafter : after.head?.all p = true) :
    (before ++ after).takeWhile (fun c => !p c) = before := by
  have hkeep : ∀ c ∈ before, (!p c) = true := fun c hc => by rw [hbefore c hc]; rfl
  rw [List.takeWhile_append_of_pos hkeep]
  cases after with
  | nil => simp
  | cons c after =>
      have hc : p c = true := hafter
      simp [hc]

/-- What is left behind the first members of a class does not start with one. -/
theorem head?_drop_takeWhile (p : α → Bool) (cs : List α) :
    (cs.drop (cs.takeWhile p).length).head?.all (fun c => !p c) = true := by
  induction cs with
  | nil => rfl
  | cons c rest ih =>
      cases hc : p c with
      | true => simpa [List.takeWhile_cons, hc] using ih
      | false => simp [hc]

/-- Two lists that are the same are cut at the same place before the first member of a class. -/
theorem append_inj_of_class {before before' after after' : List α}
    (hbefore : ∀ c ∈ before, p c = false) (hbefore' : ∀ c ∈ before', p c = false)
    (hafter : after.head?.all p = true) (hafter' : after'.head?.all p = true)
    (h : before ++ after = before' ++ after') : before = before' ∧ after = after' := by
  have hsame : before = before' := by
    rw [← takeWhile_append_of_class hbefore hafter, h, takeWhile_append_of_class hbefore' hafter']
  exact ⟨hsame, List.append_cancel_left (hsame ▸ h)⟩

/-- Two lists that are the same are cut at the same place before the first occurrence of a
member. -/
theorem append_inj_of_notMem [DecidableEq α] {x : α} {before before' after after' : List α}
    (hbefore : x ∉ before) (hbefore' : x ∉ before')
    (hafter : after.head?.all (fun c => c = x) = true)
    (hafter' : after'.head?.all (fun c => c = x) = true)
    (h : before ++ after = before' ++ after') : before = before' ∧ after = after' := by
  have hclass {cs : List α} (hcs : x ∉ cs) : ∀ c ∈ cs, decide (c = x) = false := by
    rintro c hc
    rw [decide_eq_false_iff_not]
    rintro rfl
    exact hcs hc
  exact append_inj_of_class (hclass hbefore) (hclass hbefore') hafter hafter' h

/-! ## Pieces between separators -/

/-- What holds of the separator and of the pieces holds of them joined. -/
theorem forall_mem_intercalate {P : α → Prop} {separator : α} {pieces : List (List α)}
    (hseparator : P separator) (h : ∀ piece ∈ pieces, ∀ c ∈ piece, P c) :
    ∀ c ∈ [separator].intercalate pieces, P c := by
  induction pieces with
  | nil => exact List.forall_mem_nil _
  | cons piece rest ih =>
      obtain ⟨hpiece, hrest⟩ := List.forall_mem_cons.mp h
      cases rest with
      | nil => simpa using hpiece
      | cons next rest =>
          rw [List.intercalate_cons_cons, List.append_assoc]
          exact List.forall_mem_append.mpr
            ⟨hpiece, List.forall_mem_cons.mpr ⟨hseparator, ih hrest⟩⟩

/-- Two rows of pieces are joined by one more separator. -/
theorem intercalate_append (separator : α) {first second : List (List α)} (hfirst : first ≠ [])
    (hsecond : second ≠ []) :
    [separator].intercalate (first ++ second) =
      [separator].intercalate first ++ separator :: [separator].intercalate second := by
  induction first with
  | nil => exact absurd rfl hfirst
  | cons piece rest ih =>
      cases rest with
      | nil =>
          obtain ⟨next, others, rfl⟩ := List.exists_cons_of_ne_nil hsecond
          simp
      | cons next rest =>
          rw [List.cons_append, List.cons_append, List.intercalate_cons_cons,
            List.intercalate_cons_cons, ← List.cons_append, ih (List.cons_ne_nil _ _)]
          simp

end WebAuth.Text
