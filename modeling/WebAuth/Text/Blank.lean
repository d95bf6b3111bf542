/-!
# Blanks

The characters with the Unicode property `White_Space`, and what is done with
them at the ends of a text and between its words.

Main results:

* `trim_append_blanks`, `trim_blanks_append`: blanks around a text do not matter;
* `exists_blanks_trim`: nothing else is dropped from a text;
* `trim_eq_self`: a text without blanks is left as it is.
-/

namespace WebAuth.Text

/-- The characters with the Unicode property `White_Space`. -/
def isBlank (c : Char) : Bool :=
  let n := c.toNat
  (9 ≤ n && n ≤ 13) || n == 0x20 || n == 0x85 || n == 0xa0 || n == 0x1680 ||
    (0x2000 ≤ n && n ≤ 0x200a) || n == 0x2028 || n == 0x2029 || n == 0x202f ||
    n == 0x205f || n == 0x3000

/-- Drop the characters in `p` at the end. -/
def dropEndWhile (p : Char → Bool) (cs : List Char) : List Char :=
  (cs.reverse.dropWhile p).reverse

/-- Drop the blanks at both ends. -/
def trim (cs : List Char) : List Char :=
  dropEndWhile isBlank (cs.dropWhile isBlank)

/-- Cut at every blank and keep the pieces that are not empty. -/
def words (cs : List Char) : List (List Char) :=
  (cs.splitOnP isBlank).filter (fun w => !w.isEmpty)

/-! ## Laws -/

@[simp]
theorem dropEndWhile_nil (p : Char → Bool) : dropEndWhile p [] = [] :=
  rfl

theorem dropEndWhile_append_of_all {p : Char → Bool} (cs : List Char) {bs : List Char}
    (h : ∀ b ∈ bs, p b = true) : dropEndWhile p (cs ++ bs) = dropEndWhile p cs := by
  have hall : ∀ b ∈ bs.reverse, p b = true := fun b hb => h b (List.mem_reverse.mp hb)
  rw [dropEndWhile, List.reverse_append, List.dropWhile_append_of_pos hall]
  rfl

/-- What is dropped at the end stands there. -/
theorem exists_eq_dropEndWhile_append (p : Char → Bool) (cs : List Char) :
    ∃ bs, (∀ b ∈ bs, p b = true) ∧ cs = dropEndWhile p cs ++ bs := by
  refine ⟨(cs.reverse.takeWhile p).reverse, ?_, ?_⟩
  · intro b hb
    exact List.all_eq_true.mp List.all_takeWhile b (List.mem_reverse.mp hb)
  · rw [dropEndWhile, ← List.reverse_append, List.takeWhile_append_dropWhile,
      List.reverse_reverse]

/-- What is kept does not end in what is dropped. -/
theorem getLast?_dropEndWhile (p : Char → Bool) (cs : List Char) :
    (dropEndWhile p cs).getLast?.all (fun c => !p c) = true := by
  rw [dropEndWhile, List.getLast?_reverse]
  have hhead := List.head?_dropWhile_not p cs.reverse
  cases hkept : (cs.reverse.dropWhile p).head? with
  | none => rfl
  | some c =>
      rw [hkept] at hhead
      simp only [Option.all_some, hhead, Bool.not_false]

/-- A character that is kept keeps its place before all that follows it. -/
theorem dropEndWhile_cons {p : Char → Bool} {c : Char} (h : p c = false) (cs : List Char) :
    dropEndWhile p (c :: cs) = c :: dropEndWhile p cs := by
  rw [dropEndWhile, List.reverse_cons, List.dropWhile_append]
  split
  · rename_i hempty
    have hrest : cs.reverse.dropWhile p = [] := by simpa using hempty
    simp [dropEndWhile, hrest, h]
  · simp [dropEndWhile]

/-- Blanks after a text do not matter. -/
theorem trim_append_blanks (cs : List Char) {bs : List Char}
    (h : ∀ b ∈ bs, isBlank b = true) : trim (cs ++ bs) = trim cs := by
  rw [trim, trim, List.dropWhile_append]
  split
  · rename_i hempty
    have hcs : cs.dropWhile isBlank = [] := by simpa using hempty
    have hbs : bs.dropWhile isBlank = [] := by
      simpa using @List.dropWhile_append_of_pos _ _ bs [] h
    rw [hcs, hbs]
  · exact dropEndWhile_append_of_all _ h

/-- Blanks before a text do not matter. -/
theorem trim_blanks_append {bs : List Char} (cs : List Char)
    (h : ∀ b ∈ bs, isBlank b = true) : trim (bs ++ cs) = trim cs := by
  rw [trim, trim, List.dropWhile_append_of_pos h]

/-- A text is what is left of it with blanks around it. -/
theorem exists_blanks_trim (cs : List Char) :
    ∃ before after, (∀ b ∈ before, isBlank b = true) ∧ (∀ b ∈ after, isBlank b = true) ∧
      cs = before ++ (trim cs ++ after) := by
  obtain ⟨after, hafter, hend⟩ := exists_eq_dropEndWhile_append isBlank (cs.dropWhile isBlank)
  refine ⟨cs.takeWhile isBlank, after, ?_, hafter, ?_⟩
  · exact List.all_eq_true.mp List.all_takeWhile
  · rw [trim, ← hend, List.takeWhile_append_dropWhile]

/-- A text without blanks is left as it is. -/
theorem trim_eq_self {cs : List Char} (h : ∀ c ∈ cs, isBlank c = false) : trim cs = cs := by
  have hkeep {ds : List Char} (hds : ∀ c ∈ ds, isBlank c = false) :
      ds.dropWhile isBlank = ds := by
    cases ds with
    | nil => rfl
    | cons d rest => simp [hds d List.mem_cons_self]
  have hreverse : ∀ c ∈ cs.reverse, isBlank c = false :=
    fun c hc => h c (List.mem_reverse.mp hc)
  rw [trim, dropEndWhile, hkeep h, hkeep hreverse, List.reverse_reverse]

end WebAuth.Text
