import WebAuth.Web.Authenticator
import WebAuth.Web.Rehearsal

/-!
# How policies relate

The answers of strategies are compared with what a policy makes of them.  If all strategies were
asked in turn, whatever they answer, there would be one answer for each; under a policy the
strategies are asked up to the first answer that decides, and that is the answer of the
authenticator.  The policies differ in which answers decide, and in what counts when none does.

Main results:

- Theorem `Authenticator.firstSuccess_eq`, `Authenticator.skipErrors_eq`,
  `Authenticator.allSuccess_eq`: which answer counts, and who is asked.
- Theorem `Authenticator.authenticate_answers`: the three policies side by side.
-/

namespace WebAuth.Web

/-! ## Answers -/

/-- What becomes of asking a strategy. -/
abbrev Answer : Type := Ending AccessError (Option Identity)

namespace Answer

/-- An identity has been found. -/
def isFound : Answer → Bool
  | .value (some _) => true
  | _ => false

/-- Nothing has been found. -/
def isNothing : Answer → Bool
  | .value none => true
  | _ => false

/-- The strategy has been refused. -/
def isRefused : Answer → Bool
  | .refused _ => true
  | _ => false

theorem isFound_iff {a : Answer} : a.isFound = true ↔ ∃ i, a = .value (some i) := by
  rcases a with ⟨_ | i⟩ | e | _ <;> simp [isFound]

end Answer

namespace Authenticator

variable {r : Request} {s : Strategy} {strategies : List Strategy} {w next : World} {a : Answer}

/-! ## Asking without choosing -/

/-- Ask some strategies one after another, whatever they answer. -/
def askAll (r : Request) : List Strategy → World → List Answer × World
  | [], w => ([], w)
  | s :: rest, w =>
      let asked := s.identify r w
      let others := askAll r rest asked.2
      (asked.1 :: others.1, others.2)

@[simp]
theorem askAll_nil (r : Request) (w : World) : askAll r [] w = ([], w) :=
  rfl

theorem askAll_cons (h : s.identify r w = (a, next)) (rest : List Strategy) :
    askAll r (s :: rest) w = (a :: (askAll r rest next).1, (askAll r rest next).2) := by
  rw [askAll, h]

/-- The strategies that are asked up to the first answer that decides. -/
def asked (decides : Answer → Bool) (r : Request) (strategies : List Strategy) (w : World) :
    List Strategy :=
  strategies.take ((askAll r strategies w).1.findIdx decides + 1)

/-- The first of the answers that decides, and the world in which nobody else has been asked. -/
def decided (decides : Answer → Bool) (otherwise : Answer) (r : Request)
    (strategies : List Strategy) (w : World) : Answer × World :=
  (((askAll r strategies w).1.find? decides).getD otherwise,
    (askAll r (asked decides r strategies w) w).2)

variable {decides : Answer → Bool}

@[simp]
theorem decided_nil (decides : Answer → Bool) (otherwise : Answer) (r : Request) (w : World) :
    decided decides otherwise r [] w = (otherwise, w) := by
  simp [decided, asked]

/-- After an answer that decides, nobody is asked. -/
theorem decided_cons_of_decides (h : s.identify r w = (a, next)) (ha : decides a = true)
    (otherwise : Answer) (rest : List Strategy) :
    decided decides otherwise r (s :: rest) w = (a, next) := by
  have hasked : asked decides r (s :: rest) w = [s] := by
    simp [asked, askAll_cons h, List.findIdx_cons, ha]
  rw [decided, hasked, askAll_cons h, askAll_cons h, List.find?_cons_of_pos ha]
  rfl

/-- After any other answer, the next strategy is asked. -/
theorem decided_cons_of_not (h : s.identify r w = (a, next)) (ha : decides a = false)
    (otherwise : Answer) (rest : List Strategy) :
    decided decides otherwise r (s :: rest) w = decided decides otherwise r rest next := by
  have hasked : asked decides r (s :: rest) w = s :: asked decides r rest next := by
    simp [asked, askAll_cons h, List.findIdx_cons, ha]
  rw [decided, hasked, askAll_cons h, askAll_cons h, List.find?_cons_of_neg (by simp [ha])]
  rfl

/-- Nobody is asked behind strategies with an answer that decides. -/
theorem decided_append (hdecides : ∃ a ∈ (askAll r strategies w).1, decides a = true)
    (otherwise : Answer) (more : List Strategy) :
    decided decides otherwise r (strategies ++ more) w =
      decided decides otherwise r strategies w := by
  induction strategies generalizing w with
  | nil => simp at hdecides
  | cons s rest ih =>
      rcases hs : s.identify r w with ⟨a, next⟩
      rw [List.cons_append]
      cases ha : decides a with
      | true => rw [decided_cons_of_decides hs ha, decided_cons_of_decides hs ha]
      | false =>
          rw [decided_cons_of_not hs ha, decided_cons_of_not hs ha]
          apply ih
          simpa [askAll_cons hs, ha] using hdecides

/-! ## Which answer counts -/

/-- The first answer other than nothing counts. -/
theorem firstSuccess_eq (r : Request) (strategies : List Strategy) (w : World) :
    firstSuccess r strategies w =
      decided (fun a => !a.isNothing) (.value none) r strategies w := by
  induction strategies generalizing w with
  | nil => simp [firstSuccess]
  | cons s rest ih =>
      rcases hs : s.identify r w with ⟨⟨_ | i⟩ | e | _, next⟩
      · rw [firstSuccess_cons hs, decided_cons_of_not hs rfl]
        exact ih next
      · rw [firstSuccess_cons hs, decided_cons_of_decides hs rfl]
      · rw [firstSuccess, Run.bind_refused hs, decided_cons_of_decides hs rfl]
      · rw [firstSuccess, Run.bind_aborted hs, decided_cons_of_decides hs rfl]

/-- The first answer other than nothing or a refusal counts. -/
theorem skipErrors_eq (r : Request) (strategies : List Strategy) (w : World) :
    skipErrors r strategies w =
      decided (fun a => !(a.isNothing || a.isRefused)) (.value none) r strategies w := by
  induction strategies generalizing w with
  | nil => simp [skipErrors]
  | cons s rest ih =>
      rcases hs : s.identify r w with ⟨⟨_ | i⟩ | e | _, next⟩
      · rw [skipErrors_cons hs, decided_cons_of_not hs rfl]
        exact ih next
      · rw [skipErrors_cons hs, decided_cons_of_decides hs rfl]
      · rw [skipErrors_cons_refused hs, decided_cons_of_not hs rfl]
        exact ih next
      · have hattempt : (s.identify r).attempt w =
            ((.aborted : Ending AccessError (Except AccessError (Option Identity))), next) := by
          simp [Run.attempt, hs]
        rw [skipErrors, Run.bind_aborted hattempt, decided_cons_of_decides hs rfl]

/-- The first answer other than an identity counts, and else the last one. -/
theorem allSuccess_eq (r : Request) (before : Option Identity) (strategies : List Strategy)
    (w : World) :
    allSuccess r before strategies w =
      decided (fun a => !a.isFound) ((askAll r strategies w).1.getLast?.getD (.value before)) r
        strategies w := by
  induction strategies generalizing before w with
  | nil => simp [allSuccess]
  | cons s rest ih =>
      rcases hs : s.identify r w with ⟨⟨_ | i⟩ | e | _, next⟩
      · rw [allSuccess_cons hs, decided_cons_of_decides hs rfl]
      · rw [allSuccess_cons hs, decided_cons_of_not hs rfl, askAll_cons hs, List.getLast?_cons,
          Option.getD_some]
        exact ih (some i) next
      · rw [allSuccess, Run.bind_refused hs, decided_cons_of_decides hs rfl]
      · rw [allSuccess, Run.bind_aborted hs, decided_cons_of_decides hs rfl]

/-- The identity that is found when every strategy finds one is the last one. -/
theorem isFound_allSuccess_iff (r : Request) (strategies : List Strategy) (w : World) :
    (Answer.isFound (allSuccess r none strategies w).1 = true ↔
        strategies ≠ [] ∧ ∀ a ∈ (askAll r strategies w).1, a.isFound = true) ∧
      (Answer.isFound (allSuccess r none strategies w).1 = true →
        (askAll r strategies w).1.getLast? = some (allSuccess r none strategies w).1) := by
  rw [allSuccess_eq, decided]
  cases strategies with
  | nil => simp [Answer.isFound]
  | cons s rest =>
      obtain ⟨answers, hanswers⟩ : ∃ answers, (askAll r (s :: rest) w).1 = answers := ⟨_, rfl⟩
      have hne : answers ≠ [] := by
        rw [← hanswers, askAll_cons rfl]
        exact List.cons_ne_nil _ _
      obtain ⟨last, hlast⟩ := Option.isSome_iff_exists.mp (List.getLast?_isSome.mpr hne)
      rw [hanswers, hlast]
      cases hfind : answers.find? (fun a => !a.isFound) with
      | none =>
          have hall : ∀ a ∈ answers, a.isFound = true := by
            simpa using List.find?_eq_none.mp hfind
          have hfound := hall last (List.mem_of_getLast? hlast)
          exact ⟨iff_of_true hfound ⟨List.cons_ne_nil s rest, hall⟩, fun _ => rfl⟩
      | some a =>
          have hnot : a.isFound = false := by simpa using List.find?_some hfind
          have hmem := List.mem_of_find?_eq_some hfind
          simp only [Option.getD_some, hnot, Bool.false_eq_true, false_iff, false_implies, and_true]
          rintro ⟨-, hall⟩
          rw [hall a hmem] at hnot
          cases hnot

/-! ## One policy after another -/

/-- Passing over errors finds what is found where they stop. -/
theorem skipErrors_of_firstSuccess {found : Option Identity} {left : World}
    (h : firstSuccess r strategies w = (.value found, left)) :
    skipErrors r strategies w = (.value found, left) := by
  induction strategies generalizing w with
  | nil => exact h
  | cons s rest ih =>
      rcases hs : s.identify r w with ⟨⟨_ | i⟩ | e | _, next⟩
      · rw [firstSuccess_cons hs] at h
        rw [skipErrors_cons hs]
        exact ih h
      · rw [firstSuccess_cons hs] at h
        rw [skipErrors_cons hs]
        exact h
      · rw [firstSuccess, Run.bind_refused hs] at h
        cases h
      · rw [firstSuccess, Run.bind_aborted hs] at h
        cases h

/-- Where every strategy finds an identity, the first one is asked alone under the other
policies. -/
theorem others_of_isFound_allSuccess
    (h : Answer.isFound (allSuccess r none strategies w).1 = true) :
    ∃ s rest, strategies = s :: rest ∧ Answer.isFound (s.identify r w).1 = true ∧
      firstSuccess r strategies w = s.identify r w ∧
      skipErrors r strategies w = s.identify r w := by
  obtain ⟨hne, hall⟩ := (isFound_allSuccess_iff r strategies w).1.mp h
  obtain ⟨s, rest, rfl⟩ := List.exists_cons_of_ne_nil hne
  have hfirst : Answer.isFound (s.identify r w).1 = true :=
    hall _ (by rw [askAll_cons rfl]; exact List.mem_cons_self)
  obtain ⟨i, hi⟩ := Answer.isFound_iff.mp hfirst
  have hs : s.identify r w = (.value (some i), (s.identify r w).2) := Prod.ext hi rfl
  refine ⟨s, rest, rfl, hfirst, ?_, ?_⟩
  · rw [firstSuccess_cons hs]
    exact hs.symm
  · rw [skipErrors_cons hs]
    exact hs.symm

/-- What counts of the answers of some strategies that are asked in turn: the first one other than
nothing; the first one other than nothing or a refusal; or, if every strategy has to find an
identity, the first one that is none and else the last one.  Nobody is asked behind the answer that
decides.  So what is found where errors stop is found where they are passed over, what is found by
every strategy is found first by the first one, and strategies behind one that finds an identity do
not matter unless every strategy has to. -/
theorem authenticate_answers (r : Request) (strategies : List Strategy) (w : World) :
    let answers := (askAll r strategies w).1
    let first := (⟨.firstSuccess, strategies⟩ : Authenticator).authenticate r w
    let skipping := (⟨.skipErrors, strategies⟩ : Authenticator).authenticate r w
    let all := (⟨.allSuccess, strategies⟩ : Authenticator).authenticate r w
    first = decided (fun a => !a.isNothing) (.value none) r strategies w ∧
      skipping = decided (fun a => !(a.isNothing || a.isRefused)) (.value none) r strategies w ∧
      (∀ e, skipping.1 ≠ .refused e) ∧
      all = decided (fun a => !a.isFound) (answers.getLast?.getD (.value none)) r strategies w ∧
      (Answer.isFound all.1 = true ↔ strategies ≠ [] ∧ ∀ a ∈ answers, a.isFound = true) ∧
      (Answer.isFound all.1 = true → answers.getLast? = some all.1) ∧
      (∀ found left, first = (.value found, left) → skipping = (.value found, left)) ∧
      (Answer.isFound all.1 = true → ∃ s rest, strategies = s :: rest ∧
        Answer.isFound (s.identify r w).1 = true ∧ first = s.identify r w ∧
        skipping = s.identify r w) ∧
      ((∃ a ∈ answers, a.isFound = true) → ∀ more : List Strategy,
        (⟨.firstSuccess, strategies ++ more⟩ : Authenticator).authenticate r w = first ∧
          (⟨.skipErrors, strategies ++ more⟩ : Authenticator).authenticate r w = skipping) := by
  intro answers first skipping all
  have hskipping : skipping =
      decided (fun a => !(a.isNothing || a.isRefused)) (.value none) r strategies w :=
    skipErrors_eq r strategies w
  obtain ⟨hfound, hlast⟩ := isFound_allSuccess_iff r strategies w
  refine ⟨firstSuccess_eq r strategies w, hskipping, ?_, allSuccess_eq r none strategies w, hfound,
    hlast, fun found left => skipErrors_of_firstSuccess, others_of_isFound_allSuccess, ?_⟩
  · intro e he
    rw [hskipping, decided] at he
    cases hfind : answers.find? (fun a => !(a.isNothing || a.isRefused)) with
    | none =>
        rw [hfind] at he
        cases he
    | some a =>
        have hcounts := List.find?_some hfind
        rw [hfind] at he
        obtain rfl : a = .refused e := he
        cases hcounts
  · rintro ⟨a, hmem, ha⟩ more
    obtain ⟨i, rfl⟩ := Answer.isFound_iff.mp ha
    constructor
    · exact (firstSuccess_eq r (strategies ++ more) w).trans
        ((decided_append ⟨_, hmem, rfl⟩ _ more).trans (firstSuccess_eq r strategies w).symm)
    · exact (skipErrors_eq r (strategies ++ more) w).trans
        ((decided_append ⟨_, hmem, rfl⟩ _ more).trans (skipErrors_eq r strategies w).symm)

/-- A strategy that finds nothing. -/
def quiet : Strategy := .scripted "quiet" (.ok none)

/-- A strategy that is refused. -/
def broken : Strategy := .scripted "broken" (.error .invalidCredentials)

/-- A strategy that finds a user. -/
def finding (name : String) : Strategy :=
  .scripted name (.ok (some (Identity.ofSubject "idp" name)))

/-- Strategies of all kinds, of which the fourth is asked under no policy; and two that both find a
user. -/
theorem authenticate_answers_scripted :
    let r : Request := ⟨"GET", .origin "/", .empty, .empty⟩
    let w : World := .initial (.initial ⟨0, 0⟩ ⟨Nat.repr, 0⟩) .deserted ⟨fun _ => [], 0⟩
    let mixed := [quiet, broken, finding "alice", finding "bob"]
    let both := [finding "alice", finding "bob"]
    let ask (policy : Policy) (strategies : List Strategy) :=
      (⟨policy, strategies⟩ : Authenticator).authenticate r w
    let notes (answered : Answer × World) := answered.2.journal
    ((ask .firstSuccess mixed).1 = .refused .invalidCredentials ∧
        notes (ask .firstSuccess mixed) = ["fixed broken", "fixed quiet"]) ∧
      ((ask .skipErrors mixed).1 = .value (some (Identity.ofSubject "idp" "alice")) ∧
        notes (ask .skipErrors mixed) = ["fixed alice", "fixed broken", "fixed quiet"]) ∧
      ((ask .allSuccess mixed).1 = .value none ∧
        notes (ask .allSuccess mixed) = ["fixed quiet"]) ∧
      Answer.isFound (ask .allSuccess both).1 = true ∧
      (askAll r both w).1.getLast? = some (ask .allSuccess both).1 ∧
      (∃ s rest, both = s :: rest ∧ Answer.isFound (s.identify r w).1 = true ∧
        ask .firstSuccess both = s.identify r w ∧ ask .skipErrors both = s.identify r w) ∧
      (∃ a ∈ (askAll r both w).1, a.isFound = true) ∧
      ask .firstSuccess (both ++ [broken]) = ask .firstSuccess both := by
  intro r w mixed both ask notes
  obtain ⟨hfirst, hskipping, -, hall, -⟩ := authenticate_answers r mixed w
  obtain ⟨-, -, -, -, hfound, hlast, -, hothers, hmore⟩ := authenticate_answers r both w
  have hboth : Answer.isFound (ask .allSuccess both).1 = true :=
    hfound.mpr ⟨List.cons_ne_nil _ _, by decide +kernel⟩
  have hany : ∃ a ∈ (askAll r both w).1, a.isFound = true :=
    ⟨_, List.mem_cons_self, rfl⟩
  refine ⟨?_, ?_, ?_, hboth, hlast hboth, hothers hboth, hany, (hmore hany [broken]).1⟩
  · simp only [ask, notes, hfirst]
    decide +kernel
  · simp only [ask, notes, hskipping]
    decide +kernel
  · simp only [ask, notes, hall]
    decide +kernel

end Authenticator

end WebAuth.Web
