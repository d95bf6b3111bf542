import WebAuth.Proofs.Web.ForgeryGate
import WebAuth.Web.Configuration

/-!
# Which chain a request goes through

A pipeline is put together from chains that are registered with orders and from chains that
customizers add when the registered ones are in place.  Where a chain comes from decides when
it is tried: the registered chains come first, by their orders, then those of the customizers,
by the orders of these.  Among equal orders the earlier registration goes first.  A request
goes through the first chain that is for it, and through no other.

Main results:

- Theorem `Configuration.pairwise_numbered`: sorting keeps the order of registration among
  equal numbers.
- Theorem `Configuration.mem_offers`, `Configuration.pairwise_offers`: the chains of a pipeline
  in the order of their origins.
- Theorem `FilterChain.walks_runAll`: the filters of a chain run in order up to the first that
  does not let the request pass.
- Theorem `Configuration.filter_of_build`: what becomes of a request.
-/

namespace WebAuth.Web

open Http Text

/-! ## Sorting by a number -/

namespace Configuration

section Sorting

variable {α : Type} {order : α → Int} {items : List α}

/-- Items with their places of registration, in the order into which `inOrder` brings them. -/
def numbered (order : α → Int) (items : List α) : List (α × Nat) :=
  items.zipIdx.mergeSort (List.zipIdxLE (fun a b => order a ≤ order b))

theorem map_fst_numbered (order : α → Int) (items : List α) :
    (numbered order items).map Prod.fst = inOrder order items :=
  List.mergeSort_zipIdx

theorem mem_numbered {a : α} {n : Nat} : (a, n) ∈ numbered order items ↔ items[n]? = some a := by
  unfold numbered
  rw [List.mem_mergeSort, List.mk_mem_zipIdx_iff_getElem?]

/-- Sorting goes by the numbers and, where these are equal, by the places of registration. -/
theorem pairwise_numbered (order : α → Int) (items : List α) :
    (numbered order items).Pairwise (fun x y =>
      order x.1 < order y.1 ∨ order x.1 = order y.1 ∧ x.2 < y.2) := by
  have hsorted : (numbered order items).Pairwise (fun x y =>
      List.zipIdxLE (fun a b => order a ≤ order b) x y = true) := by
    apply List.pairwise_mergeSort
    · apply List.zipIdxLE_trans
      intro a b c hab hbc
      simp only [decide_eq_true_eq] at hab hbc ⊢
      omega
    · apply List.zipIdxLE_total
      intro a b
      simp only [Bool.or_eq_true, decide_eq_true_eq]
      omega
  have hplaces : (numbered order items).Pairwise (fun x y => x.2 ≠ y.2) := by
    rw [← List.pairwise_map (f := Prod.snd) (R := fun m n => m ≠ n)]
    have hperm : ((numbered order items).map Prod.snd).Perm (items.zipIdx.map Prod.snd) :=
      (List.mergeSort_perm _ _).map Prod.snd
    apply hperm.nodup_iff.mpr
    rw [List.zipIdx_map_snd]
    exact List.nodup_range'
  apply (hsorted.and hplaces).imp
  rintro x y ⟨hle, hne⟩
  simp only [List.zipIdxLE, decide_eq_true_eq] at hle
  split at hle
  · split at hle
    · simp only [decide_eq_true_eq] at hle
      omega
    · omega
  · simp at hle

/-- Sorted items have rising numbers. -/
theorem pairwise_inOrder (order : α → Int) (items : List α) :
    (inOrder order items).Pairwise (fun a b => order a ≤ order b) := by
  rw [← map_fst_numbered, List.pairwise_map]
  apply (pairwise_numbered order items).imp
  intro x y h
  omega

/-- Items of different numbers are brought into the same order wherever they stand. -/
theorem inOrder_eq_of_perm {others : List α} (hperm : others.Perm items)
    (hdistinct : (inOrder order items).Pairwise (fun a b => order a < order b)) :
    inOrder order others = inOrder order items := by
  have hsame : (inOrder order others).Perm (inOrder order items) :=
    (List.mergeSort_perm _ _).trans (hperm.trans (List.mergeSort_perm _ _).symm)
  have hne : (inOrder order others).Pairwise (fun a b => order a ≠ order b) := by
    apply (hsame.pairwise_iff (fun h => h.symm)).mpr
    exact hdistinct.imp (fun h => Int.ne_of_lt h)
  have hrising : (inOrder order others).Pairwise (fun a b => order a < order b) := by
    apply ((pairwise_inOrder order others).and hne).imp
    rintro a b ⟨hle, hne⟩
    omega
  apply List.Perm.eq_of_pairwise _ hrising hdistinct hsame
  intro a b _ _ hab hba
  omega

end Sorting

/-- Sorted configurers without a clash have different orders. -/
theorem pairwise_of_firstClash {configurers : List Configurer}
    (hsorted : configurers.Pairwise (fun a b => a.order ≤ b.order))
    (h : firstClash configurers = none) :
    configurers.Pairwise (fun a b => a.order < b.order) := by
  induction configurers with
  | nil => exact List.Pairwise.nil
  | cons a rest ih =>
      cases rest with
      | nil => simp
      | cons b rest =>
          by_cases hclash : a.order = b.order
          · simp [firstClash, hclash] at h
          · simp only [firstClash, hclash, if_false] at h
            rw [List.pairwise_cons] at hsorted
            have hrest := ih hsorted.2 h
            have hab : a.order < b.order := by
              have hle := hsorted.1 b List.mem_cons_self
              omega
            refine List.pairwise_cons.mpr ⟨?_, hrest⟩
            intro c hc
            rcases List.mem_cons.mp hc with rfl | hc
            · exact hab
            · have hbc := (List.pairwise_cons.mp hrest).1 c hc
              omega

/-! ## Where chains come from -/

/-- Where a chain comes from: it was registered, or a customizer adds it.  Registered chains and
customizers have an order and a place of registration, and a customizer makes its adjustments one
after another. -/
inductive Origin where
  | registered (order : Int) (number : Nat)
  | added (order : Int) (number place : Nat)
deriving DecidableEq, Repr

/-- Which of two chains is tried first. -/
def Origin.Before : Origin → Origin → Prop
  | registered order number, registered order' number' =>
      order < order' ∨ order = order' ∧ number < number'
  | registered _ _, added _ _ _ => True
  | added _ _ _, registered _ _ => False
  | added order number place, added order' number' place' =>
      order < order' ∨ order = order' ∧ (number < number' ∨ number = number' ∧ place < place')

theorem Origin.Before.asymm {a b : Origin} (h : a.Before b) : ¬b.Before a := by
  cases a with
  | registered order number =>
      cases b with
      | registered order' number' =>
          simp only [Before] at h ⊢
          omega
      | added order' number' place' => exact id
  | added order number place =>
      cases b with
      | registered order' number' => exact h.elim
      | added order' number' place' =>
          simp only [Before] at h ⊢
          omega

/-- The registered chains in the order of registration, those of configurers among them; the
default one if nothing is registered. -/
def registered (c : Configuration) : List FilterChain :=
  if c.configurers.isEmpty && c.chains.isEmpty then [Configurer.default.chain]
  else c.configurers.map Configurer.chain ++ c.chains

/-- A chain is registered, or a customizer adds it. -/
inductive Holds (c : Configuration) : Origin → FilterChain → Prop where
  | registered {number : Nat} {chain : FilterChain} (h : c.registered[number]? = some chain) :
      Holds c (.registered chain.order number) chain
  | added {number place : Nat} {z : Customizer} {chain : FilterChain}
      (hz : c.customizers[number]? = some z) (h : z.adjustments[place]? = some (.addChain chain)) :
      Holds c (.added z.order number place) chain

/-- The first chain for a request: every other chain for it is tried later. -/
def IsChosen (c : Configuration) (r : Request) (chain : FilterChain) : Prop :=
  ∃ origin, c.Holds origin chain ∧ chain.selects r = true ∧
    ∀ other chain', c.Holds other chain' → chain'.selects r = true →
      other = origin ∨ origin.Before other

/-- A customizer has the pipeline ignore a request. -/
def Ignores (c : Configuration) (r : Request) : Prop :=
  ∃ z ∈ c.customizers, ∃ matcher, .ignoring matcher ∈ z.adjustments ∧ r.isMatchedBy matcher = true

variable {c : Configuration} {p : Proxy}

/-- An origin is that of one chain. -/
theorem Holds.unique {origin : Origin} {chain chain' : FilterChain} (h : c.Holds origin chain)
    (h' : c.Holds origin chain') : chain = chain' := by
  cases h with
  | @registered number chain h =>
      generalize horigin : Origin.registered chain.order number = origin at h'
      cases h' with
      | registered h' =>
          obtain ⟨-, rfl⟩ := Origin.registered.inj horigin
          rw [h] at h'
          exact Option.some.inj h'
      | added hz' h' => cases horigin
  | @added number place z chain hz h =>
      generalize horigin : Origin.added z.order number place = origin at h'
      cases h' with
      | registered h' => cases horigin
      | added hz' h' =>
          obtain ⟨-, rfl, rfl⟩ := Origin.added.inj horigin
          rw [hz] at hz'
          cases hz'
          rw [h] at h'
          cases h'
          rfl

/-- There is only one first chain for a request. -/
theorem IsChosen.unique {r : Request} {chain chain' : FilterChain} (h : c.IsChosen r chain)
    (h' : c.IsChosen r chain') : chain = chain' := by
  obtain ⟨origin, hholds, hselects, hfirst⟩ := h
  obtain ⟨origin', hholds', hselects', hfirst'⟩ := h'
  rcases hfirst origin' chain' hholds' hselects' with rfl | hbefore
  · exact hholds.unique hholds'
  · rcases hfirst' origin chain hholds hselects with rfl | hafter
    · exact hholds.unique hholds'
    · exact absurd hafter hbefore.asymm

/-! ## Adjustments -/

end Configuration

namespace Adjustment

/-- The chain that an adjustment adds. -/
def added? : Adjustment → Option FilterChain
  | addChain chain => some chain
  | _ => none

/-- The matcher of requests that an adjustment has the pipeline ignore. -/
def ignored? : Adjustment → Option RequestMatcher
  | ignoring matcher => some matcher
  | _ => none

@[simp]
theorem added?_eq_some_iff {a : Adjustment} {chain : FilterChain} :
    a.added? = some chain ↔ a = .addChain chain := by
  cases a <;> simp [added?]

@[simp]
theorem ignored?_eq_some_iff {a : Adjustment} {matcher : RequestMatcher} :
    a.ignored? = some matcher ↔ a = .ignoring matcher := by
  cases a <;> simp [ignored?]

end Adjustment

/-- Adjustments add matchers and chains behind those of the pipeline, in their order. -/
theorem Proxy.foldl_adjust (p : Proxy) (adjustments : List Adjustment) :
    (adjustments.foldl Proxy.adjust p).ignored =
        p.ignored ++ adjustments.filterMap Adjustment.ignored? ∧
      (adjustments.foldl Proxy.adjust p).chains =
        p.chains ++ adjustments.filterMap Adjustment.added? := by
  induction adjustments generalizing p with
  | nil => simp
  | cons a rest ih =>
      rw [List.foldl_cons]
      obtain ⟨hignored, hchains⟩ := ih (p.adjust a)
      rw [hignored, hchains]
      cases a with
      | ignoring matcher =>
          simp [Proxy.adjust, List.filterMap_cons, Adjustment.ignored?, Adjustment.added?]
      | debug debug =>
          simp [Proxy.adjust, List.filterMap_cons, Adjustment.ignored?, Adjustment.added?]
      | addChain chain =>
          simp [Proxy.adjust, List.filterMap_cons, Adjustment.ignored?, Adjustment.added?]

namespace Configuration

variable {c : Configuration} {p : Proxy}

/-! ## The pipeline of a configuration -/

/-- A configuration can be put together if it has configurers or finished chains but not both,
and no two configurers of one order. -/
theorem build_eq_ok_iff : c.build = .ok p ↔
    (c.configurers = [] ∨ c.chains = []) ∧
      firstClash (inOrder Configurer.order c.configurers) = none ∧
        c.adjustments.foldl Proxy.adjust c.start = p := by
  unfold build
  by_cases hsources : c.configurers = [] ∨ c.chains = []
  · have hagree : (!c.configurers.isEmpty && !c.chains.isEmpty) = false := by
      rcases hsources with h | h <;> simp [h]
    rw [hagree]
    cases firstClash (inOrder Configurer.order c.configurers) with
    | none => simp [hsources]
    | some clash => simp
  · have hconflict : (!c.configurers.isEmpty && !c.chains.isEmpty) = true := by
      simpa using hsources
    simp [hconflict, hsources]

/-- The chains of a pipeline with their origins. -/
def offers (c : Configuration) : List (Origin × FilterChain) :=
  (numbered FilterChain.order c.registered).map
      (fun x => (Origin.registered x.1.order x.2, x.1)) ++
    (numbered Customizer.order c.customizers).flatMap (fun z =>
      z.1.adjustments.zipIdx.filterMap (fun a =>
        a.1.added?.map (fun chain => (Origin.added z.1.order z.2 a.2, chain))))

/-- The offers are the chains that the configuration holds. -/
theorem mem_offers {origin : Origin} {chain : FilterChain} :
    (origin, chain) ∈ c.offers ↔ c.Holds origin chain := by
  unfold offers
  rw [List.mem_append, List.mem_map, List.mem_flatMap]
  constructor
  · rintro (⟨⟨found, number⟩, hmem, heq⟩ | ⟨⟨z, number⟩, hz, hmem⟩)
    · cases heq
      exact .registered (mem_numbered.mp hmem)
    · obtain ⟨⟨a, place⟩, ha, heq⟩ := List.mem_filterMap.mp hmem
      obtain ⟨added, hadded, heq⟩ := Option.map_eq_some_iff.mp heq
      cases heq
      rw [Adjustment.added?_eq_some_iff] at hadded
      subst hadded
      exact .added (mem_numbered.mp hz) (List.mk_mem_zipIdx_iff_getElem?.mp ha)
  · intro h
    cases h with
    | registered h => exact Or.inl ⟨(chain, _), mem_numbered.mpr h, rfl⟩
    | @added number place z chain hz h =>
        refine Or.inr ⟨(z, number), mem_numbered.mpr hz, List.mem_filterMap.mpr ?_⟩
        exact ⟨(.addChain chain, place), List.mk_mem_zipIdx_iff_getElem?.mpr h, rfl⟩

/-- The offers stand in the order in which their chains are tried. -/
theorem pairwise_offers (c : Configuration) :
    c.offers.Pairwise (fun a b => a.1.Before b.1) := by
  unfold offers
  rw [List.pairwise_append]
  refine ⟨?_, ?_, ?_⟩
  · rw [List.pairwise_map]
    apply (pairwise_numbered FilterChain.order c.registered).imp
    intro x y h
    exact h
  · rw [List.pairwise_flatMap]
    constructor
    · intro z hz
      rw [List.pairwise_filterMap]
      have hplaces : z.1.adjustments.zipIdx.Pairwise (fun a b => a.2 < b.2) := by
        rw [← List.pairwise_map (f := Prod.snd) (R := fun m n => m < n), List.zipIdx_map_snd]
        exact List.pairwise_lt_range'
      apply hplaces.imp
      intro a b hlt x hx y hy
      obtain ⟨chain, -, rfl⟩ := Option.map_eq_some_iff.mp hx
      obtain ⟨chain', -, rfl⟩ := Option.map_eq_some_iff.mp hy
      exact Or.inr ⟨rfl, Or.inr ⟨rfl, hlt⟩⟩
    · apply (pairwise_numbered Customizer.order c.customizers).imp
      intro z z' h x hx y hy
      obtain ⟨a, -, hx⟩ := List.mem_filterMap.mp hx
      obtain ⟨b, -, hy⟩ := List.mem_filterMap.mp hy
      obtain ⟨chain, -, rfl⟩ := Option.map_eq_some_iff.mp hx
      obtain ⟨chain', -, rfl⟩ := Option.map_eq_some_iff.mp hy
      exact h.imp_right (fun h => ⟨h.1, Or.inl h.2⟩)
  · intro x hx y hy
    obtain ⟨found, -, rfl⟩ := List.mem_map.mp hx
    obtain ⟨z, -, hy⟩ := List.mem_flatMap.mp hy
    obtain ⟨b, -, hy⟩ := List.mem_filterMap.mp hy
    obtain ⟨chain', -, rfl⟩ := Option.map_eq_some_iff.mp hy
    exact trivial

/-- Before customizers adjust it, a pipeline has the registered chains in order, whether they
are finished or those of configurers. -/
theorem chains_start (hsources : c.configurers = [] ∨ c.chains = []) :
    c.start.chains = inOrder FilterChain.order c.registered := by
  change c.effectiveConfigurers.map Configurer.chain ++ inOrder FilterChain.order c.chains = _
  unfold effectiveConfigurers registered
  by_cases hnothing : (c.configurers.isEmpty && c.chains.isEmpty) = true
  · have hempty : c.chains = [] := by
      simp only [Bool.and_eq_true, List.isEmpty_iff] at hnothing
      exact hnothing.2
    rw [if_pos hnothing, if_pos hnothing, hempty]
    simp [inOrder]
  · rw [if_neg hnothing, if_neg hnothing]
    rcases hsources with hnone | hnone
    · simp [hnone, inOrder]
    · have hsame : (inOrder Configurer.order c.configurers).map Configurer.chain =
          inOrder FilterChain.order (c.configurers.map Configurer.chain) := by
        unfold inOrder
        apply List.map_mergeSort
        intro a _ b _
        rfl
      rw [hnone, hsame]
      simp [inOrder]

/-- The chains of a pipeline are those that are offered, in the order of their origins. -/
theorem chains_of_build (h : c.build = .ok p) : p.chains = c.offers.map Prod.snd := by
  obtain ⟨hsources, -, rfl⟩ := build_eq_ok_iff.mp h
  have hadded (z : Customizer × Nat) :
      (z.1.adjustments.zipIdx.filterMap (fun a =>
        a.1.added?.map (fun chain => (Origin.added z.1.order z.2 a.2, chain)))).map Prod.snd =
          z.1.adjustments.filterMap Adjustment.added? := by
    have hforget : z.1.adjustments.zipIdx.filterMap (Adjustment.added? ∘ Prod.fst) =
        z.1.adjustments.filterMap Adjustment.added? := by
      rw [← List.filterMap_map, List.zipIdx_map_fst]
    rw [← hforget, List.map_filterMap]
    congr 1
    funext a
    simp [Function.comp_def]
  unfold offers
  rw [(Proxy.foldl_adjust c.start c.adjustments).2, chains_start hsources, List.map_append,
    List.map_map, List.map_flatMap]
  congr 1
  · exact (map_fst_numbered FilterChain.order c.registered).symm
  · unfold adjustments
    rw [List.filterMap_flatMap, ← map_fst_numbered, List.flatMap_map]
    congr 1
    funext z
    exact (hadded z).symm

/-- A pipeline ignores what its customizers have it ignore. -/
theorem ignores_iff_of_build (h : c.build = .ok p) (r : Request) :
    p.ignores r = true ↔ c.Ignores r := by
  obtain ⟨-, -, rfl⟩ := build_eq_ok_iff.mp h
  have hnone : c.start.ignored = [] := rfl
  have hcustomizer (z : Customizer) :
      z ∈ inOrder Customizer.order c.customizers ↔ z ∈ c.customizers := by
    unfold inOrder
    exact List.mem_mergeSort
  unfold Proxy.ignores Ignores
  rw [(Proxy.foldl_adjust c.start c.adjustments).1, hnone, List.nil_append, List.any_eq_true]
  simp only [List.mem_filterMap, adjustments, List.mem_flatMap, hcustomizer,
    Adjustment.ignored?_eq_some_iff]
  constructor
  · rintro ⟨matcher, ⟨a, ⟨z, hz, ha⟩, rfl⟩, hmatches⟩
    exact ⟨z, hz, matcher, ha, hmatches⟩
  · rintro ⟨z, hz, matcher, ha, hmatches⟩
    exact ⟨matcher, ⟨_, ⟨z, hz, ha⟩, rfl⟩, hmatches⟩

/-! ## The first chain for a request -/

/-- The chain that a pipeline finds for a request is the first one for it. -/
theorem isChosen_of_chainFor? (h : c.build = .ok p) {r : Request} {chain : FilterChain}
    {number : Nat} (hfound : p.chainFor? r = some (chain, number)) :
    c.IsChosen r chain ∧ p.chains[number]? = some chain := by
  unfold Proxy.chainFor? at hfound
  have hplace : p.chains[number]? = some chain :=
    List.mk_mem_zipIdx_iff_getElem?.mp (List.mem_of_find?_eq_some hfound)
  refine ⟨?_, hplace⟩
  obtain ⟨hselects, before, after, hsplit, hearlier⟩ := List.find?_eq_some_iff_append.mp hfound
  have hchains : c.offers.map Prod.snd = before.map Prod.fst ++ chain :: after.map Prod.fst := by
    rw [← chains_of_build h, ← List.zipIdx_map_fst 0 p.chains, hsplit]
    simp
  obtain ⟨early, rest, hoffers, hearly, hrest⟩ := List.map_eq_append_iff.mp hchains
  obtain ⟨⟨origin, found⟩, late, rfl, hsame, -⟩ := List.map_eq_cons_iff.mp hrest
  dsimp only at hsame
  subst hsame
  have hordered := pairwise_offers c
  rw [hoffers, List.pairwise_append, List.pairwise_cons] at hordered
  refine ⟨origin, mem_offers.mp (by rw [hoffers]; simp), hselects, ?_⟩
  intro other chain' hholds hother
  have hmem : (other, chain') ∈ early ++ (origin, found) :: late := by
    rw [← hoffers]
    exact mem_offers.mpr hholds
  rcases List.mem_append.mp hmem with hmem | hmem
  · -- The chains before the one that is found are not for the request.
    have hmem : chain' ∈ before.map Prod.fst := by
      rw [← hearly]
      exact List.mem_map_of_mem hmem
    obtain ⟨x, hx, rfl⟩ := List.mem_map.mp hmem
    have hnot := hearlier x hx
    simp [hother] at hnot
  · rcases List.mem_cons.mp hmem with heq | hmem
    · exact Or.inl (Prod.mk.inj heq).1
    · exact Or.inr (hordered.2.1.1 _ hmem)

/-- Where a pipeline finds no chain, none is for the request. -/
theorem selects_of_chainFor?_eq_none (h : c.build = .ok p) {r : Request}
    (hnone : p.chainFor? r = none) {origin : Origin} {chain : FilterChain}
    (hholds : c.Holds origin chain) : chain.selects r = false := by
  have hmem : chain ∈ p.chains := by
    rw [chains_of_build h]
    exact List.mem_map_of_mem (mem_offers.mpr hholds)
  rw [← List.zipIdx_map_fst 0 p.chains] at hmem
  obtain ⟨x, hx, rfl⟩ := List.mem_map.mp hmem
  have hnot := List.find?_eq_none.mp hnone x hx
  simpa using hnot

end Configuration

/-! ## The filters of a chain -/

/-- What becomes of a request that goes through some filters in order, up to the first one that
does not let it pass. -/
inductive FilterChain.Walks (p : Proxy) :
    List Filter → Passage → Ending AccessError Unit → Passage → Prop where
  | passed (passage : Passage) : Walks p [] passage (.value ()) passage
  | next {f : Filter} {rest : List Filter} {passage middle left : Passage}
      {ending : Ending AccessError Unit} (hf : f.run passage = (.value (), middle))
      (hrest : Walks p rest middle ending left) : Walks p (f :: rest) passage ending left
  | refused {f : Filter} {rest : List Filter} {passage left : Passage} {e : AccessError}
      (hf : f.run passage = (.refused e, left)) :
      Walks p (f :: rest) passage (.refused e)
        (p.reported (f.name ++ " rejected request: " ++ e.message) left)
  | aborted {f : Filter} {rest : List Filter} {passage left : Passage}
      (hf : f.run passage = (.aborted, left)) : Walks p (f :: rest) passage .aborted left

/-- The filters of a chain run in order up to the first that does not let the request pass. -/
theorem FilterChain.walks_runAll (p : Proxy) (filters : List Filter) (passage : Passage) :
    Walks p filters passage (runAll p.level filters passage).1
      (runAll p.level filters passage).2 := by
  induction filters generalizing passage with
  | nil => exact .passed passage
  | cons f rest ih =>
      rcases hf : f.run passage with ⟨done | e | _, middle⟩
      · rw [runAll_cons hf]
        exact .next hf (ih middle)
      · rw [runAll_cons_of_refused hf]
        exact .refused hf
      · rw [runAll_cons_of_aborted hf]
        exact .aborted hf

/-- How a request that goes through a chain is reported. -/
def Proxy.handled (r : Request) (chain : FilterChain) (number : Nat) : String :=
  subject r ++ " handled by chain " ++ toString number ++ " " ++ quotedList chain.filterNames

/-- A request goes through the first chain for it. -/
theorem Proxy.filter_of_chain {p : Proxy} {passage : Passage} {chain : FilterChain} {number : Nat}
    (h : p.ignores passage.request = false)
    (hchain : p.chainFor? passage.request = some (chain, number)) :
    p.filter passage = FilterChain.runAll p.level chain.filters
      (p.reported (handled passage.request chain number) passage) := by
  simp [filter, Run.bind_apply, h, hchain, report, Passage.inWorld, World.report, reported, handled]

namespace Configuration

variable {c : Configuration} {p : Proxy}

/-! ## What becomes of a request -/

/-- Configurers put together a pipeline wherever they stand. -/
theorem build_of_perm (h : c.build = .ok p) {configurers : List Configurer}
    (hperm : configurers.Perm c.configurers) :
    ({ c with configurers := configurers } : Configuration).build = .ok p := by
  obtain ⟨hsources, hclash, hbuilt⟩ := build_eq_ok_iff.mp h
  have hdistinct := pairwise_of_firstClash (pairwise_inOrder _ _) hclash
  have horder := inOrder_eq_of_perm hperm hdistinct
  have hempty : configurers.isEmpty = c.configurers.isEmpty := by
    rw [Bool.eq_iff_iff, List.isEmpty_iff, List.isEmpty_iff]
    exact ⟨fun hnil => (hnil ▸ hperm).nil_eq.symm, fun hnil => (hnil ▸ hperm).eq_nil⟩
  have hstart : ({ c with configurers := configurers } : Configuration).start = c.start := by
    unfold start effectiveConfigurers
    simp only [hempty, horder]
  apply build_eq_ok_iff.mpr
  refine ⟨?_, ?_, ?_⟩
  · refine hsources.imp_left (fun hnil => ?_)
    exact (hnil ▸ hperm).eq_nil
  · simpa only [horder] using hclash
  · rw [hstart]
    exact hbuilt

/-- Finished chains put together the same pipeline as the configurers that settle them. -/
theorem build_of_finished (h : c.build = .ok p) :
    ({ c with
      configurers := []
      chains := c.chains ++ c.configurers.map Configurer.chain } : Configuration).build =
        .ok p := by
  obtain ⟨hsources, -, hbuilt⟩ := build_eq_ok_iff.mp h
  have hregistered : ({ c with
      configurers := []
      chains := c.chains ++ c.configurers.map Configurer.chain } : Configuration).registered =
        c.registered := by
    unfold registered
    rcases hsources with hnil | hnil <;> simp [hnil]
  have hstart : ({ c with
      configurers := []
      chains := c.chains ++ c.configurers.map Configurer.chain } : Configuration).start =
        c.start := by
    have hchains := chains_start (c := { c with
      configurers := []
      chains := c.chains ++ c.configurers.map Configurer.chain }) (Or.inl rfl)
    rw [hregistered, ← chains_start hsources] at hchains
    calc
      ({ c with
        configurers := []
        chains := c.chains ++ c.configurers.map Configurer.chain } : Configuration).start =
          ⟨[], c.start.chains, c.config.debug⟩ := by
            rw [← hchains]
            rfl
      _ = c.start := rfl
  apply build_eq_ok_iff.mpr
  refine ⟨Or.inl rfl, by simp [inOrder, firstClash], ?_⟩
  rw [hstart]
  exact hbuilt

/-- A request that a customizer has ignored passes untouched.  Any other goes through the filters
of the first chain for it, in order and up to the first that does not let it pass; if no chain is
for it, it passes untouched.  Neither the places of the configurers nor whether chains are finished
or settled by configurers changes the pipeline. -/
theorem filter_of_build (h : c.build = .ok p) (passage : Passage) :
    (c.Ignores passage.request →
        p.filter passage =
          (.value (), p.reported (Proxy.subject passage.request ++ " is ignored by security")
            passage)) ∧
      (¬c.Ignores passage.request → ∀ chain, c.IsChosen passage.request chain →
        ∃ number ending left, p.chains[number]? = some chain ∧
          p.filter passage = (ending, left) ∧
          FilterChain.Walks p chain.filters
            (p.reported (Proxy.handled passage.request chain number) passage) ending left) ∧
      (¬c.Ignores passage.request → (¬∃ chain, c.IsChosen passage.request chain) →
        (∀ origin chain, c.Holds origin chain → chain.selects passage.request = false) ∧
          p.filter passage =
            (.value (), p.reported ("no security chain matches " ++ Proxy.subject passage.request)
              passage)) ∧
      (∀ configurers : List Configurer, configurers.Perm c.configurers →
        ({ c with configurers := configurers } : Configuration).build = .ok p) ∧
      ({ c with
        configurers := []
        chains := c.chains ++ c.configurers.map Configurer.chain } : Configuration).build =
          .ok p := by
  have hignores := ignores_iff_of_build h passage.request
  refine ⟨?_, ?_, ?_, fun configurers hperm => build_of_perm h hperm, build_of_finished h⟩
  · intro hignored
    exact Proxy.filter_of_ignored (hignores.mpr hignored)
  · intro hnot chain hchosen
    have hnot : p.ignores passage.request = false := by
      rw [← Bool.not_eq_true, hignores]
      exact hnot
    cases hfound : p.chainFor? passage.request with
    | none =>
        obtain ⟨origin, hholds, hselects, -⟩ := hchosen
        rw [selects_of_chainFor?_eq_none h hfound hholds] at hselects
        cases hselects
    | some found =>
        obtain ⟨first, number⟩ := found
        obtain ⟨hfirst, hplace⟩ := isChosen_of_chainFor? h hfound
        obtain rfl := hchosen.unique hfirst
        refine ⟨number, _, _, hplace, Proxy.filter_of_chain hnot hfound, ?_⟩
        exact FilterChain.walks_runAll p chain.filters _
  · intro hnot hnone
    have hnot : p.ignores passage.request = false := by
      rw [← Bool.not_eq_true, hignores]
      exact hnot
    cases hfound : p.chainFor? passage.request with
    | none =>
        refine ⟨fun origin chain hholds => selects_of_chainFor?_eq_none h hfound hholds, ?_⟩
        exact Proxy.filter_of_no_chain hnot hfound
    | some found =>
        obtain ⟨first, number⟩ := found
        exact absurd ⟨first, (isChosen_of_chainFor? h hfound).1⟩ hnone

/-- Two configurers, the later one of the lower order, and a customizer. -/
def twoSites : Configuration where
  configurers :=
    [⟨"site", 5, [.requiring true]⟩,
      ⟨"api", 1, [.selecting (.under "/api"), .withoutCsrf, .adding (.mark "api" none)]⟩]
  chains := []
  customizers := [⟨0, [.ignoring (.exact "/health"), .addChain ⟨.any, [.mark "public" none], 0⟩]⟩]
  config := ⟨false⟩

/-- The chains of that pipeline for the interface, for the rest of the site and for what a
customizer has added. -/
def sitePipeline : Proxy where
  ignored := [.exact "/health"]
  chains :=
    [⟨.under "/api", [.mark "api" none], 1⟩,
      ⟨.any, (ChainPlan.ofSettings [.requiring true]).build.filters, 5⟩,
      ⟨.any, [.mark "public" none], 0⟩]
  debug := false

/-- A request to the interface goes through the chain of the configurer that was registered
last. -/
theorem filter_of_build_api :
    let passage : Passage :=
      ⟨⟨"GET", .origin "/api/users", .empty, .empty⟩,
        .initial (.initial ⟨0, 0⟩ .strokes) .deserted ⟨fun _ => [], 0⟩⟩
    let chain : FilterChain := ⟨.under "/api", [.mark "api" none], 1⟩
    twoSites.build = .ok sitePipeline ∧ ¬twoSites.Ignores passage.request ∧
      twoSites.IsChosen passage.request chain ∧
      ∃ number ending left, sitePipeline.chains[number]? = some chain ∧
        sitePipeline.filter passage = (ending, left) ∧
        FilterChain.Walks sitePipeline [.mark "api" none]
          (sitePipeline.reported (Proxy.handled passage.request chain number) passage) ending
          left := by
  intro passage chain
  have hbuild : twoSites.build = .ok sitePipeline := by
    simp [twoSites, sitePipeline, build, inOrder, List.mergeSort,
      List.MergeSort.Internal.splitInTwo, firstClash, adjustments, start, effectiveConfigurers,
      Proxy.adjust, Configurer.chain, ChainPlan.ofSettings, ChainPlan.default, ChainPlan.apply,
      ChainPlan.build, ChainPlan.sessionFilter, ChainPlan.csrfFilter,
      ChainPlan.authenticationFilter]
  have hnot : ¬twoSites.Ignores passage.request := by
    rw [← ignores_iff_of_build hbuild]
    decide +kernel
  have hselects : chain.selects passage.request = true := by decide +kernel
  have hfound : sitePipeline.chainFor? passage.request = some (chain, 0) :=
    List.find?_cons_of_pos hselects
  have hchosen := (isChosen_of_chainFor? hbuild hfound).1
  exact ⟨hbuild, hnot, hchosen, (filter_of_build hbuild passage).2.1 hnot chain hchosen⟩

end Configuration

end WebAuth.Web
