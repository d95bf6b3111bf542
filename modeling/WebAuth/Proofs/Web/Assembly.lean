import WebAuth.Proofs.Web.DispatchOrder

/-!
# Putting pipelines together

A configuration makes a pipeline unless it has two kinds of sources or several configurers
claim one order.  Who is blamed follows from what is registered and not from how it is
sorted: the first two configurers of the least order that several of them claim.  In a
pipeline the chains of configurers stand by rising orders; finished chains stand by their
orders and, within one order, as they were registered.  Nothing registered means one chain,
which wants an identity of every request.  What customizers add comes last.

Main results:

- Theorem `Configuration.arranges_inOrder`: sorting does not touch the items of one number.
- Theorem `Configuration.firstClash_inOrder_eq_some_iff`: who is blamed.
- Theorem `FilterChain.requiresIdentity_default`: whom the chain lets pass that stands for
  nothing registered.
- Theorem `Configuration.build_outcome`: which configurations make a pipeline, and of which
  chains.
-/

namespace WebAuth.Web

open Http

namespace Configuration

/-! ## Stable sorting -/

section Sorting

variable {α : Type}

/-- The items by rising numbers.  None is lost or doubled, and those of one number stay as
they stood. -/
structure Arranges (order : α → Int) (items sorted : List α) : Prop where
  perm : sorted.Perm items
  rising : sorted.Pairwise (fun a b => order a ≤ order b)
  stable : ∀ n, sorted.filter (fun a => order a = n) = items.filter (fun a => order a = n)

/-- Sorting does not touch the items of one number. -/
theorem filter_inOrder (order : α → Int) (items : List α) (n : Int) :
    (inOrder order items).filter (fun a => order a = n) =
      items.filter (fun a => order a = n) := by
  have hlevel : (items.filter (fun a => order a = n)).Pairwise
      (fun a b => decide (order a ≤ order b) = true) := by
    rw [List.pairwise_filter]
    apply List.pairwise_of_forall
    intro a b ha hb
    simp only [decide_eq_true_eq] at ha hb ⊢
    omega
  -- The items of one number are in order as they stand, so sorting all items keeps them so.
  have hsub : (items.filter (fun a => order a = n)).Sublist (inOrder order items) := by
    apply List.sublist_mergeSort _ _ hlevel List.filter_sublist
    · intro a b c hab hbc
      simp only [decide_eq_true_eq] at hab hbc ⊢
      omega
    · intro a b
      simp only [Bool.or_eq_true, decide_eq_true_eq]
      omega
  have hfiltered := hsub.filter (fun a => decide (order a = n))
  simp only [List.filter_filter, Bool.and_self] at hfiltered
  have hlength : ((inOrder order items).filter (fun a => order a = n)).length =
      (items.filter (fun a => order a = n)).length :=
    ((List.mergeSort_perm _ _).filter _).length_eq
  exact (hfiltered.eq_of_length hlength.symm).symm

/-- Sorting arranges. -/
theorem arranges_inOrder (order : α → Int) (items : List α) :
    Arranges order items (inOrder order items) where
  perm := List.mergeSort_perm _ _
  rising := pairwise_inOrder order items
  stable := filter_inOrder order items

end Sorting

/-! ## Claims to one order -/

variable {configurers rest : List Configurer} {a b x : Configurer} {n : Int}

/-- The configurers with an order, as they were registered. -/
def claimants (configurers : List Configurer) (n : Int) : List Configurer :=
  configurers.filter (fun x => x.order = n)

/-- Several configurers claim the order. -/
def IsContested (configurers : List Configurer) (n : Int) : Prop :=
  ∃ a b others, claimants configurers n = a :: b :: others

/-- The first two configurers of the least order that several claim. -/
structure IsFirstClash (configurers : List Configurer) (a b : Configurer) : Prop where
  first : ∃ others, claimants configurers a.order = a :: b :: others
  least : ∀ n, IsContested configurers n → a.order ≤ n

@[simp]
theorem mem_claimants : x ∈ claimants configurers n ↔ x ∈ configurers ∧ x.order = n := by
  simp [claimants]

/-- An order that several claim is somebody's order. -/
theorem IsContested.exists_mem (h : IsContested configurers n) :
    ∃ x ∈ configurers, x.order = n := by
  obtain ⟨a, b, others, hclaim⟩ := h
  have ha : a ∈ claimants configurers n := by
    rw [hclaim]
    exact List.mem_cons_self
  exact ⟨a, mem_claimants.mp ha⟩

theorem IsFirstClash.mem (h : IsFirstClash configurers a b) : a ∈ configurers := by
  obtain ⟨others, hclaim⟩ := h.first
  have ha : a ∈ claimants configurers a.order := by
    rw [hclaim]
    exact List.mem_cons_self
  exact (mem_claimants.mp ha).1

/-- A configurer whose order nobody else has takes no part in a claim of several. -/
theorem claimants_cons_eq_iff (hunique : ∀ y ∈ rest, y.order ≠ x.order)
    {others : List Configurer} :
    claimants (x :: rest) n = a :: b :: others ↔ claimants rest n = a :: b :: others := by
  by_cases hn : x.order = n
  · have hnone : claimants rest n = [] := by
      unfold claimants
      rw [List.filter_eq_nil_iff]
      intro y hy
      simpa [← hn] using hunique y hy
    have hone : claimants (x :: rest) n = [x] := by
      unfold claimants at hnone ⊢
      rw [List.filter_cons_of_pos (by simpa using hn), hnone]
    simp [hnone, hone]
  · unfold claimants
    rw [List.filter_cons_of_neg (by simpa using hn)]

/-- Such a configurer is not blamed, and it does not change who is. -/
theorem isFirstClash_cons_iff (hunique : ∀ y ∈ rest, y.order ≠ x.order) :
    IsFirstClash (x :: rest) a b ↔ IsFirstClash rest a b := by
  have hcontested (n : Int) : IsContested (x :: rest) n ↔ IsContested rest n := by
    simp only [IsContested, claimants_cons_eq_iff hunique]
  constructor
  · rintro ⟨⟨others, hclaim⟩, hleast⟩
    exact ⟨⟨others, (claimants_cons_eq_iff hunique).mp hclaim⟩,
      fun n hn => hleast n ((hcontested n).mpr hn)⟩
  · rintro ⟨⟨others, hclaim⟩, hleast⟩
    exact ⟨⟨others, (claimants_cons_eq_iff hunique).mpr hclaim⟩,
      fun n hn => hleast n ((hcontested n).mp hn)⟩

/-- If the first two have one order and none is below it, then these two are blamed. -/
theorem isFirstClash_cons_cons_iff {y : Configurer} (hclash : x.order = y.order)
    (hleast : ∀ z ∈ x :: y :: rest, x.order ≤ z.order) :
    IsFirstClash (x :: y :: rest) a b ↔ x = a ∧ y = b := by
  have hfirst : claimants (x :: y :: rest) x.order = x :: y :: claimants rest x.order := by
    simp [claimants, hclash]
  constructor
  · intro h
    have hle : a.order ≤ x.order := h.least _ ⟨x, y, _, hfirst⟩
    have hsame : a.order = x.order := Int.le_antisymm hle (hleast a h.mem)
    obtain ⟨others, hclaim⟩ := h.first
    rw [hsame, hfirst] at hclaim
    simp only [List.cons.injEq] at hclaim
    exact ⟨hclaim.1, hclaim.2.1⟩
  · rintro ⟨rfl, rfl⟩
    refine ⟨⟨_, hfirst⟩, ?_⟩
    intro n hn
    obtain ⟨z, hz, rfl⟩ := hn.exists_mem
    exact hleast z hz

/-- Among sorted configurers the first neighbours of one order have the least order that
several claim. -/
theorem firstClash_eq_some_iff (hsorted : configurers.Pairwise (fun a b => a.order ≤ b.order)) :
    firstClash configurers = some (a, b) ↔ IsFirstClash configurers a b := by
  have hnobody : ¬IsFirstClash [] a b := fun h => List.not_mem_nil h.mem
  induction configurers with
  | nil => exact ⟨nofun, fun h => absurd h hnobody⟩
  | cons x rest ih =>
      obtain ⟨hx, hrest⟩ := List.pairwise_cons.mp hsorted
      cases rest with
      | nil =>
          rw [isFirstClash_cons_iff (fun _ hy => absurd hy List.not_mem_nil)]
          exact ⟨nofun, fun h => absurd h hnobody⟩
      | cons y rest =>
          have hleast : ∀ z ∈ x :: y :: rest, x.order ≤ z.order := by
            rw [List.forall_mem_cons]
            exact ⟨Int.le_refl _, hx⟩
          by_cases hclash : x.order = y.order
          · rw [isFirstClash_cons_cons_iff hclash hleast]
            simp [firstClash, hclash]
          · have hxy : x.order < y.order := Int.lt_iff_le_and_ne.mpr ⟨hx y List.mem_cons_self, hclash⟩
            have hunique : ∀ z ∈ y :: rest, z.order ≠ x.order := by
              rw [List.forall_mem_cons]
              refine ⟨by omega, ?_⟩
              intro z hz
              have hyz : y.order ≤ z.order := (List.pairwise_cons.mp hrest).1 z hz
              omega
            have hrec : firstClash (y :: rest) = some (a, b) ↔ IsFirstClash (y :: rest) a b :=
              ih hrest
            rw [isFirstClash_cons_iff hunique, ← hrec]
            simp only [firstClash, hclash, if_false]

/-- Sorting does not change who is blamed. -/
theorem firstClash_inOrder_eq_some_iff :
    firstClash (inOrder Configurer.order configurers) = some (a, b) ↔
      IsFirstClash configurers a b := by
  have hclaimants (n : Int) :
      claimants (inOrder Configurer.order configurers) n = claimants configurers n :=
    filter_inOrder Configurer.order configurers n
  have hcontested (n : Int) :
      IsContested (inOrder Configurer.order configurers) n ↔ IsContested configurers n := by
    simp only [IsContested, hclaimants]
  rw [firstClash_eq_some_iff (pairwise_inOrder _ _)]
  constructor
  · rintro ⟨hfirst, hleast⟩
    exact ⟨by simpa only [hclaimants] using hfirst, fun n hn => hleast n ((hcontested n).mpr hn)⟩
  · rintro ⟨hfirst, hleast⟩
    exact ⟨by simpa only [hclaimants] using hfirst, fun n hn => hleast n ((hcontested n).mp hn)⟩

/-- Nobody is blamed exactly if no two configurers have one order. -/
theorem firstClash_inOrder_eq_none_iff :
    firstClash (inOrder Configurer.order configurers) = none ↔
      (configurers.map Configurer.order).Nodup := by
  have hperm : ((inOrder Configurer.order configurers).map Configurer.order).Perm
      (configurers.map Configurer.order) :=
    (List.mergeSort_perm _ _).map Configurer.order
  rw [← hperm.nodup_iff, List.nodup_iff_pairwise_ne, List.pairwise_map]
  constructor
  · intro h
    exact (pairwise_of_firstClash (pairwise_inOrder _ _) h).imp (fun h => Int.ne_of_lt h)
  · exact firstClash_none

end Configuration

/-! ## The chain that stands for nothing registered -/

/-- A token is issued whoever sends the request. -/
@[simp]
theorem Passage.issued_identity (p : Passage) (config : CsrfConfig) :
    (p.issued config).attachments.identity = p.attachments.identity := by
  unfold issued
  split <;> rfl

/-- Without strategies, a request has the identity it comes with or none. -/
theorem Filter.authentication_silent_run (hook : LoginHook) (p : Passage) :
    (authentication Authenticator.silent hook true).run p =
      (if p.attachments.identity = none then .refused .unauthenticated else .value (), p) := by
  cases hidentity : p.attachments.identity with
  | none =>
      have hasked : (p.attachments.identity.isSome && p.attachments.session.isNone) = false := by
        rw [hidentity]
        rfl
      rw [authentication_run_of_asked hasked, hidentity]
      rfl
  | some identity =>
      cases hsession : p.attachments.session with
      | none =>
          have hnot : (p.attachments.identity.isSome && p.attachments.session.isNone) = true := by
            rw [hidentity, hsession]
            rfl
          simp only [authentication]
          rw [Run.bind_value (Run.reads_apply _ _), if_pos hnot]
          rfl
      | some session =>
          have hasked : (p.attachments.identity.isSome && p.attachments.session.isNone) =
              false := by
            rw [hidentity, hsession]
            rfl
          rw [authentication_run_of_asked hasked, hidentity]
          rfl

namespace FilterChain

/-- The chain is for every request.  It refuses forged requests and anonymous ones, and lets
all others pass. -/
structure RequiresIdentity (chain : FilterChain) : Prop where
  selects : ∀ r, chain.selects r = true
  ending : ∀ level p, (runAll level chain.filters p).1 =
    if p.request.IsForged .default then .refused .csrfMismatch
    else if p.attachments.identity = none then .refused .unauthenticated
    else .value ()

/-- The chain that stands for nothing registered wants an identity of every request. -/
theorem requiresIdentity_default : Configurer.default.chain.RequiresIdentity where
  selects _ := rfl
  ending level p := by
    have hfilters : Configurer.default.chain.filters =
        [.csrf .default, .authentication .silent (LoginHook.ofStrategy .keep) true] :=
      rfl
    have hcsrf := Filter.csrf_run .default p
    have hidentity := Filter.authentication_silent_run (LoginHook.ofStrategy .keep)
      (p.issued .default)
    rw [Passage.issued_identity] at hidentity
    rw [hfilters]
    by_cases hforged : p.request.IsForged .default
    · rw [if_pos hforged] at hcsrf ⊢
      rw [runAll_cons_of_refused hcsrf]
    · rw [if_neg hforged] at hcsrf ⊢
      rw [runAll_cons hcsrf]
      by_cases hanonymous : p.attachments.identity = none
      · rw [if_pos hanonymous] at hidentity ⊢
        rw [runAll_cons_of_refused hidentity]
      · rw [if_neg hanonymous] at hidentity ⊢
        rw [runAll_cons hidentity]
        rfl

end FilterChain

/-! ## What is put together -/

/-- The chains that a customizer adds. -/
def Customizer.added (z : Customizer) : List FilterChain :=
  z.adjustments.filterMap Adjustment.added?

namespace Configuration

variable {c : Configuration} {p : Proxy}

/-- The registered chains in the order in which they are tried: those of configurers by
rising orders, finished ones by their orders and as they were registered, or else one that
stands for nothing registered. -/
inductive Registers (c : Configuration) : List FilterChain → Prop where
  | settled {chains : List FilterChain} (hsome : c.configurers ≠ [])
      (hperm : chains.Perm (c.configurers.map Configurer.chain))
      (hrising : chains.Pairwise (fun a b => a.order < b.order)) : Registers c chains
  | finished {chains : List FilterChain} (hsome : c.chains ≠ [])
      (harranges : Arranges FilterChain.order c.chains chains) : Registers c chains
  | default (hconfigurers : c.configurers = []) (hchains : c.chains = []) :
      Registers c [Configurer.default.chain]

/-- The chains of a pipeline: the registered ones, and behind them those of the customizers,
which work in their order. -/
def Makes (c : Configuration) (chains : List FilterChain) : Prop :=
  ∃ registered customizers, c.Registers registered ∧
    Arranges Customizer.order c.customizers customizers ∧
    chains = registered ++ customizers.flatMap Customizer.added

/-- With one kind of sources only the orders of configurers count. -/
theorem build_of_sources (hsources : c.configurers = [] ∨ c.chains = []) :
    c.build =
      match firstClash (inOrder Configurer.order c.configurers) with
      | some (previous, current) =>
          .error (.duplicateOrder previous.order previous.name current.name)
      | none => .ok (c.adjustments.foldl Proxy.adjust c.start) := by
  have hagree : (!c.configurers.isEmpty && !c.chains.isEmpty) = false := by
    rcases hsources with h | h <;> simp [h]
  unfold build
  rw [hagree]
  rfl

/-- Two kinds of sources contradict each other. -/
theorem build_eq_conflict_iff :
    c.build = .error .conflictingSources ↔ c.configurers ≠ [] ∧ c.chains ≠ [] := by
  by_cases hsources : c.configurers = [] ∨ c.chains = []
  · have hnot : ¬(c.configurers ≠ [] ∧ c.chains ≠ []) := by
      rintro ⟨hconfigurers, hchains⟩
      exact hsources.elim hconfigurers hchains
    rw [build_of_sources hsources, iff_false_right hnot]
    cases firstClash (inOrder Configurer.order c.configurers) <;> simp
  · obtain ⟨hconfigurers, hchains⟩ := not_or.mp hsources
    simp [build_conflict hconfigurers hchains, hconfigurers, hchains]

/-- With one kind of sources a clash is reported. -/
theorem build_eq_clash_iff {order : Int} {previous current : String} :
    c.build = .error (.duplicateOrder order previous current) ↔
      (c.configurers = [] ∨ c.chains = []) ∧
        ∃ a b, firstClash (inOrder Configurer.order c.configurers) = some (a, b) ∧
          a.order = order ∧ a.name = previous ∧ b.name = current := by
  by_cases hsources : c.configurers = [] ∨ c.chains = []
  · rw [build_of_sources hsources]
    cases firstClash (inOrder Configurer.order c.configurers) with
    | none => simp
    | some clash =>
        obtain ⟨a, b⟩ := clash
        simp only [Except.error.injEq, ConfigError.duplicateOrder.injEq, Option.some.injEq,
          Prod.mk.injEq]
        constructor
        · intro h
          exact ⟨hsources, a, b, ⟨rfl, rfl⟩, h⟩
        · rintro ⟨-, _, _, ⟨rfl, rfl⟩, h⟩
          exact h
  · obtain ⟨hconfigurers, hchains⟩ := not_or.mp hsources
    simp [build_conflict hconfigurers hchains, hsources]

/-- The registered chains of a pipeline. -/
theorem registers_of_build (h : c.build = .ok p) : c.Registers c.start.chains := by
  obtain ⟨hsources, hclash, -⟩ := build_eq_ok_iff.mp h
  rw [chains_start hsources]
  by_cases hconfigurers : c.configurers = []
  · by_cases hchains : c.chains = []
    · have hregistered : c.registered = [Configurer.default.chain] := by
        simp [registered, hconfigurers, hchains]
      rw [hregistered, inOrder, List.mergeSort_singleton]
      exact .default hconfigurers hchains
    · have hregistered : c.registered = c.chains := by
        simp [registered, hconfigurers, hchains]
      rw [hregistered]
      exact .finished hchains (arranges_inOrder _ _)
  · have hchains : c.chains = [] := hsources.resolve_left hconfigurers
    have hregistered : c.registered = c.configurers.map Configurer.chain := by
      simp [registered, hconfigurers, hchains]
    rw [hregistered]
    have harranges := arranges_inOrder FilterChain.order (c.configurers.map Configurer.chain)
    refine .settled hconfigurers harranges.perm ?_
    have hdistinct : (inOrder FilterChain.order (c.configurers.map Configurer.chain)).Pairwise
        (fun a b => a.order ≠ b.order) := by
      rw [← List.pairwise_map (f := FilterChain.order) (R := fun m n => m ≠ n),
        ← List.nodup_iff_pairwise_ne, (harranges.perm.map FilterChain.order).nodup_iff,
        List.map_map]
      exact firstClash_inOrder_eq_none_iff.mp hclash
    apply (harranges.rising.and hdistinct).imp
    rintro a b ⟨hle, hne⟩
    omega

/-- The chains of a pipeline are those of which its configuration makes it. -/
theorem makes_of_build (h : c.build = .ok p) : c.Makes p.chains := by
  refine ⟨_, inOrder Customizer.order c.customizers, registers_of_build h,
    arranges_inOrder _ _, ?_⟩
  obtain ⟨-, -, rfl⟩ := build_eq_ok_iff.mp h
  rw [(Proxy.foldl_adjust c.start c.adjustments).2, adjustments, List.filterMap_flatMap]
  rfl

/-- A configuration with configurers as well as finished chains contradicts itself.  Of any
other, several configurers that claim one order are refused, and blamed are the first two of
the least such order.  All the rest make a pipeline of their chains; nothing
registered makes one that wants an identity of every request. -/
theorem build_outcome (c : Configuration) :
    (c.build = .error .conflictingSources ↔ c.configurers ≠ [] ∧ c.chains ≠ []) ∧
      ((∃ order previous current, c.build = .error (.duplicateOrder order previous current)) ↔
        (c.configurers = [] ∨ c.chains = []) ∧ ¬(c.configurers.map Configurer.order).Nodup) ∧
      (∀ order previous current, c.build = .error (.duplicateOrder order previous current) ↔
        (c.configurers = [] ∨ c.chains = []) ∧
          ∃ a b, IsFirstClash c.configurers a b ∧
            a.order = order ∧ a.name = previous ∧ b.name = current) ∧
      ((∃ p, c.build = .ok p) ↔
        (c.configurers = [] ∨ c.chains = []) ∧ (c.configurers.map Configurer.order).Nodup) ∧
      (∀ p, c.build = .ok p → c.Makes p.chains) ∧
      Configurer.default.chain.RequiresIdentity := by
  refine ⟨build_eq_conflict_iff, ?_, ?_, ?_, fun p h => makes_of_build h,
    FilterChain.requiresIdentity_default⟩
  · rw [← firstClash_inOrder_eq_none_iff]
    simp only [build_eq_clash_iff]
    constructor
    · rintro ⟨order, previous, current, hsources, a, b, hclash, -⟩
      exact ⟨hsources, by rw [hclash]; exact Option.some_ne_none _⟩
    · rintro ⟨hsources, hclash⟩
      obtain ⟨⟨a, b⟩, hclash⟩ := Option.ne_none_iff_exists'.mp hclash
      exact ⟨_, _, _, hsources, a, b, hclash, rfl, rfl, rfl⟩
  · intro order previous current
    simp only [build_eq_clash_iff, firstClash_inOrder_eq_some_iff]
  · rw [← firstClash_inOrder_eq_none_iff]
    constructor
    · rintro ⟨p, h⟩
      obtain ⟨hsources, hclash, -⟩ := build_eq_ok_iff.mp h
      exact ⟨hsources, hclash⟩
    · rintro ⟨hsources, hclash⟩
      exact ⟨_, build_eq_ok_iff.mpr ⟨hsources, hclash, rfl⟩⟩

/-- Two orders are claimed by several configurers each. -/
def contested : Configuration :=
  ⟨[⟨"audit", 5, []⟩, ⟨"api", -2147483648, []⟩, ⟨"site", 5, []⟩, ⟨"docs", 2147483647, []⟩,
    ⟨"forms", -2147483648, []⟩], [], [], ⟨false⟩⟩

/-- Blamed are the first two of the least order, although others were registered before them;
nothing registered makes a pipeline of one chain. -/
theorem build_outcome_contested :
    IsFirstClash contested.configurers ⟨"api", -2147483648, []⟩ ⟨"forms", -2147483648, []⟩ ∧
      contested.build = .error (.duplicateOrder (-2147483648) "api" "forms") ∧
      ∃ p, empty.build = .ok p ∧ empty.Makes p.chains := by
  have hclash : IsFirstClash contested.configurers ⟨"api", -2147483648, []⟩
      ⟨"forms", -2147483648, []⟩ := by
    refine ⟨⟨[], rfl⟩, ?_⟩
    intro n hn
    obtain ⟨x, hx, rfl⟩ := hn.exists_mem
    simp only [contested, List.mem_cons, List.not_mem_nil, or_false] at hx
    rcases hx with rfl | rfl | rfl | rfl | rfl <;> decide
  obtain ⟨-, -, hblamed, -⟩ := build_outcome contested
  obtain ⟨-, -, -, hbuilds, hmakes, -⟩ := build_outcome empty
  obtain ⟨p, hbuild⟩ := hbuilds.mpr ⟨Or.inl rfl, List.nodup_nil⟩
  exact ⟨hclash, (hblamed _ _ _).mpr ⟨Or.inr rfl, _, _, hclash, rfl, rfl, rfl⟩, p, hbuild,
    hmakes p hbuild⟩

end Configuration

end WebAuth.Web
