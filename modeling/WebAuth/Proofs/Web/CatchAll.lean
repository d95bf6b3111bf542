import WebAuth.Proofs.Web.DispatchOrder

/-!
# Chains for all that is below the root

A chain can be for every request, or for every path below the root.  Every path that can be asked
for is below the root, and so is the missing path of a bare authority.  Only the asterisk, by which
a request names the server as a whole, is no path: a chain for what is below the root is not for
it, and a request with it goes on to later chains, or past them all.

Main results:

- Theorem `RequestTarget.matchesTarget_root_iff`: which targets are below the root.
- Theorem `Proxy.filter_under_root`: what becomes of requests when a chain for every request is
  made one for what is below the root.
-/

namespace WebAuth

open Http Text

namespace Http

/-! ## Targets below the root -/

/-- Below the root is what is empty or starts with a slash. -/
theorem RequestMatcher.matchesPath_root (path : String) :
    (under "/").matchesPath path = startsSegment path.toList :=
  rfl

namespace RequestTarget

open RequestMatcher

/-- A path ends before query and fragment. -/
theorem eq_takeWhile_of_pathOf? {cs path : List Char} (h : pathOf? cs = some path) :
    path = cs.takeWhile (fun c => c ≠ '?' && c ≠ '#') := by
  unfold pathOf? at h
  simp only at h
  split at h
  · split at h
    · exact (Option.some.inj h).symm
    · cases h
  · split at h
    · exact (Option.some.inj h).symm
    · cases h

/-- Behind an authority there is nothing, or a path, a query or a fragment starts. -/
theorem head?_of_afterAuthority? {cs after : List Char} (h : afterAuthority? cs = some after) :
    after.head?.all (fun c => c = '/' || c = '?' || c = '#') = true := by
  unfold afterAuthority? at h
  simp only at h
  split at h
  · cases h
  · split at h
    · cases h
    · obtain rfl := Option.some.inj h
      simpa [Bool.or_assoc] using
        head?_drop_takeWhile (fun c => c ≠ '/' && c ≠ '?' && c ≠ '#') cs

/-- What is read as a path behind an authority is empty or starts with a slash. -/
theorem startsSegment_of_pathOf? {cs path : List Char} (h : pathOf? cs = some path)
    (hhead : cs.head?.all (fun c => c = '/' || c = '?' || c = '#') = true) :
    startsSegment path = true := by
  rw [eq_takeWhile_of_pathOf? h]
  cases cs with
  | nil => rfl
  | cons c cs =>
      by_cases hslash : c = '/'
      · subst hslash
        rfl
      · have hc : c = '?' ∨ c = '#' := by simpa [hslash] using hhead
        rw [List.takeWhile_cons_of_neg]
        · rfl
        · rcases hc with rfl | rfl <;> decide

/-- The path of a target is empty or starts with a slash, unless the target is the asterisk. -/
theorem startsSegment_path_of_parse? {text : String} {target : RequestTarget}
    (h : parse? text = some target) (hnot : target ≠ .asterisk) :
    startsSegment target.path.toList = true := by
  unfold parse? at h
  split at h
  · cases h
  · split at h
    · cases h
    · exact absurd (Option.some.inj h).symm hnot
    · obtain ⟨path, hpath, rfl⟩ := Option.map_eq_some_iff.mp h
      rw [path_origin, String.toList_ofList]
      exact startsSegment_of_pathOf? hpath rfl
    · split at h
      · cases h
      · split at h
        · obtain ⟨after, hafter, h⟩ := Option.bind_eq_some_iff.mp h
          split at h
          · cases h
          · obtain ⟨path, hpath, h⟩ := Option.bind_eq_some_iff.mp h
            obtain rfl := Option.some.inj h
            have hstarts := startsSegment_of_pathOf? hpath (head?_of_afterAuthority? hafter)
            change startsSegment (if path.isEmpty then "/" else String.ofList path).toList = true
            split
            · rfl
            · rwa [String.toList_ofList]
        · obtain ⟨after, -, h⟩ := Option.bind_eq_some_iff.mp h
          split at h
          · obtain rfl := Option.some.inj h
            rfl
          · cases h

/-- Every target but the asterisk is below the root. -/
theorem matchesTarget_root_iff {text : String} {target : RequestTarget}
    (h : parse? text = some target) :
    (under "/").matchesTarget target = true ↔ target ≠ .asterisk := by
  rw [matchesTarget, matchesPath_root]
  constructor
  · rintro hstarts rfl
    exact absurd hstarts (by decide)
  · exact startsSegment_path_of_parse? h

end RequestTarget

end Http

namespace Web

/-- The chain for other requests. -/
def FilterChain.withMatcher (c : FilterChain) (m : RequestMatcher) : FilterChain :=
  { c with matcher := m }

namespace Proxy

variable {p : Proxy} {before after : List FilterChain} {chain : FilterChain} {r : Request}
  {passage : Passage} {m : RequestMatcher}

/-! ## One chain among others -/

/-- A request comes to the chain behind some others: it is not ignored, and they are not for
it. -/
def ComesBehind (p : Proxy) (before : List FilterChain) (r : Request) : Prop :=
  p.ignores r = false ∧ ∀ earlier ∈ before, earlier.selects r = false

/-- The first of some chains for a request, with its number from `n` on. -/
def firstFrom (n : Nat) (chains : List FilterChain) (r : Request) : Option (FilterChain × Nat) :=
  (chains.zipIdx n).find? (fun numbered => numbered.1.selects r)

theorem firstFrom_eq_none_iff {n : Nat} {chains : List FilterChain} :
    firstFrom n chains r = none ↔ ∀ chain ∈ chains, chain.selects r = false := by
  rw [firstFrom, List.find?_eq_none]
  constructor
  · intro h chain hmem
    rw [← List.zipIdx_map_fst n chains] at hmem
    obtain ⟨numbered, hnumbered, rfl⟩ := List.mem_map.mp hmem
    simpa using h numbered hnumbered
  · intro h numbered hnumbered
    have hmem := List.mem_map_of_mem (f := Prod.fst) hnumbered
    rw [List.zipIdx_map_fst] at hmem
    simp [h numbered.1 hmem]

/-- The first chain for a request is one of the earlier ones, or else the one behind them if it is
for the request, or else one of the later ones. -/
theorem chainFor?_of_chains (h : p.chains = before ++ chain :: after) (r : Request) :
    p.chainFor? r = (firstFrom 0 before r).or
      (if chain.selects r then some (chain, before.length)
        else firstFrom (before.length + 1) after r) := by
  rw [chainFor?, h, List.zipIdx_append, List.find?_append, List.zipIdx_cons, List.find?_cons]
  simp only [Nat.zero_add]
  cases chain.selects r <;> rfl

/-- What is done with a request depends on the filters and the number of the chain that is found,
and not on its matcher. -/
theorem filter_congr {q : Proxy} (hdebug : q.debug = p.debug)
    (hignores : q.ignores passage.request = p.ignores passage.request)
    (hchain : p.ignores passage.request = false →
      (q.chainFor? passage.request).map (fun found => (found.1.filters, found.2)) =
        (p.chainFor? passage.request).map (fun found => (found.1.filters, found.2))) :
    q.filter passage = p.filter passage := by
  have hlevel : q.level = p.level := by rw [level, hdebug, level]
  have hreported : q.reported = p.reported := by
    funext text passage
    rw [reported, hlevel, reported]
  cases hp : p.ignores passage.request with
  | true => rw [filter_of_ignored hp, filter_of_ignored (hignores.trans hp), hreported]
  | false =>
      have hsame := hchain hp
      have hq := hignores.trans hp
      cases hfound : p.chainFor? passage.request with
      | none =>
          rw [hfound, Option.map_none, Option.map_eq_none_iff] at hsame
          rw [filter_of_no_chain hp hfound, filter_of_no_chain hq hsame, hreported]
      | some found =>
          rw [hfound, Option.map_some, Option.map_eq_some_iff] at hsame
          obtain ⟨other, hother, heq⟩ := hsame
          obtain ⟨hfilters, hnumber⟩ := Prod.mk.inj heq
          rw [filter_of_chain hp hfound, filter_of_chain hq hother, hlevel, hreported, handled,
            handled, FilterChain.filterNames, hfilters, hnumber, FilterChain.filterNames]

/-- A chain may have any matcher that agrees with its own about the requests that come to it. -/
theorem filter_withMatcher (h : p.chains = before ++ chain :: after)
    (hagree : p.ComesBehind before passage.request →
      (chain.withMatcher m).selects passage.request = chain.selects passage.request) :
    ({ p with chains := before ++ chain.withMatcher m :: after } : Proxy).filter passage =
      p.filter passage := by
  refine filter_congr rfl rfl (fun hignores => ?_)
  rw [chainFor?_of_chains h, chainFor?_of_chains rfl]
  cases hbefore : firstFrom 0 before passage.request with
  | some found => rfl
  | none =>
      rw [hagree ⟨hignores, firstFrom_eq_none_iff.mp hbefore⟩]
      split <;> rfl

/-! ## Every request or what is below the root -/

/-- Let a chain for every request be made one for what is below the root.  Nothing changes for a
request unless it comes to the chain with the asterisk.  Such a request went through the chain and
now goes on to the later ones, and past all chains if none of these is for it.  If there are no
later ones, no other request that is not ignored goes past all chains. -/
theorem filter_under_root (h : p.chains = before ++ chain :: after) (hany : chain.matcher = .any)
    {text : String} (htarget : RequestTarget.parse? text = some passage.request.target) :
    let r := passage.request
    let q : Proxy := { p with chains := before ++ chain.withMatcher (.under "/") :: after }
    (¬(p.ComesBehind before r ∧ r.target = .asterisk) → q.filter passage = p.filter passage) ∧
      (p.ComesBehind before r → r.target = .asterisk →
        p.filter passage = FilterChain.runAll p.level chain.filters
            (p.reported (handled r chain before.length) passage) ∧
          q.chainFor? r = firstFrom (before.length + 1) after r ∧
          ((∀ later ∈ after, later.selects r = false) →
            q.filter passage =
              (.value (), q.reported ("no security chain matches " ++ subject r) passage))) ∧
      (after = [] → p.ignores r = false →
        (q.chainFor? r = none ↔ p.ComesBehind before r ∧ r.target = .asterisk)) := by
  intro r q
  have hselects : chain.selects r = true := by
    rw [FilterChain.selects, Request.isMatchedBy, hany]
    rfl
  have hroot : (chain.withMatcher (.under "/")).selects r = true ↔ r.target ≠ .asterisk :=
    RequestTarget.matchesTarget_root_iff htarget
  have hmissed : (chain.withMatcher (.under "/")).selects r = false ↔ r.target = .asterisk := by
    rw [← Bool.not_eq_true, hroot, Decidable.not_not]
  have hfound := chainFor?_of_chains h r
  have hfound' : q.chainFor? r = _ := chainFor?_of_chains rfl r
  rw [hselects, if_pos rfl] at hfound
  refine ⟨?_, ?_, ?_⟩
  · intro hnot
    refine filter_withMatcher h (fun hcomes => ?_)
    rw [hselects, hroot]
    exact fun hasterisk => hnot ⟨hcomes, hasterisk⟩
  · intro hcomes hasterisk
    have hbefore : firstFrom 0 before r = none := firstFrom_eq_none_iff.mpr hcomes.2
    rw [hbefore, Option.none_or] at hfound hfound'
    rw [hmissed.mpr hasterisk, if_neg Bool.false_ne_true] at hfound'
    refine ⟨filter_of_chain hcomes.1 hfound, hfound', fun hlater => ?_⟩
    exact filter_of_no_chain hcomes.1 (hfound'.trans (firstFrom_eq_none_iff.mpr hlater))
  · rintro rfl hignores
    have hnone : (if (chain.withMatcher (.under "/")).selects r
        then some (chain.withMatcher (.under "/"), before.length)
        else firstFrom (before.length + 1) [] r) = none ↔ r.target = .asterisk := by
      rw [← hmissed]
      cases (chain.withMatcher (.under "/")).selects r <;> simp [firstFrom]
    rw [hfound', Option.or_eq_none_iff, firstFrom_eq_none_iff, hnone, ComesBehind]
    simp only [hignores, true_and]

/-- A chain that lets nobody pass without an identity. -/
def guard : FilterChain := (ChainPlan.ofSettings [.withoutCsrf, .requiring true]).build

/-- A chain for the interface of a site. -/
def interface : FilterChain := ⟨.under "/api", [.mark "api" none], 1⟩

/-- A site whose last chain is for every request. -/
def guardedSite : Proxy := ⟨[.exact "/health"], [interface, guard], false⟩

/-- A site whose last chain is for what is below the root. -/
def rootedSite : Proxy :=
  ⟨[.exact "/health"], [interface, guard.withMatcher (.under "/")], false⟩

/-- A request for the server as a whole. -/
def asteriskPassage : Passage :=
  ⟨⟨"OPTIONS", .asterisk, .empty, .empty⟩,
    .initial (.initial ⟨0, 0⟩ ⟨Nat.repr, 0⟩) .deserted ⟨fun _ => [], 0⟩⟩

/-- The asterisk goes past the chain for what is below the root. -/
theorem filter_under_root_asterisk :
    guardedSite.chains = [interface] ++ guard :: [] ∧ guard.matcher = .any ∧
      RequestTarget.parse? "*" = some asteriskPassage.request.target ∧
      guardedSite.ComesBehind [interface] asteriskPassage.request ∧
      guardedSite.filter asteriskPassage = FilterChain.runAll .debug guard.filters
        (guardedSite.reported (handled asteriskPassage.request guard 1) asteriskPassage) ∧
      rootedSite.filter asteriskPassage =
        (.value (), rootedSite.reported "no security chain matches OPTIONS *" asteriskPassage) ∧
      rootedSite.chainFor? asteriskPassage.request = none := by
  have hchains : guardedSite.chains = [interface] ++ guard :: [] := rfl
  have htarget : RequestTarget.parse? "*" = some asteriskPassage.request.target := by
    decide +kernel
  have hcomes : guardedSite.ComesBehind [interface] asteriskPassage.request :=
    ⟨by decide +kernel, by decide +kernel⟩
  obtain ⟨-, hasterisk, hlast⟩ := filter_under_root hchains rfl htarget
  obtain ⟨hguarded, -, hpast⟩ := hasterisk hcomes rfl
  exact ⟨hchains, rfl, htarget, hcomes, hguarded, hpast (List.forall_mem_nil _),
    (hlast rfl hcomes.1).mpr ⟨hcomes, rfl⟩⟩

/-- A chain for what is below the root does not stand for one for every request. -/
theorem not_filter_under_root :
    ¬∀ (p : Proxy) (before after : List FilterChain) (chain : FilterChain) (text : String)
        (passage : Passage), p.chains = before ++ chain :: after → chain.matcher = .any →
      RequestTarget.parse? text = some passage.request.target →
      ({ p with chains := before ++ chain.withMatcher (.under "/") :: after } : Proxy).filter
        passage = p.filter passage := by
  intro h
  have hsame : (rootedSite.filter asteriskPassage).1 = (guardedSite.filter asteriskPassage).1 :=
    congrArg Prod.fst (h guardedSite [interface] [] guard "*" asteriskPassage rfl rfl
      (by decide +kernel))
  have hrooted : (rootedSite.filter asteriskPassage).1 = .value () := by decide +kernel
  have hguarded : (guardedSite.filter asteriskPassage).1 = .refused .unauthenticated := by
    decide +kernel
  rw [hrooted, hguarded] at hsame
  cases hsame

end Proxy

end Web

end WebAuth
