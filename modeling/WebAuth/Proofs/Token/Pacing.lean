import WebAuth.Proofs.Token.KeyHistory

/-!
# How often unknown keys lead to fetches

A token that names an unknown key leads to a fetch unless the keys held are recent.  Their
age is that of the latest fetch that brought keys.  A fetch that fails leaves them as old as
they were, so the next unknown key leads to a fetch again, however soon it comes.

Main results:

- Theorem `KeySource.Misses.add_pause_le`: a fetch for an unknown key comes at least a pause
  after every fetch that has brought keys.
- Theorem `KeySource.spaced_after_iff`: which calls leave the fetches for unknown keys a
  pause apart.
- Theorem `KeySource.spaced_play_iff`: the fetches for unknown keys stay a pause apart exactly
  until a failed one is repeated early.
-/

namespace WebAuth

open Http

namespace KeySource

variable {s : KeySource} {origin : Network} {now earlier : Nat} {d : KeyDesk}

/-! ## Fetches in the order of their times -/

/-- Fetches, the latest first, in the order of their times and none later than a moment. -/
structure Chronological (fetches : List KeyFetch) (now : Nat) : Prop where
  ordered : fetches.Pairwise (fun later earlier => earlier.time ≤ later.time)
  past : ∀ f ∈ fetches, f.time ≤ now

theorem chronological_nil (now : Nat) : Chronological [] now where
  ordered := List.Pairwise.nil
  past := by simp

theorem Chronological.mono {fetches : List KeyFetch} (h : Chronological fetches earlier)
    (hle : earlier ≤ now) : Chronological fetches now where
  ordered := h.ordered
  past f hf := Nat.le_trans (h.past f hf) hle

/-- A call adds its fetches after those before it. -/
theorem Chronological.after (h : Chronological d.cache.fetches now) (call : KeyCall) :
    Chronological (call.after s now d).cache.fetches now := by
  obtain ⟨during, hduring, htimes⟩ := addsFetchesAt_after s now d call
  rw [hduring]
  constructor
  · rw [List.pairwise_append]
    refine ⟨?_, h.ordered, ?_⟩
    · apply List.pairwise_of_forall_mem_list
      intro later hlater earlier hearlier
      have hsame : earlier.time = later.time := by
        rw [htimes later hlater, htimes earlier hearlier]
      exact Nat.le_of_eq hsame
    · intro later hlater earlier hearlier
      rw [htimes later hlater]
      exact h.past earlier hearlier
  · intro f hf
    rcases List.mem_append.mp hf with hf | hf
    · exact Nat.le_of_eq (htimes f hf)
    · exact h.past f hf

/-- The keys held are not older than any fetch that has brought keys. -/
theorem IsFaithful.time_le_fetchedAt (h : s.IsFaithful origin d)
    (hfetches : Chronological d.cache.fetches now) {held : HeldKeys}
    (hheld : d.cache.held = some held) {f : KeyFetch} (hf : f ∈ d.cache.fetches)
    (hbrought : f.keys ≠ none) : f.time ≤ held.fetchedAt := by
  obtain ⟨later, latest, rest, hsplit, hnone, -, htime⟩ := (h.latest held).mp hheld
  have hordered := hfetches.ordered
  rw [hsplit, List.pairwise_append, List.pairwise_cons] at hordered
  have hrest : ∀ g ∈ rest, g.time ≤ latest.time := hordered.2.1.1
  rw [hsplit, List.mem_append, List.mem_cons] at hf
  rcases hf with hf | rfl | hf
  · exact absurd (hnone f hf) hbrought
  · exact Nat.le_of_eq htime
  · rw [← htime]
    exact hrest f hf

/-! ## Fetches for unknown keys -/

/-- Among fetches, the latest first, one for an unknown key comes a pause or more after every
earlier fetch of some kind. -/
def Spaced (pause : Nat) (kind : KeyFetch → Prop) (fetches : List KeyFetch) : Prop :=
  fetches.Pairwise (fun later earlier =>
    later.cause = .unknownKey → kind earlier → earlier.time + pause ≤ later.time)

variable {pause : Nat} {kind : KeyFetch → Prop}

/-- One more fetch has to keep its distance if it is for an unknown key. -/
theorem spaced_renew_iff (s : KeySource) (now : Nat) (cause : FetchCause) (d : KeyDesk) :
    Spaced pause kind (s.renew now cause d).2.cache.fetches ↔
      (cause = .unknownKey → ∀ f ∈ d.cache.fetches, kind f → f.time + pause ≤ now) ∧
        Spaced pause kind d.cache.fetches := by
  obtain ⟨keys, hfetches⟩ := fetches_renew s now cause d
  rw [hfetches]
  unfold Spaced
  rw [List.pairwise_cons]
  apply and_congr_left'
  constructor
  · intro h hcause f hf hkind
    exact h f hf hcause hkind
  · intro h f hf hcause hkind
    exact h hcause f hf hkind

/-- Asking for the keys leads to no fetch for an unknown one. -/
theorem spaced_keys_iff (s : KeySource) (now : Nat) (d : KeyDesk) :
    Spaced pause kind (s.keys now d).2.cache.fetches ↔ Spaced pause kind d.cache.fetches := by
  rcases s.keys_cases now d with ⟨held, -, -, hfresh⟩ | hstale
  · rw [hfresh]
  · rw [hstale, spaced_renew_iff]
    simp

/-- The keys that a look-up gets lack the key and are not recent. -/
def Misses (s : KeySource) (now : Nat) (id : Option String) (d : KeyDesk) : Prop :=
  ∃ held, s.keys now d = (.value held.keys, (s.keys now d).2) ∧
    (s.keys now d).2.cache.held = some held ∧ held.keys.findKey id = none ∧
      s.isRecent now held = false

/-- A look-up leads to another fetch exactly if the keys that it gets lack the key and are not
recent. -/
theorem findKey_fetches (s : KeySource) (now : Nat) (id : Option String) (d : KeyDesk) :
    (s.findKey now id d).2 = (s.renew now .unknownKey (s.keys now d).2).2 ∧ s.Misses now id d ∨
      (s.findKey now id d).2 = (s.keys now d).2 ∧ ¬s.Misses now id d := by
  rw [findKey, Run.bind_apply]
  rcases hkeys : s.keys now d with ⟨keys | e | _, after⟩
  · obtain ⟨held, hheld, rfl⟩ := held_of_keys hkeys
    have hmisses : s.Misses now id d ↔
        held.keys.findKey id = none ∧ s.isRecent now held = false := by
      unfold Misses
      rw [hkeys]
      simp [hheld]
    rw [hmisses]
    dsimp only
    cases hfound : held.keys.findKey id with
    | some key => simp
    | none =>
        dsimp only
        rw [Run.bind_value (Run.reads_apply _ _)]
        cases hrecent : s.isRecent now held with
        | true =>
            have hkept : after.cache.held.filter (s.isRecent now) = some held := by
              simp [hheld, Option.filter, hrecent]
            rw [hkept]
            simp
        | false =>
            have hold : after.cache.held.filter (s.isRecent now) = none := by
              simp [hheld, Option.filter, hrecent]
            refine Or.inl ⟨?_, rfl, rfl⟩
            rw [hold]
            dsimp only
            rw [Run.bind_apply]
            rcases s.renew now .unknownKey after with ⟨fresh | e | _, renewed⟩
            · rfl
            · rfl
            · rfl
  · refine Or.inr ⟨rfl, ?_⟩
    rintro ⟨held, hvalue, -⟩
    rw [hkeys] at hvalue
    cases hvalue
  · refine Or.inr ⟨rfl, ?_⟩
    rintro ⟨held, hvalue, -⟩
    rw [hkeys] at hvalue
    cases hvalue

/-- A fetch for an unknown key comes at least a pause after every fetch that has brought
keys. -/
theorem Misses.add_pause_le {id : Option String} (h : s.Misses now id d)
    (hfaithful : s.IsFaithful origin d) (hfetches : Chronological d.cache.fetches now)
    {f : KeyFetch} (hf : f ∈ (s.keys now d).2.cache.fetches) (hbrought : f.keys ≠ none) :
    f.time + s.pause ≤ now := by
  obtain ⟨held, -, hheld, -, hrecent⟩ := h
  have hfaithful : s.IsFaithful origin (s.keys now d).2 :=
    KeyCall.after_induction (fun cause d hd => hd.renew now cause) hfaithful .keys
  have hfetches : Chronological (s.keys now d).2.cache.fetches now := hfetches.after .keys
  have hage := hfaithful.time_le_fetchedAt hfetches hheld hf hbrought
  have hpast := hfaithful.fetchedAt_le hfetches.past hheld
  simp only [isRecent, decide_eq_false_iff_not, Nat.not_lt] at hrecent
  omega

/-! ## Calls -/

/-- A call repeats a failed fetch early: the keys held are fresh but not recent and lack the
key that is asked for, and less than a pause ago a fetch for an unknown key has failed. -/
def RepeatsEarly (s : KeySource) (d : KeyDesk) (v : KeyVisit) : Prop :=
  ∃ id held f, v.call = .findKey id ∧ d.cache.held = some held ∧
    s.isFresh v.time held = true ∧ s.isRecent v.time held = false ∧
      held.keys.findKey id = none ∧
        f ∈ d.cache.fetches ∧ f.cause = .unknownKey ∧ f.keys = none ∧ v.time < f.time + s.pause

/-- A look-up that leads to a fetch too soon after one for an unknown key repeats a failed
one. -/
theorem repeatsEarly_iff {v : KeyVisit} {id : Option String} (hcall : v.call = .findKey id)
    (hfaithful : s.IsFaithful origin d) (hfetches : Chronological d.cache.fetches v.time) :
    s.RepeatsEarly d v ↔ s.Misses v.time id d ∧
      ∃ f ∈ (s.keys v.time d).2.cache.fetches, f.cause = .unknownKey ∧
        v.time < f.time + s.pause := by
  constructor
  · rintro ⟨id', held, f, hcall', hheld, hfresh, hrecent, hmissing, hf, hcause, -, hsoon⟩
    rw [hcall] at hcall'
    cases hcall'
    have hkeys := keys_of_fresh hheld hfresh
    refine ⟨⟨held, ?_, ?_, hmissing, hrecent⟩, f, ?_, hcause, hsoon⟩
    · rw [hkeys]
    · rw [hkeys]
      exact hheld
    · rw [hkeys]
      exact hf
  · rintro ⟨hmisses, f, hf, hcause, hsoon⟩
    have hfailed : f.keys = none := by
      by_contra hbrought
      have hpause := hmisses.add_pause_le hfaithful hfetches hf hbrought
      omega
    obtain ⟨held, hvalue, hheld, hmissing, hrecent⟩ := hmisses
    rcases s.keys_cases v.time d with ⟨before, hbefore, hfresh, hkeys⟩ | hstale
    · rw [hkeys] at hheld hf
      rw [hbefore] at hheld
      cases hheld
      exact ⟨id, held, f, hcall, hbefore, hfresh, hrecent, hmissing, hf, hcause, hfailed, hsoon⟩
    · -- Keys that have just been fetched are recent, unless there is no pause at all.
      rw [hstale] at hvalue
      have hjust := held_of_renew hvalue
      rw [← hstale, hheld] at hjust
      have htime : held.fetchedAt = v.time := congrArg HeldKeys.fetchedAt (Option.some.inj hjust)
      have hpast := (hfetches.after (s := s) .keys).past f hf
      simp only [isRecent, htime, Nat.sub_self, decide_eq_false_iff_not, Nat.not_lt] at hrecent
      omega

/-- Every call leaves the fetches for unknown keys a pause or more after the earlier fetches
that have brought keys. -/
theorem spaced_after_of_brought (hfaithful : s.IsFaithful origin d)
    (hfetches : Chronological d.cache.fetches now)
    (hspaced : Spaced s.pause (fun f => f.keys ≠ none) d.cache.fetches) (call : KeyCall) :
    Spaced s.pause (fun f => f.keys ≠ none) (call.after s now d).cache.fetches := by
  cases call with
  | keys => exact (spaced_keys_iff s now d).mpr hspaced
  | refresh =>
      apply (spaced_renew_iff s now .onRequest d).mpr
      exact ⟨by simp, hspaced⟩
  | findKey id =>
      simp only [KeyCall.after]
      rcases s.findKey_fetches now id d with ⟨hagain, hmisses⟩ | ⟨hsame, -⟩
      · rw [hagain, spaced_renew_iff, spaced_keys_iff]
        refine ⟨fun _ f hf hbrought => ?_, hspaced⟩
        exact hmisses.add_pause_le hfaithful hfetches hf hbrought
      · rw [hsame, spaced_keys_iff]
        exact hspaced

/-- A call leaves the fetches for unknown keys a pause apart unless it repeats a failed one
early. -/
theorem spaced_after_iff {v : KeyVisit} (hfaithful : s.IsFaithful origin d)
    (hfetches : Chronological d.cache.fetches v.time)
    (hspaced : Spaced s.pause (fun f => f.cause = .unknownKey) d.cache.fetches) :
    Spaced s.pause (fun f => f.cause = .unknownKey) (v.call.after s v.time d).cache.fetches ↔
      ¬s.RepeatsEarly d v := by
  have hother (hno : ∀ id, v.call ≠ .findKey id) : ¬s.RepeatsEarly d v := by
    rintro ⟨id, _, _, hcall, -⟩
    exact hno id hcall
  cases hcall : v.call with
  | keys =>
      have hquiet := (spaced_keys_iff s v.time d).mpr hspaced
      exact iff_of_true hquiet (hother (by simp [hcall]))
  | refresh =>
      have hquiet := (spaced_renew_iff s v.time .onRequest d).mpr ⟨by simp, hspaced⟩
      exact iff_of_true hquiet (hother (by simp [hcall]))
  | findKey id =>
      rw [repeatsEarly_iff hcall hfaithful hfetches]
      simp only [KeyCall.after]
      rcases s.findKey_fetches v.time id d with ⟨hagain, hmisses⟩ | ⟨hsame, hfinds⟩
      · rw [hagain, spaced_renew_iff, spaced_keys_iff]
        simp [hspaced, hmisses]
      · rw [hsame, spaced_keys_iff]
        exact iff_of_true hspaced (fun h => hfinds h.1)

/-! ## Runs -/

/-- Calls only add fetches. -/
theorem suffix_fetches_play (s : KeySource) (d : KeyDesk) (visits : List KeyVisit) :
    d.cache.fetches <:+ (s.play d visits).cache.fetches := by
  obtain ⟨added, -, hadded⟩ := areOfVisits_play s d visits
  exact ⟨added, hadded.symm⟩

/-- Calls in the order of their times, after the fetches so far. -/
structure InOrder (d : KeyDesk) (visits : List KeyVisit) : Prop where
  ordered : visits.Pairwise (fun v w => v.time ≤ w.time)
  fetches : ∀ v ∈ visits, Chronological d.cache.fetches v.time

/-- The later calls come after the fetches of the first. -/
theorem InOrder.tail {v : KeyVisit} {rest : List KeyVisit} (h : InOrder d (v :: rest)) :
    InOrder (v.call.after s v.time d) rest := by
  have hordered := List.pairwise_cons.mp h.ordered
  constructor
  · exact hordered.2
  · intro w hw
    have hfirst := (h.fetches v List.mem_cons_self).after (s := s) v.call
    exact hfirst.mono (hordered.1 w hw)

/-- Whatever the calls, a fetch for an unknown key comes a pause or more after the earlier
fetches that have brought keys. -/
theorem spaced_play_of_brought {visits : List KeyVisit} (hfaithful : s.IsFaithful origin d)
    (hvisits : InOrder d visits)
    (hspaced : Spaced s.pause (fun f => f.keys ≠ none) d.cache.fetches) :
    Spaced s.pause (fun f => f.keys ≠ none) (s.play d visits).cache.fetches := by
  induction visits generalizing d with
  | nil => exact hspaced
  | cons v rest ih =>
      have hfetches := hvisits.fetches v List.mem_cons_self
      have hafter : s.IsFaithful origin (v.call.after s v.time d) :=
        KeyCall.after_induction (fun cause d hd => hd.renew v.time cause) hfaithful v.call
      rw [play_cons]
      exact ih hafter hvisits.tail (spaced_after_of_brought hfaithful hfetches hspaced v.call)

/-- From fetches that are a pause apart, calls leave them so as long as none repeats a failed
one early. -/
theorem spaced_play_iff_of_spaced {visits : List KeyVisit} (hfaithful : s.IsFaithful origin d)
    (hvisits : InOrder d visits)
    (hspaced : Spaced s.pause (fun f => f.cause = .unknownKey) d.cache.fetches) :
    Spaced s.pause (fun f => f.cause = .unknownKey) (s.play d visits).cache.fetches ↔
      ∀ n v, visits[n]? = some v → ¬s.RepeatsEarly (s.play d (visits.take n)) v := by
  induction visits generalizing d with
  | nil => simpa [play] using hspaced
  | cons v rest ih =>
      have hfetches := hvisits.fetches v List.mem_cons_self
      have hafter : s.IsFaithful origin (v.call.after s v.time d) :=
        KeyCall.after_induction (fun cause d hd => hd.renew v.time cause) hfaithful v.call
      have hstep := spaced_after_iff hfaithful hfetches hspaced
      constructor
      · intro hall n w hw
        rw [play_cons] at hall
        have hfirst := List.Pairwise.sublist (suffix_fetches_play s _ rest).sublist hall
        cases n with
        | zero =>
            cases hw
            exact hstep.mp hfirst
        | succ n =>
            rw [List.take_succ_cons, play_cons]
            exact (ih hafter hvisits.tail hfirst).mp hall n w hw
      · intro hnone
        have hfirst := hstep.mpr (hnone 0 v rfl)
        rw [play_cons]
        apply (ih hafter hvisits.tail hfirst).mpr
        intro n w hw
        exact hnone (n + 1) w hw

/-- Calls at times that do not go back, on a cache that is empty at first.  Every fetch for an
unknown key comes a pause or more after the earlier fetches that have brought keys, whatever
led to these.  The fetches for unknown keys are a pause apart exactly if no call repeats a
failed one early. -/
theorem spaced_play_iff (s : KeySource) (origin : Network) {visits : List KeyVisit}
    (hvisits : visits.Pairwise (fun v w => v.time ≤ w.time)) :
    let d := fun n => s.play ⟨.empty, origin⟩ (visits.take n)
    Spaced s.pause (fun f => f.keys ≠ none) (s.play ⟨.empty, origin⟩ visits).cache.fetches ∧
      (Spaced s.pause (fun f => f.cause = .unknownKey)
          (s.play ⟨.empty, origin⟩ visits).cache.fetches ↔
        ∀ n v, visits[n]? = some v → ¬s.RepeatsEarly (d n) v) := by
  intro d
  have hfaithful := isFaithful_empty s origin
  have horder : InOrder ⟨.empty, origin⟩ visits := ⟨hvisits, fun v _ => chronological_nil v.time⟩
  constructor
  · exact spaced_play_of_brought hfaithful horder List.Pairwise.nil
  · exact spaced_play_iff_of_spaced hfaithful horder List.Pairwise.nil

/-- Keys that are fresh for an hour and recent for half a minute. -/
def hourly : KeySource := ⟨"http://idp.example.com/jwks", 3600, 30⟩

/-- A network that answers the first query with a set without keys and no later one. -/
def onceReachable : Network where
  respond
    | [], _ => .answered ⟨200, none, "\x7b\"keys\":[]\x7d".toUTF8.toList⟩
    | _ :: _, _ => .unreachable
  queries := []

/-- A token with an unknown key, which finds the cache empty, another one after half a minute
and a third one a second later. -/
def impatience : List KeyVisit :=
  [⟨0, .findKey (some "k1")⟩, ⟨30, .findKey (some "k1")⟩, ⟨31, .findKey (some "k1")⟩]

/-- The two statements for these calls. -/
theorem spaced_play_iff_impatience :
    impatience.Pairwise (fun v w => v.time ≤ w.time) ∧
      Spaced 30 (fun f => f.keys ≠ none)
        (hourly.play ⟨.empty, onceReachable⟩ impatience).cache.fetches ∧
      (Spaced 30 (fun f => f.cause = .unknownKey)
          (hourly.play ⟨.empty, onceReachable⟩ impatience).cache.fetches ↔
        ∀ n v, impatience[n]? = some v →
          ¬hourly.RepeatsEarly (hourly.play ⟨.empty, onceReachable⟩ (impatience.take n)) v) :=
  have hordered : impatience.Pairwise (fun v w => v.time ≤ w.time) := by decide
  ⟨hordered, spaced_play_iff hourly onceReachable hordered⟩

/-- The fetch for the second token fails, and a second later the third token leads to another,
although the keys held are fresh throughout. -/
theorem not_spaced_impatience :
    (hourly.play ⟨.empty, onceReachable⟩ impatience).cache.fetches =
        [⟨31, .unknownKey, none⟩, ⟨30, .unknownKey, none⟩, ⟨0, .notFresh, some ⟨[]⟩⟩] ∧
      ¬Spaced 30 (fun f => f.cause = .unknownKey)
        (hourly.play ⟨.empty, onceReachable⟩ impatience).cache.fetches := by
  have hfetches : (hourly.play ⟨.empty, onceReachable⟩ impatience).cache.fetches =
      [⟨31, .unknownKey, none⟩, ⟨30, .unknownKey, none⟩, ⟨0, .notFresh, some ⟨[]⟩⟩] := by
    decide +kernel
  refine ⟨hfetches, ?_⟩
  rw [hfetches]
  intro hspaced
  have hpair := (List.pairwise_cons.mp hspaced).1 ⟨30, .unknownKey, none⟩ List.mem_cons_self
  have hdistance : 30 + 30 ≤ 31 := hpair rfl rfl
  omega

end KeySource

end WebAuth
