import Mathlib.Data.List.Forall2
import WebAuth.Proofs.Http.Exchange
import WebAuth.Proofs.Token.Soundness

/-!
# What a key cache holds

A key cache is asked for its keys, for one key, or to fetch anew, again and again and at
whatever times, while the network answers as it likes.  Every call consists of fetches and
look-ups, and all that a fetch leaves alone is left alone by the calls.  So the keys held
are at all times those of the latest fetch that brought any, and a key that is found is
found in a set that was fetched for the question or is younger than the lifetime.

Main results:

- Theorem `KeyCall.after_induction`: what fetches keep, every call keeps.
- Theorem `KeySource.isCurrent_of_findKey`: how old the keys can be that a key is found in.
- Theorem `KeySource.isFaithful_play`: what is held after any calls, and what is found in it.
-/

namespace WebAuth

open Http

/-! ## Calls -/

/-- What a key cache can be asked for. -/
inductive KeyCall where
  | keys
  | findKey (id : Option String)
  | refresh
deriving DecidableEq, Repr

/-- A call and its time. -/
structure KeyVisit where
  time : Nat
  call : KeyCall
deriving DecidableEq, Repr

/-- What a call leaves behind. -/
def KeyCall.after (s : KeySource) (now : Nat) (d : KeyDesk) : KeyCall → KeyDesk
  | keys => (s.keys now d).2
  | findKey id => (s.findKey now id d).2
  | refresh => (s.refresh now d).2

namespace KeySource

/-- What some calls leave behind, one after another. -/
def play (s : KeySource) (d : KeyDesk) (visits : List KeyVisit) : KeyDesk :=
  visits.foldl (fun d v => v.call.after s v.time d) d

theorem play_cons (s : KeySource) (d : KeyDesk) (v : KeyVisit) (rest : List KeyVisit) :
    s.play d (v :: rest) = s.play (v.call.after s v.time d) rest :=
  rfl

variable {s : KeySource} {now : Nat} {d : KeyDesk}

/-! ## Fetches -/

/-- The queries of one request for keys: there are none if the location is not an address. -/
def IsKeyRequest (location : String) (queries : List Query) : Prop :=
  queries = [] ∨ ∃ url, Url.parse location = .ok url ∧ IsRequestFor keyType url queries

/-- A fetch of keys leaves the queries of one request behind. -/
theorem fetchKeys_leaves (location : String) (n : Network) :
    ∃ queries, IsKeyRequest location queries ∧ (n.NeverRedirects → queries.length ≤ 1) ∧
      (fetchKeys location n).2 = n.after queries := by
  rw [fetchKeys]
  cases hurl : Url.parse location with
  | error e => exact ⟨[], Or.inl rfl, fun _ => Nat.zero_le 1, rfl⟩
  | ok url =>
      obtain ⟨ending, queries, -, hqueries, hfetch⟩ := fetch_leaves keyType url n
      refine ⟨queries, Or.inr ⟨url, hurl, hqueries⟩, ?_, ?_⟩
      · intro hdirect
        obtain ⟨ending', queries', hone, hfetch'⟩ := hdirect.fetch keyType url
        rw [hfetch] at hfetch'
        rw [Network.after_inj (congrArg Prod.snd hfetch')]
        exact hone
      · simp only [Run.bind_apply, hfetch]
        cases ending with
        | value answer => simp only [Run.ofExcept_apply]
        | refused e => rfl
        | aborted => rfl

/-- A fetch of keys brings keys or has a reason why not. -/
theorem fetchKeys_cases (location : String) (n : Network) :
    (∃ keys after, fetchKeys location n = (.value keys, after)) ∨
      ∃ e after, fetchKeys location n = (.refused e, after) := by
  rw [fetchKeys]
  cases Url.parse location with
  | error e => exact Or.inr ⟨_, _, rfl⟩
  | ok url =>
      obtain ⟨ending, queries, hending, -, hfetch⟩ := fetch_leaves keyType url n
      cases ending with
      | value answer =>
          simp only
          rw [Run.bind_value hfetch]
          cases keySetOf answer with
          | ok keys => exact Or.inl ⟨keys, _, rfl⟩
          | error e => exact Or.inr ⟨e, _, rfl⟩
      | refused e =>
          simp only
          rw [Run.bind_refused hfetch]
          exact Or.inr ⟨e, _, rfl⟩
      | aborted => exact absurd rfl hending

/-- A renewal remembers what its fetch brought. -/
theorem renew_cases (s : KeySource) (now : Nat) (cause : FetchCause) (d : KeyDesk) :
    (∃ keys after, fetchKeys s.location d.network = (.value keys, after) ∧
        s.renew now cause d =
          (.value keys, .remember now cause (some keys) { d with network := after })) ∨
      ∃ e after, fetchKeys s.location d.network = (.refused e, after) ∧
        s.renew now cause d =
          (.refused (.unreachableKeys e), .remember now cause none { d with network := after }) := by
  rcases fetchKeys_cases s.location d.network with ⟨keys, after, h⟩ | ⟨e, after, h⟩
  · exact Or.inl ⟨keys, after, h, renew_value h now cause⟩
  · exact Or.inr ⟨e, after, h, renew_refused h now cause⟩

/-! ## Calls as fetches -/

/-- Asking for the keys is using fresh ones or fetching. -/
theorem keys_cases (s : KeySource) (now : Nat) (d : KeyDesk) :
    (∃ held, d.cache.held = some held ∧ s.isFresh now held = true ∧
        s.keys now d = (.value held.keys, d)) ∨
      s.keys now d = s.renew now .notFresh d := by
  rw [keys, Run.bind_value (Run.reads_apply _ _)]
  cases hfresh : d.cache.held.filter (s.isFresh now) with
  | none => exact Or.inr rfl
  | some held =>
      obtain ⟨hheld, hfresh⟩ := Option.filter_eq_some_iff.mp hfresh
      exact Or.inl ⟨held, hheld, hfresh, rfl⟩

/-- Asking for a key is asking for the keys and then perhaps fetching again. -/
theorem findKey_cases (s : KeySource) (now : Nat) (id : Option String) (d : KeyDesk) :
    (s.findKey now id d).2 = (s.keys now d).2 ∨
      (s.findKey now id d).2 = (s.renew now .unknownKey (s.keys now d).2).2 := by
  rw [findKey, Run.bind_apply]
  rcases s.keys now d with ⟨keys | e | _, after⟩
  · simp only
    cases keys.findKey id with
    | some key => exact Or.inl rfl
    | none =>
        simp only
        rw [Run.bind_value (Run.reads_apply _ _)]
        cases after.cache.held.filter (s.isRecent now) with
        | some held => exact Or.inl rfl
        | none =>
            simp only
            rw [Run.bind_apply]
            refine Or.inr ?_
            rcases s.renew now .unknownKey after with ⟨fresh | e | _, renewed⟩
            · rfl
            · rfl
            · rfl
  · exact Or.inl rfl
  · exact Or.inl rfl

end KeySource

/-- What fetches keep, every call keeps. -/
theorem KeyCall.after_induction {P : KeyDesk → Prop} {s : KeySource} {now : Nat} {d : KeyDesk}
    (hrenew : ∀ cause d, P d → P (s.renew now cause d).2) (h : P d) (call : KeyCall) :
    P (call.after s now d) := by
  have hkeys : P (s.keys now d).2 := by
    rcases s.keys_cases now d with ⟨held, -, -, hfresh⟩ | hstale
    · rw [hfresh]
      exact h
    · rw [hstale]
      exact hrenew .notFresh d h
  cases call with
  | keys => exact hkeys
  | refresh => exact hrenew .onRequest d h
  | findKey id =>
      rw [after]
      rcases s.findKey_cases now id d with hsame | hagain
      · rw [hsame]
        exact hkeys
      · rw [hagain]
        exact hrenew .unknownKey _ hkeys

/-! ## True histories -/

namespace KeySource

/-- Fetches, the latest first, that lead the network from one state to another: each has asked
for the keys and is remembered with what it then brought. -/
inductive HasFetched (s : KeySource) (origin : Network) : List KeyFetch → Network → Prop where
  | nothing : HasFetched s origin [] origin
  | brought {fetches : List KeyFetch} {n after : Network} {keys : KeySet}
      (h : HasFetched s origin fetches n)
      (hfetch : fetchKeys s.location n = (.value keys, after)) (time : Nat) (cause : FetchCause) :
      HasFetched s origin (⟨time, cause, some keys⟩ :: fetches) after
  | failed {fetches : List KeyFetch} {n after : Network} {e : FetchError}
      (h : HasFetched s origin fetches n)
      (hfetch : fetchKeys s.location n = (.refused e, after)) (time : Nat) (cause : FetchCause) :
      HasFetched s origin (⟨time, cause, none⟩ :: fetches) after

/-- Keys are those of the latest fetch that brought any, and of its time. -/
def IsLatest (fetches : List KeyFetch) (held : HeldKeys) : Prop :=
  ∃ later f earlier, fetches = later ++ f :: earlier ∧ (∀ g ∈ later, g.keys = none) ∧
    f.keys = some held.keys ∧ f.time = held.fetchedAt

/-- Before any fetch there are no latest keys. -/
theorem not_isLatest_nil (held : HeldKeys) : ¬IsLatest [] held := by
  rintro ⟨later, f, earlier, hsplit, -⟩
  simp at hsplit

/-- The keys of a fetch that brought some are the latest. -/
theorem isLatest_cons_some {fetches : List KeyFetch} {time : Nat} {cause : FetchCause}
    {keys : KeySet} {held : HeldKeys} :
    IsLatest (⟨time, cause, some keys⟩ :: fetches) held ↔ ⟨keys, time⟩ = held := by
  constructor
  · rintro ⟨later, f, earlier, hsplit, hnone, hkeys, htime⟩
    cases later with
    | nil =>
        obtain ⟨rfl, -⟩ := List.cons.inj hsplit
        obtain ⟨set, fetchedAt⟩ := held
        cases hkeys
        cases htime
        rfl
    | cons g rest =>
        obtain ⟨rfl, -⟩ := List.cons.inj hsplit
        cases hnone _ List.mem_cons_self
  · rintro rfl
    exact ⟨[], _, fetches, rfl, nofun, rfl, rfl⟩

/-- A fetch that brought none changes nothing about the latest keys. -/
theorem isLatest_cons_none {fetches : List KeyFetch} {time : Nat} {cause : FetchCause}
    {held : HeldKeys} :
    IsLatest (⟨time, cause, none⟩ :: fetches) held ↔ IsLatest fetches held := by
  constructor
  · rintro ⟨later, f, earlier, hsplit, hnone, hkeys, htime⟩
    cases later with
    | nil =>
        obtain ⟨rfl, -⟩ := List.cons.inj hsplit
        cases hkeys
    | cons g rest =>
        obtain ⟨-, rfl⟩ := List.cons.inj hsplit
        exact ⟨rest, f, earlier, rfl, fun g hg => hnone g (List.mem_cons_of_mem _ hg), hkeys,
          htime⟩
  · rintro ⟨later, f, earlier, rfl, hnone, hkeys, htime⟩
    exact ⟨_ :: later, f, earlier, rfl, List.forall_mem_cons.mpr ⟨rfl, hnone⟩, hkeys, htime⟩

/-- What is remembered is what happened on the network, and the keys held are the latest. -/
structure IsFaithful (s : KeySource) (origin : Network) (d : KeyDesk) : Prop where
  fetched : s.HasFetched origin d.cache.fetches d.network
  latest : ∀ held, d.cache.held = some held ↔ IsLatest d.cache.fetches held

variable {s : KeySource} {origin : Network} {now : Nat} {d left : KeyDesk}

/-- A renewal keeps the history true, whether its fetch brings keys or not. -/
theorem IsFaithful.renew (h : s.IsFaithful origin d) (now : Nat) (cause : FetchCause) :
    s.IsFaithful origin (s.renew now cause d).2 := by
  rcases s.renew_cases now cause d with ⟨keys, after, hfetch, hrenew⟩ | ⟨e, after, hfetch, hrenew⟩
  · rw [hrenew]
    refine ⟨h.fetched.brought hfetch now cause, fun held => ?_⟩
    change some ⟨keys, now⟩ = some held ↔ _
    rw [Option.some_inj]
    exact isLatest_cons_some.symm
  · rw [hrenew]
    refine ⟨h.fetched.failed hfetch now cause, fun held => ?_⟩
    change d.cache.held = some held ↔ _
    rw [h.latest held]
    exact isLatest_cons_none.symm

/-- Nothing fetched is a true history. -/
theorem isFaithful_empty (s : KeySource) (origin : Network) :
    s.IsFaithful origin ⟨.empty, origin⟩ where
  fetched := .nothing
  latest held := ⟨nofun, fun h => absurd h (not_isLatest_nil held)⟩

/-- Any calls keep the history true. -/
theorem IsFaithful.play (h : s.IsFaithful origin d) (visits : List KeyVisit) :
    s.IsFaithful origin (s.play d visits) := by
  induction visits generalizing d with
  | nil => exact h
  | cons v rest ih =>
      rw [play_cons]
      refine ih (KeyCall.after_induction ?_ h v.call)
      exact fun cause d hd => hd.renew v.time cause

/-! ## When fetches happen -/

/-- Between two states some fetches have happened, all of them at one time. -/
def AddsFetchesAt (now : Nat) (d left : KeyDesk) : Prop :=
  ∃ during, left.cache.fetches = during ++ d.cache.fetches ∧ ∀ f ∈ during, f.time = now

/-- A renewal is one more fetch. -/
theorem fetches_renew (s : KeySource) (now : Nat) (cause : FetchCause) (d : KeyDesk) :
    ∃ keys, (s.renew now cause d).2.cache.fetches = ⟨now, cause, keys⟩ :: d.cache.fetches := by
  rcases s.renew_cases now cause d with ⟨keys, after, -, h⟩ | ⟨e, after, -, h⟩
  · exact ⟨some keys, by rw [h]; rfl⟩
  · exact ⟨none, by rw [h]; rfl⟩

/-- A call fetches at its time. -/
theorem addsFetchesAt_after (s : KeySource) (now : Nat) (d : KeyDesk) (call : KeyCall) :
    AddsFetchesAt now d (call.after s now d) := by
  refine KeyCall.after_induction ?_ ⟨[], rfl, nofun⟩ call
  rintro cause middle ⟨during, hduring, htimes⟩
  obtain ⟨keys, hfetches⟩ := s.fetches_renew now cause middle
  refine ⟨⟨now, cause, keys⟩ :: during, ?_, List.forall_mem_cons.mpr ⟨rfl, htimes⟩⟩
  rw [hfetches, hduring, List.cons_append]

/-- Fetches, the latest first, that have happened in the course of some calls: those of each
call at its time. -/
def AreOfVisits (visits : List KeyVisit) (fetches : List KeyFetch) : Prop :=
  ∃ parts, List.Forall₂ (fun v part => ∀ f ∈ part, f.time = v.time) visits parts ∧
    fetches = parts.reverse.flatten

/-- The fetches in the course of some calls are those of each call at its time. -/
theorem areOfVisits_play (s : KeySource) (d : KeyDesk) (visits : List KeyVisit) :
    ∃ added, AreOfVisits visits added ∧
      (s.play d visits).cache.fetches = added ++ d.cache.fetches := by
  induction visits generalizing d with
  | nil => exact ⟨[], ⟨[], .nil, rfl⟩, rfl⟩
  | cons v rest ih =>
      obtain ⟨during, hduring, htimes⟩ := addsFetchesAt_after s v.time d v.call
      obtain ⟨added, ⟨parts, hparts, hadded⟩, hrest⟩ := ih (v.call.after s v.time d)
      refine ⟨added ++ during, ⟨during :: parts, .cons htimes hparts, ?_⟩, ?_⟩
      · simp [hadded]
      · rw [play_cons, hrest, hduring, List.append_assoc]

/-- No fetch is later than the calls. -/
theorem AreOfVisits.time_le {visits : List KeyVisit} {fetches : List KeyFetch}
    (h : AreOfVisits visits fetches) (hvisits : ∀ v ∈ visits, v.time ≤ now) :
    ∀ f ∈ fetches, f.time ≤ now := by
  obtain ⟨parts, hparts, rfl⟩ := h
  suffices hall : ∀ part ∈ parts, ∀ f ∈ part, f.time ≤ now by
    intro f hf
    obtain ⟨part, hpart, hmem⟩ := List.mem_flatten.mp hf
    exact hall part (List.mem_reverse.mp hpart) f hmem
  induction hparts with
  | nil => nofun
  | cons htimes _ ih =>
      obtain ⟨hfirst, hrest⟩ := List.forall_mem_cons.mp hvisits
      refine List.forall_mem_cons.mpr ⟨fun f hf => ?_, ih hrest⟩
      rw [htimes f hf]
      exact hfirst

/-- Held keys are not of the future. -/
theorem IsFaithful.fetchedAt_le (h : s.IsFaithful origin d)
    (hfetches : ∀ f ∈ d.cache.fetches, f.time ≤ now) {held : HeldKeys}
    (hheld : d.cache.held = some held) : held.fetchedAt ≤ now := by
  obtain ⟨later, f, earlier, hsplit, -, -, htime⟩ := (h.latest held).mp hheld
  rw [← htime]
  exact hfetches f (by rw [hsplit]; exact List.mem_append_right later List.mem_cons_self)

/-! ## How old keys can be -/

/-- Keys that are held after a call at some time are recent enough: they are the latest that
were fetched during the call, or they were held before it and are younger than the lifetime. -/
inductive IsCurrent (s : KeySource) (now : Nat) (d left : KeyDesk) (held : HeldKeys) : Prop where
  | fetched (during : List KeyFetch) (hduring : left.cache.fetches = during ++ d.cache.fetches)
      (hlatest : IsLatest during held)
  | kept (hheld : d.cache.held = some held) (hpast : held.fetchedAt ≤ now)
      (hfresh : now < held.fetchedAt + s.lifetime)

/-- Keys that are asked for are recent enough. -/
theorem isCurrent_of_keys {keys : KeySet} {held : HeldKeys}
    (hpast : ∀ held, d.cache.held = some held → held.fetchedAt ≤ now)
    (h : s.keys now d = (.value keys, left)) (hheld : left.cache.held = some held) :
    s.IsCurrent now d left held := by
  rcases s.keys_cases now d with ⟨before, hbefore, hfresh, hkeys⟩ | hstale
  · rw [h] at hkeys
    obtain ⟨-, rfl⟩ := Prod.mk.inj hkeys
    rw [hbefore] at hheld
    cases hheld
    have hle := hpast held hbefore
    rw [isFresh, decide_eq_true_eq] at hfresh
    exact .kept hbefore hle (by omega)
  · rcases s.renew_cases now .notFresh d with ⟨keys', after, -, hrenew⟩ | ⟨e, after, -, hrenew⟩
    · rw [hstale, hrenew] at h
      cases h
      cases hheld
      exact .fetched [⟨now, .notFresh, some keys⟩] rfl
        (isLatest_cons_some.mpr rfl)
    · rw [hstale, hrenew] at h
      cases h

/-- Another fetch in a call leaves keys that are recent enough. -/
theorem IsCurrent.renew {middle : KeyDesk} (cause : FetchCause)
    (hadds : AddsFetchesAt now d middle)
    (h : ∀ held, middle.cache.held = some held → s.IsCurrent now d middle held) {held : HeldKeys}
    (hheld : (s.renew now cause middle).2.cache.held = some held) :
    s.IsCurrent now d (s.renew now cause middle).2 held := by
  rcases s.renew_cases now cause middle with ⟨keys, after, -, hrenew⟩ | ⟨e, after, -, hrenew⟩
  · obtain ⟨during, hduring, -⟩ := hadds
    rw [hrenew] at hheld ⊢
    cases hheld
    exact .fetched (⟨now, cause, some keys⟩ :: during)
      (congrArg (List.cons _) hduring) (isLatest_cons_some.mpr rfl)
  · rw [hrenew] at hheld ⊢
    cases h held hheld with
    | @fetched during hduring hlatest =>
        exact .fetched (⟨now, cause, none⟩ :: during)
          (congrArg (List.cons _) hduring) (isLatest_cons_none.mpr hlatest)
    | kept hbefore hpast hfresh => exact .kept hbefore hpast hfresh

/-- The keys that are held when a key has been looked up are recent enough. -/
theorem isCurrent_of_findKey {id : Option String} {found : Option PublishedKey} {held : HeldKeys}
    (hpast : ∀ held, d.cache.held = some held → held.fetchedAt ≤ now)
    (h : s.findKey now id d = (.value found, left)) (hheld : left.cache.held = some held) :
    s.IsCurrent now d left held := by
  obtain ⟨keys, middle, hkeys, -⟩ := Run.bind_eq_value_iff.mp h
  have hcurrent (held : HeldKeys) (hheld : middle.cache.held = some held) :=
    isCurrent_of_keys hpast hkeys hheld
  have hcases := s.findKey_cases now id d
  rw [h, hkeys] at hcases
  rcases hcases with rfl | rfl
  · exact hcurrent held hheld
  · have hadds := addsFetchesAt_after s now d .keys
    rw [KeyCall.after, hkeys] at hadds
    exact IsCurrent.renew .unknownKey hadds hcurrent hheld

/-! ## Any calls at all -/

/-- Whatever a cache is asked and whatever its fetches bring, its history is true and made up
of the fetches of the calls at their times, and the keys held are those of the latest fetch
that brought any.  A key that is then looked up is the first that can be meant of the keys
held afterwards, and these were fetched for the question or are younger than the lifetime. -/
theorem isFaithful_play (s : KeySource) (origin : Network) (visits : List KeyVisit) :
    let d := s.play ⟨.empty, origin⟩ visits
    s.HasFetched origin d.cache.fetches d.network ∧ AreOfVisits visits d.cache.fetches ∧
      (∀ held, d.cache.held = some held ↔ IsLatest d.cache.fetches held) ∧
      ∀ now id found left, (∀ v ∈ visits, v.time ≤ now) →
        s.findKey now id d = (.value found, left) →
          ∃ held, left.cache.held = some held ∧
            (∀ k, found = some k ↔ held.keys.IsFirst id k) ∧ s.IsCurrent now d left held := by
  intro d
  have hfaithful : s.IsFaithful origin d := (isFaithful_empty s origin).play visits
  obtain ⟨added, hvisits, hadded⟩ := areOfVisits_play s ⟨.empty, origin⟩ visits
  have hfetches : d.cache.fetches = added := hadded.trans (List.append_nil added)
  rw [← hfetches] at hvisits
  refine ⟨hfaithful.fetched, hvisits, hfaithful.latest, ?_⟩
  intro now id found left htimes hfound
  obtain ⟨held, hheld, rfl⟩ := held_of_findKey hfound
  refine ⟨held, hheld, fun k => KeySet.findKey_eq_some_iff, isCurrent_of_findKey ?_ hfound hheld⟩
  intro before hbefore
  exact hfaithful.fetchedAt_le (hvisits.time_le htimes) hbefore

end KeySource

end WebAuth
