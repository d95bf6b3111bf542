import WebAuth.Http.Network
import WebAuth.Run
import WebAuth.Token.Key

/-!
# The key cache

The key set of an issuer is fetched when it is needed and kept for a while.  A
token that names an unknown key leads to another fetch, unless the set was fetched
only a moment ago.  Every fetch is remembered with its time, its cause and what it
brought.

Main results:

* `KeySource.renew_value`, `KeySource.renew_refused`: what a fetch changes;
* `KeySource.keys_of_fresh`: a fresh set is used without a fetch.
-/

namespace WebAuth

open Http

/-- Where keys are fetched from and how long they are kept, in one unit of time. -/
structure KeySource where
  location : String
  /-- How long a fetched set counts as fresh. -/
  lifetime : Nat
  /-- How long unknown keys cause no fetch after a fetch. -/
  pause : Nat
deriving DecidableEq, Repr

/-- Why keys are fetched. -/
inductive FetchCause where
  /-- No fresh set is held. -/
  | notFresh
  | unknownKey
  | onRequest
deriving DecidableEq, Repr

/-- A fetch of keys. -/
structure KeyFetch where
  time : Nat
  cause : FetchCause
  keys : Option KeySet
deriving DecidableEq, Repr

/-- A key set and when it was fetched. -/
structure HeldKeys where
  keys : KeySet
  fetchedAt : Nat
deriving DecidableEq, Repr

/-- What is kept of fetched keys. -/
structure KeyCache where
  held : Option HeldKeys
  /-- The fetches so far, the latest first. -/
  fetches : List KeyFetch
deriving DecidableEq, Repr

/-- Nothing fetched. -/
def KeyCache.empty : KeyCache := ⟨none, []⟩

/-- A cache and the network behind it. -/
structure KeyDesk where
  cache : KeyCache
  network : Network

namespace KeyDesk

/-- Work on the network; its refusals mean that the keys are out of reach. -/
def onNetwork {α : Type} (x : Run Network FetchError α) : Run KeyDesk TokenError α :=
  (x.within KeyDesk.network (fun d n => { d with network := n })).mapReason .unreachableKeys

/-- Remember a fetch; keys that it brought are held. -/
def remember (now : Nat) (cause : FetchCause) (keys : Option KeySet) (d : KeyDesk) : KeyDesk :=
  { d with
    cache :=
      { held := (keys.map (fun set => ⟨set, now⟩)).or d.cache.held
        fetches := ⟨now, cause, keys⟩ :: d.cache.fetches } }

end KeyDesk

/-! ## Fetching -/

/-- Keys are taken in any form. -/
def keyType : String := "*/*"

/-- The key set in the body of an answer. -/
def keySetOf (answer : Reply × Url) : Except FetchError KeySet := do
  let (body, url) ← accepted answer
  match KeySet.ofOctets? body with
  | some keys => .ok keys
  | none => .error (.body (shownAddress url))

/-- Fetch a key set. -/
def fetchKeys (location : String) : Run Network FetchError KeySet :=
  match Url.parse location with
  | .error _ => .refuse .notAddress
  | .ok url => do
      let answer ← fetch keyType url
      .ofExcept (keySetOf answer)

namespace KeySource

open KeyDesk

/-- Fetch the keys and hold them; a fetch that fails leaves the held keys alone. -/
def renew (s : KeySource) (now : Nat) (cause : FetchCause) : Run KeyDesk TokenError KeySet := do
  match ← (onNetwork (fetchKeys s.location)).attempt with
  | .ok keys => do
      Run.change (remember now cause (some keys))
      pure keys
  | .error e => do
      Run.change (remember now cause none)
      .refuse e

/-- Whether held keys are fresh. -/
def isFresh (s : KeySource) (now : Nat) (held : HeldKeys) : Bool :=
  now - held.fetchedAt < s.lifetime

/-- The keys, fetched if no fresh ones are held. -/
def keys (s : KeySource) (now : Nat) : Run KeyDesk TokenError KeySet := do
  match (← .reads (fun d => d.cache.held)).filter (s.isFresh now) with
  | some held => pure held.keys
  | none => s.renew now .notFresh

/-- Whether held keys were fetched only a moment ago. -/
def isRecent (s : KeySource) (now : Nat) (held : HeldKeys) : Bool :=
  now - held.fetchedAt < s.pause

/-- The key that a token means.  An unknown id leads to another fetch, unless the
held keys were fetched only a moment ago. -/
def findKey (s : KeySource) (now : Nat) (id : Option String) :
    Run KeyDesk TokenError (Option PublishedKey) := do
  match (← s.keys now).findKey id with
  | some key => pure (some key)
  | none =>
      match (← .reads (fun d => d.cache.held)).filter (s.isRecent now) with
      | some held => pure (held.keys.findKey id)
      | none => do
          let fresh ← s.renew now .unknownKey
          pure (fresh.findKey id)

/-- Fetch the keys in any case. -/
def refresh (s : KeySource) (now : Nat) : Run KeyDesk TokenError KeySet :=
  s.renew now .onRequest

/-! ## Equations -/

/-- A fetch that succeeds replaces the held keys. -/
theorem renew_value {s : KeySource} {d : KeyDesk} {keys : KeySet} {n : Network}
    (h : fetchKeys s.location d.network = (.value keys, n)) (now : Nat) (cause : FetchCause) :
    s.renew now cause d =
      (.value keys, remember now cause (some keys) { d with network := n }) := by
  simp [renew, onNetwork, Run.bind_apply, Run.attempt, h, Ending.mapReason]

/-- A fetch that fails is remembered and changes nothing else. -/
theorem renew_refused {s : KeySource} {d : KeyDesk} {e : FetchError} {n : Network}
    (h : fetchKeys s.location d.network = (.refused e, n)) (now : Nat) (cause : FetchCause) :
    s.renew now cause d =
      (.refused (.unreachableKeys e), remember now cause none { d with network := n }) := by
  simp [renew, onNetwork, Run.bind_apply, Run.attempt, h, Ending.mapReason]

/-- A fresh set is used without a fetch. -/
theorem keys_of_fresh {s : KeySource} {now : Nat} {d : KeyDesk} {held : HeldKeys}
    (hheld : d.cache.held = some held) (hfresh : s.isFresh now held = true) :
    s.keys now d = (.value held.keys, d) := by
  simp [keys, Run.bind_apply, hheld, Option.filter, hfresh]

end KeySource

end WebAuth
