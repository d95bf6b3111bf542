import Mathlib.Data.Finset.Card
import WebAuth.Proofs.Session.Listing
import WebAuth.Proofs.Session.Standing

/-!
# Logins within one's own session

A principal who logs in again with a session that is registered under it already needs no
further place: the session takes a new id, and the new id takes the place of the old one among
the live ids of the principal.  This holds whether or not the registry follows the change of
id, since a registration that is left behind under the old id has no live session any more.

It takes the invariant that no principal has more live sessions than the limit says: with more
of them, even such a login would be refused or end somebody's session.

Main results:

- Theorem `LoginStrategy.liveIds_moved_register`: the new id takes the place of the old one.
- Theorem `Realm.KeepsLimit.login`: every login keeps the limit.
- Theorem `Realm.renews_login`: a login within one's own session is accepted, ends no other
  session and leaves the number of live sessions as it is.
-/

namespace WebAuth

open Calendar LoginStrategy

/-! ## Live ids -/

namespace Realm

variable {r room : Realm} {principal id : String}

/-- The ids of a principal's live sessions. -/
def liveIds (r : Realm) (principal : String) : Finset String :=
  ((r.liveSessionsFor principal).map Registration.sessionId).toFinset

theorem mem_liveIds :
    id ∈ r.liveIds principal ↔
      id ∈ r.registry.idsFor principal ∧ ∃ s, r.store.live? r.clock id = some s := by
  rw [liveIds, List.mem_toFinset, List.mem_map, Registry.mem_idsFor]
  constructor
  · rintro ⟨g, hg, rfl⟩
    obtain ⟨hlisted, hlive⟩ := List.mem_filter.mp hg
    exact ⟨⟨g, hlisted, rfl⟩, hasLive_iff.mp hlive⟩
  · rintro ⟨⟨g, hlisted, rfl⟩, hlive⟩
    exact ⟨g, List.mem_filter.mpr ⟨hlisted, hasLive_iff.mpr hlive⟩, rfl⟩

/-- Where no id is on a list twice, every live session has its own id. -/
theorem card_liveIds (h : r.registry.ListsOnce) (principal : String) :
    (r.liveIds principal).card = r.liveCount principal := by
  have hnodup : ((r.liveSessionsFor principal).map Registration.sessionId).Nodup :=
    (h principal).sublist (List.filter_sublist.map Registration.sessionId)
  rw [liveIds, List.toFinset_card_of_nodup hnodup, List.length_map, liveCount]

/-- A sweep leaves a principal its live sessions. -/
theorem liveSessionsFor_swept (r : Realm) (principal : String) :
    (r.swept principal).liveSessionsFor principal = r.liveSessionsFor principal := by
  have hlive : (r.swept principal).hasLive = r.hasLive := rfl
  rw [liveSessionsFor, sessionsFor_swept, hlive, liveSessionsFor, List.filter_filter]
  simp only [Bool.and_self]

/-- A registration leaves the counts of other principals alone. -/
theorem liveCount_register_of_ne {p : String} (h : p ≠ principal) (r : Realm) (id : String) :
    (r.register id principal).liveCount p = r.liveCount p := by
  have hlist : (r.register id principal).registry.sessionsFor p = r.registry.sessionsFor p :=
    Registry.sessionsFor_register_of_ne h _ _ _
  rw [liveCount, liveSessionsFor, hlist]
  rfl

/-- The passing of time adds no live session. -/
theorem liveCount_elapse_le {clock : Timestamp} (h : r.clock.le clock = true)
    (principal : String) :
    ({ r with clock := clock } : Realm).liveCount principal ≤ r.liveCount principal := by
  refine liveCount_le_of_map (f := id) ?_ ?_
  · exact (List.map_id _).symm
  · intro g _ hlive
    obtain ⟨s, hs⟩ := hasLive_iff.mp hlive
    exact hasLive_iff.mpr ⟨s, Store.live?_of_le h hs⟩

end Realm

namespace LoginStrategy

variable {maximum : Int} {strict : Bool} {config : SessionConfig} {tracked migrate : Bool}
  {identity : Identity} {slot : Option Session} {r room : Realm} {principal : String}
  {ending : Ending LoginError Unit} {after : LoginState}

/-- Among the ids listed for a principal, the new one may replace the old one or stand beside
it. -/
theorem mem_idsFor_moved_register {current : Session} {id : String} :
    id ∈ ((moved r tracked migrate identity current).register r.sessionIds.next
        identity.principal).registry.idsFor identity.principal ↔
      id = r.sessionIds.next ∨
        id ∈ (moved r tracked migrate identity current).registry.idsFor identity.principal := by
  refine Registry.mem_idsFor_register.trans ?_
  rw [or_comm]
  simp

/-- The change of an id leaves the other ids on their lists. -/
theorem mem_idsFor_moved_of_ne {current : Session} {id : String} (hold : id ≠ current.id)
    (hnew : id ≠ r.sessionIds.next) :
    id ∈ (moved r tracked migrate identity current).registry.idsFor principal ↔
      id ∈ r.registry.idsFor principal := by
  cases tracked with
  | false => rfl
  | true =>
      refine Registry.mem_idsFor_rename.trans ?_
      simp [hold, hnew]

/-- The change of an id leaves the other sessions as they are. -/
theorem live?_moved_of_ne {current : Session} {id : String} (hold : id ≠ current.id)
    (hnew : id ≠ r.sessionIds.next) :
    (moved r tracked migrate identity current).store.live? r.clock id =
      r.store.live? r.clock id := by
  rw [Store.live?, find?_moved, if_neg hold, if_neg hnew, Store.live?]

/-- When a session has moved and is registered, its new id takes the place of the old one
among the live ids, whether or not the registry has followed. -/
theorem liveIds_moved_register {current : Session} (hlive : current.isExpired r.clock = false)
    (hne : r.sessionIds.next ≠ current.id) :
    ((moved r tracked migrate identity current).register r.sessionIds.next
        identity.principal).liveIds identity.principal =
      insert r.sessionIds.next ((r.liveIds identity.principal).erase current.id) := by
  ext id
  rw [Finset.mem_insert, Finset.mem_erase, Realm.mem_liveIds, Realm.mem_liveIds,
    mem_idsFor_moved_register]
  change _ ∧ (∃ s, (moved r tracked migrate identity current).store.live? r.clock id =
    some s) ↔ _
  by_cases hid : id = r.sessionIds.next
  · subst hid
    have hnext := live?_moved_next tracked migrate identity hlive hne
    exact iff_of_true ⟨Or.inl rfl, _, hnext⟩ (Or.inl rfl)
  by_cases hold : id = current.id
  · subst hold
    have hgone : (moved r tracked migrate identity current).store.live? r.clock current.id =
        none := by
      rw [Store.live?, find?_moved, if_pos rfl]
      rfl
    simp [hgone, hid]
  · rw [mem_idsFor_moved_of_ne hold hid, live?_moved_of_ne hold hid]
    simp [hid, hold]

/-- A session that is live and listed keeps its principal's place when it moves. -/
theorem liveCount_moved_register {current : Session} (hone : r.registry.ListsOnce)
    (hnew : ∀ p, r.sessionIds.next ∉ r.registry.idsFor p) (tracked migrate : Bool)
    (hlive : r.store.live? r.clock current.id = some current)
    (hlisted : current.id ∈ r.registry.idsFor identity.principal) :
    ((moved r tracked migrate identity current).register r.sessionIds.next
        identity.principal).liveCount identity.principal =
      r.liveCount identity.principal := by
  have hne : r.sessionIds.next ≠ current.id := by
    intro heq
    exact hnew identity.principal (heq ▸ hlisted)
  have hleftOnce : ((moved r tracked migrate identity current).register r.sessionIds.next
      identity.principal).registry.ListsOnce :=
    (listsOnce_moved hone hnew tracked migrate identity current).register _ _ _
  have hmem : current.id ∈ r.liveIds identity.principal :=
    Realm.mem_liveIds.mpr ⟨hlisted, current, hlive⟩
  have hnext : r.sessionIds.next ∉ (r.liveIds identity.principal).erase current.id := by
    intro hmem
    exact hnew _ (Realm.mem_liveIds.mp (Finset.mem_of_mem_erase hmem)).1
  rw [← Realm.card_liveIds hleftOnce, ← Realm.card_liveIds hone,
    liveIds_moved_register (Store.live?_eq_some_iff.mp hlive).2 hne,
    Finset.card_insert_of_notMem hnext, Finset.card_erase_add_one hmem]

/-! ## What a limit leaves -/

/-- A live session whose registration a limit leaves is left itself. -/
theorem hasLive_of_limited
    (h : limited maximum strict principal slot r = (ending, room)) {p : String}
    {g : Registration} (hg : g ∈ room.registry.sessionsFor p) (hlive : r.hasLive g = true) :
    room.hasLive g = true := by
  simp only [limited] at h
  split at h
  · cases h
    exact hlive
  · split at h
    · cases h
      exact hlive
    · split at h
      · cases h
        exact hlive
      · cases h
        rw [Realm.ended, Registry.sessionsFor_removeAll] at hg
        have hkept : g.sessionId ∉ oldest maximum (r.liveSessionsFor principal) := by
          simpa using (List.mem_filter.mp hg).2
        have hfind : (r.store.deleteAll (oldest maximum (r.liveSessionsFor principal))).find?
            g.sessionId = r.store.find? g.sessionId := by
          rw [Store.find?_deleteAll, if_neg hkept]
        change ((r.store.deleteAll (oldest maximum (r.liveSessionsFor principal))).live? r.clock
          g.sessionId).isSome = true
        rw [Store.live?, hfind]
        exact hlive

end LoginStrategy

/-! ## The invariant -/

/-- A login has been accepted; the session of the old id and no other has left the store, and
the principal has as many live sessions as before. -/
structure Realm.Renews (principal old : String) (r : Realm) (ending : Ending LoginError Unit)
    (left : Realm) : Prop where
  accepted : ending = .value ()
  find?_old : left.store.find? old = none
  find?_of_ne : ∀ id s, r.store.find? id = some s → id ≠ old → left.store.find? id = some s
  liveCount_eq : left.liveCount principal = r.liveCount principal

/-- What every realm of a run has: ids are new and on no list twice, and no principal has more
live sessions than the limit says. -/
structure Realm.KeepsLimit (maximum : Int) (r : Realm) : Prop where
  sound : r.IsSound
  fresh : r.sessionIds.IsFresh
  numbered : r.Numbered
  listsOnce : r.registry.ListsOnce
  within : ∀ p, r.liveCount p ≤ maximum.toNat

namespace Realm.KeepsLimit

variable {maximum : Int} {strict : Bool} {config : SessionConfig} {tracked migrate : Bool}
  {identity : Identity} {principal : String} {slot : Option Session} {r : Realm}
  {ending : Ending LoginError Unit} {after : LoginState} {current : Session}

theorem issuesNewIds (h : r.KeepsLimit maximum) : r.IssuesNewIds where
  fresh := h.fresh
  registered hg := (h.numbered.registered hg).avoids h.fresh

theorem initial (maximum : Int) (clock : Timestamp) {sessionIds : Supply String}
    (h : sessionIds.IsFresh) : (Realm.initial clock sessionIds).KeepsLimit maximum where
  sound := isSound_initial clock sessionIds
  fresh := h
  numbered := numbered_initial clock sessionIds
  listsOnce := Registry.listsOnce_empty
  within _ := Nat.zero_le _

theorem elapse (h : r.KeepsLimit maximum) {clock : Timestamp} (hle : r.clock.le clock = true) :
    ({ r with clock := clock } : Realm).KeepsLimit maximum where
  sound := h.sound
  fresh := h.fresh
  numbered := ⟨h.numbered.stored, h.numbered.registered⟩
  listsOnce := h.listsOnce
  within p := Nat.le_trans (liveCount_elapse_le hle p) (h.within p)

theorem trimmed {room : Realm} (h : r.KeepsLimit maximum) (htrimmed : Trimmed r room) :
    room.KeepsLimit maximum where
  sound operation := by
    rw [htrimmed.faults_eq]
    exact h.sound operation
  fresh := htrimmed.sessionIds_eq ▸ h.fresh
  numbered := htrimmed.numbered h.numbered
  listsOnce := htrimmed.listsOnce h.listsOnce
  within p := Nat.le_trans (htrimmed.liveCount_le p) (h.within p)

/-! ## Logins within one's own session -/

/-- A login whose session is live and listed passes the check of the limit, which ends no
session. -/
theorem limited_eq (h : r.KeepsLimit maximum) (hmaximum : 1 ≤ maximum) (strict : Bool)
    (hlive : r.store.live? r.clock current.id = some current)
    (hlisted : current.id ∈ r.registry.idsFor principal) :
    limited maximum strict principal (some current) r = (.value (), r.swept principal) :=
  limited_of_listed hmaximum strict hlive (Registry.mem_idsFor.mp hlisted) (h.within principal)

/-- After the sweep and the change of id the principal has as many live sessions as before. -/
theorem liveCount_renewed (h : r.KeepsLimit maximum) (tracked migrate : Bool)
    (hlive : r.store.live? r.clock current.id = some current)
    (hlisted : current.id ∈ r.registry.idsFor identity.principal) :
    ((moved (r.swept identity.principal) tracked migrate identity current).register
        r.sessionIds.next identity.principal).liveCount identity.principal =
      r.liveCount identity.principal := by
  have hswept : (r.swept identity.principal).KeepsLimit maximum :=
    h.trimmed (trimmed_dropDead r _)
  have hkept : current.id ∈ (r.swept identity.principal).registry.idsFor
      identity.principal := by
    obtain ⟨g, hg, hid⟩ := Registry.mem_idsFor.mp hlisted
    refine Registry.mem_idsFor.mpr ⟨g, ?_, hid⟩
    rw [sessionsFor_swept]
    exact List.mem_filter.mpr ⟨hg, hasLive_iff.mpr ⟨current, hid ▸ hlive⟩⟩
  have hnew := hswept.numbered.next_notMem_idsFor hswept.fresh
  have hcount :=
    liveCount_moved_register hswept.listsOnce hnew tracked migrate hlive hkept
  have hsame : (r.swept identity.principal).liveCount identity.principal =
      r.liveCount identity.principal := by
    rw [liveCount, liveSessionsFor_swept, liveCount]
  exact hcount.trans hsame

/-- A login whose session is live and listed for its principal renews that session. -/
theorem renews (h : r.KeepsLimit maximum) (hmaximum : 1 ≤ maximum)
    (hlogin : Rotation maximum strict config tracked migrate identity (some current) r ending
      after)
    (hlive : r.store.live? r.clock current.id = some current)
    (hlisted : current.id ∈ r.registry.idsFor identity.principal) :
    Renews identity.principal current.id r ending after.realm := by
  have hpasses := h.limited_eq hmaximum strict hlive hlisted
  cases hlogin with
  | refused room calls hroom =>
      rw [hpasses] at hroom
      cases hroom
  | aborted room calls hroom hslot => cases hslot
  | created room calls hroom hslot hnew => cases hslot
  | moved room calls hroom hslot =>
      cases hslot
      rw [hpasses] at hroom
      cases hroom
      refine ⟨rfl, ?_, ?_, h.liveCount_renewed tracked migrate hlive hlisted⟩
      · change (LoginStrategy.moved (r.swept identity.principal) tracked migrate identity
          current).store.find? current.id = none
        rw [find?_moved, if_pos rfl]
      · intro id s hs hother
        have hnext : id ≠ (r.swept identity.principal).sessionIds.next :=
          Supply.ne_next_of_hasGiven h.fresh (h.numbered.stored hs)
        change (LoginStrategy.moved (r.swept identity.principal) tracked migrate identity
          current).store.find? id = some s
        rw [find?_moved, if_neg hother, if_neg hnext]
        exact hs

/-! ## Every login keeps the limit -/

/-- When a new session is registered, every principal is within the limit. -/
theorem liveCount_created_register_le {room : Realm} (h : r.KeepsLimit maximum)
    (hmaximum : 1 ≤ maximum)
    (hroom : limited maximum strict identity.principal none r = (.value (), room))
    {session : Session} (hnew : newSession? config room identity = some session) (p : String) :
    ((created room session).register session.id identity.principal).liveCount p ≤
      maximum.toNat := by
  have hkeeps : room.KeepsLimit maximum := h.trimmed (trimmed_of_limited hroom)
  have hcreated := liveCount_created_le hkeeps.issuesNewIds hnew p
  by_cases hp : p = identity.principal
  · subst hp
    have hunlisted : ∀ s : Session, none = some s → r.IsUnlisted identity.principal s.id := by
      intro s hs
      cases hs
    have hless := liveCount_lt_of_limited hmaximum hunlisted hroom
    have hregister := liveCount_register_le (created room session) session.id
      identity.principal
    omega
  · rw [liveCount_register_of_ne hp]
    exact Nat.le_trans hcreated (hkeeps.within p)

/-- When a session that was live has moved and is registered, every principal is within the
limit. -/
theorem liveCount_moved_register_le {room : Realm} (h : r.KeepsLimit maximum)
    (hmaximum : 1 ≤ maximum)
    (hroom : limited maximum strict identity.principal (some current) r = (.value (), room))
    (hlive : r.store.live? r.clock current.id = some current) (p : String) :
    ((moved room tracked migrate identity current).register room.sessionIds.next
      identity.principal).liveCount p ≤ maximum.toNat := by
  have hkeeps : room.KeepsLimit maximum := h.trimmed (trimmed_of_limited hroom)
  have hmoved : (moved room tracked migrate identity current).liveCount p ≤
      room.liveCount p := by
    apply liveCount_moved_le hkeeps.issuesNewIds
    intro g hg hid
    exact hasLive_of_limited hroom hg (hasLive_iff.mpr ⟨current, hid ▸ hlive⟩)
  by_cases hp : p = identity.principal
  · subst hp
    -- The session has a place already, or the check has left one for it.
    by_cases hlisted : current.id ∈ r.registry.idsFor identity.principal
    · rw [h.limited_eq hmaximum strict hlive hlisted] at hroom
      cases hroom
      have hsame := h.liveCount_renewed tracked migrate hlive hlisted
      exact hsame ▸ h.within identity.principal
    · have hunlisted : ∀ s, some current = some s → r.IsUnlisted identity.principal s.id := by
        intro s hs g hg hid
        cases hs
        exact hlisted (Registry.mem_idsFor.mpr ⟨g, hg, hid⟩)
      have hless := liveCount_lt_of_limited hmaximum hunlisted hroom
      have hregister := liveCount_register_le (moved room tracked migrate identity current)
        room.sessionIds.next identity.principal
      omega
  · rw [liveCount_register_of_ne hp]
    exact Nat.le_trans hmoved (hkeeps.within p)

/-- Every login keeps the limit for everybody. -/
theorem login (h : r.KeepsLimit maximum) (hmaximum : 1 ≤ maximum)
    (hlogin : Rotation maximum strict config tracked migrate identity slot r ending after)
    (hlive : ∀ {current}, slot = some current →
      r.store.live? r.clock current.id = some current) : after.realm.KeepsLimit maximum where
  sound operation := by
    rw [hlogin.frame.2.1]
    exact h.sound operation
  fresh := Supply.isFresh_of_item_eq hlogin.frame.2.2 h.fresh
  numbered := hlogin.numbered h.numbered
  listsOnce := hlogin.listsOnce h.fresh h.numbered h.listsOnce
  within := by
    intro p
    cases hlogin with
    | refused room calls hroom =>
        have hkeeps := h.trimmed (trimmed_of_limited hroom)
        exact hkeeps.within p
    | aborted room calls hroom hslot =>
        have hkeeps := h.trimmed (trimmed_of_limited hroom)
        exact hkeeps.within p
    | created room calls hroom hslot hnew =>
        subst hslot
        exact h.liveCount_created_register_le hmaximum hroom hnew p
    | moved room calls hroom hslot =>
        have hbrought := hlive hslot
        subst hslot
        exact h.liveCount_moved_register_le hmaximum hroom hbrought p

/-- Every event keeps the limit. -/
theorem step (h : r.KeepsLimit maximum) (hmaximum : 1 ≤ maximum) (e : LoginEvent) :
    (Realm.step (rotatingLogin maximum strict config tracked migrate) r e).KeepsLimit
      maximum := by
  cases e with
  | login identity sessionId =>
      have hlogin := rotation_of_run h.sound maximum strict config tracked migrate identity
        (r.slot sessionId)
      exact h.login hmaximum hlogin (fun hslot => live?_of_slot hslot)
  | elapse clock =>
      simp only [Realm.step]
      split
      · rename_i hle
        exact h.elapse hle
      · exact h

end Realm.KeepsLimit

/-! ## Reachable realms -/

namespace Realm

variable {maximum : Int} {clock : Timestamp} {sessionIds : Supply String} {r : Realm}

/-- The realms that come about when time passes and identities log in under one limit, each
strictly or not, and with the registry following the change of id or not. -/
inductive IsReached (maximum : Int) (clock : Timestamp) (sessionIds : Supply String) :
    Realm → Prop where
  | initial : IsReached maximum clock sessionIds (Realm.initial clock sessionIds)
  | event {r : Realm} (h : IsReached maximum clock sessionIds r) (strict : Bool)
      (config : SessionConfig) (tracked migrate : Bool) (e : LoginEvent) :
      IsReached maximum clock sessionIds
        (step (rotatingLogin maximum strict config tracked migrate) r e)

/-- Runs of one strategy reach such realms. -/
theorem isReached_play (maximum : Int) (clock : Timestamp) (sessionIds : Supply String)
    (strict : Bool) (config : SessionConfig) (tracked migrate : Bool)
    (events : List LoginEvent) :
    IsReached maximum clock sessionIds ((Realm.initial clock sessionIds).play
      (rotatingLogin maximum strict config tracked migrate) events) :=
  play_induction .initial (fun _ e h => h.event strict config tracked migrate e) events

/-- No principal ever has more live sessions than the limit says. -/
theorem IsReached.keepsLimit (h : IsReached maximum clock sessionIds r)
    (hmaximum : 1 ≤ maximum) (hfresh : sessionIds.IsFresh) : r.KeepsLimit maximum := by
  induction h with
  | initial => exact .initial maximum clock hfresh
  | event _ strict config tracked migrate e ih => exact ih.step hmaximum e

/-- In every realm that logins under a limit reach, a login whose session is live and listed
for its principal is accepted: it takes the session of the old id and no other out of the store,
and leaves the number of its principal's live sessions as it is. -/
theorem renews_login (hmaximum : 1 ≤ maximum) (hfresh : sessionIds.IsFresh)
    (h : IsReached maximum clock sessionIds r) (strict : Bool) (config : SessionConfig)
    (tracked migrate : Bool) {identity : Identity} {sessionId : Option String}
    {current : Session} (hslot : r.slot sessionId = some current)
    (hlisted : current.id ∈ r.registry.idsFor identity.principal) :
    let strategy := rotatingLogin maximum strict config tracked migrate
    Renews identity.principal current.id r (login strategy identity sessionId r).1
      (login strategy identity sessionId r).2 := by
  have hkeeps := h.keepsLimit hmaximum hfresh
  have hlogin := rotation_of_run hkeeps.sound maximum strict config tracked migrate identity
    (r.slot sessionId)
  have hlive := live?_of_slot hslot
  rw [hslot] at hlogin
  have hrenews := hkeeps.renews hmaximum hlogin hlive hlisted
  simp only [login, hslot]
  exact hrenews

/-- An identity logs in and then logs in again with the session that it has got. -/
def comeback : List LoginEvent :=
  [.login (.ofSubject "idp" "alice") none, .login (.ofSubject "idp" "alice") (some "1")]

/-- The session of that identity afterwards. -/
def comebackSession : Session :=
  ⟨"11", .ofSubject "idp" "alice", [], ⟨0, 0⟩, ⟨86400, 0⟩⟩

/-- At a strict limit of one session, with a registration that is left behind because the
registry does not follow, a third login is accepted all the same. -/
theorem renews_login_comeback :
    let strategy := rotatingLogin 1 true .default false true
    let r := (initial ⟨0, 0⟩ .strokes).play strategy comeback
    let alice := Identity.ofSubject "idp" "alice"
    (1 : Int) ≤ 1 ∧ Supply.strokes.IsFresh ∧ IsReached 1 ⟨0, 0⟩ .strokes r ∧
      r.slot (some "11") = some comebackSession ∧
      comebackSession.id ∈ r.registry.idsFor alice.principal ∧
        Renews alice.principal comebackSession.id r (login strategy alice (some "11") r).1
          (login strategy alice (some "11") r).2 := by
  intro strategy r alice
  have hreached : IsReached 1 ⟨0, 0⟩ .strokes r :=
    isReached_play 1 ⟨0, 0⟩ .strokes true .default false true comeback
  have hslot : r.slot (some "11") = some comebackSession := by decide +kernel
  have hlisted : comebackSession.id ∈ r.registry.idsFor alice.principal := by decide +kernel
  exact ⟨Int.le_refl 1, Supply.isFresh_strokes, hreached, hslot, hlisted,
    renews_login (Int.le_refl 1) Supply.isFresh_strokes hreached true .default false true
      hslot hlisted⟩

/-- The registration under the first id is left behind. -/
example :
    ((initial ⟨0, 0⟩ .strokes).play (rotatingLogin 1 true .default false true)
      comeback).registry.idsFor "idp:alice" = ["1", "11"] := by
  decide +kernel

end Realm

end WebAuth
