import WebAuth.Proofs.Session.Runs

/-!
# Whose session a registered session is

The registry lists a session under a principal, and the store binds the session to an
identity.  The two agree throughout a run exactly as long as no login takes over a
live session of another principal: the registry renames such a session where it
stands, on the list of its old owner, before the new owner is added.

Main results:

- Theorem `LoginStrategy.Admission.ownersAgree_iff`: which logins keep the agreement.
- Theorem `Realm.ownersAgree_iff_singleOwner`: agreement means that no live session
  is listed under two principals.
- Theorem `Realm.ownersAgree_play_iff`: the agreement lasts exactly until a takeover.
-/

namespace WebAuth

open Calendar

/-! ## Agreement -/

namespace Realm

/-- The live sessions on a principal's list are bound to that principal. -/
def OwnersAgree (r : Realm) : Prop :=
  ∀ ⦃p g s⦄, g ∈ r.registry.sessionsFor p →
    r.store.live? r.clock g.sessionId = some s → s.identity.principal = p

/-- No live session is on the lists of two principals. -/
def SingleOwner (r : Realm) : Prop :=
  ∀ ⦃p q g g'⦄, g ∈ r.registry.sessionsFor p → g' ∈ r.registry.sessionsFor q →
    g.sessionId = g'.sessionId → r.hasLive g = true → p = q

/-- Every live session is on the list of the principal to which it is bound. -/
def AllRegistered (r : Realm) : Prop :=
  ∀ ⦃id s⦄, r.store.live? r.clock id = some s →
    ∃ g ∈ r.registry.sessionsFor s.identity.principal, g.sessionId = id

/-- The login is accepted and brings a live session of another principal. -/
def TakesOver (strategy : LoginStrategy) (r : Realm) (e : LoginEvent) : Prop :=
  ∃ identity sessionId current, e = .login identity sessionId ∧
    r.slot sessionId = some current ∧
    current.identity.principal ≠ identity.principal ∧
    (login strategy identity sessionId r).1 = .value ()

/-- Where every live session is registered, agreement means that no live session is
listed under two principals. -/
theorem ownersAgree_iff_singleOwner {r : Realm} (h : r.AllRegistered) :
    r.OwnersAgree ↔ r.SingleOwner := by
  constructor
  · intro hagree p q g g' hg hg' hid hlive
    obtain ⟨s, hs⟩ := hasLive_iff.mp hlive
    rw [← hagree hg hs]
    exact hagree hg' (hid ▸ hs)
  · intro hsingle p g s hg hs
    obtain ⟨own, hown, hid⟩ := h hs
    exact (hsingle hg hown hid.symm (hasLive_iff.mpr ⟨s, hs⟩)).symm

/-- The session that a login brings is the live session of its own id. -/
theorem live?_of_slot {r : Realm} {sessionId : Option String} {current : Session}
    (h : r.slot sessionId = some current) :
    r.store.live? r.clock current.id = some current := by
  obtain ⟨id, -, hlive⟩ := Option.bind_eq_some_iff.mp h
  have hid : current.id = id := Store.id_of_find? (Store.live?_eq_some_iff.mp hlive).1
  rw [hid]
  exact hlive

/-! ## What trimming keeps -/

theorem Trimmed.ownersAgree {r room : Realm} (h : Trimmed r room) (hr : r.OwnersAgree) :
    room.OwnersAgree :=
  fun _ _ _ hg hs => hr ((h.sublist _).subset hg) (h.live?_of_live? hs)

theorem Trimmed.allRegistered {r room : Realm} (h : Trimmed r room) (hr : r.AllRegistered) :
    room.AllRegistered := by
  intro id s hs
  obtain ⟨g, hg, rfl⟩ := hr (h.live?_of_live? hs)
  exact ⟨g, h.mem_of_hasLive hg (hasLive_iff.mpr ⟨s, hs⟩), rfl⟩

end Realm

/-! ## Sessions that a limit leaves alone -/

namespace LoginStrategy

/-- A limit keeps the registrations of sessions that are not on the principal's list. -/
theorem mem_sessionsFor_limited {r : Realm} {principal other : String} {g : Registration}
    (hg : g ∈ r.registry.sessionsFor other)
    (hnot : ∀ own ∈ r.registry.sessionsFor principal, own.sessionId ≠ g.sessionId)
    (maximum : Int) (strict : Bool) (slot : Option Session) :
    g ∈ (limited maximum strict principal slot r).2.registry.sessionsFor other := by
  have hswept : g ∈ (r.swept principal).registry.sessionsFor other := by
    rw [Realm.swept, Realm.dropDead, Registry.sessionsFor_removeAll]
    refine List.mem_filter.mpr ⟨hg, ?_⟩
    simp only [List.mem_map, List.mem_filter, decide_eq_true_eq, not_exists, not_and]
    intro own hown
    exact hnot own hown.1
  simp only [limited]
  split
  · exact hg
  · split
    · exact hswept
    · split
      · exact hswept
      · rw [Realm.ended, Registry.sessionsFor_removeAll]
        refine List.mem_filter.mpr ⟨hswept, ?_⟩
        simp only [oldest, List.mem_map, decide_eq_true_eq, not_exists, not_and]
        intro own hown
        exact hnot own (List.mem_filter.mp (List.mem_of_mem_take hown)).1

/-! ## Live sessions after a login -/

/-- A live session after a new one has been stored is the new one or was live before. -/
theorem live?_created {r : Realm} {session s : Session} {id : String}
    (h : (created r session).store.live? r.clock id = some s) :
    id = session.id ∧ s = session ∨
      id ≠ session.id ∧ r.store.live? r.clock id = some s := by
  obtain ⟨hfind, hlive⟩ := Store.live?_eq_some_iff.mp h
  rw [find?_created] at hfind
  split at hfind
  · rename_i hid
    exact Or.inl ⟨hid, (Option.some.inj hfind).symm⟩
  · rename_i hid
    exact Or.inr ⟨hid, Store.live?_eq_some_iff.mpr ⟨hfind, hlive⟩⟩

/-- A live session after one has moved is the moved one or was live before under an id
that is neither the old nor the new one. -/
theorem live?_moved {r : Realm} (tracked : Bool) {migrate : Bool} {identity : Identity}
    {current s : Session} {id : String}
    (h : (moved r tracked migrate identity current).store.live? r.clock id = some s) :
    id = r.sessionIds.next ∧ s = rebound current r.sessionIds.next identity migrate ∨
      id ≠ current.id ∧ id ≠ r.sessionIds.next ∧ r.store.live? r.clock id = some s := by
  obtain ⟨hfind, hlive⟩ := Store.live?_eq_some_iff.mp h
  rw [find?_moved] at hfind
  split at hfind
  · contradiction
  · rename_i hold
    split at hfind
    · rename_i hnew
      exact Or.inl ⟨hnew, (Option.some.inj hfind).symm⟩
    · rename_i hnew
      exact Or.inr ⟨hold, hnew, Store.live?_eq_some_iff.mpr ⟨hfind, hlive⟩⟩

/-- A live session is live under its new id after it has moved. -/
theorem live?_moved_next {r : Realm} (tracked migrate : Bool) (identity : Identity)
    {current : Session} (hlive : current.isExpired r.clock = false)
    (hne : r.sessionIds.next ≠ current.id) :
    (moved r tracked migrate identity current).store.live? r.clock r.sessionIds.next =
      some (rebound current r.sessionIds.next identity migrate) := by
  refine Store.live?_eq_some_iff.mpr ⟨?_, hlive⟩
  rw [find?_moved, if_neg hne, if_pos rfl]

/-! ## One login -/

variable {maximum : Int} {strict : Bool} {config : SessionConfig} {migrate : Bool}
  {identity : Identity} {slot : Option Session} {r left : Realm}
  {ending : Ending LoginError Unit}

/-- After a login, too, every live session is on the list of its principal. -/
theorem Admission.allRegistered
    (h : Admission maximum strict config migrate identity slot r ending left)
    (hr : r.AllRegistered) : left.AllRegistered := by
  obtain ⟨later, hrotation⟩ := h
  cases hrotation with
  | refused room calls hroom =>
      have hregistered := (trimmed_of_limited hroom).allRegistered hr
      exact fun _ _ hs => hregistered hs
  | aborted room calls hroom hslot =>
      have hregistered := (trimmed_of_limited hroom).allRegistered hr
      exact fun _ _ hs => hregistered hs
  | @created room session calls hroom hslot hnew =>
      have hregistered := (trimmed_of_limited hroom).allRegistered hr
      intro id s hs
      rcases live?_created hs with ⟨rfl, rfl⟩ | ⟨-, hs⟩
      · rw [identity_of_newSession? hnew]
        exact Registry.exists_mem_sessionsFor_register _ _ _ _
      · obtain ⟨g, hg, rfl⟩ := hregistered hs
        exact ⟨g, Registry.mem_sessionsFor_register_of_mem hg _ _ _, rfl⟩
  | @moved room current calls hroom hslot =>
      have hregistered := (trimmed_of_limited hroom).allRegistered hr
      intro id s hs
      rcases live?_moved true hs with ⟨rfl, rfl⟩ | ⟨hold, -, hs⟩
      · exact Registry.exists_mem_sessionsFor_register _ _ _ _
      · obtain ⟨g, hg, rfl⟩ := hregistered hs
        refine ⟨g, Registry.mem_sessionsFor_register_of_mem ?_ _ _ _, rfl⟩
        exact Registry.mem_sessionsFor_rename.mpr
          ⟨g, hg, Registration.rename_of_ne hold _⟩

/-- A new session spoils no agreement. -/
theorem ownersAgree_created {room : Realm} {session : Session}
    (hfresh : room.sessionIds.IsFresh) (hnumbered : room.Numbered) (hagree : room.OwnersAgree)
    (hnew : newSession? config room identity = some session) :
    ((created room session).register session.id identity.principal).OwnersAgree := by
  intro p g s hg hs
  rcases Registry.mem_sessionsFor_register hg with hg | ⟨rfl, rfl⟩
  · have hne : g.sessionId ≠ session.id := by
      rw [id_of_newSession? hnew]
      exact Supply.ne_next_of_hasGiven hfresh (hnumbered.registered hg)
    rcases live?_created hs with ⟨hid, -⟩ | ⟨-, hs⟩
    · exact absurd hid hne
    · exact hagree hg hs
  · rcases live?_created hs with ⟨-, rfl⟩ | ⟨hid, -⟩
    · rw [identity_of_newSession? hnew]
    · exact absurd rfl hid

/-- A session that keeps its principal spoils no agreement when it moves. -/
theorem ownersAgree_moved {room : Realm} {current : Session}
    (hfresh : room.sessionIds.IsFresh) (hnumbered : room.Numbered) (hagree : room.OwnersAgree)
    (hlisted : ∀ {p g}, g ∈ room.registry.sessionsFor p → g.sessionId = current.id →
      p = identity.principal) :
    ((moved room true migrate identity current).register room.sessionIds.next
      identity.principal).OwnersAgree := by
  intro p g s hg hs
  rcases Registry.mem_sessionsFor_register hg with hg | ⟨rfl, rfl⟩
  · obtain ⟨before, hbefore, rfl⟩ := Registry.mem_sessionsFor_rename.mp hg
    by_cases hold : before.sessionId = current.id
    · rcases live?_moved true hs with ⟨-, rfl⟩ | ⟨-, hnew, -⟩
      · exact (hlisted hbefore hold).symm
      · exact absurd (by simp [hold]) hnew
    · rw [Registration.rename_of_ne hold] at hs
      rcases live?_moved true hs with ⟨hnext, -⟩ | ⟨-, -, hs⟩
      · exact absurd hnext (Supply.ne_next_of_hasGiven hfresh (hnumbered.registered hbefore))
      · exact hagree hbefore hs
  · rcases live?_moved true hs with ⟨-, rfl⟩ | ⟨-, hnew, -⟩
    · rfl
    · exact absurd rfl hnew

/-- A session that moves from one principal to another stays on the list of the old
one. -/
theorem not_ownersAgree_moved {room : Realm} {current : Session} {g : Registration}
    (hlive : current.isExpired room.clock = false) (hne : room.sessionIds.next ≠ current.id)
    (hg : g ∈ room.registry.sessionsFor current.identity.principal)
    (hid : g.sessionId = current.id)
    (hother : current.identity.principal ≠ identity.principal) :
    ¬ ((moved room true migrate identity current).register room.sessionIds.next
      identity.principal).OwnersAgree := by
  intro hagree
  have hrenamed : g.rename current.id room.sessionIds.next ∈
      ((moved room true migrate identity current).register room.sessionIds.next
        identity.principal).registry.sessionsFor current.identity.principal :=
    Registry.mem_sessionsFor_register_of_mem
      (Registry.mem_sessionsFor_rename.mpr ⟨g, hg, rfl⟩) _ _ _
  have hfound : ((moved room true migrate identity current).register room.sessionIds.next
      identity.principal).store.live? room.clock
        (g.rename current.id room.sessionIds.next).sessionId =
      some (rebound current room.sessionIds.next identity migrate) := by
    rw [Registration.sessionId_rename, if_pos hid]
    exact live?_moved_next true migrate identity hlive hne
  exact hother (hagree hrenamed hfound).symm

/-- A login keeps the agreement unless it is accepted and brings a session of another
principal. -/
theorem Admission.ownersAgree_iff
    (h : Admission maximum strict config migrate identity slot r ending left)
    (hfresh : r.sessionIds.IsFresh) (hnumbered : r.Numbered) (hregistered : r.AllRegistered)
    (hagree : r.OwnersAgree)
    (hlive : ∀ {current}, slot = some current →
      r.store.live? r.clock current.id = some current) :
    left.OwnersAgree ↔ ¬ ∃ current, slot = some current ∧
      current.identity.principal ≠ identity.principal ∧ ending = .value () := by
  obtain ⟨later, hrotation⟩ := h
  cases hrotation with
  | refused room calls hroom =>
      have hroomAgrees := (trimmed_of_limited hroom).ownersAgree hagree
      refine ⟨?_, fun _ _ _ _ hg hs => hroomAgrees hg hs⟩
      rintro - ⟨current, -, -, hvalue⟩
      cases hvalue
  | aborted room calls hroom hslot =>
      have hroomAgrees := (trimmed_of_limited hroom).ownersAgree hagree
      refine ⟨?_, fun _ _ _ _ hg hs => hroomAgrees hg hs⟩
      rintro - ⟨current, -, -, hvalue⟩
      cases hvalue
  | @created room session calls hroom hslot hnew =>
      have htrimmed := trimmed_of_limited hroom
      have hleft := ownersAgree_created (htrimmed.sessionIds_eq ▸ hfresh)
        (htrimmed.numbered hnumbered) (htrimmed.ownersAgree hagree) hnew
      refine ⟨?_, fun _ _ _ _ hg hs => hleft hg hs⟩
      rintro - ⟨current, hcurrent, -, -⟩
      rw [hslot] at hcurrent
      cases hcurrent
  | @moved room current calls hroom hslot =>
      have htrimmed := trimmed_of_limited hroom
      have hroomFresh : room.sessionIds.IsFresh := htrimmed.sessionIds_eq ▸ hfresh
      have hcurrent := hlive hslot
      obtain ⟨hstored, hunexpired⟩ := Store.live?_eq_some_iff.mp hcurrent
      constructor
      · rintro hleft ⟨other, hother, hprincipal, -⟩
        rw [hslot] at hother
        cases hother
        obtain ⟨g, hg, hid⟩ := hregistered hcurrent
        -- The agreement keeps the session off the list of the principal who logs in, so
        -- the limit does not reach its registration.
        have hoff : ∀ own ∈ r.registry.sessionsFor identity.principal,
            own.sessionId ≠ g.sessionId := by
          intro own hown heq
          rw [hid] at heq
          exact hprincipal (hagree hown (heq ▸ hcurrent))
        have hkept := mem_sessionsFor_limited hg hoff maximum strict slot
        rw [hroom] at hkept
        have hnext : room.sessionIds.next ≠ current.id := by
          rw [htrimmed.sessionIds_eq]
          exact (Supply.ne_next_of_hasGiven hfresh (hnumbered.stored hstored)).symm
        exact not_ownersAgree_moved (htrimmed.clock_eq ▸ hunexpired) hnext hkept hid
          hprincipal (fun _ _ _ hg hs => hleft hg hs)
      · intro hnone
        have hsame : current.identity.principal = identity.principal := by
          by_cases hsame : current.identity.principal = identity.principal
          · exact hsame
          · exact absurd ⟨current, hslot, hsame, rfl⟩ hnone
        have hlisted {p : String} {g : Registration} (hg : g ∈ room.registry.sessionsFor p)
            (hid : g.sessionId = current.id) : p = identity.principal := by
          have hp := hagree ((htrimmed.sublist p).subset hg) (hid ▸ hcurrent)
          rw [← hp, hsame]
        have hleft : ((LoginStrategy.moved room true migrate identity current).register
            room.sessionIds.next identity.principal).OwnersAgree :=
          ownersAgree_moved hroomFresh (htrimmed.numbered hnumbered)
            (htrimmed.ownersAgree hagree) hlisted
        exact fun _ _ _ hg hs => hleft hg hs

end LoginStrategy

/-! ## Runs -/

/-- What is live at some instant was live before. -/
theorem Store.live?_of_le {store : Store} {earlier later : Timestamp}
    (h : earlier.le later = true) {id : String} {s : Session}
    (hs : store.live? later id = some s) : store.live? earlier id = some s := by
  obtain ⟨hfind, hlive⟩ := Store.live?_eq_some_iff.mp hs
  refine Store.live?_eq_some_iff.mpr ⟨hfind, ?_⟩
  rw [Session.isExpired, Bool.eq_false_iff] at hlive ⊢
  exact fun hended => hlive (Timestamp.le_trans hended h)

namespace Realm

open LoginStrategy

/-- What every realm of a run has, whether registry and store agree or not. -/
structure WellKept (r : Realm) : Prop where
  sound : r.IsSound
  fresh : r.sessionIds.IsFresh
  numbered : r.Numbered
  registered : r.AllRegistered

variable {maximum : Int} {strict : Bool} {config : SessionConfig} {migrate : Bool} {r : Realm}

theorem wellKept_initial (clock : Timestamp) {sessionIds : Supply String}
    (h : sessionIds.IsFresh) : (initial clock sessionIds).WellKept where
  sound := isSound_initial clock sessionIds
  fresh := h
  numbered := numbered_initial clock sessionIds
  registered := by
    intro id s hs
    simp [initial, Store.live?] at hs

/-- The passing of time keeps what a realm has. -/
theorem WellKept.elapse (h : r.WellKept) {clock : Timestamp} (hle : r.clock.le clock = true) :
    ({ r with clock := clock } : Realm).WellKept where
  sound := h.sound
  fresh := h.fresh
  numbered := ⟨h.numbered.stored, h.numbered.registered⟩
  registered _ _ hs := h.registered (Store.live?_of_le hle hs)

/-- The passing of time keeps the agreement. -/
theorem OwnersAgree.elapse (h : r.OwnersAgree) {clock : Timestamp}
    (hle : r.clock.le clock = true) : ({ r with clock := clock } : Realm).OwnersAgree :=
  fun _ _ _ hg hs => h hg (Store.live?_of_le hle hs)

/-- Every event keeps what a realm has. -/
theorem WellKept.step (h : r.WellKept) (e : LoginEvent) :
    (step (limitedLogin maximum strict config migrate) r e).WellKept := by
  cases e with
  | login identity sessionId =>
      have hadmission :=
        login_admission h.sound maximum strict config migrate identity sessionId
      refine ⟨?_, Supply.isFresh_of_item_eq hadmission.frame.2.2 h.fresh, hadmission.numbered h.numbered,
        hadmission.allRegistered h.registered⟩
      intro operation
      simp only [Realm.step]
      rw [hadmission.frame.2.1]
      exact h.sound operation
  | elapse clock =>
      simp only [Realm.step]
      split
      · rename_i hle
        exact h.elapse hle
      · exact h

/-- An event keeps the agreement unless it is a takeover. -/
theorem WellKept.step_ownersAgree_iff (h : r.WellKept) (hagree : r.OwnersAgree)
    (e : LoginEvent) :
    (Realm.step (limitedLogin maximum strict config migrate) r e).OwnersAgree ↔
      ¬ TakesOver (limitedLogin maximum strict config migrate) r e := by
  cases e with
  | login identity sessionId =>
      have hadmission :=
        login_admission h.sound maximum strict config migrate identity sessionId
      have hiff := hadmission.ownersAgree_iff h.fresh h.numbered h.registered hagree
        (fun hslot => live?_of_slot hslot)
      refine hiff.trans (not_congr ?_)
      constructor
      · rintro ⟨current, hslot, hother, hvalue⟩
        exact ⟨identity, sessionId, current, rfl, hslot, hother, hvalue⟩
      · rintro ⟨_, _, current, heq, hslot, hother, hvalue⟩
        cases heq
        exact ⟨current, hslot, hother, hvalue⟩
  | elapse clock =>
      have hnone : ¬ TakesOver (limitedLogin maximum strict config migrate) r
          (.elapse clock) := by
        rintro ⟨_, _, _, heq, -⟩
        cases heq
      simp only [Realm.step]
      split
      · rename_i hle
        exact iff_of_true (hagree.elapse hle) hnone
      · exact iff_of_true hagree hnone

/-- The realm after one more event of a run. -/
theorem play_take_succ (strategy : LoginStrategy) (r : Realm) {events : List LoginEvent}
    {n : Nat} {e : LoginEvent} (h : events[n]? = some e) :
    play strategy r (events.take (n + 1)) =
      Realm.step strategy (play strategy r (events.take n)) e := by
  rw [List.take_add_one, h, Option.toList_some, play_append]
  rfl

/-- What every event of a run keeps, given the realm before it, holds after every event. -/
theorem play_take_induction {strategy : LoginStrategy} {P : Realm → Prop} {r : Realm}
    (h : P r) (events : List LoginEvent)
    (hstep : ∀ n e, events[n]? = some e → P (play strategy r (events.take n)) →
      P (Realm.step strategy (play strategy r (events.take n)) e)) (n : Nat) :
    P (play strategy r (events.take n)) := by
  -- Induction on the number of events; past the end of the run nothing happens.
  induction n with
  | zero => exact h
  | succ n ih =>
      cases he : events[n]? with
      | none =>
          have hsame : events.take (n + 1) = events.take n := by
            rw [List.take_add_one, he, Option.toList_none, List.append_nil]
          rw [hsame]
          exact ih
      | some e =>
          rw [play_take_succ strategy r he]
          exact hstep n e he ih

/-- Registry and store agree throughout a run exactly if no login of the run takes over
a live session of another principal; and exactly then no live session is ever listed
under two principals. -/
theorem ownersAgree_play_iff {sessionIds : Supply String} (hfresh : sessionIds.IsFresh)
    (maximum : Int) (strict : Bool) (config : SessionConfig) (migrate : Bool)
    (clock : Timestamp) (events : List LoginEvent) :
    let strategy := limitedLogin maximum strict config migrate
    let realmAfter := fun n => (initial clock sessionIds).play strategy (events.take n)
    ((∀ n, (realmAfter n).OwnersAgree) ↔
        ∀ n e, events[n]? = some e → ¬ TakesOver strategy (realmAfter n) e) ∧
      ((∀ n, (realmAfter n).SingleOwner) ↔
        ∀ n e, events[n]? = some e → ¬ TakesOver strategy (realmAfter n) e) := by
  intro strategy realmAfter
  have hkept (n : Nat) : (realmAfter n).WellKept :=
    play_induction (wellKept_initial clock hfresh) (fun _ e h => h.step e) (events.take n)
  have hagree : (∀ n, (realmAfter n).OwnersAgree) ↔
      ∀ n e, events[n]? = some e → ¬ TakesOver strategy (realmAfter n) e := by
    constructor
    · intro hall n e he
      have hnext := hall (n + 1)
      simp only [realmAfter] at hnext
      rw [play_take_succ strategy _ he] at hnext
      exact ((hkept n).step_ownersAgree_iff (hall n) e).mp hnext
    · intro hnone
      refine play_take_induction ?_ events ?_
      · intro p g s hg
        simp [initial] at hg
      · intro n e he hbefore
        exact ((hkept n).step_ownersAgree_iff hbefore e).mpr (hnone n e he)
  refine ⟨hagree, ?_⟩
  rw [← hagree]
  exact forall_congr' (fun n => (ownersAgree_iff_singleOwner (hkept n).registered).symm)

/-- A run that ends with a takeover: the second identity brings the session of the
first. -/
def takeover : List LoginEvent :=
  [.login (.ofSubject "idp" "alice") none, .login (.ofSubject "idp" "bob") (some "1")]

/-- The two conditions for the run with a takeover. -/
theorem ownersAgree_play_iff_takeover :
    Supply.strokes.IsFresh ∧
      ((∀ n, ((initial ⟨0, 0⟩ .strokes).play (limitedLogin 5 false .default true)
          (takeover.take n)).OwnersAgree) ↔
        ∀ n e, takeover[n]? = some e → ¬ TakesOver (limitedLogin 5 false .default true)
          ((initial ⟨0, 0⟩ .strokes).play (limitedLogin 5 false .default true)
            (takeover.take n)) e) :=
  ⟨Supply.isFresh_strokes,
    (ownersAgree_play_iff Supply.isFresh_strokes 5 false .default true ⟨0, 0⟩ takeover).1⟩

/-- After the takeover the live session of the second identity is listed under both. -/
theorem not_ownersAgree_takeover :
    ¬ ((initial ⟨0, 0⟩ .strokes).play (limitedLogin 5 false .default true)
        takeover).OwnersAgree ∧
      ¬ ((initial ⟨0, 0⟩ .strokes).play (limitedLogin 5 false .default true)
        takeover).SingleOwner := by
  have hold : (⟨"11", "idp:alice", ⟨0, 0⟩⟩ : Registration) ∈
      ((initial ⟨0, 0⟩ .strokes).play (limitedLogin 5 false .default true)
        takeover).registry.sessionsFor "idp:alice" := by
    decide
  have hnew : (⟨"11", "idp:bob", ⟨0, 0⟩⟩ : Registration) ∈
      ((initial ⟨0, 0⟩ .strokes).play (limitedLogin 5 false .default true)
        takeover).registry.sessionsFor "idp:bob" := by
    decide
  have hlive : ((initial ⟨0, 0⟩ .strokes).play (limitedLogin 5 false .default true)
      takeover).store.live? ⟨0, 0⟩ "11" =
        some ⟨"11", .ofSubject "idp" "bob", [], ⟨0, 0⟩, ⟨86400, 0⟩⟩ := by
    decide
  constructor
  · intro hagree
    exact absurd (hagree hold hlive) (by decide)
  · intro hsingle
    exact absurd (hsingle hold hnew rfl (by decide)) (by decide)

/-- At a limit of one session, the next login of the old owner ends the session that was
taken over. -/
example :
    ((initial ⟨0, 0⟩ .strokes).play (limitedLogin 1 false .default true)
      [.login (.ofSubject "idp" "alice") none, .login (.ofSubject "idp" "bob") (some "1"),
        .login (.ofSubject "idp" "alice") none]).store.ids = ["111"] := by
  decide

end Realm

end WebAuth
