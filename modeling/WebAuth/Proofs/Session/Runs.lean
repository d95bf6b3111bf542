import WebAuth.Proofs.Session.Effects

/-!
# Runs of logins

Identities log in one after another, each with an empty slot or with a session that
is live at that moment, and time passes in between.  The login strategy under study
limits the sessions of a principal, gives the session a new id, which the registry follows
or not, and registers it.

Every state of a run is described by what one login can make of the state before it.

Main results:

- Theorems `LoginStrategy.rotation_of_run` and `LoginStrategy.admission_of_run`: a login is
  refused, breaks off, stores a new session, or moves the one it came with.
- Theorem `LoginStrategy.limited_trimmed`: making room only ends sessions and drops
  registrations.
- Theorem `Realm.play_invariant`: what the passing of time and every login keep holds
  throughout a run.
-/

namespace WebAuth

open Calendar

/-! ## Events and runs -/

/-- What can happen to a realm. -/
inductive LoginEvent where
  /-- An identity logs in, with the live session of an id if there is one. -/
  | login (identity : Identity) (sessionId : Option String)
  /-- Time passes. -/
  | elapse (clock : Timestamp)
deriving DecidableEq, Repr

namespace Realm

/-- The live session of an id, if an id is given and its session is live. -/
def slot (r : Realm) (sessionId : Option String) : Option Session :=
  sessionId.bind (r.store.live? r.clock)

/-- Let an identity log in. -/
def login (strategy : LoginStrategy) (identity : Identity) (sessionId : Option String) :
    Run Realm LoginError Unit := fun r =>
  let (ending, left) := strategy.run identity ⟨r.slot sessionId, r⟩
  (ending, left.realm)

/-- The realm after an event; the clock does not go back. -/
def step (strategy : LoginStrategy) (r : Realm) : LoginEvent → Realm
  | .login identity sessionId => (login strategy identity sessionId r).2
  | .elapse clock => if r.clock.le clock then { r with clock := clock } else r

/-- The realm after some events. -/
def play (strategy : LoginStrategy) (r : Realm) (events : List LoginEvent) : Realm :=
  events.foldl (step strategy) r

@[simp]
theorem play_nil (strategy : LoginStrategy) (r : Realm) : play strategy r [] = r :=
  rfl

@[simp]
theorem play_append (strategy : LoginStrategy) (r : Realm) (earlier later : List LoginEvent) :
    play strategy r (earlier ++ later) = play strategy (play strategy r earlier) later :=
  List.foldl_append

/-- What every event keeps holds throughout a run. -/
theorem play_induction {strategy : LoginStrategy} {P : Realm → Prop} {r : Realm} (h : P r)
    (hstep : ∀ r e, P r → P (step strategy r e)) (events : List LoginEvent) :
    P (play strategy r events) := by
  induction events generalizing r with
  | nil => exact h
  | cons e rest ih => exact ih (hstep r e h)

end Realm

/-! ## Live sessions -/

/-- What is live is stored and not expired. -/
theorem Store.live?_eq_some_iff {store : Store} {now : Timestamp} {id : String}
    {s : Session} :
    store.live? now id = some s ↔ store.find? id = some s ∧ s.isExpired now = false := by
  simp [Store.live?, Option.filter_eq_some_iff]

/-- A registration is live if its id is that of a live session. -/
theorem Realm.hasLive_iff {r : Realm} {g : Registration} :
    r.hasLive g = true ↔ ∃ s, r.store.live? r.clock g.sessionId = some s :=
  Option.isSome_iff_exists

/-! ## Making room -/

/-- `room` is `r` after some sessions were ended and registrations of sessions that are
gone were dropped. -/
structure Realm.Trimmed (r room : Realm) : Prop where
  clock_eq : room.clock = r.clock
  sessionIds_eq : room.sessionIds = r.sessionIds
  faults_eq : room.faults = r.faults
  find?_of_find? : ∀ {id s}, room.store.find? id = some s → r.store.find? id = some s
  sublist : ∀ p, (room.registry.sessionsFor p).Sublist (r.registry.sessionsFor p)
  mem_of_hasLive : ∀ {p g}, g ∈ r.registry.sessionsFor p → room.hasLive g = true →
    g ∈ room.registry.sessionsFor p

namespace Realm

theorem Trimmed.refl (r : Realm) : Trimmed r r :=
  ⟨rfl, rfl, rfl, id, fun _ => List.Sublist.refl _, fun h _ => h⟩

/-- What is live after trimming was live before. -/
theorem Trimmed.live?_of_live? {r room : Realm} (h : Trimmed r room) {id : String}
    {s : Session} (hs : room.store.live? room.clock id = some s) :
    r.store.live? r.clock id = some s := by
  rw [Store.live?_eq_some_iff] at hs ⊢
  exact ⟨h.find?_of_find? hs.1, h.clock_eq ▸ hs.2⟩

theorem Trimmed.hasLive_of_hasLive {r room : Realm} (h : Trimmed r room) {g : Registration}
    (hg : room.hasLive g = true) : r.hasLive g = true := by
  obtain ⟨s, hs⟩ := hasLive_iff.mp hg
  exact hasLive_iff.mpr ⟨s, h.live?_of_live? hs⟩

theorem Trimmed.trans {r middle room : Realm} (h : Trimmed r middle)
    (h' : Trimmed middle room) : Trimmed r room where
  clock_eq := h'.clock_eq.trans h.clock_eq
  sessionIds_eq := h'.sessionIds_eq.trans h.sessionIds_eq
  faults_eq := h'.faults_eq.trans h.faults_eq
  find?_of_find? hs := h.find?_of_find? (h'.find?_of_find? hs)
  sublist p := (h'.sublist p).trans (h.sublist p)
  mem_of_hasLive hg hlive :=
    h'.mem_of_hasLive (h.mem_of_hasLive hg (h'.hasLive_of_hasLive hlive)) hlive

/-- Dropping registrations of sessions that are gone is trimming. -/
theorem trimmed_dropDead (r : Realm) (gs : List Registration) : Trimmed r (r.dropDead gs) where
  clock_eq := rfl
  sessionIds_eq := rfl
  faults_eq := rfl
  find?_of_find? := id
  sublist p := by
    rw [dropDead, Registry.sessionsFor_removeAll]
    exact List.filter_sublist
  mem_of_hasLive := by
    intro p g hg hlive
    rw [dropDead, Registry.sessionsFor_removeAll]
    refine List.mem_filter.mpr ⟨hg, ?_⟩
    simp only [List.mem_map, List.mem_filter, decide_eq_true_eq, not_exists, not_and]
    intro dead hdead heq
    have hsame : r.hasLive dead = r.hasLive g := by simp [hasLive, heq]
    have hgone : r.hasLive g = true := hlive
    simp [hsame, hgone] at hdead

/-- Ending sessions is trimming. -/
theorem trimmed_ended (r : Realm) (ids : List String) : Trimmed r (r.ended ids) where
  clock_eq := rfl
  sessionIds_eq := rfl
  faults_eq := rfl
  find?_of_find? := by
    intro id s hs
    rw [ended, Store.find?_deleteAll] at hs
    split at hs
    · contradiction
    · exact hs
  sublist p := by
    rw [ended, Registry.sessionsFor_removeAll]
    exact List.filter_sublist
  mem_of_hasLive := by
    intro p g hg hlive
    obtain ⟨s, hs⟩ := hasLive_iff.mp hlive
    have hfind := (Store.live?_eq_some_iff.mp hs).1
    rw [ended, Store.find?_deleteAll] at hfind
    rw [ended, Registry.sessionsFor_removeAll]
    split at hfind
    · contradiction
    · rename_i hkept
      exact List.mem_filter.mpr ⟨hg, by simpa using hkept⟩

end Realm

namespace LoginStrategy

/-- Making room only ends sessions and drops registrations. -/
theorem limited_trimmed (maximum : Int) (strict : Bool) (principal : String)
    (slot : Option Session) (r : Realm) :
    Realm.Trimmed r (limited maximum strict principal slot r).2 := by
  have hswept : Realm.Trimmed r (r.swept principal) := Realm.trimmed_dropDead r _
  simp only [limited]
  split
  · exact Realm.Trimmed.refl r
  · split
    · exact hswept
    · split
      · exact hswept
      · exact hswept.trans (Realm.trimmed_ended _ _)

end LoginStrategy

/-! ## One login -/

namespace LoginStrategy

/-- Limit the sessions of a principal, give the session a new id, which the registry
follows if it is tracked, and register it. -/
def rotatingLogin (maximum : Int) (strict : Bool) (config : SessionConfig)
    (tracked migrate : Bool) : LoginStrategy :=
  .sequence [.limit maximum strict, .changeId config tracked migrate, .register]

/-- How such a login ends, and which slot and realm it leaves. -/
inductive Rotation (maximum : Int) (strict : Bool) (config : SessionConfig)
    (tracked migrate : Bool) (identity : Identity) (slot : Option Session) (r : Realm) :
    Ending LoginError Unit → LoginState → Prop where
  /-- The principal has too many sessions. -/
  | refused (room : Realm) {e : LoginError} (calls : List StoreCall)
      (hroom : limited maximum strict identity.principal slot r = (.refused e, room)) :
      Rotation maximum strict config tracked migrate identity slot r (.refused e)
        ⟨slot, room.withCalls calls⟩
  /-- There is room, but the end of a new session lies outside the calendar. -/
  | aborted (room : Realm) (calls : List StoreCall)
      (hroom : limited maximum strict identity.principal slot r = (.value (), room))
      (hslot : slot = none) :
      Rotation maximum strict config tracked migrate identity slot r .aborted
        ⟨none, { room with sessionIds := room.sessionIds.advance }.withCalls calls⟩
  /-- A new session is stored and registered. -/
  | created (room : Realm) {session : Session} (calls : List StoreCall)
      (hroom : limited maximum strict identity.principal slot r = (.value (), room))
      (hslot : slot = none) (hnew : newSession? config room identity = some session) :
      Rotation maximum strict config tracked migrate identity slot r (.value ())
        ⟨some session,
          ((created room session).register session.id identity.principal).withCalls calls⟩
  /-- The session in the slot takes a new id and is registered. -/
  | moved (room : Realm) {current : Session} (calls : List StoreCall)
      (hroom : limited maximum strict identity.principal slot r = (.value (), room))
      (hslot : slot = some current) :
      Rotation maximum strict config tracked migrate identity slot r (.value ())
        ⟨some (rebound current room.sessionIds.next identity migrate),
          ((moved room tracked migrate identity current).register room.sessionIds.next
            identity.principal).withCalls calls⟩

/-- Limit the sessions of a principal, give the session a new id that the registry
follows, and register it. -/
def limitedLogin (maximum : Int) (strict : Bool) (config : SessionConfig) (migrate : Bool) :
    LoginStrategy :=
  .sequence [.limit maximum strict, .changeId config true migrate, .register]

theorem limitedLogin_eq_rotatingLogin (maximum : Int) (strict : Bool) (config : SessionConfig)
    (migrate : Bool) :
    limitedLogin maximum strict config migrate =
      rotatingLogin maximum strict config true migrate :=
  rfl

/-- How a login whose id change the registry follows ends, and which realm it leaves. -/
def Admission (maximum : Int) (strict : Bool) (config : SessionConfig) (migrate : Bool)
    (identity : Identity) (slot : Option Session) (r : Realm)
    (ending : Ending LoginError Unit) (left : Realm) : Prop :=
  ∃ later, Rotation maximum strict config true migrate identity slot r ending ⟨later, left⟩

/-- A limit refuses or lets the login go on. -/
theorem limited_cases (maximum : Int) (strict : Bool) (principal : String)
    (slot : Option Session) (r : Realm) :
    (∃ e room, limited maximum strict principal slot r = (.refused e, room)) ∨
      ∃ room, limited maximum strict principal slot r = (.value (), room) := by
  simp only [limited]
  split
  · exact Or.inr ⟨_, rfl⟩
  · split
    · exact Or.inr ⟨_, rfl⟩
    · split
      · exact Or.inl ⟨_, _, rfl⟩
      · exact Or.inr ⟨_, rfl⟩

/-- A login is refused, breaks off, stores a new session, or moves the one it came with; and
it leaves the session in the slot. -/
theorem rotation_of_run {r : Realm} (h : r.IsSound) (maximum : Int) (strict : Bool)
    (config : SessionConfig) (tracked migrate : Bool) (identity : Identity)
    (slot : Option Session) :
    Rotation maximum strict config tracked migrate identity slot r
      (run identity (rotatingLogin maximum strict config tracked migrate) ⟨slot, r⟩).1
      (run identity (rotatingLogin maximum strict config tracked migrate) ⟨slot, r⟩).2 := by
  obtain ⟨calls, hlimit⟩ := run_limit (s := ⟨slot, r⟩) h identity maximum strict
  dsimp only at hlimit
  rw [rotatingLogin, run_sequence_cons]
  rcases limited_cases maximum strict identity.principal slot r with
    ⟨e, room, hroom⟩ | ⟨room, hroom⟩
  · rw [hroom] at hlimit
    rw [Run.bind_refused hlimit]
    exact .refused room calls hroom
  · have hsound : (room.withCalls calls).IsSound := by
      have htrimmed := limited_trimmed maximum strict identity.principal slot r
      rw [hroom] at htrimmed
      intro operation
      change room.faults operation = none
      rw [htrimmed.faults_eq]
      exact h operation
    rw [hroom] at hlimit
    rw [Run.bind_value hlimit, run_sequence_cons]
    cases slot with
    | none =>
        obtain ⟨later, hnew⟩ := run_changeId_none hsound identity config tracked migrate
        cases hsession : newSession? config (room.withCalls calls) identity with
        | none =>
            rw [hsession] at hnew
            rw [Run.bind_aborted hnew]
            exact .aborted room calls hroom rfl
        | some session =>
            rw [hsession] at hnew
            rw [Run.bind_value hnew, run_sequence_cons, Run.bind_value (run_register _ _ _),
              run_sequence_nil]
            exact .created room later hroom rfl hsession
    | some current =>
        obtain ⟨later, hmoved⟩ :=
          run_changeId_some hsound identity current config tracked migrate
        rw [Run.bind_value hmoved, run_sequence_cons, Run.bind_value (run_register _ _ _),
          run_sequence_nil]
        exact .moved room later hroom rfl

/-- A login is refused, breaks off, stores a new session, or moves the one it came
with. -/
theorem admission_of_run {r : Realm} (h : r.IsSound) (maximum : Int) (strict : Bool)
    (config : SessionConfig) (migrate : Bool) (identity : Identity) (slot : Option Session) :
    Admission maximum strict config migrate identity slot r
      (run identity (limitedLogin maximum strict config migrate) ⟨slot, r⟩).1
      (run identity (limitedLogin maximum strict config migrate) ⟨slot, r⟩).2.realm :=
  ⟨_, rotation_of_run h maximum strict config true migrate identity slot⟩

end LoginStrategy

/-! ## Registrations and stored sessions after a login -/

namespace Registry

/-- After a registration, a list holds what it held and perhaps the new registration. -/
theorem mem_sessionsFor_register {registry : Registry} {id principal other : String}
    {now : Timestamp} {g : Registration}
    (h : g ∈ (registry.register id principal now).sessionsFor other) :
    g ∈ registry.sessionsFor other ∨ other = principal ∧ g = ⟨id, principal, now⟩ := by
  by_cases hother : other = principal
  · subst hother
    rw [sessionsFor_register_self, Registration.addTo] at h
    split at h
    · exact Or.inl h
    · rcases List.mem_append.mp h with h | h
      · exact Or.inl h
      · exact Or.inr ⟨rfl, List.mem_singleton.mp h⟩
  · rw [sessionsFor_register_of_ne hother] at h
    exact Or.inl h

/-- A registration keeps what was registered. -/
theorem mem_sessionsFor_register_of_mem {registry : Registry} {other : String}
    {g : Registration} (h : g ∈ registry.sessionsFor other) (id principal : String)
    (now : Timestamp) : g ∈ (registry.register id principal now).sessionsFor other := by
  by_cases hother : other = principal
  · subst hother
    rw [sessionsFor_register_self, Registration.addTo]
    split
    · exact h
    · exact List.mem_append_left _ h
  · rw [sessionsFor_register_of_ne hother]
    exact h

/-- A registered session is on its principal's list. -/
theorem exists_mem_sessionsFor_register (registry : Registry) (id principal : String)
    (now : Timestamp) :
    ∃ g ∈ (registry.register id principal now).sessionsFor principal, g.sessionId = id := by
  rw [sessionsFor_register_self, Registration.addTo]
  split
  · rename_i h
    simpa using h
  · exact ⟨_, List.mem_append_right _ List.mem_cons_self, rfl⟩

/-- A renamed list holds the registrations of before under their new ids. -/
theorem mem_sessionsFor_rename {registry : Registry} {old new principal : String}
    {g : Registration} :
    g ∈ (registry.rename old new).sessionsFor principal ↔
      ∃ before ∈ registry.sessionsFor principal, before.rename old new = g := by
  rw [sessionsFor_rename, List.mem_map]

end Registry

/-- A registration whose id changes has the new id. -/
@[simp]
theorem Registration.sessionId_rename (g : Registration) (old new : String) :
    (g.rename old new).sessionId = if g.sessionId = old then new else g.sessionId := by
  unfold rename
  split <;> rfl

/-- A registration of another session is not renamed. -/
theorem Registration.rename_of_ne {g : Registration} {old : String} (h : g.sessionId ≠ old)
    (new : String) : g.rename old new = g := by
  simp [rename, h]

namespace LoginStrategy

/-- A session that moves is found under its new id, and no longer under its old one. -/
theorem find?_moved (r : Realm) (tracked migrate : Bool) (identity : Identity)
    (current : Session) (id : String) :
    (moved r tracked migrate identity current).store.find? id =
      if id = current.id then none
      else if id = r.sessionIds.next then
        some (rebound current r.sessionIds.next identity migrate)
      else r.store.find? id := by
  by_cases hold : id = current.id
  · subst hold
    simp [moved]
  · simp only [moved, hold, if_false]
    rw [Store.find?_delete_of_ne hold]
    by_cases hnew : id = r.sessionIds.next
    · subst hnew
      rw [if_pos rfl]
      exact Store.find?_save_self _ _
    · rw [if_neg hnew]
      exact Store.find?_save_of_ne hnew _

/-- A registration after a session has moved was there before, or has been renamed. -/
theorem mem_sessionsFor_moved {r : Realm} {tracked migrate : Bool} {identity : Identity}
    {current : Session} {p : String} {g : Registration}
    (h : g ∈ (moved r tracked migrate identity current).registry.sessionsFor p) :
    g ∈ r.registry.sessionsFor p ∨
      ∃ before ∈ r.registry.sessionsFor p,
        before.rename current.id r.sessionIds.next = g := by
  cases tracked with
  | false => exact Or.inl h
  | true => exact Or.inr (Registry.mem_sessionsFor_rename.mp h)

/-- A new session is found under its id, and the others as before. -/
theorem find?_created (r : Realm) (session : Session) (id : String) :
    (created r session).store.find? id =
      if id = session.id then some session else r.store.find? id := by
  by_cases hnew : id = session.id
  · subst hnew
    simp [created]
  · simp [created, hnew, Store.find?_save_of_ne hnew]

end LoginStrategy

/-! ## What every run keeps -/

/-- The value has been handed out. -/
def Supply.HasGiven {α : Type} (s : Supply α) (a : α) : Prop := ∃ n < s.used, s.item n = a

namespace Supply

variable {α : Type} {s : Supply α} {a : α}

theorem HasGiven.advance (h : s.HasGiven a) : s.advance.HasGiven a := by
  obtain ⟨n, hn, ha⟩ := h
  exact ⟨n, Nat.lt_succ_of_lt hn, ha⟩

/-- What is handed out next has been handed out afterwards. -/
theorem hasGiven_advance_next (s : Supply α) : s.advance.HasGiven s.next :=
  ⟨s.used, Nat.lt_succ_self _, rfl⟩

/-- A fresh supply does not hand out again what it has handed out. -/
theorem ne_next_of_hasGiven (hfresh : s.IsFresh) (h : s.HasGiven a) : a ≠ s.next := by
  obtain ⟨n, hn, rfl⟩ := h
  intro heq
  have hsame : n = s.used := hfresh n s.used heq
  omega

/-- Freshness is a matter of the sequence alone. -/
theorem isFresh_of_item_eq {t : Supply α} (h : t.item = s.item) (hs : s.IsFresh) : t.IsFresh := by
  intro i j hij
  rw [h] at hij
  exact hs i j hij

/-- A fresh supply of texts: one stroke, two strokes, and so on. -/
def strokes : Supply String := ⟨fun n => String.ofList (List.replicate (n + 1) '1'), 0⟩

theorem isFresh_strokes : strokes.IsFresh := by
  intro i j h
  have hlength : (List.replicate (i + 1) '1').length = (List.replicate (j + 1) '1').length :=
    congrArg List.length (String.ofList_injective h)
  simpa using hlength

end Supply

/-- Every id in the store and in the registry has been handed out. -/
structure Realm.Numbered (r : Realm) : Prop where
  stored : ∀ {id s}, r.store.find? id = some s → r.sessionIds.HasGiven id
  registered : ∀ {p g}, g ∈ r.registry.sessionsFor p → r.sessionIds.HasGiven g.sessionId

namespace Realm

theorem numbered_initial (clock : Timestamp) (sessionIds : Supply String) :
    (initial clock sessionIds).Numbered where
  stored h := by simp [initial] at h
  registered h := by simp [initial] at h

theorem Trimmed.numbered {r room : Realm} (h : Trimmed r room) (hr : r.Numbered) :
    room.Numbered where
  stored hs := h.sessionIds_eq ▸ hr.stored (h.find?_of_find? hs)
  registered hg := h.sessionIds_eq ▸ hr.registered ((h.sublist _).subset hg)

end Realm

namespace LoginStrategy

variable {maximum : Int} {strict : Bool} {config : SessionConfig} {tracked migrate : Bool}
  {identity : Identity} {slot : Option Session} {r left : Realm}
  {ending : Ending LoginError Unit}

/-- The room that a limit leaves is a trimmed realm. -/
theorem trimmed_of_limited {room : Realm}
    (h : limited maximum strict identity.principal slot r = (ending, room)) :
    Realm.Trimmed r room := by
  have htrimmed := limited_trimmed maximum strict identity.principal slot r
  rwa [h] at htrimmed

/-- A login changes neither the clock nor the working order of the store nor the
sequence from which ids come. -/
theorem Rotation.frame {after : LoginState}
    (h : Rotation maximum strict config tracked migrate identity slot r ending after) :
    after.realm.clock = r.clock ∧ after.realm.faults = r.faults ∧
      after.realm.sessionIds.item = r.sessionIds.item := by
  have hroomFrame {ending : Ending LoginError Unit} {room : Realm}
      (hroom : limited maximum strict identity.principal slot r = (ending, room)) :
      room.clock = r.clock ∧ room.faults = r.faults ∧
        room.sessionIds.item = r.sessionIds.item := by
    have htrimmed := trimmed_of_limited hroom
    exact ⟨htrimmed.clock_eq, htrimmed.faults_eq, congrArg Supply.item htrimmed.sessionIds_eq⟩
  cases h with
  | refused room calls hroom =>
      have hframe := hroomFrame hroom
      exact hframe
  | aborted room calls hroom hslot =>
      have hframe := hroomFrame hroom
      exact hframe
  | created room calls hroom hslot hnew =>
      have hframe := hroomFrame hroom
      exact hframe
  | moved room calls hroom hslot =>
      have hframe := hroomFrame hroom
      exact hframe

theorem Admission.frame (h : Admission maximum strict config migrate identity slot r ending left) :
    left.clock = r.clock ∧ left.faults = r.faults ∧
      left.sessionIds.item = r.sessionIds.item := by
  obtain ⟨later, hrotation⟩ := h
  exact hrotation.frame

/-- A new session has the id that is handed out next. -/
theorem id_of_newSession? {session : Session}
    (h : newSession? config r identity = some session) : session.id = r.sessionIds.next := by
  obtain ⟨lifetime, -, hcreate⟩ := Option.bind_eq_some_iff.mp h
  obtain ⟨expiry, -, rfl⟩ := Option.map_eq_some_iff.mp hcreate
  rfl

/-- A new session belongs to the identity that logs in. -/
theorem identity_of_newSession? {session : Session}
    (h : newSession? config r identity = some session) : session.identity = identity := by
  obtain ⟨lifetime, -, hcreate⟩ := Option.bind_eq_some_iff.mp h
  obtain ⟨expiry, -, rfl⟩ := Option.map_eq_some_iff.mp hcreate
  rfl

/-- After a login, too, every id has been handed out. -/
theorem Rotation.numbered {after : LoginState}
    (h : Rotation maximum strict config tracked migrate identity slot r ending after)
    (hr : r.Numbered) : after.realm.Numbered := by
  cases h with
  | refused room calls hroom =>
      have hnumbered := (trimmed_of_limited hroom).numbered hr
      exact ⟨hnumbered.stored, hnumbered.registered⟩
  | aborted room calls hroom hslot =>
      have hnumbered := (trimmed_of_limited hroom).numbered hr
      exact ⟨fun hs => (hnumbered.stored hs).advance,
        fun hg => (hnumbered.registered hg).advance⟩
  | @created room session calls hroom hslot hnew =>
      have hnumbered := (trimmed_of_limited hroom).numbered hr
      have hid : session.id = room.sessionIds.next := id_of_newSession? hnew
      have hgiven : room.sessionIds.advance.HasGiven session.id := by
        rw [hid]
        exact Supply.hasGiven_advance_next _
      refine ⟨?_, ?_⟩
      · intro id s hs
        change (LoginStrategy.created room session).store.find? id = some s at hs
        rw [find?_created] at hs
        split at hs
        · rename_i heq
          exact heq ▸ hgiven
        · exact (hnumbered.stored hs).advance
      · intro p g hg
        rcases Registry.mem_sessionsFor_register hg with hg | ⟨-, rfl⟩
        · exact (hnumbered.registered hg).advance
        · exact hgiven
  | @moved room current calls hroom hslot =>
      have hnumbered := (trimmed_of_limited hroom).numbered hr
      have hgiven : room.sessionIds.advance.HasGiven room.sessionIds.next :=
        Supply.hasGiven_advance_next _
      refine ⟨?_, ?_⟩
      · intro id s hs
        change (LoginStrategy.moved room tracked migrate identity current).store.find? id =
          some s at hs
        rw [find?_moved] at hs
        split at hs
        · contradiction
        · split at hs
          · rename_i heq
            exact heq ▸ hgiven
          · exact (hnumbered.stored hs).advance
      · intro p g hg
        rcases Registry.mem_sessionsFor_register hg with hg | ⟨-, rfl⟩
        · rcases mem_sessionsFor_moved hg with hg | ⟨before, hbefore, rfl⟩
          · exact (hnumbered.registered hg).advance
          · rw [Registration.sessionId_rename]
            split
            · exact hgiven
            · exact (hnumbered.registered hbefore).advance
        · exact hgiven

theorem Admission.numbered
    (h : Admission maximum strict config migrate identity slot r ending left)
    (hr : r.Numbered) : left.Numbered := by
  obtain ⟨later, hrotation⟩ := h
  exact hrotation.numbered hr

end LoginStrategy

namespace Realm

open LoginStrategy

variable {maximum : Int} {strict : Bool} {config : SessionConfig} {migrate : Bool}

/-- What a login of a run makes of the realm. -/
theorem login_admission {r : Realm} (h : r.IsSound) (maximum : Int) (strict : Bool)
    (config : SessionConfig) (migrate : Bool) (identity : Identity)
    (sessionId : Option String) :
    Admission maximum strict config migrate identity (r.slot sessionId) r
      (login (limitedLogin maximum strict config migrate) identity sessionId r).1
      (login (limitedLogin maximum strict config migrate) identity sessionId r).2 :=
  admission_of_run h maximum strict config migrate identity (r.slot sessionId)

/-- What the passing of time and every login keep holds throughout a run. -/
theorem play_invariant {P : Realm → Prop} {r : Realm} (hsound : r.IsSound) (h : P r)
    (helapse : ∀ r clock, r.clock.le clock = true → P r → P { r with clock := clock })
    (hlogin : ∀ r identity sessionId ending left, P r →
      Admission maximum strict config migrate identity (r.slot sessionId) r ending left → P left)
    (events : List LoginEvent) :
    P (play (limitedLogin maximum strict config migrate) r events) := by
  refine (play_induction (P := fun r => r.IsSound ∧ P r) ⟨hsound, h⟩ ?_ events).2
  rintro r e ⟨hsound, h⟩
  cases e with
  | login identity sessionId =>
      have hadmission :=
        login_admission hsound maximum strict config migrate identity sessionId
      refine ⟨?_, hlogin r identity sessionId _ _ h hadmission⟩
      intro operation
      simp only [step]
      rw [hadmission.frame.2.1]
      exact hsound operation
  | elapse clock =>
      simp only [step]
      split
      · rename_i hle
        exact ⟨hsound, helapse r clock hle h⟩
      · exact ⟨hsound, h⟩

theorem isSound_initial (clock : Timestamp) (sessionIds : Supply String) :
    (initial clock sessionIds).IsSound :=
  fun _ => rfl

end Realm

end WebAuth
