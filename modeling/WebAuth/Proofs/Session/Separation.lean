import WebAuth.Proofs.Session.Limit
import WebAuth.Proofs.Session.Ownership

/-!
# Whose sessions a login can end

Sessions are grouped by principal, so a login that makes room ends sessions of its own
principal only.  The principal joins provider and subject by a colon, and both may have
colons of their own: a provider at an address with a port and a subject with that port in
front have the same principal.  Users of different providers can then end each other's
sessions.

Main results:

- Theorem `Identity.principal_eq_iff`: which identities have the same principal.
- Theorem `Realm.undisturbed_login`: a login leaves the sessions of other principals alone.
- Theorem `Realm.find?_login_eq_none`: at a limit of one it ends those of its own.
- Theorem `Identity.leavesAlone_iff`: which identities leave each other's sessions alone.
-/

namespace WebAuth

open Calendar LoginStrategy

/-! ## Principals -/

namespace Identity

/-- Two identities are the same subject of the same provider. -/
def SameUser (i j : Identity) : Prop :=
  i.providerId = j.providerId ∧ i.externalId = j.externalId

/-- The provider of `j` goes on, after that of `i` and a colon, with the text with which
the subject of `i` begins before a colon and the subject of `j`. -/
def Overlaps (i j : Identity) : Prop :=
  ∃ middle, j.providerId = i.providerId ++ ":" ++ middle ∧
    i.externalId = middle ++ ":" ++ j.externalId

theorem toList_principal (i : Identity) :
    i.principal.toList = i.providerId.toList ++ ':' :: i.externalId.toList := by
  simp [principal]

theorem SameUser.principal_eq {i j : Identity} (h : i.SameUser j) :
    i.principal = j.principal := by
  rw [principal, principal, h.1, h.2]

theorem Overlaps.principal_eq {i j : Identity} (h : i.Overlaps j) :
    i.principal = j.principal := by
  obtain ⟨middle, hprovider, hsubject⟩ := h
  simp only [principal, hprovider, hsubject, String.append_assoc]

/-- What two texts with the same join have in common. -/
theorem sameUser_or_overlaps {i j : Identity} {rest : List Char}
    (hprovider : j.providerId.toList = i.providerId.toList ++ rest)
    (hsubject : ':' :: i.externalId.toList = rest ++ ':' :: j.externalId.toList) :
    i.SameUser j ∨ i.Overlaps j := by
  cases rest with
  | nil =>
      refine Or.inl ⟨?_, ?_⟩
      · exact (String.toList_injective (by simpa using hprovider)).symm
      · exact String.toList_injective (by simpa using hsubject)
  | cons first middle =>
      rw [List.cons_append, List.cons.injEq] at hsubject
      obtain ⟨rfl, hsubject⟩ := hsubject
      refine Or.inr ⟨String.ofList middle, ?_, ?_⟩
      · exact String.toList_injective (by simpa using hprovider)
      · exact String.toList_injective (by simpa using hsubject)

/-- Two identities have the same principal if they are the same user or if one's provider
and the other's subject overlap. -/
theorem principal_eq_iff {i j : Identity} :
    i.principal = j.principal ↔ i.SameUser j ∨ i.Overlaps j ∨ j.Overlaps i := by
  constructor
  · intro h
    have hjoined := congrArg String.toList h
    rw [toList_principal, toList_principal, List.append_eq_append_iff] at hjoined
    rcases hjoined with ⟨rest, hprovider, hsubject⟩ | ⟨rest, hprovider, hsubject⟩
    · rcases sameUser_or_overlaps hprovider hsubject with hsame | hoverlap
      · exact Or.inl hsame
      · exact Or.inr (Or.inl hoverlap)
    · rcases sameUser_or_overlaps hprovider hsubject with hsame | hoverlap
      · exact Or.inl ⟨hsame.1.symm, hsame.2.symm⟩
      · exact Or.inr (Or.inr hoverlap)
  · rintro (hsame | hoverlap | hoverlap)
    · exact hsame.principal_eq
    · exact hoverlap.principal_eq
    · exact hoverlap.principal_eq.symm

/-- A provider whose name has no colon overlaps with no subject. -/
theorem not_overlaps_of_no_colon {j : Identity} (h : ':' ∉ j.providerId.toList)
    (i : Identity) : ¬i.Overlaps j := by
  rintro ⟨middle, hprovider, -⟩
  exact h (by simp [hprovider])

end Identity

/-! ## Runs without sessions of their own -/

/-- A login comes without a session, or only time passes. -/
def LoginEvent.IsBare : LoginEvent → Prop
  | .login _ sessionId => sessionId = none
  | .elapse _ => True

namespace Realm

variable {maximum : Int} {strict : Bool} {config : SessionConfig} {migrate : Bool} {r : Realm}

/-- What comes without a session takes none over. -/
theorem not_takesOver_of_isBare {e : LoginEvent} (h : e.IsBare) (strategy : LoginStrategy) :
    ¬ TakesOver strategy r e := by
  rintro ⟨identity, sessionId, current, rfl, hslot, -⟩
  cases (h : sessionId = none)
  cases hslot

/-- Registry and store agree after a run in which all logins come without sessions. -/
theorem WellKept.play_of_isBare (h : r.WellKept) (hagree : r.OwnersAgree)
    {events : List LoginEvent} (hbare : ∀ e ∈ events, e.IsBare) :
    (play (limitedLogin maximum strict config migrate) r events).WellKept ∧
      (play (limitedLogin maximum strict config migrate) r events).OwnersAgree := by
  induction events generalizing r with
  | nil => exact ⟨h, hagree⟩
  | cons e rest ih =>
      have hnone := not_takesOver_of_isBare (r := r) (hbare e List.mem_cons_self)
        (limitedLogin maximum strict config migrate)
      exact ih (h.step e) ((h.step_ownersAgree_iff hagree e).mpr hnone)
        (fun later hlater => hbare later (List.mem_cons_of_mem e hlater))

/-! ## Sessions of other principals -/

/-- A session that was live in `r` is still stored in `left`, and still on the lists on
which it was. -/
structure Undisturbed (r left : Realm) (s : Session) : Prop where
  stored : left.store.find? s.id = some s
  registered : ∀ p, ∀ g ∈ r.registry.sessionsFor p, g.sessionId = s.id →
    g ∈ left.registry.sessionsFor p

/-- A limit keeps the sessions that are not on the principal's list. -/
theorem find?_limited {principal id : String}
    (hnot : ∀ own ∈ r.registry.sessionsFor principal, own.sessionId ≠ id) (maximum : Int)
    (strict : Bool) (slot : Option Session) :
    (limited maximum strict principal slot r).2.store.find? id = r.store.find? id := by
  simp only [limited]
  split
  · rfl
  · split
    · rfl
    · split
      · rfl
      · change (r.store.deleteAll (oldest maximum (r.liveSessionsFor principal))).find? id = _
        rw [Store.find?_deleteAll, if_neg]
        simp only [oldest, List.mem_map, not_exists, not_and]
        intro own hown
        exact hnot own (List.mem_filter.mp (List.mem_of_mem_take hown)).1

/-- A login without a session leaves the live sessions of other principals alone. -/
theorem undisturbed_login (h : r.WellKept) (hagree : r.OwnersAgree) {s : Session}
    (hs : r.store.live? r.clock s.id = some s) {identity : Identity}
    (hother : identity.principal ≠ s.identity.principal) :
    Undisturbed r (login (limitedLogin maximum strict config migrate) identity none r).2 s := by
  have hoff : ∀ own ∈ r.registry.sessionsFor identity.principal, own.sessionId ≠ s.id := by
    intro own hown heq
    exact hother (hagree hown (heq ▸ hs)).symm
  have hroomKeeps {ending : Ending LoginError Unit} {room : Realm}
      (hroom : limited maximum strict identity.principal none r = (ending, room)) :
      Undisturbed r room s := by
    have hfind := find?_limited hoff maximum strict none
    have hlisted (p : String) (g : Registration) (hg : g ∈ r.registry.sessionsFor p)
        (hid : g.sessionId = s.id) :=
      mem_sessionsFor_limited hg (hid ▸ hoff) maximum strict none
    rw [hroom] at hfind hlisted
    exact ⟨hfind.trans (Store.live?_eq_some_iff.mp hs).1, hlisted⟩
  have hadmission := login_admission h.sound maximum strict config migrate identity none
  generalize login (limitedLogin maximum strict config migrate) identity none r = outcome
    at hadmission
  obtain ⟨ending, left⟩ := outcome
  obtain ⟨later, hrotation⟩ := hadmission
  cases hrotation with
  | refused room calls hroom =>
      have hkeeps := hroomKeeps hroom
      exact ⟨hkeeps.stored, hkeeps.registered⟩
  | aborted room calls hroom hslot =>
      have hkeeps := hroomKeeps hroom
      exact ⟨hkeeps.stored, hkeeps.registered⟩
  | @created room session calls hroom hslot hnew =>
      have hkeeps := hroomKeeps hroom
      have htrimmed := trimmed_of_limited hroom
      have hne : s.id ≠ session.id := by
        rw [id_of_newSession? hnew, htrimmed.sessionIds_eq]
        exact Supply.ne_next_of_hasGiven h.fresh
          (h.numbered.stored (Store.live?_eq_some_iff.mp hs).1)
      refine ⟨?_, ?_⟩
      · change (LoginStrategy.created room session).store.find? s.id = some s
        rw [find?_created, if_neg hne]
        exact hkeeps.stored
      · intro p g hg hid
        exact Registry.mem_sessionsFor_register_of_mem (hkeeps.registered p g hg hid) _ _ _
  | moved room calls hroom hslot => cases hslot

/-! ## Sessions of the same principal -/

/-- At a limit of one, a login without a session ends the live sessions of its
principal. -/
theorem find?_login_eq_none (h : r.WellKept) {s : Session}
    (hs : r.store.live? r.clock s.id = some s) {identity : Identity}
    (hsame : s.identity.principal = identity.principal) :
    (login (limitedLogin 1 false config migrate) identity none r).2.store.find? s.id = none := by
  obtain ⟨hstored, hlive⟩ := Store.live?_eq_some_iff.mp hs
  obtain ⟨g, hg, hid⟩ := h.registered hs
  rw [hsame] at hg
  have hroomEnds {room : Realm}
      (hroom : limited 1 false identity.principal none r = (.value (), room)) :
      room.store.find? s.id = none := by
    have htrimmed := trimmed_of_limited hroom
    have hempty : room.registry.sessionsFor identity.principal = [] := by
      rcases room_of_limited (by decide) hroom with hless | ⟨-, hholds⟩
      · exact List.length_eq_zero_iff.mp (Nat.lt_one_iff.mp hless)
      · cases hholds
    cases hkept : room.store.find? s.id with
    | none => rfl
    | some kept =>
        -- Were it still there, it would be live, and its registration would have stayed.
        have hkeptLive : room.hasLive g = true := by
          have hsameSession : kept = s := by
            have hfound := htrimmed.find?_of_find? hkept
            rw [hstored] at hfound
            exact (Option.some.inj hfound).symm
          refine hasLive_iff.mpr ⟨kept, Store.live?_eq_some_iff.mpr ⟨hid ▸ hkept, ?_⟩⟩
          rw [hsameSession, htrimmed.clock_eq]
          exact hlive
        have hmem := htrimmed.mem_of_hasLive hg hkeptLive
        rw [hempty] at hmem
        cases hmem
  have hadmission := login_admission h.sound 1 false config migrate identity none
  generalize login (limitedLogin 1 false config migrate) identity none r = outcome
    at hadmission
  obtain ⟨ending, left⟩ := outcome
  obtain ⟨later, hrotation⟩ := hadmission
  cases hrotation with
  | refused room calls hroom =>
      -- A limit of one that is not strict refuses nobody.
      simp only [limited] at hroom
      split at hroom
      · cases hroom
      · split at hroom
        · cases hroom
        · simp at hroom
  | aborted room calls hroom hslot =>
      have hended := hroomEnds hroom
      exact hended
  | @created room session calls hroom hslot hnew =>
      have hne : s.id ≠ session.id := by
        rw [id_of_newSession? hnew, (trimmed_of_limited hroom).sessionIds_eq]
        exact Supply.ne_next_of_hasGiven h.fresh (h.numbered.stored hstored)
      change (LoginStrategy.created room session).store.find? s.id = none
      rw [find?_created, if_neg hne]
      exact hroomEnds hroom
  | moved room calls hroom hslot => cases hslot

end Realm

/-! ## Which identities leave each other alone -/

namespace Identity

/-- However many sessions are allowed, and whoever has logged in before, all without
sessions of their own: a login of the one leaves the live sessions of the other alone. -/
def LeavesAlone (i j : Identity) : Prop :=
  ∀ (maximum : Int) (config : SessionConfig) (migrate : Bool) (clock : Timestamp)
    (sessionIds : Supply String) (events : List LoginEvent),
    1 ≤ maximum → sessionIds.IsFresh → (∀ e ∈ events, e.IsBare) →
      let strategy := limitedLogin maximum false config migrate
      let r := (Realm.initial clock sessionIds).play strategy events
      ∀ s, r.store.live? r.clock s.id = some s → s.identity = j →
        Realm.Undisturbed r (Realm.login strategy i none r).2 s

/-- The session of the first login of a run. -/
def firstSession (j : Identity) : Session := ⟨"1", j, [], ⟨0, 0⟩, ⟨86400, 0⟩⟩

theorem live?_firstLogin (j : Identity) :
    let r := (Realm.initial ⟨0, 0⟩ .strokes).play (limitedLogin 1 false .default true)
      [.login j none]
    r.store.live? r.clock (firstSession j).id = some (firstSession j) :=
  rfl

/-- An identity leaves the sessions of another alone unless they are the same user or the
provider of one overlaps with the subject of the other. -/
theorem leavesAlone_iff (i j : Identity) :
    i.LeavesAlone j ↔ ¬(i.SameUser j ∨ i.Overlaps j ∨ j.Overlaps i) := by
  rw [← principal_eq_iff]
  constructor
  · intro h hsame
    have hbare : ∀ e ∈ [LoginEvent.login j none], e.IsBare := by
      simp [LoginEvent.IsBare]
    have hlive := live?_firstLogin j
    have hkept := h 1 .default true ⟨0, 0⟩ .strokes [.login j none] (Int.le_refl 1)
      Supply.isFresh_strokes hbare (firstSession j) hlive rfl
    have hwell : ((Realm.initial ⟨0, 0⟩ .strokes).play (limitedLogin 1 false .default true)
        [.login j none]).WellKept :=
      (Realm.wellKept_initial ⟨0, 0⟩ Supply.isFresh_strokes).step (.login j none)
    have hended : (Realm.login (limitedLogin 1 false .default true) i none
        ((Realm.initial ⟨0, 0⟩ .strokes).play (limitedLogin 1 false .default true)
          [.login j none])).2.store.find? (firstSession j).id = none :=
      Realm.find?_login_eq_none hwell hlive hsame.symm
    rw [hkept.stored] at hended
    cases hended
  · intro hother maximum config migrate clock sessionIds events _ hfresh hbare strategy r s
      hs hj
    have hagree : (Realm.initial clock sessionIds).OwnersAgree := by
      intro p g s hg
      simp [Realm.initial] at hg
    obtain ⟨hwell, hagrees⟩ :=
      (Realm.wellKept_initial clock hfresh).play_of_isBare hagree hbare
    exact Realm.undisturbed_login hwell hagrees hs (hj ▸ hother)

/-- A subject that begins with a port number. -/
def portSubject : Identity := .ofSubject "https://idp.example.com" "8443:alice"

/-- A subject of a provider at that port. -/
def portProvider : Identity := .ofSubject "https://idp.example.com:8443" "alice"

/-- The subject that begins with a port number ends a session of the subject of the
provider at that port. -/
theorem not_leavesAlone_port :
    ¬portSubject.SameUser portProvider ∧ ¬portSubject.LeavesAlone portProvider := by
  constructor
  · unfold SameUser
    decide
  · intro h
    have hkept := h 1 .default true ⟨0, 0⟩ .strokes [.login portProvider none] (Int.le_refl 1)
      Supply.isFresh_strokes (by simp [LoginEvent.IsBare])
      (firstSession portProvider) rfl rfl
    exact absurd hkept.stored (by decide)

end Identity

end WebAuth
