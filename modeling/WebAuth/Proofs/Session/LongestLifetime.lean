import WebAuth.Proofs.Session.StoreFailure
import WebAuth.SecurityConfig

/-!
# How long sessions can live

Settings are checked for a lifetime that is too short, not for one that is too long.  There are
two limits to lifetimes: a duration of that many seconds has to exist, and so has the instant at
which a session that is created now comes to its end.  The calendar is shorter than the longest
duration, so the second limit is always reached first.  A login beyond it aborts.

Main results:

- Theorem `LoginStrategy.newSession?_eq`: which sessions a login can create.
- Theorem `LoginStrategy.createsLasting_iff_of_validate`: at which times a login with settings
  that pass their check creates a session, and with which of them it does so at all times before
  the year 10000.
- Theorem `LoginStrategy.not_createsLasting_endless`: settings can pass their check and let
  logins abort.
-/

namespace WebAuth

open Calendar

/-! ## Instants of the calendar -/

namespace Calendar.Timestamp

theorem leastSecond_eq : leastSecond = -8334601228800 := by
  decide

theorem greatestSecond_eq : greatestSecond = 8210266876799 := by
  decide

/-- The first second of a year. -/
def yearStart (year : Int) : Int := Date.toDay ⟨year, 1, 1⟩ * secondsPerDay

/-- An instant lies before a year. -/
def IsBefore (t : Timestamp) (year : Int) : Prop := t.seconds < yearStart year

instance (t : Timestamp) (year : Int) : Decidable (t.IsBefore year) :=
  inferInstanceAs (Decidable (t.seconds < yearStart year))

theorem yearStart_tenThousand : yearStart 10000 = 253402300800 := by
  decide

/-- From an instant of the calendar, some seconds lead to a later one unless they lead beyond
the last second. -/
theorem plusSeconds?_of_isValid {t : Timestamp} {seconds : Int} (ht : t.isValid = true)
    (hseconds : 0 ≤ seconds) :
    t.plusSeconds? seconds =
      if t.seconds + seconds ≤ greatestSecond then
        some { t with seconds := t.seconds + seconds }
      else none := by
  simp only [isValid, Bool.and_eq_true, decide_eq_true_eq] at ht
  have hleast : leastSecond ≤ t.seconds + seconds := by omega
  simp only [plusSeconds?, isValid, Bool.and_eq_true, decide_eq_true_eq, hleast, true_and]

end Calendar.Timestamp

open Timestamp

/-! ## Settings -/

namespace SessionConfig

variable {config : SessionConfig}

/-- A lifetime that leads from one instant of the calendar to another can be represented. -/
theorem lifetime?_eq_some {t : Timestamp} (ht : t.isValid = true) (hpos : 0 < config.maxAgeSecs)
    (hend : t.seconds + config.maxAgeSecs ≤ greatestSecond) :
    config.lifetime? = some config.maxAgeSecs := by
  simp only [isValid, Bool.and_eq_true, decide_eq_true_eq, leastSecond_eq] at ht
  rw [greatestSecond_eq] at hend
  refine lifetime?_eq_some_iff.mpr ⟨rfl, ?_⟩
  simp only [durationLimit]
  omega

end SessionConfig

namespace LoginStrategy

variable {identity : Identity} {config : SessionConfig} {tracked migrate : Bool} {r : Realm}

/-- The session of a login that comes without one has the lifetime of the settings; there is
none if that leads beyond the calendar. -/
theorem newSession?_eq (hclock : r.clock.isValid = true) (hpos : 0 < config.maxAgeSecs) :
    newSession? config r identity =
      if r.clock.seconds + config.maxAgeSecs ≤ greatestSecond then
        some ⟨r.sessionIds.next, identity, [], r.clock,
          { r.clock with seconds := r.clock.seconds + config.maxAgeSecs }⟩
      else none := by
  have hplus := plusSeconds?_of_isValid hclock (Int.le_of_lt hpos)
  split
  · rename_i hend
    rw [if_pos hend] at hplus
    simp [newSession?, SessionConfig.lifetime?_eq_some hclock hpos hend, Session.create?, hplus]
  · rename_i hend
    rw [if_neg hend] at hplus
    -- If the duration is too long as well, there is nothing to show.
    rw [newSession?, Option.bind_eq_none_iff]
    intro lifetime hlifetime
    rw [(SessionConfig.lifetime?_eq_some_iff.mp hlifetime).1, Session.create?, hplus]
    rfl

/-! ## Logins without a session -/

/-- A login has created a session of the identity, which is in the slot and in the store and
ends strictly after its creation. -/
def CreatesLasting (identity : Identity) (now : Timestamp)
    (outcome : Ending LoginError Unit × LoginState) : Prop :=
  outcome.1 = .value () ∧
    ∃ session, outcome.2.slot = some session ∧
      outcome.2.realm.store.find? session.id = some session ∧ session.identity = identity ∧
      session.createdAt = now ∧ session.expiresAt.le session.createdAt = false

/-- A login without a session aborts exactly if there is no new session. -/
theorem Creation.aborted_iff {ending : Ending LoginError Unit} {left : LoginState}
    (h : Creation config identity r ending left) :
    ending = .aborted ↔ newSession? config r identity = none := by
  cases h with
  | endless hnew => exact iff_of_true rfl hnew
  | unsaved calls hnew hsave => simp [hnew]
  | created calls hnew hsave => simp [hnew]

/-- A login without a session creates one that lasts exactly if there is a new session and the
store takes it. -/
theorem Creation.createsLasting_iff {ending : Ending LoginError Unit} {left : LoginState}
    (h : Creation config identity r ending left) (hpos : 0 < config.maxAgeSecs) :
    CreatesLasting identity r.clock (ending, left) ↔
      newSession? config r identity ≠ none ∧ r.faults .save = none := by
  cases h with
  | endless hnew =>
      refine iff_of_false ?_ (fun h => h.1 hnew)
      rintro ⟨hending, -⟩
      cases hending
  | unsaved calls hnew hsave =>
      refine iff_of_false ?_ (by simp [hsave])
      rintro ⟨hending, -⟩
      cases hending
  | @created session calls hnew hsave =>
      refine iff_of_true ?_ ⟨by simp [hnew], hsave⟩
      obtain ⟨lifetime, hlifetime, hcreate⟩ := Option.bind_eq_some_iff.mp hnew
      obtain ⟨expiry, hexpiry, rfl⟩ := Option.map_eq_some_iff.mp hcreate
      rw [(SessionConfig.lifetime?_eq_some_iff.mp hlifetime).1] at hexpiry
      exact ⟨rfl, _, rfl, Store.find?_save_self _ _, rfl, rfl, (le_plusSeconds? hpos hexpiry).2⟩

/-- With a positive lifetime, a login at some time of the calendar aborts exactly if the lifetime
leads beyond its last second.  Else it creates a session that lasts, if the store takes it. -/
theorem createsLasting_iff_of_isValid (hclock : r.clock.isValid = true)
    (hpos : 0 < config.maxAgeSecs) (identity : Identity) (tracked migrate : Bool) :
    let outcome := run identity (.changeId config tracked migrate) ⟨none, r⟩
    (outcome.1 = .aborted ↔ greatestSecond < r.clock.seconds + config.maxAgeSecs) ∧
      (CreatesLasting identity r.clock outcome ↔
        r.clock.seconds + config.maxAgeSecs ≤ greatestSecond ∧ r.faults .save = none) := by
  intro outcome
  have hcreation : Creation config identity r outcome.1 outcome.2 :=
    creation_of_run r identity config tracked migrate
  have haborted := hcreation.aborted_iff
  have hcreates : CreatesLasting identity r.clock outcome ↔ _ :=
    hcreation.createsLasting_iff hpos
  rw [newSession?_eq hclock hpos] at haborted hcreates
  rw [haborted, hcreates]
  split
  · rename_i hend
    simp [hend]
  · rename_i hend
    simp [Int.not_le.mp hend, hend]

/-- Settings have passed their check, and a login comes without a session at any time of the
calendar.  It aborts exactly if the lifetime leads beyond the last second of the calendar.  Else
it creates a session that lasts, if the store takes it.  So the settings with which logins create
sessions at all times before the year 10000 are those whose lifetime does not lead beyond the
calendar from the last second before that year. -/
theorem createsLasting_iff_of_validate {c : SecurityConfig} (hvalid : c.validate = .ok ())
    (identity : Identity) (tracked migrate : Bool) :
    (∀ r : Realm, r.clock.isValid = true →
      let outcome := run identity (.changeId c.session tracked migrate) ⟨none, r⟩
      (outcome.1 = .aborted ↔ greatestSecond < r.clock.seconds + c.session.maxAgeSecs) ∧
        (CreatesLasting identity r.clock outcome ↔
          r.clock.seconds + c.session.maxAgeSecs ≤ greatestSecond ∧ r.faults .save = none)) ∧
    ((∀ r : Realm, r.faults .save = none → r.clock.isValid = true → r.clock.IsBefore 10000 →
        CreatesLasting identity r.clock
          (run identity (.changeId c.session tracked migrate) ⟨none, r⟩)) ↔
      c.session.maxAgeSecs ≤ 7956864576000) := by
  have hpos := (SecurityConfig.validate_eq_ok_iff.mp hvalid).2
  have hclocked {r : Realm} (hclock : r.clock.isValid = true) :=
    createsLasting_iff_of_isValid hclock hpos identity tracked migrate
  refine ⟨fun r hclock => hclocked hclock, ?_⟩
  constructor
  · intro hall
    -- The last second before the year 10000 is the one that leaves least.
    have hclock : (Realm.initial ⟨yearStart 10000 - 1, 0⟩ .strokes).clock.isValid = true := by
      decide
    have hlast := hall _ rfl hclock (by decide)
    have hend := ((hclocked hclock).2.mp hlast).1
    rw [greatestSecond_eq] at hend
    simp only [Realm.initial, yearStart_tenThousand] at hend
    omega
  · intro hlimit r hsave hclock hbefore
    refine (hclocked hclock).2.mpr ⟨?_, hsave⟩
    rw [IsBefore, yearStart_tenThousand] at hbefore
    rw [greatestSecond_eq]
    omega

/-- Default settings with another lifetime. -/
def settingsOfLifetime (seconds : Int) : SecurityConfig :=
  { SecurityConfig.default with
    session := { SessionConfig.default with maxAgeSecs := seconds } }

/-- Settings of the longest lifetime with which no login fails before the year 10000, at the first
second of that year. -/
theorem createsLasting_iff_of_validate_longest :
    let c := settingsOfLifetime 7956864576000
    let newYear := Realm.initial ⟨yearStart 10000, 0⟩ .strokes
    let login := run (.ofSubject "idp" "alice") (.changeId c.session true true)
    c.validate = .ok () ∧
      (∀ r : Realm, r.faults .save = none → r.clock.isValid = true → r.clock.IsBefore 10000 →
        CreatesLasting (.ofSubject "idp" "alice") r.clock (login ⟨none, r⟩)) ∧
      (login ⟨none, newYear⟩).1 = .aborted := by
  intro c newYear login
  have hvalid : c.validate = .ok () := rfl
  obtain ⟨hclocked, hbefore⟩ :=
    createsLasting_iff_of_validate hvalid (.ofSubject "idp" "alice") true true
  exact ⟨hvalid, hbefore.mpr (by decide), (hclocked newYear (by decide)).1.mpr (by decide)⟩

/-- Not all settings that pass their check let logins create sessions: a lifetime can exist as a
duration and lead beyond the calendar. -/
theorem not_createsLasting_endless :
    ¬∀ (c : SecurityConfig) (r : Realm) (identity : Identity) (tracked migrate : Bool),
      c.validate = .ok () → c.session.maxAgeSecs ≤ 9223372036854775807 → r.IsSound →
      r.clock.isValid = true → r.clock.IsBefore 10000 →
      CreatesLasting identity r.clock
        (run identity (.changeId c.session tracked migrate) ⟨none, r⟩) := by
  intro h
  have hcreates := h (settingsOfLifetime 9000000000000) (Realm.initial ⟨0, 0⟩ .strokes)
    (.ofSubject "idp" "alice") true true rfl (by decide) (fun _ => rfl) (by decide) (by decide)
  exact absurd hcreates.1 (by decide)

end LoginStrategy

end WebAuth
