import Mathlib.Data.List.Induction
import Mathlib.Data.List.Nodup
import WebAuth.Dictionary
import WebAuth.Proofs.Session.Listing

/-!
# The registry as the table of its history

What a registry should hold can be read off the calls it has had, without any lists that are
changed on the way: every call that registers an id which no session of its principal has at
that moment opens a session, the later calls say which id this session has in the end, and
the order of these calls is the order of the sessions.  The registry keeps just that table.

Each call is described once by what it makes of a principal's list.  The history is followed
in the same terms, so that both sides change alike with every further call.

Main results:

- Theorem `RegistryVisit.sessionsFor_after`: what a call makes of a principal's list.
- Theorem `Registry.mem_idsFor_play` and theorem `Registry.sessionsFor_play`: after any calls
  a list holds what its history says.
- Theorem `Registry.isTableOf_play`: the lists in order of registration, without repetitions,
  and the principals; another call leaves the entries alone that it is not about.
-/

namespace WebAuth

open Calendar

/-! ## Calls -/

/-- What a registry can be told. -/
inductive RegistryCall where
  | register (id principal : String)
  | remove (id : String)
  | rename (old new : String)
deriving DecidableEq, Repr

/-- A call and its time. -/
structure RegistryVisit where
  time : Timestamp
  call : RegistryCall
deriving DecidableEq, Repr

/-- The calls that a registry has had, the earliest first. -/
abbrev RegistryHistory := List RegistryVisit

namespace RegistryCall

/-- The id that a call registers under a principal, if it registers one there. -/
def registers? (p : String) : RegistryCall → Option String
  | register id principal => if principal = p then some id else none
  | remove _ => none
  | rename _ _ => none

/-- The id after a call of the session that has an id before it; none if it is removed. -/
def idAfter : RegistryCall → String → Option String
  | register _ _, id => some id
  | remove gone, id => if id = gone then none else some id
  | rename old new, id => some (if id = old then new else id)

/-- The id that a call is about, as far as a principal's list is concerned. -/
def subject? (p : String) : RegistryCall → Option String
  | register id principal => if principal = p then some id else none
  | remove id => some id
  | rename old _ => some old

/-- What becomes of an entry that a call finds. -/
def entryAfter (call : RegistryCall) (g : Registration) : Option Registration :=
  (call.idAfter g.sessionId).map (fun id => { g with sessionId := id })

/-- A registration changes no id. -/
theorem idAfter_of_registers? {call : RegistryCall} {p id : String}
    (h : call.registers? p = some id) (other : String) : call.idAfter other = some other := by
  cases call with
  | register first principal => rfl
  | remove gone => contradiction
  | rename old new => contradiction

end RegistryCall

namespace RegistryVisit

/-- What a call makes of the registry. -/
def after (v : RegistryVisit) (registry : Registry) : Registry :=
  match v.call with
  | .register id principal => registry.register id principal v.time
  | .remove id => registry.remove id
  | .rename old new => registry.rename old new

end RegistryVisit

namespace Registry

/-- What some calls make of the registry, one after another. -/
def play (registry : Registry) (history : RegistryHistory) : Registry :=
  history.foldl (fun registry v => v.after registry) registry

@[simp]
theorem play_nil (registry : Registry) : registry.play [] = registry :=
  rfl

@[simp]
theorem play_concat (registry : Registry) (history : RegistryHistory) (v : RegistryVisit) :
    registry.play (history ++ [v]) = v.after (registry.play history) := by
  simp [play]

end Registry

/-! ## What a history says -/

namespace RegistryHistory

/-- The id after some calls of the session that has an id before them; none if it is
removed. -/
def idAfter (history : RegistryHistory) (id : String) : Option String :=
  history.foldlM (fun id v => v.call.idAfter id) id

/-- The id in the end of the session that the call at a place registers under a principal. -/
def idAt? (history : RegistryHistory) (p : String) (i : Nat) : Option String :=
  (history[i]?.bind (fun v => v.call.registers? p)).bind (idAfter (history.drop (i + 1)))

/-- Whether some session that has been registered under a principal has the id in the end.  A
call that registers a session once more counts too, but has the same id to say of it. -/
def IsKnown (history : RegistryHistory) (p id : String) : Prop :=
  ∃ i < history.length, history.idAt? p i = some id

instance (history : RegistryHistory) (p id : String) : Decidable (history.IsKnown p id) :=
  inferInstanceAs (Decidable (∃ i < history.length, _))

/-- The entry of the session that the call at a place is the first to register under a
principal: the id that the session has in the end, the principal and the time of the call.
There is none if a session of the principal has the id already, or if a later call removes
the session. -/
def entryAt? (history : RegistryHistory) (p : String) (i : Nat) : Option Registration :=
  history[i]?.bind fun v =>
    (v.call.registers? p).bind fun id =>
      if IsKnown (history.take i) p id then none
      else (idAfter (history.drop (i + 1)) id).map fun current => ⟨current, p, v.time⟩

/-- The sessions that have been registered under a principal and not removed since, in the
order of their first registration. -/
def entriesFor (history : RegistryHistory) (p : String) : List Registration :=
  (List.range history.length).filterMap (history.entryAt? p)

end RegistryHistory

namespace RegistryVisit

variable {v : RegistryVisit} {p id : String} {known : String → Prop} [DecidablePred known]

/-- The entry of the session that a call opens under a principal by registering an id that is
not known there. -/
def opened? (v : RegistryVisit) (p : String) (known : String → Prop) [DecidablePred known] :
    Option Registration :=
  (v.call.registers? p).bind fun id => if known id then none else some ⟨id, p, v.time⟩

theorem opened?_eq_some_iff {g : Registration} :
    v.opened? p known = some g ↔
      ∃ id, v.call.registers? p = some id ∧ ¬known id ∧ ⟨id, p, v.time⟩ = g := by
  rw [opened?, Option.bind_eq_some_iff]
  refine exists_congr fun id => and_congr_right fun _ => ?_
  by_cases hknown : known id <;> simp [hknown]

theorem opened?_of_registers? (h : v.call.registers? p = some id) (hnew : ¬known id) :
    v.opened? p known = some ⟨id, p, v.time⟩ :=
  opened?_eq_some_iff.mpr ⟨id, h, hnew, rfl⟩

end RegistryVisit

namespace RegistryHistory

/-! ## One call more -/

variable (history : RegistryHistory) (p : String) (v : RegistryVisit)

@[simp]
theorem idAfter_nil : idAfter [] = some :=
  rfl

theorem idAfter_append (later : RegistryHistory) (id : String) :
    idAfter (history ++ later) id = (idAfter history id).bind (idAfter later) :=
  List.foldlM_append

theorem idAfter_concat (id : String) :
    idAfter (history ++ [v]) id = (idAfter history id).bind v.call.idAfter := by
  rw [idAfter_append]
  congr 1
  funext current
  simp [idAfter]

variable {history p}

/-- A session that was registered before has the id that the call makes of its id. -/
theorem idAt?_concat_of_lt {i : Nat} (h : i < history.length) :
    idAt? (history ++ [v]) p i = (history.idAt? p i).bind v.call.idAfter := by
  have hdrop : (history ++ [v]).drop (i + 1) = history.drop (i + 1) ++ [v] :=
    List.drop_append_of_le_length h
  have hafter := funext (idAfter_concat (history.drop (i + 1)) v)
  rw [idAt?, idAt?, List.getElem?_append_left h, hdrop, hafter]
  simp only [Option.bind_assoc]

/-- The last call gives a session the id that it registers. -/
theorem idAt?_concat_length : idAt? (history ++ [v]) p history.length = v.call.registers? p := by
  simp [idAt?]

/-- After one call more, the known ids are those that it makes of the known ids, and the one
that it registers. -/
theorem isKnown_concat {id : String} :
    IsKnown (history ++ [v]) p id ↔
      (∃ before, history.IsKnown p before ∧ v.call.idAfter before = some id) ∨
        v.call.registers? p = some id := by
  have hlength : (history ++ [v]).length = history.length + 1 := List.length_append
  constructor
  · rintro ⟨i, hi, hid⟩
    by_cases hlast : i = history.length
    · subst hlast
      rw [idAt?_concat_length] at hid
      exact Or.inr hid
    · have hbefore : i < history.length := by omega
      rw [idAt?_concat_of_lt v hbefore] at hid
      obtain ⟨before, hat, hafter⟩ := Option.bind_eq_some_iff.mp hid
      exact Or.inl ⟨before, ⟨i, hbefore, hat⟩, hafter⟩
  · rintro (⟨before, ⟨i, hi, hat⟩, hafter⟩ | hlast)
    · refine ⟨i, by omega, ?_⟩
      rw [idAt?_concat_of_lt v hi, hat]
      exact hafter
    · refine ⟨history.length, by omega, ?_⟩
      rw [idAt?_concat_length]
      exact hlast

/-- An entry of before becomes what the call makes of it. -/
theorem entryAt?_concat_of_lt {i : Nat} (h : i < history.length) :
    entryAt? (history ++ [v]) p i = (history.entryAt? p i).bind v.call.entryAfter := by
  have hdrop : (history ++ [v]).drop (i + 1) = history.drop (i + 1) ++ [v] :=
    List.drop_append_of_le_length h
  rw [entryAt?, entryAt?, List.getElem?_append_left h, hdrop,
    List.take_append_of_le_length (Nat.le_of_lt h), Option.bind_assoc]
  congr 1
  funext first
  rw [Option.bind_assoc]
  congr 1
  funext id
  split
  · rfl
  · rw [idAfter_concat]
    cases idAfter (history.drop (i + 1)) id <;> rfl

/-- The last call opens a session if it registers an id that is not known yet. -/
theorem entryAt?_concat_length :
    entryAt? (history ++ [v]) p history.length = v.opened? p (history.IsKnown p) := by
  simp [entryAt?, RegistryVisit.opened?]

/-- One call more makes of each entry what it makes of it, and appends the session that it
opens. -/
theorem entriesFor_concat :
    entriesFor (history ++ [v]) p =
      (history.entriesFor p).filterMap v.call.entryAfter ++
        (v.opened? p (history.IsKnown p)).toList := by
  have hlength : (history ++ [v]).length = history.length + 1 := List.length_append
  rw [entriesFor, hlength, List.range_succ, List.filterMap_append, entriesFor,
    List.filterMap_filterMap]
  congr 1
  · refine List.filterMap_congr ?_
    intro i hi
    exact entryAt?_concat_of_lt v (List.mem_range.mp hi)
  · rw [← entryAt?_concat_length, List.filterMap_cons]
    cases entryAt? (history ++ [v]) p history.length <;> rfl

/-! ## Order of the entries -/

/-- An entry is registered at the time of its call. -/
theorem exists_of_entryAt?_eq_some {i : Nat} {g : Registration}
    (h : history.entryAt? p i = some g) :
    ∃ v, history[i]? = some v ∧ g.registeredAt = v.time := by
  obtain ⟨v, hv, hid⟩ := Option.bind_eq_some_iff.mp h
  obtain ⟨id, -, hentry⟩ := Option.bind_eq_some_iff.mp hid
  split at hentry
  · contradiction
  · obtain ⟨current, -, rfl⟩ := Option.map_eq_some_iff.mp hentry
    exact ⟨v, hv, rfl⟩

/-- Sessions that are registered in the course of time are in the order of their times. -/
theorem pairwise_entriesFor (h : history.Pairwise (fun v w => v.time.le w.time)) (p : String) :
    (history.entriesFor p).Pairwise (fun g k => g.registeredAt.le k.registeredAt) := by
  refine List.pairwise_filterMap.mpr (List.pairwise_lt_range.imp ?_)
  intro i j hij g hg k hk
  obtain ⟨v, hv, hgtime⟩ := exists_of_entryAt?_eq_some hg
  obtain ⟨w, hw, hktime⟩ := exists_of_entryAt?_eq_some hk
  obtain ⟨hi, rfl⟩ := List.getElem?_eq_some_iff.mp hv
  obtain ⟨hj, rfl⟩ := List.getElem?_eq_some_iff.mp hw
  rw [hgtime, hktime]
  exact List.pairwise_iff_getElem.mp h i j hi hj hij

end RegistryHistory

/-! ## What a call makes of a list -/

namespace RegistryCall

variable (gs : List Registration)

theorem filterMap_entryAfter_register (id principal : String) :
    gs.filterMap (register id principal).entryAfter = gs :=
  List.filterMap_some

theorem filterMap_entryAfter_remove (id : String) :
    gs.filterMap (remove id).entryAfter = Registration.without id gs := by
  rw [Registration.without, ← List.filterMap_eq_filter]
  refine List.filterMap_congr ?_
  intro g _
  by_cases hid : g.sessionId = id
  · simp [entryAfter, idAfter, Option.guard, hid]
  · simp [entryAfter, idAfter, Option.guard, hid]

theorem filterMap_entryAfter_rename (old new : String) :
    gs.filterMap (rename old new).entryAfter = gs.map (fun g => g.rename old new) := by
  rw [← List.filterMap_eq_map]
  refine List.filterMap_congr ?_
  intro g _
  by_cases hold : g.sessionId = old
  · simp [entryAfter, idAfter, Registration.rename, hold]
  · simp [entryAfter, idAfter, Registration.rename, hold]

end RegistryCall

namespace RegistryVisit

/-- A call makes of each entry what it makes of it, and appends the session that it
registers unless it is there. -/
theorem sessionsFor_after (v : RegistryVisit) (registry : Registry) (p : String) :
    (v.after registry).sessionsFor p =
      (registry.sessionsFor p).filterMap v.call.entryAfter ++
        (v.opened? p (· ∈ registry.idsFor p)).toList := by
  obtain ⟨time, call⟩ := v
  cases call with
  | register id principal =>
      rw [RegistryCall.filterMap_entryAfter_register]
      by_cases hp : principal = p
      · subst hp
        simp only [after, opened?, RegistryCall.registers?, if_true, Option.bind_some]
        rw [Registry.sessionsFor_register_self_eq]
        split
        · exact (List.append_nil _).symm
        · rfl
      · simp [after, opened?, RegistryCall.registers?, hp,
          Registry.sessionsFor_register_of_ne (Ne.symm hp)]
  | remove id =>
      rw [RegistryCall.filterMap_entryAfter_remove]
      simp [after, opened?, RegistryCall.registers?, Registry.sessionsFor_remove]
  | rename old new =>
      rw [RegistryCall.filterMap_entryAfter_rename]
      simp [after, opened?, RegistryCall.registers?, Registry.sessionsFor_rename]

/-- After a call, a list has the ids that the call makes of its ids, and the one that it
registers. -/
theorem mem_idsFor_after {v : RegistryVisit} {registry : Registry} {p id : String} :
    id ∈ (v.after registry).idsFor p ↔
      (∃ before ∈ registry.idsFor p, v.call.idAfter before = some id) ∨
        v.call.registers? p = some id := by
  rw [Registry.mem_idsFor, sessionsFor_after]
  constructor
  · rintro ⟨g, hg, rfl⟩
    rcases List.mem_append.mp hg with hg | hg
    · obtain ⟨before, hbefore, hafter⟩ := List.mem_filterMap.mp hg
      obtain ⟨id, hid, rfl⟩ := Option.map_eq_some_iff.mp hafter
      exact Or.inl ⟨before.sessionId, List.mem_map_of_mem hbefore, hid⟩
    · obtain ⟨id, hid, -, rfl⟩ := opened?_eq_some_iff.mp (Option.mem_toList.mp hg)
      exact Or.inr hid
  · rintro (⟨before, hbefore, hid⟩ | hid)
    · obtain ⟨g, hg, rfl⟩ := Registry.mem_idsFor.mp hbefore
      have hafter : v.call.entryAfter g = some { g with sessionId := id } := by
        simp [RegistryCall.entryAfter, hid]
      exact ⟨_, List.mem_append_left _ (List.mem_filterMap.mpr ⟨g, hg, hafter⟩), rfl⟩
    · -- An id that is on the list already is not appended, but its entry is kept.
      by_cases hmem : id ∈ registry.idsFor p
      · obtain ⟨g, hg, rfl⟩ := Registry.mem_idsFor.mp hmem
        have hafter : v.call.entryAfter g = some g := by
          simp [RegistryCall.entryAfter, RegistryCall.idAfter_of_registers? hid]
        exact ⟨g, List.mem_append_left _ (List.mem_filterMap.mpr ⟨g, hg, hafter⟩), rfl⟩
      · have hopened : v.opened? p (· ∈ registry.idsFor p) = some ⟨id, p, v.time⟩ :=
          opened?_of_registers? hid hmem
        exact ⟨_, List.mem_append_right _ (Option.mem_toList.mpr hopened), rfl⟩

end RegistryVisit

/-! ## Lists and histories -/

namespace Registry

variable {registry : Registry} {history : RegistryHistory} {p id : String}

/-- The ids on a list are those that are known from the history. -/
theorem mem_idsFor_play : id ∈ (empty.play history).idsFor p ↔ history.IsKnown p id := by
  induction history using List.reverseRecOn generalizing id with
  | nil => simp [idsFor, RegistryHistory.IsKnown]
  | append_singleton history v ih =>
      rw [play_concat, RegistryVisit.mem_idsFor_after, RegistryHistory.isKnown_concat]
      simp only [ih]

/-- A list holds the sessions that have been registered under its principal and not removed
since, in the order of their first registration. -/
theorem sessionsFor_play (history : RegistryHistory) (p : String) :
    (empty.play history).sessionsFor p = history.entriesFor p := by
  induction history using List.reverseRecOn with
  | nil => rfl
  | append_singleton history v ih =>
      -- The list and the history agree on which ids are there, and so on what is new.
      rw [play_concat, RegistryVisit.sessionsFor_after, RegistryHistory.entriesFor_concat, ih]
      simp only [mem_idsFor_play]

/-- The principals are those whose lists are not empty. -/
theorem mem_principals_iff : p ∈ registry.principals ↔ registry.sessionsFor p ≠ [] := by
  constructor
  · intro hmem
    obtain ⟨⟨principal, gs⟩, hgroup, rfl⟩ := List.mem_map.mp hmem
    have honce := List.nodup_iff_count_le_one.mp registry.principals_nodup principal
    rw [sessionsFor, Dictionary.lookup_eq_some_of_mem honce hgroup]
    exact registry.nonempty _ hgroup
  · intro hlist
    by_contra hmem
    rw [sessionsFor, (Dictionary.lookup_eq_none_iff_not_mem _ _).mpr hmem] at hlist
    exact hlist rfl

/-! ## New ids -/

/-- Whether some principal has a session of an id. -/
def Lists (registry : Registry) (id : String) : Prop := ∃ p, id ∈ registry.idsFor p

instance (registry : Registry) (id : String) : Decidable (registry.Lists id) :=
  decidable_of_iff (∃ p ∈ registry.principals, id ∈ registry.idsFor p) <| by
    constructor
    · rintro ⟨p, -, hmem⟩
      exact ⟨p, hmem⟩
    · rintro ⟨p, hmem⟩
      refine ⟨p, mem_principals_iff.mpr fun hnil => ?_, hmem⟩
      rw [idsFor, hnil] at hmem
      contradiction

end Registry

/-- Whether an id that a call gives to a session is on no list. -/
def RegistryCall.GivesNewId (registry : Registry) : RegistryCall → Prop
  | register _ _ => True
  | remove _ => True
  | rename _ new => ¬registry.Lists new

instance (registry : Registry) : (call : RegistryCall) → Decidable (call.GivesNewId registry)
  | .register _ _ => isTrue trivial
  | .remove _ => isTrue trivial
  | .rename _ new => inferInstanceAs (Decidable ¬registry.Lists new)

namespace Registry

/-- Whether each id that some calls give to a session is on no list at that moment. -/
def GivesNewIds (registry : Registry) : RegistryHistory → Prop
  | [] => True
  | v :: later => v.call.GivesNewId registry ∧ (v.after registry).GivesNewIds later

instance decidableGivesNewIds :
    (registry : Registry) → (history : RegistryHistory) → Decidable (registry.GivesNewIds history)
  | _, [] => isTrue trivial
  | registry, v :: later =>
      have := decidableGivesNewIds (v.after registry) later
      inferInstanceAs (Decidable (v.call.GivesNewId registry ∧ _))

variable {registry : Registry}

theorem ListsOnce.remove (h : registry.ListsOnce) (id : String) :
    (registry.remove id).ListsOnce := by
  intro p
  rw [idsFor, sessionsFor_remove]
  exact (h p).sublist (List.filter_sublist.map _)

/-- A call that gives no id of another session repeats none. -/
theorem ListsOnce.after (h : registry.ListsOnce) {v : RegistryVisit}
    (hnew : v.call.GivesNewId registry) : (v.after registry).ListsOnce := by
  obtain ⟨time, call⟩ := v
  cases call with
  | register id principal => exact h.register id principal time
  | remove id => exact h.remove id
  | rename old new => exact h.rename (not_exists.mp hnew) old

/-- While sessions are given new ids, no id is on a list twice. -/
theorem ListsOnce.play (h : registry.ListsOnce) {history : RegistryHistory}
    (hnew : registry.GivesNewIds history) : (registry.play history).ListsOnce := by
  induction history generalizing registry with
  | nil => exact h
  | cons v later ih => exact ih (h.after hnew.1) hnew.2

end Registry

/-! ## Other entries -/

namespace RegistryCall

variable {call : RegistryCall} {registry : Registry} {p id : String}

/-- What a call registers under a principal it is about. -/
theorem subject?_of_registers? (h : call.registers? p = some id) : call.subject? p = some id := by
  cases call with
  | register first principal => exact h
  | remove gone => contradiction
  | rename old new => contradiction

/-- A session that a call is not about keeps its id. -/
theorem idAfter_of_subject?_ne (h : call.subject? p ≠ some id) : call.idAfter id = some id := by
  cases call with
  | register first principal => rfl
  | remove gone =>
      have hne : id ≠ gone := fun heq => h (congrArg some heq.symm)
      simp [idAfter, hne]
  | rename old new =>
      have hne : id ≠ old := fun heq => h (congrArg some heq.symm)
      simp [idAfter, hne]

/-- The session that a call is about gets no id of another. -/
theorem subject?_bind_idAfter_ne (hnew : call.GivesNewId registry) (hmem : id ∈ registry.idsFor p)
    (h : call.subject? p ≠ some id) : (call.subject? p).bind call.idAfter ≠ some id := by
  cases call with
  | register first principal =>
      cases hsubject : (register first principal).subject? p with
      | none => nofun
      | some subject =>
          rw [hsubject] at h
          exact h
  | remove gone => simp [subject?, idAfter]
  | rename old new =>
      intro heq
      have hsame : new = id := by simpa [subject?, idAfter] using heq
      exact hnew ⟨p, hsame ▸ hmem⟩

end RegistryCall

namespace Registry

/-- The entries on a principal's list without that of an id, if one is given. -/
def othersFor (registry : Registry) (p : String) (subject : Option String) : List Registration :=
  (registry.sessionsFor p).filter (fun g => subject ≠ some g.sessionId)

end Registry

namespace RegistryVisit

variable {v : RegistryVisit} {registry : Registry} {p : String}

/-- An entry is kept as it is unless the call is about it. -/
theorem filter_entryAfter (hnew : v.call.GivesNewId registry) {g : Registration}
    (hg : g ∈ registry.sessionsFor p) :
    (v.call.entryAfter g).filter
        (fun k => (v.call.subject? p).bind v.call.idAfter ≠ some k.sessionId) =
      Option.guard (fun k => v.call.subject? p ≠ some k.sessionId) g := by
  by_cases hsubject : v.call.subject? p = some g.sessionId
  · rw [hsubject]
    cases hafter : v.call.idAfter g.sessionId with
    | none => simp [RegistryCall.entryAfter, Option.guard, hafter]
    | some id => simp [RegistryCall.entryAfter, Option.guard, hafter]
  · have hsame := RegistryCall.idAfter_of_subject?_ne hsubject
    have hother := RegistryCall.subject?_bind_idAfter_ne hnew (List.mem_map_of_mem hg) hsubject
    simp [RegistryCall.entryAfter, Option.guard, hsame, hother, hsubject]

/-- A session that a call opens is the one that it is about. -/
theorem subject?_of_opened? {known : String → Prop} [DecidablePred known] {g : Registration}
    (h : v.opened? p known = some g) :
    (v.call.subject? p).bind v.call.idAfter = some g.sessionId := by
  obtain ⟨id, hid, -, rfl⟩ := opened?_eq_some_iff.mp h
  rw [RegistryCall.subject?_of_registers? hid]
  exact RegistryCall.idAfter_of_registers? hid id

/-- A call that gives no id of another session leaves the entries that it is not about as
they are and in their order. -/
theorem othersFor_after (hnew : v.call.GivesNewId registry) (p : String) :
    (v.after registry).othersFor p ((v.call.subject? p).bind v.call.idAfter) =
      registry.othersFor p (v.call.subject? p) := by
  have hopened : (v.opened? p (· ∈ registry.idsFor p)).toList.filter
      (fun k => (v.call.subject? p).bind v.call.idAfter ≠ some k.sessionId) = [] := by
    rw [List.filter_eq_nil_iff]
    intro g hg
    simp [subject?_of_opened? (Option.mem_toList.mp hg)]
  rw [Registry.othersFor, sessionsFor_after, List.filter_append, hopened, List.append_nil,
    List.filter_filterMap, List.filterMap_congr fun g hg => filter_entryAfter hnew hg,
    List.filterMap_eq_filter, Registry.othersFor]

end RegistryVisit

/-! ## The registry as a table -/

namespace Registry

/-- What a registry is that has had some calls. -/
structure IsTableOf (registry : Registry) (history : RegistryHistory) : Prop where
  /-- A principal's list holds the sessions that have been registered under it and not removed
  since, in the order of their first registration. -/
  sessionsFor_eq : ∀ p, registry.sessionsFor p = history.entriesFor p
  /-- No id is on a list twice. -/
  listsOnce : registry.ListsOnce
  /-- The times of registration do not go back along a list. -/
  inOrder : ∀ p,
    (registry.sessionsFor p).Pairwise (fun g k => g.registeredAt.le k.registeredAt)
  /-- No principal is listed twice. -/
  principals_nodup : registry.principals.Nodup
  /-- The principals are those whose lists are not empty. -/
  mem_principals : ∀ p, p ∈ registry.principals ↔ registry.sessionsFor p ≠ []

/-- After any calls in the course of time that give sessions only new ids, the registry is the
table of its history, and every further call leaves the entries that it is not about as they
are and in their order. -/
theorem isTableOf_play {history : RegistryHistory}
    (htimes : history.Pairwise (fun v w => v.time.le w.time))
    (hnew : empty.GivesNewIds history) :
    (empty.play history).IsTableOf history ∧
      ∀ v : RegistryVisit, v.call.GivesNewId (empty.play history) → ∀ p,
        (v.after (empty.play history)).othersFor p ((v.call.subject? p).bind v.call.idAfter) =
          (empty.play history).othersFor p (v.call.subject? p) := by
  refine ⟨⟨sessionsFor_play history, listsOnce_empty.play hnew, ?_, ?_, ?_⟩, ?_⟩
  · intro p
    rw [sessionsFor_play]
    exact RegistryHistory.pairwise_entriesFor htimes p
  · exact (empty.play history).principals_nodup
  · exact fun p => mem_principals_iff
  · exact fun v hv p => RegistryVisit.othersFor_after hv p

/-- Two principals with a session of one id, which both lists follow through two new ids; a
session that is registered again under its new id, a removal, and the first id once more. -/
def turnover : RegistryHistory := [
  ⟨⟨0, 0⟩, .register "1" "basic:alice"⟩,
  ⟨⟨1, 0⟩, .register "2" "basic:alice"⟩,
  ⟨⟨1, 0⟩, .register "1" "basic:bob"⟩,
  ⟨⟨2, 0⟩, .rename "1" "3"⟩,
  ⟨⟨3, 0⟩, .rename "3" "4"⟩,
  ⟨⟨4, 0⟩, .register "4" "basic:alice"⟩,
  ⟨⟨4, 0⟩, .remove "2"⟩,
  ⟨⟨5, 0⟩, .register "1" "basic:alice"⟩]

theorem isTableOf_play_turnover :
    turnover.Pairwise (fun v w => v.time.le w.time) ∧ empty.GivesNewIds turnover ∧
      RegistryCall.GivesNewId (empty.play turnover) (.rename "1" "2") ∧
      (empty.play turnover).sessionsFor "basic:alice" =
        [⟨"4", "basic:alice", ⟨0, 0⟩⟩, ⟨"1", "basic:alice", ⟨5, 0⟩⟩] ∧
      (empty.play turnover).IsTableOf turnover ∧
      (RegistryVisit.after ⟨⟨6, 0⟩, .rename "1" "2"⟩ (empty.play turnover)).othersFor
          "basic:alice" (some "2") =
        (empty.play turnover).othersFor "basic:alice" (some "1") := by
  have htimes : turnover.Pairwise (fun v w => v.time.le w.time) := by decide
  have hnew : empty.GivesNewIds turnover := by decide
  have hlast : RegistryCall.GivesNewId (empty.play turnover) (.rename "1" "2") := by decide
  have htable := isTableOf_play htimes hnew
  exact ⟨htimes, hnew, hlast, by decide, htable.1, htable.2 ⟨⟨6, 0⟩, .rename "1" "2"⟩ hlast _⟩

end Registry

end WebAuth
