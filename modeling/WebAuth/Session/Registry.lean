import WebAuth.Calendar.Timestamp
import WebAuth.Dictionary

/-!
# The session registry

Which sessions a principal has opened, in the order in which they were first
registered.  A session that changes its id keeps its place and the time of its
registration.

Main results:

* `Registry.sessionsFor_register_self`, `Registry.sessionsFor_register_of_ne`,
  `Registry.sessionsFor_remove`, `Registry.sessionsFor_rename`: what each
  operation does to the list of one principal.
-/

namespace WebAuth

open Calendar

/-- A session that was registered under a principal. -/
structure Registration where
  sessionId : String
  principal : String
  registeredAt : Timestamp
deriving DecidableEq, Repr

namespace Registration

/-- Add a registration to a principal's list unless its session is there. -/
def addTo (r : Registration) (rs : List Registration) : List Registration :=
  if rs.any (fun other => other.sessionId = r.sessionId) then rs else rs ++ [r]

/-- The registrations of all other sessions. -/
def without (id : String) (rs : List Registration) : List Registration :=
  rs.filter (fun r => r.sessionId ≠ id)

/-- Give a session its new id. -/
def rename (r : Registration) (old new : String) : Registration :=
  if r.sessionId = old then { r with sessionId := new } else r

@[simp]
theorem without_nil (id : String) : without id [] = [] :=
  rfl

theorem addTo_ne_nil (r : Registration) (rs : List Registration) : r.addTo rs ≠ [] := by
  unfold addTo
  split
  · rename_i h
    intro hnil
    simp [hnil] at h
  · simp

end Registration

/-- Registrations grouped by principal. -/
abbrev Groups := List (String × List Registration)

namespace Groups

/-- Add a registration to its principal's group. -/
def add (r : Registration) : Groups → Groups
  | [] => [(r.principal, [r])]
  | group :: rest =>
      if group.1 = r.principal then (group.1, r.addTo group.2) :: rest
      else group :: add r rest

/-- Take a session out of every group. -/
def strike (id : String) (groups : Groups) : Groups :=
  groups.map (fun group => (group.1, Registration.without id group.2))

/-- Forget groups without registrations. -/
def prune (groups : Groups) : Groups :=
  groups.filter (fun group => !group.2.isEmpty)

/-- Give a session its new id in every group. -/
def rename (old new : String) (groups : Groups) : Groups :=
  groups.map (fun group => (group.1, group.2.map (fun r => r.rename old new)))

/-- The principals of the groups. -/
def principals (groups : Groups) : List String := groups.map Prod.fst

theorem mem_principals_add {r : Registration} {groups : Groups} {p : String}
    (h : p ∈ principals (add r groups)) : p = r.principal ∨ p ∈ principals groups := by
  induction groups with
  | nil =>
      left
      simpa [add, principals] using h
  | cons group rest ih =>
      unfold add at h
      split at h
      · right
        simpa [principals] using h
      · simp only [principals, List.map_cons, List.mem_cons] at h ⊢
        rcases h with h | h
        · exact Or.inr (Or.inl h)
        · rcases ih h with h | h
          · exact Or.inl h
          · exact Or.inr (Or.inr h)

theorem principals_add_nodup (r : Registration) {groups : Groups}
    (h : (principals groups).Nodup) : (principals (add r groups)).Nodup := by
  induction groups with
  | nil => simp [add, principals]
  | cons group rest ih =>
      have hsplit : group.1 ∉ principals rest ∧ (principals rest).Nodup := by
        simpa [principals] using h
      unfold add
      split
      · simpa [principals] using hsplit
      · rename_i hne
        have hnot : group.1 ∉ principals (add r rest) := by
          intro hmem
          rcases mem_principals_add hmem with heq | hmem
          · exact hne heq
          · exact hsplit.1 hmem
        exact List.nodup_cons.mpr ⟨hnot, ih hsplit.2⟩

theorem add_nonempty {r : Registration} {groups : Groups}
    (h : ∀ group ∈ groups, group.2 ≠ []) : ∀ group ∈ add r groups, group.2 ≠ [] := by
  induction groups with
  | nil =>
      intro group hmem
      simp only [add, List.mem_singleton] at hmem
      simp [hmem]
  | cons first rest ih =>
      intro group hmem
      unfold add at hmem
      split at hmem
      · rcases List.mem_cons.mp hmem with rfl | hmem
        · exact r.addTo_ne_nil _
        · exact h group (List.mem_cons_of_mem first hmem)
      · rcases List.mem_cons.mp hmem with rfl | hmem
        · exact h group List.mem_cons_self
        · exact ih (fun g hg => h g (List.mem_cons_of_mem first hg)) group hmem

theorem principals_strike (id : String) (groups : Groups) :
    principals (strike id groups) = principals groups := by
  simp [principals, strike]

theorem principals_rename (old new : String) (groups : Groups) :
    principals (rename old new groups) = principals groups := by
  simp [principals, rename]

end Groups

/-- Who has opened which sessions. -/
structure Registry where
  groups : Groups
  /-- Every principal has one group. -/
  principals_nodup : (Groups.principals groups).Nodup
  /-- Principals without sessions are forgotten. -/
  nonempty : ∀ group ∈ groups, group.2 ≠ []

namespace Registry

/-- The registry without sessions. -/
def empty : Registry := ⟨[], List.nodup_nil, by simp⟩

/-- The principals that have sessions. -/
def principals (registry : Registry) : List String := Groups.principals registry.groups

/-- The sessions of a principal, in the order of their registration. -/
def sessionsFor (registry : Registry) (principal : String) : List Registration :=
  (registry.groups.lookup principal).getD []

/-- Register a session under a principal, unless it is already there. -/
def register (registry : Registry) (id principal : String) (now : Timestamp) : Registry where
  groups := Groups.add ⟨id, principal, now⟩ registry.groups
  principals_nodup := Groups.principals_add_nodup _ registry.principals_nodup
  nonempty := Groups.add_nonempty registry.nonempty

/-- Take a session off every principal's list. -/
def remove (registry : Registry) (id : String) : Registry where
  groups := Groups.prune (Groups.strike id registry.groups)
  principals_nodup := by
    have h : (Groups.principals (Groups.strike id registry.groups)).Nodup := by
      rw [Groups.principals_strike]
      exact registry.principals_nodup
    exact h.sublist (List.filter_sublist.map _)
  nonempty := by
    intro group hmem
    simpa using (List.mem_filter.mp hmem).2

/-- Give a session its new id on every principal's list. -/
def rename (registry : Registry) (old new : String) : Registry where
  groups := Groups.rename old new registry.groups
  principals_nodup := by
    rw [Groups.principals_rename]
    exact registry.principals_nodup
  nonempty := by
    intro group hmem
    obtain ⟨first, hfirst, rfl⟩ := List.mem_map.mp hmem
    simpa using registry.nonempty first hfirst

/-! ## What the operations change -/

@[simp]
theorem sessionsFor_empty (principal : String) : empty.sessionsFor principal = [] :=
  rfl

theorem lookup_add_self (r : Registration) (groups : Groups) :
    (Groups.add r groups).lookup r.principal =
      some (r.addTo ((groups.lookup r.principal).getD [])) := by
  induction groups with
  | nil => simp [Groups.add, Registration.addTo]
  | cons group rest ih =>
      obtain ⟨principal, rs⟩ := group
      by_cases heq : principal = r.principal
      · subst heq
        simp [Groups.add]
      · have hne : (r.principal == principal) = false := by
          simpa using fun h => heq h.symm
        simp [Groups.add, heq, List.lookup_cons, hne, ih]

theorem lookup_add_of_ne {r : Registration} {principal : String} (h : principal ≠ r.principal)
    (groups : Groups) : (Groups.add r groups).lookup principal = groups.lookup principal := by
  have hne : (principal == r.principal) = false := by simpa using h
  induction groups with
  | nil => simp [Groups.add, List.lookup_cons, hne]
  | cons group rest ih =>
      obtain ⟨other, rs⟩ := group
      by_cases heq : other = r.principal
      · subst heq
        simp [Groups.add, List.lookup_cons, hne]
      · simp [Groups.add, heq, List.lookup_cons, ih]

/-- A registration is added to its principal's list unless it is there. -/
theorem sessionsFor_register_self (registry : Registry) (id principal : String)
    (now : Timestamp) :
    (registry.register id principal now).sessionsFor principal =
      Registration.addTo ⟨id, principal, now⟩ (registry.sessionsFor principal) := by
  simp only [sessionsFor, register]
  rw [lookup_add_self ⟨id, principal, now⟩ registry.groups]
  rfl

/-- The lists of other principals do not change. -/
theorem sessionsFor_register_of_ne {principal other : String} (h : other ≠ principal)
    (registry : Registry) (id : String) (now : Timestamp) :
    (registry.register id principal now).sessionsFor other = registry.sessionsFor other := by
  simp only [sessionsFor, register]
  rw [lookup_add_of_ne (r := ⟨id, principal, now⟩) h]

theorem getD_lookup_prune_strike (id principal : String) {groups : Groups}
    (h : (Groups.principals groups).Nodup) :
    ((Groups.prune (Groups.strike id groups)).lookup principal).getD [] =
      Registration.without id ((groups.lookup principal).getD []) := by
  induction groups with
  | nil => rfl
  | cons group rest ih =>
      obtain ⟨other, rs⟩ := group
      have hsplit : other ∉ Groups.principals rest ∧ (Groups.principals rest).Nodup := by
        simpa [Groups.principals] using h
      have hrest := ih hsplit.2
      simp only [Groups.prune, Groups.strike, List.map_cons, List.filter_cons] at hrest ⊢
      by_cases heq : principal = other
      · subst heq
        rw [(Dictionary.lookup_eq_none_iff_not_mem rest principal).mpr hsplit.1] at hrest
        cases hleft : Registration.without id rs with
        | nil => simpa [hleft] using hrest
        | cons first others => simp [hleft]
      · have hne : (principal == other) = false := by simpa using heq
        cases hleft : Registration.without id rs with
        | nil => simpa [List.lookup_cons, hne] using hrest
        | cons first others => simpa [List.lookup_cons, hne] using hrest

/-- A removed session leaves every list. -/
theorem sessionsFor_remove (registry : Registry) (id principal : String) :
    (registry.remove id).sessionsFor principal =
      Registration.without id (registry.sessionsFor principal) :=
  getD_lookup_prune_strike id principal registry.principals_nodup

/-- A renamed session keeps its place on every list. -/
theorem sessionsFor_rename (registry : Registry) (old new principal : String) :
    (registry.rename old new).sessionsFor principal =
      (registry.sessionsFor principal).map (fun r => r.rename old new) := by
  simp only [sessionsFor, rename, Groups.rename]
  induction registry.groups with
  | nil => rfl
  | cons group rest ih =>
      obtain ⟨other, rs⟩ := group
      by_cases heq : principal = other
      · subst heq
        simp
      · have hne : (principal == other) = false := by simpa using heq
        simp [List.lookup_cons, hne, ih]

end Registry

end WebAuth
