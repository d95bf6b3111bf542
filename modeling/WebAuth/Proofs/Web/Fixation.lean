import WebAuth.Proofs.Session.Runs
import WebAuth.Proofs.Web.SessionSite

/-!
# Session ids over whole runs of requests

Requests with any headers arrive at a site that keeps sessions, and time passes in
between.  Whatever cookies they bring, the ids in the store are those that the site has
handed out.  A session can be continued with the cookie of its id, and its id is
worthless from the moment when somebody logs in to it.

Main results:

- Theorem `Site.Visit.faithful`: what one request keeps.
- Theorem `Course.find?_play_eq_none`: an id that has left the store does not return.
- Theorem `Course.safe_play`: ids are the server's own, cookies restore the latest
  login, and a login moves its session away from the id that was presented.
-/

namespace WebAuth.Web

open Calendar Http LoginStrategy

/-! ## Runs of requests -/

/-- What can happen to a site. -/
inductive Occurrence where
  /-- A request arrives, with nothing attached. -/
  | arrival (method : String) (target : RequestTarget) (headers : Headers)
  /-- Time passes. -/
  | elapse (clock : Timestamp)

/-- The world of a site and, for the session of every id, who has logged in to it, the
latest first. -/
structure Course where
  world : World
  logins : String → List Identity

/-- Record a login to a session: what is known of the session follows it to its id after
the login. -/
def recordLogin (logins : String → List Identity) (before : Option Session) (after : Session)
    (i : Identity) : String → List Identity := fun id =>
  if id = after.id then i :: (before.map (fun session => logins session.id)).getD []
  else if before.any (fun session => session.id = id) then []
  else logins id

/-- Who logs in to a session has logged in to it last. -/
theorem head?_recordLogin_self (logins : String → List Identity) (before : Option Session)
    (after : Session) (i : Identity) :
    (recordLogin logins before after i after.id).head? = some i := by
  rw [recordLogin, if_pos rfl, List.head?_cons]

/-- A login to one session is no login to another one. -/
theorem recordLogin_of_ne {before : Option Session} {after : Session} {id : String}
    (hafter : id ≠ after.id) (hbefore : ∀ session, before = some session → id ≠ session.id)
    (logins : String → List Identity) (i : Identity) :
    recordLogin logins before after i id = logins id := by
  rw [recordLogin, if_neg hafter, if_neg]
  cases before with
  | none => simp
  | some session => simpa using (hbefore session rfl).symm

/-- The record after a request that ended in a certain way, with the authenticator's
answer and the session of the request before and after. -/
def recordVisit (logins : String → List Identity) (before : Option Session) :
    Ending AccessError Unit → Ending AccessError (Option Identity) → Option Session →
      String → List Identity
  | .value (), .value (some i), some after => recordLogin logins before after i
  | _, _, _ => logins

namespace Course

/-- A site that nobody has visited. -/
def start (clock : Timestamp) (sessionIds : Supply String) (network : Network)
    (csrfOctets : Supply (List UInt8)) : Course :=
  ⟨World.initial (Realm.initial clock sessionIds) network csrfOctets, fun _ => []⟩

/-- The store of the site. -/
def store (c : Course) : Store := c.world.realm.store

/-- The course after a request. -/
def handle (s : Site) (c : Course) (r : Request) : Course where
  world := (s.handle c.world r).2.world
  logins := recordVisit c.logins (s.named? c.world.realm r) (s.handle c.world r).1
    (s.answer (r.restored (s.named? c.world.realm r)))
    (s.handle c.world r).2.request.attachments.session

/-- The course after an occurrence; the clock does not go back. -/
def step (s : Site) (c : Course) : Occurrence → Course
  | .arrival method target headers => c.handle s ⟨method, target, headers, .empty⟩
  | .elapse clock =>
      if c.world.realm.clock.le clock then
        { c with world := { c.world with realm := { c.world.realm with clock := clock } } }
      else c

/-- The course after some occurrences. -/
def play (s : Site) (c : Course) (occurrences : List Occurrence) : Course :=
  occurrences.foldl (step s) c

/-- What every occurrence keeps holds throughout a run. -/
theorem play_induction {s : Site} {P : Course → Prop} {c : Course} (h : P c)
    (hstep : ∀ c o, P c → P (step s c o)) (occurrences : List Occurrence) :
    P (play s c occurrences) := by
  induction occurrences generalizing c with
  | nil => exact h
  | cons o rest ih => exact ih (hstep c o h)

end Course

/-! ## One request -/

namespace Site.Visit

variable {s : Site} {r : Request} {realm left : Realm} {ending : Ending AccessError Unit}
  {a : Attachments} {session : Session}

/-- A request changes neither the clock nor the working order of the store nor the
sequence from which ids come. -/
theorem frame (h : Visit s r realm ending a left) :
    left.clock = realm.clock ∧ left.faults = realm.faults ∧
      left.sessionIds.item = realm.sessionIds.item := by
  cases h with
  | passed calls hanswer => exact ⟨rfl, rfl, rfl⟩
  | stopped a calls hending hanswer => exact ⟨rfl, rfl, rfl⟩
  | exhausted i a calls hanswer hnamed => exact ⟨rfl, rfl, rfl⟩
  | created i calls hanswer hnamed hnew => exact ⟨rfl, rfl, rfl⟩
  | moved i calls hanswer hnamed => exact ⟨rfl, rfl, rfl⟩

/-- What has been handed out before a request has been handed out after it. -/
theorem hasGiven (h : Visit s r realm ending a left) {id : String}
    (hid : realm.sessionIds.HasGiven id) : left.sessionIds.HasGiven id := by
  cases h with
  | passed calls hanswer => exact hid
  | stopped a calls hending hanswer => exact hid
  | exhausted i a calls hanswer hnamed => exact hid.advance
  | created i calls hanswer hnamed hnew => exact hid.advance
  | moved i calls hanswer hnamed => exact hid.advance

/-- After a request, a stored session was stored before under its id, or it is stored
under the id that was handed out. -/
theorem find?_of_find? (h : Visit s r realm ending a left) {id : String}
    (hfind : left.store.find? id = some session) :
    realm.store.find? id = some session ∨
      id = realm.sessionIds.next ∧ left.sessionIds.HasGiven id := by
  cases h with
  | passed calls hanswer => exact Or.inl hfind
  | stopped a calls hending hanswer => exact Or.inl hfind
  | exhausted i a calls hanswer hnamed => exact Or.inl hfind
  | @created i opened calls hanswer hnamed hnew =>
      change (LoginStrategy.created realm opened).store.find? id = some session at hfind
      rw [find?_created] at hfind
      split at hfind
      · rename_i hid
        rw [id_of_newSession? hnew] at hid
        exact Or.inr ⟨hid, hid ▸ Supply.hasGiven_advance_next _⟩
      · exact Or.inl hfind
  | @moved i current calls hanswer hnamed =>
      change (LoginStrategy.moved realm false s.migrate i current).store.find? id =
        some session at hfind
      rw [find?_moved] at hfind
      split at hfind
      · contradiction
      · split at hfind
        · rename_i hid
          exact Or.inr ⟨hid, hid ▸ Supply.hasGiven_advance_next _⟩
        · exact Or.inl hfind

/-- A request that names a session passes as the session's identity if the authenticator
finds nobody. -/
theorem of_found_none (h : Visit s r realm ending a left)
    (hnamed : s.named? realm r = some session)
    (hanswer : s.answer (r.restored (some session)) = .value none) :
    ending = .value () ∧ a.identity = some session.identity ∧ a.session = some session ∧
      left.store = realm.store := by
  rw [← hnamed] at hanswer
  cases h with
  | passed calls _ =>
      rw [hnamed]
      exact ⟨rfl, rfl, rfl, rfl⟩
  | stopped a calls hending hstopped =>
      rcases hstopped with hstopped | hnone
      · exact absurd hanswer (hstopped none)
      · simp [hnone] at hnamed
  | exhausted i a calls _ hnone => simp [hnone] at hnamed
  | created i calls _ hnone hnew => simp [hnone] at hnamed
  | moved i calls hfound _ =>
      rw [hfound] at hanswer
      cases hanswer

/-- A request that names a session moves it if the authenticator finds an identity. -/
theorem of_found_some (h : Visit s r realm ending a left) {i : Identity}
    (hnamed : s.named? realm r = some session)
    (hanswer : s.answer (r.restored (some session)) = .value (some i)) :
    ending = .value () ∧ a.identity = some i ∧
      a.session = some (rebound session realm.sessionIds.next i s.migrate) ∧
      left.store = (LoginStrategy.moved realm false s.migrate i session).store := by
  rw [← hnamed] at hanswer
  cases h with
  | passed calls hnobody =>
      rw [hnobody] at hanswer
      cases hanswer
  | stopped a calls hending hstopped =>
      rcases hstopped with hstopped | hnone
      · exact absurd hanswer (hstopped (some i))
      · simp [hnone] at hnamed
  | exhausted i a calls _ hnone => simp [hnone] at hnamed
  | created i calls _ hnone hnew => simp [hnone] at hnamed
  | moved j calls hfound hcurrent =>
      rw [hfound] at hanswer
      cases hanswer
      rw [hnamed] at hcurrent
      cases hcurrent
      exact ⟨rfl, rfl, rfl, rfl⟩

end Site.Visit

/-! ## What every request keeps -/

/-- The store is in working order and holds only ids that have been handed out, whose
sessions carry the identities that logged in last; ids are fresh and fit into cookies. -/
structure Faithful (realm : Realm) (logins : String → List Identity) : Prop where
  sound : realm.IsSound
  fresh : realm.sessionIds.IsFresh
  cookieValues : ∀ n, IsCookieValue (realm.sessionIds.item n)
  given : ∀ {id session}, realm.store.find? id = some session → realm.sessionIds.HasGiven id
  latest : ∀ {id session}, realm.store.find? id = some session →
    (logins id).head? = some session.identity

/-- An id that has been handed out fits into a cookie. -/
theorem Faithful.isCookieValue {realm : Realm} {logins : String → List Identity}
    (h : Faithful realm logins) {id : String} (hid : realm.sessionIds.HasGiven id) :
    IsCookieValue id := by
  obtain ⟨n, -, rfl⟩ := hid
  exact h.cookieValues n

namespace Site

/-- What one request keeps. -/
theorem Visit.faithful {s : Site} {r : Request} {realm left : Realm}
    {ending : Ending AccessError Unit} {a : Attachments} {logins : String → List Identity}
    (h : Visit s r realm ending a left) (hfaithful : Faithful realm logins) :
    Faithful left (recordVisit logins (s.named? realm r) ending
      (s.answer (r.restored (s.named? realm r))) a.session) := by
  obtain ⟨-, hfaults, hitem⟩ := h.frame
  refine ⟨?_, Supply.isFresh_of_item_eq hitem hfaithful.fresh, ?_, ?_, ?_⟩
  · intro operation
    rw [hfaults]
    exact hfaithful.sound operation
  · intro n
    rw [hitem]
    exact hfaithful.cookieValues n
  · intro id session hfind
    rcases h.find?_of_find? hfind with hbefore | ⟨-, hgiven⟩
    · exact h.hasGiven (hfaithful.given hbefore)
    · exact hgiven
  · intro id session hfind
    cases h with
    | passed calls hanswer =>
        rw [hanswer]
        exact hfaithful.latest hfind
    | stopped a calls hending hanswer =>
        cases ending with
        | value done => cases hending
        | refused e => exact hfaithful.latest hfind
        | aborted => exact hfaithful.latest hfind
    | exhausted i a calls hanswer hnamed => exact hfaithful.latest hfind
    | @created i opened calls hanswer hnamed hnew =>
        rw [hanswer, hnamed]
        change (LoginStrategy.created realm opened).store.find? id = some session at hfind
        rw [find?_created] at hfind
        change (recordLogin logins none opened i id).head? = some session.identity
        by_cases hid : id = opened.id
        · rw [if_pos hid] at hfind
          cases hfind
          rw [hid, head?_recordLogin_self, identity_of_newSession? hnew]
        · rw [if_neg hid] at hfind
          rw [recordLogin_of_ne hid (by simp)]
          exact hfaithful.latest hfind
    | @moved i current calls hanswer hnamed =>
        rw [hanswer, hnamed]
        change (LoginStrategy.moved realm false s.migrate i current).store.find? id =
          some session at hfind
        rw [find?_moved] at hfind
        change (recordLogin logins (some current)
          (rebound current realm.sessionIds.next i s.migrate) i id).head? =
            some session.identity
        by_cases hold : id = current.id
        · rw [if_pos hold] at hfind
          cases hfind
        · rw [if_neg hold] at hfind
          by_cases hid : id = realm.sessionIds.next
          · rw [if_pos hid] at hfind
            cases hfind
            rw [hid]
            exact head?_recordLogin_self logins _ _ i
          · rw [if_neg hid] at hfind
            rw [recordLogin_of_ne hid (by simpa using hold)]
            exact hfaithful.latest hfind

/-- The cookie of a session that is stored and not expired names that session. -/
theorem named?_of_presents {s : Site} {realm : Realm} {r : Request} {session : Session}
    (hvalue : IsCookieValue session.id)
    (hpresents : Presents r.headers s.config.cookieName session.id)
    (hfind : realm.store.find? session.id = some session)
    (hcurrent : session.isExpired realm.clock = false) : s.named? realm r = some session := by
  rw [named?, Headers.cookie?_of_presents s.named hvalue hpresents, Option.bind_some]
  exact Store.live?_eq_some_iff.mpr ⟨hfind, hcurrent⟩

end Site

/-! ## What every run keeps -/

namespace Course

/-- The record of logins is faithful to the store. -/
def IsFaithful (c : Course) : Prop := Faithful c.world.realm c.logins

/-- Nobody has logged in to a site that nobody has visited. -/
theorem isFaithful_start {sessionIds : Supply String} (hfresh : sessionIds.IsFresh)
    (hvalues : ∀ n, IsCookieValue (sessionIds.item n)) (clock : Timestamp) (network : Network)
    (csrfOctets : Supply (List UInt8)) :
    (start clock sessionIds network csrfOctets).IsFaithful where
  sound := Realm.isSound_initial clock sessionIds
  fresh := hfresh
  cookieValues := hvalues
  given h := by cases h
  latest h := by cases h

/-- What becomes of a site whose record is faithful when a request arrives. -/
theorem IsFaithful.visit {c : Course} (h : c.IsFaithful) (s : Site) {r : Request}
    (hbare : r.attachments = .empty) :
    Site.Visit s r c.world.realm (s.handle c.world r).1
      (s.handle c.world r).2.request.attachments (c.handle s r).world.realm :=
  s.visit_of_handle h.sound hbare

theorem IsFaithful.handle {c : Course} (h : c.IsFaithful) (s : Site) {r : Request}
    (hbare : r.attachments = .empty) : (c.handle s r).IsFaithful :=
  (h.visit s hbare).faithful h

/-- What one occurrence keeps. -/
theorem IsFaithful.step {c : Course} (h : c.IsFaithful) (s : Site) (o : Occurrence) :
    (c.step s o).IsFaithful := by
  cases o with
  | arrival method target headers => exact h.handle s rfl
  | elapse clock =>
      simp only [Course.step]
      split
      · exact ⟨h.sound, h.fresh, h.cookieValues, h.given, h.latest⟩
      · exact h

/-- What a whole run keeps. -/
theorem IsFaithful.play {c : Course} (h : c.IsFaithful) (s : Site)
    (occurrences : List Occurrence) : (c.play s occurrences).IsFaithful :=
  play_induction h (fun _ o hc => hc.step s o) occurrences

/-! ## Ids that have left the store -/

/-- The id has been handed out, and its session is not in the store any more. -/
def IsSpent (c : Course) (id : String) : Prop :=
  c.world.realm.sessionIds.HasGiven id ∧ c.store.find? id = none

/-- No occurrence brings back an id that has left the store. -/
theorem IsSpent.step {c : Course} {id : String} (h : c.IsSpent id) (hc : c.IsFaithful)
    (s : Site) (o : Occurrence) : (c.step s o).IsSpent id := by
  obtain ⟨hgiven, hgone⟩ := h
  cases o with
  | elapse clock =>
      simp only [Course.step]
      split
      · exact ⟨hgiven, hgone⟩
      · exact ⟨hgiven, hgone⟩
  | arrival method target headers =>
      have hvisit := hc.visit s (r := ⟨method, target, headers, .empty⟩) rfl
      refine ⟨hvisit.hasGiven hgiven, ?_⟩
      rw [Option.eq_none_iff_forall_ne_some]
      intro session hfind
      rcases hvisit.find?_of_find? hfind with hbefore | ⟨hnext, -⟩
      · rw [store, hbefore] at hgone
        cases hgone
      · exact Supply.ne_next_of_hasGiven hc.fresh hgiven hnext

/-- An id that has left the store does not return. -/
theorem find?_play_eq_none {c : Course} {id : String} (h : c.IsSpent id) (hc : c.IsFaithful)
    (s : Site) (occurrences : List Occurrence) :
    (c.play s occurrences).store.find? id = none := by
  have hboth := play_induction (P := fun c => c.IsSpent id ∧ c.IsFaithful) ⟨h, hc⟩
    (fun _ o hstep => ⟨hstep.1.step hstep.2 s o, hstep.2.step s o⟩) occurrences
  exact hboth.1.2

/-! ## Safety -/

/-- The ids in the store are those that the site has handed out, each with its own
session. -/
def IssuesIds (c : Course) : Prop :=
  ∀ id session, c.store.find? id = some session →
    session.id = id ∧ c.world.realm.sessionIds.HasGiven id

/-- A request that brings the cookie of a stored session that has not expired, and
nothing else that names one. -/
structure Brings (s : Site) (c : Course) (r : Request) (session : Session) : Prop where
  bare : r.attachments = .empty
  presents : Presents r.headers s.config.cookieName session.id
  stored : c.store.find? session.id = some session
  current : session.isExpired c.world.realm.clock = false

/-- A request that brings the cookie of a session and no credentials that the
authenticator knows passes as whoever logged in to that session last, and changes
nothing in the store. -/
def RestoresLatest (s : Site) (c : Course) : Prop :=
  ∀ r session, c.Brings s r session → s.answer (r.restored (some session)) = .value none →
    (s.handle c.world r).1 = .value () ∧
      (∃ i, (c.logins session.id).head? = some i ∧
        (s.handle c.world r).2.request.attachments.identity = some i) ∧
      (s.handle c.world r).2.request.attachments.session = some session ∧
      (c.handle s r).store = c.store

/-- A request that brings the cookie of a session and credentials of an identity passes
as that identity.  Its session moves to an id that was never handed out before, the
other sessions stay, and the id that was presented is worthless from then on. -/
def MovesOnLogin (s : Site) (c : Course) : Prop :=
  ∀ r session i, c.Brings s r session →
    s.answer (r.restored (some session)) = .value (some i) →
      let after := rebound session c.world.realm.sessionIds.next i s.migrate
      (s.handle c.world r).1 = .value () ∧
        (s.handle c.world r).2.request.attachments.identity = some i ∧
        (s.handle c.world r).2.request.attachments.session = some after ∧
        ¬ c.world.realm.sessionIds.HasGiven after.id ∧
        (∀ id, (c.handle s r).store.find? id =
          if id = session.id then none
          else if id = after.id then some after
          else c.store.find? id) ∧
        ∀ later, (play s (c.handle s r) later).store.find? session.id = none

theorem IsFaithful.issuesIds {c : Course} (h : c.IsFaithful) : c.IssuesIds := by
  intro id session hfind
  exact ⟨Store.id_of_find? hfind, h.given hfind⟩

/-- The session whose cookie a request brings is the one that the request names. -/
theorem Brings.named? {s : Site} {c : Course} {r : Request} {session : Session}
    (h : c.Brings s r session) (hc : c.IsFaithful) :
    s.named? c.world.realm r = some session := by
  have hvalue : IsCookieValue session.id := Faithful.isCookieValue hc (hc.given h.stored)
  exact Site.named?_of_presents hvalue h.presents h.stored h.current

theorem IsFaithful.restoresLatest {c : Course} (h : c.IsFaithful) (s : Site) :
    c.RestoresLatest s := by
  intro r session hbrings hanswer
  obtain ⟨hending, hidentity, hsession, hstore⟩ :=
    (h.visit s hbrings.bare).of_found_none (hbrings.named? h) hanswer
  have hlatest : (c.logins session.id).head? = some session.identity := h.latest hbrings.stored
  exact ⟨hending, ⟨session.identity, hlatest, hidentity⟩, hsession, hstore⟩

theorem IsFaithful.movesOnLogin {c : Course} (h : c.IsFaithful) (s : Site) :
    c.MovesOnLogin s := by
  intro r session i hbrings hanswer after
  have hvisit := h.visit s hbrings.bare
  obtain ⟨hending, hidentity, hsession, hstore⟩ :=
    hvisit.of_found_some (hbrings.named? h) hanswer
  have hfind (id : String) : (c.handle s r).store.find? id =
      if id = session.id then none
      else if id = after.id then some after
      else c.store.find? id := by
    rw [store, hstore, find?_moved]
    rfl
  have hspent : (c.handle s r).IsSpent session.id := by
    refine ⟨hvisit.hasGiven (h.given hbrings.stored), ?_⟩
    rw [hfind, if_pos rfl]
  refine ⟨hending, hidentity, hsession, ?_, hfind, ?_⟩
  · intro hgiven
    exact Supply.ne_next_of_hasGiven h.fresh hgiven rfl
  · intro later
    exact find?_play_eq_none hspent (h.handle s hbrings.bare) s later

/-- At every moment of a run, the ids in the store are those that the site has handed
out, a cookie restores the latest login to its session, and a login moves the session
away from the id that was presented. -/
theorem safe_play (s : Site) {sessionIds : Supply String} (hfresh : sessionIds.IsFresh)
    (hvalues : ∀ n, IsCookieValue (sessionIds.item n)) (clock : Timestamp) (network : Network)
    (csrfOctets : Supply (List UInt8)) (occurrences : List Occurrence) :
    let c := play s (start clock sessionIds network csrfOctets) occurrences
    c.IssuesIds ∧ c.RestoresLatest s ∧ c.MovesOnLogin s := by
  intro c
  have hc : c.IsFaithful :=
    (isFaithful_start hfresh hvalues clock network csrfOctets).play s occurrences
  exact ⟨hc.issuesIds, hc.restoresLatest s, hc.movesOnLogin s⟩

/-- The strokes fit into cookies. -/
theorem isCookieValue_strokes (n : Nat) : IsCookieValue (Supply.strokes.item n) where
  no_semicolon := by simp [Supply.strokes]
  no_blank := by
    intro c hc
    have hstroke : c = '1' := by simpa [Supply.strokes] using hc
    rw [hstroke]
    decide

/-- A site that lets one reader in. -/
def readingRoom : Site :=
  .ofBearer (fun token => if token = "alice" then some (.ofSubject "idp" "alice") else none)
    .default ⟨by decide, by decide, by decide⟩

/-- The reader logs in, and then once more with the session of the first time. -/
def secondLogin : List Occurrence :=
  [.arrival "GET" (.origin "/") ⟨[("authorization", "Bearer alice")]⟩,
    .arrival "GET" (.origin "/")
      ⟨[("authorization", "Bearer alice"), ("cookie", "GATEKEEP_SESSION=1")]⟩]

/-- The conditions for the reader who logs in twice.  The session has moved, and its
cookie brings it. -/
theorem safe_play_secondLogin :
    Supply.strokes.IsFresh ∧ (∀ n, IsCookieValue (Supply.strokes.item n)) ∧
      let c := play readingRoom (start ⟨0, 0⟩ .strokes .deserted ⟨fun _ => [], 0⟩) secondLogin
      c.Brings readingRoom
          ⟨"GET", .origin "/", ⟨[("cookie", "GATEKEEP_SESSION=11")]⟩, .empty⟩
          ⟨"11", .ofSubject "idp" "alice", [], ⟨0, 0⟩, ⟨86400, 0⟩⟩ ∧
        c.IssuesIds ∧ c.RestoresLatest readingRoom ∧ c.MovesOnLogin readingRoom :=
  ⟨Supply.isFresh_strokes, isCookieValue_strokes,
    ⟨rfl, ⟨by decide, by decide⟩, by decide +kernel, by decide +kernel⟩,
    safe_play readingRoom Supply.isFresh_strokes isCookieValue_strokes ⟨0, 0⟩ .deserted
      ⟨fun _ => [], 0⟩ secondLogin⟩

end Course

end WebAuth.Web
