import WebAuth.Http.Network

/-!
# What fetching a document does to a network

A document is fetched by one request: the query for its address and those for the
redirections that are followed from there.  Whatever servers do, a fetch ends with an
answer or with a reason why there is none, and all that it leaves behind are its queries.

Main results:

- Theorem `follow_cases`: what a single redirection leads to.
- Theorem `fetch_leaves`: how a fetch ends and what it leaves behind.
- Theorem `Network.NeverRedirects.fetch`: a fetch that is not redirected is at most one query.
- Theorem `Network.IsSteady.fetch`: on a steady network a fetch ends alike at any time.
-/

namespace WebAuth.Http

/-- The queries of one request for an address, the latest first.  There are none if no
server was reached; else the first is for the address itself, and the others are for the
redirections followed from there. -/
def IsRequestFor (accept : String) (url : Url) (queries : List Query) : Prop :=
  queries = [] ∨ ∃ redirected, queries = redirected ++ [⟨sentAddress url, accept⟩]

/-- The network after some more queries. -/
def Network.after (n : Network) (queries : List Query) : Network :=
  { n with queries := queries ++ n.queries }

variable {accept : String} {url : Url} {n : Network}

/-- Queries in two groups. -/
theorem Network.after_after (n : Network) (earlier later : List Query) :
    (n.after earlier).after later = n.after (later ++ earlier) := by
  simp [Network.after]

/-- A network after some more queries shows which they are. -/
theorem Network.after_inj {queries others : List Query} (h : n.after queries = n.after others) :
    queries = others :=
  List.append_cancel_right (congrArg Network.queries h)

/-! ## Single queries -/

/-- The queries of a request that is not redirected. -/
theorem isRequestFor_singleton (accept : String) (url : Url) :
    IsRequestFor accept url [⟨sentAddress url, accept⟩] :=
  Or.inr ⟨[], rfl⟩

/-- A query that is answered has reached a server; one that is not answered may have. -/
theorem send_cases (accept : String) (url : Url) (n : Network) :
    (∃ reply, n.respond n.queries ⟨sentAddress url, accept⟩ = .answered reply ∧
        send accept url n = (.value reply, n.after [⟨sentAddress url, accept⟩])) ∨
      ∃ e queries, IsRequestFor accept url queries ∧ queries.length ≤ 1 ∧
        send accept url n = (.refused e, n.after queries) := by
  cases houtcome : n.respond n.queries ⟨sentAddress url, accept⟩ with
  | unreachable =>
      refine Or.inr ⟨.transport (shownAddress url), [], Or.inl rfl, Nat.zero_le 1, ?_⟩
      simp only [send, houtcome]
      rfl
  | dropped =>
      refine Or.inr ⟨.transport (shownAddress url), _, isRequestFor_singleton accept url,
        Nat.le_refl 1, ?_⟩
      simp only [send, houtcome]
      rfl
  | answered reply => exact Or.inl ⟨reply, rfl, send_apply houtcome⟩

/-! ## Redirections -/

/-- Either the request ends with its first query, or that is answered by a redirection and
one redirection less is left to follow. -/
theorem follow_cases (accept : String) (hops : Nat) (url : Url) (n : Network) :
    (∃ ending queries, ending ≠ .aborted ∧ IsRequestFor accept url queries ∧
        follow accept hops url n = (ending, n.after queries)) ∨
      ∃ fewer next, hops = fewer + 1 ∧ follow accept hops url n =
        follow accept fewer next (n.after [⟨sentAddress url, accept⟩]) := by
  have hrequest := isRequestFor_singleton accept url
  rcases send_cases accept url n with ⟨reply, -, hsend⟩ | ⟨e, queries, hqueries, -, hsend⟩
  · have hrefused (next : Url) : (.refused (.redirection (shownAddress next)) :
        Ending FetchError (Reply × Url)) ≠ .aborted := by simp
    cases htarget : target? url reply with
    | none =>
        refine Or.inl ⟨.value (reply, url), _, by simp, hrequest, ?_⟩
        rw [follow, Run.bind_value hsend, htarget]
        rfl
    | some next =>
        cases hops with
        | zero =>
            refine Or.inl ⟨_, _, hrefused next, hrequest, ?_⟩
            rw [follow, Run.bind_value hsend, htarget]
            rfl
        | succ fewer =>
            by_cases hsendable : isSendable next = true
            · refine Or.inr ⟨fewer, next, rfl, ?_⟩
              rw [follow, Run.bind_value hsend, htarget]
              simp only [hsendable, if_true]
            · refine Or.inl ⟨_, _, hrefused next, hrequest, ?_⟩
              rw [follow, Run.bind_value hsend, htarget]
              simp only [hsendable]
              rfl
  · refine Or.inl ⟨.refused e, queries, by simp, hqueries, ?_⟩
    rw [follow, Run.bind_refused hsend]

/-- Following redirections ends with an answer or a reason, and it leaves the queries of one
request behind. -/
theorem follow_leaves (accept : String) (hops : Nat) (url : Url) (n : Network) :
    ∃ ending queries, ending ≠ .aborted ∧ IsRequestFor accept url queries ∧
      follow accept hops url n = (ending, n.after queries) := by
  induction hops generalizing url n with
  | zero =>
      rcases follow_cases accept 0 url n with h | ⟨fewer, next, hhops, -⟩
      · exact h
      · cases hhops
  | succ hops ih =>
      rcases follow_cases accept (hops + 1) url n with h | ⟨fewer, next, hhops, h⟩
      · exact h
      · cases hhops
        obtain ⟨ending, queries, hending, -, hrest⟩ :=
          ih next (n.after [⟨sentAddress url, accept⟩])
        refine ⟨ending, queries ++ [⟨sentAddress url, accept⟩], hending,
          Or.inr ⟨queries, rfl⟩, ?_⟩
        rw [h, hrest, Network.after_after]

/-- A fetch ends with an answer or a reason, and it leaves the queries of one request
behind. -/
theorem fetch_leaves (accept : String) (url : Url) (n : Network) :
    ∃ ending queries, ending ≠ .aborted ∧ IsRequestFor accept url queries ∧
      fetch accept url n = (ending, n.after queries) := by
  rw [fetch]
  split
  · exact follow_leaves accept hopLimit url n
  · exact ⟨.refused (.unsupported (shownAddress url)), [], by simp, Or.inl rfl, rfl⟩

/-! ## Networks without redirections -/

namespace Network

/-- A network never answers by a redirection. -/
def NeverRedirects (n : Network) : Prop :=
  ∀ earlier query reply, n.respond earlier query = .answered reply →
    isRedirection reply.status = false

/-- Without redirections no second query follows. -/
theorem NeverRedirects.follow (h : n.NeverRedirects) (accept : String) (hops : Nat) (url : Url) :
    ∃ ending queries, queries.length ≤ 1 ∧
      Http.follow accept hops url n = (ending, n.after queries) := by
  rcases send_cases accept url n with ⟨reply, hanswered, hsend⟩ | ⟨e, queries, -, hone, hsend⟩
  · have hfinal : target? url reply = none := by
      rw [target?, h _ _ reply hanswered]
      rfl
    refine ⟨.value (reply, url), [⟨sentAddress url, accept⟩], Nat.le_refl 1, ?_⟩
    rw [Http.follow, Run.bind_value hsend, hfinal]
    rfl
  · refine ⟨.refused e, queries, hone, ?_⟩
    rw [Http.follow, Run.bind_refused hsend]

/-- Without redirections a fetch is at most one query. -/
theorem NeverRedirects.fetch (h : n.NeverRedirects) (accept : String) (url : Url) :
    ∃ ending queries, queries.length ≤ 1 ∧ Http.fetch accept url n = (ending, n.after queries) := by
  rw [Http.fetch]
  split
  · exact h.follow accept hopLimit url
  · exact ⟨.refused (.unsupported (shownAddress url)), [], Nat.zero_le 1, rfl⟩

end Network

/-! ## Networks that answer alike at any time -/

namespace Network

variable {ε α β : Type}

/-- A network answers a query alike, whatever it has been asked before. -/
def IsSteady (n : Network) : Prop :=
  ∀ earlier later query, n.respond earlier query = n.respond later query

/-- Work on a network that answers as `n` does ends alike, whatever the network has been asked
before. -/
def EndsAlike (n : Network) (x : Run Network ε α) : Prop :=
  ∃ ending, ∀ queries, ∃ later,
    x { n with queries := queries } = (ending, { n with queries := later })

/-- Work that leaves networks alone ends alike. -/
theorem endsAlike_of_apply {x : Run Network ε α} {ending : Ending ε α}
    (h : ∀ n, x n = (ending, n)) : n.EndsAlike x :=
  ⟨ending, fun queries => ⟨queries, h _⟩⟩

/-- A sequence of work that ends alike ends alike. -/
theorem EndsAlike.bind {x : Run Network ε α} {f : α → Run Network ε β} (hx : n.EndsAlike x)
    (hf : ∀ a, n.EndsAlike (f a)) : n.EndsAlike (x >>= f) := by
  obtain ⟨ending, hx⟩ := hx
  cases ending with
  | value a =>
      obtain ⟨ending, hthen⟩ := hf a
      refine ⟨ending, fun queries => ?_⟩
      obtain ⟨middle, hfirst⟩ := hx queries
      obtain ⟨later, hlast⟩ := hthen middle
      exact ⟨later, (Run.bind_value hfirst).trans hlast⟩
  | refused e =>
      refine ⟨.refused e, fun queries => ?_⟩
      obtain ⟨later, hfirst⟩ := hx queries
      exact ⟨later, Run.bind_refused hfirst⟩
  | aborted =>
      refine ⟨.aborted, fun queries => ?_⟩
      obtain ⟨later, hfirst⟩ := hx queries
      exact ⟨later, Run.bind_aborted hfirst⟩

/-- On a steady network a query ends alike. -/
theorem IsSteady.send (h : n.IsSteady) (accept : String) (url : Url) :
    n.EndsAlike (Http.send accept url) := by
  have hsame (queries : List Query) := h queries [] ⟨sentAddress url, accept⟩
  cases houtcome : n.respond [] ⟨sentAddress url, accept⟩ with
  | unreachable =>
      refine ⟨.refused (.transport (shownAddress url)), fun queries => ⟨queries, ?_⟩⟩
      simp only [Http.send, hsame, houtcome]
  | dropped =>
      refine ⟨.refused (.transport (shownAddress url)), fun queries =>
        ⟨⟨sentAddress url, accept⟩ :: queries, ?_⟩⟩
      simp only [Http.send, hsame, houtcome]
  | answered reply =>
      exact ⟨.value reply, fun queries => ⟨_, send_apply ((hsame queries).trans houtcome)⟩⟩

/-- On a steady network redirections end alike. -/
theorem IsSteady.follow (h : n.IsSteady) (accept : String) (hops : Nat) (url : Url) :
    n.EndsAlike (Http.follow accept hops url) := by
  induction hops generalizing url with
  | zero =>
      rw [Http.follow]
      refine (h.send accept url).bind fun reply => ?_
      cases target? url reply with
      | none => exact endsAlike_of_apply fun _ => rfl
      | some next => exact endsAlike_of_apply fun _ => rfl
  | succ hops ih =>
      rw [Http.follow]
      refine (h.send accept url).bind fun reply => ?_
      cases target? url reply with
      | none => exact endsAlike_of_apply fun _ => rfl
      | some next =>
          simp only
          split
          · exact ih next
          · exact endsAlike_of_apply fun _ => rfl

/-- On a steady network a fetch ends alike. -/
theorem IsSteady.fetch (h : n.IsSteady) (accept : String) (url : Url) :
    n.EndsAlike (Http.fetch accept url) := by
  rw [Http.fetch]
  split
  · exact h.follow accept hopLimit url
  · exact endsAlike_of_apply fun _ => rfl

end Network

end WebAuth.Http
