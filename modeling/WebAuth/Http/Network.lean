import WebAuth.Http.Status
import WebAuth.Http.Target
import WebAuth.Run
import WebAuth.Url.Parser

/-!
# Fetching documents

A network answers queries, possibly differently each time: its answer may depend
on all queries it has had before.  A document is fetched from an address by one
query and up to ten more for redirections; the last answer counts.

Main results:

* `send_apply`: what one query leaves behind;
* `fetch_refused_of_not_sendable`: addresses that cannot be queried cause no query.
-/

namespace WebAuth.Http

/-! ## Networks -/

/-- What a server is asked for. -/
structure Query where
  address : String
  accept : String
deriving DecidableEq, Repr

/-- What a server answers. -/
structure Reply where
  status : Nat
  location : Option String
  body : List UInt8
deriving DecidableEq, Repr

/-- What becomes of a query. -/
inductive Outcome where
  /-- There is no way to the server. -/
  | unreachable
  /-- The server has had the query and closes the connection. -/
  | dropped
  | answered (reply : Reply)
deriving DecidableEq, Repr

/-- A network and the queries that have reached servers. -/
structure Network where
  /-- The outcome of a query after those before it, the latest first. -/
  respond : List Query → Query → Outcome
  /-- The queries so far, the latest first. -/
  queries : List Query

/-- A network without servers. -/
def Network.deserted : Network := ⟨fun _ _ => .unreachable, []⟩

/-! ## Errors -/

/-- Why a document cannot be fetched. -/
inductive FetchError where
  /-- The text is not an address. -/
  | notAddress
  /-- The address is not one that can be queried. -/
  | unsupported (address : String)
  | transport (address : String)
  | redirection (address : String)
  | status (status : Nat) (address : String)
  | body (address : String)
deriving DecidableEq, Repr

/-- The wording of a fetch error. -/
def FetchError.message : FetchError → String
  | .notAddress => "builder error"
  | .unsupported address => "builder error for url (" ++ address ++ ")"
  | .transport address => "error sending request for url (" ++ address ++ ")"
  | .redirection address => "error following redirect for url (" ++ address ++ ")"
  | .status code address =>
      (if isClientError code then "HTTP status client error (" else "HTTP status server error (")
        ++ statusText code ++ ") for url (" ++ address ++ ")"
  | .body address => "error decoding response body for url (" ++ address ++ ")"

/-! ## Queries -/

/-- The address as it is sent. -/
def sentAddress (url : Url) : String := url.withoutUser.withoutFragment.text

/-- The address as errors show it. -/
def shownAddress (url : Url) : String := url.withoutUser.text

/-- Whether servers can be asked for an address. -/
def isSendable (url : Url) : Bool :=
  ["http", "https"].contains url.scheme && (RequestTarget.parse? (sentAddress url)).isSome

/-- Ask for an address once. -/
def send (accept : String) (url : Url) : Run Network FetchError Reply := fun n =>
  let query : Query := ⟨sentAddress url, accept⟩
  match n.respond n.queries query with
  | .unreachable => (.refused (.transport (shownAddress url)), n)
  | .dropped =>
      (.refused (.transport (shownAddress url)), { n with queries := query :: n.queries })
  | .answered reply => (.value reply, { n with queries := query :: n.queries })

/-- The statuses that redirect. -/
def isRedirection (status : Nat) : Bool := [301, 302, 303, 307, 308].contains status

/-- Where a reply redirects to. -/
def target? (url : Url) (reply : Reply) : Option Url :=
  if isRedirection reply.status then
    reply.location.bind (fun text => (Url.parseFrom (some url) text).toOption)
  else none

/-- Ask for an address and follow so many redirections. -/
def follow (accept : String) : Nat → Url → Run Network FetchError (Reply × Url)
  | hops, url => do
      let reply ← send accept url
      match target? url reply with
      | none => pure (reply, url)
      | some next =>
          match hops with
          | 0 => .refuse (.redirection (shownAddress next))
          | hops + 1 =>
              if isSendable next then follow accept hops next
              else .refuse (.redirection (shownAddress next))

/-- The number of redirections that are followed. -/
def hopLimit : Nat := 10

/-- Fetch from an address: the last answer and where it came from. -/
def fetch (accept : String) (url : Url) : Run Network FetchError (Reply × Url) :=
  if isSendable url then follow accept hopLimit url
  else .refuse (.unsupported (shownAddress url))

/-- Take an answer that blames nobody. -/
def accepted (answer : Reply × Url) : Except FetchError (List UInt8 × Url) :=
  if isClientError answer.1.status || isServerError answer.1.status then
    .error (.status answer.1.status (shownAddress answer.2))
  else .ok (answer.1.body, answer.2)

/-- One query that reaches a server is remembered. -/
theorem send_apply {accept : String} {url : Url} {n : Network} {reply : Reply}
    (h : n.respond n.queries ⟨sentAddress url, accept⟩ = .answered reply) :
    send accept url n =
      (.value reply, { n with queries := ⟨sentAddress url, accept⟩ :: n.queries }) := by
  simp only [send, h]

/-- An address that cannot be queried causes no query. -/
theorem fetch_refused_of_not_sendable {accept : String} {url : Url}
    (h : isSendable url = false) (n : Network) :
    fetch accept url n = (.refused (.unsupported (shownAddress url)), n) := by
  simp [fetch, h]

end WebAuth.Http
