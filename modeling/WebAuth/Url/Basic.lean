import WebAuth.Url.Host

/-!
# Addresses

A parsed address: its scheme, the user name and password, host and port if it has
an authority, the path, and query and fragment.  Paths that start with a slash
belong to hierarchical addresses; the others are kept as they stand.

Main results:

* `Url.withPath_path`: addresses other than files take a new path as it is;
* `Url.withoutFragment_path`: the fragment does not touch the path.
-/

namespace WebAuth

/-- Who an address leads to. -/
inductive Host where
  | domain (name : String)
  | ipv4 (address : Nat)
  | ipv6 (pieces : List Nat)
  /-- A name that only the scheme knows how to read. -/
  | named (name : String)
deriving DecidableEq, Repr

/-- The notation of a host. -/
def Host.text : Host → String
  | domain name => name
  | ipv4 address => Ipv4.text address
  | ipv6 pieces => "[" ++ Ipv6.text pieces ++ "]"
  | named name => name

/-- The user information, host and port of an address. -/
structure Authority where
  username : String
  password : String
  /-- Some schemes have authorities without a host. -/
  host : Option Host
  port : Option Nat
deriving DecidableEq, Repr

/-- A parsed address. -/
structure Url where
  scheme : String
  authority : Option Authority
  /-- Whether `/.` keeps the path apart from the scheme, so that two slashes at its
  start are not read as the mark of an authority. -/
  guarded : Bool
  path : String
  hierarchical : Bool
  query : Option String
  fragment : Option String
deriving DecidableEq, Repr

namespace Url

/-- The schemes whose addresses always have a host, with their usual ports. -/
def defaultPort? (scheme : String) : Option Nat :=
  [("http", 80), ("https", 443), ("ws", 80), ("wss", 443), ("ftp", 21)].lookup scheme

/-- Whether backslashes count as slashes. -/
def isSpecial (scheme : String) : Bool :=
  (defaultPort? scheme).isSome || scheme = "file"

end Url

/-- The notation of an authority. -/
def Authority.text (a : Authority) : String :=
  let password := if a.password.isEmpty then "" else ":" ++ a.password
  let user := if a.username.isEmpty && a.password.isEmpty then "" else a.username ++ password ++ "@"
  let port := match a.port with
    | some p => ":" ++ toString p
    | none => ""
  user ++ (a.host.map Host.text).getD "" ++ port

namespace Url

/-- What stands between the scheme and the path. -/
def leadText (u : Url) : String :=
  match u.authority with
  | some a => "//" ++ a.text
  | none => if u.guarded then "/." else ""

/-- The notation of an address up to its path. -/
def textBeforePath (u : Url) : String := u.scheme ++ ":" ++ u.leadText

/-- The query with its mark. -/
def queryText (u : Url) : String :=
  match u.query with
  | some q => "?" ++ q
  | none => ""

/-- The notation of an address. -/
def text (u : Url) : String :=
  let fragment := match u.fragment with
    | some f => "#" ++ f
    | none => ""
  u.textBeforePath ++ u.path ++ u.queryText ++ fragment

/-- A path as addresses of a scheme take it anew: files write the bar of a drive at its
start as a colon. -/
def normalPath (scheme path : String) : String :=
  match path.toList with
  | '/' :: letter :: '|' :: rest =>
      if scheme = "file" ∧ letter.isAlpha ∧ (rest.isEmpty ∨ rest.head? = some '/') then
        String.ofList ('/' :: letter :: ':' :: rest)
      else path
  | _ => path

/-- The address with another path. -/
def withPath (u : Url) (path : String) : Url := { u with path := normalPath u.scheme path }

/-- The address without its fragment. -/
def withoutFragment (u : Url) : Url := { u with fragment := none }

/-- The address without user name and password. -/
def withoutUser (u : Url) : Url :=
  { u with authority := u.authority.map (fun a => { a with username := "", password := "" }) }

/-- Only files change a path. -/
theorem normalPath_of_ne_file {scheme : String} (h : scheme ≠ "file") (path : String) :
    normalPath scheme path = path := by
  unfold normalPath
  split <;> simp [h]

/-- Addresses other than files take the path as it is. -/
theorem withPath_path {u : Url} (h : u.scheme ≠ "file") (path : String) :
    (u.withPath path).path = path :=
  normalPath_of_ne_file h path

@[simp]
theorem withoutFragment_path (u : Url) : u.withoutFragment.path = u.path :=
  rfl

@[simp]
theorem withoutFragment_fragment (u : Url) : u.withoutFragment.fragment = none :=
  rfl

end Url

end WebAuth
