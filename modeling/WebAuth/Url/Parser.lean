import WebAuth.Text.Cut
import WebAuth.Url.Basic
import WebAuth.Url.Domain
import WebAuth.Url.Percent

/-!
# Reading addresses

Addresses are read as browsers read them: tabs and line ends do not count,
blanks and controls around the text are dropped, special schemes take backslashes
for slashes and need a host, dot segments are resolved, and what cannot stand in
a part is escaped.  Relative references are read against a hierarchical base.

Main definitions:

* `Url.parse`, `Url.parseFrom`: addresses on their own and against a base.
-/

namespace WebAuth

open Text

/-- Why a text is not an address. -/
inductive UrlError where
  | emptyHost
  | invalidDomainName
  | invalidPort
  | invalidIpv4
  | invalidIpv6
  | invalidHostCharacter
  | relativeWithoutBase
  | relativeToBareBase
deriving DecidableEq, Repr

/-- The wording of an address error. -/
def UrlError.message : UrlError → String
  | .emptyHost => "empty host"
  | .invalidDomainName => "invalid international domain name"
  | .invalidPort => "invalid port number"
  | .invalidIpv4 => "invalid IPv4 address"
  | .invalidIpv6 => "invalid IPv6 address"
  | .invalidHostCharacter => "invalid domain character"
  | .relativeWithoutBase => "relative URL without a base"
  | .relativeToBareBase => "relative URL with a cannot-be-a-base base"

namespace Url

/-! ## Characters -/

/-- Tabs and line ends do not count. -/
def isSkipped (c : Char) : Bool := c = '\t' || c = '\n' || c = '\r'

/-- The text that counts. -/
def significant (cs : List Char) : List Char :=
  let isEdge (c : Char) : Bool := c.toNat ≤ 32
  (dropEndWhile isEdge (cs.dropWhile isEdge)).filter (fun c => !isSkipped c)

/-- Whether a character separates path segments. -/
def isSlash (special : Bool) (c : Char) : Bool := c = '/' || (special && c = '\\')

/-- Whether a character ends an authority. -/
def endsAuthority (special : Bool) (c : Char) : Bool :=
  isSlash special c || c = '?' || c = '#'

/-! ## Schemes -/

/-- The scheme, in lowercase, and what follows its colon. -/
def scheme? (cs : List Char) : Option (String × List Char) :=
  match cs with
  | [] => none
  | first :: _ =>
      let scheme := cs.takeWhile (fun c => c.isAlphanum || ['+', '-', '.'].contains c)
      if !first.isAlpha then none
      else match cs.drop scheme.length with
        | ':' :: rest => some (String.ofList (scheme.map Char.toLower), rest)
        | _ => none

/-! ## Hosts -/

/-- The length of the host at the start of a text; colons count inside brackets. -/
def hostLength (special : Bool) : Bool → List Char → Nat
  | _, [] => 0
  | inside, c :: rest =>
      if (c = ':' && !inside) || endsAuthority special c then 0
      else 1 + hostLength special (c = '[' || (inside && c ≠ ']')) rest

/-- An address in brackets. -/
def bracketedHost (cs : List Char) : Except UrlError Host :=
  if cs.getLast? = some ']' then
    match Ipv6.parse? (cs.drop 1).dropLast with
    | some pieces => .ok (.ipv6 pieces)
    | none => .error .invalidIpv6
  else .error .invalidIpv6

/-- The host of a special scheme. -/
def specialHost (cs : List Char) : Except UrlError Host :=
  if cs.head? = some '[' then bracketedHost cs
  else match String.fromUTF8? ⟨(Percent.decode cs).toArray⟩ with
    | none => .error .invalidDomainName
    | some plain =>
        match Domain.toAscii? plain.toList with
        | none => .error .invalidDomainName
        | some name =>
            if name.isEmpty then .error .emptyHost
            else if Ipv4.endsInNumber name then
              match Ipv4.parse? name with
              | some address => .ok (.ipv4 address)
              | none => .error .invalidIpv4
            else .ok (.domain (String.ofList name))

/-- Characters that cannot stand in the host of other schemes. -/
def isForbiddenInHost (c : Char) : Bool :=
  [Char.ofNat 0, '\t', '\n', '\r', ' ', '#', '/', ':', '<', '>', '?', '@', '[', '\\', ']',
    '^', '|'].contains c

/-- The host of another scheme. -/
def plainHost (cs : List Char) : Except UrlError Host :=
  if cs.head? = some '[' then bracketedHost cs
  else if cs.any isForbiddenInHost then .error .invalidHostCharacter
  else .ok (.named (String.ofList (Percent.encode Percent.isControl cs)))

/-- The host at the start of a text; none if it is empty, which special schemes
do not allow. -/
def host (special : Bool) (cs : List Char) :
    Except UrlError (Option Host × List Char) := do
  let length := hostLength special false cs
  let rest := cs.drop length
  if length = 0 then
    if special ∨ rest.head? = some ':' then .error .emptyHost else .ok (none, rest)
  else
    let h ← if special then specialHost (cs.take length) else plainHost (cs.take length)
    .ok (some h, rest)

/-! ## Authorities -/

/-- The port after a host; the scheme's own is left out. -/
def port (scheme : String) (cs : List Char) : Except UrlError (Option Nat × List Char) :=
  match cs with
  | ':' :: rest =>
      let ds := rest.takeWhile Char.isDigit
      let after := rest.drop ds.length
      let n := ds.foldl (fun n d => n * 10 + (d.toNat - 48)) 0
      if 65535 < n then .error .invalidPort
      else if after.head?.any (fun c => !(['/', '\\', '?', '#'].contains c)) then
        .error .invalidPort
      else if ds.isEmpty ∨ defaultPort? scheme = some n then .ok (none, after)
      else .ok (some n, after)
  | _ => .ok (none, cs)

/-- The text before the last at sign of an authority, and the text after it. -/
def userInfo? (special : Bool) (cs : List Char) : Option (List Char × List Char) :=
  let authority := cs.takeWhile (fun c => !endsAuthority special c)
  if authority.contains '@' then
    let after := (authority.reverse.takeWhile (· ≠ '@')).length
    some (authority.take (authority.length - after - 1), cs.drop (authority.length - after))
  else none

/-- User name and password, escaped. -/
def credentials (info : List Char) : String × String :=
  let encode (cs : List Char) := String.ofList (Percent.encode Percent.inUserInfo cs)
  match cutAt? ':' info with
  | some (username, password) => (encode username, encode password)
  | none => (encode info, "")

/-- The authority at the start of a text.  An at sign without anything around it, and
user information without a host, leave the host empty. -/
def authorityOf (scheme : String) (cs : List Char) :
    Except UrlError (Authority × List Char) := do
  let special := isSpecial scheme
  let (info, cs, alone) := match userInfo? special cs with
    | some (info, after) =>
        (info, after, info.isEmpty && after.head?.any (endsAuthority special))
    | none => ([], cs, false)
  let (username, password) := credentials info
  if alone then .error .emptyHost
  else
    let (h, rest) ← host special cs
    let (p, rest) ← port scheme rest
    if h.isNone ∧ (!username.isEmpty ∨ !password.isEmpty) then .error .emptyHost
    else .ok (⟨username, password, h, p⟩, rest)

/-! ## Paths -/

/-- Whether a segment stays where it is. -/
def isSingleDot (segment : List Char) : Bool :=
  [".", "%2e"].contains (String.ofList (segment.map Char.toLower))

/-- Whether a segment goes one level up. -/
def isDoubleDot (segment : List Char) : Bool :=
  ["..", ".%2e", "%2e.", "%2e%2e"].contains (String.ofList (segment.map Char.toLower))

/-- Whether a segment is a drive: a letter and a colon or bar. -/
def isDrive (segment : List Char) : Bool :=
  match segment with
  | [letter, mark] => letter.isAlpha && (mark = ':' || mark = '|')
  | _ => false

/-- A drive is written with a colon. -/
def withColon (segment : List Char) : List Char := segment.take 1 ++ [':']

/-- Go one level up.  A drive stays, in every scheme; a backslash ends its name. -/
def shorten (segments : List (List Char)) : List (List Char) :=
  match segments.getLast? with
  | some segment =>
      if isDrive (segment.takeWhile (· ≠ '\\')) then segments else segments.dropLast
  | none => []

/-- Add a segment to a path; `last` says that no slash follows it. -/
def addSegment (isFile last : Bool) (segments : List (List Char)) (segment : List Char) :
    List (List Char) :=
  if isDoubleDot segment then
    let shorter := shorten segments
    if last then shorter ++ [[]] else shorter
  else if isSingleDot segment then
    if last then segments ++ [[]] else segments
  else if isFile && segments.isEmpty && isDrive segment then [withColon segment]
  else segments ++ [segment]

/-- Add some segments, of which the last is not followed by a slash. -/
def addSegments (isFile : Bool) : List (List Char) → List (List Char) → List (List Char)
  | segments, [] => segments
  | segments, [segment] => addSegment isFile true segments segment
  | segments, segment :: rest =>
      addSegments isFile (addSegment isFile false segments segment) rest

/-- The segments that continue some segments, and what follows them. -/
def segmentsAfter (scheme : String) (segments : List (List Char)) (cs : List Char) :
    List (List Char) × List Char :=
  let path := cs.takeWhile (fun c => c ≠ '?' && c ≠ '#')
  let pieces := (path.splitOnP (isSlash (isSpecial scheme))).map (Percent.encode Percent.inPath)
  (addSegments (scheme = "file") segments pieces, cs.drop path.length)

/-- The segments of the path after an authority, and what follows them. -/
def segmentsStart (scheme : String) (cs : List Char) : List (List Char) × List Char :=
  match cs with
  | c :: rest =>
      if isSlash (isSpecial scheme) c then segmentsAfter scheme [] rest
      else if !isSpecial scheme && (c = '?' || c = '#') then ([], cs)
      else segmentsAfter scheme [] cs
  | [] => (if isSpecial scheme then [[]] else [], [])

/-- The notation of a path: each segment after a slash. -/
def pathText (segments : List (List Char)) : String :=
  String.ofList (segments.flatMap (fun segment => '/' :: segment))

/-- The notation of a file's path, which does not start with empty segments. -/
def filePathText (segments : List (List Char)) : String :=
  match segments.dropWhile List.isEmpty with
  | [] => "/"
  | segment :: rest => pathText (segment :: rest)

/-! ## Queries and fragments -/

/-- The query and fragment at the end of an address. -/
def tail (scheme : String) (cs : List Char) : Option String × Option String :=
  let fragmentOf (cs : List Char) := String.ofList (Percent.encode Percent.inFragment cs)
  let inQuery := if isSpecial scheme then Percent.inSpecialQuery else Percent.inQuery
  match cs with
  | '?' :: rest =>
      let query := rest.takeWhile (· ≠ '#')
      let fragment := match rest.drop query.length with
        | '#' :: f => some (fragmentOf f)
        | _ => none
      (some (String.ofList (Percent.encode inQuery query)), fragment)
  | '#' :: rest => (none, some (fragmentOf rest))
  | _ => (none, none)

/-- The address with these parts, whose query and fragment are still to be read. -/
def assemble (scheme : String) (authority : Option Authority) (path : String)
    (hierarchical : Bool) (rest : List Char) : Url :=
  let (query, fragment) := tail scheme rest
  let guarded := authority.isNone && ['/', '/'].isPrefixOf path.toList
  ⟨scheme, authority, guarded, path, hierarchical, query, fragment⟩

/-! ## Addresses -/

/-- The address after its scheme and two slashes. -/
def afterSlashes (scheme : String) (cs : List Char) : Except UrlError Url := do
  let (a, rest) ← authorityOf scheme cs
  let (segments, rest) := segmentsStart scheme rest
  .ok (assemble scheme (some a) (pathText segments) true rest)

/-- The authority of a file: a host, or none for this machine. -/
def fileHost (cs : List Char) : Except UrlError (Option Host) :=
  if cs.isEmpty then .ok none
  else do
    let h ← specialHost cs
    .ok (if h = .domain "localhost" then none else some h)

/-- The address of a file with these segments, at a host if there is one; a drive at
the start of the path is on this machine. -/
def fileAt (h : Option Host) (segments : List (List Char) × List Char) : Url :=
  let h := if segments.1.head?.any isDrive then none else h
  assemble "file" (some ⟨"", "", h, none⟩) (filePathText segments.1) true segments.2

/-- The address of a file, after its scheme.  Without a host the slash that ends the
authority counts as an empty segment, so that a drive after it is kept as it is written. -/
def afterFile (cs : List Char) : Except UrlError Url :=
  match cs with
  | a :: b :: rest =>
      if isSlash true a && isSlash true b then
        let name := rest.takeWhile (fun c => !endsAuthority true c)
        let after := rest.drop name.length
        if isDrive name then .ok (fileAt none (segmentsAfter "file" [] rest))
        else
          (fileHost name).map (fun h =>
            if h.isSome then fileAt h (segmentsStart "file" after)
            else fileAt none (segmentsAfter "file" [] after))
      else .ok (fileAt none (segmentsStart "file" cs))
  | _ => .ok (fileAt none (segmentsStart "file" cs))

/-- The address of a scheme that is not special, after its colon. -/
def afterPlainScheme (scheme : String) (cs : List Char) : Except UrlError Url :=
  match cs with
  | '/' :: '/' :: rest => afterSlashes scheme rest
  | '/' :: rest =>
      let (segments, rest) := segmentsAfter scheme [] rest
      .ok (assemble scheme none (pathText segments) true rest)
  | _ =>
      let path := cs.takeWhile (fun c => c ≠ '?' && c ≠ '#')
      let text := String.ofList (Percent.encode Percent.isControl path)
      .ok (assemble scheme none text false (cs.drop path.length))

/-- The segments of a path in its notation. -/
def segmentsOf (path : String) : List (List Char) :=
  match path.toList.splitOn '/' with
  | _ :: segments => segments
  | [] => []

/-- A reference without a scheme, read against a hierarchical base of a special
scheme other than files. -/
def relative (base : Url) (cs : List Char) : Except UrlError Url :=
  let scheme := base.scheme
  let slashes := (cs.takeWhile (isSlash true)).length
  if 2 ≤ slashes then afterSlashes scheme (cs.drop slashes)
  else
    let (path, rest) :=
      match cs with
      | [] => (base.path, [])
      | c :: after =>
          if c = '?' ∨ c = '#' then (base.path, cs)
          else
            let (segments, rest) :=
              if slashes = 1 then segmentsAfter scheme [] after
              else segmentsAfter scheme (segmentsOf base.path).dropLast cs
            (pathText segments, rest)
    let url := assemble scheme base.authority path true rest
    match cs with
    | [] => .ok { url with query := base.query }
    | c :: _ => .ok (if c = '#' then { url with query := base.query } else url)

/-- Read an address, against a base if there is one. -/
def parseFrom (base : Option Url) (s : String) : Except UrlError Url :=
  let cs := significant s.toList
  match scheme? cs with
  | some (scheme, rest) =>
      if scheme = "file" then afterFile rest
      else if isSpecial scheme then
        let slashes := (rest.takeWhile (isSlash true)).length
        match base with
        | some b =>
            if slashes < 2 ∧ b.scheme = scheme then relative b rest
            else afterSlashes scheme (rest.drop slashes)
        | none => afterSlashes scheme (rest.drop slashes)
      else afterPlainScheme scheme rest
  | none =>
      match base with
      | none => .error .relativeWithoutBase
      | some b => if b.hierarchical then relative b cs else .error .relativeToBareBase

/-- Read an address. -/
def parse (s : String) : Except UrlError Url := parseFrom none s

end Url

end WebAuth
