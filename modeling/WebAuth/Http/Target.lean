import WebAuth.Text.Cut

/-!
# Request targets

What a request names on its first line: a path of the server itself, an absolute
address, an authority alone, or the asterisk.  The path is kept as it is written:
escapes are not decoded and dot segments are not resolved.

Main results:

* `RequestTarget.pathOf?_append_query`: a query is not in the path.
-/

namespace WebAuth.Http

open Text

/-- What a request names. -/
inductive RequestTarget where
  | origin (path : String)
  | absolute (path : String)
  | authority
  | asterisk
deriving DecidableEq, Repr

namespace RequestTarget

/-- The path that matchers look at. -/
def path : RequestTarget → String
  | origin p => p
  | absolute p => p
  | authority => ""
  | asterisk => "*"

@[simp]
theorem path_origin (p : String) : (origin p).path = p :=
  rfl

/-! ## Characters -/

/-- Characters beyond ASCII may stand in paths and queries. -/
def isBeyondAscii (c : Char) : Bool := 128 ≤ c.toNat

/-- The characters of a path. -/
def isPathChar (c : Char) : Bool :=
  isBeyondAscii c ||
    (33 ≤ c.toNat && c.toNat ≤ 126 && !(['#', '<', '>', '?', '\x60'].contains c))

/-- The characters of a query. -/
def isQueryChar (c : Char) : Bool :=
  isBeyondAscii c ||
    (33 ≤ c.toNat && c.toNat ≤ 126 && !(['"', '#', '<', '>'].contains c))

/-- The characters of a scheme. -/
def isSchemeChar (c : Char) : Bool :=
  c.isAlphanum || ['+', '-', '.', '~'].contains c

/-- The characters of an authority. -/
def isAuthorityChar (c : Char) : Bool :=
  c.isAlphanum ||
    ['!', '$', '&', '\'', '(', ')', '*', '+', ',', '-', '.', ':', ';', '=', '@', '[', ']',
      '_', '~', '%'].contains c

/-! ## Paths -/

/-- Whether a query, and nothing refused, stands before the fragment. -/
def isQuery (cs : List Char) : Bool :=
  (cs.takeWhile (· ≠ '#')).all isQueryChar

/-- The path before query and fragment. -/
def pathOf? (cs : List Char) : Option (List Char) :=
  let path := cs.takeWhile (fun c => c ≠ '?' && c ≠ '#')
  let isPath := path.all isPathChar
  match cs.drop path.length with
  | '?' :: query => if isPath && isQuery query then some path else none
  | _ => if isPath then some path else none

/-! ## Authorities -/

/-- What has been seen of an authority. -/
structure AuthorityScan where
  colons : Nat
  opened : Bool
  closed : Bool
  escaped : Bool
  userInfoLast : Bool
deriving Repr

/-- What one more character adds; none if it cannot stand there. -/
def AuthorityScan.step? (s : AuthorityScan) (c : Char) : Option AuthorityScan :=
  let s' := { s with userInfoLast := false }
  if c = ':' then if 8 ≤ s.colons then none else some { s' with colons := s.colons + 1 }
  else if c = '[' then
    if s.escaped || s.opened then none else some { s' with opened := true }
  else if c = ']' then
    if !s.opened || s.closed then none
    else some { s' with closed := true, colons := 0, escaped := false }
  else if c = '@' then some { s with colons := 0, escaped := false, userInfoLast := true }
  else if c = '%' then some { s' with escaped := true }
  else if isAuthorityChar c then some s'
  else none

/-- The text after an authority; none if the authority is malformed. -/
def afterAuthority? (cs : List Char) : Option (List Char) :=
  let authority := cs.takeWhile (fun c => c ≠ '/' && c ≠ '?' && c ≠ '#')
  match authority.foldlM AuthorityScan.step? ⟨0, false, false, false, false⟩ with
  | none => none
  | some s =>
      if s.opened != s.closed || 1 < s.colons || s.userInfoLast || s.escaped then none
      else some (cs.drop authority.length)

/-! ## Targets -/

/-- The text after a scheme and its slashes. -/
def afterScheme? (cs : List Char) : Option (List Char) :=
  let scheme := cs.takeWhile isSchemeChar
  match cs.drop scheme.length with
  | ':' :: '/' :: '/' :: rest =>
      if cs.length ≤ 3 ∨ 64 < scheme.length then none else some rest
  | _ => none

/-- Whether a scheme is too long to be one. -/
def hasLongScheme (cs : List Char) : Bool :=
  let scheme := cs.takeWhile isSchemeChar
  [':', '/', '/'].isPrefixOf (cs.drop scheme.length) && 64 < scheme.length

/-- The longest target, in octets. -/
def lengthLimit : Nat := 65534

/-- Read a target. -/
def parse? (s : String) : Option RequestTarget :=
  if lengthLimit < s.utf8ByteSize then none
  else
    match s.toList with
    | [] => none
    | ['*'] => some asterisk
    | '/' :: rest => (pathOf? ('/' :: rest)).map (fun p => origin (String.ofList p))
    | cs =>
        if hasLongScheme cs then none
        else match afterScheme? cs with
          | some rest => do
              let after ← afterAuthority? rest
              if after.length = rest.length then none
              else
                let path ← pathOf? after
                some (absolute (if path.isEmpty then "/" else String.ofList path))
          | none => do
              let after ← afterAuthority? cs
              if after.isEmpty then some authority else none

/-! ## Laws -/

/-- A path ends where its query begins. -/
theorem pathOf?_append_query {path query : List Char} (hpath : path.all isPathChar = true)
    (hquery : isQuery query = true) : pathOf? (path ++ '?' :: query) = some path := by
  have hplain : ∀ c ∈ path, (c ≠ '?' && c ≠ '#') = true := by
    intro c hc
    have hallowed := List.all_eq_true.mp hpath c hc
    simp only [Bool.and_eq_true, decide_eq_true_eq]
    constructor
    · rintro rfl
      exact absurd hallowed (by decide)
    · rintro rfl
      exact absurd hallowed (by decide)
  have htake : (path ++ '?' :: query).takeWhile (fun c => c ≠ '?' && c ≠ '#') = path := by
    rw [List.takeWhile_append_of_pos hplain]
    simp
  rw [pathOf?, htake, List.drop_left]
  simp only [hpath, hquery, Bool.and_self, if_true]

-- Neither the query nor the fragment is in the path.
example : parse? "/a/../b?x=/c#d" = some (origin "/a/../b") := by
  decide +kernel

end RequestTarget

end WebAuth.Http
