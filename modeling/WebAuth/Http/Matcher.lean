import WebAuth.Http.Target
import WebAuth.Text.Quoted

/-!
# Request matchers

Which requests a rule applies to, by their paths.  `under` compares whole path
segments: slashes at the end of its pattern do not count, and what follows the
pattern must be nothing or start a new segment.

Main results:

* `RequestMatcher.matchesPath_any`, `RequestMatcher.matchesPath_exact`.
-/

namespace WebAuth.Http

open Text

/-- Which paths a rule applies to. -/
inductive RequestMatcher where
  | any
  | exact (path : String)
  | under (path : String)
deriving DecidableEq, Repr

namespace RequestMatcher

/-- Whether a text is empty or starts a new segment. -/
def startsSegment : List Char → Bool
  | [] => true
  | c :: _ => c = '/'

/-- Whether a path is selected. -/
def matchesPath : RequestMatcher → String → Bool
  | any, _ => true
  | exact expected, path => path = expected
  | under pattern, path =>
      match dropStart? (dropEndWhile (· = '/') pattern.toList) path.toList with
      | some rest => startsSegment rest
      | none => false

/-- Whether a request for the target is selected. -/
def matchesTarget (m : RequestMatcher) (target : RequestTarget) : Bool :=
  m.matchesPath target.path

@[simp]
theorem matchesPath_any (path : String) : any.matchesPath path = true :=
  rfl

@[simp]
theorem matchesPath_exact (expected path : String) :
    (exact expected).matchesPath path = decide (path = expected) :=
  rfl

/-- The display of a matcher. -/
def text : RequestMatcher → String
  | any => "Any"
  | exact path => "Exact(" ++ quoted path ++ ")"
  | under path => "Prefix(" ++ quoted path ++ ")"

end RequestMatcher

end WebAuth.Http
