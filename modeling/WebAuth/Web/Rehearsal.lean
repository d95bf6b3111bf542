import WebAuth.Text.Quoted
import WebAuth.Web.Strategies

/-!
# Rehearsing a configuration

To try a configuration without its providers, strategies can answer from tables.
They note in the journal what they were asked, so that a rehearsal shows which
strategies a request reached, and in which order.

Main results:

* `Strategy.scripted_identify`: a scripted strategy gives its answer and notes its
  name;
* `Strategy.tokenTable_of_none`, `Strategy.userTable_of_none`: a request without
  credentials leaves no note.
-/

namespace WebAuth.Web.Strategy

open Text

/-- Answer as it is written, and note the question. -/
def noted (question : String) (answer : Except AccessError (Option Identity)) :
    Run World AccessError (Option Identity) := do
  World.note question
  Run.ofExcept answer

/-- The world with one more note. -/
def withNote (question : String) (w : World) : World :=
  { w with journal := question :: w.journal }

/-- Always give the same answer. -/
def scripted (name : String) (answer : Except AccessError (Option Identity)) : Strategy :=
  fixed name (noted ("fixed " ++ name) answer)

/-- The identity of a user of a table. -/
def tableUser (username : String) : Identity :=
  (Identity.ofSubject "basic" username).withAuthority "ROLE_USER"

/-- What a table of passwords says about a user: nothing about a stranger. -/
def checkPassword (users : List (String × String)) (username password : String) :
    Except AccessError (Option Identity) :=
  match users.lookup username with
  | none => .ok none
  | some known =>
      if known = password then .ok (some (tableUser username)) else .error .invalidCredentials

/-- Check user names and passwords against a table. -/
def userTable (users : List (String × String)) : Strategy :=
  basic (fun username password =>
    noted ("basic " ++ quoted username ++ " " ++ quoted password)
      (checkPassword users username password))

/-- Check bearer tokens against a table; an unknown one says nothing. -/
def tokenTable (tokens : List (String × Except AccessError (Option Identity))) : Strategy :=
  bearer (fun token =>
    noted ("bearer " ++ quoted token) ((tokens.lookup token).getD (.ok none)))

/-! ## What is noted -/

/-- The question is noted whatever the answer is. -/
@[simp]
theorem noted_apply (question : String) (answer : Except AccessError (Option Identity))
    (w : World) : noted question answer w = (.ofExcept answer, withNote question w) := by
  cases answer <;> rfl

/-- A scripted strategy gives its answer and notes its name. -/
theorem scripted_identify (name : String) (answer : Except AccessError (Option Identity))
    (r : Request) (w : World) :
    (scripted name answer).identify r w =
      (.ofExcept answer, withNote ("fixed " ++ name) w) := by
  simp [scripted, fixed]

/-- A request without a bearer token leaves no note. -/
theorem tokenTable_of_none {tokens : List (String × Except AccessError (Option Identity))}
    {r : Request} (h : r.headers.bearerToken? = none) (w : World) :
    (tokenTable tokens).identify r w = (.value none, w) :=
  bearer_of_none h w

/-- A request without a user name leaves no note. -/
theorem userTable_of_none {users : List (String × String)} {r : Request}
    (h : r.headers.basicCredentials? = none) (w : World) :
    (userTable users).identify r w = (.value none, w) :=
  basic_of_none h w

end WebAuth.Web.Strategy
