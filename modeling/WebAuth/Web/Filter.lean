import WebAuth.Session.Login
import WebAuth.Web.Strategies

/-!
# Filters

A filter looks at a request on its way, attaches to it what it finds out, and may
refuse it.  The filters here check tokens against forged requests, restore
sessions, and authenticate.

Main results:

* `Filter.sessions_run_of_no_cookie`: without its cookie a request is left as it is;
* `Filter.csrf_safe`: reading requests pass the check for forged ones.
-/

namespace WebAuth.Web

open Http

/-- A request on its way and the world around it. -/
structure Passage where
  request : Request
  world : World

namespace Passage

/-- Work on the world. -/
def inWorld {ε α : Type} (x : Run World ε α) : Run Passage ε α :=
  x.within Passage.world (fun p w => { p with world := w })

/-- Change what is attached to the request. -/
def attach {ε : Type} (f : Attachments → Attachments) : Run Passage ε Unit :=
  .change (fun p =>
    { p with request := { p.request with attachments := f p.request.attachments } })

/-- What is attached to the request. -/
def attachments (p : Passage) : Attachments := p.request.attachments

end Passage

/-- A step on a request's way. -/
structure Filter where
  name : String
  run : Run Passage AccessError Unit

/-- What is done to sessions when an identity is established for a request. -/
abbrev LoginHook : Type := Identity → Request → Run LoginState LoginError Unit

/-- The hook of a login strategy, which does not look at the request. -/
def LoginHook.ofStrategy (s : LoginStrategy) : LoginHook := fun identity _ => s.run identity

namespace Filter

/-! ## Marks -/

/-- Leave a mark, then refuse the request if there is an error. -/
def mark (name : String) (error : Option AccessError) : Filter where
  name := name
  run := do
    Passage.attach (fun a => { a with marks := some (a.marks.getD [] ++ [name]) })
    match error with
    | some e => .refuse e
    | none => pure ()

/-! ## Forged requests -/

/-- Attach a fresh token. -/
def issueToken (config : CsrfConfig) : Run Passage AccessError Unit := do
  let octets ← Passage.inWorld World.drawOctets
  Passage.attach (fun a =>
    { a with csrfToken := some (CsrfToken.ofOctets config.cookieName octets) })

/-- Whether a request needs no token. -/
def needsNoToken (config : CsrfConfig) (r : Request) : Bool :=
  isSafeMethod r.method || config.ignored.any r.isMatchedBy

/-- Whether the token in the header field is the one in the cookie. -/
def tokensAgree (config : CsrfConfig) (r : Request) : Bool :=
  match r.headers.cookie? config.cookieName with
  | some expected => r.headers.readableFirst? config.headerName = some expected
  | none => false

/-- Refuse requests whose tokens do not agree, and issue a token where there is none. -/
def csrf (config : CsrfConfig) : Filter where
  name := "csrf"
  run := do
    let r ← .reads Passage.request
    if (r.headers.cookie? config.cookieName).isNone then issueToken config
    if needsNoToken config r || tokensAgree config r then pure ()
    else .refuse .csrfMismatch

/-! ## Sessions -/

/-- Restore the session that a cookie names, and its identity. -/
def sessions (cookieName : String) : Filter where
  name := "session-management"
  run := do
    let r ← .reads Passage.request
    match ← Passage.inWorld (World.inRealm (Realm.loadNamed cookieName r.headers)) with
    | some session =>
        Passage.attach (fun a =>
          { a with identity := some session.identity, session := some session })
    | none => pure ()

/-! ## Authentication -/

/-- Let a hook work on the request's session: what it leaves in the slot. -/
def runHook (hook : LoginHook) (identity : Identity) (r : Request) (slot : Option Session) :
    Run World AccessError (Option Session) := fun w =>
  match hook identity r ⟨slot, w.realm⟩ with
  | (.value (), s) => (.value s.slot, { w with realm := s.realm })
  | (.refused e, s) => (.refused e.toAccessError, { w with realm := s.realm })
  | (.aborted, s) => (.aborted, { w with realm := s.realm })

/-- Establish an identity: the session is detached while the hook works on it. -/
def establish (hook : LoginHook) (identity : Identity) : Run Passage AccessError Unit := do
  let slot ← .reads (fun p => p.attachments.session)
  Passage.attach (fun a => { a with session := none })
  let r ← .reads Passage.request
  let left ← Passage.inWorld (runHook hook identity r slot)
  Passage.attach (fun a => { a with identity := some identity, session := left })

/-- Authenticate a request.  An identity that comes without a session counts as
authenticated; one restored from a session gives way to fresh credentials. -/
def authentication (authenticator : Authenticator) (hook : LoginHook) (required : Bool) :
    Filter where
  name := "authentication"
  run := do
    let a ← .reads Passage.attachments
    if a.identity.isSome && a.session.isNone then pure ()
    else
      let r ← .reads Passage.request
      match ← Passage.inWorld (authenticator.authenticate r) with
      | some identity => establish hook identity
      | none =>
          if required && a.identity.isNone then .refuse .unauthenticated else pure ()

/-! ## Laws -/

/-- Without its cookie a request is left as it is. -/
theorem sessions_run_of_no_cookie {cookieName : String} {p : Passage}
    (h : p.request.headers.cookie? cookieName = none) :
    (sessions cookieName).run p = (.value (), p) := by
  simp [sessions, Run.bind_apply, Passage.inWorld, Realm.loadNamed_of_no_cookie h]

/-- A reading request that brings a token passes as it is. -/
theorem csrf_safe {config : CsrfConfig} {p : Passage}
    (hmethod : isSafeMethod p.request.method = true)
    (hcookie : (p.request.headers.cookie? config.cookieName).isSome = true) :
    (csrf config).run p = (.value (), p) := by
  obtain ⟨value, hvalue⟩ := Option.isSome_iff_exists.mp hcookie
  simp [csrf, Run.bind_apply, needsNoToken, hmethod, hvalue]

end Filter

end WebAuth.Web
