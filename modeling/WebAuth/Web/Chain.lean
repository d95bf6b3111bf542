import WebAuth.MethodSecurity
import WebAuth.Web.Filter

/-!
# Filter chains

A chain applies its filters in order to the requests that its matcher selects.
Chains are built from settings: whatever the order of the settings, sessions are
restored first, then forged requests refused, then requests authenticated; filters of
the application come last.

Main results:

* `FilterChain.runAll_cons`: a refused request does not reach the next filter;
* `ChainPlan.build_filters`: the order of the filters.
-/

namespace WebAuth.Web

open Http Text

/-- Filters for the requests that a matcher selects. -/
structure FilterChain where
  matcher : RequestMatcher
  filters : List Filter
  order : Int

namespace FilterChain

/-- Names of the filters in their order. -/
def filterNames (c : FilterChain) : List String := c.filters.map Filter.name

/-- Whether the chain is for a request. -/
def selects (c : FilterChain) (r : Request) : Bool := r.isMatchedBy c.matcher

/-- The display of a chain. -/
def text (c : FilterChain) : String :=
  "SecurityFilterChain \x7b matcher: " ++ c.matcher.text ++ ", filters: " ++
    quotedList c.filterNames ++ ", order: " ++ toString c.order ++ " \x7d"

/-- Apply some filters in order; the first refusal is reported with the filter's
name. -/
def runAll (level : LogLevel) : List Filter → Run Passage AccessError Unit
  | [] => pure ()
  | f :: rest => do
      match ← f.run.attempt with
      | .ok () => runAll level rest
      | .error e => do
          Passage.inWorld (World.report level (f.name ++ " rejected request: " ++ e.message))
          .refuse e

/-- A passed request reaches the next filter. -/
theorem runAll_cons {level : LogLevel} {f : Filter} {rest : List Filter} {p p' : Passage}
    (h : f.run p = (.value (), p')) : runAll level (f :: rest) p = runAll level rest p' := by
  have hattempt : f.run.attempt p =
      ((.value (.ok ()) : Ending AccessError (Except AccessError Unit)), p') := by
    simp [Run.attempt, h]
  rw [runAll, Run.bind_value hattempt]

end FilterChain

/-! ## Building chains -/

/-- What a chain is built from. -/
structure ChainPlan where
  matcher : RequestMatcher
  csrf : Option CsrfConfig
  authenticator : Option Authenticator
  required : Bool
  hook : Option LoginHook
  /-- The cookie that sessions are restored from. -/
  sessionCookie : Option String
  filters : List Filter

/-- A setting of a chain. -/
inductive ChainSetting where
  | selecting (matcher : RequestMatcher)
  | csrf (config : CsrfConfig)
  | withoutCsrf
  | authenticatedBy (authenticator : Authenticator)
  | requiring (required : Bool)
  | onLogin (hook : LoginHook)
  | restoringSessions (config : SessionConfig)
  | adding (filter : Filter)

namespace ChainPlan

/-- The plan of a chain for all requests that refuses forged ones. -/
def default : ChainPlan :=
  ⟨.any, some CsrfConfig.default, none, false, none, none, []⟩

/-- Apply a setting. -/
def apply (plan : ChainPlan) : ChainSetting → ChainPlan
  | .selecting matcher => { plan with matcher := matcher }
  | .csrf config => { plan with csrf := some config }
  | .withoutCsrf => { plan with csrf := none }
  | .authenticatedBy authenticator => { plan with authenticator := some authenticator }
  | .requiring required => { plan with required := required }
  | .onLogin hook => { plan with hook := some hook }
  | .restoringSessions config => { plan with sessionCookie := some config.cookieName }
  | .adding filter => { plan with filters := plan.filters ++ [filter] }

/-- The plan that some settings make, later ones replacing earlier ones. -/
def ofSettings (settings : List ChainSetting) : ChainPlan := settings.foldl apply default

/-- The filter that restores sessions, if the plan has one. -/
def sessionFilter (plan : ChainPlan) : List Filter :=
  (plan.sessionCookie.map Filter.sessions).toList

/-- The filter against forged requests, if the plan has one. -/
def csrfFilter (plan : ChainPlan) : List Filter := (plan.csrf.map Filter.csrf).toList

/-- The filter that authenticates, if the plan asks for it. -/
def authenticationFilter (plan : ChainPlan) : List Filter :=
  if plan.authenticator.isSome || plan.required then
    [Filter.authentication (plan.authenticator.getD Authenticator.silent)
      (plan.hook.getD (LoginHook.ofStrategy .keep)) plan.required]
  else []

/-- The chain of a plan. -/
def build (plan : ChainPlan) : FilterChain where
  matcher := plan.matcher
  filters := plan.sessionFilter ++ plan.csrfFilter ++ plan.authenticationFilter ++ plan.filters
  order := lowestPrecedence

/-- The order of the filters. -/
theorem build_filters (plan : ChainPlan) :
    plan.build.filters =
      plan.sessionFilter ++ plan.csrfFilter ++ plan.authenticationFilter ++ plan.filters :=
  rfl

end ChainPlan

end WebAuth.Web
