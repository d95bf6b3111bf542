import WebAuth.Web.Chain

/-!
# The request pipeline

A request that an ignored matcher selects passes untouched.  Any other request goes
through the first chain that is for it, or passes untouched if there is none.

Main results:

* `Proxy.filter_of_ignored`, `Proxy.filter_of_no_chain`: requests that pass untouched.
-/

namespace WebAuth.Web

open Http Text

/-- Chains in the order in which they are tried. -/
structure Proxy where
  ignored : List RequestMatcher
  chains : List FilterChain
  /-- Report decisions as information. -/
  debug : Bool

namespace Proxy

/-- Whether a request bypasses all chains. -/
def ignores (p : Proxy) (r : Request) : Bool := p.ignored.any r.isMatchedBy

/-- The first chain for a request, with its number. -/
def chainFor? (p : Proxy) (r : Request) : Option (FilterChain × Nat) :=
  p.chains.zipIdx.find? (fun chain => chain.1.selects r)

/-- The level of reports. -/
def level (p : Proxy) : LogLevel := if p.debug then .info else .debug

/-- Report a decision about a request. -/
def report (p : Proxy) (text : String) : Run Passage AccessError Unit :=
  Passage.inWorld (World.report p.level text)

/-- How a request is named in reports. -/
def subject (r : Request) : String := r.method ++ " " ++ r.path

/-- Let a request through, or refuse it. -/
def filter (p : Proxy) : Run Passage AccessError Unit := do
  let r ← .reads Passage.request
  if p.ignores r then p.report (subject r ++ " is ignored by security")
  else
    match p.chainFor? r with
    | none => p.report ("no security chain matches " ++ subject r)
    | some (chain, number) => do
        p.report (subject r ++ " handled by chain " ++ toString number ++ " " ++
          quotedList chain.filterNames)
        FilterChain.runAll p.level chain.filters

/-- The passage after a report. -/
def reported (p : Proxy) (text : String) (passage : Passage) : Passage :=
  { passage with
    world := { passage.world with log := ⟨p.level, text⟩ :: passage.world.log } }

/-- An ignored request passes untouched. -/
theorem filter_of_ignored {p : Proxy} {passage : Passage}
    (h : p.ignores passage.request = true) :
    p.filter passage =
      (.value (), p.reported (subject passage.request ++ " is ignored by security") passage) := by
  simp [filter, Run.bind_apply, h, report, Passage.inWorld, World.report, reported]

/-- A request without a chain passes untouched. -/
theorem filter_of_no_chain {p : Proxy} {passage : Passage}
    (h : p.ignores passage.request = false) (hchain : p.chainFor? passage.request = none) :
    p.filter passage =
      (.value (), p.reported ("no security chain matches " ++ subject passage.request)
        passage) := by
  simp [filter, Run.bind_apply, h, hchain, report, Passage.inWorld, World.report, reported]

end Proxy

end WebAuth.Web
