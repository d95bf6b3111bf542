import WebAuth.SecurityConfig
import WebAuth.Web.Proxy

/-!
# Configuring the pipeline

A pipeline is put together from configurers, each of which settles one chain, or from
finished chains, but not from both.  Customizers adjust the result.  Configurers and
customizers work in the order of their numbers; no two configurers have the same one.

Main results:

* `Configuration.build_conflict`: configurers and finished chains exclude each other;
* `Configuration.firstClash_none`: without neighbours of one order there is no clash.
-/

namespace WebAuth.Web

open Http

/-- What settles one chain. -/
structure Configurer where
  name : String
  order : Int
  settings : List ChainSetting

/-- The chain that a configurer settles. -/
def Configurer.chain (c : Configurer) : FilterChain :=
  { (ChainPlan.ofSettings c.settings).build with order := c.order }

/-- Without configurers and chains, every request has to be authenticated. -/
def Configurer.default : Configurer := ⟨"default", lowestPrecedence, [.requiring true]⟩

/-- What a customizer does to a pipeline. -/
inductive Adjustment where
  | ignoring (matcher : RequestMatcher)
  | debug (debug : Bool)
  | addChain (chain : FilterChain)

/-- Apply an adjustment. -/
def Proxy.adjust (p : Proxy) : Adjustment → Proxy
  | .ignoring matcher => { p with ignored := p.ignored ++ [matcher] }
  | .debug debug => { p with debug := debug }
  | .addChain chain => { p with chains := p.chains ++ [chain] }

/-- What adjusts a pipeline when its chains are in place. -/
structure Customizer where
  order : Int
  adjustments : List Adjustment

/-- What a pipeline is put together from, each in the order of registration. -/
structure Configuration where
  configurers : List Configurer
  chains : List FilterChain
  customizers : List Customizer
  config : PipelineConfig

namespace Configuration

/-- Nothing registered. -/
def empty : Configuration := ⟨[], [], [], ⟨false⟩⟩

/-- Sort by a number; equal ones keep their order. -/
def inOrder {α : Type} (order : α → Int) (items : List α) : List α :=
  items.mergeSort (fun a b => order a ≤ order b)

/-- The first two neighbours of one order. -/
def firstClash : List Configurer → Option (Configurer × Configurer)
  | a :: b :: rest => if a.order = b.order then some (a, b) else firstClash (b :: rest)
  | _ => none

/-- The configurers in order; the default one if nothing is registered. -/
def effectiveConfigurers (c : Configuration) : List Configurer :=
  if c.configurers.isEmpty && c.chains.isEmpty then [Configurer.default]
  else inOrder Configurer.order c.configurers

/-- The pipeline before customizers adjust it. -/
def start (c : Configuration) : Proxy where
  ignored := []
  chains := c.effectiveConfigurers.map Configurer.chain ++ inOrder FilterChain.order c.chains
  debug := c.config.debug

/-- All adjustments in the order in which they are made. -/
def adjustments (c : Configuration) : List Adjustment :=
  (inOrder Customizer.order c.customizers).flatMap Customizer.adjustments

/-- Put the pipeline together. -/
def build (c : Configuration) : Except ConfigError Proxy :=
  if !c.configurers.isEmpty && !c.chains.isEmpty then .error .conflictingSources
  else
    match firstClash (inOrder Configurer.order c.configurers) with
    | some (previous, current) =>
        .error (.duplicateOrder previous.order previous.name current.name)
    | none => .ok (c.adjustments.foldl Proxy.adjust c.start)

/-- What putting the pipeline together reports. -/
def buildLog (c : Configuration) : List LogEntry :=
  match c.build with
  | .error _ => []
  | .ok proxy =>
      (if c.configurers.isEmpty && c.chains.isEmpty then
        [⟨.debug, "no security configuration registered, applying the default"⟩] else []) ++
      (if proxy.debug then
        [⟨.warn, "security debugging is enabled; request details will be logged"⟩] else [])

/-- Configurers and finished chains exclude each other. -/
theorem build_conflict {c : Configuration} (hconfigurers : c.configurers ≠ [])
    (hchains : c.chains ≠ []) : c.build = .error .conflictingSources := by
  simp [build, hconfigurers, hchains]

/-- Without neighbours of one order there is no clash. -/
theorem firstClash_none {configurers : List Configurer}
    (h : configurers.Pairwise (fun a b => a.order ≠ b.order)) :
    firstClash configurers = none := by
  induction configurers with
  | nil => rfl
  | cons a rest ih =>
      cases rest with
      | nil => rfl
      | cons b rest =>
          have hne : a.order ≠ b.order := (List.pairwise_cons.mp h).1 b List.mem_cons_self
          simp only [firstClash, hne, if_false]
          exact ih (List.pairwise_cons.mp h).2

end Configuration

end WebAuth.Web
