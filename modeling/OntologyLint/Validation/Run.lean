import OntologyLint.Check.Examine
import OntologyLint.Validation.Report
import OntologyLint.Validation.Schedule

set_option autoImplicit false

/-! A validation. The enabled checks are made one after the other, and they share one cache of type
sets. Within a check the targets are looked at one by one or by a schedule of chunks. -/

namespace OntologyLint

structure Options where
  checks : SortedSet Check := SortedSet.ofList Check.all
  parallel : Bool := true
  datatypesDisjoint : Bool := false

/-- Extends a set by what is found at each element of a list, one element after the other. -/
def Asking.collect {α : Type} (ask : α → Asking (List Violation)) (set : ViolationSet) :
    List α → Asking ViolationSet
  | [] => pure set
  | item :: rest => do
      let found ← ask item
      collect ask (set.extend found) rest

namespace Schedule

/-- Evaluates a schedule: a chunk extends the empty set by what is found at each of its elements,
and the sets of two parts are merged. -/
def evaluate {α : Type} (ask : α → Asking (List Violation)) : Schedule α → Asking ViolationSet
  | .chunk items => Asking.collect ask ∅ items
  | .both first second => do
      let left ← first.evaluate ask
      let right ← second.evaluate ask
      pure (ViolationSet.merge left right)

end Schedule

namespace Check

def evaluate (check : Check) (scene : Scene) (parallel : Bool) (targets : List Focus) :
    Asking ViolationSet :=
  if parallel then (Schedule.halving targets.length targets).evaluate (check.examine scene)
  else do
    let found ← Asking.gather (check.examine scene) targets
    pure (SortedSet.ofList found)

/-- Makes one check and notes its figures. -/
def run (check : Check) (scene : Scene) (parallel : Bool) : Asking (ViolationSet × CheckStats) := do
  let targets := check.targets scene
  let found ← check.evaluate scene parallel targets
  pure (found, { check, targets := targets.length, violations := found.size })

end Check

def runChecks (scene : Scene) (parallel : Bool) :
    List Check → ViolationSet → Asking (ViolationSet × List CheckStats)
  | [], violations => pure (violations, [])
  | check :: rest, violations => do
      let (found, stats) ← check.run scene parallel
      let (violations, others) ← runChecks scene parallel rest (ViolationSet.merge violations found)
      pure (violations, stats :: others)

def Options.run (options : Options) (data schema : Graph) : Report :=
  let scene := Scene.ofGraphs data schema options.datatypesDisjoint
  let ((violations, checks), cache) :=
    (runChecks scene options.parallel options.checks.toList ∅).run TypeCache.empty
  { violations
    stats := {
      dataTriples := data.size
      schemaTriples := schema.size
      declaredProperties := scene.schema.properties.length
      disjointPairs := scene.schema.disjoint.size
      checks
      cache := cache.counts } }

def Options.validate (options : Options) (data schema : Graph) : ViolationSet :=
  (options.run data schema).violations

end OntologyLint
