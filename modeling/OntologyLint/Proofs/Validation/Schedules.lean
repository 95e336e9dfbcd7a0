import OntologyLint.Proofs.Validation.Evaluation

set_option autoImplicit false

/-! Work that is shared out comes to the same set of violations as work that is done in order. The
workers share one cache, so whoever takes up a focus may find that others have asked the cache for
anything in the meantime; what they leave behind agrees with the view, and answers stay the same. -/

namespace OntologyLint

open Asking (Answers answers_pure answers_askTypes)

namespace TypeCache

/-- A change that keeps a cache in agreement with the view. -/
def Harmless (view : View) (change : TypeCache → TypeCache) : Prop :=
  ∀ cache : TypeCache, cache.Agrees view → (change cache).Agrees view

theorem harmless_id (view : View) : Harmless view id := fun _ agrees => agrees

theorem harmless_of_answers {α : Type} {view : View} {ask : Asking α} {answer : α}
    (answers : Answers view ask answer) : Harmless view (fun cache => (ask cache).2) := by
  intro cache agrees
  obtain ⟨after, afterAgrees, answered⟩ := answers cache agrees
  have left : (ask cache).2 = after := congrArg Prod.snd answered
  rw [← left] at afterAgrees
  exact afterAgrees

end TypeCache

namespace Check

variable {scene : Scene} {turn : Focus × (TypeCache → TypeCache)}

/-- Takes up a focus after others have changed the cache. -/
def examineAfter (check : Check) (scene : Scene) (turn : Focus × (TypeCache → TypeCache)) :
    Asking (List Violation) :=
  fun cache => check.examine scene turn.1 (turn.2 cache)

theorem answers_examineAfter {check : Check} (harmless : TypeCache.Harmless scene.types turn.2) :
    Answers scene.types (check.examineAfter scene turn) (check.found scene turn.1) := by
  intro cache agrees
  exact check.answers_examine turn.1 (turn.2 cache) (harmless cache agrees)

/-- However the targets are cut into chunks, whatever the order in which the chunks are put together
and whatever other workers do to the cache, the outcome is what the targets give in order. -/
theorem evaluate_schedule (check : Check) {schedule : Schedule (Focus × (TypeCache → TypeCache))}
    {cache other : TypeCache} (agrees : cache.Agrees scene.types)
    (otherAgrees : other.Agrees scene.types)
    (harmless : ∀ turn ∈ schedule.items, TypeCache.Harmless scene.types turn.2) :
    (schedule.evaluate (check.examineAfter scene) cache).1 =
      (check.evaluate scene false (schedule.items.map Prod.fst) other).1 := by
  have shared := Schedule.answers_evaluate (fun turn member =>
    check.answers_examineAfter (harmless turn member))
  obtain ⟨_after, _agrees, outcome⟩ := shared cache agrees
  obtain ⟨_after, _agrees, ordered⟩ :=
    check.answers_evaluate false (schedule.items.map Prod.fst) other otherAgrees
  rw [outcome, ordered, List.flatMap_map]

end Check

/-- A way to share out the targets of every check that is made of a scene. -/
structure Plan (scene : Scene) where
  schedule : Check → Schedule (Focus × (TypeCache → TypeCache))
  complete : ∀ check, (schedule check).items.map Prod.fst = check.targets scene
  harmless : ∀ check, ∀ turn ∈ (schedule check).items, TypeCache.Harmless scene.types turn.2

namespace Plan

variable {scene : Scene}

/-- A single worker takes all targets in order, and nobody disturbs it. -/
def single (scene : Scene) : Plan scene where
  schedule check := .chunk ((check.targets scene).map (fun focus => (focus, id)))
  complete := by
    intro check
    rw [Schedule.items, List.map_map]
    exact List.map_id _
  harmless := by
    intro check turn member
    obtain ⟨focus, _target, rfl⟩ := List.mem_map.1 member
    exact TypeCache.harmless_id scene.types

/-- Makes checks in the given order, each by its schedule, adding to what was found before. -/
def runChecks (plan : Plan scene) : List Check → ViolationSet → Asking ViolationSet
  | [], violations => pure violations
  | check :: rest, violations => do
      let found ← (plan.schedule check).evaluate (check.examineAfter scene)
      plan.runChecks rest (ViolationSet.merge violations found)

theorem answers_schedule (plan : Plan scene) (check : Check) :
    Answers scene.types ((plan.schedule check).evaluate (check.examineAfter scene))
      (check.findings scene) := by
  have shared := Schedule.answers_evaluate (fun turn member =>
    check.answers_examineAfter (plan.harmless check turn member))
  have targets : (plan.schedule check).items.flatMap (fun turn => check.found scene turn.1) =
      (check.targets scene).flatMap (check.found scene) := by
    rw [← plan.complete check, List.flatMap_map]
  rw [targets] at shared
  exact shared

theorem answers_runChecks (plan : Plan scene) (checks : List Check) (violations : ViolationSet) :
    Answers scene.types (plan.runChecks checks violations)
      (checks.foldl (fun all check => ViolationSet.merge all (check.findings scene)) violations) := by
  induction checks generalizing violations with
  | nil => exact answers_pure violations
  | cons check rest ih =>
      exact (plan.answers_schedule check).bind
        (ih (ViolationSet.merge violations (check.findings scene)))

end Plan

theorem Options.validate_eq_plan (options : Options) {data schema : Graph}
    (plan : Plan (options.scene data schema)) :
    options.validate data schema =
      (plan.runChecks options.checks.toList ∅ TypeCache.empty).1 := by
  obtain ⟨after, _agrees, outcome⟩ :=
    plan.answers_runChecks options.checks.toList ∅ TypeCache.empty TypeCache.empty_agrees
  rw [validate, (run_outcome options data schema).1, outcome]

/-- Sharing the work out makes no difference to a check under any schedule, nor to a validation
under any plan. -/
theorem parallel_agrees_with_sequential :
    (∀ (check : Check) (scene : Scene) (schedule : Schedule (Focus × (TypeCache → TypeCache)))
        (cache other : TypeCache), cache.Agrees scene.types → other.Agrees scene.types →
        (∀ turn ∈ schedule.items, TypeCache.Harmless scene.types turn.2) →
        (schedule.evaluate (check.examineAfter scene) cache).1 =
          (check.evaluate scene false (schedule.items.map Prod.fst) other).1) ∧
      ∀ (options : Options) (data schema : Graph),
        { options with parallel := true }.validate data schema =
            { options with parallel := false }.validate data schema ∧
          ∀ plan : Plan (options.scene data schema),
            (plan.runChecks options.checks.toList ∅ TypeCache.empty).1 =
              { options with parallel := false }.validate data schema := by
  constructor
  · intro check scene schedule cache other agrees otherAgrees harmless
    exact check.evaluate_schedule agrees otherAgrees harmless
  · intro options data schema
    constructor
    · ext violation
      rw [Options.mem_validate, Options.mem_validate]
      rfl
    · intro plan
      exact (Options.validate_eq_plan { options with parallel := false } plan).symm

/-! Two dogs that are also cats, taken up by workers of their own. The second worker comes to its dog
when the first has asked for classes already. -/

namespace Schedule

def sampleData : List Statement := [
  ⟨.iri "rex", Rdf.type, .resource (.iri "Dog")⟩,
  ⟨.iri "rex", Rdf.type, .resource (.iri "Cat")⟩,
  ⟨.iri "ada", Rdf.type, .resource (.iri "Dog")⟩,
  ⟨.iri "ada", Rdf.type, .resource (.iri "Cat")⟩]

def sampleSchema : List Statement := [⟨.iri "Dog", Owl.disjointWith, .resource (.iri "Cat")⟩]

def sampleScene : Scene :=
  ({} : Options).scene (.ofStatements sampleData) (.ofStatements sampleSchema)

/-- The cache after a question for the classes of one of the dogs. -/
def rexAsked (cache : TypeCache) : TypeCache := (sampleScene.types.askTypes (.iri "rex") cache).2

def sampleSchedule : Schedule (Focus × (TypeCache → TypeCache)) :=
  .both (.chunk [(.resource (.iri "rex"), id)])
    (.both (.chunk []) (.chunk [(.resource (.iri "ada"), rexAsked)]))

theorem harmless_rexAsked : TypeCache.Harmless sampleScene.types rexAsked :=
  TypeCache.harmless_of_answers (answers_askTypes (.iri "rex"))

theorem harmless_sampleSchedule :
    ∀ turn ∈ sampleSchedule.items, TypeCache.Harmless sampleScene.types turn.2 := by
  intro turn member
  rcases List.mem_cons.1 member with rfl | later
  · exact TypeCache.harmless_id sampleScene.types
  · rw [List.mem_singleton.1 later]
    exact harmless_rexAsked

end Schedule

open Schedule in
theorem two_workers_agree :
    TypeCache.empty.Agrees sampleScene.types ∧
      (rexAsked TypeCache.empty).Agrees sampleScene.types ∧
      (∀ turn ∈ sampleSchedule.items, TypeCache.Harmless sampleScene.types turn.2) ∧
      (sampleSchedule.evaluate (Check.disjointness.examineAfter sampleScene) TypeCache.empty).1 =
        (Check.disjointness.evaluate sampleScene false
          [.resource (.iri "rex"), .resource (.iri "ada")] (rexAsked TypeCache.empty)).1 ∧
      ((Plan.single sampleScene).runChecks ({} : Options).checks.toList ∅ TypeCache.empty).1 =
        ({ parallel := false } : Options).validate (.ofStatements sampleData)
          (.ofStatements sampleSchema) := by
  have asked := harmless_rexAsked TypeCache.empty TypeCache.empty_agrees
  exact ⟨TypeCache.empty_agrees, asked, harmless_sampleSchedule,
    parallel_agrees_with_sequential.1 .disjointness sampleScene sampleSchedule _ _
      TypeCache.empty_agrees asked harmless_sampleSchedule,
    (parallel_agrees_with_sequential.2 {} _ _).2 (Plan.single sampleScene)⟩

end OntologyLint
