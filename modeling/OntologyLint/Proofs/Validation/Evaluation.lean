import Mathlib.Data.List.Nodup
import OntologyLint.Proofs.Validation.Findings
import OntologyLint.Proofs.Violation.Set
import OntologyLint.Validation.Run

set_option autoImplicit false

/-! A validation holds exactly what its checks find at their targets. The cache that the checks
share, the schedule of their targets and the order in which they are made leave no trace in the
set of violations. -/

namespace OntologyLint

open Asking (Answers answers_pure answers_gather)

section Evaluation

variable {scene : Scene} {violation : Violation}

namespace Check

def findings (check : Check) (scene : Scene) : ViolationSet :=
  SortedSet.ofList ((check.targets scene).flatMap (check.found scene))

theorem mem_findings {check : Check} :
    violation ∈ check.findings scene ↔
      ∃ focus ∈ check.targets scene, violation ∈ check.found scene focus :=
  SortedSet.mem_ofList.trans List.mem_flatMap

theorem mem_findings_of_targets {α : Type} (check : Check) (targets : List α) (focus : α → Focus)
    (aims : check.targets scene = targets.map focus) :
    violation ∈ check.findings scene ↔
      ∃ target ∈ targets, violation ∈ check.found scene (focus target) := by
  rw [mem_findings, aims]
  constructor
  · rintro ⟨other, aimed, member⟩
    obtain ⟨target, listed, rfl⟩ := List.mem_map.1 aimed
    exact ⟨target, listed, member⟩
  · rintro ⟨target, listed, member⟩
    exact ⟨focus target, List.mem_map.2 ⟨target, listed, rfl⟩, member⟩

theorem check_of_mem_findings {check : Check} (member : violation ∈ check.findings scene) :
    violation.kind.check = check := by
  obtain ⟨focus, _target, found⟩ := mem_findings.1 member
  exact check_of_mem_found found

/-- What a check answers at its targets one after the other, repetitions included. -/
def reported (check : Check) (scene : Scene) : List Violation :=
  ((Asking.gather (check.examine scene) (check.targets scene)).run TypeCache.empty).1

theorem reported_eq (check : Check) (scene : Scene) :
    check.reported scene = (check.targets scene).flatMap (check.found scene) := by
  have answers : Answers scene.types (Asking.gather (check.examine scene) (check.targets scene))
      ((check.targets scene).flatMap (check.found scene)) :=
    answers_gather (fun focus _ => check.answers_examine focus)
  obtain ⟨after, _agrees, answered⟩ := answers TypeCache.empty TypeCache.empty_agrees
  exact congrArg Prod.fst answered

/-- A check of distinct resources repeats nothing if it repeats nothing at one resource and all that
it finds there is about that resource. -/
theorem nodup_reported_of_resources {check : Check} {targets : List Resource}
    (aims : check.targets scene = targets.map .resource) (distinct : targets.Nodup)
    (each : ∀ resource, (check.found scene (.resource resource)).Nodup)
    (about : ∀ resource, ∀ violation ∈ check.found scene (.resource resource),
      violation.resource? = some resource) :
    (check.reported scene).Nodup := by
  rw [reported_eq, aims, List.flatMap_map, List.nodup_flatMap]
  refine ⟨fun resource _target => each resource, List.Pairwise.imp ?_ distinct⟩
  intro one other different violation oneMember otherMember
  have same := (about one violation oneMember).symm.trans (about other violation otherMember)
  exact different (Option.some.inj same)

end Check

theorem answers_collect {α : Type} {view : View} {ask : α → Asking (List Violation)}
    {answer : α → List Violation} {items : List α} {set : ViolationSet}
    (each : ∀ item ∈ items, Answers view (ask item) (answer item)) :
    Answers view (Asking.collect ask set items) (set.extend (items.flatMap answer)) := by
  induction items generalizing set with
  | nil => exact answers_pure set
  | cons head tail ih =>
      have rest := @ih (set.extend (answer head)) (fun item member =>
        each item (List.mem_cons_of_mem _ member))
      have appended : set.extend ((head :: tail).flatMap answer) =
          (set.extend (answer head)).extend (tail.flatMap answer) := by
        rw [List.flatMap_cons]
        exact List.foldl_append
      rw [appended]
      exact (each head List.mem_cons_self).bind rest

namespace Schedule

variable {α : Type}

theorem items_halving (depth : Nat) (items : List α) : (halving depth items).items = items := by
  induction depth generalizing items with
  | zero => rfl
  | succ depth ih =>
      unfold halving
      split
      · rfl
      · rw [Schedule.items, ih, ih, List.take_append_drop]

/-- However the work is cut and put together, the outcome is the set of all that is found. -/
theorem answers_evaluate {view : View} {ask : α → Asking (List Violation)}
    {answer : α → List Violation} {schedule : Schedule α}
    (each : ∀ item ∈ schedule.items, Answers view (ask item) (answer item)) :
    Answers view (schedule.evaluate ask)
      (SortedSet.ofList (schedule.items.flatMap answer)) := by
  induction schedule with
  | chunk items =>
      have extended : ViolationSet.extend ∅ (items.flatMap answer) =
          SortedSet.ofList (items.flatMap answer) := by
        ext violation
        simp [ViolationSet.mem_extend]
      rw [Schedule.items, ← extended]
      exact answers_collect each
  | both first second firstAnswers secondAnswers =>
      have firstAnswers := firstAnswers (fun item member =>
        each item (List.mem_append_left _ member))
      have secondAnswers := secondAnswers (fun item member =>
        each item (List.mem_append_right _ member))
      have merged : ViolationSet.merge (SortedSet.ofList (first.items.flatMap answer))
          (SortedSet.ofList (second.items.flatMap answer)) =
          SortedSet.ofList ((first.items ++ second.items).flatMap answer) := by
        ext violation
        simp only [ViolationSet.mem_merge, SortedSet.mem_ofList, List.flatMap_append,
          List.mem_append]
      rw [Schedule.items, ← merged]
      exact firstAnswers.bind (secondAnswers.bind (answers_pure _))

end Schedule

namespace Check

theorem answers_evaluate (check : Check) (parallel : Bool) (targets : List Focus) :
    Answers scene.types (check.evaluate scene parallel targets)
      (SortedSet.ofList (targets.flatMap (check.found scene))) := by
  unfold evaluate
  cases parallel with
  | true =>
      have shared := @Schedule.answers_evaluate _ _ _ _ (Schedule.halving targets.length targets)
        (fun focus _ => @answers_examine scene check focus)
      rw [Schedule.items_halving] at shared
      exact shared
  | false =>
      exact (answers_gather (fun focus _ => check.answers_examine focus)).bind (answers_pure _)

def figures (check : Check) (scene : Scene) : CheckStats :=
  { check
    targets := (check.targets scene).length
    violations := (check.findings scene).size }

def runAt (check : Check) (scene : Scene) (parallel : Bool) (targets : List Focus) :
    Asking (ViolationSet × CheckStats) := do
  let found ← check.evaluate scene parallel targets
  pure (found, { check, targets := targets.length, violations := found.size })

def findingsAt (check : Check) (scene : Scene) (targets : List Focus) : ViolationSet :=
  SortedSet.ofList (targets.flatMap (check.found scene))

def figuresAt (check : Check) (scene : Scene) (targets : List Focus) : CheckStats :=
  { check, targets := targets.length, violations := (check.findingsAt scene targets).size }

theorem answers_runAt (check : Check) (parallel : Bool) (targets : List Focus) :
    Answers scene.types (check.runAt scene parallel targets)
      (check.findingsAt scene targets, check.figuresAt scene targets) :=
  (check.answers_evaluate parallel targets).bind (answers_pure _)

end Check

def runChecksAt (scene : Scene) (parallel : Bool) (targets : Check → List Focus) :
    List Check → ViolationSet → Asking (ViolationSet × List CheckStats)
  | [], violations => pure (violations, [])
  | check :: rest, violations => do
      let (found, stats) ← check.runAt scene parallel (targets check)
      let (violations, others) ←
        runChecksAt scene parallel targets rest (ViolationSet.merge violations found)
      pure (violations, stats :: others)

theorem runChecks_eq_runChecksAt (parallel : Bool) (checks : List Check)
    (violations : ViolationSet) :
    runChecks scene parallel checks violations =
      runChecksAt scene parallel (fun check => check.targets scene) checks violations := by
  induction checks generalizing violations with
  | nil => rfl
  | cons check rest ih =>
      rw [runChecks, runChecksAt]
      simp only [ih]
      rfl

def outcomeAt (scene : Scene) (targets : Check → List Focus) (checks : List Check)
    (violations : ViolationSet) : ViolationSet × List CheckStats :=
  (checks.foldl (fun all check => ViolationSet.merge all (check.findingsAt scene (targets check)))
      violations,
    checks.map (fun check => check.figuresAt scene (targets check)))

theorem answers_runChecksAt (parallel : Bool) (targets : Check → List Focus) (checks : List Check)
    (violations : ViolationSet) :
    Answers scene.types (runChecksAt scene parallel targets checks violations)
      (outcomeAt scene targets checks violations) := by
  induction checks generalizing violations with
  | nil => exact answers_pure _
  | cons check rest ih =>
      exact (check.answers_runAt parallel (targets check)).bind ((ih _).bind (answers_pure _))

theorem answers_runChecks (parallel : Bool) (checks : List Check) (violations : ViolationSet) :
    Answers scene.types (runChecks scene parallel checks violations)
      (checks.foldl (fun all check => ViolationSet.merge all (check.findings scene)) violations,
        checks.map (fun check => check.figures scene)) := by
  rw [runChecks_eq_runChecksAt]
  exact answers_runChecksAt parallel (fun check => check.targets scene) checks violations

theorem mem_foldl_merge {α : Type} {sets : α → ViolationSet} {items : List α}
    {start : ViolationSet} :
    violation ∈ items.foldl (fun all item => ViolationSet.merge all (sets item)) start ↔
      violation ∈ start ∨ ∃ item ∈ items, violation ∈ sets item := by
  induction items generalizing start with
  | nil => simp
  | cons head tail ih =>
      rw [List.foldl_cons, ih, ViolationSet.mem_merge, or_assoc]
      simp only [List.mem_cons, exists_eq_or_imp]

end Evaluation

namespace Options

/-- Unless it is told otherwise, a validation makes every check. -/
theorem mem_checks_default (check : Check) : check ∈ ({} : Options).checks :=
  SortedSet.mem_ofList.2 (by cases check <;> decide)

def scene (options : Options) (data schema : Graph) : Scene :=
  Scene.ofGraphs data schema options.datatypesDisjoint

variable {options : Options} {data schema : Graph} {violation : Violation}

/-- The checks of a run put together what each of them finds, and each notes its own figures. -/
theorem run_outcome (options : Options) (data schema : Graph) :
    (options.run data schema).violations =
        options.checks.toList.foldl
          (fun all check => ViolationSet.merge all (check.findings (options.scene data schema))) ∅ ∧
      (options.run data schema).stats.checks =
        options.checks.toList.map (fun check => check.figures (options.scene data schema)) := by
  obtain ⟨after, _agrees, answered⟩ := @answers_runChecks (options.scene data schema)
    options.parallel options.checks.toList ∅ TypeCache.empty TypeCache.empty_agrees
  have violations : (options.run data schema).violations =
      ((runChecks (options.scene data schema) options.parallel options.checks.toList ∅)
        TypeCache.empty).1.1 := rfl
  have figures : (options.run data schema).stats.checks =
      ((runChecks (options.scene data schema) options.parallel options.checks.toList ∅)
        TypeCache.empty).1.2 := rfl
  rw [violations, figures, answered]
  exact ⟨rfl, rfl⟩

theorem mem_validate :
    violation ∈ options.validate data schema ↔
      ∃ check ∈ options.checks, violation ∈ check.findings (options.scene data schema) := by
  rw [validate, (run_outcome options data schema).1, mem_foldl_merge]
  simp only [SortedSet.not_mem_empty, false_or]
  rfl

theorem mem_validate_iff_kind :
    violation ∈ options.validate data schema ↔
      violation.kind.check ∈ options.checks ∧
        violation ∈ violation.kind.check.findings (options.scene data schema) := by
  rw [mem_validate]
  constructor
  · rintro ⟨check, made, found⟩
    cases Check.check_of_mem_findings found
    exact ⟨made, found⟩
  · rintro ⟨made, found⟩
    exact ⟨_, made, found⟩

/-- A validation that makes the check of a violation's kind holds the violation if that check
finds it. -/
theorem mem_validate_of_enabled {check : Check} (enabled : check ∈ options.checks)
    (kind : violation.kind.check = check) :
    violation ∈ options.validate data schema ↔
      violation ∈ check.findings (options.scene data schema) := by
  cases kind
  rw [mem_validate_iff_kind, and_iff_right enabled]

end Options

end OntologyLint
