import Mathlib.Algebra.GroupWithZero.Nat
import OntologyLint.Proofs.SortedSet
import OntologyLint.Proofs.Validation.Evaluation

set_option autoImplicit false

/-! Checks do not influence each other. A validation that makes some of the checks holds what the
validation with all checks holds of their kinds, and since no violation is found by two checks, the
numbers of the checks add up to the number of all violations. -/

namespace OntologyLint

variable {scene : Scene} {violation : Violation}

theorem ViolationSet.size_merge {left right : ViolationSet}
    (apart : ∀ violation ∈ left, violation ∉ right) :
    (left.merge right).size = left.size + right.size := by
  have distinct : (left.toList ++ right.toList).Nodup := by
    refine List.nodup_append.2 ⟨left.increasing.nodup, right.increasing.nodup, ?_⟩
    rintro violation inLeft _ inRight rfl
    exact apart violation inLeft inRight
  have same (violation : Violation) :
      violation ∈ left.merge right ↔ violation ∈ left.toList ++ right.toList := by
    rw [mem_merge, List.mem_append]
    rfl
  rw [SortedSet.size_eq_length distinct same, List.length_append]
  rfl

theorem size_foldl_merge {checks : List Check} {start : ViolationSet} (distinct : checks.Nodup)
    (fresh : ∀ violation ∈ start, violation.kind.check ∉ checks) :
    (checks.foldl (fun all check => ViolationSet.merge all (check.findings scene)) start).size =
      start.size + (checks.map (fun check => (check.findings scene).size)).sum := by
  induction checks generalizing start with
  | nil => rfl
  | cons check rest ih =>
      obtain ⟨once, restDistinct⟩ := List.nodup_cons.1 distinct
      have apart : ∀ violation ∈ start, violation ∉ check.findings scene := by
        intro violation old found
        have kind := Check.check_of_mem_findings found
        exact fresh violation old (kind ▸ List.mem_cons_self)
      -- The sets that are merged next meet neither the start nor what this check adds to it.
      have restFresh : ∀ violation ∈ start.merge (check.findings scene),
          violation.kind.check ∉ rest := by
        intro violation member later
        rcases ViolationSet.mem_merge.1 member with old | found
        · exact fresh violation old (List.mem_cons_of_mem _ later)
        · rw [Check.check_of_mem_findings found] at later
          exact once later
      have counted := ih restDistinct restFresh
      rw [List.foldl_cons, counted, ViolationSet.size_merge apart, List.map_cons, List.sum_cons,
        Nat.add_assoc]

namespace Options

variable {data schema : Graph}

theorem toList_checks (options : Options) :
    options.checks.toList = Check.all.filter (fun check => check ∈ options.checks) := by
  have declared : Increasing Check.all := by decide
  refine SortedSet.eq_of_increasing options.checks.increasing (declared.filter _) ?_
  intro check
  have known : check ∈ Check.all := by cases check <;> decide
  rw [List.mem_filter, and_iff_right known, decide_eq_true_iff]
  rfl

theorem mem_validate_iff (options : Options) :
    violation ∈ options.validate data schema ↔
      violation ∈ ({ options with checks := .ofList Check.all } : Options).validate data schema ∧
        violation.kind.check ∈ options.checks := by
  have known : violation.kind.check ∈ SortedSet.ofList Check.all := by
    refine SortedSet.mem_ofList.2 ?_
    cases violation.kind <;> decide
  have made := @mem_validate_of_enabled { options with checks := .ofList Check.all } data schema
    violation _ known rfl
  rw [made, mem_validate_iff_kind]
  exact and_comm

end Options

/-- A validation with some checks holds exactly what the validation with all checks holds of the
kinds of those. Its report has an entry for each of them in the order of their declaration, and the
entries count every violation once. -/
theorem checks_are_independent (data schema : Graph) (options : Options) :
    options.validate data schema =
        (({ options with checks := .ofList Check.all } : Options).validate data schema).filter
          (fun violation => violation.kind.check ∈ options.checks) ∧
      (options.run data schema).stats.checks.map CheckStats.check =
        Check.all.filter (fun check => check ∈ options.checks) ∧
      ((options.run data schema).stats.checks.map CheckStats.violations).sum =
        (options.run data schema).violations.size := by
  obtain ⟨violations, figures⟩ := Options.run_outcome options data schema
  refine ⟨?_, ?_, ?_⟩
  · ext violation
    rw [SortedSet.mem_filter, decide_eq_true_iff]
    exact options.mem_validate_iff
  · rw [figures, ← options.toList_checks, List.map_map]
    exact List.map_id _
  · have counted := @size_foldl_merge (options.scene data schema) options.checks.toList ∅
      options.checks.increasing.nodup (fun violation member =>
        absurd member (SortedSet.not_mem_empty violation))
    rw [violations, figures, counted, List.map_map]
    exact (Nat.zero_add _).symm

end OntologyLint
