import OntologyLint.Proofs.Graph.Facts
import OntologyLint.Proofs.SortedSet

set_option autoImplicit false

/-! The view of one graph answers in increasing order, so no value is met twice. -/

namespace OntologyLint

theorem Triple.compare_same (subject predicate : Resource) (left right : Object) :
    compare (⟨subject, predicate, left⟩ : Triple) ⟨subject, predicate, right⟩ =
      compare left right := by
  change (compare subject subject).then ((compare predicate predicate).then (compare left right)) =
    compare left right
  rw [show compare subject subject = .eq from Std.ReflCmp.compare_self,
    show compare predicate predicate = .eq from Std.ReflCmp.compare_self]
  rfl

namespace View

variable {graph : Graph} {subject : Resource} {predicate : String}

theorem increasing_objectsOf : Increasing (graph.view.objectsOf subject predicate) := by
  refine List.pairwise_map.2 (List.Pairwise.imp_of_mem ?_
    ((graph.triples.increasing.filter _).filter _))
  intro left right leftMember rightMember before
  obtain ⟨leftUses, leftSubject⟩ := List.mem_filter.1 leftMember
  obtain ⟨rightUses, rightSubject⟩ := List.mem_filter.1 rightMember
  have leftPredicate := (mem_withPredicate.1 leftUses).2
  have rightPredicate := (mem_withPredicate.1 rightUses).2
  cases left
  cases right
  cases of_decide_eq_true leftSubject
  cases of_decide_eq_true rightSubject
  cases leftPredicate
  cases rightPredicate
  rw [Triple.compare_same] at before
  exact before

theorem increasing_resourcesOf : Increasing (graph.view.resourcesOf subject predicate) := by
  refine List.pairwise_filterMap.2 (List.Pairwise.imp ?_ increasing_objectsOf)
  intro left right before a found b other
  cases left with
  | literal value => cases found
  | resource value =>
      cases right with
      | literal value => cases other
      | resource value =>
          cases found
          cases other
          exact before

theorem nodup_subjectsWith {object : Resource} :
    (graph.view.subjectsWith predicate object).Nodup := by
  refine List.pairwise_map.2 (List.Pairwise.imp_of_mem ?_
    ((graph.triples.increasing.filter _).filter _))
  intro left right leftMember rightMember before same
  obtain ⟨leftUses, leftObject⟩ := List.mem_filter.1 leftMember
  obtain ⟨rightUses, rightObject⟩ := List.mem_filter.1 rightMember
  have leftPredicate := (mem_withPredicate.1 leftUses).2
  have rightPredicate := (mem_withPredicate.1 rightUses).2
  cases left
  cases right
  cases same
  cases of_decide_eq_true leftObject
  cases of_decide_eq_true rightObject
  cases leftPredicate
  cases rightPredicate
  exact not_lt_self _ before

end View

end OntologyLint
