import OntologyLint.Proofs.Check.Disjointness
import OntologyLint.Proofs.Violation.Order

set_option autoImplicit false

/-! What a check answers at a focus is in strictly increasing order, whatever the schema declares and
in whatever form, and whatever was asked before. The declared classes and the bounds are sets, which a
check goes through in order; the pairs of a sorted list come in order too. -/

namespace OntologyLint

section Pairs

variable {α : Type} [Ord α] {items : List α}

/-- Of two pairs of an increasing list the earlier one has the smaller first element, or the same
first and the smaller second one. -/
theorem pairwise_pairsOf (sorted : Increasing items) :
    (pairsOf items).Pairwise (fun one other => compare one.1 other.1 = .lt ∨
      one.1 = other.1 ∧ compare one.2 other.2 = .lt) := by
  induction items with
  | nil => exact .nil
  | cons head tail ih =>
      obtain ⟨below, rest⟩ := List.pairwise_cons.1 sorted
      unfold pairsOf
      apply List.pairwise_append.2
      refine ⟨?_, ih rest, ?_⟩
      · apply List.pairwise_map.2
        apply rest.imp
        intro a b before
        exact Or.inr ⟨rfl, before⟩
      · intro one paired other later
        obtain ⟨second, _member, same⟩ := List.mem_map.1 paired
        have first : other.1 ∈ tail :=
          (mem_pairsOf.1 (show (other.1, other.2) ∈ pairsOf tail from later)).subset
            List.mem_cons_self
        left
        rw [← same]
        exact below other.1 first

end Pairs

/-- Lists of what the checks find, in order: the domains that a triple fails before its ranges, and
everything by what the schema asks for. -/
inductive Check.Ordered : Check → Focus → List Violation → Prop
  | domainRange (triple : Triple) (domains ranges : List Resource)
      (domainsIncrease : Increasing domains) (rangesIncrease : Increasing ranges) :
      Ordered .domainRange (.triple triple)
        (domains.map (.domainMismatch triple) ++ ranges.map (.rangeMismatch triple))
  | disjointness (resource : Resource) (pairs : List DisjointPair) (increase : Increasing pairs) :
      Ordered .disjointness (.resource resource) (pairs.map (.disjointMembership resource))
  | datatype (triple : Triple) (datatypes : List Resource) (increase : Increasing datatypes) :
      Ordered .datatype (.triple triple) (datatypes.map (.datatypeMismatch triple))
  | cardinality (resource : Resource) (counted : List (Restriction × Nat))
      (increase : Increasing (counted.map Prod.fst)) :
      Ordered .cardinality (.resource resource)
        (counted.map (fun (restriction, actual) => .cardinalityMismatch resource
          restriction.property restriction.bound restriction.qualifier actual))
  | nothing (check : Check) (focus : Focus) : Ordered check focus []

namespace Check

theorem Ordered.increasing {check : Check} {focus : Focus} {found : List Violation}
    (ordered : Ordered check focus found) : Increasing found := by
  cases ordered with
  | domainRange triple domains ranges domainsIncrease rangesIncrease =>
      apply List.pairwise_append.2
      refine ⟨?_, ?_, ?_⟩
      · apply List.pairwise_map.2
        apply domainsIncrease.imp
        intro a b before
        exact Violation.lt_of_expected rfl rfl rfl rfl before
      · apply List.pairwise_map.2
        apply rangesIncrease.imp
        intro a b before
        exact Violation.lt_of_expected rfl rfl rfl rfl before
      · intro one domain other range
        obtain ⟨_expected, _listed, sameDomain⟩ := List.mem_map.1 domain
        obtain ⟨_expected, _listed, sameRange⟩ := List.mem_map.1 range
        apply Violation.lt_of_kind
        rw [← sameDomain, ← sameRange]
        rfl
  | disjointness resource pairs increase =>
      apply List.pairwise_map.2
      apply increase.imp
      intro a b before
      exact Violation.lt_of_classes rfl rfl rfl rfl rfl rfl before
  | datatype triple datatypes increase =>
      apply List.pairwise_map.2
      apply increase.imp
      intro a b before
      exact Violation.lt_of_expected rfl rfl rfl rfl before
  | cardinality resource counted increase =>
      apply List.pairwise_map.2
      apply (List.pairwise_map.1 increase).imp
      intro a b before
      exact Violation.lt_of_restriction rfl rfl rfl rfl rfl rfl rfl before
  | nothing => exact .nil

end Check

variable {scene : Scene}

namespace DomainRange

theorem missingClasses_sublist (scene : Scene) (declared : SortedSet Resource)
    (resource : Resource) (cache : TypeCache) :
    ((missingClasses scene declared resource).run cache).1.Sublist declared.toList := by
  unfold missingClasses
  split
  · exact List.nil_sublist declared.toList
  · exact List.filter_sublist

theorem ordered_examine (triple : Triple) (cache : TypeCache) :
    Check.Ordered .domainRange (.triple triple) ((examine scene triple).run cache).1 := by
  unfold examine
  cases scene.schema.declaration? triple.predicate with
  | none => exact .nothing _ _
  | some declaration =>
      have domains := missingClasses_sublist scene declaration.domains triple.subject cache
      cases triple.object with
      | resource object =>
          exact .domainRange triple _ _ (declaration.domains.increasing.sublist domains)
            (declaration.classRanges.increasing.sublist (missingClasses_sublist scene _ object _))
      | literal value =>
          exact .domainRange triple _ [] (declaration.domains.increasing.sublist domains) .nil

end DomainRange

namespace Disjointness

theorem increasing_disjointPairs (scene : Scene) (types : SortedSet Resource) :
    Increasing (disjointPairs scene types.toList) := by
  have apart := (pairwise_pairsOf types.increasing).filter
    (fun pair => areDisjoint scene pair.1 pair.2)
  unfold disjointPairs
  apply List.pairwise_filterMap.2
  apply List.Pairwise.imp_of_mem _ apart
  intro one other oneMember otherMember before pair made another remade
  obtain ⟨first, second⟩ := (of?_of_mem_pairsOf (List.mem_filter.1 oneMember).1).1 made
  obtain ⟨otherFirst, otherSecond⟩ :=
    (of?_of_mem_pairsOf (List.mem_filter.1 otherMember).1).1 remade
  rw [← first, ← second, ← otherFirst, ← otherSecond] at before
  cases before with
  | inl firsts => exact compareLex_lt_of_key firsts
  | inr seconds => exact compareLex_lt_of_same_key seconds.1 seconds.2

theorem ordered_examine (resource : Resource) (cache : TypeCache) :
    Check.Ordered .disjointness (.resource resource) ((examine scene resource).run cache).1 :=
  .disjointness resource _ (increasing_disjointPairs scene
    ((scene.types.askTypes resource).run cache).1)

end Disjointness

namespace DatatypeRange

theorem ordered_examine (triple : Triple) :
    Check.Ordered .datatype (.triple triple) (examine scene triple) := by
  unfold examine
  cases triple.object with
  | resource object => exact .nothing _ _
  | literal literal =>
      cases scene.schema.declaration? triple.predicate with
      | none => exact .nothing _ _
      | some declaration =>
          exact .datatype triple _ (declaration.datatypeRanges.increasing.filter _)

end DatatypeRange

namespace Cardinality

/-- What a bound gives from a cache: no violation, or the one of the number that was counted. -/
theorem run_examineBound (scene : Scene) (resource : Resource) (bound : Restriction)
    (cache : TypeCache) :
    ((examineBound scene resource bound).run cache).1 = [] ∨
      ∃ actual, ((examineBound scene resource bound).run cache).1 =
        [.cardinalityMismatch resource bound.property bound.bound bound.qualifier actual] := by
  unfold examineBound
  split
  · exact Or.inl rfl
  · let counted := (countValues scene bound.qualifier
      (scene.data.objectsOf resource bound.property.text)).run cache
    change (if bound.bound.admits counted.1 then [] else _) = [] ∨
      ∃ actual, (if bound.bound.admits counted.1 then [] else _) = _
    split
    · exact Or.inl rfl
    · exact Or.inr ⟨counted.1, rfl⟩

/-- Bounds give their violations in their own order, whatever the cache remembers. -/
theorem run_gather_examineBound (scene : Scene) (resource : Resource)
    (bounds : List Restriction) (cache : TypeCache) :
    ∃ counted : List (Restriction × Nat), (counted.map Prod.fst).Sublist bounds ∧
      ((Asking.gather (examineBound scene resource) bounds).run cache).1 =
        counted.map (fun (restriction, actual) => .cardinalityMismatch resource
          restriction.property restriction.bound restriction.qualifier actual) := by
  induction bounds generalizing cache with
  | nil => exact ⟨[], .slnil, rfl⟩
  | cons bound rest ih =>
      obtain ⟨counted, listed, later⟩ := ih ((examineBound scene resource bound).run cache).2
      have joined : ((Asking.gather (examineBound scene resource) (bound :: rest)).run cache).1 =
          ((examineBound scene resource bound).run cache).1 ++
            ((Asking.gather (examineBound scene resource) rest).run
              ((examineBound scene resource bound).run cache).2).1 := rfl
      rw [joined, later]
      cases run_examineBound scene resource bound cache with
      | inl none =>
          rw [none]
          exact ⟨counted, listed.cons bound, rfl⟩
      | inr broken =>
          obtain ⟨actual, one⟩ := broken
          rw [one]
          exact ⟨(bound, actual) :: counted, listed.cons_cons bound, rfl⟩

theorem ordered_examine (resource : Resource) (cache : TypeCache) :
    Check.Ordered .cardinality (.resource resource) ((examine scene resource).run cache).1 := by
  let asked := (scene.types.askTypes resource).run cache
  have bounds := (boundsOn scene asked.1 resource).increasing
  obtain ⟨counted, listed, found⟩ := run_gather_examineBound scene resource
    (boundsOn scene asked.1 resource).toList asked.2
  change Check.Ordered .cardinality (.resource resource)
    ((Asking.gather (examineBound scene resource)
      (boundsOn scene asked.1 resource).toList).run asked.2).1
  rw [found]
  exact .cardinality resource counted (bounds.sublist listed)

end Cardinality

theorem Check.ordered_examine (check : Check) (scene : Scene) (focus : Focus) (cache : TypeCache) :
    check.Ordered focus ((check.examine scene focus).run cache).1 := by
  cases check with
  | domainRange =>
      cases focus with
      | triple triple => exact DomainRange.ordered_examine triple cache
      | resource resource => exact .nothing _ _
  | disjointness =>
      cases focus with
      | triple triple => exact .nothing _ _
      | resource resource => exact Disjointness.ordered_examine resource cache
  | datatype =>
      cases focus with
      | triple triple => exact DatatypeRange.ordered_examine triple
      | resource resource => exact .nothing _ _
  | cardinality =>
      cases focus with
      | triple triple => exact .nothing _ _
      | resource resource => exact Cardinality.ordered_examine resource cache

/-- What a check answers at a focus is in strictly increasing order, from every cache. -/
theorem findings_strictly_increasing (check : Check) (scene : Scene) (focus : Focus)
    (cache : TypeCache) :
    Increasing ((check.examine scene focus).run cache).1 ∧
      check.Ordered focus ((check.examine scene focus).run cache).1 := by
  have ordered := check.ordered_examine scene focus cache
  exact ⟨ordered.increasing, ordered⟩

end OntologyLint
