import Mathlib.Algebra.GroupWithZero.Nat
import Mathlib.Data.List.Nodup
import OntologyLint.Proofs.Violation.Order
import OntologyLint.Violation.Set

set_option autoImplicit false

/-! Violations told apart by kind. The order of violations ranks kinds first, so the kinds of a set cut
its list into sections that stand in the order of the kinds, and there is only one such cut. -/

namespace OntologyLint

/-- A cut of a list of violations into sections of one kind each, with the kinds in increasing order. No
section is empty, and end to end the sections are the list. -/
structure Sections (violations : List Violation)
    (sections : List (ViolationKind × List Violation)) : Prop where
  kinds : Increasing (sections.map Prod.fst)
  filled : ∀ part ∈ sections, part.2 ≠ []
  own : ∀ part ∈ sections, ∀ violation ∈ part.2, violation.kind = part.1
  whole : sections.flatMap Prod.snd = violations

namespace ViolationSet

variable {set : ViolationSet} {kind : ViolationKind} {violation : Violation}

theorem mem_ofKind : violation ∈ set.ofKind kind ↔ violation ∈ set ∧ violation.kind = kind := by
  rw [ofKind, List.mem_filter, decide_eq_true_iff]
  rfl

theorem mem_kinds : kind ∈ set.kinds ↔ ∃ violation ∈ set, violation.kind = kind :=
  SortedSet.mem_ofList.trans List.mem_map

/-- The violations of all kinds, kind after kind, are in increasing order. -/
theorem increasing_flatMap_ofKind (set : ViolationSet) :
    Increasing (set.kinds.toList.flatMap set.ofKind) := by
  apply List.pairwise_flatMap.2
  constructor
  · intro kind _present
    exact set.increasing.filter _
  · apply set.kinds.increasing.imp
    intro first second before one oneMember other otherMember
    apply Violation.lt_of_kind
    rw [(mem_ofKind.1 oneMember).2, (mem_ofKind.1 otherMember).2]
    exact before

theorem mem_flatMap_ofKind :
    violation ∈ set.kinds.toList.flatMap set.ofKind ↔ violation ∈ set := by
  rw [List.mem_flatMap]
  constructor
  · rintro ⟨kind, _present, member⟩
    exact (mem_ofKind.1 member).1
  · intro member
    exact ⟨violation.kind, mem_kinds.2 ⟨violation, member, rfl⟩, mem_ofKind.2 ⟨member, rfl⟩⟩

theorem flatMap_ofKind (set : ViolationSet) :
    set.kinds.toList.flatMap set.ofKind = set.toList :=
  SortedSet.eq_of_increasing set.increasing_flatMap_ofKind set.increasing
    (fun _ => mem_flatMap_ofKind)

def sections (set : ViolationSet) : List (ViolationKind × List Violation) :=
  set.kinds.toList.map (fun kind => (kind, set.ofKind kind))

theorem sections_cut (set : ViolationSet) : Sections set.toList set.sections where
  kinds := by
    rw [sections, List.map_map, show Prod.fst ∘ (fun kind => (kind, set.ofKind kind)) = id from rfl,
      List.map_id]
    exact set.kinds.increasing
  filled := by
    intro part listed empty
    obtain ⟨kind, present, rfl⟩ := List.mem_map.1 listed
    obtain ⟨violation, member, same⟩ := mem_kinds.1 present
    have inside : violation ∈ set.ofKind kind := mem_ofKind.2 ⟨member, same⟩
    rw [show set.ofKind kind = [] from empty] at inside
    cases inside
  own := by
    intro part listed violation member
    obtain ⟨kind, _present, rfl⟩ := List.mem_map.1 listed
    exact (mem_ofKind.1 member).2
  whole := by
    rw [sections, List.flatMap_map]
    exact set.flatMap_ofKind

end ViolationSet

namespace Sections

variable {set : ViolationSet} {violations : List Violation} {violation : Violation}
  {sections : List (ViolationKind × List Violation)} {part : ViolationKind × List Violation}

theorem exists_part (cut : Sections violations sections) (member : violation ∈ violations) :
    ∃ part ∈ sections, violation ∈ part.2 ∧ violation.kind = part.1 := by
  rw [← cut.whole] at member
  obtain ⟨part, listed, inside⟩ := List.mem_flatMap.1 member
  exact ⟨part, listed, inside, cut.own part listed violation inside⟩

theorem mem_whole (cut : Sections violations sections) (listed : part ∈ sections)
    (inside : violation ∈ part.2) : violation ∈ violations := by
  rw [← cut.whole]
  exact List.mem_flatMap.2 ⟨part, listed, inside⟩

/-- A section has all violations of its kind, since no other section has that kind. -/
theorem mem_part (cut : Sections violations sections) (listed : part ∈ sections) :
    violation ∈ part.2 ↔ violation ∈ violations ∧ violation.kind = part.1 := by
  constructor
  · intro inside
    exact ⟨cut.mem_whole listed inside, cut.own part listed violation inside⟩
  · rintro ⟨member, kind⟩
    obtain ⟨other, otherListed, inside, otherKind⟩ := cut.exists_part member
    have same : other = part := List.inj_on_of_nodup_map cut.kinds.nodup otherListed listed
      (otherKind.symm.trans kind)
    rw [← same]
    exact inside

theorem part_eq_ofKind (cut : Sections set.toList sections) (listed : part ∈ sections) :
    part.2 = set.ofKind part.1 := by
  have ordered : Increasing (sections.flatMap Prod.snd) := cut.whole ▸ set.increasing
  apply SortedSet.eq_of_increasing ((List.pairwise_flatMap.1 ordered).1 part listed)
    (set.increasing.filter _)
  intro violation
  rw [cut.mem_part listed]
  exact ViolationSet.mem_ofKind.symm

theorem kinds_eq (cut : Sections set.toList sections) :
    sections.map Prod.fst = set.kinds.toList := by
  apply SortedSet.eq_of_increasing cut.kinds set.kinds.increasing
  intro kind
  rw [SortedSet.mem_toList, ViolationSet.mem_kinds, List.mem_map]
  constructor
  · rintro ⟨part, listed, rfl⟩
    obtain ⟨violation, inside⟩ := List.exists_mem_of_ne_nil part.2 (cut.filled part listed)
    exact ⟨violation, (cut.mem_part listed).1 inside⟩
  · rintro ⟨violation, member, rfl⟩
    obtain ⟨part, listed, _inside, kind⟩ := cut.exists_part member
    exact ⟨part, listed, kind.symm⟩

theorem eq_sections (cut : Sections set.toList sections) : sections = set.sections := by
  rw [ViolationSet.sections, ← cut.kinds_eq, List.map_map]
  have each : ∀ part ∈ sections,
      id part = ((fun kind => (kind, set.ofKind kind)) ∘ Prod.fst) part := by
    intro part listed
    exact Prod.ext rfl (cut.part_eq_ofKind listed)
  rw [← List.map_congr_left each, List.map_id]

theorem sum_length (cut : Sections violations sections) :
    (sections.map (fun part => part.2.length)).sum = violations.length := by
  rw [← cut.whole, List.length_flatMap]

end Sections

end OntologyLint
