import Mathlib.Data.List.Perm.Basic
import OntologyLint.Proofs.Graph.Agreement

set_option autoImplicit false

/-! Views that list the same triples in different orders. Every question has the same answers in
both, in some order, and the types of a resource are the same set. What comes first among several
answers is the same only where there are no several answers. -/

namespace OntologyLint

theorem eq_of_perm_of_same {α : Type} {items others : List α} (perm : items.Perm others)
    (distinct : items.Nodup) (same : ∀ a ∈ items, ∀ b ∈ items, a = b) : others = items := by
  match items, distinct with
  | [], _ => exact perm.symm.eq_nil
  | [_], _ => exact List.perm_singleton.1 perm.symm
  | first :: second :: rest, distinct =>
      have fresh : first ∉ second :: rest := (List.nodup_cons.1 distinct).1
      have equal : first = second := same first (by simp) second (by simp)
      rw [equal] at fresh
      exact absurd List.mem_cons_self fresh

open OntologyLint.Graph (choosingPredicates)

namespace View

def Rearranges (one other : View) : Prop := one.triples.Perm other.triples

namespace Rearranges

variable {one other : View} (same : one.Rearranges other) (subject : Resource) (predicate : String)

include same

theorem withPredicate : (one.withPredicate predicate).Perm (other.withPredicate predicate) :=
  List.Perm.filter _ same

theorem objectsOf : (one.objectsOf subject predicate).Perm (other.objectsOf subject predicate) :=
  ((same.withPredicate predicate).filter _).map _

theorem resourcesOf :
    (one.resourcesOf subject predicate).Perm (other.resourcesOf subject predicate) :=
  (same.objectsOf subject predicate).filterMap _

theorem subjectsWith (object : Resource) :
    (one.subjectsWith predicate object).Perm (other.subjectsWith predicate object) :=
  ((same.withPredicate predicate).filter _).map _

theorem without (triple : Triple) : (one.without triple).Rearranges (other.without triple) :=
  List.Perm.filter _ same

theorem sameTriples : one.SameTriples other := fun _triple => List.Perm.mem_iff same

theorem typesOf (resource : Resource) : one.typesOf resource = other.typesOf resource := by
  ext type
  rw [mem_typesOf, mem_typesOf]
  exact InstanceOf.congr (fun _predicate _known _subject _object => List.Perm.mem_iff same)

/-- Collections aside, disjoint classes are told by triples alone. -/
theorem disjointnessAssertions (chooses : one.ChoosesAs other) :
    one.disjointnessAssertions.Perm other.disjointnessAssertions := by
  refine List.Perm.append ((same.withPredicate Owl.disjointWith).filterMap _) ?_
  refine ((same.subjectsWith Rdf.type _).flatMap_right _).trans (List.Perm.flatMap_left _ ?_)
  intro group _listed
  rw [chooses.members]
  exact (same.resourcesOf group Owl.members).flatMap_right _

end Rearranges

variable {graph : Graph} {other : View}

theorem resourcesOf_eq_of_leadsToOne (same : graph.view.Rearranges other) {predicate : String}
    (unique : graph.LeadsToOne predicate) (subject : Resource) :
    other.resourcesOf subject predicate = graph.view.resourcesOf subject predicate := by
  refine eq_of_perm_of_same (same.resourcesOf subject predicate) increasing_resourcesOf.nodup ?_
  intro a first b second
  exact unique subject a b (mem_resourcesOf.1 first) (mem_resourcesOf.1 second)

/-- In a determinate graph there is nothing to choose. -/
theorem choosesAs_of_determinate (determinate : graph.Determinate)
    (same : graph.view.Rearranges other) : graph.view.ChoosesAs other where
  members := funext fun head =>
    (same.sameTriples.symm.listMembers_eq determinate.unbranched head).symm
  qualifiers := by
    funext node
    rw [qualifierOf?, qualifierOf?, resourcesOf_eq_of_leadsToOne same determinate.classQualifier,
      resourcesOf_eq_of_leadsToOne same determinate.datatypeQualifier]

/-- Listings of a graph and of the same graph with one more statement make the same choices if all but
the statement is listed alike, or if there is nothing to choose. -/
theorem choosesAs_insert {one : View} {statement : Statement}
    (listed : graph.view.Rearranges one) (relisted : (graph.insert statement).view.Rearranges other)
    (unchosen : statement.predicate ∉ choosingPredicates)
    (alike : one.AgreesBut statement.triple other ∨ graph.Determinate) : one.ChoosesAs other := by
  rcases alike with agrees | determinate
  · exact choosesAs_of_agreesOn (agrees.agreesOn_of_not_mem unchosen)
  · have added : graph.view.ChoosesAs (graph.insert statement).view :=
      choosesAs_of_agreesOn (fun predicate known =>
        (Graph.agreesOn_insert_of_not_mem graph unchosen predicate known).view)
    have before := choosesAs_of_determinate determinate listed
    have after := choosesAs_of_determinate (determinate.insert unchosen) relisted
    exact before.symm.trans (added.trans after)

end View

end OntologyLint
