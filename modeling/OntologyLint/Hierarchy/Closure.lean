import OntologyLint.Graph.Basic
import OntologyLint.Remainder

set_option autoImplicit false

/-! The classes of a resource: its asserted types and all that subclass edges lead to from them. The
search lists a class when it first meets it and expands it once, so it ends on hierarchies with
cycles too. -/

namespace OntologyLint

/-- How far a search has come: the places that it has met, and those of them that wait to be
expanded, the first in line first. -/
structure Search (α : Type) where
  visited : List α := []
  worklist : List α := []

namespace Search

variable {α : Type} [DecidableEq α]

def meet (search : Search α) (place : α) : Search α :=
  if place ∈ search.visited then search
  else ⟨place :: search.visited, search.worklist ++ [place]⟩

def meetAll (search : Search α) (places : List α) : Search α := places.foldl meet search

/-- Expands the place that is first in line. -/
def round (steps : α → List α) (search : Search α) : Search α :=
  match search.worklist with
  | [] => search
  | place :: rest => meetAll ⟨search.visited, rest⟩ (steps place)

def unmet (places : List α) (search : Search α) : List α :=
  places.filter (fun place => place ∉ search.visited)

def budget (places : List α) (search : Search α) : Nat :=
  (search.unmet places).length + search.worklist.length

theorem unmet_visit (places rest : List α) (search : Search α) (place : α) :
    unmet places ⟨place :: search.visited, rest⟩ = strike place (search.unmet places) := by
  simp only [unmet, strike, List.filter_filter, List.mem_cons, not_or, Bool.decide_and]

theorem budget_meet_le {places : List α} (search : Search α) {place : α} (member : place ∈ places) :
    (search.meet place).budget places ≤ search.budget places := by
  unfold meet
  split
  · exact Nat.le_refl _
  · rename_i fresh
    have still : place ∈ search.unmet places := List.mem_filter.2 ⟨member, decide_eq_true fresh⟩
    have fewer := length_strike_lt still
    rw [budget, budget, unmet_visit, List.length_append, List.length_singleton]
    omega

theorem budget_meetAll_le {places : List α} (search : Search α) {met : List α}
    (members : ∀ place ∈ met, place ∈ places) :
    (search.meetAll met).budget places ≤ search.budget places := by
  induction met generalizing search with
  | nil => exact Nat.le_refl _
  | cons head tail ih =>
      have later := ih (search.meet head) (fun place member =>
        members place (List.mem_cons_of_mem _ member))
      exact Nat.le_trans later (search.budget_meet_le (members head List.mem_cons_self))

theorem budget_round_lt {steps : α → List α} {places : List α} {search : Search α}
    (within : ∀ place, ∀ next ∈ steps place, next ∈ places) (waiting : search.worklist ≠ []) :
    (search.round steps).budget places < search.budget places := by
  obtain ⟨visited, worklist⟩ := search
  cases worklist with
  | nil => exact absurd rfl waiting
  | cons place rest =>
      have bounded := budget_meetAll_le ⟨visited, rest⟩ (within place)
      refine Nat.lt_of_le_of_lt bounded ?_
      exact Nat.add_lt_add_left (Nat.lt_succ_self rest.length) _

/-- Makes rounds until no place waits. The steps stay within the given places, so a round that
meets nothing new shortens the worklist and any other uses up places. -/
def run (steps : α → List α) (places : List α)
    (within : ∀ place, ∀ next ∈ steps place, next ∈ places) (search : Search α) : Search α :=
  if search.worklist = [] then search else run steps places within (search.round steps)
termination_by search.budget places
decreasing_by exact budget_round_lt within (by assumption)

end Search

namespace View

def resources (view : View) : List Resource :=
  view.triples.flatMap (fun triple => triple.subject :: triple.object.resource?.toList)

theorem subject_mem_resources {view : View} {triple : Triple} (member : triple ∈ view.triples) :
    triple.subject ∈ view.resources :=
  List.mem_flatMap.2 ⟨triple, member, List.mem_cons_self⟩

theorem object_mem_resources {view : View} {subject predicate object : Resource}
    (member : ⟨subject, predicate, .resource object⟩ ∈ view.triples) :
    object ∈ view.resources :=
  List.mem_flatMap.2 ⟨_, member, List.mem_cons_of_mem _ (by simp [Object.resource?])⟩

theorem superclass_mem_resources {view : View} (type : Resource) :
    ∀ parent ∈ view.superclasses type, parent ∈ view.resources := by
  intro parent step
  rw [superclasses, List.mem_append, List.mem_append, mem_resourcesOf, mem_resourcesOf,
    mem_subjectsWith] at step
  rcases step with (below | same) | same
  · exact object_mem_resources below
  · exact object_mem_resources same
  · exact subject_mem_resources same

def typeSearch (view : View) (resource : Resource) : Search Resource :=
  Search.meetAll {} (view.assertedTypes resource)

/-- All classes that a resource is an instance of. A resource without an asserted type has none. -/
def typesOf (view : View) (resource : Resource) : SortedSet Resource :=
  SortedSet.ofList
    ((view.typeSearch resource).run view.superclasses view.resources
      superclass_mem_resources).visited

end View

end OntologyLint
