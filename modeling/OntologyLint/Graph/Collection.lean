import OntologyLint.Graph.Basic
import OntologyLint.Remainder

set_option autoImplicit false

/-! Collections, the linked lists of a graph. The walk strikes every cell it visits from the list of
cells that it may still enter, so it ends on every graph, circular or broken. -/

namespace OntologyLint

def pairsOf {α : Type} : List α → List (α × α)
  | [] => []
  | first :: rest => rest.map (fun second => (first, second)) ++ pairsOf rest

namespace View

/-- The members met from `cell` on, entering only cells that are still open. -/
def walkCollection (view : View) (unvisited : List Resource) (cell : Resource) : List Object :=
  if cell = .iri Rdf.nil then []
  else if _ : cell ∈ unvisited then
    match view.objectsOf cell Rdf.first with
    | [] => []
    | member :: _ =>
        match view.resourcesOf cell Rdf.rest with
        | [] => [member]
        | next :: _ => member :: walkCollection view (strike cell unvisited) next
  else []
termination_by unvisited.length
decreasing_by exact length_strike_lt (by assumption)

/-- The members of the collection that starts at `head`, in order. The walk ends at the empty
collection, at a cell without a first member, and where it would enter a cell twice. -/
def listMembers (view : View) (head : Resource) : List Object :=
  view.walkCollection (view.subjectsOf Rdf.first) head

/-- Every two classes declared disjoint, in the direction written: by one triple, or by their
places in a collection of classes that are all disjoint. -/
def disjointnessAssertions (view : View) : List (Resource × Resource) :=
  (view.withPredicate Owl.disjointWith).filterMap
      (fun triple => triple.object.resource?.map (fun other => (triple.subject, other))) ++
    (view.instancesOf Owl.allDisjointClasses).flatMap (fun group =>
      (view.resourcesOf group Owl.members).flatMap (fun head =>
        pairsOf ((view.listMembers head).filterMap Object.resource?)))

end View

end OntologyLint
