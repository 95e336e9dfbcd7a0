import Mathlib.Logic.Basic
import OntologyLint.Proofs.Graph.Facts
import OntologyLint.Proofs.Graph.Walk

set_option autoImplicit false

/-! Collections cell by cell. Along a chain of cells a walk meets every member in order, and it ends
where the chain ends or runs back into itself. On any other triples it ends as well: a round that does
not end it enters a cell for the first time, and there are only so many cells with a member. -/

namespace OntologyLint

namespace View

/-- A cell with one member and one successor. -/
structure IsCell (view : View) (cell : Resource) (member : Object) (next : Resource) : Prop where
  member : ∀ object, ⟨cell, .iri Rdf.first, object⟩ ∈ view.triples ↔ object = member
  successor : ∀ other, ⟨cell, .iri Rdf.rest, .resource other⟩ ∈ view.triples ↔ other = next

/-- The cells, with their members, lead from one to the next and at last to a node. -/
inductive Chain (view : View) : Resource → List (Resource × Object) → Resource → Prop
  | nil (last : Resource) : Chain view last [] last
  | cons {cell next last : Resource} {member : Object} {cells : List (Resource × Object)}
      (first : view.IsCell cell member next) (rest : Chain view next cells last) :
      Chain view cell ((cell, member) :: cells) last

/-- A chain of different cells, none of them the empty collection. -/
structure Strand (view : View) (head : Resource) (cells : List (Resource × Object))
    (last : Resource) : Prop where
  chain : view.Chain head cells last
  distinct : (cells.map Prod.fst).Nodup
  inner : .iri Rdf.nil ∉ cells.map Prod.fst

variable {view : View} {unvisited : List Resource} {cell head last next : Resource}
  {cells : List (Resource × Object)} {member : Object}

theorem mem_subjectsOf_first :
    cell ∈ view.subjectsOf Rdf.first ↔ (view.objectsOf cell Rdf.first).head? ≠ none := by
  rw [mem_subjectsOf, Ne, List.head?_eq_none_iff, List.eq_nil_iff_forall_not_mem, not_forall_not]
  exact exists_congr fun _object => mem_objectsOf.symm

namespace IsCell

variable (isCell : view.IsCell cell member next)

include isCell

theorem head?_objectsOf : (view.objectsOf cell Rdf.first).head? = some member :=
  head?_eq_some_of_only (fun object => mem_objectsOf.trans (isCell.member object))

theorem head?_resourcesOf : (view.resourcesOf cell Rdf.rest).head? = some next :=
  head?_eq_some_of_only (fun other => mem_resourcesOf.trans (isCell.successor other))

theorem mem_subjectsOf : cell ∈ view.subjectsOf Rdf.first := by
  rw [mem_subjectsOf_first, isCell.head?_objectsOf]
  exact Option.some_ne_none member

end IsCell

theorem isCell_ofStatements {statements : List Statement}
    (first : ⟨cell, .iri Rdf.first, member⟩ ∈ statements.map Statement.triple)
    (rest : ⟨cell, .iri Rdf.rest, .resource next⟩ ∈ statements.map Statement.triple)
    (members : ∀ triple ∈ statements.map Statement.triple, triple.subject = cell →
      triple.predicate = .iri Rdf.first → triple.object = member)
    (successors : ∀ triple ∈ statements.map Statement.triple, triple.subject = cell →
      triple.predicate = .iri Rdf.rest → triple.object = .resource next) :
    (Graph.ofStatements statements).view.IsCell cell member next := by
  constructor
  · intro object
    rw [Graph.mem_view, Graph.mem_ofStatements_iff]
    constructor
    · intro listed
      exact members _ listed rfl rfl
    · intro same
      rw [same]
      exact first
  · intro other
    rw [Graph.mem_view, Graph.mem_ofStatements_iff]
    constructor
    · intro listed
      exact Object.resource.inj (successors _ listed rfl rfl)
    · intro same
      rw [same]
      exact rest

theorem Chain.mem_subjectsOf (chain : view.Chain head cells last) :
    ∀ cell ∈ cells.map Prod.fst, cell ∈ view.subjectsOf Rdf.first := by
  induction chain with
  | nil last => intro cell member; cases member
  | cons first rest ih =>
      intro cell member
      rcases List.mem_cons.1 member with here | later
      · rw [here]
        exact first.mem_subjectsOf
      · exact ih cell later

/-- A walk that may enter all cells of a strand meets all their members, if there is no way on at
the end: that is the empty collection, or closed, or one of the cells that were entered. -/
theorem Strand.walkCollection_eq (strand : view.Strand head cells last)
    (opened : ∀ cell ∈ cells.map Prod.fst, cell ∈ unvisited)
    (ends : last = .iri Rdf.nil ∨ last ∉ unvisited ∨ last ∈ cells.map Prod.fst) :
    view.walkCollection unvisited head = cells.map Prod.snd := by
  obtain ⟨chain, distinct, inner⟩ := strand
  induction chain generalizing unvisited with
  | nil last =>
      rw [walkCollection_eq_head]
      rcases ends with empty | closed | entered
      · rw [if_pos empty, List.map_nil]
      · rw [if_neg closed, ite_self, List.map_nil]
      · cases entered
  | @cons cell next last member cells first rest ih =>
      obtain ⟨fresh, restDistinct⟩ := List.nodup_cons.1 distinct
      obtain ⟨nonempty, restInner⟩ := not_or.1 (fun found => inner (List.mem_cons.2 found))
      have here : cell ∈ unvisited := opened cell List.mem_cons_self
      have still : ∀ other ∈ cells.map Prod.fst, other ∈ strike cell unvisited := by
        intro other later
        apply mem_strike.2
        refine ⟨opened other (List.mem_cons_of_mem _ later), ?_⟩
        intro same
        rw [same] at later
        exact fresh later
      have restEnds : last = .iri Rdf.nil ∨ last ∉ strike cell unvisited ∨
          last ∈ cells.map Prod.fst := by
        rcases ends with empty | closed | entered
        · exact Or.inl empty
        · exact Or.inr (Or.inl (fun left => closed (mem_strike.1 left).1))
        · rcases List.mem_cons.1 entered with same | later
          · exact Or.inr (Or.inl (fun left => (mem_strike.1 left).2 same))
          · exact Or.inr (Or.inr later)
      rw [walkCollection_eq_head, if_neg (Ne.symm nonempty), if_pos here, first.head?_objectsOf,
        first.head?_resourcesOf]
      exact congrArg (member :: ·) (ih still restEnds restDistinct restInner)

theorem Strand.listMembers_eq (strand : view.Strand head cells last)
    (ends : last = .iri Rdf.nil ∨ last ∈ cells.map Prod.fst) :
    view.listMembers head = cells.map Prod.snd := by
  apply strand.walkCollection_eq strand.chain.mem_subjectsOf
  rcases ends with empty | entered
  · exact Or.inl empty
  · exact Or.inr (Or.inr entered)

theorem Strand.head_mem (strand : view.Strand head cells last) (nonempty : cells ≠ []) :
    head ∈ cells.map Prod.fst := by
  cases strand.chain with
  | nil => exact absurd rfl nonempty
  | cons first rest => exact List.mem_cons_self

end View

end OntologyLint
