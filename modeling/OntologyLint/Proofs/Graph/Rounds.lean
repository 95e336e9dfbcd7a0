import Mathlib.Data.Finset.Card
import Mathlib.Logic.Function.Iterate
import OntologyLint.Proofs.Graph.Chain

set_option autoImplicit false

/-! A walk along a collection round by round. It remembers the cells that it has visited and stops at
the first one that it meets again. Every round that does not end the walk visits another cell with a
member, and there are only so many of those; so the walk ends, whatever the triples are. -/

namespace OntologyLint

theorem card_strike {unvisited : List Resource} {cell : Resource} (found : cell ∈ unvisited) :
    (strike cell unvisited).toFinset.card + 1 = unvisited.toFinset.card := by
  have erased : (strike cell unvisited).toFinset = unvisited.toFinset.erase cell := by
    ext other
    rw [List.mem_toFinset, mem_strike, Finset.mem_erase, List.mem_toFinset, and_comm]
  rw [erased]
  exact Finset.card_erase_add_one (List.mem_toFinset.2 found)

/-- A walk under way: the cells visited, the last one first, the members met, in order, and the cell
to go on with. -/
structure Walk where
  visited : List Resource
  members : List Object
  next? : Option Resource

namespace Walk

def start (head : Resource) : Walk := ⟨[], [], some head⟩

/-- Takes the first member of a cell, and its first successor unless the cell has no member. -/
def visit (view : View) (cell : Resource) (walk : Walk) : Walk :=
  let member? := (view.objectsOf cell Rdf.first).head?
  { visited := cell :: walk.visited
    members := walk.members ++ member?.toList
    next? := member?.bind (fun _ => (view.resourcesOf cell Rdf.rest).head?) }

def round (view : View) (walk : Walk) : Walk :=
  match walk.next? with
  | none => walk
  | some cell =>
      if cell = .iri Rdf.nil ∨ cell ∈ walk.visited then { walk with next? := none }
      else walk.visit view cell

/-- No cell was visited twice, and the members met are those of the cells visited. -/
structure Sound (view : View) (walk : Walk) : Prop where
  distinct : walk.visited.Nodup
  inner : .iri Rdf.nil ∉ walk.visited
  met : walk.members =
    walk.visited.reverse.filterMap (fun cell => (view.objectsOf cell Rdf.first).head?)

/-- The walk may still visit exactly these cells and meet a member there. -/
def Leaves (view : View) (walk : Walk) (unvisited : List Resource) : Prop :=
  ∀ cell, cell ∈ unvisited ↔ cell ∈ view.subjectsOf Rdf.first ∧ cell ∉ walk.visited

variable {view : View} {walk : Walk} {cell : Resource} {member : Object}
  {unvisited : List Resource}

theorem sound_start (head : Resource) : (start head).Sound view :=
  ⟨List.nodup_nil, List.not_mem_nil, rfl⟩

theorem leaves_start (head : Resource) : (start head).Leaves view (view.subjectsOf Rdf.first) := by
  intro cell
  exact (and_iff_left List.not_mem_nil).symm

theorem Sound.visit (sound : walk.Sound view) (nonempty : cell ≠ .iri Rdf.nil)
    (fresh : cell ∉ walk.visited) : (walk.visit view cell).Sound view := by
  constructor
  · exact List.nodup_cons.2 ⟨fresh, sound.distinct⟩
  · exact List.not_mem_cons_of_ne_of_not_mem (Ne.symm nonempty) sound.inner
  · unfold Walk.visit
    rw [List.reverse_cons, List.filterMap_append, ← sound.met]
    rfl

theorem Sound.round (sound : walk.Sound view) : (walk.round view).Sound view := by
  unfold Walk.round
  split
  · exact sound
  · rename_i cell next
    split
    · exact ⟨sound.distinct, sound.inner, sound.met⟩
    · rename_i goesOn
      obtain ⟨nonempty, fresh⟩ := not_or.1 goesOn
      exact sound.visit nonempty fresh

theorem Sound.rounds (sound : walk.Sound view) (rounds : Nat) :
    ((Walk.round view)^[rounds] walk).Sound view := by
  induction rounds with
  | zero => exact sound
  | succ rounds ih =>
      rw [Function.iterate_succ_apply']
      exact ih.round

theorem round_of_open (next : walk.next? = some cell) (nonempty : cell ≠ .iri Rdf.nil)
    (fresh : cell ∉ walk.visited) : walk.round view = walk.visit view cell := by
  rw [round, next]
  exact if_neg (not_or.2 ⟨nonempty, fresh⟩)

/-- A walk that one round ends stays as it is in the rounds after that. -/
theorem rounds_of_ended (ended : (walk.round view).next? = none) (rounds : Nat) :
    (round view)^[rounds + 1] walk = walk.round view := by
  rw [Function.iterate_succ_apply]
  apply Function.iterate_fixed
  rw [round, ended]

theorem rounds_of_closed (next : walk.next? = some cell)
    (closed : cell = .iri Rdf.nil ∨ cell ∈ walk.visited) (rounds : Nat) :
    (round view)^[rounds + 1] walk = { walk with next? := none } := by
  have stopped : walk.round view = { walk with next? := none } := by
    rw [round, next]
    exact if_pos closed
  rw [rounds_of_ended (by rw [stopped]), stopped]

theorem rounds_of_last (next : walk.next? = some cell) (nonempty : cell ≠ .iri Rdf.nil)
    (fresh : cell ∉ walk.visited) (last : (walk.visit view cell).next? = none) (rounds : Nat) :
    (round view)^[rounds + 1] walk = walk.visit view cell := by
  have opened : walk.round view = walk.visit view cell := round_of_open next nonempty fresh
  rw [← opened] at last
  rw [rounds_of_ended last, opened]

/-- Striking a cell off is what a visit does to the cells that are left. -/
theorem Leaves.visit (leaves : walk.Leaves view unvisited) :
    (walk.visit view cell).Leaves view (strike cell unvisited) := by
  intro other
  rw [mem_strike, leaves other, and_assoc]
  refine and_congr_right fun _listed => ?_
  exact (and_comm.trans not_or.symm).trans (not_congr List.mem_cons).symm

/-- A round for each cell that is left and one more end the walk, with the members that the walk over
unvisited cells meets. -/
theorem rounds_eq (leaves : walk.Leaves view unvisited) (next : walk.next? = some cell) :
    ((round view)^[unvisited.toFinset.card + 1] walk).next? = none ∧
      ((round view)^[unvisited.toFinset.card + 1] walk).members =
        walk.members ++ view.walkCollection unvisited cell := by
  fun_induction View.walkCollection view unvisited cell generalizing walk with
  | case1 unvisited =>
      rw [rounds_of_closed next (Or.inl rfl)]
      exact ⟨rfl, (List.append_nil walk.members).symm⟩
  | case2 unvisited cell inner fresh empty =>
      have visited : walk.visit view cell = ⟨cell :: walk.visited, walk.members ++ [], none⟩ := by
        rw [visit, empty]
        rfl
      rw [rounds_of_last next inner ((leaves cell).1 fresh).2 (by rw [visited]), visited]
      exact ⟨rfl, rfl⟩
  | case3 unvisited cell inner fresh member others listed last =>
      have visited : walk.visit view cell =
          ⟨cell :: walk.visited, walk.members ++ [member], none⟩ := by
        rw [visit, listed, last]
        rfl
      rw [rounds_of_last next inner ((leaves cell).1 fresh).2 (by rw [visited]), visited]
      exact ⟨rfl, rfl⟩
  | case4 unvisited cell inner fresh member others listed following branches continued ih =>
      have visited : walk.visit view cell =
          ⟨cell :: walk.visited, walk.members ++ [member], some following⟩ := by
        rw [visit, listed, continued]
        rfl
      have later := ih leaves.visit (by rw [visited])
      rw [card_strike fresh] at later
      rw [Function.iterate_succ_apply, round_of_open next inner ((leaves cell).1 fresh).2]
      refine ⟨later.1, later.2.trans ?_⟩
      rw [visited, List.append_assoc]
      rfl
  | case5 unvisited cell inner closed =>
      -- The cell was visited before, or it has no member and ends the walk when it is visited.
      by_cases again : cell ∈ walk.visited
      · rw [rounds_of_closed next (Or.inr again)]
        exact ⟨rfl, (List.append_nil walk.members).symm⟩
      · have empty : (view.objectsOf cell Rdf.first).head? = none := by
          by_contra found
          exact closed ((leaves cell).2 ⟨View.mem_subjectsOf_first.2 found, again⟩)
        have visited : walk.visit view cell =
            ⟨cell :: walk.visited, walk.members ++ [], none⟩ := by
          rw [visit, empty]
          rfl
        rw [rounds_of_last next inner again (by rw [visited]), visited]
        exact ⟨rfl, rfl⟩

end Walk

namespace View

variable {view : View}

/-- The walk along the collection that starts at `head`, after some rounds. -/
def walkFrom (view : View) (head : Resource) (rounds : Nat) : Walk :=
  (Walk.round view)^[rounds] (Walk.start head)

theorem sound_walkFrom (head : Resource) (rounds : Nat) : (view.walkFrom head rounds).Sound view :=
  (Walk.sound_start head).rounds rounds

/-- The walk ends with the members of the collection. -/
theorem walkFrom_ended (view : View) (head : Resource) :
    (view.walkFrom head ((view.subjectsOf Rdf.first).toFinset.card + 1)).next? = none ∧
      (view.walkFrom head ((view.subjectsOf Rdf.first).toFinset.card + 1)).members =
        view.listMembers head :=
  Walk.rounds_eq (Walk.leaves_start head) rfl

theorem length_walkCollection_le (unvisited : List Resource) (cell : Resource) :
    (view.walkCollection unvisited cell).length ≤ unvisited.toFinset.card := by
  fun_induction View.walkCollection view unvisited cell with
  | case1 unvisited => exact Nat.zero_le _
  | case2 unvisited cell inner fresh empty => exact Nat.zero_le _
  | case3 unvisited cell inner fresh member others listed last =>
      exact Finset.card_pos.2 ⟨cell, List.mem_toFinset.2 fresh⟩
  | case4 unvisited cell inner fresh member others listed following branches continued ih =>
      rw [← card_strike fresh]
      exact Nat.succ_le_succ ih
  | case5 unvisited cell inner closed => exact Nat.zero_le _

theorem length_listMembers_le (head : Resource) :
    (view.listMembers head).length ≤ (view.subjectsOf Rdf.first).toFinset.card :=
  length_walkCollection_le (view.subjectsOf Rdf.first) head

end View

end OntologyLint
