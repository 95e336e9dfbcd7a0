import Mathlib.Logic.Function.Iterate
import Mathlib.Logic.Relation
import OntologyLint.Hierarchy.Closure

set_option autoImplicit false

/-! A search ends, and it has then met exactly what steps lead to. A round moves one place from the
places in line to those that are expanded, whose steps lead to places that were met; when nobody is
left in line, no step leaves the places that were met. -/

namespace OntologyLint.Search

open Relation (ReflTransGen)

variable {α : Type} [DecidableEq α] {search : Search α} {places : List α} {other : α}

section Meet

theorem mem_visited_meet {place : α} :
    other ∈ (search.meet place).visited ↔ other = place ∨ other ∈ search.visited := by
  unfold meet
  split
  · rename_i known
    constructor
    · exact Or.inr
    · rintro (rfl | old)
      · exact known
      · exact old
  · exact List.mem_cons

theorem mem_worklist_meet {place : α} :
    other ∈ (search.meet place).worklist ↔
      other ∈ search.worklist ∨ (other = place ∧ other ∉ search.visited) := by
  unfold meet
  split
  · rename_i known
    constructor
    · exact Or.inl
    · rintro (old | ⟨rfl, fresh⟩)
      · exact old
      · exact absurd known fresh
  · rename_i fresh
    rw [List.mem_append, List.mem_singleton]
    refine or_congr_right ⟨?_, And.left⟩
    rintro rfl
    exact ⟨rfl, fresh⟩

theorem mem_visited_meetAll :
    other ∈ (search.meetAll places).visited ↔ other ∈ places ∨ other ∈ search.visited := by
  induction places generalizing search with
  | nil => simp [meetAll]
  | cons head tail ih =>
      have later := @ih (search.meet head)
      rw [mem_visited_meet] at later
      refine Iff.trans later ?_
      rw [List.mem_cons, or_left_comm, or_assoc]

theorem mem_worklist_meetAll :
    other ∈ (search.meetAll places).worklist ↔
      other ∈ search.worklist ∨ (other ∈ places ∧ other ∉ search.visited) := by
  induction places generalizing search with
  | nil => simp [meetAll]
  | cons head tail ih =>
      have later := @ih (search.meet head)
      rw [mem_worklist_meet, mem_visited_meet] at later
      refine Iff.trans later ?_
      rw [List.mem_cons]
      by_cases same : other = head
      · simp [same]
      · simp [same]

theorem nodup_meetAll (distinct : search.visited.Nodup) :
    (search.meetAll places).visited.Nodup := by
  induction places generalizing search with
  | nil => exact distinct
  | cons head tail ih =>
      apply ih
      unfold meet
      split
      · exact distinct
      · rename_i fresh
        exact List.nodup_cons.2 ⟨fresh, distinct⟩

theorem length_meetAll :
    (search.meetAll places).visited.length + search.worklist.length =
      search.visited.length + (search.meetAll places).worklist.length := by
  induction places generalizing search with
  | nil => rfl
  | cons head tail ih =>
      have later := @ih (search.meet head)
      have joined : (search.meet head).visited.length + search.worklist.length =
          search.visited.length + (search.meet head).worklist.length := by
        unfold meet
        split
        · rfl
        · rw [List.length_cons, List.length_append, List.length_singleton]
          omega
      change ((search.meet head).meetAll tail).visited.length + search.worklist.length =
        search.visited.length + ((search.meet head).meetAll tail).worklist.length
      omega

end Meet

section Rounds

variable {steps : α → List α} {within : ∀ place, ∀ next ∈ steps place, next ∈ places}

/-- What holds between the rounds of a search from the given starts. -/
structure Sound (steps : α → List α) (starts : List α) (search : Search α) : Prop where
  distinct : search.visited.Nodup
  waiting : ∀ place ∈ search.worklist, place ∈ search.visited
  started : ∀ start ∈ starts, start ∈ search.visited
  reached : ∀ place ∈ search.visited,
    ∃ start ∈ starts, ReflTransGen (fun a b => b ∈ steps a) start place
  expanded : ∀ place ∈ search.visited,
    place ∈ search.worklist ∨ ∀ next ∈ steps place, next ∈ search.visited

variable {starts : List α}

theorem sound_begin (steps : α → List α) (starts : List α) :
    Sound steps starts (meetAll {} starts) := by
  have met (place : α) : place ∈ (meetAll {} starts).visited ↔ place ∈ starts := by
    simp [mem_visited_meetAll]
  have listed (place : α) : place ∈ (meetAll {} starts).worklist ↔ place ∈ starts := by
    simp [mem_worklist_meetAll]
  constructor
  · exact nodup_meetAll List.nodup_nil
  · intro place member
    exact (met place).2 ((listed place).1 member)
  · intro start member
    exact (met start).2 member
  · intro place member
    exact ⟨place, (met place).1 member, .refl⟩
  · intro place member
    exact Or.inl ((listed place).2 ((met place).1 member))

theorem Sound.round (sound : Sound steps starts search) :
    Sound steps starts (search.round steps) := by
  obtain ⟨visited, worklist⟩ := search
  cases worklist with
  | nil => exact sound
  | cons place rest =>
      have met (other : α) : other ∈ (round steps ⟨visited, place :: rest⟩).visited ↔
          other ∈ steps place ∨ other ∈ visited := mem_visited_meetAll
      have listed (other : α) : other ∈ (round steps ⟨visited, place :: rest⟩).worklist ↔
          other ∈ rest ∨ (other ∈ steps place ∧ other ∉ visited) := mem_worklist_meetAll
      have place_met : place ∈ visited := sound.waiting place List.mem_cons_self
      constructor
      · exact nodup_meetAll sound.distinct
      · intro other member
        rcases (listed other).1 member with old | ⟨step, _fresh⟩
        · exact (met other).2 (Or.inr (sound.waiting other (List.mem_cons_of_mem _ old)))
        · exact (met other).2 (Or.inl step)
      · intro start member
        exact (met start).2 (Or.inr (sound.started start member))
      · intro other member
        rcases (met other).1 member with step | old
        · obtain ⟨start, starts_mem, path⟩ := sound.reached place place_met
          exact ⟨start, starts_mem, path.tail step⟩
        · exact sound.reached other old
      · intro other member
        by_cases old : other ∈ visited
        · rcases sound.expanded other old with inLine | expanded
          · rcases List.mem_cons.1 inLine with rfl | later
            -- The place that leaves the line is expanded: this round met all that it steps to.
            · exact Or.inr (fun next step => (met next).2 (Or.inl step))
            · exact Or.inl ((listed other).2 (Or.inl later))
          · exact Or.inr (fun next step => (met next).2 (Or.inr (expanded next step)))
        · have step := ((met other).1 member).resolve_right old
          exact Or.inl ((listed other).2 (Or.inr ⟨step, old⟩))

theorem Sound.run (sound : Sound steps starts search) :
    Sound steps starts (search.run steps places within) := by
  fun_induction Search.run steps places within search with
  | case1 search done => exact sound
  | case2 search waiting ih => exact ih sound.round

theorem worklist_run : (search.run steps places within).worklist = [] := by
  fun_induction Search.run steps places within search with
  | case1 search done => exact done
  | case2 search waiting ih => exact ih

theorem length_round (waiting : search.worklist ≠ []) :
    (search.round steps).visited.length + search.worklist.length =
      search.visited.length + (search.round steps).worklist.length + 1 := by
  obtain ⟨visited, worklist⟩ := search
  cases worklist with
  | nil => exact absurd rfl waiting
  | cons place rest =>
      have joined := @length_meetAll α _ ⟨visited, rest⟩ (steps place)
      change (meetAll ⟨visited, rest⟩ (steps place)).visited.length + (rest.length + 1) =
        visited.length + (meetAll ⟨visited, rest⟩ (steps place)).worklist.length + 1
      change (meetAll ⟨visited, rest⟩ (steps place)).visited.length + rest.length =
        visited.length + (meetAll ⟨visited, rest⟩ (steps place)).worklist.length at joined
      omega

/-- A search takes one round for each place in line and for each place that it still meets. -/
theorem run_eq_rounds : ∃ rounds, search.run steps places within = (round steps)^[rounds] search ∧
    rounds + search.visited.length =
      (search.run steps places within).visited.length + search.worklist.length := by
  fun_induction Search.run steps places within search with
  | case1 search done =>
      refine ⟨0, rfl, ?_⟩
      rw [done, List.length_nil]
      omega
  | case2 search waiting ih =>
      obtain ⟨rounds, same, count⟩ := ih
      have one := @length_round _ _ search steps waiting
      refine ⟨rounds + 1, ?_, by omega⟩
      rw [Function.iterate_succ_apply]
      exact same

/-- A search from its beginning expands each place that it meets exactly once. -/
theorem run_eq_rounds_visited (starts : List α) :
    (meetAll {} starts).run steps places within =
      (round steps)^[((meetAll {} starts).run steps places within).visited.length]
        (meetAll {} starts) := by
  obtain ⟨rounds, same, count⟩ := @run_eq_rounds _ _ (meetAll {} starts) places steps within
  have joined := @length_meetAll α _ {} starts
  have exactly : rounds = ((meetAll {} starts).run steps places within).visited.length := by
    change (meetAll {} starts).visited.length + 0 = 0 + (meetAll {} starts).worklist.length at joined
    omega
  rw [← exactly]
  exact same

theorem mem_run_iff :
    other ∈ ((meetAll {} starts).run steps places within).visited ↔
      ∃ start ∈ starts, ReflTransGen (fun a b => b ∈ steps a) start other := by
  have sound : Sound steps starts ((meetAll {} starts).run steps places within) :=
    (sound_begin steps starts).run
  constructor
  · exact sound.reached other
  · rintro ⟨start, member, path⟩
    induction path with
    | refl => exact sound.started start member
    | @tail place next _path step ih =>
        -- Nobody is left in line, so each place on the path was expanded.
        rcases sound.expanded place ih with inLine | expanded
        · rw [worklist_run] at inLine
          cases inLine
        · exact expanded next step

end Rounds

end OntologyLint.Search
