import Mathlib.Data.Finset.Card
import OntologyLint.Proofs.Hierarchy.Lookups

set_option autoImplicit false

/-! Questions put to one cache from its beginning. Each is answered as if it were the first, and its
number together with the resources asked for so far decides every counter. -/

namespace OntologyLint

/-- Asks for the types of some resources, one after the other, and reads the counters each time. -/
def View.askEach (view : View) (asked : List Resource) :
    Asking (List (SortedSet Resource × CacheCounts)) :=
  asked.mapM (fun resource => do
    let types ← view.askTypes resource
    let cache ← get
    pure (types, cache.counts))

namespace TypeCache

variable {view : View} {cache : TypeCache} {before : List Resource}

theorem askEach_cons (resource : Resource) (rest : List Resource) :
    view.askEach (resource :: rest) cache =
      (((view.askTypes resource cache).1, (view.askTypes resource cache).2.counts) ::
          (view.askEach rest (view.askTypes resource cache).2).1,
        (view.askEach rest (view.askTypes resource cache).2).2) := by
  unfold View.askEach
  rw [List.mapM_cons]
  rfl

theorem state_askEach (asked : List Resource) :
    (view.askEach asked cache).2 = cache.lookUp view asked := by
  induction asked generalizing cache with
  | nil => rfl
  | cons resource rest ih =>
      rw [askEach_cons]
      exact ih

theorem length_askEach (asked : List Resource) :
    (view.askEach asked cache).1.length = asked.length := by
  induction asked generalizing cache with
  | nil => rfl
  | cons resource rest ih =>
      rw [askEach_cons, List.length_cons, List.length_cons, ih]

theorem Agrees.step (agrees : cache.Agrees view) (resource : Resource) :
    (view.askTypes resource cache).1 = view.typesOf resource ∧
      (view.askTypes resource cache).2.Agrees view := by
  obtain ⟨after, afterAgrees, answered⟩ := Asking.answers_askTypes resource cache agrees
  rw [answered]
  exact ⟨rfl, afterAgrees⟩

theorem Agrees.lookUp (agrees : cache.Agrees view) (asked : List Resource) :
    (cache.lookUp view asked).Agrees view := by
  induction asked generalizing cache with
  | nil => exact agrees
  | cons resource rest ih => exact ih (agrees.step resource).2

/-- The run may start from any cache with a past, whose questions then count as well. -/
theorem getElem?_askEach (agrees : cache.Agrees view) (records : cache.Records before)
    {asked : List Resource} {index : Nat} {resource : Resource}
    (place : asked[index]? = some resource) :
    (view.askEach asked cache).1[index]? =
      some (view.typesOf resource, countsAfter (before ++ asked.take (index + 1))) := by
  induction asked generalizing cache before index with
  | nil => cases place
  | cons first rest ih =>
      obtain ⟨answered, stepAgrees⟩ := agrees.step first
      have stepRecords : (view.askTypes first cache).2.Records (before ++ [first]) :=
        records.step first
      rw [askEach_cons]
      cases index with
      | zero =>
          cases place
          rw [answered, stepRecords.counts_eq]
          rfl
      | succ index =>
          have later := ih stepAgrees stepRecords place
          rw [List.append_assoc] at later
          exact later

theorem lookup?_eq_ite (agrees : cache.Agrees view) (records : cache.Records before)
    (resource : Resource) :
    cache.lookup? resource = if resource ∈ before then some (view.typesOf resource) else none := by
  by_cases known : resource ∈ before
  · rw [if_pos known]
    cases recalled : cache.lookup? resource with
    | none => exact absurd ((records.known resource).2 known) (lookup?_eq_none.1 recalled)
    | some types => rw [agrees resource types recalled]
  · rw [if_neg known, lookup?_eq_none, records.known]
    exact known

theorem countsAfter_eq_card (asked : List Resource) :
    countsAfter asked =
      ⟨asked.toFinset.card, asked.length - asked.toFinset.card, asked.toFinset.card⟩ := by
  rw [List.card_toFinset, countsAfter]

end TypeCache

/-- From an empty cache, every question is answered as it would be by an empty cache, the questions
so far and the distinct resources among them are what the counters tell, the cache holds the classes
of exactly the resources that were asked for, and the order of the questions leaves no trace in the
counters. -/
theorem memory_is_transparent_and_counted (view : View) (asked : List Resource) :
    (view.askEach asked TypeCache.empty).1.length = asked.length ∧
    (∀ (index : Nat) (resource : Resource), asked[index]? = some resource →
      (view.askEach asked TypeCache.empty).1[index]? =
        some ((view.askTypes resource TypeCache.empty).1,
          ⟨(asked.take (index + 1)).toFinset.card,
            (index + 1) - (asked.take (index + 1)).toFinset.card,
            (asked.take (index + 1)).toFinset.card⟩)) ∧
    (∀ resource, (view.askEach asked TypeCache.empty).2.lookup? resource =
      if resource ∈ asked then some (view.typesOf resource) else none) ∧
    ∀ other, asked.Perm other →
      (view.askEach other TypeCache.empty).2.counts =
        (view.askEach asked TypeCache.empty).2.counts := by
  have agrees : TypeCache.empty.Agrees view := TypeCache.empty_agrees
  have records : TypeCache.empty.Records [] := TypeCache.records_empty
  refine ⟨TypeCache.length_askEach asked, ?_, ?_, ?_⟩
  · intro index resource place
    have within : index < asked.length := (List.getElem?_eq_some_iff.1 place).1
    rw [TypeCache.getElem?_askEach agrees records place, (agrees.step resource).1,
      List.nil_append, TypeCache.countsAfter_eq_card, List.length_take_of_le within]
  · rw [TypeCache.state_askEach]
    exact TypeCache.lookup?_eq_ite (agrees.lookUp asked) (records.lookUp asked)
  · intro other perm
    rw [TypeCache.state_askEach, TypeCache.state_askEach, TypeCache.counts_lookUp,
      TypeCache.counts_lookUp, TypeCache.countsAfter_eq_of_perm perm]

namespace Memory

def sampleView : View := ⟨[⟨.iri "rex", .iri Rdf.type, .resource (.iri "Dog")⟩]⟩

/-- The classes of the second resource are none, which is remembered as well. -/
def sampleAsked : List Resource := [.iri "rex", .iri "ann", .iri "rex"]

end Memory

open Memory in
theorem second_question_is_recalled :
    (sampleView.askEach sampleAsked TypeCache.empty).1[2]? =
        some ((sampleView.askTypes (.iri "rex") TypeCache.empty).1, ⟨2, 1, 2⟩) ∧
      (sampleView.askEach sampleAsked TypeCache.empty).2.lookup? (.iri "ann") =
        some (sampleView.typesOf (.iri "ann")) ∧
      (sampleView.askEach [.iri "ann", .iri "rex", .iri "rex"] TypeCache.empty).2.counts =
        (sampleView.askEach sampleAsked TypeCache.empty).2.counts := by
  obtain ⟨_length, answers, table, counts⟩ :=
    memory_is_transparent_and_counted sampleView sampleAsked
  have distinct : (sampleAsked.take (2 + 1)).toFinset.card = 2 := by decide
  have third := answers 2 (.iri "rex") rfl
  rw [distinct] at third
  have remembered := table (.iri "ann")
  rw [if_pos (by decide)] at remembered
  exact ⟨third, remembered, counts _ (.swap _ _ _)⟩

end OntologyLint
