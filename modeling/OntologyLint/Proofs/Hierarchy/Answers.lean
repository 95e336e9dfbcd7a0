import OntologyLint.Check.Basic

set_option autoImplicit false

/-! What a question answers does not depend on what was asked before it. A question has an answer
when it gives that answer from every cache that agrees with the view, and leaves such a cache; the
questions of the checks are put together from a few that do. -/

namespace OntologyLint

/-- Every remembered type set is the one of the view. -/
def TypeCache.Agrees (view : View) (cache : TypeCache) : Prop :=
  ∀ resource types, cache.lookup? resource = some types → types = view.typesOf resource

namespace TypeCache

variable {view : View} {cache : TypeCache}

theorem empty_agrees : empty.Agrees view := by
  intro resource types recalled
  cases recalled

theorem lookup?_remember (resource other : Resource) (types : SortedSet Resource) (count : Nat) :
    { cache with entries := (resource, types) :: cache.entries, misses := count }.lookup? other =
      if resource = other then some types else cache.lookup? other := by
  unfold lookup?
  rw [List.find?_cons]
  by_cases same : resource = other
  · simp [same]
  · simp [same]

theorem Agrees.remember (agrees : cache.Agrees view) (resource : Resource) (count : Nat) :
    Agrees view { cache with
      entries := (resource, view.typesOf resource) :: cache.entries, misses := count } := by
  intro other types recalled
  rw [lookup?_remember] at recalled
  split at recalled
  · rename_i same
    cases recalled
    rw [same]
  · exact agrees other types recalled

end TypeCache

namespace Asking

variable {α β : Type} {view : View}

/-- The question has this answer, whatever was asked before. -/
def Answers (view : View) (ask : Asking α) (answer : α) : Prop :=
  ∀ cache : TypeCache, cache.Agrees view →
    ∃ after : TypeCache, after.Agrees view ∧ ask cache = (answer, after)

theorem answers_pure (answer : α) : Answers view (pure answer) answer :=
  fun cache agrees => ⟨cache, agrees, rfl⟩

theorem Answers.bind {ask : Asking α} {answer : α} {next : α → Asking β} {last : β}
    (first : Answers view ask answer) (second : Answers view (next answer) last) :
    Answers view (ask >>= next) last := by
  intro cache agrees
  obtain ⟨middle, middleAgrees, asked⟩ := first cache agrees
  obtain ⟨after, afterAgrees, answered⟩ := second middle middleAgrees
  refine ⟨after, afterAgrees, ?_⟩
  change (match ask cache with | (value, state) => next value state) = _
  rw [asked]
  exact answered

/-- Asked for types, the cache answers with those of the view. -/
theorem answers_askTypes (resource : Resource) :
    Answers view (view.askTypes resource) (view.typesOf resource) := by
  intro cache agrees
  unfold View.askTypes
  split
  · rename_i types recalled
    cases agrees resource types recalled
    exact ⟨{ cache with hits := cache.hits + 1 }, agrees, rfl⟩
  · exact ⟨_, agrees.remember resource (cache.misses + 1), rfl⟩

theorem answers_gather {ask : α → Asking (List β)} {answer : α → List β} {items : List α}
    (each : ∀ item ∈ items, Answers view (ask item) (answer item)) :
    Answers view (gather ask items) (items.flatMap answer) := by
  induction items with
  | nil => exact answers_pure []
  | cons head tail ih =>
      have rest := ih (fun item member => each item (List.mem_cons_of_mem _ member))
      exact (each head List.mem_cons_self).bind (rest.bind (answers_pure _))

theorem answers_countWhere {ask : α → Asking Bool} {answer : α → Bool} {items : List α}
    (each : ∀ item ∈ items, Answers view (ask item) (answer item)) :
    Answers view (countWhere ask items) (items.countP answer) := by
  induction items with
  | nil => exact answers_pure 0
  | cons head tail ih =>
      have rest := ih (fun item member => each item (List.mem_cons_of_mem _ member))
      have counted : (head :: tail).countP answer =
          if answer head then tail.countP answer + 1 else tail.countP answer := by
        cases accepted : answer head <;> simp [accepted]
      rw [counted]
      exact (each head List.mem_cons_self).bind (rest.bind (answers_pure _))

end Asking

end OntologyLint
