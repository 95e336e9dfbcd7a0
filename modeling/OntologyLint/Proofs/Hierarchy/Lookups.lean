import Mathlib.Data.List.Dedup
import OntologyLint.Proofs.Hierarchy.Answers

set_option autoImplicit false

/-! What questions leave behind in a cache. Its entries are the resources that were looked up, each
of them once, and its counters part the first lookups from the later ones. So caches that were asked
for the same resources count alike, whatever came first. -/

namespace OntologyLint

namespace TypeCache

variable {view : View} {cache : TypeCache} {asked more : List Resource}

def keys (cache : TypeCache) : List Resource := cache.entries.map Prod.fst

def lookUp (view : View) (cache : TypeCache) (asked : List Resource) : TypeCache :=
  asked.foldl (fun cache resource => (view.askTypes resource cache).2) cache

theorem lookUp_append :
    cache.lookUp view (asked ++ more) = (cache.lookUp view asked).lookUp view more :=
  List.foldl_append

theorem lookup?_eq_none {resource : Resource} :
    cache.lookup? resource = none ↔ resource ∉ cache.keys := by
  rw [lookup?, Option.map_eq_none_iff, List.find?_eq_none, keys, List.mem_map]
  constructor
  · rintro missing ⟨entry, member, same⟩
    exact missing entry member (decide_eq_true same)
  · intro fresh entry member same
    exact fresh ⟨entry, member, of_decide_eq_true same⟩

/-- What holds of a cache that was empty once and has been asked for these resources since. -/
structure Records (cache : TypeCache) (asked : List Resource) : Prop where
  distinct : cache.keys.Nodup
  known : ∀ resource, resource ∈ cache.keys ↔ resource ∈ asked
  missed : cache.misses = cache.entries.length
  total : cache.hits + cache.misses = asked.length

theorem records_empty : empty.Records [] where
  distinct := List.nodup_nil
  known := fun _ => Iff.rfl
  missed := rfl
  total := rfl

theorem Records.step (records : cache.Records asked) (resource : Resource) :
    ((view.askTypes resource cache).2).Records (asked ++ [resource]) := by
  unfold View.askTypes
  split
  · -- A recalled resource is a key already, so the keys stay and only the hits grow.
    rename_i types recalled
    have old : resource ∈ cache.keys := by
      by_contra fresh
      rw [lookup?_eq_none.2 fresh] at recalled
      cases recalled
    refine ⟨records.distinct, ?_, records.missed, ?_⟩
    · intro other
      have before := records.known other
      have asked_before := (records.known resource).1 old
      rw [List.mem_append, List.mem_singleton]
      constructor
      · intro key
        exact Or.inl (before.1 key)
      · rintro (listed | rfl)
        · exact before.2 listed
        · exact old
    · have total := records.total
      simp only [List.length_append, List.length_singleton]
      omega
  · -- A missed resource becomes a key, and the misses grow along with the entries.
    rename_i missing
    have fresh : resource ∉ cache.keys := lookup?_eq_none.1 missing
    refine ⟨List.nodup_cons.2 ⟨fresh, records.distinct⟩, ?_, ?_, ?_⟩
    · intro other
      have before := records.known other
      have keys_cons : other ∈ resource :: cache.keys ↔ other ∈ asked ++ [resource] := by
        rw [List.mem_cons, List.mem_append, List.mem_singleton, before]
        exact or_comm
      exact keys_cons
    · have missed := records.missed
      simp only [List.length_cons]
      omega
    · have total := records.total
      simp only [List.length_append, List.length_singleton]
      omega

theorem Records.lookUp {before : List Resource} (records : cache.Records before)
    (asked : List Resource) : (cache.lookUp view asked).Records (before ++ asked) := by
  induction asked generalizing cache before with
  | nil =>
      rw [List.append_nil]
      exact records
  | cons resource rest ih =>
      have stepped : ((view.askTypes resource cache).2).Records (before ++ [resource]) :=
        records.step resource
      have later := ih stepped
      rw [List.append_assoc] at later
      exact later

/-- The counts of a cache that starts empty: it holds the distinct resources, and it missed each of
them once and recalled the rest. -/
def countsAfter (asked : List Resource) : CacheCounts :=
  ⟨asked.dedup.length, asked.length - asked.dedup.length, asked.dedup.length⟩

theorem Records.counts_eq (records : cache.Records asked) : cache.counts = countsAfter asked := by
  have same : cache.keys.Perm asked.dedup := by
    refine (List.perm_ext_iff_of_nodup records.distinct (List.nodup_dedup asked)).2 ?_
    intro resource
    rw [records.known, List.mem_dedup]
  have cached : cache.entries.length = asked.dedup.length := by
    rw [← same.length_eq, keys, List.length_map]
  have missed := records.missed
  have total := records.total
  simp only [counts, countsAfter, CacheCounts.mk.injEq]
  omega

theorem countsAfter_eq_of_perm (perm : asked.Perm more) : countsAfter asked = countsAfter more := by
  rw [countsAfter, countsAfter, perm.length_eq, perm.dedup.length_eq]

theorem counts_lookUp (view : View) (asked : List Resource) :
    (empty.lookUp view asked).counts = countsAfter asked :=
  (records_empty.lookUp asked).counts_eq

end TypeCache

namespace Asking

variable {α β : Type} {view : View}

/-- From every cache that agrees with the view, the question looks up these resources in this order
and does nothing else to the cache. -/
def LooksUp (view : View) (ask : Asking α) (asked : List Resource) : Prop :=
  ∀ cache : TypeCache, cache.Agrees view → (ask cache).2 = cache.lookUp view asked

theorem looksUp_pure (answer : α) : LooksUp view (pure answer) [] :=
  fun _cache _agrees => rfl

theorem looksUp_askTypes (resource : Resource) : LooksUp view (view.askTypes resource) [resource] :=
  fun _cache _agrees => rfl

/-- What is asked next may hang on the answer, so the answer has to be known. -/
theorem LooksUp.bind {ask : Asking α} {answer : α} {next : α → Asking β}
    {asked more : List Resource} (first : LooksUp view ask asked)
    (answers : Answers view ask answer) (second : LooksUp view (next answer) more) :
    LooksUp view (ask >>= next) (asked ++ more) := by
  intro cache agrees
  obtain ⟨middle, middleAgrees, answered⟩ := answers cache agrees
  have reached : middle = cache.lookUp view asked := by
    rw [← first cache agrees, answered]
  change (match ask cache with | (value, state) => next value state).2 = _
  rw [answered, TypeCache.lookUp_append, ← reached]
  exact second middle middleAgrees

theorem LooksUp.map {ask : Asking α} {answer : α} {form : α → β} {asked : List Resource}
    (first : LooksUp view ask asked) (answers : Answers view ask answer) :
    LooksUp view (ask >>= fun value => pure (form value)) asked := by
  have last : LooksUp view (pure (form answer)) [] := looksUp_pure (form answer)
  have whole : LooksUp view (ask >>= fun value => pure (form value)) (asked ++ []) :=
    first.bind answers last
  rw [List.append_nil] at whole
  exact whole

theorem looksUp_gather {ask : α → Asking (List β)} {answer : α → List β}
    {asked : α → List Resource} (answers : ∀ item, Answers view (ask item) (answer item))
    (each : ∀ item, LooksUp view (ask item) (asked item)) (items : List α) :
    LooksUp view (gather ask items) (items.flatMap asked) := by
  induction items with
  | nil => exact looksUp_pure []
  | cons head tail ih =>
      exact (each head).bind (answers head) (ih.map (answers_gather (fun item _ => answers item)))

theorem looksUp_countWhere {ask : α → Asking Bool} {answer : α → Bool}
    {asked : α → List Resource} (answers : ∀ item, Answers view (ask item) (answer item))
    (each : ∀ item, LooksUp view (ask item) (asked item)) (items : List α) :
    LooksUp view (countWhere ask items) (items.flatMap asked) := by
  induction items with
  | nil => exact looksUp_pure 0
  | cons head tail ih =>
      exact (each head).bind (answers head)
        (ih.map (answers_countWhere (fun item _ => answers item)))

end Asking

end OntologyLint
