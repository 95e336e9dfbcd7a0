import OntologyLint.Proofs.Text.Bytes
import OntologyLint.Violation.Basic

set_option autoImplicit false

/-! The order of values as an order of trees. A variant is put in order by its rank among the variants
and then field by field, a value that is left out comes before one that is there, and texts are put in
order by their bytes. -/

namespace OntologyLint

open Std (TransOrd LawfulEqOrd)

/-- What a value is put in order by. -/
inductive OrderKey
  | number (value : Nat)
  | text (value : String)
  | variant (rank : Nat) (fields : List OrderKey)

namespace OrderKey

mutual

def order : OrderKey → OrderKey → Ordering
  | .number value, .number other => compare value other
  | .text value, .text other => compare (Text.bytes value) (Text.bytes other)
  | .variant rank fields, .variant other others =>
      (compare rank other).then (orderFields fields others)
  | .number _, _ => .lt
  | _, .number _ => .gt
  | .text _, .variant _ _ => .lt
  | .variant _ _, .text _ => .gt

def orderFields : List OrderKey → List OrderKey → Ordering
  | [], [] => .eq
  | [], _ :: _ => .lt
  | _ :: _, [] => .gt
  | field :: fields, other :: others => (field.order other).then (orderFields fields others)

end

def option {α : Type} (key : α → OrderKey) : Option α → OrderKey
  | none => .variant 0 []
  | some value => .variant 1 [key value]

theorem order_number (value other : Nat) :
    order (.number value) (.number other) = compare value other := by
  rw [order]

theorem order_text (value other : String) :
    order (.text value) (.text other) = compare value other := by
  rw [order, Text.compare_eq_bytes]

theorem order_variant (rank : Nat) (fields others : List OrderKey) :
    order (.variant rank fields) (.variant rank others) = orderFields fields others := by
  rw [order, Nat.compare_eq_eq.2 rfl]
  rfl

theorem order_option {α : Type} [Ord α] {key : α → OrderKey}
    (keyed : ∀ one other : α, (key one).order (key other) = compare one other)
    (one other : Option α) :
    (option key one).order (option key other) = compare one other := by
  cases one <;> cases other
  case none.none => rfl
  case none.some => rfl
  case some.none => rfl
  case some.some one other =>
    simp only [option, order_variant, orderFields, keyed, Ordering.then_eq]
    rfl

end OrderKey

open OrderKey

/-- The order of a type is total, tells different values apart, and is the order of their keys. -/
structure OrderedBy {α : Type} [Ord α] (key : α → OrderKey) : Prop where
  antisymmetric : ∀ one other : α, compare one other = (compare other one).swap
  transitive : ∀ one other third : α, (compare one other).isLE = true →
    (compare other third).isLE = true → (compare one third).isLE = true
  equal : ∀ one other : α, compare one other = .eq ↔ one = other
  keyed : ∀ one other : α, compare one other = (key one).order (key other)

theorem OrderedBy.of_order_key {α : Type} [Ord α] [TransOrd α] [LawfulEqOrd α] {key : α → OrderKey}
    (keyed : ∀ one other : α, (key one).order (key other) = compare one other) : OrderedBy key where
  antisymmetric _ _ := Std.OrientedCmp.eq_swap
  transitive _ _ _ := Std.TransCmp.isLE_trans
  equal _ _ := Std.LawfulEqCmp.compare_eq_iff_eq
  keyed one other := (keyed one other).symm

namespace Resource

def key : Resource → OrderKey
  | .iri text => .variant 0 [.text text]
  | .blank label => .variant 1 [.text label]
  | .anonymous document node => .variant 1 [.text "1", .number document, .number node]

theorem compare_eq (one other : Resource) :
    compare one other = (compare one.isBlank other.isBlank).then
      ((compare one.sortText other.sortText).then
        ((compare one.document? other.document?).then (compare one.node? other.node?))) :=
  rfl

theorem order_key (one other : Resource) : one.key.order other.key = compare one other := by
  cases one <;> cases other <;>
    simp only [key, order_variant, orderFields, order_text, order_number]
  case anonymous.anonymous document node other number =>
    have texts : compare "1" "1" = Ordering.eq := Std.ReflCmp.compare_self
    rw [compare_eq, Ordering.then_eq]
    simp only [isBlank, sortText, texts, document?, node?]
    rfl
  all_goals rfl

end Resource

namespace Literal

def key (literal : Literal) : OrderKey :=
  .variant 0 [.text literal.lexical, literal.datatype.key, option .text literal.language]

theorem order_key (one other : Literal) : one.key.order other.key = compare one other := by
  simp only [key, order_variant, orderFields, order_text, Resource.order_key,
    order_option order_text, Ordering.then_eq]
  rfl

end Literal

namespace Object

def key : Object → OrderKey
  | .resource value => .variant 0 [value.key]
  | .literal value => .variant 1 [value.key]

theorem order_key (one other : Object) : one.key.order other.key = compare one other := by
  cases one <;> cases other <;>
    simp only [key, order_variant, orderFields, Resource.order_key, Literal.order_key]
  case resource.resource => exact Ordering.then_eq
  all_goals rfl

end Object

namespace Triple

def key (triple : Triple) : OrderKey :=
  .variant 0 [triple.subject.key, triple.predicate.key, triple.object.key]

theorem order_key (one other : Triple) : one.key.order other.key = compare one other := by
  simp only [key, order_variant, orderFields, Resource.order_key, Object.order_key, Ordering.then_eq]
  rfl

end Triple

namespace DisjointPair

def key (pair : DisjointPair) : OrderKey := .variant 0 [pair.first.key, pair.second.key]

theorem order_key (one other : DisjointPair) : one.key.order other.key = compare one other := by
  simp only [key, order_variant, orderFields, Resource.order_key, Ordering.then_eq]
  rfl

end DisjointPair

namespace Bound

def key : Bound → OrderKey
  | .min count => .variant 0 [.number count]
  | .max count => .variant 1 [.number count]
  | .exact count => .variant 2 [.number count]

theorem order_key (one other : Bound) : one.key.order other.key = compare one other := by
  cases one <;> cases other <;>
    simp only [key, order_variant, orderFields, order_number, Ordering.then_eq]
  all_goals rfl

end Bound

namespace Qualifier

def key : Qualifier → OrderKey
  | .instances type => .variant 0 [type.key]
  | .literals datatype => .variant 1 [datatype.key]

theorem order_key (one other : Qualifier) : one.key.order other.key = compare one other := by
  cases one <;> cases other <;>
    simp only [key, order_variant, orderFields, Resource.order_key, Ordering.then_eq]
  all_goals rfl

end Qualifier

namespace Restriction

def key (restriction : Restriction) : OrderKey :=
  .variant 0
    [restriction.property.key, restriction.bound.key, option Qualifier.key restriction.qualifier]

theorem order_key (one other : Restriction) : one.key.order other.key = compare one other := by
  simp only [key, order_variant, orderFields, Resource.order_key, Bound.order_key,
    order_option Qualifier.order_key, Ordering.then_eq]
  rfl

end Restriction

namespace Violation

def key : Violation → OrderKey
  | .domainMismatch triple expected => .variant 0 [triple.key, expected.key]
  | .rangeMismatch triple expected => .variant 1 [triple.key, expected.key]
  | .disjointMembership resource classes => .variant 2 [resource.key, classes.key]
  | .datatypeMismatch triple expected => .variant 3 [triple.key, expected.key]
  | .cardinalityMismatch resource property bound qualifier actual =>
      .variant 4
        [resource.key, property.key, bound.key, option Qualifier.key qualifier, .number actual]

theorem order_key (one other : Violation) : one.key.order other.key = compare one other := by
  cases one <;> cases other <;>
    simp only [key, order_variant, orderFields, Resource.order_key, Triple.order_key,
      DisjointPair.order_key, Bound.order_key, order_option Qualifier.order_key, order_number]
  case cardinalityMismatch.cardinalityMismatch resource property bound qualifier actual other named
      limit wanted number =>
    -- The violation compares the parts of its restriction before the number that follows them.
    change _ = (compare resource other).then (((compare property named).then
      ((compare bound limit).then (compare qualifier wanted))).then (compare actual number))
    simp only [Ordering.then_assoc, Ordering.then_eq]
  all_goals rfl

end Violation

/-- All orders that sorted sets rest on are total orders of the keys above, and texts are in the order of
their bytes, which is that of their code points and puts a text before all that goes on after it. -/
theorem orders_are_total_and_structural :
    (OrderedBy Resource.key ∧ OrderedBy Literal.key ∧ OrderedBy Object.key ∧ OrderedBy Triple.key ∧
      OrderedBy DisjointPair.key ∧ OrderedBy Bound.key ∧ OrderedBy Qualifier.key ∧
      OrderedBy Restriction.key ∧ OrderedBy Violation.key) ∧
    (∀ one other : String, compare one other = compare (Text.bytes one) (Text.bytes other) ∧
      compare one other = compare (Text.scalars one) (Text.scalars other)) ∧
    ∀ text more : String,
      compare text (text ++ more) = if more = "" then Ordering.eq else Ordering.lt := by
  refine ⟨⟨.of_order_key Resource.order_key, .of_order_key Literal.order_key,
    .of_order_key Object.order_key, .of_order_key Triple.order_key,
    .of_order_key DisjointPair.order_key, .of_order_key Bound.order_key,
    .of_order_key Qualifier.order_key, .of_order_key Restriction.order_key,
    .of_order_key Violation.order_key⟩, ?_, ?_⟩
  · intro one other
    exact ⟨Text.compare_eq_bytes one other, Text.compare_eq_scalars one other⟩
  · intro text more
    split
    · rename_i ended
      rw [ended, String.append_empty]
      exact Std.ReflCmp.compare_self
    · rename_i longer
      exact Text.compare_append_lt text longer

end OntologyLint
