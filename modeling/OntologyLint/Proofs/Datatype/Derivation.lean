import Mathlib.Logic.Relation
import OntologyLint.Datatype.Known

set_option autoImplicit false

/-! Derivation of datatypes. The lineage of a known datatype holds exactly what steps to a base
lead to, and one name is derived from another if such steps lead from the first to the second. -/

namespace OntologyLint

open Relation (ReflTransGen)

namespace KnownDatatype

theorem mem_all (datatype : KnownDatatype) : datatype ∈ all := by
  cases datatype <;> decide

theorem name_injective {left right : KnownDatatype} (same : left.name = right.name) :
    left = right := by
  have distinct : ∀ left ∈ all, ∀ right ∈ all, left.name = right.name → left = right := by
    decide +kernel
  exact distinct left (mem_all left) right (mem_all right) same

theorem iri_injective {left right : KnownDatatype} (same : left.iri = right.iri) :
    left = right := by
  apply name_injective
  apply String.toList_inj.1
  have texts := congrArg String.toList same
  simp only [iri, Xsd.named, String.toList_append] at texts
  exact List.append_cancel_left texts

theorem ofIri?_eq_some {text : String} {datatype : KnownDatatype} :
    ofIri? text = some datatype ↔ datatype.iri = text := by
  constructor
  · intro found
    have named := List.find?_some found
    exact of_decide_eq_true named
  · intro named
    cases found : ofIri? text with
    | none =>
        have missing := List.find?_eq_none.1 found datatype (mem_all datatype)
        exact absurd (decide_eq_true named) missing
    | some other =>
        have otherNamed := List.find?_some found
        rw [iri_injective ((of_decide_eq_true otherNamed).trans named.symm)]

theorem ofIri?_eq_none {text : String} :
    ofIri? text = none ↔ ∀ datatype : KnownDatatype, datatype.iri ≠ text := by
  rw [Option.eq_none_iff_forall_ne_some]
  exact forall_congr' (fun datatype => not_congr ofIri?_eq_some)

def Restricts (datatype base : KnownDatatype) : Prop := datatype.base? = some base

theorem path_of_mem_lineageUpTo {steps : Nat} {datatype base : KnownDatatype}
    (member : base ∈ lineageUpTo steps datatype) : ReflTransGen Restricts datatype base := by
  induction steps generalizing datatype with
  | zero =>
      rw [lineageUpTo, List.mem_singleton] at member
      rw [member]
  | succ steps ih =>
      unfold lineageUpTo at member
      split at member
      · rw [List.mem_singleton] at member
        rw [member]
      · rename_i parent restricts
        rcases List.mem_cons.1 member with rfl | above
        · exact .refl
        · exact .head restricts (ih above)

theorem self_mem_lineage (datatype : KnownDatatype) : datatype ∈ datatype.lineage := by
  cases datatype <;> decide

/-- No lineage is cut short: with each of its datatypes it holds the base of that datatype. -/
theorem base_mem_lineage {datatype middle base : KnownDatatype}
    (member : middle ∈ datatype.lineage) (restricts : middle.Restricts base) :
    base ∈ datatype.lineage := by
  have closed : ∀ datatype ∈ all, ∀ middle ∈ datatype.lineage, ∀ base ∈ middle.base?,
      base ∈ datatype.lineage := by
    decide
  exact closed datatype (mem_all datatype) middle member base restricts

theorem mem_lineage {datatype base : KnownDatatype} :
    base ∈ datatype.lineage ↔ ReflTransGen Restricts datatype base := by
  constructor
  · exact path_of_mem_lineageUpTo
  · intro path
    induction path with
    | refl => exact self_mem_lineage datatype
    | tail _path restricts ih => exact base_mem_lineage ih restricts

end KnownDatatype

/-- The names are those of two known datatypes, and the first restricts the second directly. -/
def DirectlyDerived (datatype base : String) : Prop :=
  ∃ known parent : KnownDatatype, known.iri = datatype ∧ parent.iri = base ∧ known.Restricts parent

/-- The first name is the second one, or direct derivations lead from it to the second. -/
def DerivedFrom (datatype base : String) : Prop := ReflTransGen DirectlyDerived datatype base

theorem known_of_derivedFrom {datatype base : String} (derived : DerivedFrom datatype base) :
    datatype = base ∨ ∃ known parent : KnownDatatype, known.iri = datatype ∧ parent.iri = base ∧
      ReflTransGen KnownDatatype.Restricts known parent := by
  induction derived with
  | refl => exact Or.inl rfl
  | tail _path step ih =>
      obtain ⟨middle, parent, middleNamed, parentNamed, restricts⟩ := step
      rcases ih with rfl | ⟨known, below, knownNamed, belowNamed, path⟩
      · exact Or.inr ⟨middle, parent, middleNamed, parentNamed, .single restricts⟩
      · cases KnownDatatype.iri_injective (belowNamed.trans middleNamed.symm)
        exact Or.inr ⟨known, parent, knownNamed, parentNamed, path.tail restricts⟩

theorem derivedFrom_of_path {known parent : KnownDatatype}
    (path : ReflTransGen KnownDatatype.Restricts known parent) :
    DerivedFrom known.iri parent.iri :=
  path.lift KnownDatatype.iri (fun _ _ restricts => ⟨_, _, rfl, rfl, restricts⟩)

theorem isDerivedFrom_iff {datatype base : String} :
    isDerivedFrom datatype base = true ↔ DerivedFrom datatype base := by
  rw [isDerivedFrom, Bool.or_eq_true, beq_iff_eq]
  constructor
  · rintro (rfl | chained)
    · exact .refl
    · split at chained
      · rename_i known parent knownNamed parentNamed
        rw [KnownDatatype.ofIri?_eq_some] at knownNamed parentNamed
        rw [← knownNamed, ← parentNamed]
        exact derivedFrom_of_path
          (KnownDatatype.mem_lineage.1 (List.contains_iff_mem.1 chained))
      · cases chained
  · intro derived
    rcases known_of_derivedFrom derived with same | ⟨known, parent, knownNamed, parentNamed, path⟩
    · exact Or.inl same
    · rw [KnownDatatype.ofIri?_eq_some.2 knownNamed, KnownDatatype.ofIri?_eq_some.2 parentNamed]
      exact Or.inr (List.contains_iff_mem.2 (KnownDatatype.mem_lineage.2 path))

end OntologyLint
