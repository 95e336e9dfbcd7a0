import Mathlib.Tactic.SplitIfs

set_option autoImplicit false

/-! The order of texts. It is the order of their code points, and that of their bytes: characters with
longer encodings come later and begin with larger bytes, and characters of one length are told by their
bytes from the left. -/

namespace OntologyLint.Text

def scalars (text : String) : List Nat := text.toList.map Char.toNat

def bytes (text : String) : List Nat := text.toUTF8.data.toList.map UInt8.toNat

/-- The bytes of a code point. All bytes but the first hold six bits each. -/
def scalarBytes (value : Nat) : List Nat :=
  if value ≤ 0x7f then [value]
  else if value ≤ 0x7ff then [0xc0 + value / 64, 0x80 + value % 64]
  else if value ≤ 0xffff then [0xe0 + value / 4096, 0x80 + value / 64 % 64, 0x80 + value % 64]
  else [0xf0 + value / 262144, 0x80 + value / 4096 % 64, 0x80 + value / 64 % 64, 0x80 + value % 64]

variable {value other : Nat} {rest tail : List Nat}

theorem scalar_lt (char : Char) : char.toNat < 0x110000 := by
  have valid := char.valid
  rw [UInt32.isValidChar, Nat.isValidChar] at valid
  change char.val.toNat < 0x110000
  omega

theorem map_utf8EncodeChar (char : Char) :
    (String.utf8EncodeChar char).map UInt8.toNat = scalarBytes char.toNat := by
  have bound := scalar_lt char
  have same : char.val.toNat = char.toNat := rfl
  simp only [String.utf8EncodeChar, scalarBytes, same]
  generalize char.toNat = value at bound
  split_ifs <;>
    simp only [List.map_cons, List.map_nil, UInt8.toNat_ofNat', List.cons.injEq, and_true] <;>
    omega

theorem bytes_eq (text : String) : bytes text = (scalars text).flatMap scalarBytes := by
  rw [bytes, String.toUTF8_eq_toByteArray, ← String.utf8Encode_toList, List.utf8Encode,
    List.toList_data_toByteArray, List.map_flatMap, scalars, List.flatMap_map]
  exact congrArg (List.flatMap · text.toList) (funext map_utf8EncodeChar)

/-- The first byte that differs is smaller for the code point that comes first. -/
theorem compare_scalarBytes_of_lt (bound : other < 0x110000) (before : value < other) :
    compare (scalarBytes value ++ rest) (scalarBytes other ++ tail) = .lt := by
  unfold scalarBytes
  split_ifs <;>
    simp only [List.cons_append, List.nil_append, List.compare_cons_cons, Ordering.then_eq_lt,
      Nat.compare_eq_lt, Nat.compare_eq_eq] <;>
    omega

theorem compare_append_left (front rest tail : List Nat) :
    compare (front ++ rest) (front ++ tail) = compare rest tail := by
  induction front with
  | nil => rfl
  | cons first front ih =>
      rw [List.cons_append, List.cons_append, List.compare_cons_cons, Nat.compare_eq_eq.2 rfl, ih]
      rfl

theorem compare_swap (one two : List Nat) : compare one two = (compare two one).swap :=
  Std.OrientedCmp.eq_swap

theorem compare_nil_lt (some : rest ≠ []) : compare [] rest = .lt := by
  cases rest with
  | nil => exact absurd rfl some
  | cons first rest => rfl

theorem scalarBytes_append_ne_nil : scalarBytes value ++ rest ≠ [] := by
  unfold scalarBytes
  split_ifs <;> exact List.cons_ne_nil _ _

/-- Code points and bytes put texts in one order. -/
theorem compare_flatMap_scalarBytes {one two : List Nat} (bounds : ∀ value ∈ one, value < 0x110000)
    (otherBounds : ∀ value ∈ two, value < 0x110000) :
    compare (one.flatMap scalarBytes) (two.flatMap scalarBytes) = compare one two := by
  induction one generalizing two with
  | nil =>
      cases two with
      | nil => rfl
      | cons second two =>
          rw [List.flatMap_cons]
          exact compare_nil_lt scalarBytes_append_ne_nil
  | cons first one ih =>
      cases two with
      | nil =>
          rw [List.flatMap_cons, List.flatMap_nil, compare_swap,
            compare_nil_lt scalarBytes_append_ne_nil]
          rfl
      | cons second two =>
          obtain ⟨firstBound, restBounds⟩ := List.forall_mem_cons.1 bounds
          obtain ⟨secondBound, tailBounds⟩ := List.forall_mem_cons.1 otherBounds
          rw [List.flatMap_cons, List.flatMap_cons, List.compare_cons_cons]
          rcases Nat.lt_trichotomy first second with before | same | after
          · rw [compare_scalarBytes_of_lt secondBound before, Nat.compare_eq_lt.2 before]
            rfl
          · subst same
            rw [compare_append_left, Nat.compare_eq_eq.2 rfl, ih restBounds tailBounds]
            rfl
          · rw [compare_swap, compare_scalarBytes_of_lt firstBound after, Nat.compare_eq_gt.2 after]
            rfl

theorem eq_of_lt_iff_of_eq_iff {one two : Ordering} (before : one = .lt ↔ two = .lt)
    (same : one = .eq ↔ two = .eq) : one = two := by
  cases one <;> cases two <;> simp_all

theorem compare_map_toNat {one two : List Char} :
    compare (one.map Char.toNat) (two.map Char.toNat) = .lt ↔ one < two := by
  induction one generalizing two with
  | nil => cases two <;> simp [List.compare_nil_cons]
  | cons first one ih =>
      cases two with
      | nil => simp
      | cons second two =>
          rw [List.map_cons, List.map_cons, List.compare_cons_cons, Ordering.then_eq_lt, ih,
            List.cons_lt_cons_iff, Nat.compare_eq_lt, Nat.compare_eq_eq, Char.toNat_inj]
          rfl

theorem compare_eq_scalars (one two : String) :
    compare one two = compare (scalars one) (scalars two) := by
  apply eq_of_lt_iff_of_eq_iff
  · exact compareOfLessAndEq_eq_lt.trans compare_map_toNat.symm
  · rw [Std.LawfulEqCmp.compare_eq_iff_eq, Std.LawfulEqCmp.compare_eq_iff_eq, scalars, scalars,
      List.map_inj_right (fun _ _ => Char.toNat_inj.1), String.toList_inj]

theorem compare_eq_bytes (one two : String) : compare one two = compare (bytes one) (bytes two) := by
  have bounds (text : String) : ∀ value ∈ scalars text, value < 0x110000 := by
    intro value member
    obtain ⟨char, _among, rfl⟩ := List.mem_map.1 member
    exact scalar_lt char
  rw [compare_eq_scalars, bytes_eq, bytes_eq, compare_flatMap_scalarBytes (bounds one) (bounds two)]

/-- A text comes before every text that goes on after it. -/
theorem compare_append_lt (text : String) {more : String} (longer : more ≠ "") :
    compare text (text ++ more) = .lt := by
  have nonempty : scalars more ≠ [] := by
    rw [scalars, ne_eq, List.map_eq_nil_iff, String.toList_eq_nil_iff]
    exact longer
  have later := compare_append_left (scalars text) [] (scalars more)
  rw [List.append_nil, compare_nil_lt nonempty] at later
  rw [compare_eq_scalars, scalars, scalars, String.toList_append, List.map_append]
  exact later

end OntologyLint.Text
