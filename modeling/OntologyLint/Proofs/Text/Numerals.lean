import OntologyLint.Text.Quoted

set_option autoImplicit false

/-! Numbers written in digits, up to base sixteen. Different numbers have different numerals, and a
numeral is made of digits alone, so a mark that is no digit ends it. -/

namespace OntologyLint.Text

variable {base number other : Nat} {char : Char}

theorem digitChar_inj : ∀ a < 16, ∀ b < 16, Nat.digitChar a = Nat.digitChar b → a = b := by decide

theorem toDigits_inj (atLeast : 1 < base) (atMost : base ≤ 16)
    (same : Nat.toDigits base number = Nat.toDigits base other) : number = other := by
  induction number using Nat.strongRecOn generalizing other with
  | ind number ih =>
      have bothShort : number < base ↔ other < base := by
        rw [← Nat.pow_one base, ← Nat.length_toDigits_le_iff atLeast Nat.one_pos,
          ← Nat.length_toDigits_le_iff atLeast Nat.one_pos, same]
      rw [Nat.toDigits_eq_if atLeast, Nat.toDigits_eq_if atLeast (n := other)] at same
      by_cases short : number < base
      · rw [if_pos short, if_pos (bothShort.1 short), List.cons.injEq] at same
        have otherShort := bothShort.1 short
        exact digitChar_inj number (by omega) other (by omega) same.1
      · rw [if_neg short, if_neg (fun otherShort => short (bothShort.2 otherShort))] at same
        obtain ⟨fronts, lasts⟩ := List.append_inj' same rfl
        have quotients : number / base = other / base :=
          ih (number / base) (Nat.div_lt_self (by omega) atLeast) fronts
        have bound : number % base < base := Nat.mod_lt _ (by omega)
        have otherBound : other % base < base := Nat.mod_lt _ (by omega)
        have remainders : number % base = other % base :=
          digitChar_inj _ (by omega) _ (by omega) (List.cons.inj lasts).1
        rw [← Nat.div_add_mod number base, quotients, remainders, Nat.div_add_mod]

theorem exists_digit_of_mem_toDigits (atLeast : 1 < base) (member : char ∈ Nat.toDigits base number) :
    ∃ digit < base, char = Nat.digitChar digit := by
  induction number using Nat.strongRecOn with
  | ind number ih =>
      rw [Nat.toDigits_eq_if atLeast] at member
      split at member
      · rename_i short
        exact ⟨number, short, List.mem_singleton.1 member⟩
      · rename_i long
        rcases List.mem_append.1 member with earlier | last
        · exact ih (number / base) (Nat.div_lt_self (by omega) atLeast) earlier
        · exact ⟨number % base, Nat.mod_lt _ (by omega), List.mem_singleton.1 last⟩

theorem not_mem_toDigits (atLeast : 1 < base) (atMost : base ≤ 16)
    (strange : ∀ digit < 16, char ≠ Nat.digitChar digit) : char ∉ Nat.toDigits base number := by
  intro member
  obtain ⟨digit, bound, same⟩ := exists_digit_of_mem_toDigits atLeast member
  exact strange digit (by omega) same

theorem toList_toString_inj (same : (toString number).toList = (toString other).toList) :
    number = other :=
  toDigits_inj (by decide) (by decide) (Nat.toList_repr.symm.trans (same.trans Nat.toList_repr))

theorem space_not_mem_toString : ' ' ∉ (toString number).toList := by
  rw [Nat.toString_eq_repr, Nat.toList_repr]
  exact not_mem_toDigits (by decide) (by decide) (by decide)

end OntologyLint.Text
