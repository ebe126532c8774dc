import Mathlib.Algebra.Group.Nat.Defs
import KeyProtection.DateTime
import KeyProtection.Numeral

/-! Decimal digits of numbers: which characters they are, how many, what they read back as, and in
which order the texts of one width are. -/

namespace KeyProtection

theorem isDigit_of_mem_digits {number : Nat} {char : Char} (member : char ∈ digits number) :
    char.isDigit = true :=
  Nat.isDigit_of_mem_toDigits (by decide) (by decide) member

theorem digits_ne_nil (number : Nat) : digits number ≠ [] := Nat.toDigits_ne_nil

theorem length_digits_le {width number : Nat} (positive : 0 < width) (fits : number < 10 ^ width) :
    (digits number).length ≤ width :=
  (Nat.length_toDigits_le_iff (by decide) positive).mpr fits

/-- A greater number has no fewer digits. -/
theorem length_digits_mono {number other : Nat} (less : number ≤ other) :
    (digits number).length ≤ (digits other).length := by
  have positive : 0 < (digits other).length := List.length_pos_iff.mpr (digits_ne_nil other)
  have bound := (Nat.length_toDigits_le_iff (b := 10) (n := other) (by decide) positive).mp (Nat.le_refl _)
  exact length_digits_le positive (Nat.lt_of_le_of_lt less bound)

/-- Only the digits of zero begin with a zero. -/
theorem head?_digits_ne_zero {number : Nat} (positive : 0 < number) :
    (digits number).head? ≠ some '0' := by
  induction number using Nat.strongRecOn with
  | ind number ih =>
    by_cases small : number < 10
    · rw [digits, Nat.toDigits_of_lt_base small]
      simp only [List.head?_cons, ne_eq, Option.some.injEq, Nat.digitChar_eq_zero]
      omega
    · have split := Nat.toDigits_of_base_le (by decide : 1 < 10) (Nat.le_of_not_lt small)
      have leading := ih (number / 10) (by omega) (by omega)
      obtain ⟨first, rest, same⟩ := List.exists_cons_of_ne_nil (digits_ne_nil (number / 10))
      rw [same] at leading
      rw [digits] at same ⊢
      rw [split, same]
      exact leading

theorem length_padded {width number : Nat} (positive : 0 < width) (fits : number < 10 ^ width) :
    (padded width number).length = width := by
  have short := length_digits_le positive fits
  simp only [padded, List.length_append, List.length_replicate]
  omega

/-- A number that fills the width is written without leading zeros. -/
theorem padded_of_le {width number : Nat} (full : 10 ^ width ≤ number) :
    padded (width + 1) number = digits number := by
  have long : width < (digits number).length := by
    by_cases none : width = 0
    · rw [none]
      exact List.length_pos_iff.mpr (digits_ne_nil number)
    · have tooShort := Nat.length_toDigits_le_iff (b := 10) (n := number) (k := width) (by decide) (by omega)
      exact Nat.lt_of_not_le fun short => absurd (tooShort.mp short) (by omega)
  rw [padded, Nat.sub_eq_zero_of_le long, List.replicate_zero, List.nil_append]

theorem isDigit_of_mem_padded {width number : Nat} {char : Char} (member : char ∈ padded width number) :
    char.isDigit = true := by
  rcases List.mem_append.mp member with leading | digit
  · rw [List.eq_of_mem_replicate leading]
    rfl
  · exact isDigit_of_mem_digits digit

theorem ofDigits_cons (first : Char) (rest : List Char) :
    ofDigits (first :: rest) = Nat.ofDigitChars 10 rest (first.toNat - '0'.toNat) := by
  rw [ofDigits, Nat.ofDigitChars_cons, Nat.mul_zero, Nat.zero_add]

/-- Zeros in front do not count. -/
theorem ofDigits_zeros_append (zeros : Nat) (text : List Char) :
    ofDigits (List.replicate zeros '0' ++ text) = ofDigits text := by
  rw [ofDigits, Nat.ofDigitChars_append, Nat.ofDigitChars_replicate_zero, Nat.mul_zero, ofDigits]

theorem ofDigits_padded (width number : Nat) : ofDigits (padded width number) = number := by
  rw [padded, ofDigits_zeros_append, ofDigits_digits]

/-- With one more place the last digit stands by itself. -/
theorem padded_succ {width : Nat} (positive : 0 < width) (number : Nat) :
    padded (width + 1) number = padded width (number / 10) ++ [Nat.digitChar (number % 10)] := by
  by_cases small : number < 10
  · have digit : digits number = [Nat.digitChar number] := Nat.toDigits_of_lt_base small
    have zero : digits 0 = ['0'] := rfl
    obtain ⟨less, rfl⟩ : ∃ less, width = less + 1 := ⟨width - 1, by omega⟩
    simp [padded, digit, zero, Nat.div_eq_of_lt small, Nat.mod_eq_of_lt small,
      List.replicate_succ']
  · have split : digits number = digits (number / 10) ++ [Nat.digitChar (number % 10)] :=
      Nat.toDigits_of_base_le (by decide) (Nat.le_of_not_lt small)
    simp [padded, split]

theorem digitChar_cons_lt {digit other : Nat} {rest more : List Char} (small : other < 10)
    (order : digit < other ∨ digit = other ∧ rest < more) :
    Nat.digitChar digit :: rest < Nat.digitChar other :: more := by
  rw [List.cons_lt_cons_iff]
  rcases order with less | ⟨same, later⟩
  · have digits : ∀ other < 10, ∀ digit < other, Nat.digitChar digit < Nat.digitChar other := by
      decide
    exact .inl (digits other small digit less)
  · exact .inr ⟨congrArg Nat.digitChar same, later⟩

/-- Numbers written to one width are in the order of their texts, and what follows decides between
equal ones. -/
theorem padded_append_lt {width number other : Nat} {rest more : List Char} (positive : 0 < width)
    (fits : other < 10 ^ width) (order : number < other ∨ number = other ∧ rest < more) :
    padded width number ++ rest < padded width other ++ more := by
  induction width generalizing number other rest more with
  | zero => exact absurd positive (Nat.lt_irrefl 0)
  | succ width step =>
    rw [Nat.pow_succ] at fits
    by_cases single : width = 0
    · subst single
      have digit {number : Nat} (small : number < 10) : padded 1 number = [Nat.digitChar number] := by
        simp [padded, digits, Nat.toDigits_of_lt_base small]
      rw [digit (by omega), digit (by omega)]
      exact digitChar_cons_lt (by omega) order
    · have places : 0 < width := Nat.pos_of_ne_zero single
      rw [padded_succ places, padded_succ places, List.append_assoc, List.append_assoc]
      apply step places (by omega)
      by_cases leading : number / 10 < other / 10
      · exact .inl leading
      · refine .inr ⟨by omega, ?_⟩
        apply digitChar_cons_lt (Nat.mod_lt _ (by decide))
        rcases order with less | ⟨same, later⟩
        · exact .inl (by omega)
        · exact .inr ⟨congrArg (· % 10) same, later⟩

end KeyProtection
