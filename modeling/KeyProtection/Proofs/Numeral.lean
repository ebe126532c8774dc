import KeyProtection.Proofs.Digits

/-! Numerals read back. The reader of numerals takes the text of an integer and the text of a decimal
apart where they were put together, so that each number is found again with its kind. -/

namespace KeyProtection

/-- A run of characters of a kind ends where a character of another kind follows. -/
theorem takeWhile_append_of_stop {kind : Char → Bool} {run rest : List Char}
    (inside : ∀ char ∈ run, kind char = true)
    (stop : ∀ char, rest.head? = some char → kind char = false) :
    (run ++ rest).takeWhile kind = run := by
  rw [List.takeWhile_append_of_pos inside]
  cases rest with
  | nil => simp
  | cons first rest => simp [stop first rfl]

theorem dropWhile_append_of_stop {kind : Char → Bool} {run rest : List Char}
    (inside : ∀ char ∈ run, kind char = true)
    (stop : ∀ char, rest.head? = some char → kind char = false) :
    (run ++ rest).dropWhile kind = rest := by
  rw [List.dropWhile_append_of_pos inside]
  cases rest with
  | nil => rfl
  | cons first rest => simp [stop first rfl]

namespace Numeral

/-- Digits that may stand before the point: at least one, and no needless zero in front. -/
structure IsWhole (whole : List Char) : Prop where
  digits : ∀ char ∈ whole, char.isDigit = true
  nonempty : whole ≠ []
  leading : whole.head? = some '0' → whole = ['0']

theorem isWhole_digits (number : Nat) : IsWhole (digits number) where
  digits _ member := isDigit_of_mem_digits member
  nonempty := digits_ne_nil number
  leading := by
    intro zero
    rcases Nat.eq_zero_or_pos number with rfl | positive
    · rfl
    · exact absurd zero (head?_digits_ne_zero positive)

theorem IsWhole.append {whole more : List Char} (valid : IsWhole whole) (positive : whole ≠ ['0'])
    (inside : ∀ char ∈ more, char.isDigit = true) : IsWhole (whole ++ more) where
  digits char member := (List.mem_append.mp member).elim (valid.digits char) (inside char)
  nonempty empty := valid.nonempty (List.append_eq_nil_iff.mp empty).1
  leading zero := by
    obtain ⟨first, rest, rfl⟩ := List.exists_cons_of_ne_nil valid.nonempty
    exact absurd (valid.leading zero) positive

theorem unsigned?_append {whole rest : List Char} (negative : Bool) (valid : IsWhole whole)
    (stop : ∀ char, rest.head? = some char → char.isDigit = false) :
    unsigned? negative (whole ++ rest) = afterWhole negative whole rest := by
  have allowed : ¬ (whole = [] ∨ (whole.head? = some '0' ∧ whole ≠ ['0'])) := by
    rintro (empty | ⟨zero, more⟩)
    · exact valid.nonempty empty
    · exact more (valid.leading zero)
  simp only [unsigned?, takeWhile_append_of_stop valid.digits stop,
    dropWhile_append_of_stop valid.digits stop, if_neg allowed]

theorem afterWhole_point {fraction rest : List Char} (negative : Bool) (whole : List Char)
    (nonempty : fraction ≠ []) (inside : ∀ char ∈ fraction, char.isDigit = true)
    (stop : ∀ char, rest.head? = some char → char.isDigit = false) :
    afterWhole negative whole ('.' :: (fraction ++ rest)) =
      afterFraction negative whole fraction rest := by
  simp only [afterWhole, takeWhile_append_of_stop inside stop, dropWhile_append_of_stop inside stop,
    if_neg nonempty]

theorem ofText?_sign {whole : List Char} (negative : Bool) (rest : List Char) (valid : IsWhole whole) :
    ofText? (Decimal.signText negative ++ (whole ++ rest)) = unsigned? negative (whole ++ rest) := by
  obtain ⟨first, more, rfl⟩ := List.exists_cons_of_ne_nil valid.nonempty
  cases negative with
  | true => rfl
  | false =>
    have digit := valid.digits first (List.mem_cons_self ..)
    have unsigned : first ≠ '-' := by rintro rfl; exact absurd digit (by decide)
    simp only [Decimal.signText, Bool.false_eq_true, ↓reduceIte, List.nil_append, List.cons_append]
    rw [ofText?]
    intro text same
    exact unsigned (List.cons.inj same).1

theorem ofText?_integerText (number : Int) :
    ofText? (integerText number) = some ⟨decide (number < 0), digits number.natAbs, [], none⟩ := by
  have whole (negative : Bool) (magnitude : Nat) :
      ofText? (Decimal.signText negative ++ digits magnitude) =
        some ⟨negative, digits magnitude, [], none⟩ := by
    have read := ofText?_sign negative [] (isWhole_digits magnitude)
    rw [unsigned?_append negative (isWhole_digits magnitude) (by simp), List.append_nil] at read
    exact read
  cases number with
  | ofNat magnitude => exact whole false magnitude
  | negSucc below =>
    rw [decide_eq_true (Int.negSucc_lt_zero below)]
    exact whole true (below + 1)

/-- The text of an integer is the numeral of that integer. -/
theorem integer?_integerText (number : Int) :
    (ofText? (integerText number)).bind integer? = some number := by
  rw [ofText?_integerText]
  simp only [Option.bind_some, integer?, and_self, ↓reduceIte, ofDigits_digits, decide_eq_true_eq]
  congr 1
  split <;> omega

theorem ofText?_fraction {whole fraction : List Char} (negative : Bool) (valid : IsWhole whole)
    (nonempty : fraction ≠ []) (inside : ∀ char ∈ fraction, char.isDigit = true) :
    ofText? (Decimal.signText negative ++ (whole ++ '.' :: fraction)) =
      some ⟨negative, whole, fraction, none⟩ := by
  have ends : ∀ char, ([] : List Char).head? = some char → char.isDigit = false := by simp
  have point := afterWhole_point negative whole nonempty inside ends
  rw [List.append_nil] at point
  rw [ofText?_sign negative _ valid, unsigned?_append negative valid (by simp), point, afterFraction]

theorem power?_signed (exponent : Int) {run : List Char} (nonempty : run ≠ [])
    (inside : ∀ char ∈ run, char.isDigit = true) (read : ofDigits run = exponent.natAbs) :
    power? ((if exponent < 0 then '-' else '+') :: run) = some exponent := by
  have allowed : run ≠ [] ∧ run.all Char.isDigit = true := ⟨nonempty, List.all_eq_true.mpr inside⟩
  split
  · simp only [power?, if_pos allowed, read]
    congr 1
    omega
  · simp only [power?, if_pos allowed, read]
    congr 1
    omega

/-- The exponent is written as a sign and its magnitude in at least two digits. -/
theorem exponentText_eq (exponent : Int) : Decimal.exponentText exponent =
    'e' :: (if exponent < 0 then '-' else '+') :: padded 2 exponent.natAbs := by
  have positive : 0 < (digits exponent.natAbs).length :=
    List.length_pos_iff.mpr (digits_ne_nil _)
  have magnitude : padded 2 exponent.natAbs =
      if (digits exponent.natAbs).length < 2 then '0' :: digits exponent.natAbs
      else digits exponent.natAbs := by
    rw [padded]
    split
    · have one : 2 - (digits exponent.natAbs).length = 1 := by omega
      rw [one]
      rfl
    · have zero : 2 - (digits exponent.natAbs).length = 0 := by omega
      rw [zero]
      rfl
  rw [magnitude, Decimal.exponentText]
  split <;> rfl

theorem afterFraction_exponentText (negative : Bool) (whole fraction : List Char) (exponent : Int) :
    afterFraction negative whole fraction (Decimal.exponentText exponent) =
      some ⟨negative, whole, fraction, some exponent⟩ := by
  have nonempty : padded 2 exponent.natAbs ≠ [] := by simp [padded, digits_ne_nil]
  have read := power?_signed exponent nonempty (fun _ member => isDigit_of_mem_padded member)
    (ofDigits_padded 2 _)
  simp only [exponentText_eq, afterFraction, true_or, ↓reduceIte, read, Option.map_some]

theorem ofText?_scientific {first : Char} {rest : List Char} (negative : Bool) (exponent : Int)
    (inside : ∀ char ∈ first :: rest, char.isDigit = true) :
    ofText? (Decimal.signText negative ++ Decimal.scientific (first :: rest) exponent) =
      some ⟨negative, [first], rest, some exponent⟩ := by
  have whole : IsWhole [first] :=
    { digits := fun char member => inside char (by simp_all)
      nonempty := by simp
      leading := by simp }
  have mark : ∀ char, (Decimal.exponentText exponent).head? = some char → char.isDigit = false := by
    simp [exponentText_eq]
  cases rest with
  | nil =>
    have noPoint : afterWhole negative [first] (Decimal.exponentText exponent) =
        afterFraction negative [first] [] (Decimal.exponentText exponent) := by
      rw [exponentText_eq]
      rfl
    rw [Decimal.scientific, ← List.singleton_append, ofText?_sign negative _ whole,
      unsigned?_append negative whole mark, noPoint, afterFraction_exponentText]
  | cons next rest =>
    rw [Decimal.scientific, ← List.singleton_append, ofText?_sign negative _ whole,
      unsigned?_append negative whole (by simp),
      afterWhole_point negative _ (by simp) (fun char member => inside char (by simp_all)) mark,
      afterFraction_exponentText]
    simp

theorem reduce_mul_pow (coefficient zeros : Nat) (exponent : Int)
    (reduced : if coefficient = 0 then exponent = 0 else coefficient % 10 ≠ 0) :
    Decimal.reduce (coefficient * 10 ^ zeros) (exponent - zeros) = (coefficient, exponent) := by
  by_cases zero : coefficient = 0
  · rw [if_pos zero] at reduced
    rw [zero, reduced, Nat.zero_mul, Decimal.reduce, if_pos rfl]
  · rw [if_neg zero] at reduced
    induction zeros with
    | zero => rw [Nat.pow_zero, Nat.mul_one, Decimal.reduce, if_neg zero, if_neg reduced]; simp
    | succ zeros ih =>
      have more : coefficient * 10 ^ (zeros + 1) = coefficient * 10 ^ zeros * 10 := by
        rw [Nat.pow_succ, Nat.mul_assoc]
      have positive : 0 < coefficient * 10 ^ zeros :=
        Nat.mul_pos (Nat.pos_of_ne_zero zero) (Nat.pow_pos (by decide))
      rw [Decimal.reduce, if_neg (by omega), if_pos (by omega), more,
        Nat.mul_div_cancel _ (by decide), ← ih]
      congr 1
      omega

/-- Trailing zeros in the coefficient, with an exponent to match, do not change a decimal. -/
theorem ofParts_mul_pow (decimal : Decimal) (zeros : Nat) :
    Decimal.ofParts decimal.negative (decimal.coefficient * 10 ^ zeros) (decimal.exponent - zeros) =
      decimal := by
  obtain ⟨negative, coefficient, exponent, reduced⟩ := decimal
  simp [Decimal.ofParts, reduce_mul_pow coefficient zeros exponent reduced]

/-- A whole part and a fraction that stand for a decimal, with `zeros` more places than it needs. -/
structure Places (decimal : Decimal) (whole fraction : List Char) (zeros : Nat) : Prop where
  valid : IsWhole whole
  nonempty : fraction ≠ []
  inside : ∀ char ∈ fraction, char.isDigit = true
  value : ofDigits (whole ++ fraction) = decimal.coefficient * 10 ^ zeros
  count : -(fraction.length : Int) = decimal.exponent - zeros

theorem ofDigits_append (first second : List Char) :
    ofDigits (first ++ second) = Nat.ofDigitChars 10 second (ofDigits first) :=
  Nat.ofDigitChars_append 0

theorem isDigit_of_mem_zeros {count : Nat} {char : Char} (member : char ∈ List.replicate count '0') :
    char.isDigit = true := by
  rw [List.eq_of_mem_replicate member]
  rfl

/-- Below one: a zero before the point, and zeros between the point and the digits. -/
theorem places_small (decimal : Decimal) (small : decimal.leadingExponent + 1 ≤ 0) :
    Places decimal ['0'] (List.replicate (decimal.leadingExponent + 1).natAbs '0' ++
      digits decimal.coefficient) 0 where
  valid := isWhole_digits 0
  nonempty := by simp [digits_ne_nil]
  inside char member := (List.mem_append.mp member).elim isDigit_of_mem_zeros isDigit_of_mem_digits
  value := by
    have zeros : ofDigits (['0'] ++ List.replicate (decimal.leadingExponent + 1).natAbs '0') = 0 :=
      Nat.ofDigitChars_replicate_zero (n := (decimal.leadingExponent + 1).natAbs + 1)
    rw [← List.append_assoc, ofDigits_append, zeros, Nat.pow_zero, Nat.mul_one]
    exact ofDigits_digits _
  count := by
    simp only [Decimal.leadingExponent] at small ⊢
    simp only [List.length_append, List.length_replicate]
    omega

/-- The digits end before the point: zeros fill the places up to it. -/
theorem places_large (decimal : Decimal)
    (large : (digits decimal.coefficient).length ≤ (decimal.leadingExponent + 1).natAbs)
    (positive : 0 < decimal.leadingExponent + 1) :
    Places decimal (digits decimal.coefficient ++ List.replicate
        ((decimal.leadingExponent + 1).natAbs - (digits decimal.coefficient).length) '0') ['0']
      ((decimal.leadingExponent + 1).natAbs - (digits decimal.coefficient).length + 1) where
  valid := by
    by_cases zero : decimal.coefficient = 0
    · have exponent : decimal.exponent = 0 := by simpa [zero] using decimal.reduced
      have none : (decimal.leadingExponent + 1).natAbs - (digits decimal.coefficient).length = 0 := by
        simp only [Decimal.leadingExponent]
        omega
      rw [none, List.replicate_zero, List.append_nil]
      exact isWhole_digits _
    · apply (isWhole_digits _).append _ (fun _ member => isDigit_of_mem_zeros member)
      intro same
      exact head?_digits_ne_zero (Nat.pos_of_ne_zero zero) (by rw [same]; rfl)
  nonempty := by simp
  inside := by simp
  value := by
    rw [List.append_assoc, ← List.replicate_succ', ofDigits_append, Nat.ofDigitChars_replicate_zero,
      ofDigits_digits, Nat.mul_comm]
  count := by
    simp only [Decimal.leadingExponent] at large positive ⊢
    simp only [List.length_singleton]
    omega

/-- The point stands among the digits. -/
theorem places_middle (decimal : Decimal)
    (short : ¬ (digits decimal.coefficient).length ≤ (decimal.leadingExponent + 1).natAbs)
    (positive : 0 < decimal.leadingExponent + 1) :
    Places decimal ((digits decimal.coefficient).take (decimal.leadingExponent + 1).natAbs)
      ((digits decimal.coefficient).drop (decimal.leadingExponent + 1).natAbs) 0 where
  valid := by
    obtain ⟨count, same⟩ : ∃ count, (decimal.leadingExponent + 1).natAbs = count + 1 :=
      ⟨(decimal.leadingExponent + 1).natAbs - 1, by omega⟩
    have valid := isWhole_digits decimal.coefficient
    obtain ⟨first, rest, shape⟩ := List.exists_cons_of_ne_nil valid.nonempty
    rw [same] at short ⊢
    rw [shape] at short valid ⊢
    refine ⟨fun char member => valid.digits char (List.mem_of_mem_take member), by simp, ?_⟩
    intro zero
    have single := valid.leading (by simpa using zero)
    rw [single] at short
    simp at short
  nonempty := by
    simp only [ne_eq, List.drop_eq_nil_iff]
    omega
  inside char member := isDigit_of_mem_digits (List.mem_of_mem_drop member)
  value := by rw [List.take_append_drop, ofDigits_digits, Nat.pow_zero, Nat.mul_one]
  count := by
    simp only [Decimal.leadingExponent] at short positive ⊢
    simp only [List.length_drop]
    omega

theorem positional_places (decimal : Decimal) : ∃ whole fraction zeros,
    Decimal.positional (digits decimal.coefficient) (decimal.leadingExponent + 1) =
      whole ++ '.' :: fraction ∧ Places decimal whole fraction zeros := by
  unfold Decimal.positional
  split
  · next small => exact ⟨_, _, _, rfl, places_small decimal small⟩
  · next positive =>
    split
    · next large =>
      exact ⟨_, _, _, by simp, places_large decimal large (by omega)⟩
    · next short => exact ⟨_, _, _, rfl, places_middle decimal short (by omega)⟩

/-- The text of a decimal is a numeral with a point or a power, and it stands for that decimal. -/
theorem ofText?_text (decimal : Decimal) : ∃ numeral,
    ofText? decimal.text = some numeral ∧ numeral.integer? = none ∧ numeral.decimal = decimal := by
  unfold Decimal.text
  dsimp only
  split
  · obtain ⟨whole, fraction, zeros, same, places⟩ := positional_places decimal
    refine ⟨⟨decimal.negative, whole, fraction, none⟩, ?_, by simp [integer?, places.nonempty], ?_⟩
    · rw [same]
      exact ofText?_fraction _ places.valid places.nonempty places.inside
    · have parts := ofParts_mul_pow decimal zeros
      rw [← places.value, ← places.count] at parts
      simpa [Numeral.decimal] using parts
  · obtain ⟨first, rest, same⟩ := List.exists_cons_of_ne_nil (digits_ne_nil decimal.coefficient)
    refine ⟨⟨decimal.negative, [first], rest, some decimal.leadingExponent⟩, ?_, by simp [integer?], ?_⟩
    · rw [same]
      exact ofText?_scientific _ _ fun _ member => isDigit_of_mem_digits (same ▸ member)
    · have exponent : decimal.leadingExponent - rest.length = decimal.exponent := by
        simp only [Decimal.leadingExponent, same, List.length_cons]
        omega
      have parts := ofParts_mul_pow decimal 0
      simp only [Numeral.decimal, List.singleton_append, ← same, ofDigits_digits, Option.getD_some,
        exponent]
      simpa using parts

end Numeral

end KeyProtection
