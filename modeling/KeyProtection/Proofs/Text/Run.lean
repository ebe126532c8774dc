import KeyProtection.Proofs.Digits
import KeyProtection.Text.Integer

/-! Runs of digits. A natural number is read from digits with single underscores between them and from
nothing else in ASCII, and it is the number of the digits without the underscores. -/

namespace KeyProtection

namespace Text

def IsAscii (text : List Char) : Prop := ∀ char ∈ text, char.toNat < 128

/-- A text and the same text with underscores put between digits, one at a place. -/
inductive Grouped : List Char → List Char → Prop
  | nil : Grouped [] []
  | char (char : Char) {plain text : List Char} (rest : Grouped plain text) :
    Grouped (char :: plain) (char :: text)
  | underscore {first second : Char} {plain text : List Char} (left : first.isDigit)
    (right : second.isDigit) (rest : Grouped (second :: plain) text) :
    Grouped (first :: second :: plain) (first :: '_' :: text)

/-- At least one digit, with single underscores between some of them. -/
structure IsRun (digits run : List Char) : Prop where
  nonempty : digits ≠ []
  digit : ∀ char ∈ digits, char.isDigit
  grouped : Grouped digits run

theorem toNat_lt_of_isDigit {char : Char} (digit : char.isDigit) : char.toNat < 128 := by
  have last : char.toNat ≤ '9'.toNat := (Char.isDigit_iff_toNat.mp digit).2
  exact Nat.lt_of_le_of_lt last (by decide)

/-- The digits of ASCII are those from 0 to 9. -/
theorem digit?_eq_some_iff {char : Char} (ascii : char.toNat < 128) {number : Nat} :
    digit? char = some number ↔ char.isDigit ∧ char.toNat - '0'.toNat = number := by
  have others : zeros.tail.find? (fun start => start ≤ char.toNat && char.toNat < start + 10) =
      none := by
    have wide : ∀ start ∈ zeros.tail, 128 ≤ start := by decide
    apply List.find?_eq_none.mpr
    intro start member inside
    have above := wide start member
    simp only [Bool.and_eq_true, decide_eq_true_eq] at inside
    omega
  have leading : zeros = '0'.toNat :: zeros.tail := rfl
  have last : '9'.toNat = '0'.toNat + 9 := rfl
  rw [digit?, leading, List.find?_cons, others, Char.isDigit_iff_toNat]
  split
  · next inside =>
    simp only [Bool.and_eq_true, decide_eq_true_eq] at inside
    simp only [Option.map_some, Option.some.injEq]
    omega
  · next outside =>
    simp only [Bool.and_eq_false_iff, decide_eq_false_iff_not] at outside
    simp only [Option.map_none, reduceCtorEq, false_iff]
    omega

theorem digit?_of_isDigit {char : Char} (digit : char.isDigit) :
    digit? char = some (char.toNat - '0'.toNat) :=
  (digit?_eq_some_iff (toNat_lt_of_isDigit digit)).mpr ⟨digit, rfl⟩

/-- Whatever is read after a digit is read with its value. -/
theorem bind_digit?_eq_some_iff {Result : Type} {char : Char} (ascii : char.toNat < 128)
    {next : Nat → Option Result} {result : Result} :
    (digit? char).bind next = some result ↔
      char.isDigit ∧ next (char.toNat - '0'.toNat) = some result := by
  simp only [Option.bind_eq_some_iff, digit?_eq_some_iff ascii]
  constructor
  · rintro ⟨_, ⟨digit, rfl⟩, read⟩
    exact ⟨digit, read⟩
  · rintro ⟨digit, read⟩
    exact ⟨_, ⟨digit, rfl⟩, read⟩

theorem Grouped.exists_cons {first : Char} {plain text : List Char}
    (grouped : Grouped (first :: plain) text) : ∃ rest, text = first :: rest := by
  cases grouped with
  | char _ rest => exact ⟨_, rfl⟩
  | underscore _ _ rest => exact ⟨_, rfl⟩

/-- No underscore follows what is no digit. -/
theorem Grouped.after_mark {mark : Char} (noDigit : ¬ mark.isDigit) {plain text : List Char}
    (grouped : Grouped (mark :: plain) text) : ∃ rest, text = mark :: rest ∧ Grouped plain rest := by
  cases grouped with
  | char _ rest => exact ⟨_, rfl, rest⟩
  | underscore digit _ _ => exact absurd digit noDigit

/-- Of a text with underscores in it nothing else is new. -/
theorem Grouped.mem {plain text : List Char} (grouped : Grouped plain text) {char : Char}
    (member : char ∈ text) : char ∈ plain ∨ char = '_' := by
  induction grouped with
  | nil => cases member
  | char first _ step =>
    rcases List.mem_cons.mp member with rfl | later
    · exact .inl List.mem_cons_self
    · exact (step later).imp_left (List.mem_cons_of_mem first)
  | @underscore first second plain text _ _ _ step =>
    rcases List.mem_cons.mp member with rfl | later
    · exact .inl List.mem_cons_self
    · rcases List.mem_cons.mp later with rfl | rest
      · exact .inr rfl
      · exact (step rest).imp_left (List.mem_cons_of_mem first)

theorem ne_underscore_of_isDigit {char : Char} (digit : char.isDigit) : char ≠ '_' := by
  rintro rfl
  exact absurd digit (by decide)

/-- Without the underscores the digits are as many as they were. -/
theorem Grouped.countP_digits {digits run : List Char} (grouped : Grouped digits run)
    (digit : ∀ char ∈ digits, char.isDigit) : run.countP (· != '_') = digits.length := by
  induction grouped with
  | nil => rfl
  | char first _ step =>
    obtain ⟨head, rest⟩ := List.forall_mem_cons.mp digit
    simp [ne_underscore_of_isDigit head, step rest]
  | underscore left _ _ step =>
    obtain ⟨head, rest⟩ := List.forall_mem_cons.mp digit
    simp [ne_underscore_of_isDigit head, step rest]

theorem moreDigits_cons {char : Char} (digit : char.isDigit) (number : Nat) (rest : List Char) :
    moreDigits number (char :: rest) = moreDigits (10 * number + (char.toNat - '0'.toNat)) rest := by
  have other : ∀ next more, char = '_' → rest = next :: more → False :=
    fun _ _ same _ => ne_underscore_of_isDigit digit same
  rw [moreDigits.eq_3 _ _ _ other, digit?_of_isDigit digit, Option.bind_some]

/-- Digits that go on, with underscores between them, make the number go on. -/
theorem moreDigits_of_grouped {digits : List Char} (digit : ∀ char ∈ digits, char.isDigit)
    {first : Char} {rest : List Char} (grouped : Grouped (first :: digits) (first :: rest))
    (number : Nat) : moreDigits number rest = some (Nat.ofDigitChars 10 digits number) := by
  induction digits generalizing first rest number with
  | nil =>
    cases grouped with
    | char _ ended =>
      cases ended
      rfl
  | cons next digits step =>
    obtain ⟨head, others⟩ := List.forall_mem_cons.mp digit
    rw [Nat.ofDigitChars_cons]
    cases grouped with
    | char _ later =>
      obtain ⟨more, rfl⟩ := later.exists_cons
      rw [moreDigits_cons head]
      exact step others later _
    | underscore _ _ later =>
      obtain ⟨more, rfl⟩ := later.exists_cons
      rw [moreDigits, digit?_of_isDigit head, Option.bind_some]
      exact step others later _

/-- What makes a number go on is digits with underscores between them. -/
theorem grouped_of_moreDigits {text : List Char} (ascii : IsAscii text) {first : Char}
    (digit : first.isDigit) {number total : Nat} (read : moreDigits number text = some total) :
    ∃ digits, (∀ char ∈ digits, char.isDigit) ∧ Grouped (first :: digits) (first :: text) ∧
      Nat.ofDigitChars 10 digits number = total := by
  -- The digit in front goes along, since an underscore has to have one on both sides.
  fun_induction moreDigits number text generalizing first with
  | case1 number => exact ⟨[], by simp, .char first .nil, Option.some.inj read⟩
  | case2 number char rest step =>
    obtain ⟨head, others⟩ := List.forall_mem_cons.mp (List.forall_mem_cons.mp ascii).2
    obtain ⟨isDigit, later⟩ := (bind_digit?_eq_some_iff head).mp read
    obtain ⟨digits, inside, grouped, rfl⟩ := step _ others isDigit later
    exact ⟨char :: digits, List.forall_mem_cons.mpr ⟨isDigit, inside⟩,
      .underscore digit isDigit grouped, Nat.ofDigitChars_cons⟩
  | case3 number char rest _ step =>
    obtain ⟨head, others⟩ := List.forall_mem_cons.mp ascii
    obtain ⟨isDigit, later⟩ := (bind_digit?_eq_some_iff head).mp read
    obtain ⟨digits, inside, grouped, rfl⟩ := step _ others isDigit later
    exact ⟨char :: digits, List.forall_mem_cons.mpr ⟨isDigit, inside⟩, .char first grouped,
      Nat.ofDigitChars_cons⟩

/-- A natural number is read from a run of digits and nothing else. -/
theorem natural?_eq_some_iff {text : List Char} (ascii : IsAscii text) {number : Nat} :
    natural? text = some number ↔ ∃ digits, IsRun digits text ∧ ofDigits digits = number := by
  cases text with
  | nil =>
    simp only [natural?, reduceCtorEq, false_iff]
    rintro ⟨digits, ⟨nonempty, _, grouped⟩, _⟩
    cases grouped
    exact nonempty rfl
  | cons first rest =>
    obtain ⟨head, others⟩ := List.forall_mem_cons.mp ascii
    rw [natural?, bind_digit?_eq_some_iff head]
    constructor
    · rintro ⟨digit, later⟩
      obtain ⟨digits, inside, grouped, rfl⟩ := grouped_of_moreDigits others digit later
      exact ⟨first :: digits, ⟨by simp, List.forall_mem_cons.mpr ⟨digit, inside⟩, grouped⟩,
        ofDigits_cons first digits⟩
    · rintro ⟨digits, ⟨nonempty, digit, grouped⟩, rfl⟩
      obtain ⟨leading, digits, rfl⟩ := List.exists_cons_of_ne_nil nonempty
      obtain ⟨_, same⟩ := grouped.exists_cons
      obtain ⟨rfl, rfl⟩ := List.cons.inj same
      obtain ⟨isDigit, inside⟩ := List.forall_mem_cons.mp digit
      rw [ofDigits_cons]
      exact ⟨isDigit, moreDigits_of_grouped inside grouped _⟩

theorem IsRun.exists_cons {digits run : List Char} (isRun : IsRun digits run) :
    ∃ first rest, run = first :: rest ∧ first.isDigit := by
  obtain ⟨nonempty, digit, grouped⟩ := isRun
  obtain ⟨first, digits, rfl⟩ := List.exists_cons_of_ne_nil nonempty
  obtain ⟨rest, rfl⟩ := grouped.exists_cons
  exact ⟨first, rest, rfl, digit first List.mem_cons_self⟩

theorem IsRun.mem {digits run : List Char} (isRun : IsRun digits run) {char : Char}
    (member : char ∈ run) : char.isDigit ∨ char = '_' :=
  (isRun.grouped.mem member).imp_left (isRun.digit char)

theorem IsRun.isAscii {digits run : List Char} (isRun : IsRun digits run) : IsAscii run := by
  intro char member
  rcases isRun.mem member with digit | rfl
  · exact toNat_lt_of_isDigit digit
  · decide

theorem natural?_of_isRun {digits run : List Char} (isRun : IsRun digits run) :
    natural? run = some (ofDigits digits) :=
  (natural?_eq_some_iff isRun.isAscii).mpr ⟨digits, isRun, rfl⟩

/-- The digits of a number are a run, with underscores put between them or without. -/
theorem isRun_of_grouped {magnitude : Nat} {run : List Char}
    (grouped : Grouped (digits magnitude) run) : IsRun (digits magnitude) run where
  nonempty := digits_ne_nil magnitude
  digit _ member := isDigit_of_mem_digits member
  grouped := grouped

end Text

end KeyProtection
