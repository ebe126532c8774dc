import Mathlib.Data.List.Forall2
import KeyProtection.Proofs.Entries
import KeyProtection.Proofs.Value.Display
import KeyProtection.Settings

/-! Spellings of level names. A text names a level exactly if it has the letters of the name in any
mixture of cases, where the dotless i is one more case of its letter. Upper case can turn one character
into several, but no name has such letters in a row, and values that are no texts show a character that
no name has, or spell something else. -/

namespace KeyProtection

/-- A letter in either case, or the dotless i for its letter. -/
def IsCaseOf (char letter : Char) : Prop :=
  char = letter ∨ char = letter.toLower ∨ letter = 'I' ∧ char = 'ı'

/-- As many characters as the name has, each a case of the letter at its position. -/
def Spells (text name : List Char) : Prop := List.Forall₂ IsCaseOf text name

theorem isUpper_iff {char : Char} : char.isUpper ↔ 65 ≤ char.toNat ∧ char.toNat ≤ 90 :=
  decide_eq_true_iff.trans (and_congr UInt32.le_iff_toNat_le UInt32.le_iff_toNat_le)

theorem isLower_iff {char : Char} : char.isLower ↔ 97 ≤ char.toNat ∧ char.toNat ≤ 122 := by
  refine Bool.and_eq_true_iff.trans (and_congr ?_ ?_)
  · exact decide_eq_true_iff.trans UInt32.le_iff_toNat_le
  · exact decide_eq_true_iff.trans UInt32.le_iff_toNat_le

theorem isDigit_iff {char : Char} : char.isDigit ↔ 48 ≤ char.toNat ∧ char.toNat ≤ 57 := by
  refine Bool.and_eq_true_iff.trans (and_congr ?_ ?_)
  · exact decide_eq_true_iff.trans UInt32.le_iff_toNat_le
  · exact decide_eq_true_iff.trans UInt32.le_iff_toNat_le

theorem isAlpha_iff {char : Char} : char.isAlpha ↔
    65 ≤ char.toNat ∧ char.toNat ≤ 90 ∨ 97 ≤ char.toNat ∧ char.toNat ≤ 122 :=
  Bool.or_eq_true_iff.trans (or_congr isUpper_iff isLower_iff)

theorem toNat_lt_of_isAlpha {char : Char} (alpha : char.isAlpha) : char.toNat < 128 := by
  rw [isAlpha_iff] at alpha
  omega

theorem isAlpha_of_isUpper {char : Char} (upper : char.isUpper) : char.isAlpha :=
  isAlpha_iff.mpr (.inl (isUpper_iff.mp upper))

theorem not_isAlpha_of_isDigit {char : Char} (digit : char.isDigit) : ¬ char.isAlpha := by
  rw [isDigit_iff] at digit
  rw [isAlpha_iff]
  omega

instance (char letter : Char) : Decidable (IsCaseOf char letter) :=
  inferInstanceAs (Decidable (_ ∨ _))

/-- What holds of all characters of ASCII by their codes. -/
theorem of_isAscii (holds : Char → Prop) (each : ∀ code < 128, holds (Char.ofNat code)) {char : Char}
    (ascii : char.toNat < 128) : holds char :=
  Char.ofNat_toNat char ▸ each char.toNat ascii

theorem isCaseOf_toUpper {char : Char} (ascii : char.toNat < 128) : IsCaseOf char char.toUpper :=
  of_isAscii (fun char => IsCaseOf char char.toUpper) (by decide) ascii

/-- A letter in upper case, its lower case, and the way back. -/
theorem cases_of_isUpper {letter : Char} (upper : letter.isUpper) :
    letter.toLower.isAlpha ∧ letter.toUpper = letter ∧ letter.toLower.toUpper = letter :=
  of_isAscii (fun letter => letter.isUpper →
    letter.toLower.isAlpha ∧ letter.toUpper = letter ∧ letter.toLower.toUpper = letter)
    (by decide) (toNat_lt_of_isAlpha (isAlpha_of_isUpper upper)) upper

theorem IsCaseOf.isAlpha {char letter : Char} (isCase : IsCaseOf char letter)
    (upper : letter.isUpper) : char.isAlpha ∨ char = 'ı' := by
  rcases isCase with rfl | rfl | ⟨_, same⟩
  · exact .inl (isAlpha_of_isUpper upper)
  · exact .inl (cases_of_isUpper upper).1
  · exact .inr same

namespace Text

/-- A name in upper case that holds no letters in a row which stand for one character, the dotless i
apart. -/
structure IsPlain (name : List Char) : Prop where
  letters : ∀ letter ∈ name, letter.isUpper
  expansions : ∀ entry ∈ wideLetters, entry.2 <:+: name → entry.1 = 'ı'

theorem IsPlain.tail {front rest : List Char} (plain : IsPlain (front ++ rest)) : IsPlain rest where
  letters letter member := plain.letters letter (List.mem_append_right front member)
  expansions entry member inside :=
    plain.expansions entry member (inside.trans (List.suffix_append front rest).isInfix)

theorem upperChar_cases (char : Char) :
    char.toNat < 128 ∧ upperChar char = [char.toUpper] ∨
    (char, upperChar char) ∈ wideLetters ∨
    128 ≤ char.toNat ∧ upperChar char = [char] := by
  by_cases ascii : char.toNat < 128
  · exact .inl ⟨ascii, if_pos ascii⟩
  · have wide : upperChar char = (wideLetters.lookup char).getD [char] := if_neg ascii
    cases found : wideLetters.lookup char with
    | none => exact .inr (.inr ⟨Nat.le_of_not_lt ascii, by rw [wide, found]; rfl⟩)
    | some letters =>
      obtain ⟨before, after, same, _⟩ := List.lookup_eq_some_iff.mp found
      right
      left
      rw [wide, found, same]
      exact List.mem_append_right before List.mem_cons_self

theorem upper_cons (char : Char) (rest : List Char) :
    upper (char :: rest) = upperChar char ++ upper rest :=
  List.flatMap_cons

/-- Every case of a letter has that letter alone for its upper case. -/
theorem upperChar_of_isCaseOf {char letter : Char} (isCase : IsCaseOf char letter)
    (upper : letter.isUpper) : upperChar char = [letter] := by
  obtain ⟨alpha, fixed, back⟩ := cases_of_isUpper upper
  rcases isCase with rfl | rfl | ⟨rfl, rfl⟩
  · have ascii := toNat_lt_of_isAlpha (isAlpha_of_isUpper upper)
    rw [upperChar, if_pos ascii, fixed]
  · rw [upperChar, if_pos (toNat_lt_of_isAlpha alpha), back]
  · rfl

theorem upper_of_spells {text name : List Char} (spelled : Spells text name)
    (letters : ∀ letter ∈ name, letter.isUpper) : upper text = name := by
  induction spelled with
  | nil => rfl
  | @cons char letter text name isCase _ step =>
    obtain ⟨first, rest⟩ := List.forall_mem_cons.mp letters
    rw [upper_cons, upperChar_of_isCaseOf isCase first, step rest]
    rfl

/-- A text whose upper case is a plain name spells it character by character. -/
theorem spells_upper {text : List Char} (plain : IsPlain (upper text)) : Spells text (upper text) := by
  induction text with
  | nil => exact .nil
  | cons char rest step =>
    rw [upper_cons] at plain ⊢
    have later := step plain.tail
    rcases upperChar_cases char with ⟨ascii, single⟩ | wide | ⟨outside, single⟩
    · rw [single] at plain ⊢
      exact .cons (isCaseOf_toUpper ascii) later
    · -- The letters that the character turns into stand in the name, so that it can be but one.
      have dotless : char = 'ı' :=
        plain.expansions _ wide (List.prefix_append (upperChar char) (upper rest)).isInfix
      subst dotless
      exact .cons (.inr (.inr ⟨rfl, rfl⟩)) later
    · rw [single] at plain
      have letter := plain.letters char List.mem_cons_self
      have inside := toNat_lt_of_isAlpha (isAlpha_of_isUpper letter)
      omega

theorem upper_eq_iff_spells {text name : List Char} (plain : IsPlain name) :
    upper text = name ↔ Spells text name := by
  constructor
  · rintro rfl
    exact spells_upper plain
  · intro spelled
    exact upper_of_spells spelled plain.letters

end Text

namespace Decimal

theorem point_mem_positional (run : List Char) (position : Int) : '.' ∈ positional run position := by
  unfold positional
  split
  · simp
  · split
    · simp
    · simp

theorem head_mem_scientific (first : Char) (rest : List Char) (exponent : Int) :
    first ∈ scientific (first :: rest) exponent := by
  cases rest with
  | nil => exact List.mem_cons_self
  | cons second rest => exact List.mem_cons_self

/-- A decimal is written with a point, or else with a digit in front. -/
theorem point_or_digit_mem_text (decimal : Decimal) :
    '.' ∈ decimal.text ∨ ∃ char ∈ decimal.text, char.isDigit := by
  simp only [text]
  split
  · exact .inl (List.mem_append_right _ (point_mem_positional _ _))
  · right
    obtain ⟨first, rest, same⟩ := List.exists_cons_of_ne_nil (digits_ne_nil decimal.coefficient)
    have digit : first.isDigit := isDigit_of_mem_digits (same ▸ List.mem_cons_self)
    refine ⟨first, List.mem_append_right _ ?_, digit⟩
    rw [same]
    exact head_mem_scientific first rest _

end Decimal

namespace Settings

/-- The names of the levels are plain. -/
theorem isPlain_of_named {name : String} {level : Int} (named : (name, level) ∈ Level.named) :
    Text.IsPlain name.toList := by
  have letters : ∀ entry ∈ Level.named, ∀ letter ∈ entry.1.toList, letter.isUpper := by
    simp [Level.named]
  have expansions : ∀ entry ∈ Level.named, ∀ wide ∈ Text.wideLetters,
      wide.2 <:+: entry.1.toList → wide.1 = 'ı' := by
    simp [Level.named, Text.wideLetters, List.infix_cons_iff]
  exact ⟨letters _ named, expansions _ named⟩

/-- A level is named by what spells its name. -/
theorem namedLevel?_eq_some_iff {shown : List Char} {level : Int} :
    namedLevel? shown = some level ↔
      ∃ name, (name, level) ∈ Level.named ∧ Spells shown name.toList := by
  have distinct : (Level.named.map Prod.fst).Nodup := by decide
  rw [namedLevel?, lookup_eq_some_iff_mem distinct]
  constructor
  · intro named
    have plain := isPlain_of_named named
    rw [String.toList_ofList] at plain
    refine ⟨_, named, ?_⟩
    rw [String.toList_ofList]
    exact Text.spells_upper plain
  · rintro ⟨name, named, spelled⟩
    rw [(Text.upper_eq_iff_spells (isPlain_of_named named)).mpr spelled, String.ofList_toList]
    exact named

theorem isCaseOf_of_mem {text name : List Char} (spelled : Spells text name) {char : Char}
    (member : char ∈ text) : ∃ letter ∈ name, IsCaseOf char letter := by
  induction spelled with
  | nil => cases member
  | @cons first letter text name isCase _ step =>
    rcases List.mem_cons.mp member with rfl | later
    · exact ⟨letter, List.mem_cons_self, isCase⟩
    · obtain ⟨other, inside, found⟩ := step later
      exact ⟨other, List.mem_cons_of_mem letter inside, found⟩

/-- What names a level has letters only. -/
theorem isAlpha_of_namedLevel? {shown : List Char} {level : Int} (named : namedLevel? shown = some level)
    {char : Char} (member : char ∈ shown) : char.isAlpha ∨ char = 'ı' := by
  obtain ⟨name, listed, spelled⟩ := namedLevel?_eq_some_iff.mp named
  obtain ⟨letter, inside, isCase⟩ := isCaseOf_of_mem spelled member
  exact isCase.isAlpha ((isPlain_of_named listed).letters letter inside)

/-- A character that is no letter keeps a text from naming a level. -/
theorem namedLevel?_of_mark {shown : List Char} {char : Char} (member : char ∈ shown)
    (mark : ¬ (char.isAlpha ∨ char = 'ı')) : namedLevel? shown = none := by
  apply Option.eq_none_iff_forall_ne_some.mpr
  intro level named
  exact mark (isAlpha_of_namedLevel? named member)

theorem namedLevel?_of_isDigit {shown : List Char} {char : Char} (member : char ∈ shown)
    (digit : char.isDigit) : namedLevel? shown = none := by
  apply namedLevel?_of_mark member
  rintro (alpha | rfl)
  · exact not_isAlpha_of_isDigit digit alpha
  · exact absurd digit (by decide)

theorem namedLevel?_integerText (number : Int) : namedLevel? (integerText number) = none := by
  cases number with
  | ofNat number =>
    obtain ⟨char, member⟩ := List.exists_mem_of_ne_nil _ (digits_ne_nil number)
    exact namedLevel?_of_isDigit member (isDigit_of_mem_digits member)
  | negSucc below => exact namedLevel?_of_mark (List.mem_cons_self : '-' ∈ _) (by decide)

theorem namedLevel?_float (number : Floating) : namedLevel? number.text = none := by
  cases number with
  | finite decimal =>
    rcases Decimal.point_or_digit_mem_text decimal with point | ⟨char, member, digit⟩
    · exact namedLevel?_of_mark point (by decide)
    · exact namedLevel?_of_isDigit member digit
  | infinite negative =>
    cases negative with
    | false => decide
    | true => decide
  | nan occurrence =>
    have shown : (Floating.nan occurrence).text = ['n', 'a', 'n'] := rfl
    rw [shown]
    decide

theorem namedLevel?_time (moment : DateTime) : namedLevel? moment.text = none := by
  have dash : '-' ∈ moment.text := by
    simp only [DateTime.text, List.mem_append]
    exact .inl (.inl (.inl (.inr List.mem_cons_self)))
  exact namedLevel?_of_mark dash (by decide)

/-- Only texts name levels. -/
theorem namedLevel?_of_kind [Runtime] {value : Value} (other : value.kind ≠ .text) {shown : List Char}
    (displayed : value.display = .ok shown) : namedLevel? shown = none := by
  cases value with
  | null => exact Except.ok.inj displayed ▸ by decide
  | bool truth =>
    cases truth with
    | false => exact Except.ok.inj displayed ▸ by decide
    | true => exact Except.ok.inj displayed ▸ by decide
  | int number =>
    obtain ⟨_, rfl⟩ := Text.ofInteger_eq_ok_iff.mp displayed
    exact namedLevel?_integerText number
  | flags set =>
    obtain ⟨_, rfl⟩ := Text.ofInteger_eq_ok_iff.mp displayed
    exact namedLevel?_integerText set.bits
  | float number => exact Except.ok.inj displayed ▸ namedLevel?_float number
  | time moment => exact Except.ok.inj displayed ▸ namedLevel?_time moment
  | text content => exact absurd rfl other
  | context label =>
    obtain ⟨inner, _, rfl⟩ := map_eq_ok_iff.mp displayed
    exact namedLevel?_of_mark (List.mem_append_right _ List.mem_cons_self : ')' ∈ _) (by decide)
  | list items =>
    obtain ⟨inner, _, rfl⟩ := map_eq_ok_iff.mp displayed
    exact namedLevel?_of_mark (List.mem_cons_self : '[' ∈ _) (by decide)
  | dict entries =>
    obtain ⟨inner, _, rfl⟩ := map_eq_ok_iff.mp displayed
    exact namedLevel?_of_mark (List.mem_cons_self : '\x7b' ∈ _) (by decide)

end Settings

end KeyProtection
