import KeyProtection.Mask
import KeyProtection.Proofs.Numeral
import KeyProtection.Proofs.Text.Run

/-! Integers read from texts. A text of ASCII characters is read as an integer exactly if it is a run of
digits, no more than the runtime allows, with at most one sign in front and blanks around. -/

namespace KeyProtection

namespace Text

/-- The blanks of ASCII. -/
def asciiBlanks : List Char := [' ', '\t', '\n', '\x0b', '\x0c', '\r']

/-- A sign that may stand in front of a number. -/
inductive Sign where
  | absent
  | plus
  | minus

namespace Sign

def text : Sign → List Char
  | absent => []
  | plus => ['+']
  | minus => ['-']

def number : Sign → Nat → Int
  | minus, magnitude => -magnitude
  | absent, magnitude | plus, magnitude => magnitude

end Sign

/-- Blanks, the sign, the digits with underscores between them, and blanks. -/
inductive Decorated (sign : Sign) (digits : List Char) : List Char → Prop
  | intro {before run after : List Char} (blankBefore : ∀ char ∈ before, char ∈ asciiBlanks)
    (isRun : IsRun digits run) (blankAfter : ∀ char ∈ after, char ∈ asciiBlanks) :
    Decorated sign digits (before ++ (sign.text ++ (run ++ after)))

/-- A decimal integer, however decorated, with no more digits than are read. -/
def IsDecimal [Runtime] (text : List Char) : Prop :=
  ∃ sign digits, Decorated sign digits text ∧ Runtime.Allows digits.length

/-- There is no sign in front. -/
def IsUnsigned (text : List Char) : Prop :=
  (∀ rest, text ≠ '-' :: rest) ∧ ∀ rest, text ≠ '+' :: rest

theorem isBlank_iff {char : Char} (ascii : char.toNat < 128) :
    isBlank char ↔ char ∈ asciiBlanks := by
  have narrow : isBlank char = (char == ' ' || 9 ≤ char.toNat && char.toNat ≤ 13) := by
    have wide : ∀ range ∈ wideBlanks, 128 ≤ range.1 := by decide
    rw [isBlank, List.any_eq_false.mpr, Bool.or_false]
    intro range member inside
    have above := wide range member
    simp only [Bool.and_eq_true, decide_eq_true_eq] at inside
    omega
  have numbers : char ∈ asciiBlanks ↔ char.toNat = 32 ∨ char.toNat = 9 ∨ char.toNat = 10 ∨
      char.toNat = 11 ∨ char.toNat = 12 ∨ char.toNat = 13 := by
    simp only [asciiBlanks, List.mem_cons, List.not_mem_nil, or_false, ← Char.toNat_inj]
    rfl
  have space : char = ' ' ↔ char.toNat = 32 := Char.toNat_inj.symm
  rw [narrow, numbers]
  simp only [Bool.or_eq_true, beq_iff_eq, Bool.and_eq_true, decide_eq_true_eq, space]
  omega

theorem IsRun.isUnsigned {digits run : List Char} (isRun : IsRun digits run) (after : List Char) :
    IsUnsigned (run ++ after) := by
  obtain ⟨first, rest, rfl, digit⟩ := isRun.exists_cons
  constructor
  · intro more same
    rw [(List.cons.inj same).1] at digit
    exact absurd digit (by decide)
  · intro more same
    rw [(List.cons.inj same).1] at digit
    exact absurd digit (by decide)

/-- Every text is a sign, or none, and what follows it. -/
theorem exists_sign (text : List Char) : ∃ (sign : Sign) (rest : List Char),
    text = sign.text ++ rest ∧ (sign = .absent → IsUnsigned rest) := by
  fun_cases signed? text with
  | case1 rest => exact ⟨.minus, rest, rfl, nofun⟩
  | case2 rest => exact ⟨.plus, rest, rfl, nofun⟩
  | case3 _ noMinus noPlus => exact ⟨.absent, text, rfl, fun _ => ⟨noMinus, noPlus⟩⟩

/-- A sign is taken off and counts for the natural number behind it. -/
theorem signed?_append (sign : Sign) {rest : List Char}
    (unsigned : sign = .absent → IsUnsigned rest) :
    signed? (sign.text ++ rest) = (natural? rest).map sign.number := by
  cases sign with
  | absent =>
    obtain ⟨noMinus, noPlus⟩ := unsigned rfl
    rw [Sign.text, List.nil_append, signed?.eq_3 _ noMinus noPlus]
    cases natural? rest with
    | none => rfl
    | some magnitude => rfl
  | plus | minus =>
    rw [Sign.text, List.singleton_append, signed?]
    cases natural? rest with
    | none => rfl
    | some magnitude => rfl

/-- Cutting blanks off takes them from both ends. -/
theorem exists_blanks (text : List Char) : ∃ before after, text = before ++ (trim text ++ after) ∧
    (∀ char ∈ before, isBlank char) ∧ ∀ char ∈ after, isBlank char := by
  have ends := List.takeWhile_append_dropWhile (p := isBlank) (l := text)
  have back := List.takeWhile_append_dropWhile (p := isBlank) (l := (text.dropWhile isBlank).reverse)
  refine ⟨text.takeWhile isBlank, ((text.dropWhile isBlank).reverse.takeWhile isBlank).reverse,
    ?_, ?_, ?_⟩
  · rw [trim, ← List.reverse_append, back, List.reverse_reverse, ends]
  · exact List.all_eq_true.mp List.all_takeWhile
  · intro char member
    exact List.all_eq_true.mp List.all_takeWhile char (List.mem_reverse.mp member)

/-- What begins and ends with something else than a blank is all that stays of it between blanks. -/
theorem trim_between {before core after : List Char} (blankBefore : ∀ char ∈ before, isBlank char)
    (nonempty : core ≠ []) (solid : ∀ char ∈ core, isBlank char = false)
    (blankAfter : ∀ char ∈ after, isBlank char) : trim (before ++ (core ++ after)) = core := by
  have front : (before ++ (core ++ after)).dropWhile isBlank = core ++ after := by
    apply dropWhile_append_of_stop blankBefore
    intro char head
    obtain ⟨first, rest, rfl⟩ := List.exists_cons_of_ne_nil nonempty
    obtain rfl := Option.some.inj head
    exact solid first List.mem_cons_self
  have back : (after.reverse ++ core.reverse).dropWhile isBlank = core.reverse := by
    apply dropWhile_append_of_stop
    · intro char member
      exact blankAfter char (List.mem_reverse.mp member)
    · intro char head
      exact solid char (List.mem_reverse.mp (List.mem_of_head? head))
  rw [trim, front, List.reverse_append, back, List.reverse_reverse]

theorem isBlank_of_mem {blanks : List Char} (blank : ∀ char ∈ blanks, char ∈ asciiBlanks) :
    ∀ char ∈ blanks, isBlank char := by
  have each : ∀ char ∈ asciiBlanks, isBlank char := by simp [asciiBlanks, isBlank]
  exact fun char member => each char (blank char member)

/-- Neither a sign nor a digit nor an underscore is a blank. -/
theorem isBlank_eq_false (sign : Sign) {digits run : List Char} (isRun : IsRun digits run) :
    ∀ char ∈ sign.text ++ run, isBlank char = false := by
  intro char member
  rcases List.mem_append.mp member with mark | inside
  · cases sign with
    | absent => cases mark
    | plus | minus =>
      rw [List.mem_singleton.mp mark]
      decide
  · rcases isRun.mem inside with digit | rfl
    · rw [Bool.eq_false_iff, ne_eq, isBlank_iff (toNat_lt_of_isDigit digit)]
      have others : ∀ char ∈ asciiBlanks, ¬ char.isDigit := by simp [asciiBlanks]
      exact fun blank => others char blank digit
    · decide

theorem IsRun.signed_ne_nil (sign : Sign) {digits run : List Char} (isRun : IsRun digits run) :
    sign.text ++ run ≠ [] := by
  obtain ⟨first, rest, rfl, _⟩ := isRun.exists_cons
  simp

/-- An integer is read from a sign and digits, however decorated, and from nothing else. -/
theorem integer?_eq_some_iff {text : List Char} (ascii : IsAscii text) {number : Int} :
    integer? text = some number ↔
      ∃ sign digits, Decorated sign digits text ∧ sign.number (ofDigits digits) = number := by
  constructor
  · intro read
    obtain ⟨before, after, parts, blankBefore, blankAfter⟩ := exists_blanks text
    obtain ⟨sign, rest, signed, unsigned⟩ := exists_sign (trim text)
    rw [integer?, signed, signed?_append sign unsigned] at read
    obtain ⟨magnitude, found, rfl⟩ := Option.map_eq_some_iff.mp read
    rw [signed, List.append_assoc] at parts
    rw [parts] at ascii ⊢
    obtain ⟨front, others⟩ := List.forall_mem_append.mp ascii
    obtain ⟨_, others⟩ := List.forall_mem_append.mp others
    obtain ⟨middle, back⟩ := List.forall_mem_append.mp others
    obtain ⟨digits, isRun, rfl⟩ := (natural?_eq_some_iff middle).mp found
    refine ⟨sign, digits, .intro ?_ isRun ?_, rfl⟩
    · intro char member
      exact (isBlank_iff (front char member)).mp (blankBefore char member)
    · intro char member
      exact (isBlank_iff (back char member)).mp (blankAfter char member)
  · rintro ⟨sign, digits, ⟨blankBefore, isRun, blankAfter⟩, rfl⟩
    have core := trim_between (isBlank_of_mem blankBefore) (isRun.signed_ne_nil sign)
      (isBlank_eq_false sign isRun) (isBlank_of_mem blankAfter)
    have unsigned := isRun.isUnsigned []
    rw [List.append_nil] at unsigned
    rw [integer?, ← List.append_assoc sign.text, core, signed?_append sign fun _ => unsigned,
      natural?_of_isRun isRun]
    rfl

/-- The run of digits of a decorated number is found behind its blanks and its sign. -/
theorem digitRun_decorated {before digits run after : List Char} (sign : Sign)
    (blankBefore : ∀ char ∈ before, char ∈ asciiBlanks) (isRun : IsRun digits run)
    (blankAfter : ∀ char ∈ after, char ∈ asciiBlanks) :
    digitRun (before ++ (sign.text ++ (run ++ after))) = run := by
  have start : (before ++ (sign.text ++ (run ++ after))).dropWhile isBlank =
      sign.text ++ (run ++ after) := by
    apply dropWhile_append_of_stop (isBlank_of_mem blankBefore)
    intro char head
    obtain ⟨first, rest, same⟩ := List.exists_cons_of_ne_nil (isRun.signed_ne_nil sign)
    rw [← List.append_assoc, same] at head
    obtain rfl := Option.some.inj head
    exact isBlank_eq_false sign isRun first (same ▸ List.mem_cons_self)
  have stop : (run ++ after).takeWhile (fun char => char == '_' || (digit? char).isSome) = run := by
    apply takeWhile_append_of_stop
    · intro char member
      rcases isRun.mem member with digit | rfl
      · simp [digit?_of_isDigit digit]
      · rfl
    · have blank : asciiBlanks.all (fun char => !(char == '_' || (digit? char).isSome)) := by decide
      intro char head
      have other := List.all_eq_true.mp blank char (blankAfter char (List.mem_of_head? head))
      rwa [Bool.not_eq_true'] at other
  cases sign with
  | absent =>
    obtain ⟨noMinus, noPlus⟩ := isRun.isUnsigned after
    rw [digitRun, start]
    split
    · next rest same => exact absurd same (noMinus rest)
    · next rest same => exact absurd same (noPlus rest)
    · exact stop
  | plus | minus =>
    rw [digitRun, start]
    exact stop

/-- A decorated number has too many digits if they are more than the limit, and no others. -/
theorem excessDigits?_of_decorated [Runtime] {sign : Sign} {digits text : List Char}
    (decorated : Decorated sign digits text) :
    excessDigits? text = (Runtime.exceeded? digits.length).map fun limit => (limit, digits.length) := by
  obtain ⟨blankBefore, isRun, blankAfter⟩ := decorated
  have count := isRun.grouped.countP_digits isRun.digit
  simp only [excessDigits?, digitRun_decorated sign blankBefore isRun blankAfter, count,
    natural?_of_isRun isRun, Option.isSome_some, if_true]

theorem excessDigits?_eq_none_iff [Runtime] {sign : Sign} {digits text : List Char}
    (decorated : Decorated sign digits text) :
    excessDigits? text = none ↔ Runtime.Allows digits.length := by
  rw [excessDigits?_of_decorated decorated, Option.map_eq_none_iff, Runtime.Allows]

theorem digitRun_sublist (text : List Char) : (digitRun text).Sublist text := by
  rw [digitRun]
  refine (List.takeWhile_sublist _).trans (.trans ?_ (List.dropWhile_sublist isBlank))
  split
  · next same => rw [same]; exact List.sublist_cons_self _ _
  · next same => rw [same]; exact List.sublist_cons_self _ _
  · exact List.Sublist.refl _

/-- A text of few digits has never too many. -/
theorem excessDigits?_eq_none [Runtime] {text : List Char} (ascii : IsAscii text)
    (few : Runtime.Allows (text.countP Char.isDigit)) : excessDigits? text = none := by
  simp only [excessDigits?, ite_eq_right_iff, Option.map_eq_none_iff]
  intro read
  have part := digitRun_sublist text
  have inside : IsAscii (digitRun text) := fun char member => ascii char (part.subset member)
  obtain ⟨number, read⟩ := Option.isSome_iff_exists.mp read
  obtain ⟨digits, isRun, _⟩ := (natural?_eq_some_iff inside).mp read
  have digit : ∀ char ∈ digitRun text, (char != '_') = true → char.isDigit = true := by
    intro char member other
    exact (isRun.mem member).resolve_right (bne_iff_ne.mp other)
  have most := List.countP_mono_left digit
  have whole := part.countP_le (p := Char.isDigit)
  exact few.mono (Nat.le_trans most whole)

theorem Decorated.bare (sign : Sign) {digits run : List Char} (isRun : IsRun digits run) :
    Decorated sign digits (sign.text ++ run) := by
  have decorated : Decorated sign digits ([] ++ (sign.text ++ (run ++ []))) :=
    .intro (by simp) isRun (by simp)
  simpa using decorated

/-- The text of an integer, with underscores put between its digits or without, is one of its
decorations. -/
theorem exists_decorated_of_grouped {number : Int} {text : List Char}
    (grouped : Grouped (integerText number) text) :
    ∃ sign, Decorated sign (digits number.natAbs) text ∧ sign.number number.natAbs = number := by
  cases number with
  | ofNat magnitude => exact ⟨.absent, .bare .absent (isRun_of_grouped grouped), rfl⟩
  | negSucc below =>
    obtain ⟨rest, rfl, later⟩ := Grouped.after_mark (by decide) grouped
    exact ⟨.minus, .bare .minus (isRun_of_grouped later), rfl⟩

end Text

namespace Value

variable [Runtime]

/-- A text has too many digits, or it is an integer, or it is none. -/
theorem toInteger_text_cases (content : String) :
    (∃ limit count, Text.excessDigits? content.toList = some (limit, count) ∧
      (text content).toInteger = .error (.tooManyDigits limit count)) ∨
    (∃ number, Text.excessDigits? content.toList = none ∧
      Text.integer? content.toList = some number ∧ (text content).toInteger = .ok number) ∨
    Text.excessDigits? content.toList = none ∧ Text.integer? content.toList = none ∧
      (text content).toInteger = .error (.notDecimal content) := by
  cases excess : Text.excessDigits? content.toList with
  | some found => exact .inl ⟨found.1, found.2, rfl, by simp only [toInteger, excess]⟩
  | none =>
    cases found : Text.integer? content.toList with
    | some number => exact .inr (.inl ⟨number, rfl, rfl, by simp only [toInteger, excess, found]⟩)
    | none => exact .inr (.inr ⟨rfl, rfl, by simp only [toInteger, excess, found]⟩)

/-- A text is read as the integer that it shows, if it shows one with no more digits than are read. -/
theorem toInteger_text_eq_ok_iff {content : String} (ascii : Text.IsAscii content.toList)
    {number : Int} :
    (text content).toInteger = .ok number ↔
      ∃ sign digits, Text.Decorated sign digits content.toList ∧
        Runtime.Allows digits.length ∧ sign.number (ofDigits digits) = number := by
  constructor
  · intro read
    rcases toInteger_text_cases content with
      ⟨limit, count, _, failed⟩ | ⟨other, fits, found, result⟩ | ⟨_, _, failed⟩
    · rw [failed] at read
      cases read
    · rw [result] at read
      obtain rfl := Except.ok.inj read
      obtain ⟨sign, digits, decorated, same⟩ := (Text.integer?_eq_some_iff ascii).mp found
      exact ⟨sign, digits, decorated, (Text.excessDigits?_eq_none_iff decorated).mp fits, same⟩
    · rw [failed] at read
      cases read
  · rintro ⟨sign, digits, decorated, few, rfl⟩
    have fits := (Text.excessDigits?_eq_none_iff decorated).mpr few
    have found := (Text.integer?_eq_some_iff ascii).mpr ⟨sign, digits, decorated, rfl⟩
    simp only [toInteger, fits, found]

theorem exists_toInteger_text_iff {content : String} (ascii : Text.IsAscii content.toList) :
    (∃ number, (text content).toInteger = .ok number) ↔ Text.IsDecimal content.toList := by
  constructor
  · rintro ⟨number, read⟩
    obtain ⟨sign, digits, decorated, few, _⟩ := (toInteger_text_eq_ok_iff ascii).mp read
    exact ⟨sign, digits, decorated, few⟩
  · rintro ⟨sign, digits, decorated, few⟩
    exact ⟨_, (toInteger_text_eq_ok_iff ascii).mpr ⟨sign, digits, decorated, few, rfl⟩⟩

/-- A text that is not read is a wrong value, and with few digits it is because it is no decimal
integer. -/
theorem error_of_toInteger_text {content : String} {error : Error}
    (failed : (text content).toInteger = .error error) : error.errorClass = .value ∧
      (Text.IsAscii content.toList → Runtime.Allows (content.toList.countP Char.isDigit) →
        error = .notDecimal content) := by
  rcases toInteger_text_cases content with
    ⟨limit, count, excess, result⟩ | ⟨number, _, _, result⟩ | ⟨_, _, result⟩
  · rw [result] at failed
    obtain rfl := Except.error.inj failed
    refine ⟨rfl, ?_⟩
    intro ascii few
    rw [Text.excessDigits?_eq_none ascii few] at excess
    cases excess
  · rw [result] at failed
    cases failed
  · rw [result] at failed
    obtain rfl := Except.error.inj failed
    exact ⟨rfl, fun _ _ => rfl⟩

end Value

end KeyProtection
