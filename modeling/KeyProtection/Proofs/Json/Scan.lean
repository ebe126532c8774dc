import Mathlib.Data.List.Chain
import KeyProtection.Json.Lexer
import KeyProtection.Json.Writer
import KeyProtection.Proofs.Numeral

/-! The scanner on written tokens. Texts end at their closing quote, and bare words at the
punctuation that follows; so tokens of which no two neighbours are atoms are found again. -/

namespace KeyProtection

namespace Json

/-- The characters that end a bare word. -/
def wordStops : List Char := [' ', '\t', '\n', '\r', '"', ',', ':', '[', ']', '\x7b', '\x7d']

end Json

/-- An atom that is written as a bare word from which it is read again. -/
structure Atom.IsWord (leaf : Atom) : Prop where
  nonempty : leaf.chars ≠ []
  plain : ∀ char ∈ leaf.chars, char ∉ Json.wordStops
  read : ofWord? leaf.chars = some leaf

namespace Numeral

def isNumeralChar (char : Char) : Bool := char.isDigit || ['-', '+', '.', 'e'].contains char

theorem not_mem_wordStops {char : Char} (numeral : isNumeralChar char = true) :
    char ∉ Json.wordStops := by
  intro stop
  have none : Json.wordStops.all (fun stop => !isNumeralChar stop) = true := by decide
  have other := List.all_eq_true.mp none char stop
  rw [numeral] at other
  cases other

theorem isNumeralChar_of_isDigit {char : Char} (digit : char.isDigit = true) :
    isNumeralChar char = true := by
  simp [isNumeralChar, digit]

theorem isNumeralChar_of_mem_signText {negative : Bool} {char : Char}
    (member : char ∈ Decimal.signText negative) : isNumeralChar char = true := by
  cases negative with
  | false => cases member
  | true =>
    rw [List.mem_singleton.mp member]
    decide

theorem isNumeralChar_of_mem_integerText {number : Int} {char : Char}
    (member : char ∈ integerText number) : isNumeralChar char = true := by
  cases number with
  | ofNat magnitude => exact isNumeralChar_of_isDigit (isDigit_of_mem_digits member)
  | negSucc below =>
    rcases List.mem_cons.mp member with rfl | digit
    · decide
    · exact isNumeralChar_of_isDigit (isDigit_of_mem_digits digit)

theorem isNumeralChar_of_mem_exponentText {exponent : Int} {char : Char}
    (member : char ∈ Decimal.exponentText exponent) : isNumeralChar char = true := by
  rw [exponentText_eq] at member
  rcases List.mem_cons.mp member with rfl | member
  · decide
  · rcases List.mem_cons.mp member with rfl | digit
    · split <;> decide
    · exact isNumeralChar_of_isDigit (isDigit_of_mem_padded digit)

theorem isNumeralChar_of_mem_scientific {run : List Char} {exponent : Int} {char : Char}
    (inside : ∀ char ∈ run, char.isDigit = true) (member : char ∈ Decimal.scientific run exponent) :
    isNumeralChar char = true := by
  have split : char ∈ run ∨ char = '.' ∨ char ∈ Decimal.exponentText exponent := by
    cases run with
    | nil => exact .inr (.inr member)
    | cons first rest =>
      cases rest with
      | nil =>
        have same : Decimal.scientific [first] exponent = first :: Decimal.exponentText exponent := rfl
        rw [same] at member
        rcases List.mem_cons.mp member with rfl | power
        · simp
        · exact .inr (.inr power)
      | cons next rest =>
        simp only [Decimal.scientific, List.mem_cons, List.mem_append] at member ⊢
        rcases member with first | point | (next | rest) | power
        · exact .inl (.inl first)
        · exact .inr (.inl point)
        · exact .inl (.inr (.inl next))
        · exact .inl (.inr (.inr rest))
        · exact .inr (.inr power)
  rcases split with digit | rfl | power
  · exact isNumeralChar_of_isDigit (inside char digit)
  · decide
  · exact isNumeralChar_of_mem_exponentText power

theorem isNumeralChar_of_mem_text {decimal : Decimal} {char : Char} (member : char ∈ decimal.text) :
    isNumeralChar char = true := by
  unfold Decimal.text at member
  rcases List.mem_append.mp member with sign | member
  · exact isNumeralChar_of_mem_signText sign
  · split at member
    · obtain ⟨whole, fraction, zeros, same, places⟩ := positional_places decimal
      rw [same] at member
      rcases List.mem_append.mp member with whole | member
      · exact isNumeralChar_of_isDigit (places.valid.digits char whole)
      · rcases List.mem_cons.mp member with rfl | fraction
        · decide
        · exact isNumeralChar_of_isDigit (places.inside char fraction)
    · exact isNumeralChar_of_mem_scientific (fun _ digit => isDigit_of_mem_digits digit) member

end Numeral

namespace Atom

/-- No fixed word is a numeral, so numerals are read as the numbers that they stand for. -/
theorem ofWord?_of_numeral {word : List Char} {numeral : Numeral}
    (read : Numeral.ofText? word = some numeral) :
    ofWord? word = some (match numeral.integer? with
      | some number => int number
      | none => decimal numeral.decimal) := by
  have differs (fixed : List Char) (other : Numeral.ofText? fixed = none) : word ≠ fixed := by
    rintro rfl
    rw [read] at other
    cases other
  rw [ofWord?, if_neg (differs _ rfl), if_neg (differs _ rfl), if_neg (differs _ rfl),
    if_neg (differs _ rfl), if_neg (differs _ rfl), if_neg (differs _ rfl), read]
  rfl

theorem isWord_int (number : Int) : (int number).IsWord where
  nonempty := by cases number <;> simp [chars, integerText, digits_ne_nil]
  plain _ member := Numeral.not_mem_wordStops (Numeral.isNumeralChar_of_mem_integerText member)
  read := by
    have found := Numeral.integer?_integerText number
    rw [Numeral.ofText?_integerText, Option.bind_some] at found
    rw [chars, ofWord?_of_numeral (Numeral.ofText?_integerText number), found]

theorem isWord_decimal (number : Decimal) : (decimal number).IsWord := by
  obtain ⟨numeral, read, noInteger, same⟩ := Numeral.ofText?_text number
  refine ⟨?_, fun _ member => Numeral.not_mem_wordStops (Numeral.isNumeralChar_of_mem_text member), ?_⟩
  · intro empty
    rw [show number.text = [] from empty] at read
    cases read
  · rw [chars, ofWord?_of_numeral read, noInteger, same]

/-- A fixed word that holds no mark and stands for its atom is a bare word. -/
theorem isWord_of_fixed {leaf : Atom} (nonempty : leaf.chars ≠ [])
    (plain : leaf.chars.all (fun char => !Json.wordStops.contains char) = true)
    (read : ofWord? leaf.chars = some leaf) : leaf.IsWord := by
  refine ⟨nonempty, ?_, read⟩
  intro char member stop
  have apart := List.all_eq_true.mp plain char member
  simp [stop] at apart

/-- An atom is a text, or it is written as a bare word. -/
theorem isText_or_isWord (leaf : Atom) : (∃ content, leaf = text content) ∨ leaf.IsWord := by
  cases leaf with
  | text content => exact .inl ⟨content, rfl⟩
  | int number => exact .inr (isWord_int number)
  | decimal number => exact .inr (isWord_decimal number)
  | null => exact .inr (isWord_of_fixed (by decide) (by decide) rfl)
  | nan => exact .inr (isWord_of_fixed (by decide) (by decide) rfl)
  | bool truth =>
    cases truth with
    | false => exact .inr (isWord_of_fixed (by decide) (by decide) rfl)
    | true => exact .inr (isWord_of_fixed (by decide) (by decide) rfl)
  | infinite negative =>
    cases negative with
    | false => exact .inr (isWord_of_fixed (by decide) (by decide) rfl)
    | true => exact .inr (isWord_of_fixed (by decide) (by decide) rfl)

end Atom

namespace Json

theorem not_mem_wordStops_iff (char : Char) : char ∉ wordStops ↔
    isBlank char = false ∧ char ≠ '"' ∧ punctuation? char = none := by
  simp only [wordStops, isBlank, punctuation?, List.mem_cons, List.not_mem_nil, or_false,
    Bool.or_eq_false_iff, beq_eq_false_iff_ne]
  grind

theorem foldlM_word (seen run : List Char) (found : List Token)
    (plain : ∀ char ∈ run, char ∉ wordStops) :
    run.foldlM lexStep (.word seen, found) = some (.word (run.reverse ++ seen), found) := by
  induction run generalizing seen with
  | nil => rfl
  | cons char run ih =>
    obtain ⟨blank, quote, mark⟩ := (not_mem_wordStops_iff char).mp (plain char (List.mem_cons_self ..))
    have step : lexStep (.word seen, found) char = some (.word (char :: seen), found) := by
      simp [lexStep, Scan.step, blank, quote, mark]
    have rest := ih (char :: seen) fun other member => plain other (List.mem_cons_of_mem _ member)
    simpa [List.foldlM_cons, step] using rest

theorem foldlM_isWord {leaf : Atom} (word : leaf.IsWord) (found : List Token) :
    leaf.chars.foldlM lexStep (.between, found) = some (.word leaf.chars.reverse, found) := by
  have plain := word.plain
  obtain ⟨first, rest, same⟩ := List.exists_cons_of_ne_nil word.nonempty
  rw [same] at plain ⊢
  obtain ⟨blank, quote, mark⟩ := (not_mem_wordStops_iff first).mp (plain first (List.mem_cons_self ..))
  have step : lexStep (.between, found) first = some (.word [first], found) := by
    simp [lexStep, Scan.step, blank, quote, mark]
  have more := foldlM_word [first] rest found fun other member =>
    plain other (List.mem_cons_of_mem _ member)
  simpa [List.foldlM_cons, step] using more

theorem hexDigit?_digitChar {digit : Nat} (small : digit < 16) :
    hexDigit? (Nat.digitChar digit) = some digit := by
  have all : ∀ digit < 16, hexDigit? (Nat.digitChar digit) = some digit := by decide
  exact all digit small

/-- A character written inside a text adds itself to what the scanner has read. -/
theorem foldlM_escape (char : Char) (seen : List Char) (found : List Token) :
    (escape char).foldlM lexStep (.text seen, found) = some (.text (char :: seen), found) := by
  unfold escape
  split
  · next same => rw [same]; rfl
  split
  · next same => rw [same]; rfl
  split
  · next same => rw [same]; rfl
  split
  · next same => rw [same]; rfl
  split
  · next same => rw [same]; rfl
  split
  · next same => rw [same]; rfl
  split
  · next same => rw [same]; rfl
  split
  · next control =>
    have high := hexDigit?_digitChar (by omega : char.toNat / 16 < 16)
    have low := hexDigit?_digitChar (by omega : char.toNat % 16 < 16)
    have zero : hexDigit? '0' = some 0 := by decide
    have code : char.toNat / 16 * 16 + char.toNat % 16 = char.toNat := by omega
    have plain : afterCode seen none char.toNat = some (.text (char :: seen)) := by
      rw [afterCode, if_neg (by omega), if_neg (by omega), Char.ofNat_toNat]
    simp [List.foldlM_cons, lexStep, Scan.step, zero, high, low, code, plain]
  · next quote backslash _ _ _ _ _ printed =>
    simp [lexStep, Scan.step, quote, backslash, printed]

theorem foldlM_content (content seen : List Char) (found : List Token) :
    (content.flatMap escape).foldlM lexStep (.text seen, found) =
      some (.text (content.reverse ++ seen), found) := by
  induction content generalizing seen with
  | nil => rfl
  | cons char content ih =>
    rw [List.flatMap_cons, List.foldlM_append, foldlM_escape]
    simpa using ih (char :: seen)

theorem foldlM_quoted (content : String) (found : List Token) :
    (quoted content).foldlM lexStep (.between, found) =
      some (.between, .atom (.text content) :: found) := by
  have start : lexStep (.between, found) '"' = some (.text [], found) := rfl
  have stop : lexStep (.text content.toList.reverse, found) '"' =
      some (.between, .atom (.text content) :: found) := by
    simp [lexStep, Scan.step]
  rw [quoted, List.foldlM_cons, start]
  simp only [Option.bind_eq_bind, Option.bind_some]
  rw [List.foldlM_append, foldlM_content]
  simpa using stop

/-- Where the scanner can stand once it has read tokens, the last of them first: after the last one,
or at the end of a word that nothing has ended yet. -/
inductive Standing : Scan × List Token → List Token → Prop where
  | after (found : List Token) : Standing (.between, found) found
  | inside {leaf : Atom} (word : leaf.IsWord) (found : List Token) :
      Standing (.word leaf.chars.reverse, found) (.atom leaf :: found)

def Token.isAtom : Token → Bool
  | .atom _ => true
  | _ => false

/-- Two tokens that may be neighbours. -/
def Apart (left right : Token) : Prop := left.isAtom = false ∨ right.isAtom = false

theorem foldlM_mark (token : Token) (mark : token.isAtom = false) (found : List Token) :
    token.chars.foldlM lexStep (.between, found) = some (.between, token :: found) := by
  cases token with
  | atom leaf => cases mark
  | _ => rfl

theorem foldlM_mark_word {leaf : Atom} (word : leaf.IsWord) (token : Token)
    (mark : token.isAtom = false) (found : List Token) :
    token.chars.foldlM lexStep (.word leaf.chars.reverse, found) =
      some (.between, token :: .atom leaf :: found) := by
  cases token with
  | atom leaf => cases mark
  | _ => simp [Token.chars, lexStep, Scan.step, isBlank, punctuation?, word.read]

theorem Standing.token {state : Scan × List Token} {done : List Token} (standing : Standing state done)
    (token : Token) (apart : ∀ last, done.head? = some last → Apart last token) :
    ∃ next, token.chars.foldlM lexStep state = some next ∧ Standing next (token :: done) := by
  cases standing with
  | after =>
    cases token with
    | atom leaf =>
      rcases leaf.isText_or_isWord with ⟨content, rfl⟩ | word
      · exact ⟨_, foldlM_quoted content done, .after _⟩
      · exact ⟨_, foldlM_isWord word done, .inside word done⟩
    | _ => exact ⟨_, foldlM_mark _ rfl done, .after _⟩
  | inside word found =>
    rcases apart _ rfl with other | mark
    · cases other
    · exact ⟨_, foldlM_mark_word word token mark found, .after _⟩

theorem Standing.tokens {state : Scan × List Token} {done : List Token} (standing : Standing state done)
    (tokens : List Token) (chain : (done.head?.toList ++ tokens).IsChain Apart) :
    ∃ last, (tokens.flatMap Token.chars).foldlM lexStep state = some last ∧
      Standing last (tokens.reverse ++ done) := by
  induction tokens generalizing state done with
  | nil => exact ⟨state, rfl, standing⟩
  | cons token tokens ih =>
    obtain ⟨next, read, reached⟩ := standing.token token (by
      intro last found
      rw [found] at chain
      exact (List.isChain_cons_cons.mp chain).1)
    obtain ⟨last, more, ended⟩ := ih reached (List.isChain_append.mp chain).2.1
    refine ⟨last, ?_, by simpa using ended⟩
    rw [List.flatMap_cons, List.foldlM_append, read]
    exact more

/-- Tokens that are apart are read back from their characters. -/
theorem lex?_chars (tokens : List Token) (chain : tokens.IsChain Apart) :
    lex? (tokens.flatMap Token.chars) = some tokens := by
  obtain ⟨last, read, standing⟩ := (Standing.after []).tokens tokens (by simpa using chain)
  rw [List.append_nil] at standing
  rw [lex?, read]
  generalize same : tokens.reverse = done at standing
  have order : done.reverse = tokens := by rw [← same, List.reverse_reverse]
  cases standing with
  | after => simp [Scan.finish?, order]
  | inside word found =>
    rw [← order]
    simp [Scan.finish?, word.read]

end Json

end KeyProtection
