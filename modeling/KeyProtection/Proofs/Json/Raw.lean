import KeyProtection.Proofs.Json.Scan

/-! Characters put between quotes as they are. Plain ones are the content of one text. Any others are
read as texts that are all shorter than the characters themselves, so that no text with a quote, a
backslash or a control character is ever read back from itself. -/

namespace KeyProtection.Json

/-- A character that stands for itself inside a text. -/
def IsPlain (char : Char) : Prop := char ≠ '"' ∧ char ≠ '\\' ∧ 32 ≤ char.toNat

instance : DecidablePred IsPlain := fun char =>
  inferInstanceAs (Decidable (char ≠ '"' ∧ char ≠ '\\' ∧ 32 ≤ char.toNat))

/-- Characters that can stand between quotes as they are. -/
def ArePlain (run : List Char) : Prop := ∀ char ∈ run, IsPlain char

instance : DecidablePred ArePlain := fun run => List.decidableBAll IsPlain run

@[simp] theorem arePlain_nil : ArePlain [] := fun _ member => nomatch member

@[simp] theorem arePlain_cons (char : Char) (run : List Char) :
    ArePlain (char :: run) ↔ IsPlain char ∧ ArePlain run := List.forall_mem_cons

@[simp] theorem arePlain_append (left right : List Char) :
    ArePlain (left ++ right) ↔ ArePlain left ∧ ArePlain right := List.forall_mem_append

/-- The tokens found before do not matter to the scanner. -/
theorem foldlM_lexStep (run : List Char) (scan : Scan) (found : List Token) :
    run.foldlM lexStep (scan, found) =
      (run.foldlM lexStep (scan, [])).map fun last => (last.1, last.2 ++ found) := by
  induction run generalizing scan found with
  | nil => rfl
  | cons char rest later =>
    rw [List.foldlM_cons, List.foldlM_cons, lexStep, lexStep]
    cases scan.step char with
    | none => rfl
    | some reached =>
      obtain ⟨next, tokens⟩ := reached
      simp only [Option.map_some, Option.bind_eq_bind, Option.bind_some, List.append_nil]
      rw [later next (tokens.reverse ++ found), later next tokens.reverse, Option.map_map]
      congr 1
      funext last
      simp

theorem step_plain {char : Char} (plain : IsPlain char) (seen : List Char) :
    (Scan.text seen).step char = some (.text (char :: seen), []) := by
  obtain ⟨quote, backslash, printed⟩ := plain
  rw [Scan.step, if_neg quote, if_neg backslash, if_neg (Nat.not_lt.mpr printed)]

theorem foldlM_plain {run : List Char} (plain : ArePlain run) (seen : List Char)
    (found : List Token) :
    run.foldlM lexStep (.text seen, found) = some (.text (run.reverse ++ seen), found) := by
  induction run generalizing seen with
  | nil => rfl
  | cons char rest later =>
    have step : lexStep (.text seen, found) char = some (.text (char :: seen), found) := by
      simp only [lexStep, step_plain (plain char List.mem_cons_self), Option.map_some,
        List.reverse_nil, List.nil_append]
    rw [List.foldlM_cons, step]
    simpa using later (fun other member => plain other (List.mem_cons_of_mem _ member)) (char :: seen)

/-- What is read between an opening and a closing quote: the tokens that are complete before the closing
quote, and the content of the text that it closes. -/
def between? (run : List Char) : Option (List Token × List Char) :=
  match run.foldlM lexStep (.text [], []) with
  | some (.text seen, found) => some (found.reverse, seen.reverse)
  | _ => none

theorem between?_of_plain {run : List Char} (plain : ArePlain run) :
    between? run = some ([], run) := by
  simp [between?, foldlM_plain plain]

/-- No word stands for a text: neither one of the six fixed ones nor a numeral. -/
theorem ofWord?_ne_text (word : List Char) (content : String) :
    Atom.ofWord? word ≠ some (.text content) := by
  intro same
  rw [Atom.ofWord?] at same
  iterate 6
    split at same
    · cases same
  obtain ⟨numeral, _, leaf⟩ := Option.map_eq_some_iff.mp same
  split at leaf
  · cases leaf
  · cases leaf

/-- None of the six marks is a text. -/
theorem punctuation?_ne_text (char : Char) (content : String) :
    punctuation? char ≠ some (.atom (.text content)) := by
  intro same
  rw [punctuation?] at same
  iterate 6
    split at same
    · cases same
  cases same

/-- How many characters the scanner holds for the text that it stands in. -/
def Scan.held : Scan → Nat
  | between | word _ => 0
  | text seen | escape seen | unicode seen _ _ _ | pair seen _ | pairEscape seen _ => seen.length

/-- Nothing is held and no text completed by a character between tokens. -/
theorem held_step_between {next : Scan} {char : Char} {tokens : List Token}
    (stepped : Scan.between.step char = some (next, tokens)) :
    next.held = 0 ∧ ∀ content : String, .atom (.text content) ∉ tokens := by
  rw [Scan.step] at stepped
  split at stepped
  · cases stepped
    exact ⟨rfl, fun _ => List.not_mem_nil⟩
  split at stepped
  · cases stepped
    exact ⟨rfl, fun _ => List.not_mem_nil⟩
  split at stepped
  next token mark =>
    cases stepped
    refine ⟨rfl, fun content member => ?_⟩
    rw [← List.mem_singleton.mp member] at mark
    exact punctuation?_ne_text char content mark
  next =>
    cases stepped
    exact ⟨rfl, fun _ => List.not_mem_nil⟩

/-- Nor by a character in a word. -/
theorem held_step_word {seen : List Char} {next : Scan} {char : Char} {tokens : List Token}
    (stepped : (Scan.word seen).step char = some (next, tokens)) :
    next.held = 0 ∧ ∀ content : String, .atom (.text content) ∉ tokens := by
  have noText {leaf : Atom} (word : Atom.ofWord? seen.reverse = some leaf) (content : String) :
      Token.atom (.text content) ≠ .atom leaf := by
    intro same
    rw [← Token.atom.inj same] at word
    exact ofWord?_ne_text _ content word
  rw [Scan.step] at stepped
  split at stepped
  · obtain ⟨leaf, word, same⟩ := Option.map_eq_some_iff.mp stepped
    cases same
    exact ⟨rfl, fun content member => noText word content (List.mem_singleton.mp member)⟩
  split at stepped
  · cases stepped
  split at stepped
  next token mark =>
    obtain ⟨leaf, word, same⟩ := Option.map_eq_some_iff.mp stepped
    cases same
    refine ⟨rfl, fun content member => ?_⟩
    rcases List.mem_cons.mp member with first | second
    · exact noText word content first
    · rw [← List.mem_singleton.mp second] at mark
      exact punctuation?_ne_text char content mark
  next =>
    cases stepped
    exact ⟨rfl, fun _ => List.not_mem_nil⟩

/-- What a character in a text does: the closing quote completes the text, a backslash begins an escape, and
a plain character is kept. -/
theorem step_text_cases {seen : List Char} {next : Scan} {char : Char} {tokens : List Token}
    (stepped : (Scan.text seen).step char = some (next, tokens)) :
    (char = '"' ∧ next = .between ∧ tokens = [.atom (.text (String.ofList seen.reverse))]) ∨
    (char = '\\' ∧ next = .escape seen ∧ tokens = []) ∨
    (IsPlain char ∧ next = .text (char :: seen) ∧ tokens = []) := by
  rw [Scan.step] at stepped
  split at stepped
  next quote =>
    cases stepped
    exact .inl ⟨quote, rfl, rfl⟩
  next quote =>
    split at stepped
    next backslash =>
      cases stepped
      exact .inr (.inl ⟨backslash, rfl, rfl⟩)
    next backslash =>
      split at stepped
      · cases stepped
      next printed =>
        cases stepped
        exact .inr (.inr ⟨⟨quote, backslash, Nat.le_of_not_lt printed⟩, rfl, rfl⟩)

/-- A code adds one character to the text, or none yet where it is the first of two. -/
theorem held_afterCode {seen : List Char} {high : Option Nat} {code : Nat} {next : Scan}
    (reached : afterCode seen high code = some next) : next.held ≤ seen.length + 1 := by
  cases high with
  | none =>
    rw [afterCode] at reached
    split at reached
    · cases reached
      exact Nat.le_succ _
    · split at reached
      · cases reached
      · cases reached
        exact Nat.le_refl _
  | some high =>
    rw [afterCode] at reached
    split at reached
    · cases reached
      exact Nat.le_refl _
    · cases reached

/-- One character makes the text that the scanner holds longer by one at most, and what it completes is
no longer than what was held. -/
theorem held_step {scan next : Scan} {char : Char} {tokens : List Token}
    (stepped : scan.step char = some (next, tokens)) :
    next.held ≤ scan.held + 1 ∧
      ∀ content : String, .atom (.text content) ∈ tokens → content.length ≤ scan.held := by
  cases scan with
  | between =>
    obtain ⟨nothing, noText⟩ := held_step_between stepped
    exact ⟨nothing ▸ Nat.zero_le _, fun content member => absurd member (noText content)⟩
  | word seen =>
    obtain ⟨nothing, noText⟩ := held_step_word stepped
    exact ⟨nothing ▸ Nat.zero_le _, fun content member => absurd member (noText content)⟩
  | text seen =>
    rcases step_text_cases stepped with ⟨_, rfl, rfl⟩ | ⟨_, rfl, rfl⟩ | ⟨_, rfl, rfl⟩
    · refine ⟨Nat.zero_le _, fun content member => ?_⟩
      obtain rfl := Atom.text.inj (Token.atom.inj (List.mem_singleton.mp member))
      rw [String.length_ofList, List.length_reverse]
      exact Nat.le_refl _
    · exact ⟨Nat.le_succ _, fun _ member => nomatch member⟩
    · exact ⟨Nat.le_refl _, fun _ member => nomatch member⟩
  | escape seen =>
    rw [Scan.step] at stepped
    split at stepped
    · cases stepped
      exact ⟨Nat.le_succ _, fun _ member => nomatch member⟩
    · obtain ⟨plain, _, same⟩ := Option.map_eq_some_iff.mp stepped
      cases same
      exact ⟨Nat.le_refl _, fun _ member => nomatch member⟩
  | unicode seen high code left =>
    rw [Scan.step] at stepped
    split at stepped
    next digit hex =>
      split at stepped
      · cases stepped
        exact ⟨Nat.le_succ _, fun _ member => nomatch member⟩
      · obtain ⟨reached, after, same⟩ := Option.map_eq_some_iff.mp stepped
        cases same
        exact ⟨held_afterCode after, fun _ member => nomatch member⟩
    next => cases stepped
  | pair seen high | pairEscape seen high =>
    rw [Scan.step] at stepped
    split at stepped
    · cases stepped
      exact ⟨Nat.le_succ _, fun _ member => nomatch member⟩
    · cases stepped

/-- What the scanner has made of characters after an opening quote: it has kept them all, which are
plain, or has lost some, so that every text found, and the one that it holds, is shorter. -/
inductive Spent (run : List Char) : Scan × List Token → Prop
  | kept (plain : ArePlain run) : Spent run (.text run.reverse, [])
  | lost {scan : Scan} {found : List Token} (held : scan.held < run.length)
      (texts : ∀ content : String, .atom (.text content) ∈ found → content.length < run.length) :
      Spent run (scan, found)

theorem Spent.step {run : List Char} {char : Char} {state next : Scan × List Token}
    (spent : Spent run state) (stepped : lexStep state char = some next) :
    Spent (run ++ [char]) next := by
  obtain ⟨⟨scan, tokens⟩, taken, rfl⟩ := Option.map_eq_some_iff.mp stepped
  obtain ⟨longer, completed⟩ := held_step taken
  have more : (run ++ [char]).length = run.length + 1 := by simp
  cases spent with
  | kept plain =>
    by_cases stands : IsPlain char
    · rw [step_plain stands] at taken
      cases taken
      have all : ArePlain (run ++ [char]) := by simp [plain, stands]
      simpa using Spent.kept all
    · have short : scan.held ≤ run.reverse.length := by
        rcases step_text_cases taken with ⟨_, rfl, _⟩ | ⟨_, rfl, _⟩ | ⟨plain, _⟩
        · exact Nat.zero_le _
        · exact Nat.le_refl _
        · exact absurd plain stands
      rw [List.length_reverse] at short
      refine .lost (by omega) fun content member => ?_
      have within := completed content (by simpa using member)
      simp only [Scan.held, List.length_reverse] at within
      omega
  | lost held texts =>
    simp only at longer completed
    refine .lost (by omega) fun content member => ?_
    rcases List.mem_append.mp member with new | old
    · have within := completed content (List.mem_reverse.mp new)
      omega
    · have within := texts content old
      omega

theorem Spent.run {done rest : List Char} {state last : Scan × List Token} (spent : Spent done state)
    (read : rest.foldlM lexStep state = some last) : Spent (done ++ rest) last := by
  induction rest generalizing done state with
  | nil =>
    cases read
    simpa using spent
  | cons char rest later =>
    rw [List.foldlM_cons] at read
    obtain ⟨next, stepped, more⟩ := Option.bind_eq_some_iff.mp read
    simpa using later (spent.step stepped) more

/-- The tokens of what is read between quotes. -/
def betweenTokens (read : List Token × List Char) : List Token :=
  read.1 ++ [.atom (.text (String.ofList read.2))]

/-- No text that is read between quotes is as long as the characters there, unless they are plain; then
they are the only text. -/
theorem mem_betweenTokens {run : List Char} {read : List Token × List Char} {content : String}
    (found : between? run = some read) (member : .atom (.text content) ∈ betweenTokens read) :
    ArePlain content.toList ∨ ¬ ArePlain run ∧ content.length < run.length := by
  by_cases plain : ArePlain run
  · cases (between?_of_plain plain).symm.trans found
    obtain rfl : content = String.ofList run := by simpa [betweenTokens] using member
    exact .inl (by rwa [String.toList_ofList])
  · refine .inr ⟨plain, ?_⟩
    rw [between?] at found
    split at found
    next seen new ended =>
      cases found
      have start : Spent [] (.text [], []) := .kept arePlain_nil
      have spent := start.run ended
      rw [List.nil_append] at spent
      cases spent with
      | kept plainRun => exact absurd plainRun plain
      | lost held texts =>
        rcases List.mem_append.mp member with complete | last
        · exact texts content (List.mem_reverse.mp complete)
        · obtain rfl : content = String.ofList seen.reverse := by simpa using last
          simpa [Scan.held] using held
    next => cases found

/-- A bare word does not go on with a quote. -/
theorem foldlM_word_quote {word : List Char} (nonempty : word ≠ [])
    (plain : ∀ char ∈ word, char ∉ wordStops) (rest : List Char) (found : List Token) :
    (word ++ '"' :: rest).foldlM lexStep (.between, found) = none := by
  obtain ⟨first, more, rfl⟩ := List.exists_cons_of_ne_nil nonempty
  obtain ⟨blank, quote, mark⟩ := (not_mem_wordStops_iff first).mp (plain first List.mem_cons_self)
  have step : lexStep (.between, found) first = some (.word [first], found) := by
    simp [lexStep, Scan.step, blank, quote, mark]
  rw [List.cons_append, List.foldlM_cons, step, Option.bind_eq_bind, Option.bind_some,
    List.foldlM_append, foldlM_word _ _ _ fun char member => plain char (List.mem_cons_of_mem _ member)]
  rfl

/-- The end of one member's text, and the next member up to its text. -/
def nextMember (key : List Char) : List Char := ['"', ',', ' ', '"'] ++ (key ++ ['"', ':', ' ', '"'])

/-- The end of the last member's text, of the object and of the line. -/
def lineEnd : List Char := ['"', '\x7d', '\n']

/-- The next member is read after a text that stands between quotes, or not at all. -/
theorem foldlM_nextMember (run : List Char) {key : List Char} (nonempty : key ≠ [])
    (plain : ArePlain key) (word : key.all (fun char => !wordStops.contains char) = true)
    (found : List Token) :
    (run ++ nextMember key).foldlM lexStep (.text [], found) =
      (between? run).map fun read =>
        (.text [], (betweenTokens read ++
          [Token.comma, .atom (.text (String.ofList key)), .colon]).reverse ++ found) := by
  rw [List.foldlM_append, foldlM_lexStep run, between?]
  have stops : ∀ char ∈ key, char ∉ wordStops := by simpa using word
  have refused (found : List Token) := foldlM_word_quote nonempty stops [':', ' ', '"'] found
  cases ended : run.foldlM lexStep (.text [], []) with
  | none => rfl
  | some state =>
    obtain ⟨scan, new⟩ := state
    simp only [Option.map_some, Option.bind_eq_bind, Option.bind_some, nextMember]
    cases scan with
    | text seen =>
      simp [lexStep, Scan.step, isBlank, punctuation?, betweenTokens, List.foldlM_append,
        foldlM_plain plain]
    | between => exact refused _
    | escape seen => exact refused _
    | word seen | unicode seen high code left | pair seen high | pairEscape seen high => rfl

/-- The line ends after a text that stands between quotes, or it is not read. -/
theorem foldlM_lineEnd (run : List Char) (found : List Token) :
    (run ++ lineEnd).foldlM lexStep (.text [], found) =
      (between? run).map fun read =>
        (.between, (betweenTokens read ++ [Token.rightBrace]).reverse ++ found) := by
  rw [List.foldlM_append, foldlM_lexStep run, between?]
  cases ended : run.foldlM lexStep (.text [], []) with
  | none => rfl
  | some state =>
    obtain ⟨scan, new⟩ := state
    simp only [Option.map_some, Option.bind_eq_bind, Option.bind_some, lineEnd]
    cases scan with
    | text seen => simp [lexStep, Scan.step, isBlank, punctuation?, betweenTokens]
    | word seen | between | escape seen | unicode seen high code left | pair seen high
    | pairEscape seen high => rfl

end KeyProtection.Json
