import KeyProtection.Proofs.Json.Exact
import KeyProtection.Proofs.Json.Raw
import KeyProtection.Proofs.Json.Read
import KeyProtection.Proofs.Parameters.Message
import KeyProtection.Proofs.Parameters.Steps

/-! Log lines read as documents. A line puts name and message between quotes as they are, so that a
record is read back from its line exactly when both are plain. The records of builds are. -/

namespace KeyProtection

namespace Json

/-- A member of an object; of those with one key the last. -/
def lastMember? (key : String) : Json → Option Json
  | object members => members.reverse.lookup key
  | _ => none

/-- A text that is the last member of its key is one of the tokens that the document is read from. -/
theorem mem_tokens_of_lastMember? {tokens : List Token} {json : Json} {key content : String}
    (read : ofTokens? tokens = some json) (found : json.lastMember? key = some (.text content)) :
    .atom (.text content) ∈ tokens := by
  rw [← tokens_of_ofTokens? read]
  cases json with
  | object members =>
    obtain ⟨before, after, reversed, -⟩ := List.lookup_eq_some_iff.mp found
    have member : (key, .text content) ∈ members := by
      rw [← List.mem_reverse, reversed]
      simp
    have inside : .atom (.text content) ∈ memberTokens members :=
      mem_memberTokens member (by simp [text, Json.tokens])
    simp [Json.tokens, inside]
  | _ => cases found

theorem isPlain_of_isNumeralChar {char : Char} (numeral : Numeral.isNumeralChar char = true) :
    IsPlain char := by
  simp only [Numeral.isNumeralChar, Bool.or_eq_true, List.contains_iff_mem] at numeral
  rcases numeral with digit | mark
  · have range : 48 ≤ char.toNat ∧ char.toNat ≤ 57 := Char.isDigit_iff_toNat.mp digit
    refine ⟨?_, ?_, by omega⟩
    · rintro rfl
      exact absurd range (by decide)
    · rintro rfl
      exact absurd range (by decide)
  · have all : ArePlain ['-', '+', '.', 'e'] := by decide
    exact all char mark

@[simp] theorem arePlain_integerText (number : Int) : ArePlain (integerText number) :=
  fun _ member => isPlain_of_isNumeralChar (Numeral.isNumeralChar_of_mem_integerText member)

@[simp] theorem arePlain_padded (width number : Nat) : ArePlain (padded width number) :=
  fun _ member =>
    isPlain_of_isNumeralChar (Numeral.isNumeralChar_of_isDigit (isDigit_of_mem_padded member))

end Json

/-- A level that has a name of its own. -/
def Level.IsNamed (number : Int) : Prop := ∃ entry ∈ named ++ [("NOTSET", unset)], entry.2 = number

namespace Logging

open Json

theorem arePlain_secondText (seconds : Int) : ArePlain (Record.instant seconds).secondText := by
  have marks : IsPlain '-' ∧ IsPlain 'T' ∧ IsPlain ':' ∧ IsPlain 'Z' := by decide
  simp [Instant.secondText, Instant.monthDayText, Instant.clockText, marks]

namespace Record

section

variable [Runtime]

/-- A record is made unless its level has neither a name nor a number that can be written. -/
theorem writesIf_make (level : Int) (name message : String) :
    WritesIf (Level.IsNamed level ∨ Text.Writable level) (make level name message) := by
  refine (WritesIf.map ?_ _)
  rw [Level.text]
  split
  next name number found =>
    have named : Level.IsNamed level :=
      ⟨_, List.mem_of_find?_eq_some found, by simpa using List.find?_some found⟩
    exact (writesIf_ok name).congr (iff_of_true trivial (.inl named))
  next none =>
    have unnamed : ¬ Level.IsNamed level := by
      rintro ⟨entry, member, rfl⟩
      exact List.find?_eq_none.mp none entry member (beq_self_eq_true _)
    exact ((writesIf_ofInteger level).map _).congr (or_iff_right unnamed).symm

/-- What a record that was made says: the level as a text without quotes, the name and the message. -/
theorem eq_of_make {level : Int} {name message : String} {record : Record}
    (made : make level name message = .ok record) :
    Level.text level = .ok record.levelName ∧ record.name = name ∧ record.message = message := by
  obtain ⟨levelName, shown, rfl⟩ := map_eq_ok_iff.mp made
  exact ⟨shown, rfl, rfl⟩

theorem arePlain_levelText {level : Int} {text : String} (shown : Level.text level = .ok text) :
    ArePlain text.toList := by
  rw [Level.text] at shown
  split at shown
  next name number found =>
    have all : ∀ entry ∈ Level.named ++ [("NOTSET", Level.unset)], ArePlain entry.1.toList := by decide
    exact Except.ok.inj shown ▸ all _ (List.mem_of_find?_eq_some found)
  next =>
    obtain ⟨digits, written, rfl⟩ := map_eq_ok_iff.mp shown
    obtain ⟨_, rfl⟩ := Text.ofInteger_eq_ok_iff.mp written
    rw [String.toList_append, arePlain_append]
    exact ⟨by decide, by simp⟩

end

/-- A name and a message with no quote, no backslash and no control character. -/
structure IsClean (record : Record) : Prop where
  name : ArePlain record.name.toList
  message : ArePlain record.message.toList

/-- What a document says of a record. -/
structure IsIn (record : Record) (seconds : Int) (json : Json) : Prop where
  time : json.lastMember? "ts" = some (.text (String.ofList (instant seconds).secondText))
  level : json.lastMember? "level" = some (.text record.levelName)
  name : json.lastMember? "name" = some (.text record.name)
  message : json.lastMember? "msg" = some (.text record.message)

/-- What is written of a record is one line, and the record is in the document that the line is. -/
structure ReadsBack (record : Record) (seconds : Int) : Prop where
  oneLine : ∃ body, (record.written seconds).toList = body ++ ['\n'] ∧ '\n' ∉ body
  read : ∃ json, read? (record.written seconds).toList = some json ∧ record.IsIn seconds json

/-- The line up to its name. -/
def opening (record : Record) (seconds : Int) : List Char :=
  ['\x7b', '"', 't', 's', '"', ':', ' ', '"'] ++
    ((instant seconds).secondText ++ nextMember "level".toList ++
      (record.levelName.toList ++ nextMember "name".toList))

theorem toList_line (record : Record) (seconds : Int) :
    (record.line seconds).toList = record.opening seconds ++
      (record.name.toList ++ nextMember "msg".toList ++ (record.message.toList ++ lineEnd)) := by
  have time : (String.ofList (instant seconds).secondText).toList = (instant seconds).secondText :=
    String.toList_ofList
  unfold line
  simp only [String.toList_append, time, opening, List.append_assoc]
  rfl

/-- The tokens up to the name. -/
def openingTokens (record : Record) (seconds : Int) : List Token :=
  [.leftBrace,
    .atom (.text "ts"), .colon, .atom (.text (String.ofList (instant seconds).secondText)), .comma,
    .atom (.text "level"), .colon, .atom (.text record.levelName), .comma,
    .atom (.text "name"), .colon]

theorem foldlM_opening {record : Record} (level : ArePlain record.levelName.toList) (seconds : Int) :
    (record.opening seconds).foldlM lexStep (.between, []) =
      some (.text [], (record.openingTokens seconds).reverse) := by
  have start : ['\x7b', '"', 't', 's', '"', ':', ' ', '"'].foldlM lexStep (.between, []) =
      some (.text [], [Token.leftBrace, .atom (.text "ts"), .colon].reverse) := by
    rfl
  rw [opening, List.foldlM_append, start, Option.bind_eq_bind, Option.bind_some, List.foldlM_append,
    foldlM_nextMember _ (by decide) (by decide) (by decide),
    between?_of_plain (arePlain_secondText seconds), Option.map_some, Option.bind_eq_bind, Option.bind_some,
    foldlM_nextMember _ (by decide) (by decide) (by decide),
    between?_of_plain level]
  simp [openingTokens, betweenTokens]

/-- The tokens of a line are its fixed ones with those that are read in its name and in its message. -/
theorem lex?_line {record : Record} (level : ArePlain record.levelName.toList) (seconds : Int) :
    lex? (record.line seconds).toList =
      (between? record.name.toList).bind fun name =>
        (between? record.message.toList).map fun message =>
          record.openingTokens seconds ++ betweenTokens name ++
            [Token.comma, .atom (.text "msg"), .colon] ++ betweenTokens message ++
              [Token.rightBrace] := by
  rw [lex?, toList_line, List.foldlM_append, foldlM_opening level, Option.bind_eq_bind, Option.bind_some,
    List.foldlM_append, foldlM_nextMember _ (by decide) (by decide) (by decide)]
  cases between? record.name.toList with
  | none => rfl
  | some name =>
    rw [Option.map_some, Option.bind_eq_bind, Option.bind_some, foldlM_lineEnd]
    cases between? record.message.toList with
    | none => rfl
    | some message => simp [Scan.finish?]

theorem arePlain_of_mem_openingTokens {record : Record} {seconds : Int} {content : String}
    (level : ArePlain record.levelName.toList)
    (member : .atom (.text content) ∈ record.openingTokens seconds) : ArePlain content.toList := by
  have texts : content = "ts" ∨ content = String.ofList (instant seconds).secondText ∨
      content = "level" ∨ content = record.levelName ∨ content = "name" := by
    simpa [openingTokens] using member
  rcases texts with rfl | rfl | rfl | rfl | rfl
  · decide
  · simpa using arePlain_secondText seconds
  · decide
  · exact level
  · decide

/-- A text in the line of a record is plain, or shorter than the name or the message that it is read
in. -/
theorem plain_or_shorter {record : Record} {seconds : Int} {tokens : List Token} {content : String}
    (level : ArePlain record.levelName.toList) (scanned : lex? (record.line seconds).toList = some tokens)
    (member : .atom (.text content) ∈ tokens) :
    ArePlain content.toList ∨
      ¬ ArePlain record.name.toList ∧ content.length < record.name.length ∨
      ¬ ArePlain record.message.toList ∧ content.length < record.message.length := by
  rw [lex?_line level] at scanned
  obtain ⟨name, nameRead, rest⟩ := Option.bind_eq_some_iff.mp scanned
  obtain ⟨message, messageRead, rfl⟩ := Option.map_eq_some_iff.mp rest
  simp only [List.mem_append] at member
  rcases member with ((((fixed | inName) | between) | inMessage) | closing)
  · exact .inl (arePlain_of_mem_openingTokens level fixed)
  · exact (mem_betweenTokens nameRead inName).imp_right .inl
  · obtain rfl : content = "msg" := by simpa using between
    exact .inl (by decide)
  · exact (mem_betweenTokens messageRead inMessage).imp_right .inr
  · simp at closing

/-- Records that are not clean are not read back: name and message would both be texts of the line, but
of two texts that are not plain neither is shorter than the other. -/
theorem isClean_of_isIn {record : Record} {seconds : Int} {json : Json}
    (level : ArePlain record.levelName.toList) (read : read? (record.line seconds).toList = some json)
    (name : json.lastMember? "name" = some (.text record.name))
    (message : json.lastMember? "msg" = some (.text record.message)) : record.IsClean := by
  obtain ⟨tokens, scanned, built⟩ := Option.bind_eq_some_iff.mp read
  have ofName : ArePlain record.name.toList ∨
      ¬ ArePlain record.message.toList ∧ record.name.length < record.message.length := by
    rcases plain_or_shorter level scanned (mem_tokens_of_lastMember? built name) with
      plain | ⟨_, shorter⟩ | inMessage
    · exact .inl plain
    · exact absurd shorter (Nat.lt_irrefl _)
    · exact .inr inMessage
  have ofMessage : ArePlain record.message.toList ∨
      ¬ ArePlain record.name.toList ∧ record.message.length < record.name.length := by
    rcases plain_or_shorter level scanned (mem_tokens_of_lastMember? built message) with
      plain | inName | ⟨_, shorter⟩
    · exact .inl plain
    · exact .inr inName
    · exact absurd shorter (Nat.lt_irrefl _)
  rcases ofName with name | ⟨forged, shorter⟩
  · exact ⟨name, ofMessage.resolve_right fun other => other.1 name⟩
  · rcases ofMessage with message | ⟨_, longer⟩
    · exact absurd message forged
    · exact absurd shorter (Nat.lt_asymm longer)

/-- The document that a clean record's line is. -/
def document (record : Record) (seconds : Int) : Json :=
  .object [("ts", .text (String.ofList (instant seconds).secondText)),
    ("level", .text (record.levelName)), ("name", .text record.name),
    ("msg", .text record.message)]

theorem isIn_document (record : Record) (seconds : Int) :
    record.IsIn seconds (record.document seconds) where
  time := by simp [document, lastMember?, List.lookup_cons]
  level := by simp [document, lastMember?, List.lookup_cons]
  name := by simp [document, lastMember?, List.lookup_cons]
  message := by simp [document, lastMember?]

theorem read?_line {record : Record} (level : ArePlain record.levelName.toList)
    (clean : record.IsClean) (seconds : Int) :
    read? (record.line seconds).toList = some (record.document seconds) := by
  have tokens : lex? (record.line seconds).toList = some (record.document seconds).tokens := by
    rw [lex?_line level, between?_of_plain clean.name, Option.bind_some, between?_of_plain clean.message]
    simp [openingTokens, betweenTokens, document, Json.tokens, memberTokens, text]
  rw [read?, tokens, Option.bind_some, ofTokens?_tokens]

/-- Only the end of a clean record's line ends a line. -/
theorem oneLine_line {record : Record} (level : ArePlain record.levelName.toList)
    (clean : record.IsClean) (seconds : Int) :
    ∃ body, (record.line seconds).toList = body ++ ['\n'] ∧ '\n' ∉ body := by
  have apart {run : List Char} (plain : ArePlain run) : '\n' ∉ run := fun member =>
    absurd (plain _ member).2.2 (by decide)
  refine ⟨record.opening seconds ++ (record.name.toList ++ nextMember "msg".toList ++
    (record.message.toList ++ ['"', '\x7d'])), by simp [toList_line, lineEnd], ?_⟩
  simp [opening, nextMember, apart clean.name, apart clean.message, apart (arePlain_secondText seconds),
    apart level]

theorem written_of_isDatable {seconds : Int} (datable : isDatable seconds = true) (record : Record) :
    record.written seconds = record.line seconds := if_pos datable

end Record

end Logging

open Json Logging

theorem BuildNotice.arePlain_message (notice : BuildNotice) : ArePlain notice.message.toList := by
  have labels : ArePlain "PARAMS".toList ∧ ArePlain "BUILT".toList ∧ ArePlain "purposes=".toList ∧
      ArePlain "digests=".toList ∧ ArePlain unspecified ∧ ArePlain "auth_validity=".toList ∧
      ArePlain "encrypted=".toList ∧ ArePlain [' '] := by decide
  obtain ⟨first, second, purposes, digests, none, duration, encrypted, blank⟩ := labels
  have bits : ArePlain ((notice.digests.map integerText).getD unspecified) := by
    cases notice.digests with
    | none => exact none
    | some bits => exact arePlain_integerText bits
  have flag : ArePlain (flagText notice.encrypted) := by
    cases notice.encrypted
    · decide
    · decide
  simp only [message, String.toList_ofList, words, List.intercalate_cons_cons, List.intercalate_singleton,
    arePlain_append]
  exact ⟨⟨first, blank⟩, ⟨second, blank⟩, ⟨⟨purposes, arePlain_integerText _⟩, blank⟩,
    ⟨⟨digests, bits⟩, blank⟩, ⟨⟨duration, arePlain_integerText _⟩, blank⟩, encrypted, flag⟩

namespace Session

theorem arePlain_levelName_noticeRecord (parameters : KeyParameters) :
    ArePlain (noticeRecord parameters).levelName.toList := show ArePlain "DEBUG".toList by decide

theorem isClean_noticeRecord (parameters : KeyParameters) : (noticeRecord parameters).IsClean where
  name := show ArePlain loggerName.toList by decide
  message := (notice parameters).arePlain_message

variable [Runtime]

/-- Of a build at a level that builds are logged at the line of its notice is written, or nothing if an
integer of it cannot be written. -/
theorem buildLog_of_logs {session : Session} (logs : session.logs = true) (parameters : KeyParameters) :
    session.buildLog parameters =
      if (notice parameters).Writable then (noticeRecord parameters).written session.now else "" := by
  split
  · next writable => simp only [buildLog, logs, buildRecord_of_writable writable]
  · next long =>
    obtain ⟨limit, _, failed⟩ := (writesIf_buildRecord parameters).refused long
    simp only [buildLog, logs, failed]

/-- A build that succeeds writes the line of its record, where builds are logged. -/
theorem log_build {session : Session} {number : Nat} {parameters : KeyParameters}
    (built : (session.step (.build number)).2.outcome = .ok (.fields parameters)) :
    (session.step (.build number)).2.log = session.buildLog parameters := by
  obtain ⟨builder, present, built⟩ := (outcome_build_iff session number parameters).mp built
  rw [step_build present, built]

end Session

namespace Logging.Record

theorem readsBack_of_isClean {record : Record} {seconds : Int} (datable : isDatable seconds = true)
    (level : ArePlain record.levelName.toList) (clean : record.IsClean) : record.ReadsBack seconds := by
  constructor
  · rw [written_of_isDatable datable]
    exact oneLine_line level clean seconds
  · rw [written_of_isDatable datable]
    exact ⟨record.document seconds, read?_line level clean seconds, isIn_document record seconds⟩

end Logging.Record

end KeyProtection
