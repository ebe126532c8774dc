import Mathlib.Data.List.ReduceOption
import KeyProtection.Parameters.Session
import KeyProtection.Proofs.Json.Scan
import KeyProtection.Proofs.Writing

/-! What the message of a build says. It is written if all its integers can be, and then they can be read
back from it, with the flag of encryption. -/

namespace KeyProtection

/-- What the log tells of parameters that were built. -/
structure BuildNotice where
  purposes : Int
  /-- Without a value if digests were unspecified. -/
  digests : Option Int
  duration : Int
  encrypted : Bool
  deriving DecidableEq, Repr

namespace BuildNotice

def unspecified : List Char := "unspecified".toList

def flagText : Bool → List Char
  | true => "True".toList
  | false => "False".toList

/-- The words of a message. -/
def words (notice : BuildNotice) : List (List Char) :=
  ["PARAMS".toList, "BUILT".toList, "purposes=".toList ++ integerText notice.purposes,
    "digests=".toList ++ (notice.digests.map integerText).getD unspecified,
    "auth_validity=".toList ++ integerText notice.duration,
    "encrypted=".toList ++ flagText notice.encrypted]

/-- The integer that follows a label. -/
def integer? (label : String) (word : List Char) : Option Int := do
  (← Numeral.ofText? (← label.toList.isPrefixOf? word)).integer?

/-- Digests that are unspecified, or their integer. -/
def digests? (word : List Char) : Option (Option Int) :=
  if word = "digests=".toList ++ unspecified then some none else (integer? "digests=" word).map some

def ofWords? : List (List Char) → Option BuildNotice
  | [_, _, purposes, digests, duration, encrypted] => do
    return ⟨← integer? "purposes=" purposes, ← digests? digests, ← integer? "auth_validity=" duration,
      encrypted = "encrypted=".toList ++ flagText true⟩
  | _ => none

def ofMessage? (message : String) : Option BuildNotice := ofWords? (message.toList.splitOn ' ')

theorem integer?_append (label : String) (number : Int) :
    integer? label (label.toList ++ integerText number) = some number := by
  have rest : label.toList.isPrefixOf? (label.toList ++ integerText number) =
      some (integerText number) := List.isPrefixOf?_eq_some_iff_append_eq.mpr rfl
  have found := Numeral.integer?_integerText number
  simpa [integer?, rest] using found

theorem digests?_word (digests : Option Int) :
    digests? ("digests=".toList ++ (digests.map integerText).getD unspecified) = some digests := by
  cases digests with
  | none => exact if_pos rfl
  | some bits =>
    have apart : integerText bits ≠ unspecified := by
      intro same
      have found := Numeral.integer?_integerText bits
      rw [same] at found
      cases found
    rw [digests?, Option.map_some, Option.getD_some,
      if_neg (fun same => apart (List.append_cancel_left same)), integer?_append, Option.map_some]

theorem ofWords?_words (notice : BuildNotice) : ofWords? notice.words = some notice := by
  obtain ⟨purposes, digests, duration, encrypted⟩ := notice
  have flag : decide ("encrypted=".toList ++ flagText encrypted = "encrypted=".toList ++ flagText true) =
      encrypted := by
    cases encrypted <;> decide
  simp only [words, ofWords?, integer?_append, digests?_word, flag]
  rfl

theorem not_mem_integerText (number : Int) : ' ' ∉ integerText number := fun member =>
  absurd (Numeral.isNumeralChar_of_mem_integerText member) (by decide)

theorem not_mem_words (notice : BuildNotice) : ∀ word ∈ notice.words, ' ' ∉ word := by
  have labels : ' ' ∉ "PARAMS".toList ∧ ' ' ∉ "BUILT".toList ∧ ' ' ∉ "purposes=".toList ∧
      ' ' ∉ "digests=".toList ∧ ' ' ∉ unspecified ∧ ' ' ∉ "auth_validity=".toList ∧
      ' ' ∉ "encrypted=".toList := by decide
  obtain ⟨first, second, purposes, digests, none, duration, encrypted⟩ := labels
  have bits : ' ' ∉ (notice.digests.map integerText).getD unspecified := by
    cases notice.digests with
    | none => exact none
    | some bits => exact not_mem_integerText bits
  have flag : ' ' ∉ flagText notice.encrypted := by cases notice.encrypted <;> decide
  simp only [words, List.forall_mem_cons, List.mem_append, not_or]
  exact ⟨first, second, ⟨purposes, not_mem_integerText _⟩, ⟨digests, bits⟩,
    ⟨duration, not_mem_integerText _⟩, ⟨encrypted, flag⟩, fun _ member => nomatch member⟩

/-- The text of a message. -/
def message (notice : BuildNotice) : String := String.ofList ([' '].intercalate notice.words)

theorem ofMessage?_message (notice : BuildNotice) : ofMessage? notice.message = some notice := by
  rw [ofMessage?, message, String.toList_ofList,
    List.splitOn_intercalate ' ' notice.not_mem_words (by simp [words]), ofWords?_words]

/-- The integers of a message. -/
def numbers (notice : BuildNotice) : List Int := notice.purposes :: notice.duration :: notice.digests.toList

/-- All integers of the message can be written. -/
def Writable [Runtime] (notice : BuildNotice) : Prop := ∀ number ∈ notice.numbers, Text.Writable number

instance [Runtime] (notice : BuildNotice) : Decidable notice.Writable :=
  inferInstanceAs (Decidable (∀ number ∈ notice.numbers, _))

end BuildNotice

namespace Session

open BuildNotice

/-- The notice of parameters, with a zero for what is no integer. -/
def notice (parameters : KeyParameters) : BuildNotice where
  purposes := parameters.purposes.integer?.getD 0
  digests := if parameters.isDigestsSpecified then some (parameters.digests.integer?.getD 0) else none
  duration := parameters.duration.integer?.getD 0
  encrypted := parameters.isEncryptionRequired.toOption.getD false

/-- The record of a build whose message is written. -/
def noticeRecord (parameters : KeyParameters) : Logging.Record :=
  ⟨"DEBUG", loggerName, (notice parameters).message⟩

variable [Runtime]

theorem writesIf_maskText (value : Value) :
    WritesIf (Text.Writable (value.integer?.getD 0)) (maskText value) :=
  (writesIf_ofInteger _).map _

theorem eq_of_maskText {value : Value} {text : String} (written : maskText value = .ok text) :
    text.toList = integerText (value.integer?.getD 0) := by
  obtain ⟨digits, found, rfl⟩ := map_eq_ok_iff.mp written
  rw [String.toList_ofList, (Text.ofInteger_eq_ok_iff.mp found).2]

/-- Digests that are not specified are always written. -/
theorem writesIf_digestsText (parameters : KeyParameters) :
    WritesIf (∀ bits ∈ (notice parameters).digests, Text.Writable bits) (digestsText parameters) := by
  simp only [digestsText, notice]
  split
  · exact (writesIf_maskText _).congr (by simp)
  · exact (writesIf_ok _).congr (by simp)

theorem eq_of_digestsText {parameters : KeyParameters} {text : String}
    (written : digestsText parameters = .ok text) :
    text.toList = ((notice parameters).digests.map integerText).getD unspecified := by
  rw [digestsText] at written
  simp only [notice]
  split at written
  · next specified =>
    rw [if_pos specified]
    exact eq_of_maskText written
  · next unspecified =>
    obtain rfl := Except.ok.inj written
    rw [if_neg unspecified]
    rfl

theorem writesIf_buildMessage (parameters : KeyParameters) :
    WritesIf (notice parameters).Writable (buildMessage parameters) := by
  rw [buildMessage]
  apply ((writesIf_maskText parameters.purposes).bind fun _ _ => (writesIf_digestsText parameters).bind
    fun _ _ => (writesIf_maskText parameters.duration).bind fun _ _ => writesIf_ok _).congr
  simp only [BuildNotice.Writable, numbers, List.forall_mem_cons, Option.mem_toList, and_true]
  exact and_congr_right fun _ => and_comm

theorem eq_of_buildMessage {parameters : KeyParameters} {message : String}
    (written : buildMessage parameters = .ok message) : message = (notice parameters).message := by
  rw [buildMessage] at written
  obtain ⟨purposes, first, written⟩ := bind_eq_ok_iff.mp written
  obtain ⟨digests, second, written⟩ := bind_eq_ok_iff.mp written
  obtain ⟨duration, third, written⟩ := bind_eq_ok_iff.mp written
  obtain rfl := Except.ok.inj written
  apply String.toList_inj.mp
  simp only [BuildNotice.message, words, String.toList_append, String.toList_ofList, eq_of_maskText first,
    eq_of_digestsText second, eq_of_maskText third, List.intercalate_cons_cons, List.append_assoc,
    List.intercalate_singleton]
  simp only [notice]
  rcases parameters.isEncryptionRequired with error | (_ | _) <;> rfl

/-- The record of a build is that of its notice, if all integers of it can be written. -/
theorem writesIf_buildRecord (parameters : KeyParameters) :
    WritesIf (notice parameters).Writable (buildRecord parameters) := by
  apply ((writesIf_buildMessage parameters).bind fun message _ => ?_).congr (and_true _).to_iff
  exact writesIf_ok _

theorem eq_of_buildRecord {parameters : KeyParameters} {record : Logging.Record}
    (made : buildRecord parameters = .ok record) : record = noticeRecord parameters := by
  obtain ⟨message, written, found⟩ := bind_eq_ok_iff.mp made
  rw [noticeRecord, ← eq_of_buildMessage written]
  exact (Except.ok.inj found).symm

theorem buildRecord_of_writable {parameters : KeyParameters}
    (writable : (notice parameters).Writable) : buildRecord parameters = .ok (noticeRecord parameters) := by
  obtain ⟨record, made⟩ := (writesIf_buildRecord parameters).made writable
  rw [made, eq_of_buildRecord made]

end Session

end KeyProtection
