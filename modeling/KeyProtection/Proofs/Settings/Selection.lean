import KeyProtection.Proofs.Outcome
import KeyProtection.Proofs.Settings.Spelling

/-! The level that settings select. A true entry of the configuration comes before the variable, and the
variable before the default. Strict settings are there exactly if what is selected is a text that spells
the name of a level; anything else is refused by its text, if it has one. -/

namespace KeyProtection

namespace Settings

/-- An object, or a value that counts as no configuration. -/
def Readable (config : Value) : Prop := config.kind = .dict ∨ config.truthy = false

/-- The entries of a configuration. One that is no object has none. -/
def entriesOf (config : Value) : List (String × Value) :=
  match config with
  | .dict entries => entries
  | _ => []

/-- What stands under a key, true or not. -/
def value? (config : Value) (key : String) : Option Value := (entriesOf config).lookup key

/-- No true value stands under the key. -/
def HasNone (config : Value) (key : String) : Prop :=
  ∀ value, value? config key = some value → value.truthy = false

/-- The value that is taken for the level. -/
inductive Selects (config : Value) (environment : Environment) : Value → Prop
  | fromEntry {value : Value} (found : value? config "log_level" = some value) (holds : value.truthy) :
    Selects config environment value
  | fromVariable {content : String} (empty : HasNone config "log_level")
    (set : environment.logLevel = some content) : Selects config environment (.text content)
  | byDefault (empty : HasNone config "log_level") (unset : environment.logLevel = none) :
    Selects config environment (.text "INFO")

theorem configured?_eq (config : Value) (key : String) :
    configured? config key = (value? config key).bind Value.ifTrue? := by
  cases config with
  | dict entries => rfl
  | _ => rfl

theorem configured?_of_true {config value : Value} {key : String}
    (found : value? config key = some value) (holds : value.truthy) :
    configured? config key = some value := by
  rw [configured?_eq, found, Option.bind_some, Value.ifTrue?, if_pos holds]

theorem configured?_eq_none_iff {config : Value} {key : String} :
    configured? config key = none ↔ HasNone config key := by
  rw [configured?_eq, Option.bind_eq_none_iff]
  apply forall₂_congr
  intro value found
  cases holds : value.truthy with
  | false => simp [Value.ifTrue?, holds]
  | true => simp [Value.ifTrue?, holds]

theorem levelChoice_of_selects {config choice : Value} {environment : Environment}
    (selected : Selects config environment choice) : levelChoice config environment = choice := by
  cases selected with
  | fromEntry found holds => rw [levelChoice, configured?_of_true found holds]; rfl
  | fromVariable empty set => rw [levelChoice, configured?_eq_none_iff.mpr empty, set]; rfl
  | byDefault empty unset => rw [levelChoice, configured?_eq_none_iff.mpr empty, unset]; rfl

section

variable [Runtime]

/-- A readable configuration is never refused: only the level that it selects can be. -/
theorem load_eq {config : Value} (readable : Readable config) (strict : Bool)
    (environment : Environment) :
    load config strict environment = (level (levelChoice config environment) strict).map
      fun level => ⟨level, fileChoice config environment⟩ := by
  rcases readable with object | falsy
  · cases config with
    | dict entries => rfl
    | _ => cases object
  · cases config with
    | dict entries => rfl
    | _ =>
      simp only [load, falsy]
      rfl

/-- The level of a value with a text is up to that text. -/
theorem level_of_display {choice : Value} {shown : List Char} (displayed : choice.display = .ok shown)
    (strict : Bool) : level choice strict =
      match namedLevel? shown with
      | some level => .ok level
      | none => if strict then .error (.levelNameUnknown (String.ofList shown)) else .ok Level.info := by
  rw [level, displayed]
  rfl

theorem level_of_display_error {choice : Value} {error : Error} (failed : choice.display = .error error)
    (strict : Bool) : level choice strict = .error error := by
  rw [level, failed]
  rfl

/-- Strict settings are there exactly if the level that is selected has a name. -/
theorem load_strict_eq_ok_iff {config : Value} (readable : Readable config) {environment : Environment}
    {settings : Settings} : load config true environment = .ok settings ↔
      ∃ shown, (levelChoice config environment).display = .ok shown ∧
        namedLevel? shown = some settings.logLevel ∧ settings.logFile = fileChoice config environment := by
  obtain ⟨number, file⟩ := settings
  rw [load_eq readable]
  cases displayed : (levelChoice config environment).display with
  | error error => simp [level_of_display_error displayed, Except.map]
  | ok shown =>
    rw [level_of_display displayed]
    cases named : namedLevel? shown with
    | none => simp [named, Except.map]
    | some found => simp [named, Except.map, eq_comm]

/-- Strict settings fail for a level without a text, or for one whose text is no name. -/
theorem load_strict_eq_error_iff {config : Value} (readable : Readable config)
    {environment : Environment} {error : Error} : load config true environment = .error error ↔
      (levelChoice config environment).display = .error error ∨
      ∃ shown, (levelChoice config environment).display = .ok shown ∧ namedLevel? shown = none ∧
        error = .levelNameUnknown (String.ofList shown) := by
  rw [load_eq readable, map_eq_error_iff]
  cases displayed : (levelChoice config environment).display with
  | error other => simp [level_of_display_error displayed]
  | ok shown =>
    rw [level_of_display displayed]
    cases named : namedLevel? shown with
    | none => simp [named, eq_comm]
    | some found => simp [named]

end

/-- What names a level shows ASCII or the dotless i alone, and no character of it becomes several. -/
theorem upperChar_of_namedLevel? {shown : List Char} {level : Int} (named : namedLevel? shown = some level)
    {char : Char} (member : char ∈ shown) :
    (char.toNat < 128 ∨ char = 'ı') ∧ (Text.upperChar char).length = 1 := by
  rcases isAlpha_of_namedLevel? named member with alpha | rfl
  · have ascii := toNat_lt_of_isAlpha alpha
    refine ⟨.inl ascii, ?_⟩
    rw [Text.upperChar, if_pos ascii]
    rfl
  · exact ⟨.inr rfl, rfl⟩

/-- Where a text is selected, strict settings are there exactly if it spells the name of a level. -/
theorem exists_load_text_iff [Runtime] {config : Value} (readable : Readable config)
    {environment : Environment} {content : String}
    (text : levelChoice config environment = .text content) (level : Int) :
    (∃ settings, load config true environment = .ok settings ∧ settings.logLevel = level) ↔
      ∃ name, (name, level) ∈ Level.named ∧ Spells content.toList name.toList := by
  have display : (levelChoice config environment).display = .ok content.toList := by rw [text]; rfl
  rw [← namedLevel?_eq_some_iff]
  constructor
  · rintro ⟨settings, loaded, rfl⟩
    obtain ⟨shown, displayed, named, _⟩ := (load_strict_eq_ok_iff readable).mp loaded
    obtain rfl := Except.ok.inj (display.symm.trans displayed)
    exact named
  · intro named
    exact ⟨⟨level, _⟩, (load_strict_eq_ok_iff readable).mpr ⟨_, display, named, rfl⟩, rfl⟩

end Settings

end KeyProtection
