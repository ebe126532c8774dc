import KeyProtection.Proofs.Logging.Failure
import KeyProtection.Proofs.Settings.Selection

/-! Settings that are not strict. They are there whenever the level that is selected can be shown, and differ
from strict ones only where those are refused for their level. Level and file are resolved apart, each from
its own entry and its own variable; so a request for a logger can fail for its level only where it gives one
itself. -/

namespace KeyProtection

namespace Settings

/-- The configuration with a text for its level. -/
def withLevel (config : Value) (name : String) : Value :=
  .dict (Value.insertEntry "log_level" (.text name) (entriesOf config))

/-- The configuration without what stands under a key. -/
def without (config : Value) (key : String) : Value :=
  .dict ((entriesOf config).filter fun entry => entry.1 != key)

theorem value?_withLevel (config : Value) (name key : String) :
    value? (withLevel config name) key =
      if key = "log_level" then some (.text name) else value? config key :=
  Value.lookup_insertEntry "log_level" key (.text name) (entriesOf config)

theorem value?_without (config : Value) (key other : String) :
    value? (without config key) other = if other = key then none else value? config other :=
  lookup_filter_ne key other (entriesOf config)

/-- A key under which nothing true stands may as well be left out. -/
theorem configured?_without {config : Value} {key : String} (empty : HasNone config key)
    (other : String) : configured? (without config key) other = configured? config other := by
  by_cases same : other = key
  · subst same
    rw [configured?_eq_none_iff.mpr empty, configured?_eq, value?_without, if_pos rfl]
    rfl
  · rw [configured?_eq, configured?_eq, value?_without, if_neg same]

theorem levelChoice_congr {config other : Value} {environment changed : Environment}
    (entries : configured? config "log_level" = configured? other "log_level")
    (setting : environment.logLevel = changed.logLevel) :
    levelChoice config environment = levelChoice other changed := by
  rw [levelChoice, levelChoice, entries, setting]

theorem fileChoice_congr {config other : Value} {environment changed : Environment}
    (entries : configured? config "log_file" = configured? other "log_file")
    (setting : environment.logFile = changed.logFile) :
    fileChoice config environment = fileChoice other changed := by
  rw [fileChoice, fileChoice, entries, setting]

/-- A name of a level names that level. -/
theorem namedLevel?_of_named {name : String} {level : Int} (named : (name, level) ∈ Level.named) :
    namedLevel? name.toList = some level :=
  namedLevel?_eq_some_iff.mpr ⟨name, named, List.forall₂_same.mpr fun _ _ => .inl rfl⟩

theorem levelChoice_withLevel (config : Value) {name : String} (nonempty : name ≠ "")
    (environment : Environment) :
    levelChoice (withLevel config name) environment = .text name := by
  apply levelChoice_of_selects
  refine .fromEntry ?_ (bne_iff_ne.mpr nonempty)
  rw [value?_withLevel, if_pos rfl]

theorem fileChoice_withLevel (config : Value) (name : String) (environment : Environment) :
    fileChoice (withLevel config name) environment = fileChoice config environment := by
  apply fileChoice_congr _ rfl
  rw [configured?_eq, configured?_eq, value?_withLevel, if_neg (by decide)]

section

variable [Runtime] {config : Value} {environment : Environment}

theorem load_lenient (readable : Readable config) {shown : List Char}
    (displayed : (levelChoice config environment).display = .ok shown) :
    load config false environment =
      .ok ⟨(namedLevel? shown).getD Level.info, fileChoice config environment⟩ := by
  rw [load_eq readable, level_of_display displayed]
  cases namedLevel? shown with
  | none => rfl
  | some found => rfl

theorem load_level (readable : Readable config) (strict : Bool) :
    (load config strict environment).map Settings.logLevel =
      level (levelChoice config environment) strict := by
  rw [load_eq readable]
  cases level (levelChoice config environment) strict with
  | error error => rfl
  | ok number => rfl

theorem logFile_of_load (readable : Readable config) {strict : Bool} {settings : Settings}
    (loaded : load config strict environment = .ok settings) :
    settings.logFile = fileChoice config environment := by
  rw [load_eq readable] at loaded
  obtain ⟨number, _, rfl⟩ := map_eq_ok_iff.mp loaded
  rfl

/-- With a valid name for its level any configuration can be loaded, and the file is what it was. -/
theorem load_withLevel (config : Value) {name : String} {level : Int}
    (named : (name, level) ∈ Level.named) (environment : Environment) :
    load (withLevel config name) true environment = .ok ⟨level, fileChoice config environment⟩ := by
  have nonempty : ∀ entry ∈ Level.named, entry.1 ≠ "" := by decide
  rw [load_strict_eq_ok_iff (.inl rfl), levelChoice_withLevel config (nonempty _ named),
    fileChoice_withLevel]
  exact ⟨_, rfl, namedLevel?_of_named named, rfl⟩

/-- What strict settings are, those that are not strict are too. -/
theorem load_lenient_of_ok (readable : Readable config) {settings : Settings}
    (loaded : load config true environment = .ok settings) :
    load config false environment = .ok settings := by
  obtain ⟨number, file⟩ := settings
  obtain ⟨shown, displayed, named, rfl⟩ := (load_strict_eq_ok_iff readable).mp loaded
  rw [load_lenient readable displayed, named]
  rfl

/-- Where strict settings are an error, the others have the ordinary level, or the same error if the level
cannot be shown. -/
theorem load_lenient_of_error (readable : Readable config) {error : Error}
    (failed : load config true environment = .error error) :
    (¬ (levelChoice config environment).Showable ∧ load config false environment = .error error ∧
      ∃ limit, Runtime.digitLimit = some limit ∧ error = .integerTooLong limit) ∨
    (error.errorClass = .invalidArgument ∧
      load config false environment = .ok ⟨Level.info, fileChoice config environment⟩) := by
  rcases (load_strict_eq_error_iff readable).mp failed with unshown | ⟨shown, displayed, unnamed, rfl⟩
  · obtain ⟨long, bound⟩ := (Value.writesIf_display (levelChoice config environment)).eq_error_iff.mp unshown
    refine .inl ⟨long, ?_, bound⟩
    rw [load_eq readable, level_of_display_error unshown]
    rfl
  · rw [load_lenient readable displayed, unnamed]
    exact .inr ⟨rfl, rfl⟩

/-- A true entry decides the level whatever the variable is. -/
theorem load_of_true_level {value : Value} (readable : Readable config)
    (found : value? config "log_level" = some value) (holds : value.truthy) (strict : Bool)
    (environment : Environment) (content : Option String) :
    load config strict { environment with logLevel := content } = load config strict environment := by
  rw [load_eq readable, load_eq readable, levelChoice_of_selects (.fromEntry found holds),
    levelChoice_of_selects (.fromEntry found holds)]
  rfl

/-- A true entry decides the file whatever the variable is. -/
theorem load_of_true_file {value : Value} (readable : Readable config)
    (found : value? config "log_file" = some value) (holds : value.truthy) (strict : Bool)
    (environment : Environment) (content : Option String) :
    load config strict { environment with logFile := content } = load config strict environment := by
  have decided (changed : Environment) : fileChoice config changed = value := by
    rw [fileChoice, configured?_of_true found holds]
    rfl
  rw [load_eq readable, load_eq readable, decided, decided]
  rfl

theorem load_without (readable : Readable config) {key : String} (empty : HasNone config key)
    (strict : Bool) (environment : Environment) :
    load (without config key) strict environment = load config strict environment := by
  have choice : levelChoice (without config key) environment = levelChoice config environment :=
    levelChoice_congr (configured?_without empty _) rfl
  have file : fileChoice (without config key) environment = fileChoice config environment :=
    fileChoice_congr (configured?_without empty _) rfl
  rw [load_eq (.inl rfl), load_eq readable, choice, file]

end

end Settings

theorem Environment.level_named (environment : Environment) :
    ∃ entry ∈ Level.named, entry.2 = environment.level := by
  rw [Environment.level]
  cases named : Settings.namedLevel? (environment.logLevel.getD "INFO").toList with
  | none => exact ⟨("INFO", 20), by decide, rfl⟩
  | some level =>
    obtain ⟨name, listed, _⟩ := Settings.namedLevel?_eq_some_iff.mp named
    exact ⟨(name, level), listed, rfl⟩

namespace Logging

/-- Neither the request nor the environment names a file. -/
theorem Request.opening_of_no_file {request : Request} (empty : request.file.truthy = false)
    (unset : request.environment.logFile.getD "" = "") (directory : Directory) :
    (request.opening directory).2 = .ok none := by
  have nothing : request.environment.file = .null := by
    rw [Environment.file]
    cases set : request.environment.logFile with
    | none => rfl
    | some path =>
      rw [set, Option.getD_some] at unset
      subst unset
      rfl
  have given : request.file.ifTrue? = none := by
    rw [Value.ifTrue?, empty]
    rfl
  have chosen : request.chosenFile.ifTrue? = none := by
    rw [chosenFile, given, nothing]
    rfl
  rw [opening, chosen]

namespace LogSession

/-- A request without a level of its own is answered where no file has to be opened for it. -/
theorem get_without_level [Runtime] (session : LogSession) (request : Request) {name : LoggerName}
    (current : request.environment = session.environment)
    (named : LoggerName.ofValue request.name = .ok name) (unset : request.level = .null)
    (free : (session.registry.logger name).handlers ≠ [] ∨
      request.file.truthy = false ∧ session.environment.logFile.getD "" = "") :
    ∃ report, (session.get request.name request.level request.file).2.outcome =
        .ok (.logger report) ∧ report.level = .int session.environment.level := by
  have chosen : request.chosenLevel = .ok (.int session.environment.level) := by
    rw [Request.chosenLevel, unset, current]
  have opens : (session.registry.logger name).handlers ≠ [] ∨
      (request.opening session.directory).2 = .ok none := by
    rcases free with attached | ⟨empty, unset⟩
    · exact .inl attached
    · exact .inr (Request.opening_of_no_file empty (current ▸ unset) session.directory)
  rw [get_granted current named chosen (obstacle?_eq_none opens)]
  refine ⟨_, rfl, ?_⟩
  rw [report, logger_granted, if_pos rfl]

end LogSession

end Logging

namespace Settings

end Settings

end KeyProtection
