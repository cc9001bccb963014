import CountedBox.Proofs.Config.Setting
import CountedBox.Proofs.Text.Utf8
import CountedBox.Toml.Settings

namespace CountedBox

namespace Config

variable {α : Type} {setting : Setting α}

/-- A configuration is its settings. -/
theorem ext_settings {c c' : Config}
    (same : ∀ {α : Type} {setting : Setting α}, setting.Known → setting.get c = setting.get c') : c = c' := by
  have level : c.logLevel = c'.logLevel := same .logLevel
  have json : c.logJson = c'.logJson := same (.checked .logJson)
  have file : c.logFile = c'.logFile := same .logFile
  have track : c.trackObjects = c'.trackObjects := same (.checked .trackObjects)
  have leak : c.leakCheck = c'.leakCheck := same (.checked .leakCheck)
  have target : c.debugTarget = c'.debugTarget := same (.checked .debugTarget)
  cases c
  cases c'
  simp_all

/-- Where nothing is said a setting is what it is by itself. -/
theorem default_get (known : setting.Known) (debug : Bool) : setting.get (default debug) = setting.initially debug := by
  rcases known with _ | _ | ⟨_ | _ | _ | _⟩ <;> rfl

/-- A value of a file decides its own setting, and leaves the others alone. -/
theorem over_get (known : setting.Known) (v : Values) (c : Config) :
    setting.get (v.over c) = (setting.ofFile v).getD (setting.get c) := by
  rcases known with _ | _ | ⟨_ | _ | _ | _⟩
  case logFile =>
    change v.logFile.or c.logFile = (v.logFile.map some).getD c.logFile
    cases v.logFile <;> rfl
  all_goals rfl

section Override

/-- A variable that is set and can be read gives the value; otherwise it stays what it is. -/
theorem overrideWith_value (parse : String → Option α) (vars : String → Option String) (key : String) (current : α) :
    (overrideWith parse vars key current).1 = ((vars key).bind parse).getD current := by
  unfold overrideWith
  cases vars key with
  | none => rfl
  | some value => cases read : parse value <;> simp [read]

/-- There is a complaint exactly about a variable that is set and cannot be read. -/
theorem overrideWith_complaint (setting : Setting α) (vars : String → Option String) (current : α) :
    (overrideWith setting.ofText vars setting.var current).2 = (setting.complaint vars).toList := by
  unfold overrideWith Setting.complaint
  cases vars setting.var with
  | none => rfl
  | some value => cases read : setting.ofText value <;> simp [read, invalid]

end Override

/-- A variable that can be read decides its own setting, and leaves the others alone. -/
theorem applyEnv_get (known : setting.Known) (c : Config) (vars : String → Option String) :
    setting.get (c.applyEnv vars).1 = (setting.inEnv vars).getD (setting.get c) := by
  have flags : flag? = Setting.chosen Setting.flagWords := funext flag?_eq
  have channels : channel? = Setting.chosen Setting.channelWords := funext channel?_eq
  rcases known with _ | _ | ⟨_ | _ | _ | _⟩
  case logLevel =>
    simp only [applyEnv, Setting.inEnv, Setting.logLevel]
    cases vars "WYCC_LOG_LEVEL" <;> rfl
  case logFile =>
    change (vars "WYCC_LOG_FILE").or c.logFile = ((vars "WYCC_LOG_FILE").bind fun v => some (some v)).getD c.logFile
    cases vars "WYCC_LOG_FILE" <;> rfl
  case checked.debugTarget =>
    change (overrideWith channel? vars "WYCC_DEBUG_TARGET" c.debugTarget).1 = _
    rw [overrideWith_value, channels]
    rfl
  case checked.logJson =>
    change (overrideWith flag? vars "WYCC_LOG_JSON" c.logJson).1 = _
    rw [overrideWith_value, flags]
    rfl
  case checked.trackObjects =>
    change (overrideWith flag? vars "WYCC_TRACK_OBJECTS" c.trackObjects).1 = _
    rw [overrideWith_value, flags]
    rfl
  case checked.leakCheck =>
    change (overrideWith flag? vars "WYCC_LEAK_CHECK" c.leakCheck).1 = _
    rw [overrideWith_value, flags]
    rfl

/-- The complaints about the variables, in the order in which they are looked at. -/
def complaints (vars : String → Option String) : List Error :=
  (Setting.logJson.complaint vars).toList ++ (Setting.trackObjects.complaint vars).toList ++
    (Setting.leakCheck.complaint vars).toList ++ (Setting.debugTarget.complaint vars).toList

/-- What is reported of the variables does not depend on the settings below them. -/
theorem applyEnv_complaints (c : Config) (vars : String → Option String) :
    (c.applyEnv vars).2 = complaints vars := by
  have flags : flag? = Setting.chosen Setting.flagWords := funext flag?_eq
  have channels : channel? = Setting.chosen Setting.channelWords := funext channel?_eq
  rw [complaints, ← overrideWith_complaint _ vars c.logJson, ← overrideWith_complaint _ vars c.trackObjects,
    ← overrideWith_complaint _ vars c.leakCheck, ← overrideWith_complaint _ vars c.debugTarget]
  simp only [applyEnv, flags, channels]
  rfl

/-- The reader of the build fails, or takes the values of a file over the defaults. -/
def ReadsOver (build : Build) (values : String → Values) : Prop :=
  ∀ text, (∃ said, build.readToml text = .error said) ∨
    build.readToml text = .ok ((values text).over (default build.debug))

/-- That leaves no reader out: a file may be taken to have a value for each of the settings that are read. -/
theorem exists_readsOver (build : Build) : ∃ values, ReadsOver build values := by
  let whole (c : Config) : Values := ⟨c.logLevel, c.logJson, c.logFile, c.trackObjects, c.leakCheck, c.debugTarget⟩
  have same : ∀ c, (whole c).over (default build.debug) = c := by
    rintro ⟨level, json, file, track, leak, target⟩
    cases file <;> rfl
  refine ⟨fun text => (build.readToml text).toOption.elim {} whole, fun text => ?_⟩
  dsimp only
  cases build.readToml text with
  | error said => exact Or.inl ⟨said, rfl⟩
  | ok c => exact Or.inr (congrArg _ (same c).symm)

/-- The reader that the command runs with reads so: where it does not fail it has found these values. -/
theorem readsOver_readSettings {build : Build} (reader : build.readToml = Toml.readSettings build.debug) :
    ReadsOver build fun text => (Toml.values text).toOption.getD {} := by
  intro text
  rw [reader, Toml.readSettings]
  dsimp only
  cases Toml.values text with
  | error said => exact Or.inl ⟨said, rfl⟩
  | ok v => exact Or.inr rfl

/-- What the configuration file comes to: the values that are taken over from it, and what is wrong with it. -/
inductive FileLayer (build : Build) (values : String → Values) (env : Environment)
    (readConfig : List UInt8 → Except Error (List UInt8)) : Values → Option Error → Prop
  | unnamed : env "WYCC_CONFIG" = none → FileLayer build values env readConfig {} none
  | unreadable {path : List UInt8} {e : Error} : env "WYCC_CONFIG" = some path → readConfig path = .error e →
      FileLayer build values env readConfig {} (some e)
  | noText {path bytes : List UInt8} : env "WYCC_CONFIG" = some path → readConfig path = .ok bytes →
      (∀ text, bytes ≠ Text.utf8 text) →
      FileLayer build values env readConfig {} (some (.io "stream did not contain valid UTF-8"))
  /-- What the reader tells of the text is reported as it is. -/
  | malformed {path : List UInt8} {text said : String} : env "WYCC_CONFIG" = some path →
      readConfig path = .ok (Text.utf8 text) → build.readToml text = .error said →
      FileLayer build values env readConfig {} (some (.configuration said))
  | loaded {path : List UInt8} {text : String} {c : Config} : env "WYCC_CONFIG" = some path →
      readConfig path = .ok (Text.utf8 text) → build.readToml text = .ok c →
      FileLayer build values env readConfig (values text) none

variable {build : Build} {values : String → Values}

/-- The text of a file is handed to the reader. -/
theorem ofFile_utf8 (text : String) : ofFile build (.ok (Text.utf8 text)) = ofToml build text := by
  rw [ofFile, ok_bind, Text.decode?_eq_some_iff.mpr rfl]

/-- A file that is named makes one of the layers, and reading it ends accordingly. -/
theorem ofFile_layer (reads : ReadsOver build values) {env : Environment} {path : List UInt8}
    (named : env "WYCC_CONFIG" = some path) (readConfig : List UInt8 → Except Error (List UInt8)) :
    (∃ e, ofFile build (readConfig path) = .error e ∧ FileLayer build values env readConfig {} (some e)) ∨
      ∃ file, ofFile build (readConfig path) = .ok (file.over (default build.debug)) ∧
        FileLayer build values env readConfig file none := by
  cases content : readConfig path with
  | error e => exact Or.inl ⟨e, rfl, .unreadable named content⟩
  | ok bytes =>
    rw [ofFile, ok_bind]
    cases decoded : Text.decode? bytes with
    | none =>
      refine Or.inl ⟨_, rfl, .noText named content fun text same => ?_⟩
      exact Option.some_ne_none _ ((Text.decode?_eq_some_iff.mpr same).symm.trans decoded)
    | some text =>
      rw [Text.decode?_eq_some_iff] at decoded
      rw [decoded] at content
      rcases reads text with ⟨said, failed⟩ | taken
      · have told : ofToml build text = .error (.configuration said) := by rw [ofToml, failed]; rfl
        exact Or.inl ⟨_, told, .malformed named content failed⟩
      · have read : ofToml build text = .ok ((values text).over (default build.debug)) := by rw [ofToml, taken]; rfl
        exact Or.inr ⟨_, read, .loaded named content taken⟩

/-- Loading takes the layers in turn, for each setting by itself. -/
theorem load_get (reads : ReadsOver build values) (env : Environment)
    (readConfig : List UInt8 → Except Error (List UInt8)) :
    ∃ file trouble, FileLayer build values env readConfig file trouble ∧
      (∀ {α : Type} {setting : Setting α}, setting.Known →
        setting.get (load build env readConfig).1 = setting.layered build.debug env.text file) ∧
      (load build env readConfig).2 = trouble.toList ++ complaints env.text := by
  have layers : ∀ (file : Values) {α : Type} {setting : Setting α}, setting.Known →
      setting.get ((file.over (default build.debug)).applyEnv env.text).1 =
        setting.layered build.debug env.text file := by
    intro file α setting known
    rw [applyEnv_get known, over_get known, default_get known, Setting.layered]
    cases setting.inEnv env.text <;> rfl
  unfold load
  cases named : env "WYCC_CONFIG" with
  | none => exact ⟨{}, _, .unnamed named, layers {}, applyEnv_complaints _ _⟩
  | some path =>
    dsimp only
    rcases ofFile_layer reads named readConfig with ⟨e, failed, layer⟩ | ⟨file, taken, layer⟩
    · rw [failed]
      exact ⟨{}, _, layer, layers {}, congrArg _ (applyEnv_complaints _ _)⟩
    · rw [taken]
      exact ⟨file, _, layer, layers file, applyEnv_complaints _ _⟩

/-- Configuration layering. Where the values of the variables are texts, each of the settings is, by itself,
what its own variable says if that is set and can be read, else what the file says if there is one and it
loads, else the default, which is to track objects only in a build for debugging; words are read in any case of
their letters. What is wrong with the file is reported as the reader tells it, and then each variable that is
set and cannot be read, in order, with its value, and nothing else. -/
theorem load_layered (reads : ReadsOver build values) {env : Environment} {vars : String → Option String}
    (texts : ∀ {α : Type} {setting : Setting α}, setting.Known → env setting.var = (vars setting.var).map Text.utf8)
    (readConfig : List UInt8 → Except Error (List UInt8)) :
    ∃ file trouble, FileLayer build values env readConfig file trouble ∧
      (∀ {α : Type} {setting : Setting α}, setting.Known →
        setting.get (load build env readConfig).1 = setting.layered build.debug vars file) ∧
      (load build env readConfig).2 = trouble.toList ++ complaints vars := by
  obtain ⟨file, trouble, layer, settings, reported⟩ := load_get reads env readConfig
  have same : ∀ {α : Type} {setting : Setting α}, setting.Known → env.text setting.var = vars setting.var := by
    intro α setting known
    rw [Environment.text, texts known]
    cases vars setting.var with
    | none => rfl
    | some value => exact Text.decode?_eq_some_iff.mpr rfl
  refine ⟨file, trouble, layer, fun known => ?_, ?_⟩
  · rw [settings known, Setting.layered, Setting.layered, Setting.inEnv, Setting.inEnv, same known]
  · have complaint : ∀ {α : Type} {setting : Setting α}, setting.Checked →
        setting.complaint env.text = setting.complaint vars := by
      intro α setting checked
      rw [Setting.complaint, Setting.complaint, same (.checked checked)]
    rw [reported, complaints, complaint .logJson, complaint .trackObjects, complaint .leakCheck, complaint .debugTarget,
      complaints]

end Config

/-- Two variables, one of which says nothing that can be read, beside a file that sets two keys. -/
def overridden : Environment
  | "WYCC_CONFIG" => some [99]
  | "WYCC_LOG_JSON" => some (Text.utf8 "Off")
  | "WYCC_TRACK_OBJECTS" => some (Text.utf8 "maybe")
  | _ => none

def overridden_vars : String → Option String
  | "WYCC_LOG_JSON" => some "Off"
  | "WYCC_TRACK_OBJECTS" => some "maybe"
  | _ => none

/-- The file sets a level and the form of the log. -/
def overridden_text : String := "log_level = \"info\"\nlog_json = true\n"

def overridden_file (_ : List UInt8) : Except Error (List UInt8) := .ok (Text.utf8 overridden_text)

def overridden_values (text : String) : Config.Values :=
  if text = overridden_text then { logLevel := some "info", logJson := some true } else {}

/-- A build whose reader knows this file and no other. -/
def overridden_build (debug : Bool) : Build where
  debug := debug
  readToml text :=
    if text = overridden_text then .ok ((overridden_values text).over (.default debug)) else .error "unreadable"
  filter? _ := none
  filter _ := fun _ => true

theorem overridden_reads (debug : Bool) : Config.ReadsOver (overridden_build debug) overridden_values := by
  intro text
  by_cases same : text = overridden_text
  · exact Or.inr (if_pos same)
  · exact Or.inl ⟨_, if_neg same⟩

/-- The level comes from the file, the form of the log from its variable, and tracking is left to the build. -/
def overridden_result (debug : Bool) : Config × List Error :=
  ({ logLevel := "info", trackObjects := debug }, [.configuration "invalid value \"maybe\" for WYCC_TRACK_OBJECTS"])

theorem load_layered_overridden :
    Config.load (overridden_build true) overridden overridden_file = overridden_result true ∧
      Config.load (overridden_build false) overridden overridden_file = overridden_result false := by
  have texts : ∀ {α : Type} {setting : Setting α}, setting.Known →
      overridden setting.var = (overridden_vars setting.var).map Text.utf8 := by
    rintro α setting (_ | _ | ⟨_ | _ | _ | _⟩) <;> rfl
  have given : ∀ {text}, overridden_file [99] = .ok (Text.utf8 text) → text = overridden_text := by
    intro text same
    rw [← Text.lossy_utf8 text, ← Except.ok.inj same, Text.lossy_utf8]
  have result : ∀ debug, Config.load (overridden_build debug) overridden overridden_file = overridden_result debug := by
    intro debug
    obtain ⟨file, trouble, layer, settings, reported⟩ :=
      Config.load_layered (overridden_reads debug) texts overridden_file
    cases layer with
    | unnamed named => cases named
    | unreadable named failed => cases failed
    | noText named read garbled =>
      cases read
      exact absurd rfl (garbled overridden_text)
    -- The file is the one that the reader knows, so of the layers only the last is left.
    | @malformed path text said named read failed =>
      cases given read
      cases failed
    | @loaded path text c named read taken =>
      cases given read
      refine Prod.ext (Config.ext_settings fun known => (settings known).trans ?_) (reported.trans ?_)
      · rcases known with _ | _ | ⟨_ | _ | _ | _⟩ <;> cases debug <;> decide +kernel
      · cases debug <;> decide +kernel
  exact ⟨result true, result false⟩

end CountedBox
