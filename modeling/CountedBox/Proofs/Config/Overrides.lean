import CountedBox.Proofs.Config.Layers

namespace CountedBox

/-- The same surroundings with one variable taken away. -/
def Environment.without (env : Environment) (var : String) : Environment :=
  fun key => if key = var then none else env key

namespace Environment

variable {env : Environment} {var key : String}

theorem without_other (other : key ≠ var) : env.without var key = env key := if_neg other

theorem text_without_other (other : key ≠ var) : (env.without var).text key = env.text key := by
  rw [text, without_other other, text]

theorem text_without : (env.without var).text var = none := by
  rw [text, without, if_pos rfl, Option.bind_none]

/-- A value that is no text might as well not be there, as far as texts go. -/
theorem text_without_of_unreadable {bytes : List UInt8} (given : env var = some bytes)
    (unreadable : ∀ v, bytes ≠ Text.utf8 v) : (env.without var).text = env.text := by
  funext key
  by_cases other : key = var
  · rw [other, text_without, text, given, Option.bind_some, eq_comm, Option.eq_none_iff_forall_ne_some]
    exact fun v decoded => unreadable v (Text.decode?_eq_some_iff.mp decoded)
  · exact text_without_other other

end Environment

namespace Config

variable {env : Environment} {α : Type} {setting : Setting α}

/-- Without a variable the same file is loaded, and the variables that are left are put over it. -/
theorem load_without (build : Build) (env : Environment) (readConfig : List UInt8 → Except Error (List UInt8))
    (checked : setting.Checked) :
    ∃ base trouble, load build env readConfig = ((applyEnv base env.text).1, trouble ++ complaints env.text) ∧
      load build (env.without setting.var) readConfig =
        ((applyEnv base (env.without setting.var).text).1, trouble ++ complaints (env.without setting.var).text) := by
  have other : "WYCC_CONFIG" ≠ setting.var := by cases checked <;> decide
  unfold load
  rw [Environment.without_other other]
  simp only [applyEnv_complaints]
  exact ⟨_, _, rfl, rfl⟩

/-- A value that its setting cannot read leaves the whole configuration alone. -/
theorem applyEnv_without_of_unread (checked : setting.Checked) {v : String} (given : env.text setting.var = some v)
    (unread : setting.ofText v = none) (base : Config) :
    (base.applyEnv env.text).1 = (base.applyEnv (env.without setting.var).text).1 := by
  refine ext_settings fun {β other} known => ?_
  rw [applyEnv_get known, applyEnv_get known, Setting.inEnv, Setting.inEnv]
  by_cases same : other.var = setting.var
  · -- The variable of a checked setting sets nothing else.
    have nothing : other.ofText v = none := by
      rcases checked with _ | _ | _ | _ <;> rcases known with _ | _ | ⟨_ | _ | _ | _⟩ <;>
        first | exact unread | exact absurd same (by decide)
    rw [same, given, Option.bind_some, nothing, Environment.text_without, Option.bind_none]
  · rw [Environment.text_without_other same]

/-- A complaint about one of the variables is among all of them. -/
theorem complaint_mem_complaints (checked : setting.Checked) {vars : String → Option String} {e : Error}
    (complained : setting.complaint vars = some e) : e ∈ complaints vars := by
  rcases checked with _ | _ | _ | _ <;> simp [complaints, complained]

/-- What becomes of an override. A value that its setting can read is taken over. One that is text but that the
setting cannot read changes nothing, and is reported with the name of its variable. A value that is no text
at all is lost without a word: it is as if the variable were not set. -/
theorem load_override (build : Build) (checked : setting.Checked) {bytes : List UInt8}
    (given : env setting.var = some bytes) (readConfig : List UInt8 → Except Error (List UInt8)) :
    (∀ v x, bytes = Text.utf8 v → setting.ofText v = some x → setting.get (load build env readConfig).1 = x) ∧
    (∀ v, bytes = Text.utf8 v → setting.ofText v = none →
      (load build env readConfig).1 = (load build (env.without setting.var) readConfig).1 ∧
      .configuration ("invalid value " ++ Text.quoted v ++ " for " ++ setting.var) ∈ (load build env readConfig).2) ∧
    ((∀ v, bytes ≠ Text.utf8 v) → load build env readConfig = load build (env.without setting.var) readConfig) := by
  obtain ⟨base, trouble, loaded, without⟩ := load_without build env readConfig checked
  have read : ∀ v, bytes = Text.utf8 v → env.text setting.var = some v := by
    intro v same
    rw [Environment.text, given, Option.bind_some]
    exact Text.decode?_eq_some_iff.mpr same
  refine ⟨fun v x same taken => ?_, fun v same unread => ⟨?_, ?_⟩, fun unreadable => ?_⟩
  · rw [loaded, applyEnv_get (.checked checked), Setting.inEnv, read v same, Option.bind_some, taken, Option.getD_some]
  · rw [loaded, without]
    exact applyEnv_without_of_unread checked (read v same) unread base
  · rw [loaded]
    refine List.mem_append_right _ (complaint_mem_complaints checked ?_)
    rw [Setting.complaint, read v same, Option.bind_some, unread]
  · rw [loaded, without, Environment.text_without_of_unreadable given unreadable]

end Config

/-- One variable is set, to a byte that begins no character. -/
def garbled : Environment
  | "WYCC_LEAK_CHECK" => some [0xff]
  | _ => none

/-- The variable is set, and in no build the settings or what is reported show it. -/
theorem load_override_garbled : garbled "WYCC_LEAK_CHECK" = some [0xff] ∧
    ∀ build readConfig, Config.load build garbled readConfig = (.default build.debug, []) := by
  refine ⟨rfl, fun build readConfig => ?_⟩
  have unreadable : ∀ v, [0xff] ≠ Text.utf8 v := by
    intro v same
    have decoded := Text.decode?_eq_some_iff.mpr same
    cases decoded
  obtain ⟨_, _, lost⟩ := Config.load_override build .leakCheck (rfl : garbled "WYCC_LEAK_CHECK" = some [0xff]) readConfig
  exact (lost unreadable).trans rfl

end CountedBox
