import CountedBox.Proofs.Config.Layers
import CountedBox.Proofs.Slot.Plain

namespace CountedBox

namespace Config

variable {build : Build} {env : Environment} {readConfig : List UInt8 → Except Error (List UInt8)} {e : Error}

/-- The error is what the reader tells of the text of the configuration file. -/
def OfText (build : Build) (env : Environment) (readConfig : List UInt8 → Except Error (List UInt8)) (e : Error) : Prop :=
  ∃ path text said, env "WYCC_CONFIG" = some path ∧ readConfig path = .ok (Text.utf8 text) ∧
    build.readToml text = .error said ∧ e = .configuration said

/-- The value of a variable is quoted, and so without a zero. -/
theorem complaint_plain {α : Type} {setting : Setting α} (checked : setting.Checked) {vars : String → Option String}
    (complains : setting.complaint vars = some e) : e.Plain := by
  obtain ⟨value, _, said⟩ := Option.bind_eq_some_iff.mp complains
  split at said
  · cases said
  · cases said
    refine (Error.plain_iff rfl).mpr (Error.zero_notMem_append.mpr ⟨Error.zero_notMem_append.mpr ⟨?_, ?_⟩, ?_⟩)
    · exact Error.zero_notMem_append.mpr ⟨by decide +kernel, Text.zero_notMem_quoted value⟩
    · decide +kernel
    · cases checked <;> decide +kernel

/-- Of all that is wrong with a configuration only what the reader tells may hold a zero. -/
theorem load_plain (plain : ∀ path e, readConfig path = .error e → e.Plain)
    (said : e ∈ (load build env readConfig).2) : e.Plain ∨ OfText build env readConfig e := by
  obtain ⟨values, reads⟩ := exists_readsOver build
  obtain ⟨file, trouble, layer, _, reported⟩ := load_get reads env readConfig
  rw [reported] at said
  rcases List.mem_append.mp said with ofFile | ofVars
  · cases layer with
    | unnamed | loaded => cases ofFile
    | unreadable named failed =>
      cases List.mem_singleton.mp ofFile
      exact Or.inl (plain _ _ failed)
    | noText =>
      cases List.mem_singleton.mp ofFile
      exact Or.inl ((Error.plain_iff rfl).mpr (by decide +kernel))
    | malformed named given failed =>
      cases List.mem_singleton.mp ofFile
      exact Or.inr ⟨_, _, _, named, given, failed, rfl⟩
  · simp only [complaints, List.mem_append, Option.mem_toList] at ofVars
    rcases ofVars with ((json | track) | leak) | target
    · exact Or.inl (complaint_plain .logJson json)
    · exact Or.inl (complaint_plain .trackObjects track)
    · exact Or.inl (complaint_plain .leakCheck leak)
    · exact Or.inl (complaint_plain .debugTarget target)

end Config

end CountedBox
