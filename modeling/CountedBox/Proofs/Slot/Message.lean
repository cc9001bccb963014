import CountedBox.Proofs.Config.Complaints
import CountedBox.Proofs.Slot.Startup

namespace CountedBox

/-- There is always something to tell. -/
theorem Error.message_ne_empty (e : Error) : e.message ≠ "" := by
  have front : ∀ {s t : String}, s ≠ "" → s ++ t ≠ "" := fun some whole => some (String.append_eq_empty_iff.mp whole).1
  cases e with
  | nullReference | unknownObject | countOverflow | invalidTag | invalidChar | configuration | io =>
    exact front (by decide +kernel)
  | cyclicReference | unknownField => exact front (front (by decide +kernel))
  | kindMismatch | indexOutOfBounds => exact front (front (front (by decide +kernel)))
  | countUnderflow => exact front (front (front (front (by decide +kernel))))

namespace Session

variable {s : Session} {e : Error}

/-- A message without a zero is passed on whole. -/
theorem errorText_plain (recorded : s.lastError = some e) (plain : e.Plain) :
    s.errorText Address.hex = some e.message := by
  have whole : e.message.contains '\x00' = false := by
    rw [String.contains_char_eq]
    exact decide_eq_false (Error.zero_notMem_message.mpr plain)
  rw [errorText, recorded]
  exact congrArg some (if_neg (ne_true_of_eq_false whole))

/-- Nothing is left of one that holds a zero. -/
theorem errorText_lost (recorded : s.lastError = some e) (zero : ¬ e.Plain) : s.errorText Address.hex = some "" := by
  have broken : e.message.contains '\x00' = true := by
    rw [String.contains_char_eq, decide_eq_true_iff]
    exact not_not.mp (mt Error.zero_notMem_message.mp zero)
  rw [errorText, recorded]
  exact congrArg some (if_pos broken)

end Session

/-- What a program comes to as one of its threads sees it, which calls entries, also to set the program up and
to shut it down, and the error last recorded on the thread since it was cleared. Between its calls anything
else may happen that leaves its slot alone. -/
inductive ThreadRun (build : Build) (env : Environment) (readConfig : List UInt8 → Except Error (List UInt8)) :
    Session → Option Error → Prop
  | begin {s : Session} : s.Tidy → s.lastError = none → ThreadRun build env readConfig s none
  | cleared {s s' : Session} {last : Option Error} {reply : Reply} : ThreadRun build env readConfig s last →
      Entry.clearError.perform.run s = .ok (reply, s') → ThreadRun build env readConfig s' none
  | entry {s s' : Session} {last : Option Error} {reply : Reply} (e : Entry) : ThreadRun build env readConfig s last →
      e.Ordinary → e.perform.run s = .ok (reply, s') → ThreadRun build env readConfig s' ((e.recorded s).head?.or last)
  | setUp {s s' : Session} {last : Option Error} : ThreadRun build env readConfig s last →
      (start build env readConfig).run s = .ok ((), s') →
      ThreadRun build env readConfig s' ((setUpErrors build env readConfig s).head?.or last)
  | shutDown {s s' : Session} {last : Option Error} {reply : Reply} : ThreadRun build env readConfig s last →
      Entry.shutdown.perform.run s = .ok (reply, s') → ThreadRun build env readConfig s' (s.debug.flushFailure.or last)
  | elsewhere {s s' : Session} {last : Option Error} : ThreadRun build env readConfig s last → s'.Tidy →
      s'.lastError = s.lastError → ThreadRun build env readConfig s' last

namespace ThreadRun

variable {build : Build} {env : Environment} {readConfig : List UInt8 → Except Error (List UInt8)} {s : Session}
  {last : Option Error}

/-- What is in the slot is the error last recorded. -/
theorem slot (run : ThreadRun build env readConfig s last) : s.Tidy ∧ s.lastError = last := by
  induction run with
  | begin tidy slot => exact ⟨tidy, slot⟩
  | cleared _ done ih =>
    cases done
    exact ⟨⟨ih.1.journal, ih.1.sink⟩, rfl⟩
  | entry e _ ordinary done ih =>
    refine ⟨Entry.perform_tidy ordinary ih.1 done, ?_⟩
    rw [(Entry.perform_slot ordinary done).1, ih.2]
  | setUp _ done ih =>
    obtain ⟨_, begun, tidy, slot⟩ := start_slot build env readConfig ih.1
    cases begun.symm.trans done
    exact ⟨tidy, by rw [slot, ih.2]⟩
  | shutDown _ done ih =>
    obtain ⟨⟨live, t⟩, ended, same⟩ := ok_of_bind_ok done
    cases same
    obtain ⟨tidy, slot⟩ := shutdown_slot ih.1 ended
    exact ⟨tidy, by rw [slot, ih.2]⟩
  | elsewhere _ tidy same ih => exact ⟨tidy, same.trans ih.2⟩

/-- Only with what the reader tells of the configuration file a zero gets into an error. -/
theorem last_plain (plain : ∀ path e, readConfig path = .error e → e.Plain) (run : ThreadRun build env readConfig s last) :
    ∀ e, last = some e → e.Plain ∨ Config.OfText build env readConfig e := by
  -- The last error is the newest of the new ones, or the old one where there is none.
  have either : ∀ {new : List Error} {old : Option Error} {p : Error → Prop}, (∀ e ∈ new, p e) →
      (∀ e, old = some e → p e) → ∀ e, new.head?.or old = some e → p e := by
    intro new old p recorded before e some
    rcases Option.or_eq_some_iff.mp some with head | ⟨_, kept⟩
    · exact recorded e (List.mem_of_head? head)
    · exact before e kept
  induction run with
  | begin | cleared => rintro e ⟨⟩
  | entry e run ordinary done ih =>
    exact either (fun err recorded => Or.inl (Entry.recorded_plain run.slot.1 recorded)) ih
  | @setUp s _ last run done ih =>
    refine either (fun err recorded => ?_) ih
    unfold setUpErrors at recorded
    split at recorded
    · rcases List.mem_append.mp recorded with complaint | flush
      · exact Config.load_plain plain (List.mem_reverse.mp complaint)
      · exact Or.inl (flushFailure_plain run.slot.1 (Option.mem_toList.mp flush))
    · cases recorded
  | shutDown run done ih =>
    intro e some
    rcases Option.or_eq_some_iff.mp some with failed | ⟨_, kept⟩
    · exact Or.inl (flushFailure_plain run.slot.1 failed)
    · exact ih e kept
  | elsewhere _ _ _ ih => exact ih

/-- The message tells what was recorded. On every thread the code is zero until an error is recorded, and then
that of the last one, and the message is the whole message of that error, which is not empty. Only where it
passes on what the reader tells of the text of the configuration file it may hold a zero, and then nothing of it
is left. -/
theorem message_tells (plain : ∀ path e, readConfig path = .error e → e.Plain)
    (run : ThreadRun build env readConfig s last) :
    (s.errorCode = 0 ↔ last = none) ∧ ∀ e, last = some e → s.errorCode = e.code ∧ e.message ≠ "" ∧
      ('\x00' ∉ e.message.toList ∧ s.errorText Address.hex = some e.message ∨
        '\x00' ∈ e.message.toList ∧ s.errorText Address.hex = some "" ∧ Config.OfText build env readConfig e) := by
  have slot := run.slot.2
  refine ⟨?_, fun e recorded => ?_⟩
  · rw [Session.errorCode, slot]
    cases last with
    | none => exact iff_of_true rfl rfl
    | some e => exact iff_of_false (Int.ne_of_gt e.code_pos) (Option.some_ne_none e)
  · have here := slot.trans recorded
    refine ⟨by rw [Session.errorCode, here]; rfl, e.message_ne_empty, ?_⟩
    by_cases whole : e.Plain
    · exact Or.inl ⟨Error.zero_notMem_message.mpr whole, Session.errorText_plain here whole⟩
    · have zero := not_not.mp (mt Error.zero_notMem_message.mp whole)
      exact Or.inr ⟨zero, Session.errorText_lost here whole, (run.last_plain plain e recorded).resolve_left whole⟩

end ThreadRun

/-- The configuration file is named, and nothing else is set. -/
def zeroKey_env : Environment
  | "WYCC_CONFIG" => some [99]
  | _ => none

/-- It sets a key that is unknown and has a zero in it. -/
def zeroKey_text : String := "\"a\\u0000\" = 1\n"

def zeroKey_file (_ : List UInt8) : Except Error (List UInt8) := .ok (Text.utf8 zeroKey_text)

/-- What is told of it: the line is shown as it was written, and the key as it was read. -/
def zeroKey_told : String :=
  "TOML parse error at line 1, column 1\n  |\n1 | \"a\\u0000\" = 1\n  | ^^^^^^^^^\n" ++
  "unknown field `a\x00`" ++
  ", expected one of `log_level`, `log_json`, `log_file`, `track_objects`, `leak_check`, `debug_target`\n"

/-- A build whose reader tells this of the file, and takes nothing from any other. -/
def zeroKey_build : Build where
  debug := true
  readToml text := if text = zeroKey_text then .error zeroKey_told else .ok (.default true)
  filter? _ := none
  filter _ := fun _ => true

/-- The reader's text is all that is reported. -/
theorem zeroKey_complaint : (Config.load zeroKey_build zeroKey_env zeroKey_file).2 = [.configuration zeroKey_told] := by
  have content : Config.ofFile zeroKey_build (zeroKey_file [99]) = .error (.configuration zeroKey_told) := by
    rw [zeroKey_file, Config.ofFile_utf8]
    rfl
  rw [Config.load]
  simp only [zeroKey_env, content]
  exact congrArg _ (Config.applyEnv_complaints _ _)

/-- After such a start there is a code, and an error with a message, and the message that is passed on is empty. -/
theorem message_tells_zeroKey : ∃ s, (start zeroKey_build zeroKey_env zeroKey_file).run (.initial true) = .ok ((), s) ∧
    s.lastError = some (.configuration zeroKey_told) ∧ s.errorCode = 8 ∧
    (Error.configuration zeroKey_told).message ≠ "" ∧ s.errorText Address.hex = some "" := by
  have tidy : Session.Tidy (.initial true) := ⟨rfl, by simp [Sink.Plain, Session.initial]⟩
  obtain ⟨s, done, _⟩ := start_slot zeroKey_build zeroKey_env zeroKey_file tidy
  have recorded : setUpErrors zeroKey_build zeroKey_env zeroKey_file (.initial true) = [.configuration zeroKey_told] := by
    rw [setUpErrors, zeroKey_complaint]
    rfl
  have run := ThreadRun.setUp (.begin tidy rfl) done
  rw [recorded] at run
  have zero : ¬ (Error.configuration zeroKey_told).Plain := by
    intro plain
    have told : '\x00' ∉ zeroKey_told.toList := (Error.plain_iff rfl).mp plain
    have key := (Error.zero_notMem_append.mp (Error.zero_notMem_append.mp told).1).2
    exact key (by decide +kernel)
  have tells := (ThreadRun.message_tells (by rintro path e ⟨⟩) run).2 _ rfl
  rcases tells with ⟨code, some, ⟨absent, _⟩ | ⟨_, lost, _⟩⟩
  · exact absurd (Error.zero_notMem_message.mp absent) zero
  · exact ⟨s, done, run.slot.2, code, some, lost⟩

end CountedBox
