import Mathlib.Logic.Function.Basic
import CountedBox.CommandLine

namespace CountedBox

namespace UsageError

/-- How the text of a complaint begins, whatever it is about. -/
def opening : UsageError → String
  | noCommand => "wycc"
  | missingPath => "--output"
  | unknownOption _ => "Unknown option: "
  | unknownCommand _ => "Unknown command: "

theorem begins_append {s a b : String} (begins : s.toList <+: a.toList) : s.toList <+: (a ++ b).toList := by
  rw [String.toList_append]
  exact begins.trans (List.prefix_append _ _)

/-- Each message begins with an opening that no other kind of mistake has. -/
theorem message_begins (program : String) (e : UsageError) : e.opening.toList <+: (e.message program).toList := by
  cases e with
  | noCommand =>
    unfold message usage
    iterate 6 apply begins_append
    decide
  | missingPath =>
    dsimp only [message, opening]
    decide
  | unknownOption word =>
    unfold message
    iterate 3 apply begins_append
    exact List.prefix_rfl
  | unknownCommand word =>
    unfold message
    iterate 3 apply begins_append
    exact List.prefix_rfl

/-- A word between two known texts can be read back. -/
theorem word_unique {start rest word other : String}
    (same : start ++ word ++ "\n\n" ++ rest = start ++ other ++ "\n\n" ++ rest) : word = other := by
  have words : start ++ word = start ++ other := (String.append_left_inj _).mp ((String.append_left_inj _).mp same)
  exact (String.append_right_inj _).mp words

/-- The text of a complaint tells which one it is and which word it is about. -/
theorem message_injective (program : String) : Function.Injective (message program) := by
  intro e f same
  have openings : e.opening.toList <+: f.opening.toList ∨ f.opening.toList <+: e.opening.toList :=
    List.prefix_or_prefix_of_prefix (message_begins program e) (same ▸ message_begins program f)
  cases e <;> cases f
  case unknownOption.unknownOption => rw [word_unique same]
  case unknownCommand.unknownCommand => rw [word_unique same]
  all_goals first
    | rfl
    | dsimp only [opening] at openings
      exact absurd openings (by decide)

end UsageError

namespace Command

/-- How the option that names the output can be spelled. -/
inductive Spelling where
  | short
  | long

def Spelling.word : Spelling → String
  | short => "-o"
  | long => "--output"

theorem isOutput_iff {word : String} : isOutput word = true ↔ ∃ spelling : Spelling, word = spelling.word := by
  rw [isOutput, Bool.or_eq_true, beq_iff_eq, beq_iff_eq]
  constructor
  · rintro (rfl | rfl)
    · exact ⟨.short, rfl⟩
    · exact ⟨.long, rfl⟩
  · rintro ⟨_ | _, rfl⟩
    · exact Or.inl rfl
    · exact Or.inr rfl

theorem isOutput_word (spelling : Spelling) : isOutput spelling.word = true := isOutput_iff.mpr ⟨spelling, rfl⟩

/-- Options as they are written, each with its path. -/
def words (pairs : List (Spelling × String)) : List String := pairs.flatMap fun pair => [pair.1.word, pair.2]

/-- The path that counts, if there is one. -/
def lastPath (pairs : List (Spelling × String)) : Option String := pairs.getLast?.map Prod.snd

/-- The words after a header command are options with their paths, and after these nothing, an option
without a path, or a word that is no option with anything after it. -/
theorem exists_words (rest : List String) : (∃ pairs, rest = words pairs) ∨
    (∃ (pairs : List (Spelling × String)) (spelling : Spelling), rest = words pairs ++ [spelling.word]) ∨
    ∃ (pairs : List (Spelling × String)) (word : String) (after : List String),
      rest = words pairs ++ word :: after ∧ ∀ spelling : Spelling, word ≠ spelling.word := by
  -- As the reader takes them, two words at a time, whatever it has read before.
  fun_induction headerOptions none rest with
  | case1 => exact Or.inl ⟨[], rfl⟩
  | case2 output word =>
    by_cases option : ∃ spelling : Spelling, word = spelling.word
    · obtain ⟨spelling, rfl⟩ := option
      exact Or.inr (Or.inl ⟨[], spelling, rfl⟩)
    · exact Or.inr (Or.inr ⟨[], word, [], rfl, not_exists.mp option⟩)
  | case3 output word path rest option ih =>
    obtain ⟨spelling, rfl⟩ := isOutput_iff.mp option
    rcases ih with ⟨pairs, rfl⟩ | ⟨pairs, lone, rfl⟩ | ⟨pairs, stray, after, rfl, none⟩
    · exact Or.inl ⟨(spelling, path) :: pairs, rfl⟩
    · exact Or.inr (Or.inl ⟨(spelling, path) :: pairs, lone, rfl⟩)
    · exact Or.inr (Or.inr ⟨(spelling, path) :: pairs, stray, after, rfl, none⟩)
  | case4 output word path rest option =>
    refine Or.inr (Or.inr ⟨[], word, path :: rest, rfl, fun spelling same => option ?_⟩)
    exact isOutput_iff.mpr ⟨spelling, same⟩

/-- Options that have their paths are read to the end, and the last path replaces what was there before. -/
theorem headerOptions_words_append (output : Option String) (pairs : List (Spelling × String)) (rest : List String) :
    headerOptions output (words pairs ++ rest) = headerOptions ((lastPath pairs).or output) rest := by
  induction pairs generalizing output with
  | nil => rfl
  | cons pair pairs ih =>
    obtain ⟨spelling, path⟩ := pair
    have last : (lastPath ((spelling, path) :: pairs)).or output = (lastPath pairs).or (some path) := by
      rw [lastPath, lastPath, List.getLast?_cons]
      cases pairs.getLast? <;> rfl
    rw [last, ← ih]
    exact if_pos (isOutput_word spelling)

/-- Pairs of an option and a path are read one after the other, and the last path counts. -/
theorem headerOptions_words (pairs : List (Spelling × String)) :
    headerOptions none (words pairs) = .ok (lastPath pairs) := by
  have read := headerOptions_words_append none pairs []
  rwa [List.append_nil, Option.or_none] at read

/-- An option at the end has no path. -/
theorem headerOptions_lone (pairs : List (Spelling × String)) (spelling : Spelling) :
    headerOptions none (words pairs ++ [spelling.word]) = .error .missingPath := by
  rw [headerOptions_words_append, headerOptions, if_pos (isOutput_word spelling)]

/-- A word in the place of an option is reported, and what comes after it is not looked at. -/
theorem headerOptions_stray (pairs : List (Spelling × String)) {word : String} (after : List String)
    (stray : ∀ spelling : Spelling, word ≠ spelling.word) :
    headerOptions none (words pairs ++ word :: after) = .error (.unknownOption word) := by
  have none : ¬ isOutput word = true := fun option => (isOutput_iff.mp option).elim stray
  rw [headerOptions_words_append]
  cases after with
  | nil => rw [headerOptions, if_neg none]
  | cons path rest => rw [headerOptions, if_neg none]

/-- What a line of arguments means: a command, or what is complained about. -/
inductive Means (args : List String) : Except UsageError Command → Prop
  | silent : args[1]? = none → Means args (.error .noCommand)
  | help {word : String} : args[1]? = some word → word = "--help" ∨ word = "-h" → Means args (.error .noCommand)
  | version {word : String} : args[1]? = some word → word = "version" ∨ word = "--version" →
      Means args (.ok .version)
  | header (pairs : List (Spelling × String)) : args[1]? = some "header" → args.drop 2 = words pairs →
      Means args (.ok (.header (lastPath pairs)))
  | missingPath (pairs : List (Spelling × String)) (spelling : Spelling) : args[1]? = some "header" →
      args.drop 2 = words pairs ++ [spelling.word] → Means args (.error .missingPath)
  | unknownOption (pairs : List (Spelling × String)) (word : String) (after : List String) :
      args[1]? = some "header" → args.drop 2 = words pairs ++ word :: after →
      (∀ spelling : Spelling, word ≠ spelling.word) → Means args (.error (.unknownOption word))
  | unknownCommand {word : String} : args[1]? = some word →
      word ∉ ["--help", "-h", "version", "--version", "header"] → Means args (.error (.unknownCommand word))

/-- What the reader makes of the arguments is what they mean. -/
theorem means_parse (args : List String) : Means args (parse args) := by
  match args with
  | [] | [_] => exact .silent rfl
  | program :: word :: rest =>
    rw [parse]
    by_cases help : word = "--help" ∨ word = "-h"
    · rw [if_pos help]
      exact .help rfl help
    rw [if_neg help]
    by_cases version : word = "version" ∨ word = "--version"
    · rw [if_pos version]
      exact .version rfl version
    rw [if_neg version]
    by_cases named : word = "header"
    · rw [if_pos named, named]
      rcases exists_words rest with ⟨pairs, rfl⟩ | ⟨pairs, spelling, rfl⟩ | ⟨pairs, stray, after, rfl, none⟩
      · rw [headerOptions_words]
        exact .header pairs rfl rfl
      · rw [headerOptions_lone]
        exact .missingPath pairs spelling rfl rfl
      · rw [headerOptions_stray pairs after none]
        exact .unknownOption pairs stray after rfl rfl none
    · rw [if_neg named]
      exact .unknownCommand rfl (by simp_all)

theorem exists_of_second {args : List String} {word : String} (second : args[1]? = some word) :
    ∃ program, args = program :: word :: args.drop 2 := by
  match args with
  | [] | [_] => cases second
  | program :: _ :: rest =>
    cases second
    exact ⟨program, rfl⟩

theorem parse_header {args : List String} (second : args[1]? = some "header") :
    parse args = header <$> headerOptions none (args.drop 2) := by
  obtain ⟨program, same⟩ := exists_of_second second
  rw [same]
  rfl

theorem Means.parse_eq {args : List String} {x : Except UsageError Command} (means : Means args x) : parse args = x := by
  cases means with
  | silent second =>
    match args with
    | [] | [_] => rfl
    | _ :: _ :: _ => cases second
  | help second known =>
    obtain ⟨program, same⟩ := exists_of_second second
    rw [same, parse, if_pos known]
  | version second known =>
    obtain ⟨program, same⟩ := exists_of_second second
    rcases known with rfl | rfl
    · rw [same]
      rfl
    · rw [same]
      rfl
  | header pairs second rest =>
    rw [parse_header second, rest, headerOptions_words]
    rfl
  | missingPath pairs spelling second rest =>
    rw [parse_header second, rest, headerOptions_lone]
    rfl
  | unknownOption pairs word after second rest stray =>
    rw [parse_header second, rest, headerOptions_stray pairs after stray]
    rfl
  | unknownCommand second other =>
    obtain ⟨program, same⟩ := exists_of_second second
    simp only [List.mem_cons, List.not_mem_nil, or_false, not_or] at other
    obtain ⟨help, short, version, option, named⟩ := other
    rw [same, parse, if_neg (not_or.mpr ⟨help, short⟩), if_neg (not_or.mpr ⟨version, option⟩), if_neg named]

section

variable {args : List String}

/-- So what is read and what is meant are the same. -/
theorem parse_eq_iff {x : Except UsageError Command} : parse args = x ↔ Means args x :=
  ⟨fun same => same ▸ means_parse args, Means.parse_eq⟩

theorem parse_version_iff : parse args = .ok .version ↔ args[1]? = some "version" ∨ args[1]? = some "--version" := by
  rw [parse_eq_iff]
  constructor
  · rintro (_ | _ | ⟨second, rfl | rfl⟩)
    · exact Or.inl second
    · exact Or.inr second
  · rintro (second | second)
    · exact .version second (Or.inl rfl)
    · exact .version second (Or.inr rfl)

theorem parse_header_iff {output : Option String} : parse args = .ok (.header output) ↔
    args[1]? = some "header" ∧ ∃ pairs, args.drop 2 = words pairs ∧ output = lastPath pairs := by
  rw [parse_eq_iff]
  constructor
  · intro means
    cases means with
    | header pairs second rest => exact ⟨second, pairs, rest, rfl⟩
  · rintro ⟨second, pairs, rest, rfl⟩
    exact .header pairs second rest

/-- Whatever is not one of the two commands is a mistake. -/
theorem parse_error_iff : (∃ e, parse args = .error e) ↔
    ¬ (args[1]? = some "version" ∨ args[1]? = some "--version") ∧
      ¬ (args[1]? = some "header" ∧ ∃ pairs, args.drop 2 = words pairs) := by
  rw [← parse_version_iff]
  cases result : parse args with
  | error e =>
    refine iff_of_true ⟨e, rfl⟩ ⟨nofun, fun ⟨second, pairs, rest⟩ => ?_⟩
    cases result.symm.trans (parse_header_iff.mpr ⟨second, pairs, rest, rfl⟩)
  | ok command =>
    refine iff_of_false nofun fun ⟨unasked, unread⟩ => ?_
    cases command with
    | version => exact unasked rfl
    | header output =>
      obtain ⟨second, pairs, rest, _⟩ := parse_header_iff.mp result
      exact unread ⟨second, pairs, rest⟩

theorem parse_missingPath_iff : parse args = .error .missingPath ↔ args[1]? = some "header" ∧
    ∃ (pairs : List (Spelling × String)) (spelling : Spelling), args.drop 2 = words pairs ++ [spelling.word] := by
  rw [parse_eq_iff]
  constructor
  · intro means
    cases means with
    | missingPath pairs spelling second rest => exact ⟨second, pairs, spelling, rest⟩
  · rintro ⟨second, pairs, spelling, rest⟩
    exact .missingPath pairs spelling second rest

theorem parse_unknownOption_iff {word : String} : parse args = .error (.unknownOption word) ↔
    args[1]? = some "header" ∧ ∃ (pairs : List (Spelling × String)) (after : List String),
      args.drop 2 = words pairs ++ word :: after ∧ ∀ spelling : Spelling, word ≠ spelling.word := by
  rw [parse_eq_iff]
  constructor
  · intro means
    cases means with
    | unknownOption pairs word after second rest stray => exact ⟨second, pairs, after, rest, stray⟩
  · rintro ⟨second, pairs, after, rest, stray⟩
    exact .unknownOption pairs word after second rest stray

/-- A header command fails for one of two reasons only. -/
theorem parse_header_error {e : UsageError} (second : args[1]? = some "header") (failed : parse args = .error e) :
    e = .missingPath ∨ ∃ word, e = .unknownOption word := by
  cases parse_eq_iff.mp failed with
  | silent other => cases second.symm.trans other
  | help other known =>
    cases second.symm.trans other
    exact absurd known (by decide)
  | missingPath => exact Or.inl rfl
  | unknownOption _ word => exact Or.inr ⟨word, rfl⟩
  | unknownCommand other unknown =>
    cases second.symm.trans other
    exact absurd unknown (by decide)

end

/-- The arguments are read exactly by their grammar. The word after the name of the program asks for the version
whatever follows, or for the header if all that follows are options with their paths; a path may look like an
option, and the last one counts. Everything else is an error. After the word for the header, either the last
option lacks its path, or the first word in the place of an option that is none is named. No two errors have the
same text. -/
theorem parse_exact (args : List String) :
    (parse args = .ok .version ↔ args[1]? = some "version" ∨ args[1]? = some "--version") ∧
    (∀ output, parse args = .ok (.header output) ↔
      args[1]? = some "header" ∧ ∃ pairs, args.drop 2 = words pairs ∧ output = lastPath pairs) ∧
    ((∃ e, parse args = .error e) ↔ ¬ (args[1]? = some "version" ∨ args[1]? = some "--version") ∧
      ¬ (args[1]? = some "header" ∧ ∃ pairs, args.drop 2 = words pairs)) ∧
    (parse args = .error .missingPath ↔ args[1]? = some "header" ∧
      ∃ (pairs : List (Spelling × String)) (spelling : Spelling), args.drop 2 = words pairs ++ [spelling.word]) ∧
    (∀ word, parse args = .error (.unknownOption word) ↔ args[1]? = some "header" ∧
      ∃ (pairs : List (Spelling × String)) (after : List String),
        args.drop 2 = words pairs ++ word :: after ∧ ∀ spelling : Spelling, word ≠ spelling.word) ∧
    (args[1]? = some "header" →
      ∀ e, parse args = .error e → e = .missingPath ∨ ∃ word, e = .unknownOption word) ∧
    ∀ program, Function.Injective (UsageError.message program) :=
  ⟨parse_version_iff, fun _ => parse_header_iff, parse_error_iff, parse_missingPath_iff,
    fun _ => parse_unknownOption_iff, fun second _ => parse_header_error second, UsageError.message_injective⟩

/-- The first path looks like an option, and the option after it has none. -/
theorem parse_exact_lone : parse ["wycc", "header", "-o", "--output", "-o"] = .error .missingPath :=
  (parse_exact _).2.2.2.1.mpr ⟨rfl, [(.short, "--output")], .short, rfl⟩

end Command

end CountedBox
