import CountedBox.Config.Environment
import CountedBox.Proofs.Heap.Actions
import CountedBox.Proofs.Text.Spelling

namespace CountedBox

/-- One of the settings by itself: the variable that sets it and what its text stands for, what a file has for
it, what it is where neither says anything, with and without debugging, and where the setting is kept. -/
structure Setting (α : Type) where
  var : String
  ofText : String → Option α
  ofFile : Config.Values → Option α
  initially : Bool → α
  get : Config → α

namespace Setting

/-- What a word stands for, whatever the case of its letters. -/
def chosen {α : Type} (words : List (String × α)) (value : String) : Option α := words.lookup (Text.small value)

def flagWords : List (String × Bool) :=
  [("1", true), ("true", true), ("yes", true), ("on", true), ("0", false), ("false", false), ("no", false),
    ("off", false)]

def channelWords : List (String × Channel) := [("stdout", .stdout), ("stderr", .stderr)]

def logLevel : Setting String where
  var := "WYCC_LOG_LEVEL"
  ofText v := some (Text.lowercase v)
  ofFile := Config.Values.logLevel
  initially _ := "warn"
  get := Config.logLevel

def logJson : Setting Bool where
  var := "WYCC_LOG_JSON"
  ofText := chosen flagWords
  ofFile := Config.Values.logJson
  initially _ := false
  get := Config.logJson

def logFile : Setting (Option String) where
  var := "WYCC_LOG_FILE"
  ofText v := some (some v)
  ofFile v := v.logFile.map some
  initially _ := none
  get := Config.logFile

def trackObjects : Setting Bool where
  var := "WYCC_TRACK_OBJECTS"
  ofText := chosen flagWords
  ofFile := Config.Values.trackObjects
  initially debug := debug
  get := Config.trackObjects

def leakCheck : Setting Bool where
  var := "WYCC_LEAK_CHECK"
  ofText := chosen flagWords
  ofFile := Config.Values.leakCheck
  initially _ := true
  get := Config.leakCheck

def debugTarget : Setting Channel where
  var := "WYCC_DEBUG_TARGET"
  ofText := chosen channelWords
  ofFile := Config.Values.debugTarget
  initially _ := .stdout
  get := Config.debugTarget

/-- The settings whose variables may hold what cannot be read. -/
inductive Checked : ∀ {α : Type}, Setting α → Prop
  | logJson : Checked logJson
  | trackObjects : Checked trackObjects
  | leakCheck : Checked leakCheck
  | debugTarget : Checked debugTarget

/-- All there are. -/
inductive Known : ∀ {α : Type}, Setting α → Prop
  | logLevel : Known logLevel
  | logFile : Known logFile
  | checked {α : Type} {s : Setting α} : s.Checked → Known s

variable {α : Type}

/-- What its variable makes of the setting. -/
def inEnv (s : Setting α) (vars : String → Option String) : Option α := (vars s.var).bind s.ofText

/-- Its variable comes first, then the file, and then what it is by itself. -/
def layered (s : Setting α) (debug : Bool) (vars : String → Option String) (file : Config.Values) : α :=
  ((s.inEnv vars).or (s.ofFile file)).getD (s.initially debug)

/-- The complaint about a variable that is set and cannot be read; it names the variable and its value. -/
def complaint (s : Setting α) (vars : String → Option String) : Option Error :=
  (vars s.var).bind fun v => match s.ofText v with
    | some _ => none
    | none => some (.configuration ("invalid value " ++ Text.quoted v ++ " for " ++ s.var))

end Setting

/-- Two words stand for the same if they are the same words of the list. -/
theorem lookup_congr {α : Type} {words : List (String × α)} {v w : String}
    (same : ∀ e ∈ words, v = e.1 ↔ w = e.1) : words.lookup v = words.lookup w := by
  induction words with
  | nil => rfl
  | cons e words ih =>
    have rest := ih fun e' member => same e' (List.mem_cons_of_mem _ member)
    have here : (v == e.1) = (w == e.1) := by
      rw [Bool.eq_iff_iff, beq_iff_eq, beq_iff_eq]
      exact same e List.mem_cons_self
    rw [List.lookup_cons, List.lookup_cons, here, rest]

namespace Config

/-- The full table of lower cases adds no spelling. The words are tested by `all`, since a statement about all
characters may be decided by trying each of them. -/
theorem lookup_lowercase {α : Type} {words : List (String × α)}
    (plain : (words.all fun e => e.1.toList.all fun c => decide (Text.IsPlain c)) = true) (value : String) :
    words.lookup (Text.lowercase value) = Setting.chosen words value := by
  refine lookup_congr fun e member => Text.lowercase_eq_iff fun c inside => ?_
  exact of_decide_eq_true (List.all_eq_true.mp (List.all_eq_true.mp plain e member) c inside)

/-- A flag is read by its list of words. -/
theorem flag?_eq (value : String) : flag? value = Setting.chosen Setting.flagWords value := by
  rw [← lookup_lowercase (by decide)]
  unfold flag?
  generalize Text.lowercase value = word
  split
  case h_9 =>
    refine (List.lookup_eq_none_iff.mpr ?_).symm
    simp_all [Setting.flagWords]
  all_goals rfl

/-- So is a channel. -/
theorem channel?_eq (value : String) : channel? value = Setting.chosen Setting.channelWords value := by
  rw [← lookup_lowercase (by decide)]
  unfold channel?
  generalize Text.lowercase value = word
  split
  case h_3 =>
    refine (List.lookup_eq_none_iff.mpr ?_).symm
    simp_all [Setting.channelWords]
  all_goals rfl

end Config

end CountedBox
