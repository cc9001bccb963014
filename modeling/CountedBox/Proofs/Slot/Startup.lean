import CountedBox.Proofs.Slot.Recorded

namespace CountedBox

/-- What a flush that fails is reported as. -/
def Debug.flushFailure (d : Debug) : Option Error := d.sink.flushError.map .io

/-! What is recorded at the start and at the end of a program. -/

section Keeps

variable {α β : Type}

theorem keeps_log (event : Log.Event) : Keeps (log event) := by
  rintro s _ _ ⟨⟩
  exact s.log_same event

theorem keeps_get : Keeps (get : Step Session) := by
  rintro s _ _ ⟨⟩
  exact ⟨rfl, rfl, rfl⟩

theorem keeps_lift (x : Except Fault α) : Keeps (liftM x : Step α) := by
  intro s t y done
  rcases x with f | y <;> cases done
  exact ⟨rfl, rfl, rfl⟩

/-- A loop leaves alone what each of its turns does. -/
theorem keeps_forIn {f : α → β → Step (ForInStep β)} (each : ∀ x b, Keeps (f x b)) (xs : List α) (b : β) :
    Keeps (forIn xs b f) := by
  induction xs generalizing b with
  | nil => exact keeps_pure b
  | cons x xs ih =>
    rw [List.forIn_cons]
    refine keeps_bind (each x b) fun step => ?_
    cases step with
    | done b => exact keeps_pure b
    | yield b => exact ih b

end Keeps

section Slot

variable {s s' : Session}

theorem run_flush (s : Session) : (settle flushDebug id fun _ => ()).run s =
    .ok ((), s.debug.flushFailure.elim s s.record) := by
  have flushed : flushDebug.run.run s = .ok (s.debug.flush, s) := rfl
  rw [run_settle, flushed, Debug.flush, Debug.flushFailure]
  cases s.debug.sink.flushError <;> rfl

/-- A flush fails for the reason that the sink has been given, and that has no zero in it. -/
theorem flushFailure_plain {e : Error} (tidy : s.Tidy) (failed : s.debug.flushFailure = some e) : e.Plain := by
  obtain ⟨reason, given, rfl⟩ := Option.map_eq_some_iff.mp failed
  exact (Error.plain_iff rfl).mpr (tidy.sink.2 reason given)

/-- Whether flushing fails or not, the slot is as it was but for that. -/
theorem flush_slot (tidy : s.Tidy) : (s.debug.flushFailure.elim s s.record).Tidy ∧
    (s.debug.flushFailure.elim s s.record).lastError = s.debug.flushFailure.or s.lastError := by
  cases s.debug.flushFailure with
  | none => exact ⟨tidy, rfl⟩
  | some e => exact ⟨tidy.record e, rfl⟩

/-- Shutting down records nothing but that flushing has failed. -/
theorem shutdown_slot {n : Nat} (tidy : s.Tidy) (done : shutdown.run s = .ok (n, s')) :
    s'.Tidy ∧ s'.lastError = s.debug.flushFailure.or s.lastError := by
  unfold shutdown at done
  rw [StateT.run_bind, run_flush, ok_bind] at done
  obtain ⟨tidied, slot⟩ := flush_slot tidy
  have rest : s.debug.flushFailure.elim s s.record |>.Same s' := by
    refine keeps_bind keeps_get (fun t => ?_) done
    dsimp only
    split
    · refine keeps_bind (keeps_forIn (fun entry _ => ?_) _ _) fun _ => keeps_bind (keeps_log _) fun _ => keeps_pure _
      exact keeps_bind (keeps_lift _) fun _ => keeps_bind (keeps_log _) fun _ => keeps_pure _
    · exact keeps_bind (keeps_log _) fun _ => keeps_pure _
  exact ⟨tidied.same rest, rest.lastError.trans slot⟩

theorem run_records (errors : List Error) (s : Session) :
    (errors.forM record).run s = .ok ((), errors.foldl Session.record s) := by
  induction errors generalizing s with
  | nil => rfl
  | cons e rest ih => exact ih (s.record e)

/-- Of several errors the last one stays. -/
theorem records_slot (tidy : s.Tidy) (errors : List Error) : (errors.foldl Session.record s).Tidy ∧
    (errors.foldl Session.record s).lastError = errors.getLast?.or s.lastError := by
  induction errors generalizing s with
  | nil => exact ⟨tidy, rfl⟩
  | cons e rest ih =>
    obtain ⟨tidied, slot⟩ := ih (tidy.record e)
    refine ⟨tidied, slot.trans ?_⟩
    rw [List.getLast?_cons]
    cases rest.getLast? <;> rfl

/-- Setting up the program records nothing but that flushing has failed. -/
theorem startWith_slot (build : Build) (env : Environment) (c : Config) (tidy : s.Tidy) (fresh : s.config = none) :
    ∃ s', (startWith build env c).run s = .ok (c, s') ∧ s'.Tidy ∧
      s'.lastError = s.debug.flushFailure.or s.lastError := by
  have opened : ∃ s₁, (startLogging build env c).run s = .ok ((), s₁) ∧ s.Same s₁ := by
    refine ⟨_, rfl, ?_⟩
    dsimp only
    split <;> exact ⟨rfl, rfl, rfl⟩
  obtain ⟨s₁, opened, same⟩ := opened
  let s₂ : Session := { s₁.log (.starting c) with heap := (s₁.log (.starting c)).heap.setTracking c.trackObjects }
  have logged := same.trans (s₁.log_same (.starting c))
  have tidied : s₂.Tidy := ⟨(tidy.same logged).journal, (tidy.same logged).sink⟩
  obtain ⟨flushed, slot⟩ := flush_slot tidied
  let s₃ : Session := s₂.debug.flushFailure.elim s₂ s₂.record
  let s₄ : Session := { s₃ with debug := { s₃.debug with sink := ⟨.channel c.debugTarget, none, none⟩ } }
  have aimed : (setTarget c.debugTarget).run s₂ = .ok ((), s₄) := by
    rw [setTarget, setSink, StateT.run_bind, run_flush]
    rfl
  refine ⟨{ s₄ with config := some c }, ?_, ⟨flushed.journal, by simp [Sink.Plain, s₄]⟩, slot.trans ?_⟩
  · unfold startWith
    simp only [StateT.run_bind, StateT.run_get, pure_bind, fresh, opened, ok_bind]
    change (setTarget c.debugTarget).run s₂ >>= _ = _
    rw [aimed]
    rfl
  · change (s₁.log _).debug.flushFailure.or (s₁.log _).lastError = _
    rw [logged.lastError, Debug.flushFailure, logged.sink]
    rfl

/-- The errors that setting up the program from its surroundings records, newest first. -/
def setUpErrors (build : Build) (env : Environment) (readConfig : List UInt8 → Except Error (List UInt8))
    (s : Session) : List Error :=
  if s.config.isNone then (Config.load build env readConfig).2.reverse ++ s.debug.flushFailure.toList else []

/-- Setting up the program finishes, whatever its surroundings are. -/
theorem start_slot (build : Build) (env : Environment) (readConfig : List UInt8 → Except Error (List UInt8))
    (tidy : s.Tidy) :
    ∃ s', (start build env readConfig).run s = .ok ((), s') ∧ s'.Tidy ∧
      s'.lastError = (setUpErrors build env readConfig s).head?.or s.lastError := by
  unfold start
  rw [StateT.run_bind, StateT.run_get, pure_bind]
  cases configured : s.config with
  | some active =>
    rw [setUpErrors, configured]
    exact ⟨s, rfl, tidy, rfl⟩
  | none =>
    obtain ⟨t, begun, tidied, slot⟩ := startWith_slot build env (Config.load build env readConfig).1 tidy configured
    obtain ⟨finished, last⟩ := records_slot tidied (Config.load build env readConfig).2
    refine ⟨_, ?_, finished, last.trans ?_⟩
    · change (startWith build env (Config.load build env readConfig).1).run s >>= _ = _
      rw [begun]
      exact run_records _ t
    · rw [slot, setUpErrors, configured, Option.isNone_none, if_pos rfl, List.head?_append, List.head?_reverse,
        Option.head?_toList, Option.or_assoc]

end Slot

end CountedBox
