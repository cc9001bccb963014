import CountedBox.Proofs.Debug.Capture
import CountedBox.Proofs.Rendering.Outlets
import CountedBox.Proofs.Slot.Notes
import CountedBox.Proofs.Store.Reports
import CountedBox.Proofs.Tracking.Stale

namespace CountedBox

theorem run_settle {α β : Type} (attempt : Attempt α) (ok : α → β) (failed : Error → β) (s : Session) :
    (settle attempt ok failed).run s = match attempt.run.run s with
      | .ok (.ok x, t) => .ok (ok x, t)
      | .ok (.error e, t) => .ok (failed e, t.record e)
      | .error f => .error f := by
  rw [settle, StateT.run_bind]
  rcases attempt.run.run s with f | ⟨e | x, t⟩ <;> rfl

theorem run_settle_map {α β γ : Type} (attempt : Attempt α) (g : α → β) (ok : β → γ) (failed : Error → γ)
    (s : Session) : (settle (g <$> attempt) ok failed).run s = (settle attempt (fun x => ok (g x)) failed).run s := by
  rw [run_settle, run_settle, ExceptT.run_map, StateT.run_map]
  rcases attempt.run.run s with f | ⟨e | x, t⟩ <;> rfl

theorem run_map_askHeap {α β : Type} (f : Heap → Except Stop α) (g : α → β) (s : Session) :
    (g <$> askHeap f).run.run s = (askHeap fun h => (f h).map g).run.run s := by
  rw [ExceptT.run_map, StateT.run_map, run_askHeap, run_askHeap]
  rcases f s.heap with (e | fault) | x <;> rfl

/-- A question is settled by what the heap answers to it. -/
theorem run_settle_ask {α β : Type} (f : Heap → Except Stop α) (ok : α → β) (failed : Error → β) (s : Session) :
    (settle (askHeap f) ok failed).run s = match f s.heap with
      | .ok x => .ok (ok x, s)
      | .error (.error e) => .ok (failed e, s.record e)
      | .error (.fault fault) => .error fault := by
  rw [run_settle, run_askHeap]
  rcases f s.heap with (e | fault) | x <;> rfl

namespace Entry

/-- What is wrong with an entry whose text is null. -/
def missing? : Entry → Option Error
  | boxStr none => some (.nullReference "wycc_box_str")
  | recordPut _ none _ => some (.nullReference "wycc_record_put")
  | recordGet _ none => some (.nullReference "wycc_record_get")
  | debugStr none => some (.nullReference "wyil_debug_str")
  | _ => none

/-- The call that an entry makes of its arguments. -/
def counterpart? : Entry → Option Call
  | boxNull => some (.box .null)
  | boxBool value => some (.box (.bool (value != 0)))
  | boxByte value => some (.box (.byte value))
  | boxChar code => some (.boxChar code)
  | boxInt value => some (.box (.int value))
  | boxStr text => text.map fun bytes => .boxText (Text.lossy (Text.untilZero bytes))
  | objStr r => some (.boxRendering r)
  | boolValue r => some (.boolValue r)
  | intValue r => some (.intValue r)
  | listNew capacity => some (.newList capacity.toNat)
  | listAdd list item => some (.listAdd list item)
  | listGet list i => some (.listGet list (index i))
  | setNew => some .newSet
  | setAdd set item => some (.setAdd set item)
  | tupleNew arity => some (.newTuple arity.toNat)
  | tupleSet tuple i item => some (.tupleSet tuple (index i) item)
  | tupleGet tuple i => some (.tupleGet tuple (index i))
  | recordNew => some .newRecord
  | recordPut record field item => field.map fun bytes => .recordPut record (Text.lossy (Text.untilZero bytes)) item
  | recordGet record field => field.map fun bytes => .recordGet record (Text.lossy (Text.untilZero bytes))
  | equals a b => some (.equals a b)
  | incrBox r => some (.retain r)
  | derefBox r f => some (.release r (f != 0))
  | debugStr text => text.map fun bytes => .write (Text.untilZero bytes)
  | debugObj r => some (.debugObject r)
  | strValue _ | listSize _ | setSize _ | clearError | shutdown => none

/-- What the entries without such a call ask of the heap. -/
def question? : Entry → Option (Heap → Except Stop Reply)
  | strValue r => some fun h => (h.textValue r).map fun bytes => .bytes (some bytes)
  | listSize list => some fun h => (h.listSize list).map fun n => .int (min n maxInt : Nat)
  | setSize set => some fun h => (h.setSize set).map fun n => .int (min n maxInt : Nat)
  | _ => none

/-- What an entry returns for what its call has returned. -/
def answer : Entry → Reply → Reply
  | boolValue _, .bool b | equals _ _, .bool b | setAdd _ _, .bool b => .int (flag b)
  | listAdd _ _, _ | tupleSet _ _ _, _ | recordPut _ _ _, _ => .int 0
  | incrBox r, _ => .ref r
  | derefBox r _, .bool freed => .ref (if freed then none else r)
  | _, reply => reply

/-- Debug output is announced in the log before it is written. -/
def announced (s : Session) : Entry → Session
  | debugStr (some bytes) => s.log (.debugText (Text.untilZero bytes).length)
  | debugObj r => s.log (.debugObject r)
  | _ => s

/-- An entry that neither clears the slot nor ends the program. -/
def Ordinary (e : Entry) : Prop := e ≠ clearError ∧ e ≠ shutdown

variable {e : Entry} {c : Call} {err : Error}

/-- An entry that misses an argument fails for that, and asks for nothing. -/
theorem perform_missing (missing : e.missing? = some err) (s : Session) :
    e.perform.run s = .ok (e.failure err, s.record err) := by
  unfold missing? at missing
  split at missing <;> cases missing <;> rfl

/-- An entry settles what its call comes to. -/
theorem perform_counterpart (counterpart : e.counterpart? = some c) (s : Session) :
    e.perform.run s = (settle c.perform e.answer fun err => e.failure err).run (e.announced s) := by
  cases e <;> simp only [counterpart?, Option.some.injEq, Option.map_eq_some_iff, reduceCtorEq] at counterpart
  case boxStr | recordPut | recordGet | debugStr =>
    obtain ⟨bytes, rfl, rfl⟩ := counterpart
    rw [Call.perform, run_settle_map]
    rfl
  case boolValue r =>
    cases counterpart
    rw [perform, number, run_settle_map, Call.perform, run_settle_map]
    rfl
  case equals a b =>
    cases counterpart
    rw [perform, number, run_settle_map, Call.perform, run_settle_map]
    rfl
  case incrBox r =>
    cases counterpart
    have returned : (do onHeap (retain r); return r) = (fun _ => r) <$> onHeap (retain r) := bind_pure_comp _ _
    rw [perform, reference, returned, run_settle_map, Call.perform, run_settle_map]
    rfl
  case derefBox r f =>
    cases counterpart
    have returned : (do return if ← onHeap (release r (f != 0)) then none else r) =
        (fun freed => if freed = true then none else r) <$> onHeap (release r (f != 0)) := bind_pure_comp _ _
    rw [perform, reference, returned, run_settle_map, Call.perform, run_settle_map]
    rfl
  all_goals
    cases counterpart
    rw [Call.perform, run_settle_map]
    rfl

/-- An entry without a call settles what its question comes to. -/
theorem perform_question {ask : Heap → Except Stop Reply} (asks : e.question? = some ask) (s : Session) :
    e.perform.run s = (settle (askHeap ask) id fun err => e.failure err).run s := by
  have asked : ∀ {α : Type} (f : Heap → Except Stop α) (g : α → Reply),
      (settle (askHeap fun h => (f h).map g) id fun err => e.failure err).run s =
        (settle (askHeap f) g fun err => e.failure err).run s := by
    intro α f g
    rw [run_settle, ← run_map_askHeap, ← run_settle]
    exact run_settle_map (askHeap f) g id _ s
  cases e <;> simp only [question?, Option.some.injEq, reduceCtorEq] at asks <;> cases asks
  case strValue r =>
    rw [asked]
    rfl
  case listSize list =>
    rw [asked, perform, number, run_settle_map]
    rfl
  case setSize set =>
    rw [asked, perform, number, run_settle_map]
    rfl

end Entry

/-- The slot, the heap and the sink are as they were. -/
structure Session.Same (s t : Session) : Prop where
  lastError : t.lastError = s.lastError
  heap : t.heap = s.heap
  sink : t.debug.sink = s.debug.sink

theorem Session.Same.trans {s t u : Session} (first : s.Same t) (second : t.Same u) : s.Same u :=
  ⟨second.lastError.trans first.lastError, second.heap.trans first.heap, second.sink.trans first.sink⟩

theorem Session.log_same (s : Session) (event : Log.Event) : s.Same (s.log event) :=
  ⟨s.log_lastError event, s.log_heap event, congrArg Debug.sink (s.log_debug event)⟩

/-! Steps that do nothing but log and write. -/

section Keeps

variable {α β : Type}

/-- Whatever the step comes to, it leaves the slot, the heap and the sink alone. -/
def Keeps (m : Step α) : Prop := ∀ {s t : Session} {x : α}, m.run s = .ok (x, t) → s.Same t

/-- What two steps leave alone their sequence does. -/
theorem keeps_bind {m : Step α} {f : α → Step β} (first : Keeps m) (second : ∀ x, Keeps (f x)) : Keeps (m >>= f) := by
  intro s u y done
  rw [StateT.run_bind] at done
  obtain ⟨⟨x, t⟩, begun, rest⟩ := ok_of_bind_ok done
  exact (first begun).trans (second x rest)

theorem keeps_pure (x : α) : Keeps (pure x) := by
  rintro s _ _ ⟨⟩
  exact ⟨rfl, rfl, rfl⟩

theorem keeps_attempt_bind {m : Attempt α} {f : α → Attempt β} (first : Keeps m.run) (second : ∀ x, Keeps (f x).run) :
    Keeps (m >>= f).run := by
  refine keeps_bind first fun outcome => ?_
  cases outcome with
  | error e => exact keeps_pure _
  | ok x => exact second x

theorem keeps_map {m : Attempt α} {g : α → β} (keeps : Keeps m.run) : Keeps (g <$> m).run := by
  rw [ExceptT.run_map]
  exact keeps_bind keeps fun x => keeps_pure _

theorem keeps_ask {f : Heap → Except Stop α} : Keeps (askHeap f).run := by
  intro s t x done
  rw [run_askHeap] at done
  rcases answered : f s.heap with (e | fault) | y <;> rw [answered] at done <;> cases done <;> exact ⟨rfl, rfl, rfl⟩

theorem keeps_writeDebug {bytes : List UInt8} : Keeps (writeDebug bytes).run := by
  intro s t x done
  rw [run_writeDebug] at done
  cases done
  exact ⟨rfl, rfl, rfl⟩

end Keeps

namespace Call

/-- What a call asks of the heap that changes nothing. -/
def question? : Call → Option (Heap → Except Stop Reply)
  | boolValue r => some fun h => (h.boolValue r).map .bool
  | intValue r => some fun h => (h.intValue r).map .int
  | listGet list index => some fun h => (h.listGet list index).map .ref
  | tupleGet tuple index => some fun h => (h.tupleGet tuple index).map .ref
  | recordGet r field => some fun h => (h.recordGet r field).map .ref
  | equals a b => some fun h => (h.equals a b).map .bool
  | _ => none

/-- Why the call is refused, if it is. -/
def refusal? (c : Call) (s : Session) : Option Error :=
  match c.perform.run.run s with
  | .ok (.error err, _) => some err
  | _ => none

theorem run_question {c : Call} {ask : Heap → Except Stop Reply} (asks : c.question? = some ask) (s : Session) :
    c.perform.run.run s = (askHeap ask).run.run s := by
  cases c <;> simp only [question?, Option.some.injEq, reduceCtorEq] at asks <;> subst asks <;>
    exact run_map_askHeap _ _ s

end Call

namespace Entry

/-- Why an entry fails, if it does. -/
def refusal? (e : Entry) (s : Session) : Option Error :=
  match e.missing?, e.counterpart?, e.question? with
  | some err, _, _ => some err
  | none, some c, _ => c.refusal? s
  | none, none, some ask => match ask s.heap with
    | .error (.error err) => some err
    | _ => none
  | none, none, none => none

/-- The errors of elements that could not be given back for an entry, newest first. -/
def noted (e : Entry) (s : Session) : List Error :=
  match e.request? with
  | some q => (q.run.run s.heap).2.noted
  | none => []

/-- The errors that an entry records, newest first. -/
def recorded (e : Entry) (s : Session) : List Error := (e.refusal? s).toList ++ e.noted s

variable {e : Entry} {c : Call} {s s' : Session} {reply : Reply}

/-- An entry and the call behind it ask the same of the heap. -/
theorem counterpart_request (counterpart : e.counterpart? = some c) : c.request? = e.request? := by
  cases e <;> simp only [counterpart?, Option.some.injEq, Option.map_eq_some_iff, reduceCtorEq] at counterpart
  case boxStr | recordPut | recordGet | debugStr =>
    obtain ⟨bytes, rfl, rfl⟩ := counterpart
    rfl
  all_goals
    cases counterpart
    rfl

/-- The call of an entry is a request, a question or output. -/
theorem counterpart_cases (counterpart : e.counterpart? = some c) :
    (∃ q, c.request? = some q) ∨ (∃ ask, c.question? = some ask) ∨ (∃ bytes, c = .write bytes) ∨
      ∃ r, c = .debugObject r := by
  cases e <;> simp only [counterpart?, Option.some.injEq, Option.map_eq_some_iff, reduceCtorEq] at counterpart
  case boxStr | recordPut | recordGet | debugStr =>
    obtain ⟨bytes, rfl, rfl⟩ := counterpart
    simp [Call.request?, Call.question?]
  all_goals
    cases counterpart
    simp [Call.request?, Call.question?]

/-- A call without a request leaves the slot to its entry. -/
theorem counterpart_keeps (counterpart : e.counterpart? = some c) (none : c.request? = none) : Keeps c.perform.run := by
  rcases counterpart_cases counterpart with ⟨q, asked⟩ | ⟨ask, asks⟩ | ⟨bytes, rfl⟩ | ⟨r, rfl⟩
  · cases none.symm.trans asked
  · intro s t x done
    rw [Call.run_question asks] at done
    exact keeps_ask done
  · exact keeps_map keeps_writeDebug
  · exact keeps_map (keeps_attempt_bind keeps_ask fun _ => keeps_writeDebug)

/-- Beside why it is refused, a call records what its request has noted. -/
theorem counterpart_lastError (counterpart : e.counterpart? = some c) {x : Except Error Reply}
    (done : c.perform.run.run s = .ok (x, s')) : s'.lastError = (e.noted s).head?.or s.lastError := by
  rw [noted, ← counterpart_request counterpart]
  cases asked : c.request? with
  | some q =>
    dsimp only
    rw [Call.run_request asked] at done
    rcases ran : q.run.run s.heap with ⟨(err | fault) | y, h⟩ <;> rw [ran] at done <;> cases done <;>
      exact s.adopt_lastError h
  | none =>
    exact (counterpart_keeps counterpart asked done).lastError

/-- Whether the call is refused depends on the heap and on debug output only. -/
theorem refusal?_congr (counterpart : e.counterpart? = some c) {t : Session} (heap : t.heap = s.heap)
    (debug : t.debug = s.debug) : c.refusal? t = c.refusal? s := by
  rw [Call.refusal?, Call.refusal?]
  rcases counterpart_cases counterpart with ⟨q, asked⟩ | ⟨ask, asks⟩ | ⟨bytes, rfl⟩ | ⟨r, rfl⟩
  · rw [Call.run_request asked, Call.run_request asked, heap]
    rcases q.run.run s.heap with ⟨(err | fault) | y, h⟩ <;> rfl
  · rw [Call.run_question asks, Call.run_question asks, run_askHeap, run_askHeap, heap]
    rcases ask s.heap with (err | fault) | y <;> rfl
  · simp only [Call.perform, ExceptT.run_map, StateT.run_map, run_writeDebug, debug]
    rcases s.debug.capture with _ | taken <;> cases s.debug.sink.writeError <;> rfl
  · simp only [Call.perform, ExceptT.run_map, StateT.run_map, debugObject, ExceptT.run_bind, StateT.run_bind,
      run_askHeap, heap]
    rcases s.heap.renderTop r with (err | fault) | text
    · rfl
    · rfl
    · simp only [ok_bind, run_writeDebug, debug]
      rcases s.debug.capture with _ | taken <;> cases s.debug.sink.writeError <;> rfl

theorem announced_cases (e : Entry) (s : Session) : e.announced s = s ∨ ∃ event, e.announced s = s.log event := by
  unfold announced
  split
  · exact Or.inr ⟨_, rfl⟩
  · exact Or.inr ⟨_, rfl⟩
  · exact Or.inl rfl

theorem announced_same (e : Entry) (s : Session) : s.Same (e.announced s) := by
  rcases e.announced_cases s with same | ⟨event, logged⟩
  · rw [same]
    exact ⟨rfl, rfl, rfl⟩
  · rw [logged]
    exact s.log_same event

/-- What is announced in the log makes no difference to the call. -/
theorem refusal?_announced (counterpart : e.counterpart? = some c) (s : Session) :
    c.refusal? (e.announced s) = c.refusal? s := by
  rcases e.announced_cases s with same | ⟨event, logged⟩
  · rw [same]
  · rw [logged]
    exact refusal?_congr counterpart (s.log_heap event) (s.log_debug event)

theorem refusal?_of_missing {err : Error} (missing : e.missing? = some err) : e.refusal? s = some err := by
  rw [refusal?, missing]

theorem refusal?_of_counterpart (counterpart : e.counterpart? = some c) : e.refusal? s = c.refusal? s := by
  have there : e.missing? = none := by
    cases missing : e.missing? with
    | none => rfl
    | some err =>
      unfold missing? at missing
      split at missing <;> cases missing <;> cases counterpart
  rw [refusal?, there, counterpart]

theorem refusal?_of_question {ask : Heap → Except Stop Reply} (asks : e.question? = some ask) :
    e.refusal? s = match ask s.heap with
      | .error (.error err) => some err
      | _ => none := by
  cases e <;> simp only [question?, reduceCtorEq] at asks <;> cases asks <;> rfl

/-- An entry misses an argument, or it makes a call, or it puts a question to the heap. -/
theorem classified (ordinary : e.Ordinary) :
    (∃ err, e.missing? = some err) ∨ (∃ c, e.counterpart? = some c) ∨ ∃ ask, e.question? = some ask := by
  cases e with
  | boxStr text | debugStr text | recordPut _ text _ | recordGet _ text =>
    cases text with
    | none => exact Or.inl ⟨_, rfl⟩
    | some bytes => exact Or.inr (Or.inl ⟨_, rfl⟩)
  | strValue _ | listSize _ | setSize _ => exact Or.inr (Or.inr ⟨_, rfl⟩)
  | clearError => exact absurd rfl ordinary.1
  | shutdown => exact absurd rfl ordinary.2
  | _ => exact Or.inr (Or.inl ⟨_, rfl⟩)

/-- What an entry records is in the slot afterwards, the newest first, and what is not recorded leaves the slot
as it was. An entry that fails returns in place of a result what it always returns then. -/
theorem perform_slot (ordinary : e.Ordinary) (done : e.perform.run s = .ok (reply, s')) :
    s'.lastError = (e.recorded s).head?.or s.lastError ∧ ∀ err, e.refusal? s = some err → reply = e.failure err := by
  unfold recorded
  rcases classified ordinary with ⟨err, missing⟩ | ⟨c, counterpart⟩ | ⟨ask, asks⟩
  · rw [perform_missing missing] at done
    cases done
    rw [refusal?_of_missing missing]
    exact ⟨rfl, by rintro _ ⟨⟩; rfl⟩
  · rw [perform_counterpart counterpart, run_settle] at done
    rw [refusal?_of_counterpart counterpart, ← refusal?_announced counterpart, Call.refusal?]
    rcases ran : c.perform.run.run (e.announced s) with fault | ⟨err | x, t⟩ <;> rw [ran] at done <;> cases done
    · exact ⟨rfl, by rintro _ ⟨⟩; rfl⟩
    · refine ⟨?_, by rintro _ ⟨⟩⟩
      have called := counterpart_lastError counterpart ran
      rw [(announced_same e s).lastError, noted, (announced_same e s).heap] at called
      exact called
  · have plain : e.noted s = [] := by
      cases e <;> simp only [question?, reduceCtorEq] at asks <;> rfl
    rw [perform_question asks, run_settle_ask] at done
    rw [plain, refusal?_of_question asks]
    rcases answered : ask s.heap with (err | fault) | x <;> rw [answered] at done <;> cases done
    · exact ⟨rfl, by rintro _ ⟨⟩; rfl⟩
    · exact ⟨rfl, by rintro _ ⟨⟩⟩

end Entry

end CountedBox
