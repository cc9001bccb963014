import CountedBox.Proofs.Operation.Effect
import CountedBox.Proofs.Tracking.Matches

namespace CountedBox

/-- The event is the warning at the end that a box is still alive. -/
def Log.Event.warnsOfLeak (e : Log.Event) : Bool := e.message == some "Object leaked"

/-- The sessions differ in nothing but what tracking shows: their heaps are alike, and they have seen the
same events except for warnings of leaks. -/
structure Session.Alike (s t : Session) : Prop where
  heap : s.heap.Alike t.heap
  debug : s.debug = t.debug
  lastError : s.lastError = t.lastError
  config : s.config = t.config
  logger : s.logger = t.logger
  events : s.events.filter (fun e => !e.warnsOfLeak) = t.events.filter (fun e => !e.warnsOfLeak)

theorem Heap.Alike.symm {h k : Heap} (alike : h.Alike k) : k.Alike h :=
  ⟨fun right left => (alike.boxes left right).symm, alike.right, alike.left,
    fun same => (alike.registry same.symm).symm, alike.next.symm, alike.boxed.symm, alike.freed.symm,
    alike.journal.symm⟩

namespace Session.Alike

variable {s t : Session}

theorem symm (alike : s.Alike t) : t.Alike s :=
  ⟨alike.heap.symm, alike.debug.symm, alike.lastError.symm, alike.config.symm, alike.logger.symm,
    alike.events.symm⟩

theorem log (alike : s.Alike t) (e : Log.Event) : (s.log e).Alike (t.log e) := by
  unfold Session.log
  rw [alike.logger]
  split
  · split
    · exact ⟨alike.heap, alike.debug, alike.lastError, alike.config, rfl,
        by simp only [List.filter_cons, alike.events]⟩
    · exact alike
  · exact alike

theorem record (alike : s.Alike t) (e : Error) : (s.record e).Alike (t.record e) := by
  have logged := alike.log (.recorded e)
  exact ⟨logged.heap, logged.debug, rfl, logged.config, logged.logger, logged.events⟩

theorem clear (alike : s.Alike t) : Session.Alike { s with lastError := none } { t with lastError := none } :=
  ⟨alike.heap, alike.debug, rfl, alike.config, alike.logger, alike.events⟩

/-- A warning of a leak on one side makes no difference. -/
theorem leaked (alike : s.Alike t) (kind : Kind) (a : Address) (count : Int) :
    (s.log (.leaked kind a count)).Alike t := by
  unfold Session.log
  split
  · split
    · refine ⟨alike.heap, alike.debug, alike.lastError, alike.config, alike.logger, ?_⟩
      rw [List.filter_cons_of_neg (by simp [Log.Event.warnsOfLeak, Log.Event.leaked])]
      exact alike.events
    · exact alike
  · exact alike

theorem adopt (alike : s.Alike t) {h k : Heap} (heaps : h.Alike k) : (s.adopt h).Alike (t.adopt k) := by
  have observed : ∀ (notes : List Note) (s t : Session), s.Alike t →
      (notes.foldl Session.observe s).Alike (notes.foldl Session.observe t) := by
    intro notes
    induction notes with
    | nil => exact fun _ _ alike => alike
    | cons n notes ih =>
      intro s t alike
      refine ih _ _ ?_
      cases n with
      | boxed kind a => exact alike.log _
      | freed kind a deep => exact alike.log _
      | elementError e => exact alike.record e
  unfold Session.adopt
  rw [heaps.journal]
  have settled : Heap.Alike { h with journal := [] } { k with journal := [] } :=
    heaps.of_same rfl rfl rfl rfl rfl rfl heaps.next heaps.boxed heaps.freed rfl
  exact observed _ _ _ ⟨settled, alike.debug, alike.lastError, alike.config, alike.logger, alike.events⟩

end Session.Alike

/-- One of the steps breaks off, or both give the same and end in alike sessions. -/
inductive Lockstep {α : Type} : Except Fault (α × Session) → Except Fault (α × Session) → Prop
  | left (f : Fault) (q : Except Fault (α × Session)) : Lockstep (.error f) q
  | right (p : Except Fault (α × Session)) (f : Fault) : Lockstep p (.error f)
  | both {s t : Session} (x : α) : s.Alike t → Lockstep (.ok (x, s)) (.ok (x, t))

theorem Lockstep.of_eq {α : Type} {x y : α} {s t : Session} (same : x = y) (alike : s.Alike t) :
    Lockstep (.ok (x, s)) (.ok (y, t)) := same ▸ .both x alike

theorem Session.Alike.conclude {α : Type} {s t : Session} (alike : s.Alike t) {p q : Except Stop α × Heap}
    (matched : Matches p q) : Lockstep (s.conclude p) (t.conclude q) := by
  cases matched with
  | left f h q => exact .left f _
  | right p f k => exact .right _ f
  | both outcome after =>
    rcases outcome with (e | f) | x
    · exact .both _ (alike.adopt after)
    · exact .left f _
    · exact .both _ (alike.adopt after)

/-- The step cannot tell alike sessions apart. -/
def InStep {α : Type} (m : Step α) : Prop := ∀ s t, s.Alike t → Lockstep (m.run s) (m.run t)

/-- Steps that go alike one after the other go alike together. -/
theorem Lockstep.bind {α β : Type} {m : Step α} {f : α → Step β} {s t : Session}
    (first : Lockstep (m.run s) (m.run t)) (second : ∀ x, InStep (f x)) :
    Lockstep ((m >>= f).run s) ((m >>= f).run t) := by
  rw [StateT.run_bind, StateT.run_bind]
  generalize m.run s = p at first ⊢
  generalize m.run t = q at first ⊢
  cases first with
  | left f q => exact .left f _
  | right p f => exact .right _ f
  | both x after => exact second x _ _ after

namespace InStep

variable {α β : Type}

theorem pure (x : α) : InStep (Pure.pure x : Step α) := fun _ _ alike => .both x alike

theorem bind {m : Step α} {f : α → Step β} (first : InStep m) (second : ∀ x, InStep (f x)) :
    InStep (m >>= f) :=
  fun s t alike => (first s t alike).bind second

theorem attempt_bind {m : Attempt α} {f : α → Attempt β} (first : InStep m.run)
    (second : ∀ x, InStep (f x).run) : InStep (m >>= f).run := by
  refine first.bind fun outcome => ?_
  cases outcome with
  | error e => exact pure _
  | ok x => exact second x

theorem map {m : Attempt α} (g : α → β) (inStep : InStep m.run) : InStep (g <$> m).run := by
  rw [ExceptT.run_map]
  exact inStep.bind fun _ => pure _

theorem lift {m : Step α} (inStep : InStep m) : InStep (liftM m : Attempt α).run :=
  inStep.bind fun x => pure (Except.ok x)

theorem log (e : Log.Event) : InStep (CountedBox.log e) := fun _ _ alike => .both () (alike.log e)

theorem record (e : Error) : InStep (CountedBox.record e) := fun _ _ alike => .both () (alike.record e)

theorem settle {attempt : Attempt α} {ok : α → β} {failed : Error → β} (inStep : InStep attempt.run) :
    InStep (settle attempt ok failed) := by
  refine inStep.bind fun outcome => ?_
  cases outcome with
  | ok x => exact pure _
  | error e => exact (record e).bind fun _ => pure _

/-- What goes alike on the heaps goes alike in the sessions. -/
theorem onHeap {a : Action α} (matched : ∀ h k, h.Alike k → Matches (a.run h) (a.run k)) :
    InStep (onHeap a).run := by
  intro s t alike
  rw [run_onHeap, run_onHeap]
  exact alike.conclude (matched s.heap t.heap alike.heap)

theorem askHeap {f : Heap → Except Stop α} (concur : ∀ h k, h.Alike k → Concur (f h) (f k)) :
    InStep (askHeap f).run := by
  intro s t alike
  have both := concur s.heap t.heap alike.heap
  simp only [CountedBox.askHeap, ExceptT.run, ExceptT.mk, StateT.run]
  generalize f s.heap = x at both ⊢
  generalize f t.heap = y at both ⊢
  cases both with
  | left fault y => exact .left fault _
  | right x fault => exact .right _ fault
  | refused e => exact .both _ alike
  | given same =>
    subst same
    exact .both _ alike

theorem writeDebug (bytes : List UInt8) : InStep (writeDebug bytes).run := by
  intro s t alike
  simp only [CountedBox.writeDebug, ExceptT.run, ExceptT.mk, StateT.run, alike.debug]
  cases t.debug.write bytes with
  | ok d => exact .both _ ⟨alike.heap, rfl, alike.lastError, alike.config, alike.logger, alike.events⟩
  | error e => exact .both _ alike

theorem flush : InStep flushDebug.run := by
  intro s t alike
  simp only [flushDebug, ExceptT.run, ExceptT.mk, StateT.run, alike.debug]
  exact .both _ alike

theorem debugObject (r : Ref) : InStep (debugObject r).run :=
  (askHeap fun _ _ alike => alike.renderTop r).attempt_bind fun _ => writeDebug _

end InStep

/-! Shutting down. -/

/-- Warn of each box that is still alive. -/
def warnOfLeaks (h : Heap) (live : List (Address × Kind)) : Step PUnit :=
  forIn live PUnit.unit fun entry _ => do
    log (.leaked entry.2 entry.1 (← liveCount h entry.1))
    return ForInStep.yield PUnit.unit

theorem warnOfLeaks_cases (h : Heap) (live : List (Address × Kind)) (s : Session) :
    (∃ f, (warnOfLeaks h live).run s = .error f) ∨
      ∃ u : Session, (warnOfLeaks h live).run s = .ok (PUnit.unit, u) ∧ ∀ t, s.Alike t → u.Alike t := by
  unfold warnOfLeaks
  induction live generalizing s with
  | nil => exact Or.inr ⟨s, rfl, fun _ alike => alike⟩
  | cons entry live ih =>
    rw [List.forIn_cons]
    cases counted : liveCount h entry.1 with
    | error f => exact Or.inl ⟨f, rfl⟩
    | ok n =>
      rcases ih (s.log (.leaked entry.2 entry.1 n)) with broken | ⟨u, run, alike⟩
      · exact Or.inl broken
      · exact Or.inr ⟨u, run, fun t same => alike t (same.leaked entry.2 entry.1 n)⟩

/-- Shutting down, once debug output is flushed, breaks off, or it warns of leaks and says how many boxes
are alive. -/
theorem shutdown_cases (s : Session) : ∃ s₁, (settle flushDebug id fun _ => ()).run s = .ok ((), s₁) ∧
    ((∃ f, shutdown.run s = .error f) ∨
      ∃ u : Session, (∀ t, s₁.Alike t → u.Alike t) ∧
        shutdown.run s = .ok (s.heap.statistics.live, u.log (.stopping s.heap.statistics.live))) := by
  have flush : Quiet NoFault (settle flushDebug id fun _ => ()) s := quiet_settle (quiet_flush s)
  obtain ⟨_, s₁, flushed, same⟩ := flush.finishes
  refine ⟨s₁, flushed, ?_⟩
  unfold shutdown
  simp only [StateT.run_bind, flushed, ok_bind, StateT.run_get, pure_bind, same]
  split
  · rw [StateT.run_bind]
    rcases warnOfLeaks_cases s.heap s.heap.liveObjects s₁ with ⟨f, broken⟩ | ⟨u, run, alike⟩
    · rw [warnOfLeaks] at broken
      rw [broken]
      exact Or.inl ⟨f, rfl⟩
    · rw [warnOfLeaks] at run
      rw [run]
      exact Or.inr ⟨u, alike, rfl⟩
  · exact Or.inr ⟨s₁, fun _ alike => alike, rfl⟩

theorem shutdown_lockstep {s t : Session} (alike : s.Alike t)
    (live : s.heap.statistics.live = t.heap.statistics.live) : Lockstep (shutdown.run s) (shutdown.run t) := by
  have flushed := (InStep.flush.settle : InStep (settle flushDebug id fun _ => ())) s t alike
  obtain ⟨s₁, flushS, ⟨f, broken⟩ | ⟨u, alikeS, runS⟩⟩ := shutdown_cases s
  · rw [broken]
    exact .left f _
  · obtain ⟨t₁, flushT, ⟨f, broken⟩ | ⟨v, alikeT, runT⟩⟩ := shutdown_cases t
    · rw [broken]
      exact .right _ f
    · rw [flushS, flushT] at flushed
      cases flushed with
      | both _ after =>
        rw [runS, runT, live]
        exact .both _ ((alikeT u (alikeS t₁ after).symm).symm.log _)

/-! Calls and entries. -/

/-- The operation shows what the registry holds, or whether there is one. -/
def Operation.Aware : Operation → Prop
  | call (.isLive _) | call .liveObjects | call .isTracking => True
  | _ => False

/-- A call that does not look at the registry goes alike with tracking and without. -/
theorem Call.perform_lockstep {c : Call} {s t : Session} (steady : (Operation.call c).Steady) (alike : s.Alike t)
    (aware : (Operation.call c).Aware → s.heap.tracking = t.heap.tracking)
    (live : s.heap.statistics.live = t.heap.statistics.live) :
    Lockstep (c.perform.run.run s) (c.perform.run.run t) := by
  cases asked : c.request? with
  | some q =>
    rw [Call.run_request asked, Call.run_request asked]
    exact alike.conclude (q.run_matches alike.heap)
  | none =>
    cases c with
    | boolValue r => exact (InStep.askHeap fun _ _ alike => alike.boolValue r).map _ s t alike
    | intValue r => exact (InStep.askHeap fun _ _ alike => alike.intValue r).map _ s t alike
    | view r => exact (InStep.askHeap fun _ _ alike => alike.view r).map _ s t alike
    | listGet list index => exact (InStep.askHeap fun _ _ alike => alike.itemAt list _ index _).map _ s t alike
    | tupleGet tuple index => exact (InStep.askHeap fun _ _ alike => alike.itemAt tuple _ index _).map _ s t alike
    | recordGet r field => exact (InStep.askHeap fun _ _ alike => alike.recordGet r field).map _ s t alike
    | equals a b => exact (InStep.askHeap fun _ _ alike => alike.equals a b).map _ s t alike
    | contains items item => exact (InStep.askHeap fun _ _ alike => alike.contains items item).map _ s t alike
    | reaches source target => exact (InStep.askHeap fun _ _ alike => alike.reaches source target).map _ s t alike
    | render r => exact (InStep.askHeap fun _ _ alike => alike.render r).map _ s t alike
    | renderTop r => exact (InStep.askHeap fun _ _ alike => alike.renderTop r).map _ s t alike
    | debugObject r => exact (InStep.debugObject r).map _ s t alike
    | write bytes => exact (InStep.writeDebug bytes).map _ s t alike
    | flush => exact InStep.flush.map _ s t alike
    | isLive r =>
      have same : s.heap.isLive r = t.heap.isLive r := by
        rw [Heap.isLive, Heap.isLive, alike.heap.registry (aware trivial)]
      exact .of_eq (congrArg (fun b => Except.ok (Reply.bool b)) same) alike
    | liveObjects =>
      have same : s.heap.liveObjects = t.heap.liveObjects :=
        congrArg Std.TreeMap.toList (alike.heap.registry (aware trivial))
      exact .of_eq (congrArg (fun found => Except.ok (Reply.objects found)) same) alike
    | isTracking => exact .of_eq (congrArg (fun on => Except.ok (Reply.bool on)) (aware trivial)) alike
    | setTracking on => exact absurd rfl (steady on)
    | lastError => exact .of_eq (congrArg (fun e => Except.ok (Reply.lastError e)) alike.lastError) alike
    | takeLastError => exact .of_eq (congrArg (fun e => Except.ok (Reply.lastError e)) alike.lastError) alike.clear
    | record e => exact .both _ (alike.record e)
    | shutdown =>
      have ended := shutdown_lockstep alike live
      have lifted : Lockstep ((liftM CountedBox.shutdown : Attempt Nat).run.run s)
          ((liftM CountedBox.shutdown : Attempt Nat).run.run t) := ended.bind fun n => InStep.pure (Except.ok n)
      exact lifted.bind fun outcome => by
        cases outcome with
        | error e => exact InStep.pure _
        | ok n => exact InStep.pure _
    | _ => cases asked

/-- So does each entry, if there are as many live boxes. -/
theorem Entry.perform_lockstep {e : Entry} {s t : Session} (alike : s.Alike t)
    (live : s.heap.statistics.live = t.heap.statistics.live) : Lockstep (e.perform.run s) (e.perform.run t) := by
  have boxed : ∀ v : Value, InStep (onHeap (CountedBox.box v)).run :=
    fun v => .onHeap fun _ _ alike => box_matches alike v
  cases e with
  | boxNull => exact (boxed _).settle s t alike
  | boxBool value => exact (boxed _).settle s t alike
  | boxByte value => exact (boxed _).settle s t alike
  | boxChar code => exact (InStep.onHeap fun _ _ alike => boxChar_matches alike code).settle s t alike
  | boxInt value => exact (boxed _).settle s t alike
  | boxStr text => exact ((InStep.pure _).attempt_bind fun bytes => boxed _).settle s t alike
  | objStr r => exact (InStep.onHeap fun _ _ alike => boxRendering_matches alike r).settle s t alike
  | boolValue r => exact ((InStep.askHeap fun _ _ alike => alike.boolValue r).map _).settle s t alike
  | intValue r => exact (InStep.askHeap fun _ _ alike => alike.intValue r).settle s t alike
  | strValue r => exact (InStep.askHeap fun _ _ alike => alike.textValue r).settle s t alike
  | listNew capacity => exact (boxed _).settle s t alike
  | listAdd list item => exact (InStep.onHeap fun _ _ alike => listAdd_matches alike list item).settle s t alike
  | listSize list => exact ((InStep.askHeap fun _ _ alike => alike.listSize list).map _).settle s t alike
  | listGet list i => exact (InStep.askHeap fun _ _ alike => alike.itemAt list _ _ _).settle s t alike
  | setNew => exact (boxed _).settle s t alike
  | setAdd set item => exact (InStep.onHeap fun _ _ alike => setAdd_matches alike set item).settle s t alike
  | setSize set => exact ((InStep.askHeap fun _ _ alike => alike.setSize set).map _).settle s t alike
  | tupleNew arity => exact (InStep.onHeap fun _ _ alike => newTuple_matches alike _).settle s t alike
  | tupleSet tuple i item =>
    exact (InStep.onHeap fun _ _ alike => tupleSet_matches alike tuple _ item).settle s t alike
  | tupleGet tuple i => exact (InStep.askHeap fun _ _ alike => alike.itemAt tuple _ _ _).settle s t alike
  | recordNew => exact (boxed _).settle s t alike
  | recordPut record field item =>
    exact ((InStep.pure _).attempt_bind fun name =>
      InStep.onHeap fun _ _ alike => recordPut_matches alike record name item).settle s t alike
  | recordGet record field =>
    exact ((InStep.pure _).attempt_bind fun name =>
      InStep.askHeap fun _ _ alike => alike.recordGet record name).settle s t alike
  | equals a b => exact ((InStep.askHeap fun _ _ alike => alike.equals a b).map _).settle s t alike
  | incrBox r =>
    exact ((InStep.onHeap fun _ _ alike => retain_matches alike r).attempt_bind fun _ =>
      InStep.pure _).settle s t alike
  | derefBox r f =>
    exact ((InStep.onHeap fun _ _ alike => release_matches alike r _).attempt_bind fun _ =>
      InStep.pure _).settle s t alike
  | debugStr text =>
    exact ((InStep.pure _).attempt_bind fun bytes => (InStep.log _).lift.attempt_bind fun _ =>
      InStep.writeDebug _).settle s t alike
  | debugObj r => exact ((InStep.log _).lift.attempt_bind fun _ => InStep.debugObject r).settle s t alike
  | clearError => exact .both _ alike.clear
  | shutdown => exact (shutdown_lockstep alike live).bind fun _ => InStep.pure _

/-- An operation does the same to alike sessions, if it does not show the registry and the sessions say
alike how many boxes there are. -/
theorem Operation.perform_lockstep {op : Operation} {s t : Session} (steady : op.Steady) (alike : s.Alike t)
    (aware : op.Aware → s.heap.tracking = t.heap.tracking)
    (live : s.heap.statistics.live = t.heap.statistics.live) :
    Lockstep (op.perform.run s) (op.perform.run t) := by
  cases op with
  | call c => exact Call.perform_lockstep steady alike aware live
  | entry e => exact (Entry.perform_lockstep alike live).bind fun _ => InStep.pure _

end CountedBox
