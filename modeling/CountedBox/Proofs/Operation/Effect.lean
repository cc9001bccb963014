import CountedBox.Proofs.Heap.Answers
import CountedBox.Proofs.Request

namespace CountedBox

/-- What a call asks of the heap that may change it. -/
def Call.request? : Call → Option Request
  | box v => some (.box v)
  | boxChar code => some (.boxChar code)
  | boxText s => some (.box (.string (Text.untilZero (Text.utf8 s))))
  | boxRendering r => some (.boxRendering r)
  | newList _ => some (.box (.list []))
  | listAdd list item => some (.insert (.listAdd list item))
  | newSet => some (.box (.set []))
  | setAdd set item => some (.insert (.setAdd set item))
  | newTuple arity => some (.newTuple arity)
  | tupleOf items => some (.box (.tuple items))
  | tupleSet tuple index item => some (.insert (.tupleSet tuple index item))
  | newRecord => some (.box (.record ∅))
  | recordPut r field item => some (.insert (.recordPut r field item))
  | retain r => some (.retain r)
  | release r deep => some (.release r deep)
  | _ => none

/-- The references a call only looks at. -/
def Call.inspected : Call → List Ref
  | boolValue r | intValue r | view r | render r | renderTop r | debugObject r => [r]
  | listGet r _ | tupleGet r _ | recordGet r _ | reaches r _ => [r]
  | equals a b => [a, b]
  | contains items item => item :: items
  | _ => []

/-- What an entry asks of the heap that may change it. -/
def Entry.request? : Entry → Option Request
  | boxNull => some (.box .null)
  | boxBool value => some (.box (.bool (value != 0)))
  | boxByte value => some (.box (.byte value))
  | boxChar code => some (.boxChar code)
  | boxInt value => some (.box (.int value))
  | boxStr text => text.map fun bytes =>
      .box (.string (Text.untilZero (Text.utf8 (Text.lossy (Text.untilZero bytes)))))
  | objStr r => some (.boxRendering r)
  | listNew _ => some (.box (.list []))
  | listAdd list item => some (.insert (.listAdd list item))
  | setNew => some (.box (.set []))
  | setAdd set item => some (.insert (.setAdd set item))
  | tupleNew arity => some (.newTuple arity.toNat)
  | tupleSet tuple i item => some (.insert (.tupleSet tuple (index i) item))
  | recordNew => some (.box (.record ∅))
  | recordPut record field item => field.map fun bytes =>
      .insert (.recordPut record (Text.lossy (Text.untilZero bytes)) item)
  | incrBox r => some (.retain r)
  | derefBox r f => some (.release r (f != 0))
  | _ => none

/-- The references an entry only looks at. -/
def Entry.inspected : Entry → List Ref
  | boolValue r | intValue r | strValue r | listSize r | setSize r | debugObj r => [r]
  | listGet r _ | tupleGet r _ | recordGet r _ => [r]
  | equals a b => [a, b]
  | _ => []

/-- Anything a program can ask for: a call of the library or an entry of compiled programs. -/
inductive Operation where
  | call (c : Call)
  | entry (e : Entry)

namespace Operation

def perform : Operation → Step (Except Error Reply)
  | call c => c.perform.run
  | entry e => .ok <$> e.perform

def request? : Operation → Option Request
  | call c => c.request?
  | entry e => e.request?

def inspected : Operation → List Ref
  | call c => c.inspected
  | entry e => e.inspected

/-- The operation leaves tracking as it is. -/
def Steady (op : Operation) : Prop := ∀ on, op ≠ call (.setTracking on)

end Operation

@[simp] theorem Session.log_heap (s : Session) (e : Log.Event) : (s.log e).heap = s.heap := by
  unfold Session.log
  split
  · split <;> rfl
  · rfl

@[simp] theorem Session.record_heap (s : Session) (e : Error) : (s.record e).heap = s.heap :=
  s.log_heap _

@[simp] theorem Session.observe_heap (s : Session) (n : Note) : (s.observe n).heap = s.heap := by
  cases n <;> simp [Session.observe]

@[simp] theorem Session.adopt_heap (s : Session) (h : Heap) :
    (s.adopt h).heap = { h with journal := [] } := by
  have kept : ∀ (notes : List Note) (t : Session), (notes.foldl Session.observe t).heap = t.heap := by
    intro notes
    induction notes with
    | nil => exact fun _ => rfl
    | cons n notes ih => exact fun t => (ih _).trans (t.observe_heap n)
  exact kept _ _

/-! Steps that leave the heap alone. -/

section Quiet

variable {α β : Type} {expected : Fault → Prop}

/-- The step finishes from here and the heap stays the same, unless it runs into an expected fault. -/
def Quiet (expected : Fault → Prop) (m : Step α) (s : Session) : Prop :=
  (∃ fault, m.run s = .error fault ∧ expected fault) ∨ ∃ x s', m.run s = .ok (x, s') ∧ s'.heap = s.heap

/-- Where no fault is expected a quiet step finishes, and the heap is what it was. -/
theorem Quiet.finishes {m : Step α} {s : Session} (quiet : Quiet NoFault m s) :
    ∃ x s', m.run s = .ok (x, s') ∧ s'.heap = s.heap :=
  quiet.resolve_left fun ⟨_, _, never⟩ => never

theorem quiet_pure (x : α) (s : Session) : Quiet expected (pure x) s := Or.inr ⟨x, s, rfl, rfl⟩

/-- Quiet steps one after the other are a quiet step. -/
theorem quiet_bind {m : Step α} {f : α → Step β} {s : Session} (first : Quiet expected m s)
    (second : ∀ x s', s'.heap = s.heap → Quiet expected (f x) s') : Quiet expected (m >>= f) s := by
  rcases first with ⟨fault, stopped, known⟩ | ⟨x, s', run, same⟩
  · exact Or.inl ⟨fault, by rw [StateT.run_bind, stopped]; rfl, known⟩
  · rcases second x s' same with ⟨fault, stopped, known⟩ | ⟨y, s'', run', same'⟩
    · exact Or.inl ⟨fault, by rw [StateT.run_bind, run]; exact stopped, known⟩
    · exact Or.inr ⟨y, s'', by rw [StateT.run_bind, run]; exact run', same'.trans same⟩

theorem quiet_attempt_bind {m : Attempt α} {f : α → Attempt β} {s : Session} (first : Quiet expected m.run s)
    (second : ∀ x s', s'.heap = s.heap → Quiet expected (f x).run s') : Quiet expected (m >>= f).run s := by
  refine quiet_bind first fun outcome s' same => ?_
  cases outcome with
  | error e => exact quiet_pure _ s'
  | ok x => exact second x s' same

theorem quiet_map {m : Attempt α} {g : α → β} {s : Session} (quiet : Quiet expected m.run s) :
    Quiet expected (g <$> m).run s := by
  rw [ExceptT.run_map]
  exact quiet_bind quiet fun x s' _ => quiet_pure _ s'

theorem quiet_lift {m : Step α} {s : Session} (quiet : Quiet expected m s) :
    Quiet expected (liftM m : Attempt α).run s :=
  quiet_bind quiet fun x t _ => quiet_pure (Except.ok x) t

theorem quiet_record (e : Error) (s : Session) : Quiet expected (record e) s :=
  Or.inr ⟨(), s.record e, rfl, s.record_heap e⟩

theorem quiet_log (e : Log.Event) (s : Session) : Quiet expected (log e) s :=
  Or.inr ⟨(), s.log e, rfl, s.log_heap e⟩

/-- A question that the heap answers is quiet. -/
theorem quiet_ask {f : Heap → Except Stop α} {s : Session} (answers : Answers expected (f s.heap)) :
    Quiet expected (askHeap f).run s := by
  unfold Quiet
  simp only [askHeap, ExceptT.run, ExceptT.mk, StateT.run]
  cases given : f s.heap with
  | ok x => exact Or.inr ⟨.ok x, s, rfl, rfl⟩
  | error stop =>
    cases stop with
    | error e => exact Or.inr ⟨.error e, s, rfl, rfl⟩
    | fault fault => exact Or.inl ⟨fault, rfl, answers fault given⟩

theorem quiet_writeDebug (bytes : List UInt8) (s : Session) : Quiet expected (writeDebug bytes).run s := by
  unfold Quiet
  simp only [writeDebug, ExceptT.run, ExceptT.mk, StateT.run]
  cases s.debug.write bytes with
  | ok d => exact Or.inr ⟨.ok (), { s with debug := d }, rfl, rfl⟩
  | error e => exact Or.inr ⟨.error e, s, rfl, rfl⟩

theorem quiet_flush (s : Session) : Quiet expected flushDebug.run s := Or.inr ⟨s.debug.flush, s, rfl, rfl⟩

theorem quiet_settle {attempt : Attempt α} {ok : α → β} {failed : Error → β} {s : Session}
    (quiet : Quiet expected attempt.run s) : Quiet expected (settle attempt ok failed) s := by
  refine quiet_bind quiet fun outcome s' same => ?_
  cases outcome with
  | ok x => exact quiet_pure _ s'
  | error e => exact quiet_bind (quiet_record e s') fun _ t _ => quiet_pure _ t

/-- Debug output of a safe reference changes no box, whatever becomes of the text. -/
theorem quiet_debugObject {r : Ref} {s : Session} (guarded : s.heap.Guarded expected)
    (safe : s.heap.Safe expected r) : Quiet expected (debugObject r).run s :=
  quiet_attempt_bind (quiet_ask (guarded.renderTop_answers safe)) fun _ s' _ => quiet_writeDebug _ s'

theorem liveCount_found {h : Heap} {a : Address} {b : Box} (found : h.boxes[a]? = some b) :
    liveCount h a = .ok b.count := by
  rw [liveCount, found]

/-- Telling of the boxes that are left reads their counts and changes nothing. -/
theorem quiet_leaks {h : Heap} {live : List (Address × Kind)}
    (there : ∀ entry ∈ live, ∃ b, h.boxes[entry.1]? = some b) (s : Session) :
    Quiet expected (forIn live PUnit.unit fun entry _ => do
      log (.leaked entry.2 entry.1 (← liveCount h entry.1))
      return ForInStep.yield PUnit.unit) s := by
  induction live generalizing s with
  | nil => exact quiet_pure _ s
  | cons entry live ih =>
    obtain ⟨b, found⟩ := there entry List.mem_cons_self
    have rest := ih (fun e member => there e (List.mem_cons_of_mem _ member))
      (s.log (.leaked entry.2 entry.1 b.count))
    rw [Quiet, s.log_heap] at rest
    rw [List.forIn_cons, liveCount_found found]
    exact rest

/-- Shutting down finishes and returns the number of live boxes. All it takes is that the registered
boxes are there. -/
theorem shutdown_run {s : Session}
    (registered : ∀ {a : Address} {kind : Kind}, s.heap.registry[a]? = some kind →
      ∃ b, s.heap.boxes[a]? = some b ∧ b.tag = kind.tag) :
    ∃ s', shutdown.run s = .ok (s.heap.statistics.live, s') ∧ s'.heap = s.heap := by
  have flush : Quiet NoFault (settle flushDebug id fun _ => ()) s := quiet_settle (quiet_flush s)
  obtain ⟨_, t, flushed, same⟩ := flush.finishes
  unfold shutdown
  simp only [StateT.run_bind, flushed, ok_bind, StateT.run_get, pure_bind]
  have leave : ∀ u : Session, u.heap = s.heap → ∃ s', StateT.run (do
      log (.stopping t.heap.statistics.live)
      return t.heap.statistics.live) u = .ok (s.heap.statistics.live, s') ∧ s'.heap = s.heap :=
    fun u kept => ⟨u.log (.stopping t.heap.statistics.live), by rw [same]; rfl, (u.log_heap _).trans kept⟩
  split
  · have there : ∀ entry ∈ t.heap.liveObjects, ∃ b, t.heap.boxes[entry.1]? = some b := by
      intro entry member
      have known := Std.TreeMap.mem_toList_iff_getElem?_eq_some.mp member
      rw [same] at known ⊢
      obtain ⟨b, found, _⟩ := registered known
      exact ⟨b, found⟩
    obtain ⟨_, u, reported, kept⟩ := (quiet_leaks there t).finishes
    rw [StateT.run_bind, reported]
    exact leave u (kept.trans same)
  · exact leave t same

/-- A call that asks nothing of the heap but to be read leaves it alone. -/
theorem Call.perform_quiet {c : Call} {s : Session} (steady : ∀ on, c ≠ .setTracking on)
    (plain : c.request? = none) (guarded : s.heap.Guarded expected)
    (safe : ∀ r ∈ c.inspected, s.heap.Safe expected r) : Quiet expected c.perform.run s := by
  cases c with
  | boolValue r => exact quiet_map (quiet_ask (guarded.boolValue_answers (safe r (.head _))))
  | intValue r => exact quiet_map (quiet_ask (guarded.intValue_answers (safe r (.head _))))
  | view r => exact quiet_map (quiet_ask (guarded.view_answers (safe r (.head _))))
  | listGet list index =>
    exact quiet_map (quiet_ask (guarded.itemAt_answers (safe list (.head _)) (Or.inl rfl) index _))
  | tupleGet tuple index =>
    exact quiet_map (quiet_ask
      (guarded.itemAt_answers (safe tuple (.head _)) (Or.inr (Or.inr rfl)) index _))
  | recordGet r field => exact quiet_map (quiet_ask (guarded.recordGet_answers (safe r (.head _)) field))
  | equals a b =>
    exact quiet_map (quiet_ask (guarded.equals_answers (safe a (.head _)) (safe b (.tail _ (.head _)))))
  | contains items item =>
    exact quiet_map (quiet_ask (guarded.contains_answers
      (fun x member => safe x (.tail _ member)) (safe item (.head _))))
  | reaches source target =>
    exact quiet_map (quiet_ask (guarded.reaches_answers (safe source (.head _)) target))
  | render r => exact quiet_map (quiet_ask (guarded.render_answers (safe r (.head _))))
  | renderTop r => exact quiet_map (quiet_ask (guarded.renderTop_answers (safe r (.head _))))
  | debugObject r => exact quiet_map (quiet_debugObject guarded (safe r (.head _)))
  | write bytes => exact quiet_map (quiet_writeDebug bytes s)
  | flush => exact quiet_map (quiet_flush s)
  | isLive r => exact Or.inr ⟨_, s, rfl, rfl⟩
  | liveObjects => exact Or.inr ⟨_, s, rfl, rfl⟩
  | isTracking => exact Or.inr ⟨_, s, rfl, rfl⟩
  | setTracking on => exact absurd rfl (steady on)
  | lastError => exact Or.inr ⟨_, s, rfl, rfl⟩
  | takeLastError => exact Or.inr ⟨_, { s with lastError := none }, rfl, rfl⟩
  | record e => exact Or.inr ⟨_, s.record e, rfl, s.record_heap e⟩
  | shutdown =>
    obtain ⟨s', done, same⟩ := shutdown_run guarded.registered
    exact quiet_attempt_bind (quiet_lift (Or.inr ⟨_, s', done, same⟩)) fun _ t _ => quiet_pure _ t
  | _ => cases plain

/-- So does an entry. -/
theorem Entry.perform_quiet {e : Entry} {s : Session} (plain : e.request? = none)
    (guarded : s.heap.Guarded expected) (safe : ∀ r ∈ e.inspected, s.heap.Safe expected r) :
    Quiet expected e.perform s := by
  cases e with
  | boxStr text =>
    cases Option.map_eq_none_iff.mp plain
    exact quiet_settle (quiet_pure _ s)
  | boolValue r =>
    exact quiet_settle (quiet_map (quiet_ask (guarded.boolValue_answers (safe r (.head _)))))
  | intValue r => exact quiet_settle (quiet_ask (guarded.intValue_answers (safe r (.head _))))
  | strValue r => exact quiet_settle (quiet_ask (guarded.textValue_answers (safe r (.head _))))
  | listSize list =>
    exact quiet_settle (quiet_map (quiet_ask (guarded.listSize_answers (safe list (.head _)))))
  | listGet list i =>
    exact quiet_settle (quiet_ask (guarded.itemAt_answers (safe list (.head _)) (Or.inl rfl) _ _))
  | setSize set =>
    exact quiet_settle (quiet_map (quiet_ask (guarded.setSize_answers (safe set (.head _)))))
  | tupleGet tuple i =>
    exact quiet_settle (quiet_ask
      (guarded.itemAt_answers (safe tuple (.head _)) (Or.inr (Or.inr rfl)) _ _))
  | recordPut record field item =>
    cases Option.map_eq_none_iff.mp plain
    exact quiet_settle (quiet_pure _ s)
  | recordGet record field =>
    cases field with
    | none => exact quiet_settle (quiet_pure _ s)
    | some bytes =>
      have asked : Quiet expected (askHeap fun h => h.recordGet record (Text.lossy (Text.untilZero bytes))).run s :=
        quiet_ask (guarded.recordGet_answers (safe record (.head _)) _)
      exact quiet_settle asked
  | equals a b =>
    exact quiet_settle (quiet_map (quiet_ask
      (guarded.equals_answers (safe a (.head _)) (safe b (.tail _ (.head _))))))
  | debugStr text =>
    cases text with
    | none => exact quiet_settle (quiet_pure _ s)
    | some bytes =>
      refine quiet_settle (quiet_attempt_bind (quiet_pure _ s) fun bytes t _ => ?_)
      exact quiet_attempt_bind (quiet_lift (quiet_log _ t)) fun _ u _ => quiet_writeDebug _ u
  | debugObj r =>
    refine quiet_settle (quiet_attempt_bind (quiet_lift (quiet_log _ s)) fun _ t same => ?_)
    exact quiet_debugObject (same ▸ guarded) (same ▸ safe r (.head _))
  | clearError => exact Or.inr ⟨_, { s with lastError := none }, rfl, rfl⟩
  | shutdown =>
    obtain ⟨s', done, same⟩ := shutdown_run guarded.registered
    exact quiet_bind (Or.inr ⟨_, s', done, same⟩) fun _ t _ => quiet_pure _ t
  | _ => cases plain

end Quiet

/-! Steps whose effect on the heap is that of an action. -/

section Follows

variable {α β : Type}

/-- The step breaks off where the action does, and otherwise leaves the heap as the action does,
with its journal acted on. -/
def Follows (m : Step α) (a : Action Reply) : Prop := ∀ s : Session,
  (∃ f h, a.run s.heap = (.error (.fault f), h) ∧ m.run s = .error f) ∨
    ∃ outcome h x s', a.run s.heap = (outcome, h) ∧ Answers NoFault outcome ∧ m.run s = .ok (x, s') ∧
      s'.heap = { h with journal := [] }

/-- How a session goes on from what an action on its heap has come to. -/
def Session.conclude (s : Session) : Except Stop α × Heap → Except Fault (Except Error α × Session)
  | (.ok x, h) => .ok (.ok x, s.adopt h)
  | (.error (.error e), h) => .ok (.error e, s.adopt h)
  | (.error (.fault f), _) => .error f

/-- An error is what an action ends with, and the heap is adopted as the action left it. -/
theorem Session.conclude_eq_error {s s' : Session} {p : Except Stop α × Heap} {e : Error} :
    s.conclude p = .ok (.error e, s') ↔ p.1 = refuse e ∧ s' = s.adopt p.2 := by
  rcases p with ⟨(e' | f) | x, h⟩
  · constructor
    · intro same
      cases same
      exact ⟨rfl, rfl⟩
    · rintro ⟨same, rfl⟩
      cases same
      rfl
  · constructor
    · intro same
      cases same
    · rintro ⟨same, _⟩
      cases same
  · constructor
    · intro same
      cases same
    · rintro ⟨same, _⟩
      cases same

/-- An action on the heap of a session is the action on its heap, and then the session adopts the outcome. -/
theorem run_onHeap (a : Action α) (s : Session) : (onHeap a).run.run s = s.conclude (a.run s.heap) := by
  change onHeap a s = s.conclude (a s.heap)
  simp only [onHeap, ExceptT.mk, ExceptT.run]
  rcases a s.heap with ⟨(e | f) | x, h⟩ <;> rfl

theorem run_map_onHeap (a : Action α) (g : α → β) (s : Session) :
    (g <$> onHeap a).run.run s = s.conclude ((g <$> a).run s.heap) := by
  rw [ExceptT.run_map, StateT.run_map, run_onHeap, Action.run_map]
  rcases a.run s.heap with ⟨(e | f) | x, h⟩ <;> rfl

theorem run_settle_onHeap (a : Action α) (ok : α → β) (failed : Error → β) (s : Session) :
    (settle (onHeap a) ok failed).run s = match a.run s.heap with
      | (.ok x, h) => .ok (ok x, s.adopt h)
      | (.error (.error e), h) => .ok (failed e, (s.adopt h).record e)
      | (.error (.fault f), _) => .error f := by
  rw [settle, StateT.run_bind, run_onHeap]
  rcases a.run s.heap with ⟨(e | f) | x, h⟩ <;> rfl

theorem follows_of_conclude {m : Attempt α} {a : Action α} (g : α → Reply)
    (run : ∀ s, m.run.run s = s.conclude (a.run s.heap)) : Follows m.run (g <$> a) := by
  intro s
  rw [Action.run_map, run s]
  rcases a.run s.heap with ⟨(e | f) | x, h⟩
  · exact Or.inr ⟨_, h, .error e, s.adopt h, rfl, answers_refuse e, rfl, s.adopt_heap h⟩
  · exact Or.inl ⟨f, h, rfl, rfl⟩
  · exact Or.inr ⟨_, h, .ok x, s.adopt h, rfl, answers_ok (g x), rfl, s.adopt_heap h⟩

theorem follows_onHeap (a : Action α) (g : α → Reply) : Follows (onHeap a).run (g <$> a) :=
  follows_of_conclude g (run_onHeap a)

/-- What comes after an action may say what it wants to the thread, as long as the heap is left alone. -/
theorem follows_bind {m : Step α} {f : α → Step β} {a : Action Reply} (follows : Follows m a)
    (quiet : ∀ x s, Quiet NoFault (f x) s) : Follows (m >>= f) a := by
  intro s
  rcases follows s with ⟨fault, h, run, stopped⟩ | ⟨outcome, h, x, s', run, answers, done, heap⟩
  · exact Or.inl ⟨fault, h, run, by rw [StateT.run_bind, stopped]; rfl⟩
  · obtain ⟨y, s'', done', same⟩ := (quiet x s').finishes
    exact Or.inr ⟨outcome, h, y, s'', run, answers, by rw [StateT.run_bind, done]; exact done',
      same.trans heap⟩

theorem follows_map {m : Attempt α} {a : Action Reply} {g : α → β} (follows : Follows m.run a) :
    Follows (g <$> m).run a := by
  rw [ExceptT.run_map]
  exact follows_bind follows fun x s => quiet_pure _ s

theorem follows_settle {attempt : Attempt α} {ok : α → β} {failed : Error → β} {a : Action Reply}
    (follows : Follows attempt.run a) : Follows (settle attempt ok failed) a := by
  refine follows_bind follows fun outcome s => ?_
  cases outcome with
  | ok x => exact quiet_pure _ s
  | error e => exact quiet_bind (quiet_record e s) fun _ t _ => quiet_pure _ t

end Follows

/-- A changing call answers what its request does, and leaves the heap as the request does. -/
theorem Call.run_request {c : Call} {q : Request} (asked : c.request? = some q) (s : Session) :
    c.perform.run.run s = s.conclude (q.run.run s.heap) := by
  cases c <;> simp only [Call.request?, Option.some.injEq, reduceCtorEq] at asked
  all_goals
    cases asked
    exact run_map_onHeap _ _ s

/-- A call that makes a request does to the heap what the request does. -/
theorem Call.perform_request {c : Call} {q : Request} (asked : c.request? = some q) :
    Follows c.perform.run q.run := by
  simpa using follows_of_conclude id (Call.run_request asked)

/-- So does an entry, before it settles what it returns. -/
theorem Entry.perform_request {e : Entry} {q : Request} (asked : e.request? = some q) :
    Follows e.perform q.run := by
  cases e <;> simp only [Entry.request?, Option.some.injEq, reduceCtorEq] at asked
  case boxStr text =>
    obtain ⟨bytes, rfl, rfl⟩ := Option.map_eq_some_iff.mp asked
    exact follows_settle (follows_onHeap _ _)
  case recordPut record field item =>
    obtain ⟨bytes, rfl, rfl⟩ := Option.map_eq_some_iff.mp asked
    exact follows_settle (follows_onHeap _ _)
  case incrBox r =>
    cases asked
    exact follows_settle (follows_map (follows_onHeap _ _))
  case derefBox r f =>
    cases asked
    exact follows_settle (follows_map (follows_onHeap _ _))
  all_goals
    cases asked
    exact follows_settle (follows_onHeap _ _)

namespace Operation

/-- An operation that asks nothing of the heap leaves it alone. -/
theorem perform_quiet {expected : Fault → Prop} {op : Operation} {s : Session} (steady : op.Steady)
    (plain : op.request? = none) (guarded : s.heap.Guarded expected)
    (safe : ∀ r ∈ op.inspected, s.heap.Safe expected r) : Quiet expected op.perform s := by
  cases op with
  | call c =>
    exact Call.perform_quiet (fun on same => steady on (congrArg Operation.call same)) plain guarded safe
  | entry e =>
    exact quiet_bind (Entry.perform_quiet plain guarded safe) fun x t _ => quiet_pure _ t

/-- A changing operation does to the heap what its request does. -/
theorem perform_request {op : Operation} {q : Request} (asked : op.request? = some q) :
    Follows op.perform q.run := by
  cases op with
  | call c => exact Call.perform_request asked
  | entry e => exact follows_bind (Entry.perform_request asked) fun x s => quiet_pure _ s

/-- An operation that finishes leaves the heap its request leaves, with all that happened observed. -/
theorem perform_heap {op : Operation} {q : Request} {s s' : Session} {x : Except Error Reply}
    {outcome : Except Stop Reply} {h : Heap} (asked : op.request? = some q)
    (ran : q.run.run s.heap = (outcome, h)) (done : op.perform.run s = .ok (x, s')) :
    s'.heap = { h with journal := [] } := by
  rcases perform_request asked s with ⟨f, _, _, stopped⟩ | ⟨_, _, _, _, same, _, finished, heap⟩
  · cases stopped.symm.trans done
  · cases finished.symm.trans done
    cases same.symm.trans ran
    exact heap

end Operation

end CountedBox
