import CountedBox.Proofs.Slot.Counterpart
import CountedBox.Proofs.Slot.Plain

namespace CountedBox

namespace Heap

/-- No error that is noted passes on a zero. -/
def NotesPlain (h : Heap) : Prop := ∀ e ∈ h.noted, e.Plain

variable {h h' : Heap}

theorem notesPlain_of_journal (journal : h.journal = []) : h.NotesPlain := by
  rw [NotesPlain, noted, journal]
  exact List.forall_mem_nil _

/-- Also the elements that cannot be given back are noted without one. -/
theorem NotesPlain.releaseEach {pending : List Ref} (plain : h.NotesPlain) (done : h.releaseEach pending = .ok h') :
    h'.NotesPlain := by
  fun_induction h.releaseEach pending with
  | case1 =>
    cases done
    exact plain
  | case2 h r rest e refused ih =>
    exact ih (List.forall_mem_cons.mpr ⟨dropReference_plainly e refused, plain⟩) done
  | case3 => cases done
  | case4 h r rest next dropped ih =>
    have same := noted_dropReference dropped
    exact ih (by rwa [NotesPlain, same]) done
  | case5 h r rest next elements dropped ih =>
    have same := noted_dropReference dropped
    exact ih (by rwa [NotesPlain, same]) done

end Heap

/-- From whatever heap it starts, the action passes on no zero: not where it is refused, and not in what it
notes. -/
def Action.Plain {α : Type} (a : Action α) : Prop :=
  ∀ h : Heap, h.NotesPlain → Plainly (a.run h).1 ∧ (a.run h).2.NotesPlain

namespace Action

variable {α β : Type}

theorem plain_ask {f : Heap → Except Stop α} (plainly : ∀ h, Plainly (f h)) : (ask f).Plain :=
  fun h plain => ⟨plainly h, plain⟩

/-- What is done in sequence makes plain notes and ends plainly if each part does. -/
theorem plain_bind {x : Action α} {f : α → Action β} (first : Action.Plain x) (second : ∀ a, Action.Plain (f a)) :
    Action.Plain (x >>= f) := by
  intro h plain
  obtain ⟨refused, noted⟩ := first h plain
  rw [run_bind]
  rcases ran : x.run h with ⟨stop | a, h'⟩ <;> rw [ran] at refused noted
  · refine ⟨?_, noted⟩
    rintro e ⟨⟩
    exact refused e rfl
  · exact second a h' noted

theorem plain_pure (a : α) : Action.Plain (pure a) := fun _ plain => ⟨plainly_ok a, plain⟩

theorem plain_map {x : Action α} {g : α → β} (plain : Action.Plain x) : Action.Plain (g <$> x) := by
  intro h begun
  rw [run_map]
  exact ⟨plainly_map (plain h begun).1 g, (plain h begun).2⟩

theorem plain_mapM {f : α → Action β} (each : ∀ a, Action.Plain (f a)) (xs : List α) : Action.Plain (xs.mapM f) := by
  induction xs with
  | nil => exact plain_pure []
  | cons x xs ih =>
    rw [List.mapM_cons]
    exact plain_bind (each x) fun b => plain_bind ih fun bs => plain_pure _

theorem plain_refuse {e : Error} (plain : e.Plain) : Action.Plain (Action.refuse e : Action α) :=
  fun _ begun => ⟨plainly_refuse plain, begun⟩

theorem plain_store (b : Located) (payload : Payload) : Action.Plain (Action.store b payload) :=
  fun _ begun => ⟨plainly_ok (), begun⟩

theorem plain_box (v : Value) : Action.Plain (box v) := fun _ begun => ⟨plainly_ok _, begun⟩

theorem plain_retain (r : Ref) : Action.Plain (retain r) := by
  intro h begun
  rw [run_retain]
  split
  · rename_i stop refused
    refine ⟨?_, begun⟩
    rintro e ⟨⟩
    exact Heap.addReference_plainly e refused
  · rename_i added
    refine ⟨plainly_ok (), ?_⟩
    rwa [Heap.NotesPlain, Heap.noted_addReference added]

theorem plain_release (r : Ref) (deep : Bool) : Action.Plain (release r deep) := by
  intro h begun
  rw [run_release]
  split
  · rename_i stop refused
    refine ⟨?_, begun⟩
    rintro e ⟨⟩
    exact Heap.dropReference_plainly e refused
  · rename_i dropped
    refine ⟨plainly_ok _, ?_⟩
    rwa [Heap.NotesPlain, Heap.noted_dropReference dropped]
  · rename_i next elements dropped
    have plain : next.NotesPlain := by rwa [Heap.NotesPlain, Heap.noted_dropReference dropped]
    split
    · split
      · exact ⟨plainly_breakOff _, plain⟩
      · rename_i released
        exact ⟨plainly_ok _, plain.releaseEach released⟩
    · exact ⟨plainly_ok _, plain⟩

end Action

open CountedBox.Action in
/-- An insertion tells of no text but the name of its operation. -/
theorem Insertion.run_plain (i : Insertion) : Action.Plain i.run := by
  have checked : ∀ {α : Type} {container item : Ref} {operation : String} {f : Unit → Action α},
      '\x00' ∉ operation.toList → (∀ x, Action.Plain (f x)) →
      Action.Plain ((ask fun h => h.checkInsert container item operation) >>= f) := fun plain rest =>
    plain_bind (plain_ask fun h => Heap.checkInsert_plainly plain) rest
  cases i with
  | listAdd list item =>
    refine plain_map (x := CountedBox.listAdd list item) (checked (by decide +kernel) fun _ => ?_)
    exact plain_bind (plain_ask fun h => Heap.elements_plainly (by decide +kernel)) fun found => plain_store _ _
  | setAdd set item =>
    refine plain_map (x := CountedBox.setAdd set item) (checked (by decide +kernel) fun _ => ?_)
    refine plain_bind (plain_ask fun h => Heap.elements_plainly (by decide +kernel)) fun found => ?_
    refine plain_bind (plain_ask fun h => Heap.contains_plainly) fun present => ?_
    cases present with
    | false => exact plain_bind (plain_store _ _) fun _ => plain_pure true
    | true => exact plain_bind (plain_release item true) fun _ => plain_pure false
  | tupleSet tuple index item =>
    refine plain_map (x := CountedBox.tupleSet tuple index item) (checked (by decide +kernel) fun _ => ?_)
    refine plain_bind (plain_ask fun h => Heap.elements_plainly (by decide +kernel)) fun found => ?_
    dsimp only
    split
    · exact plain_refuse (Error.plain_of_none rfl)
    · exact plain_bind (plain_store _ _) fun _ => plain_bind (plain_release _ true) fun _ => plain_pure ()
  | recordPut record field item =>
    refine plain_map (x := CountedBox.recordPut record field item) (checked (by decide +kernel) fun _ => ?_)
    refine plain_bind (plain_ask fun h => Heap.fields_plainly (by decide +kernel)) fun found => ?_
    refine plain_bind (plain_store _ _) fun _ => ?_
    split
    · exact plain_pure ()
    · exact plain_bind (plain_release _ true) fun _ => plain_pure ()

open CountedBox.Action in
/-- No request passes on a zero. -/
theorem Request.run_plain (q : Request) : Action.Plain q.run := by
  cases q with
  | box v => exact plain_map (plain_box v)
  | boxChar code =>
    refine plain_map ?_
    unfold CountedBox.boxChar
    split
    · exact plain_box _
    · exact plain_refuse (Error.plain_of_none rfl)
  | boxRendering r => exact plain_map (plain_bind (plain_ask fun h => Heap.renderTop_plainly) fun s => plain_box _)
  | newTuple arity => exact plain_map (plain_bind (plain_mapM plain_box _) fun slots => plain_box _)
  | insert i => exact i.run_plain
  | retain r => exact plain_map (plain_retain r)
  | release r deep => exact plain_map (plain_release r deep)

/-- What the sink complains of holds no zero. -/
def Sink.Plain (k : Sink) : Prop :=
  (∀ reason, k.writeError = some reason → '\x00' ∉ reason.toList) ∧
    ∀ reason, k.flushError = some reason → '\x00' ∉ reason.toList

/-- Nothing is noted that was not acted on, and the sink complains without a zero. -/
structure Session.Tidy (s : Session) : Prop where
  journal : s.heap.journal = []
  sink : s.debug.sink.Plain

namespace Session

variable {s t : Session}

/-- Only the journal and the sink tell whether a session is tidy. -/
theorem Tidy.same (tidy : s.Tidy) (same : s.Same t) : t.Tidy :=
  ⟨by rw [same.heap, tidy.journal], by rw [same.sink]; exact tidy.sink⟩

theorem Tidy.record (tidy : s.Tidy) (e : Error) : (s.record e).Tidy :=
  have logged := tidy.same (s.log_same (.recorded e))
  ⟨logged.journal, logged.sink⟩

theorem Tidy.adopt (tidy : s.Tidy) (h : Heap) : (s.adopt h).Tidy := by
  rw [Session.adopt, List.foldl_reverse]
  induction h.journal with
  | nil => exact ⟨rfl, tidy.sink⟩
  | cons note rest ih =>
    rw [List.foldr_cons]
    cases note with
    | elementError e => exact ih.record e
    | boxed kind a => exact ih.same (log_same _ _)
    | freed kind a deep => exact ih.same (log_same _ _)

theorem writeDebug_plain {bytes : List UInt8} {e : Error} (tidy : s.Tidy)
    (refused : (writeDebug bytes).run.run s = .ok (.error e, t)) : e.Plain := by
  rw [run_writeDebug, Except.ok.injEq, Prod.mk.injEq] at refused
  obtain ⟨failed, _⟩ := refused
  split at failed <;> cases failed
  exact (Error.plain_iff rfl).mpr (tidy.sink.1 _ ‹_›)

end Session

theorem askHeap_plain {α : Type} {f : Heap → Except Stop α} {s t : Session} {e : Error} (plainly : Plainly (f s.heap))
    (refused : (askHeap f).run.run s = .ok (.error e, t)) : e.Plain := by
  rw [run_askHeap] at refused
  rcases answered : f s.heap with (e' | fault) | x <;> rw [answered] at refused <;> cases refused
  exact plainly _ answered

/-- What a mapped attempt is refused with is what the attempt itself is refused with. -/
theorem run_refused_of_map {α β : Type} {m : Attempt α} {g : α → β} {s t : Session} {e : Error}
    (refused : (g <$> m).run.run s = .ok (.error e, t)) : m.run.run s = .ok (.error e, t) := by
  rw [ExceptT.run_map, StateT.run_map] at refused
  obtain ⟨⟨e' | x, u⟩, ran, same⟩ := ok_of_bind_ok refused <;> cases same
  exact ran

namespace Entry

variable {e : Entry} {c : Call} {s s' : Session} {reply : Reply} {err : Error}

theorem missing_plain (missing : e.missing? = some err) : err.Plain := by
  unfold missing? at missing
  split at missing <;> cases missing <;> exact (Error.plain_iff rfl).mpr (by decide +kernel)

theorem question_plain {ask : Heap → Except Stop Reply} (asks : e.question? = some ask) (h : Heap) :
    Plainly (ask h) := by
  cases e <;> simp only [question?, Option.some.injEq, reduceCtorEq] at asks <;> cases asks
  case strValue r => exact plainly_map Heap.textValue_plainly _
  case listSize list =>
    exact plainly_map (plainly_bind (Heap.elements_plainly (by decide +kernel)) fun _ => plainly_ok _) _
  case setSize set =>
    exact plainly_map (plainly_bind (Heap.elements_plainly (by decide +kernel)) fun _ => plainly_ok _) _

/-- The name of a field is passed on as it was read, and so without a zero. -/
theorem fieldName_plain (bytes : List UInt8) : '\x00' ∉ (Text.lossy (Text.untilZero bytes)).toList := by
  rw [Text.lossy, String.toList_ofList]
  exact Text.zero_notMem_decodeLossy (Text.zero_notMem_untilZero bytes)

theorem counterpart_question_plain (counterpart : e.counterpart? = some c) {ask : Heap → Except Stop Reply}
    (asks : c.question? = some ask) (h : Heap) : Plainly (ask h) := by
  cases e <;> simp only [counterpart?, Option.some.injEq, Option.map_eq_some_iff, reduceCtorEq] at counterpart
  case recordGet =>
    obtain ⟨bytes, rfl, rfl⟩ := counterpart
    cases asks
    exact plainly_map (Heap.recordGet_plainly (fieldName_plain bytes)) _
  case boxStr | recordPut | debugStr =>
    obtain ⟨bytes, rfl, rfl⟩ := counterpart
    cases asks
  all_goals
    cases counterpart
    cases asks
  case boolValue => exact plainly_map Heap.boolValue_plainly _
  case intValue => exact plainly_map Heap.intValue_plainly _
  case equals => exact plainly_map Heap.equals_plainly _
  case listGet | tupleGet => exact plainly_map (Heap.itemAt_plainly (by decide +kernel) _) _

/-- The call behind an entry fails with a plain error. -/
theorem counterpart_plain (counterpart : e.counterpart? = some c) (tidy : s.Tidy)
    (refused : c.perform.run.run s = .ok (.error err, s')) : err.Plain := by
  rcases counterpart_cases counterpart with ⟨q, asked⟩ | ⟨ask, asks⟩ | ⟨bytes, rfl⟩ | ⟨r, rfl⟩
  · rw [Call.run_request asked, Session.conclude_eq_error] at refused
    exact (q.run_plain _ (Heap.notesPlain_of_journal tidy.journal)).1 err refused.1
  · rw [Call.run_question asks] at refused
    exact askHeap_plain (counterpart_question_plain counterpart asks s.heap) refused
  · exact Session.writeDebug_plain tidy (run_refused_of_map refused)
  · have ran := run_refused_of_map refused
    rw [debugObject, ExceptT.run_bind, StateT.run_bind] at ran
    obtain ⟨⟨err' | text, t⟩, asked, rest⟩ := ok_of_bind_ok ran
    · cases rest
      exact askHeap_plain Heap.renderTop_plainly asked
    · exact Session.writeDebug_plain (tidy.same (keeps_ask asked)) rest

/-- No error that an entry records passes on a zero, whatever the entry is given. -/
theorem recorded_plain (tidy : s.Tidy) (recorded : err ∈ e.recorded s) : err.Plain := by
  rcases List.mem_append.mp recorded with refused | noted
  · rw [Option.mem_toList] at refused
    unfold refusal? at refused
    split at refused
    · cases refused
      exact missing_plain ‹_›
    · rename_i counterpart
      unfold Call.refusal? at refused
      split at refused
      · cases refused
        exact counterpart_plain counterpart tidy ‹_›
      · cases refused
    · rename_i asks
      split at refused
      · cases refused
        exact question_plain asks _ _ ‹_›
      · cases refused
    · cases refused
  · unfold Entry.noted at noted
    split at noted
    · exact (Request.run_plain _ _ (Heap.notesPlain_of_journal tidy.journal)).2 err noted
    · cases noted

/-- An entry leaves a tidy session behind. -/
theorem perform_tidy (ordinary : e.Ordinary) (tidy : s.Tidy) (done : e.perform.run s = .ok (reply, s')) :
    s'.Tidy := by
  rcases classified ordinary with ⟨err, missing⟩ | ⟨c, counterpart⟩ | ⟨ask, asks⟩
  · rw [perform_missing missing] at done
    cases done
    exact tidy.record err
  · rw [perform_counterpart counterpart, run_settle] at done
    have begun := tidy.same (announced_same e s)
    have called : ∀ {x t}, c.perform.run.run (e.announced s) = .ok (x, t) → t.Tidy := by
      intro x t ran
      cases asked : c.request? with
      | none => exact begun.same (counterpart_keeps counterpart asked ran)
      | some q =>
        rw [Call.run_request asked] at ran
        rcases answered : q.run.run (e.announced s).heap with ⟨(err | fault) | y, h⟩ <;> rw [answered] at ran <;>
          cases ran <;> exact begun.adopt h
    rcases ran : c.perform.run.run (e.announced s) with fault | ⟨err | x, t⟩ <;> rw [ran] at done <;> cases done
    · exact (called ran).record err
    · exact called ran
  · rw [perform_question asks, run_settle_ask] at done
    rcases answered : ask s.heap with (err | fault) | x <;> rw [answered] at done <;> cases done
    · exact tidy.record err
    · exact tidy

end Entry

end CountedBox
