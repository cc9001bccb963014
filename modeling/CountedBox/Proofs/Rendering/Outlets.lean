import CountedBox.Proofs.Store.Boxed
import CountedBox.Proofs.Store.Texts

namespace CountedBox

namespace Debug

/-- The thread captures, or the sink takes what is written. -/
def Works (d : Debug) : Prop := d.capture = none → d.sink.writeError = none

/-- Debug output with these bytes written to it. -/
def taking (d : Debug) (bytes : List UInt8) : Debug :=
  match d.capture with
  | some taken => { d with capture := some (taken ++ bytes) }
  | none => { d with written := d.written.append d.sink.outlet bytes }

theorem write_of_works {d : Debug} (works : d.Works) (bytes : List UInt8) : d.write bytes = .ok (d.taking bytes) := by
  unfold write taking
  cases captured : d.capture with
  | some taken => rfl
  | none => simp only [works captured]

end Debug

theorem Session.log_debug (s : Session) (e : Log.Event) : (s.log e).debug = s.debug := by
  unfold Session.log
  split
  · split <;> rfl
  · rfl

variable {s : Session} {r : Ref} {text : String}

/-- Debug output of a value that can be written puts its whole text out. -/
theorem run_debugObject (rendered : s.heap.renderTop r = .ok text) (works : s.debug.Works) :
    (debugObject r).run.run s = .ok (.ok (), { s with debug := s.debug.taking (Text.utf8 text) }) := by
  have asked : (askHeap fun h => h.renderTop r).run.run s = .ok (.ok text, s) := by
    simp only [askHeap, ExceptT.run, ExceptT.mk, StateT.run, rendered]
  have wrote : (writeDebug (Text.utf8 text)).run.run s =
      .ok (.ok (), { s with debug := s.debug.taking (Text.utf8 text) }) := by
    simp only [writeDebug, ExceptT.run, ExceptT.mk, StateT.run, Debug.write_of_works works]
  rw [debugObject, ExceptT.run_bind, StateT.run_bind, asked]
  exact wrote

namespace Operation

/-- Both ways to write a box to debug output write its text. -/
theorem perform_debugObject {op : Operation} (rendered : s.heap.renderTop r = .ok text) (works : s.debug.Works)
    (writes : op ∈ [call (.debugObject r), entry (.debugObj r)]) :
    ∃ s', op.perform.run s = .ok (.ok .done, s') ∧ s'.heap = s.heap ∧ s'.debug = s.debug.taking (Text.utf8 text) := by
  rw [List.mem_pair] at writes
  rcases writes with rfl | rfl
  · refine ⟨{ s with debug := s.debug.taking (Text.utf8 text) }, ?_, rfl, rfl⟩
    rw [perform, Call.perform, ExceptT.run_map, StateT.run_map, run_debugObject rendered works]
    rfl
  · let logged := s.log (.debugObject r)
    have heap : logged.heap = s.heap := s.log_heap _
    have debug : logged.debug = s.debug := s.log_debug _
    let after : Session := { logged with debug := logged.debug.taking (Text.utf8 text) }
    have wrote : (do log (.debugObject r); CountedBox.debugObject r : Attempt Unit).run.run s = .ok (.ok (), after) :=
      run_debugObject (s := logged) (heap ▸ rendered) (debug ▸ works)
    refine ⟨after, ?_, heap, congrArg (Debug.taking · (Text.utf8 text)) debug⟩
    change (Except.ok <$> Entry.output do log (.debugObject r); CountedBox.debugObject r : Step _).run s = _
    rw [StateT.run_map, Entry.output, CountedBox.settle, StateT.run_bind, wrote]
    rfl

/-- Boxing the text of a value gives a string that is cut at the first zero. -/
theorem perform_boxRendering {op : Operation} (rendered : s.heap.renderTop r = .ok text)
    (asked : op.request? = some (.boxRendering r)) : ∃ a s', op.perform.run s = .ok (.ok (.ref (some a)), s') ∧
      s'.heap.view (some a) = .ok (.string (Text.utf8 (Text.beforeZero text))) := by
  let v : Value := .string (Text.untilZero (Text.utf8 text))
  have ran : (boxRendering r).run s.heap = (.ok (some s.heap.next), (s.heap.alloc v).2) := by
    rw [run_boxRendering, rendered]
  rcases perform_request asked s with ⟨f, h, stopped, _⟩ | ⟨_, _, x, s', _, _, done, _⟩
  · rw [Request.run, Action.run_map, ran] at stopped
    cases stopped
  · obtain ⟨rfl, heap⟩ := perform_boxing asked rfl ran done
    have known : (s.heap.alloc v).2.Knows s.heap.next := Heap.knows_alloc.mpr (Or.inl rfl)
    have found : (s.heap.alloc v).2.boxes[s.heap.next]? = some ⟨v.kind.tag, 1, v.payload⟩ :=
      (s.heap.getElem?_alloc v s.heap.next).trans (if_pos rfl)
    refine ⟨_, s', done, ?_⟩
    rw [heap, ← Text.untilZero_utf8]
    exact Heap.view_stores (h := { (s.heap.alloc v).2 with journal := [] }) known found ⟨rfl, rfl⟩

end Operation

/-- Where all that a box leads to can be viewed, the box has a text. Debug output, if it takes anything, takes
all of that text. A text box that is made of it has what comes before the first zero, so all of it unless a record
down there has a field whose name holds a zero: nothing else is written with a zero. In a run the address of a
freed box is not given out again. -/
theorem TextRun.boxed_text_ends_at_zero (run : TextRun s) (viewable : ∀ t, s.heap.Path r t → s.heap.Viewable t) :
    ∃ text, s.heap.renderTop r = .ok text ∧
      (∀ op ∈ [Operation.call (.boxRendering r), .entry (.objStr r)], ∃ a s',
        op.perform.run s = .ok (.ok (.ref (some a)), s') ∧
          s'.heap.view (some a) = .ok (.string (Text.utf8 (Text.beforeZero text)))) ∧
      (Text.beforeZero text = text ↔ ¬ s.heap.ZeroNamed r) ∧
      (s.debug.Works → ∀ op ∈ [Operation.call (.debugObject r), .entry (.debugObj r)], ∃ s',
        op.perform.run s = .ok (.ok .done, s') ∧ s'.heap = s.heap ∧
          s'.debug = s.debug.taking (Text.utf8 text)) := by
  obtain ⟨tracked, switched⟩ := run.switched
  obtain ⟨text, rendered⟩ := Heap.renderTop_of_viewable switched.exact.guarded.acyclic viewable
  refine ⟨text, rendered, fun op boxes => ?_, ?_, fun works op writes => ?_⟩
  · refine op.perform_boxRendering rendered ?_
    rw [List.mem_pair] at boxes
    rcases boxes with rfl | rfl <;> rfl
  · rw [Text.beforeZero_eq_self, Heap.renderTop_zero run.zeroFree rendered]
  · exact op.perform_debugObject rendered works writes

/-- A record with a number under a name that holds a zero. -/
def zeroNamedRecord : Session :=
  let number := ((({ tracking := true } : Heap).alloc (.record ∅)).2.alloc (.int 1)).2
  let record : Located := ⟨4096, ⟨Kind.record.tag, 1, .fields ∅⟩, .record⟩
  { heap := { number.store record (.fields (Std.TreeMap.empty.insert "a\x00b" (some 4097))) with journal := [] } }

theorem zeroNamedRecord_run : TextRun zeroNamedRecord := by
  have record : TextRun { heap := { (({ tracking := true } : Heap).alloc (.record ∅)).2 with journal := [] } } :=
    .operate (.call .newRecord) (.start (s := .initial true) rfl) (by rintro q ⟨⟩ a member; cases member) (by rintro bytes ⟨⟩) rfl
  let before : Session := { heap := { ((({ tracking := true } : Heap).alloc (.record ∅)).2.alloc (.int 1)).2 with journal := [] } }
  have number : TextRun before :=
    .operate (.call (.box (.int 1))) record (by rintro q ⟨⟩ a member; cases member) (by rintro bytes ⟨⟩) rfl
  have viewed : before.heap.view (some 4097) = .ok (.int 1) := rfl
  have apart : before.heap.reaches (some 4097) (some 4096) = .ok false := by
    rw [Heap.reaches, Heap.search, viewed]
    simp [Heap.search, Value.children]
  have checked : before.heap.checkInsert (some 4096) (some 4097) "wycc_record_put" = .ok () := by
    simp [Heap.checkInsert, viewed, apart]
  have planned := Insertion.plan_of_place (i := .recordPut (some 4096) "a\x00b" (some 4097)) checked rfl
  have done : (Operation.call (.recordPut (some 4096) "a\x00b" (some 4097))).perform.run before =
      .ok (.ok .done, zeroNamedRecord) := by
    refine (Call.run_request rfl before).trans ?_
    rw [Request.run, Insertion.run_of_plan planned]
    rfl
  exact .operate _ number (by rintro q ⟨⟩; trivial) (by rintro bytes ⟨⟩) done

/-- Its text is boxed only up to the zero. -/
theorem boxed_text_ends_at_zero_named :
    zeroNamedRecord.heap.renderTop (some 4096) = .ok "\x7ba\x00b: 1\x7d" ∧ ∃ a s',
      (Operation.call (.boxRendering (some 4096))).perform.run zeroNamedRecord = .ok (.ok (.ref (some a)), s') ∧
        s'.heap.view (some a) = .ok (.string (Text.utf8 "\x7ba")) := by
  have viewed : zeroNamedRecord.heap.view (some 4096) =
    .ok (.record (Std.TreeMap.empty.insert "a\x00b" (some 4097))) := rfl
  have number : zeroNamedRecord.heap.view (some 4097) = .ok (.int 1) := rfl
  have viewable : ∀ t, zeroNamedRecord.heap.Path (some 4096) t → zeroNamedRecord.heap.Viewable t :=
    Heap.viewable_of_elements viewed (List.forall_mem_singleton.mpr
      (Heap.viewable_of_elements number (by simp [Value.children])))
  obtain ⟨text, rendered, boxed, _⟩ := TextRun.boxed_text_ends_at_zero zeroNamedRecord_run viewable
  have written : zeroNamedRecord.heap.renderTop (some 4096) = .ok "\x7ba\x00b: 1\x7d" := rfl
  cases written.symm.trans rendered
  exact ⟨written, boxed _ (.head _)⟩

end CountedBox
