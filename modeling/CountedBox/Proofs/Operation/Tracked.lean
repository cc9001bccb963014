import CountedBox.Proofs.Operation.Effect

namespace CountedBox

theorem Heap.addReference_tracking {h h' : Heap} {r : Ref} (added : h.addReference r = .ok h') :
    h'.tracking = h.tracking := by
  obtain ⟨a, b, kind, _, _, _, _, _, _, rfl⟩ := addReference_cases added
  rfl

theorem Heap.dropReference_tracking {h h' : Heap} {r : Ref} {deep : Bool} {freed : Option (List Ref)}
    (dropped : h.dropReference r deep = .ok (h', freed)) : h'.tracking = h.tracking := by
  obtain ⟨a, b, kind, _, _, _, _, ⟨_, rfl, _⟩ | ⟨_, rfl, _⟩⟩ := dropReference_cases dropped <;> rfl

/-- Nothing that changes boxes switches tracking. -/
theorem Heap.Changes.tracking {h h' : Heap} (changes : h.Changes h') : h'.tracking = h.tracking := by
  induction changes with
  | refl => rfl
  | tail _ change ih =>
    rw [← ih]
    cases change with
    | retain added => exact addReference_tracking added
    | drop dropped => exact dropReference_tracking dropped
    | _ => rfl

namespace Heap

/-- Heaps that stay of their kind whatever is done to them, and on which an operation runs into no fault
but the expected, whatever references it is given. -/
structure Robust (expected : Fault → Prop) (I : Heap → Prop) : Prop where
  change : ∀ {h h' : Heap}, I h → h.Change h' → I h'
  guarded : ∀ {h : Heap}, I h → h.Guarded expected
  safe : ∀ {h : Heap}, I h → ∀ r, h.Safe expected r

/-- A heap in order with tracking on stays one, and no fault is to be expected of it. -/
theorem robust_tracked : Robust NoFault fun h => h.Coherent ∧ h.tracking = true where
  change holds step := ⟨holds.1.change step, (Changes.tracking (.single step)).trans holds.2⟩
  guarded holds := holds.1.guarded holds.2
  safe holds := holds.1.safe holds.2

namespace Robust

variable {expected : Fault → Prop} {I : Heap → Prop} {h h' : Heap}

/-- A cascade ends in no fault but those to be expected of its heap, which stays as good at each step. -/
theorem releaseEach_expected (robust : Robust expected I) (holds : I h) {pending : List Ref} {fault : Fault}
    (stopped : h.releaseEach pending = .error fault) : expected fault := by
  fun_induction h.releaseEach pending with
  | case1 => cases stopped
  | case2 h r rest e refused ih => exact ih (robust.change holds (.note _)) stopped
  | case3 h r rest f broken =>
    cases stopped
    exact (robust.guarded holds).dropReference_answers (robust.safe holds r) true fault broken
  | case4 h r rest next dropped ih => exact ih (robust.change holds (.drop dropped)) stopped
  | case5 h r rest next elements dropped ih => exact ih (robust.change holds (.drop dropped)) stopped

/-- So does a release. -/
theorem release_answers (robust : Robust expected I) (holds : I h) (r : Ref) (deep : Bool) :
    Answers expected ((release r deep).run h).1 := by
  have answers := (robust.guarded holds).dropReference_answers (robust.safe holds r) deep
  intro fault stopped
  rw [run_release] at stopped
  split at stopped
  · rename_i stop dropped
    cases stopped
    exact answers fault dropped
  · cases stopped
  · rename_i next elements dropped
    split at stopped
    · split at stopped
      · rename_i f broken
        cases stopped
        exact robust.releaseEach_expected (robust.change holds (.drop dropped)) broken
      · cases stopped
    · cases stopped

end Robust

end Heap

section Robust

variable {expected : Fault → Prop} {I : Heap → Prop} {h : Heap}

/-- An insertion checks, stores and releases what it displaces, and each of these answers. -/
theorem Insertion.run_answers (robust : Heap.Robust expected I) (holds : I h) (i : Insertion) :
    Answers expected (i.run.run h).1 := by
  rw [run_eq]
  have answers := plan_answers (i := i) (robust.guarded holds) (robust.safe holds _) (robust.safe holds _)
  cases planned : i.plan h with
  | error stop =>
    rintro fault stopped
    cases stopped
    exact answers fault planned
  | ok placement =>
    cases placement with
    | present =>
      rw [carryOut, Action.run_map]
      exact answers_map (robust.release_answers holds _ _)
    | store b content displaced =>
      cases displaced with
      | none => exact answers_ok _
      | some previous =>
        have after : I (h.store b content.payload) := robust.change holds (plan_store planned).change
        rw [carryOut, Action.run_map]
        exact answers_map (robust.release_answers after _ _)

/-- Any request answers. -/
theorem Request.run_answers (robust : Heap.Robust expected I) (holds : I h) (q : Request) :
    Answers expected (q.run.run h).1 := by
  cases q with
  | box v => exact answers_ok _
  | boxChar code =>
    rw [run, Action.run_map]
    rcases run_boxChar code h with ⟨e, ran⟩ | ⟨c, ran⟩
    · rw [ran]
      exact answers_refuse e
    · rw [ran]
      exact answers_ok _
  | boxRendering r =>
    rw [run, Action.run_map, run_boxRendering]
    have answers := (robust.guarded holds).renderTop_answers (robust.safe holds r)
    cases rendered : h.renderTop r with
    | error stop =>
      rintro fault stopped
      cases stopped
      exact answers fault rendered
    | ok s => exact answers_ok _
  | newTuple arity =>
    obtain ⟨r, next, made, _⟩ := h.newTuple_changes arity
    rw [run, Action.run_map, made]
    exact answers_ok _
  | insert i => exact i.run_answers robust holds
  | retain r =>
    rw [run, Action.run_map, run_retain]
    have answers : Answers expected (h.addReference r) := Heap.Guarded.addReference_answers (robust.safe holds r)
    cases added : h.addReference r with
    | error stop =>
      rintro fault stopped
      cases stopped
      exact answers fault added
    | ok next => exact answers_ok _
  | release r deep =>
    rw [run, Action.run_map]
    exact answers_map (robust.release_answers holds r deep)

end Robust

namespace Operation

variable {expected : Fault → Prop} {op : Operation} {s s' : Session} {x : Except Error Reply}

/-- A container is boxed only over addresses that have been given out. -/
def Existing (h : Heap) (op : Operation) : Prop := ∀ q, op.request? = some q → q.Existing h

/-- What an operation that finishes has done to the heap: nothing, or what its request does. -/
theorem perform_cases (steady : op.Steady) (guarded : s.heap.Guarded expected)
    (safe : ∀ r ∈ op.inspected, s.heap.Safe expected r) (done : op.perform.run s = .ok (x, s')) :
    op.request? = none ∧ s'.heap = s.heap ∨ ∃ q outcome h, op.request? = some q ∧
      q.run.run s.heap = (outcome, h) ∧ Answers NoFault outcome ∧ s'.heap = { h with journal := [] } := by
  cases asked : op.request? with
  | none =>
    rcases perform_quiet steady asked guarded safe with ⟨_, stopped, _⟩ | ⟨y, t, run, same⟩
    · cases stopped.symm.trans done
    · cases run.symm.trans done
      exact Or.inl ⟨rfl, same⟩
  | some q =>
    rcases perform_request asked s with ⟨f, h, _, stopped⟩ | ⟨outcome, h, y, t, run, answers, finished, heap⟩
    · cases stopped.symm.trans done
    · cases finished.symm.trans done
      exact Or.inr ⟨q, outcome, h, rfl, run, answers, heap⟩

/-- What an operation does to the boxes is a sequence of single changes. -/
theorem perform_changes (steady : op.Steady) (existing : op.Existing s.heap)
    (guarded : s.heap.Guarded expected) (safe : ∀ r ∈ op.inspected, s.heap.Safe expected r)
    (done : op.perform.run s = .ok (x, s')) : s.heap.Changes s'.heap := by
  rcases perform_cases steady guarded safe done with ⟨_, same⟩ | ⟨q, outcome, h, asked, run, _, heap⟩
  · rw [same]
  · rw [heap]
    exact (Request.run_changes (existing q asked) run).tail .settle

/-- An operation finishes unless it runs into an expected fault. -/
theorem perform_robust {I : Heap → Prop} (steady : op.Steady) (robust : Heap.Robust expected I)
    (holds : I s.heap) :
    (∃ fault, op.perform.run s = .error fault ∧ expected fault) ∨ ∃ x s', op.perform.run s = .ok (x, s') := by
  cases asked : op.request? with
  | none =>
    rcases perform_quiet steady asked (robust.guarded holds) (fun r _ => robust.safe holds r) with
      broken | ⟨x, s', done, _⟩
    · exact Or.inl broken
    · exact Or.inr ⟨x, s', done⟩
  | some q =>
    rcases perform_request asked s with ⟨f, h, ran, stopped⟩ | ⟨_, _, x, s', _, _, done, _⟩
    · exact Or.inl ⟨f, stopped, q.run_answers robust holds f (congrArg Prod.fst ran)⟩
    · exact Or.inr ⟨x, s', done⟩

/-- With tracking on every operation finishes. -/
theorem perform_tracked (steady : op.Steady) (coherent : s.heap.Coherent) (tracking : s.heap.tracking = true) :
    ∃ x s', op.perform.run s = .ok (x, s') :=
  (perform_robust steady Heap.robust_tracked ⟨coherent, tracking⟩).resolve_left fun ⟨_, _, never⟩ => never

end Operation

/-- The sessions that any operations lead to while tracking is on. References may be misused: null,
stale and foreign ones may be passed, and ones that were only borrowed may be given back. Beside the
operations, headers may be placed that were never boxed, and all but the heap may change at will. -/
inductive TrackedRun : Session → Prop
  | start {s : Session} : s.heap = { tracking := true } → TrackedRun s
  | operate {s s' : Session} {x : Except Error Reply} (op : Operation) : TrackedRun s → op.Steady → op.Existing s.heap →
      op.perform.run s = .ok (x, s') → TrackedRun s'
  | foreign {s : Session} (tag count : Int) : TrackedRun s →
      TrackedRun { s with heap := (s.heap.placeForeign tag count).2 }
  | beside {s s' : Session} : TrackedRun s → s'.heap = s.heap → TrackedRun s'

namespace TrackedRun

/-- Along a run with tracking on the heap stays in order, and tracking stays on. -/
theorem invariant {s : Session} (run : TrackedRun s) : s.heap.Coherent ∧ s.heap.tracking = true := by
  induction run with
  | start begun => exact begun ▸ ⟨.start true, rfl⟩
  | operate op _ steady existing done ih =>
    obtain ⟨coherent, tracking⟩ := ih
    have changes := Operation.perform_changes steady existing (coherent.guarded tracking)
      (fun r _ => coherent.safe tracking r) done
    exact ⟨coherent.changes changes, changes.tracking.trans tracking⟩
  | foreign tag count _ ih => exact ⟨ih.1.placeForeign tag count ih.2, ih.2⟩
  | beside _ same ih => exact same ▸ ih

theorem coherent {s : Session} (run : TrackedRun s) : s.heap.Coherent := run.invariant.1

theorem tracking {s : Session} (run : TrackedRun s) : s.heap.tracking = true := run.invariant.2

theorem guarded {s : Session} (run : TrackedRun s) : s.heap.Guarded NoFault :=
  run.coherent.guarded run.tracking

/-- So any reference may be handed in. -/
theorem safe {s : Session} (run : TrackedRun s) (r : Ref) : s.heap.Safe NoFault r :=
  run.coherent.safe run.tracking r

/-- Between operations nothing is noted that was not acted on. -/
theorem journal {s : Session} (run : TrackedRun s) : s.heap.journal = [] := by
  induction run with
  | start begun => rw [begun]
  | operate op run steady existing done ih =>
    rcases Operation.perform_cases steady run.guarded (fun r _ => run.safe r) done with
      ⟨_, same⟩ | ⟨q, outcome, h, _, _, _, heap⟩
    · rw [same, ih]
    · rw [heap]
  | foreign tag count _ ih => exact ih
  | beside _ same ih => rw [same, ih]

end TrackedRun

end CountedBox
