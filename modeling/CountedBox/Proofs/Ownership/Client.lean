import CountedBox.Proofs.Operation.Tracked
import CountedBox.Proofs.Ownership.Ledger

namespace CountedBox

namespace Operation

/-- The client uses up only references it holds, and lends or looks at only what is there. -/
def Permitted (h : Heap) (held : Holdings) (op : Operation) : Prop :=
  (∀ q, op.request? = some q → q.Permitted h held) ∧ ∀ r ∈ op.inspected, h.Lendable r

/-- The holdings of the client after the operation. -/
def settle (h : Heap) (held : Holdings) (op : Operation) : Holdings :=
  match op.request? with
  | none => held
  | some q => q.settle h held (q.run.run h).1

/-- A permitted operation finishes, and the books are right again with what the client then holds. -/
theorem perform_balanced {op : Operation} {s : Session} {held : Holdings} (balanced : s.heap.Balanced held)
    (steady : op.Steady) (permitted : op.Permitted s.heap held) :
    ∃ x s', op.perform.run s = .ok (x, s') ∧ s'.heap.Balanced (op.settle s.heap held) := by
  cases asked : op.request? with
  | none =>
    have quiet := perform_quiet steady asked balanced.guarded fun r member => (permitted.2 r member).safe
    obtain ⟨x, s', run, same⟩ := quiet.finishes
    refine ⟨x, s', run, ?_⟩
    rw [same, settle, asked]
    exact balanced
  | some q =>
    obtain ⟨outcome, h, ran, answers, after⟩ := q.run_balanced balanced (permitted.1 q asked)
    rcases perform_request asked s with ⟨f, _, stopped, _⟩ | ⟨_, _, x, s', same, _, run, heap⟩
    · cases ran.symm.trans stopped
      exact absurd rfl (answers f)
    · cases ran.symm.trans same
      refine ⟨x, s', run, ?_⟩
      rw [heap]
      simp only [settle, asked, ran]
      exact after.of_same rfl rfl rfl rfl rfl rfl

/-- What the client holds has been given out. -/
theorem Permitted.existing {op : Operation} {h : Heap} {held : Holdings} (balanced : h.Balanced held)
    (permitted : op.Permitted h held) : op.Existing h := by
  intro q asked
  cases q with
  | box v =>
    intro a member
    have covered := permitted.1 _ asked (some a)
    have positive := List.count_pos_iff.mpr member
    obtain ⟨_, b, same, found⟩ := balanced.present (r := some a) (by omega)
    cases same
    exact balanced.coherent.below found
  | _ => trivial

/-- An operation that is permitted finishes, and what it hands over is accounted for. -/
theorem perform_permitted {op : Operation} {s s' : Session} {held : Holdings} {x : Except Error Reply}
    (balanced : s.heap.Balanced held) (steady : op.Steady) (permitted : op.Permitted s.heap held)
    (done : op.perform.run s = .ok (x, s')) : s.heap.Changes s'.heap :=
  perform_changes steady (permitted.existing balanced) balanced.guarded
    (fun r member => (permitted.2 r member).safe) done

end Operation

/-- The sessions of a client that follows the rules of ownership, with the references it holds.
Whether tracking is on is chosen at the start; all but the heap may change at will. -/
inductive ClientRun : Session → Holdings → Prop
  | start {s : Session} {tracking : Bool} : s.heap = { tracking } → ClientRun s fun _ => 0
  | operate {s s' : Session} {held : Holdings} {x : Except Error Reply} (op : Operation) :
      ClientRun s held → op.Steady → op.Permitted s.heap held → op.perform.run s = .ok (x, s') →
      ClientRun s' (op.settle s.heap held)
  | beside {s s' : Session} {held : Holdings} : ClientRun s held → s'.heap = s.heap → ClientRun s' held

namespace ClientRun

variable {s : Session} {held : Holdings}

/-- Along a run of a client the heap is balanced against what the client holds. -/
theorem balanced (run : ClientRun s held) : s.heap.Balanced held := by
  induction run with
  | start begun => exact begun ▸ .start _
  | operate op _ steady permitted done ih =>
    obtain ⟨x, s', run, after⟩ := op.perform_balanced ih steady permitted
    cases run.symm.trans done
    exact after
  | beside _ same ih => exact same ▸ ih

/-- Exact reference accounting. Whatever a client does that consumes only references it holds, the
count of every box is the number of references the client holds to it and containers have to it as
elements. Nothing is held, by the client or by a container, that is not there, and no operation the
rules permit breaks off. In a run the address of a freed box is not given out again. -/
theorem counts_exact (run : ClientRun s held) :
    (∀ (a : Address) (b : Box), s.heap.boxes[a]? = some b →
      b.count = held (some a) + s.heap.occurrences (some a) ∧ 0 < b.count) ∧
    (∀ r, 0 < held r ∨ 0 < s.heap.occurrences r → ∃ a b, r = some a ∧ s.heap.boxes[a]? = some b) ∧
    ∀ op : Operation, op.Steady → op.Permitted s.heap held → ∃ x s', op.perform.run s = .ok (x, s') := by
  have balanced := run.balanced
  refine ⟨?_, ?_, ?_⟩
  · intro a b found
    have exact := balanced.exact (some a)
    rw [Heap.count_found found] at exact
    exact ⟨exact, balanced.positive found⟩
  · intro r holder
    exact balanced.present (by omega)
  · intro op steady permitted
    obtain ⟨x, s', done, _⟩ := op.perform_balanced balanced steady permitted
    exact ⟨x, s', done⟩

end ClientRun

/-- A session in which a tuple holds the only reference to a number. -/
def numberInTuple : Session :=
  let number := (({ tracking := true } : Heap).alloc (.int 1)).2
  { heap := { (number.alloc (.tuple [some 4096])).2 with journal := [] } }

/-- What the client holds there. -/
def numberInTuple_held : Holdings :=
  (((Holdings.gain (fun _ => 0) [some 4096]).spend [some 4096]).gain [some 4097])

theorem numberInTuple_run : ClientRun numberInTuple numberInTuple_held := by
  have number : ClientRun { heap := { (({ tracking := true } : Heap).alloc (.int 1)).2 with journal := [] } }
      (Holdings.gain (fun _ => 0) [some 4096]) :=
    .operate (.call (.box (.int 1))) (.start (s := .initial true) rfl) (by simp [Operation.Steady])
      ⟨by rintro q ⟨⟩ r; exact Nat.zero_le _, by rintro r ⟨⟩⟩ rfl
  refine .operate (.call (.tupleOf [some 4096])) number (by simp [Operation.Steady]) ⟨?_, by rintro r ⟨⟩⟩ rfl
  rintro q ⟨⟩ r
  exact Nat.le_add_left _ _

/-- The one reference counted for the number is the element of the tuple. -/
theorem counts_exact_numberInTuple : numberInTuple_held (some 4096) = 0 ∧
    ∃ b, numberInTuple.heap.boxes[(4096 : Address)]? = some b ∧
      b.count = numberInTuple_held (some 4096) + numberInTuple.heap.occurrences (some 4096) :=
  ⟨rfl, _, rfl, ((ClientRun.counts_exact numberInTuple_run).1 4096 _ rfl).1⟩

end CountedBox
