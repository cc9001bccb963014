import CountedBox.Proofs.Store.Boxed
import CountedBox.Proofs.Store.Grown
import CountedBox.Proofs.Store.Reports

namespace CountedBox

/-- What was asked for and what was answered, oldest first. -/
abbrev History := List (Operation × Except Error Reply)

/-- The insertions at an address that were seen to be made, in their order. -/
def History.insertionsAt (history : History) (a : Address) : List Insertion :=
  history.flatMap fun event => event.1.insertionsAt event.2 a

/-- What each address was first boxed with. -/
abbrev Origins := Address → Option Value

namespace Origins

/-- An operation may have boxed something at addresses that were not given out before. -/
def extend (origins : Origins) (h h' : Heap) : Origins :=
  fun a => if a < h.next then origins a else (h'.view (some a)).toOption

/-- The answer leads to what the operation was to box. A new tuple is boxed with nulls in its slots. -/
def Account (origins : Origins) (op : Operation) (answer : Except Error Reply) : Prop :=
  (∀ v, op.request? = some (.box v) → ∃ a, answer = .ok (.ref (some a)) ∧ origins a = some v) ∧
  ∀ n, op.request? = some (.newTuple n) → ∃ a slots, answer = .ok (.ref (some a)) ∧
    origins a = some (.tuple slots) ∧ slots.length = n ∧ ∀ x ∈ slots, ∃ c, x = some c ∧ origins c = some .null

variable {origins : Origins} {h h' : Heap} {op : Operation} {answer : Except Error Reply}

theorem extend_new {a : Address} {v : Value} (new : h.next ≤ a) (viewed : h'.view (some a) = .ok v) :
    origins.extend h h' a = some v := by
  rw [extend, if_neg (Nat.not_lt.mpr new), viewed]
  rfl

/-- An account of an operation holds as well with more origins known. -/
theorem Account.mono {origins' : Origins} (account : origins.Account op answer)
    (kept : ∀ a v, origins a = some v → origins' a = some v) : origins'.Account op answer := by
  refine ⟨fun v asked => ?_, fun n asked => ?_⟩
  · obtain ⟨a, answered, origin⟩ := account.1 v asked
    exact ⟨a, answered, kept a v origin⟩
  · obtain ⟨a, slots, answered, origin, length, nulls⟩ := account.2 n asked
    refine ⟨a, slots, answered, kept a _ origin, length, fun x member => ?_⟩
    obtain ⟨c, same, null⟩ := nulls x member
    exact ⟨c, same, kept c _ null⟩

end Origins

/-- The sessions of a client that follows the rules of ownership, with the references it holds, the history of
its operations, and what it boxed. Whether tracking is on is chosen at the start. -/
inductive RecordedRun : Session → Holdings → History → Origins → Prop
  | start {s : Session} {tracking : Bool} : s.heap = { tracking } → RecordedRun s (fun _ => 0) [] fun _ => none
  | operate {s s' : Session} {held : Holdings} {history : History} {origins : Origins}
      {answer : Except Error Reply} (op : Operation) : RecordedRun s held history origins → op.Steady →
      op.Permitted s.heap held → op.perform.run s = .ok (answer, s') →
      RecordedRun s' (op.settle s.heap held) (history ++ [(op, answer)]) (origins.extend s.heap s'.heap)
  | beside {s s' : Session} {held : Holdings} {history : History} {origins : Origins} :
      RecordedRun s held history origins → s'.heap = s.heap → RecordedRun s' held history origins

/-- Nothing is inserted at an address that was not given out. -/
theorem Operation.insertionsAt_fresh {op : Operation} {s s' : Session} {held : Holdings}
    {answer : Except Error Reply} {a : Address} (balanced : s.heap.Balanced held)
    (permitted : op.Permitted s.heap held) (done : op.perform.run s = .ok (answer, s')) (fresh : s.heap.next ≤ a) :
    op.insertionsAt answer a = [] := by
  by_cases inserts : ∃ i, op.request? = some (.insert i)
  · obtain ⟨i, asked⟩ := inserts
    rw [insertionsAt_eq balanced asked (permitted.1 _ asked).2 done]
    refine if_neg fun touched => ?_
    obtain ⟨container, b, content, displaced, planned⟩ := Insertion.touched_some touched
    have accepted := Insertion.plan_store planned
    have here : a = b.address := Option.some.inj (container.symm.trans accepted.container)
    exact absurd (balanced.coherent.below accepted.found) (Nat.not_lt.mpr (here ▸ fresh))
  · rw [insertionsAt, inserted?_none fun i asked => inserts ⟨i, asked⟩]
    rfl

/-- What is in the heap is accounted for by what was boxed and by the history of insertions. -/
structure Session.Recorded (s : Session) (history : History) (origins : Origins) : Prop where
  unborn : ∀ {a : Address}, s.heap.next ≤ a → history.insertionsAt a = []
  given : ∀ {a : Address} {v : Value}, origins a = some v → a < s.heap.next
  contents : ∀ {a : Address} {v : Value}, s.heap.view (some a) = .ok v →
    ∃ first, origins a = some first ∧ v = first.insertAll (history.insertionsAt a)
  births : ∀ {op : Operation} {answer : Except Error Reply}, (op, answer) ∈ history → origins.Account op answer

namespace Session.Recorded

variable {s s' : Session} {held : Holdings} {history : History} {origins : Origins} {op : Operation}
  {answer : Except Error Reply}

/-- One operation more keeps the record of what was inserted true of the heap. -/
theorem operate (recorded : s.Recorded history origins) (balanced : s.heap.Balanced held) (steady : op.Steady)
    (permitted : op.Permitted s.heap held) (done : op.perform.run s = .ok (answer, s')) :
    s'.Recorded (history ++ [(op, answer)]) (origins.extend s.heap s'.heap) := by
  have later := (Operation.perform_permitted balanced steady permitted done).next_le
  obtain ⟨_, _, same, after⟩ := op.perform_balanced balanced steady permitted
  cases same.symm.trans done
  have inserted : ∀ a, History.insertionsAt (history ++ [(op, answer)]) a =
      history.insertionsAt a ++ op.insertionsAt answer a := by
    intro a
    simp [History.insertionsAt]
  have kept : ∀ a v, origins a = some v → origins.extend s.heap s'.heap a = some v := by
    intro a v origin
    rw [Origins.extend, if_pos (recorded.given origin), origin]
  refine ⟨fun {a} fresh => ?_, fun {a v} origin => ?_, fun {a v} viewed => ?_, fun {op' answer'} member => ?_⟩
  · have before := Nat.le_trans later fresh
    rw [inserted, recorded.unborn before, Operation.insertionsAt_fresh balanced permitted done before]
    rfl
  · unfold Origins.extend at origin
    split at origin
    · exact Nat.lt_of_lt_of_le ‹_› later
    · cases viewed : s'.heap.view (some a) with
      | error stop =>
        rw [viewed] at origin
        cases origin
      | ok w =>
        obtain ⟨_, b, here, _, found, _⟩ := Heap.view_found viewed
        cases here
        exact after.coherent.below found
  · -- An old container has grown by what this operation inserted; a new one is its own origin.
    by_cases old : a < s.heap.next
    · obtain ⟨w, before, rfl⟩ := Operation.perform_contents balanced steady permitted done old viewed
      obtain ⟨first, origin, rfl⟩ := recorded.contents before
      refine ⟨first, kept a first origin, ?_⟩
      rw [inserted, Value.insertAll, Value.insertAll, Value.insertAll, List.foldl_append]
    · have fresh := Nat.not_lt.mp old
      refine ⟨v, Origins.extend_new fresh viewed, ?_⟩
      rw [inserted, recorded.unborn fresh, Operation.insertionsAt_fresh balanced permitted done fresh]
      rfl
  · rcases List.mem_append.mp member with old | new
    · exact (recorded.births old).mono kept
    · cases List.mem_singleton.mp new
      refine ⟨fun v asked => ?_, fun n asked => ?_⟩
      · obtain ⟨a, answered, fresh, viewed⟩ := Operation.perform_box after asked done
        exact ⟨a, answered, Origins.extend_new fresh viewed⟩
      · obtain ⟨a, slots, answered, fresh, viewed, length, nulls⟩ := Operation.perform_newTuple after asked done
        refine ⟨a, slots, answered, Origins.extend_new fresh viewed, length, fun x member => ?_⟩
        obtain ⟨c, same, freshC, null⟩ := nulls x member
        exact ⟨c, same, Origins.extend_new freshC null⟩

end Session.Recorded

namespace RecordedRun

variable {s : Session} {held : Holdings} {history : History} {origins : Origins}

theorem client (run : RecordedRun s held history origins) : ClientRun s held := by
  induction run with
  | start begun => exact .start begun
  | operate op _ steady permitted done ih => exact .operate op ih steady permitted done
  | beside _ same ih => exact .beside ih same

/-- Along a recorded run the record is true of the heap. -/
theorem recorded (run : RecordedRun s held history origins) : s.Recorded history origins := by
  induction run with
  | start begun =>
    refine ⟨fun _ => rfl, fun origin => (nomatch origin), fun viewed => ?_, fun member => by cases member⟩
    rw [begun] at viewed
    obtain ⟨_, _, _, _, found, _⟩ := Heap.view_found viewed
    simp at found
  | operate op run steady permitted done ih => exact ih.operate run.client.balanced steady permitted done
  | beside _ same ih => exact ⟨by rw [same]; exact ih.unborn, by rw [same]; exact ih.given,
      by rw [same]; exact ih.contents, ih.births⟩

end RecordedRun

end CountedBox
