import CountedBox.Proofs.Store.Placed

namespace CountedBox

/-! What a caller sees of an insertion: whether the item was stored. -/

namespace Insertion

/-- A call that answers so has stored the item. -/
def took : Insertion → Reply → Bool
  | setAdd _ _, .bool added => added
  | listAdd _ _, .done | tupleSet _ _ _, .done | recordPut _ _ _, .done => true
  | _, _ => false

/-- An entry that answers so has stored the item. -/
def tookCode : Insertion → Reply → Bool
  | setAdd _ _, .int code => code == 1
  | listAdd _ _, .int code | tupleSet _ _ _, .int code | recordPut _ _ _, .int code => code == 0
  | _, _ => false

/-- The insertion, if the outcome says that the item was stored. -/
def made? (i : Insertion) : Except Stop Reply → Option Insertion
  | .ok reply => if i.took reply then some i else none
  | .error _ => none

theorem took_stored (i : Insertion) : i.took i.stored = true := by cases i <;> rfl

/-- A client that may hand over the item sees the insertion made just when the container is touched. -/
theorem made?_run {h : Heap} {held : Holdings} (balanced : h.Balanced held) (i : Insertion)
    (owned : held.Owns i.item) : i.made? (i.run.run h).1 = if (i.touched h).isSome then some i else none := by
  cases planned : i.plan h with
  | error stop => rw [run_eq, touched, planned]; rfl
  | ok placement =>
    cases placement with
    | present =>
      obtain ⟨set, item, rfl⟩ := plan_present planned
      rw [run_eq, touched, planned, carryOut, Action.run_map]
      generalize (release (setAdd set item).item true).run h = released
      rcases released with ⟨_ | _, _⟩ <;> rfl
    | store b content displaced =>
      obtain ⟨h', ran, _⟩ := run_stored balanced planned owned
      rw [ran, touched_of_plan planned, made?, took_stored]
      rfl

end Insertion

namespace Operation

/-- An operation that answers so has stored the item. -/
def took (op : Operation) (i : Insertion) (reply : Reply) : Bool :=
  match op with
  | call _ => i.took reply
  | entry _ => i.tookCode reply

/-- The insertion that the operation has made, as far as its answer tells. -/
def inserted? (op : Operation) (answer : Except Error Reply) : Option Insertion :=
  match op.request?, answer with
  | some (.insert i), .ok reply => if op.took i reply then some i else none
  | _, _ => none

/-- The insertion into the container at `a` that the operation has made, if it has. -/
def insertionsAt (op : Operation) (answer : Except Error Reply) (a : Address) : List Insertion :=
  (op.inserted? answer).toList.filter fun i => i.container = some a

end Operation

namespace Entry

variable {e : Entry} {i : Insertion}

/-- An entry for an insertion settles what the insertion comes to. Its code tells the same as the answer of
the call. -/
theorem perform_insertion (asked : e.request? = some (.insert i)) :
    ∃ (α : Type) (act : Action α) (g ok : α → Reply) (failed : Error → Reply), i.run = g <$> act ∧
      e.perform = settle (onHeap act) ok failed ∧ (∀ x, i.tookCode (ok x) = i.took (g x)) ∧
      ∀ err, i.tookCode (failed err) = false := by
  have coded : ∀ err : Error, (err.code == 0) = false := fun err =>
    beq_eq_false_iff_ne.mpr (Int.ne_of_gt err.code_pos)
  cases e <;> simp only [request?, Option.some.injEq, reduceCtorEq] at asked
  case listAdd list item =>
    cases asked
    exact ⟨Unit, CountedBox.listAdd list item, _, fun _ => .int 0, _, rfl, rfl, fun _ => rfl, coded⟩
  case setAdd set item =>
    cases asked
    refine ⟨Bool, CountedBox.setAdd set item, _, fun added => .int (flag added), _, rfl, rfl, ?_, ?_⟩
    · intro added
      cases added <;> rfl
    · intro err
      have positive := err.code_pos
      exact beq_eq_false_iff_ne.mpr (by omega)
  case tupleSet tuple index item =>
    cases asked
    exact ⟨Unit, CountedBox.tupleSet tuple _ item, _, fun _ => .int 0, _, rfl, rfl, fun _ => rfl, coded⟩
  case recordPut record field item =>
    obtain ⟨bytes, rfl, same⟩ := Option.map_eq_some_iff.mp asked
    cases same
    exact ⟨Unit, CountedBox.recordPut record _ item, _, fun _ => .int 0, _, rfl, rfl, fun _ => rfl, coded⟩
  case boxStr text =>
    obtain ⟨_, _, same⟩ := Option.map_eq_some_iff.mp asked
    cases same

end Entry

/-- What the answer tells is what the insertion came to. -/
theorem Operation.inserted?_eq {op : Operation} {i : Insertion} {s s' : Session} {answer : Except Error Reply}
    (asked : op.request? = some (.insert i)) (done : op.perform.run s = .ok (answer, s')) :
    op.inserted? answer = i.made? (i.run.run s.heap).1 := by
  cases op with
  | call c =>
    have ran : s.conclude (i.run.run s.heap) = .ok (answer, s') := (Call.run_request asked s).symm.trans done
    unfold inserted?
    rw [asked]
    rcases outcome : i.run.run s.heap with ⟨(err | f) | reply, h⟩ <;> rw [outcome] at ran <;> cases ran <;> rfl
  | entry e =>
    obtain ⟨α, act, g, ok, failed, request, settled, same, coded⟩ := Entry.perform_insertion asked
    change (Except.ok <$> e.perform : Step _).run s = _ at done
    rw [settled, StateT.run_map, run_settle_onHeap] at done
    rw [request, Action.run_map]
    unfold inserted?
    rw [asked]
    rcases outcome : act.run s.heap with ⟨(err | f) | x, h⟩ <;> rw [outcome] at done <;> cases done
    · simp [took, coded, Insertion.made?, Except.map]
    · simp [took, same, Insertion.made?, Except.map]

/-- Only insertions insert. -/
theorem Operation.inserted?_none {op : Operation} (plain : ∀ i, op.request? ≠ some (.insert i))
    (answer : Except Error Reply) : op.inserted? answer = none := by
  unfold inserted?
  split
  · rename_i i reply asked
    exact absurd asked (plain i)
  · rfl

/-- What a value becomes by insertions one after the other. -/
def Value.insertAll (v : Value) (insertions : List Insertion) : Value := insertions.foldl (fun v i => i.into v) v

namespace Operation

variable {op : Operation} {s s' : Session} {held : Holdings} {answer : Except Error Reply} {a : Address}

/-- What the client sees inserted at an address is what the request has touched there. -/
theorem insertionsAt_eq (balanced : s.heap.Balanced held) {i : Insertion} (asked : op.request? = some (.insert i))
    (owned : held.Owns i.item) (done : op.perform.run s = .ok (answer, s')) :
    op.insertionsAt answer a = if i.touched s.heap = some a then [i] else [] := by
  rw [insertionsAt, inserted?_eq asked done, i.made?_run balanced owned]
  cases touched : i.touched s.heap with
  | none => simp
  | some c =>
    have container := (Insertion.touched_some touched).1
    by_cases here : c = a <;> simp [container, here]

/-- What was there before and is there after an operation holds what it held, with the items in it that the
client sees inserted there. -/
theorem perform_contents (balanced : s.heap.Balanced held) (steady : op.Steady)
    (permitted : op.Permitted s.heap held) (done : op.perform.run s = .ok (answer, s')) {v' : Value}
    (old : a < s.heap.next) (viewed : s'.heap.view (some a) = .ok v') :
    ∃ v, s.heap.view (some a) = .ok v ∧ v' = v.insertAll (op.insertionsAt answer a) := by
  have safe : ∀ r ∈ op.inspected, s.heap.Safe NoFault r := fun r member => (permitted.2 r member).safe
  rcases perform_cases steady balanced.guarded safe done with
    ⟨asked, same⟩ | ⟨q, outcome, h, asked, ran, _, heap⟩
  · rw [same] at viewed
    refine ⟨v', viewed, ?_⟩
    rw [insertionsAt, inserted?_none (by simp [asked])]
    rfl
  · obtain ⟨_, _, same, _, after⟩ := q.run_balanced balanced (permitted.1 q asked)
    cases same.symm.trans ran
    rw [heap] at viewed
    change h.view (some a) = .ok v' at viewed
    rcases q.run_contents balanced after (permitted.1 q asked) ran old viewed with
      ⟨kept, other⟩ | ⟨i, v, rfl, touched, kept, rfl⟩
    · refine ⟨v', kept, ?_⟩
      have none : op.insertionsAt answer a = [] := by
        cases q with
        | insert i =>
          rw [insertionsAt_eq balanced asked (permitted.1 _ asked).2 done]
          exact if_neg fun touched => other touched.symm
        | _ => rw [insertionsAt, inserted?_none (by simp [asked])]; rfl
      rw [none]
      rfl
    · refine ⟨v, kept, ?_⟩
      rw [insertionsAt_eq balanced asked (permitted.1 _ asked).2 done, if_pos touched]
      rfl

end Operation

end CountedBox
