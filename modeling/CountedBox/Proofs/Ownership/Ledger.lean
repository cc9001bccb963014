import CountedBox.Proofs.Ownership.Balance
import CountedBox.Proofs.Request

namespace CountedBox

/-- What may be handed over: null, or what the client holds a reference to. -/
def Holdings.Owns (held : Holdings) (r : Ref) : Prop := r = none ∨ 0 < held r

namespace Heap

/-- What may be lent to an operation: null, or what leads to a box. -/
def Lendable (h : Heap) (r : Ref) : Prop := ∀ a, r = some a → ∃ b, h.boxes[a]? = some b

/-- A reference that may be lent may be handed in. -/
theorem Lendable.safe {expected : Fault → Prop} {h : Heap} {r : Ref} (lendable : h.Lendable r) :
    h.Safe expected r := by
  intro a same _ missing
  obtain ⟨b, found⟩ := lendable a same
  cases missing.symm.trans found

/-- What is held may be lent. -/
theorem Balanced.lendable {h : Heap} {held : Holdings} (balanced : h.Balanced held) {r : Ref}
    (owned : held.Owns r) : h.Lendable r := by
  rintro a rfl
  rcases owned with null | holds
  · cases null
  · obtain ⟨_, b, same, found⟩ := balanced.present (r := some a) (by omega)
    cases same
    exact ⟨b, found⟩

end Heap

namespace Request

/-- The client uses up only references it holds, and lends only what is there. -/
def Permitted (h : Heap) (held : Holdings) : Request → Prop
  | box v => ∀ r, v.children.count r ≤ held r
  | boxRendering r | retain r => h.Lendable r
  | insert i => h.Lendable i.container ∧ held.Owns i.item
  | release r _ => held.Owns r
  | _ => True

/-- The references a request uses up if it succeeds. -/
def consumed : Request → List Ref
  | box v => v.children
  | insert i => [i.item]
  | release r _ => [r]
  | _ => []

/-- The references the client gets from a request that succeeds on this heap. -/
def gained (h : Heap) : Request → Reply → List Ref
  | box _, .ref r | boxChar _, .ref r | boxRendering _, .ref r | newTuple _, .ref r => [r]
  | retain r, _ => [r]
  | release r false, .bool true => h.children r
  | _, _ => []

/-- The holdings of the client afterwards. A request that fails changes nothing. -/
def settle (h : Heap) (held : Holdings) (q : Request) : Except Stop Reply → Holdings
  | .ok reply => (held.spend q.consumed).gain (q.gained h reply)
  | .error _ => held

end Request

namespace Insertion

/-- What passes the guard is not null, so whoever may hand it over holds it. -/
theorem item_held {h : Heap} {held : Holdings} {i : Insertion} {placement : Placement}
    (planned : i.plan h = .ok placement) (owned : held.Owns i.item) : 0 < held i.item := by
  obtain ⟨⟨_, viewed⟩, _⟩ := Heap.checkInsert_ok (plan_checked planned)
  obtain ⟨a, _, same, _⟩ := Heap.view_found viewed
  exact owned.resolve_left (by simp [same])

/-- If nothing speaks against it the item is stored, and what made room can be given back. -/
theorem run_stored {h : Heap} {held : Holdings} (balanced : h.Balanced held) {i : Insertion} {b : Located}
    {content : Value} {displaced : Option Ref} (planned : i.plan h = .ok (.store b content displaced))
    (owned : held.Owns i.item) :
    ∃ h', i.run.run h = (.ok i.stored, h') ∧ h'.Balanced (held.spend [i.item]) := by
  have stored := balanced.store (plan_store planned) (item_held planned owned)
  rw [run_eq, planned]
  cases displaced with
  | none => exact ⟨_, rfl, stored⟩
  | some previous =>
    obtain ⟨freed, h', released, after⟩ := stored.release (Holdings.holds_head _ previous []) true
    refine ⟨h', by rw [carryOut, Action.run_map, released]; rfl, ?_⟩
    have settled : ((held.spend [i.item]).gain [previous]).spend [previous] = held.spend [i.item] := by
      funext r
      simp only [Holdings.gain_apply, Holdings.spend_apply]
      omega
    simpa [settled] using after

/-- An insertion of a held item fails and changes nothing, or uses up the item. -/
theorem run_balanced {h : Heap} {held : Holdings} (balanced : h.Balanced held) {i : Insertion}
    (container : h.Lendable i.container) (owned : held.Owns i.item) :
    (∃ e, i.run.run h = (refuse e, h)) ∨
      ∃ x h', i.run.run h = (.ok x, h') ∧ h'.Balanced (held.spend [i.item]) := by
  have answers := plan_answers balanced.guarded container.safe (balanced.lendable owned).safe
  cases planned : i.plan h with
  | error stop =>
    rw [run_eq, planned]
    cases stop with
    | error e => exact Or.inl ⟨e, rfl⟩
    | fault f => exact absurd planned (answers f)
  | ok placement =>
    refine Or.inr ?_
    cases placement with
    | present =>
      obtain ⟨freed, h', released, after⟩ := balanced.release (item_held planned owned) true
      refine ⟨.bool false, h', by rw [run_eq, planned, carryOut, Action.run_map, released]; rfl, ?_⟩
      simpa using after
    | store b content displaced =>
      obtain ⟨h', ran, after⟩ := run_stored balanced planned owned
      exact ⟨i.stored, h', ran, after⟩

end Insertion

/-- The caller of a new tuple holds the tuple and nothing else that is new. -/
theorem Heap.Balanced.newTuple {h : Heap} {held : Holdings} (balanced : h.Balanced held) (n : Nat) :
    ∃ r h', (newTuple n).run h = (.ok r, h') ∧ h'.Balanced (held.gain [r]) := by
  let P : Heap → List Ref → Prop := fun h' slots => h'.Balanced (held.gain slots)
  have step : ∀ h' slots, P h' slots → P (h'.alloc .null).2 (slots ++ [some h'.next]) := by
    intro h' slots before
    have after := before.alloc (v := .null) (fun r => by simp [Value.children])
    have settled : (((held.gain slots).spend []).gain [some h'.next]) = held.gain (slots ++ [some h'.next]) := by
      funext r
      simp only [Holdings.gain_apply, Holdings.spend_nil, List.count_append]
      omega
    change Heap.Balanced _ (held.gain (slots ++ [some h'.next]))
    rw [← settled]
    exact after
  have begun : P h [] := balanced
  obtain ⟨slots, h', run, _, before⟩ := boxNulls_induction step n begun
  have after := Heap.Balanced.alloc (v := .tuple slots) before fun r => Nat.le_add_left _ _
  refine ⟨_, _, run_newTuple run, ?_⟩
  have settled : ((held.gain slots).spend slots).gain [some h'.next] = held.gain [some h'.next] := by
    funext r
    simp only [Holdings.gain_apply, Holdings.spend_apply]
    omega
  exact settled ▸ after

namespace Request

/-- A permitted request finishes, and the books are right again with what the client then holds. -/
theorem run_balanced {h : Heap} {held : Holdings} {q : Request} (balanced : h.Balanced held)
    (permitted : q.Permitted h held) : ∃ outcome h', q.run.run h = (outcome, h') ∧ Answers NoFault outcome ∧
      h'.Balanced (q.settle h held outcome) := by
  cases q with
  | box v => exact ⟨_, _, rfl, answers_ok _, balanced.alloc permitted⟩
  | boxChar code =>
    simp only [run, Action.run_map]
    rcases run_boxChar code h with ⟨e, ran⟩ | ⟨c, ran⟩
    · rw [ran]
      exact ⟨_, _, rfl, answers_refuse e, balanced⟩
    · rw [ran]
      exact ⟨_, _, rfl, answers_ok _, balanced.alloc (v := .char c) fun r => by simp [Value.children]⟩
  | boxRendering r =>
    have answers := balanced.guarded.renderTop_answers (r := r) (Heap.Lendable.safe permitted)
    simp only [run, Action.run_map, run_boxRendering]
    cases rendered : h.renderTop r with
    | error stop =>
      cases stop with
      | error e => exact ⟨_, _, rfl, answers_refuse e, balanced⟩
      | fault f => exact absurd rendered (answers f)
    | ok s => exact ⟨_, _, rfl, answers_ok _, balanced.alloc (v := .string _) fun r => by simp [Value.children]⟩
  | newTuple arity =>
    obtain ⟨r, h', made, after⟩ := balanced.newTuple arity
    simp only [run, Action.run_map, made]
    exact ⟨_, _, rfl, answers_ok _, after⟩
  | insert i =>
    rcases i.run_balanced balanced permitted.1 permitted.2 with ⟨e, ran⟩ | ⟨x, h', ran, after⟩
    · exact ⟨_, _, ran, answers_refuse e, balanced⟩
    · exact ⟨_, _, ran, answers_ok x, after⟩
  | retain r =>
    have answers : Answers NoFault (h.addReference r) :=
      Heap.Guarded.addReference_answers (Heap.Lendable.safe permitted)
    simp only [run, Action.run_map, run_retain]
    cases added : h.addReference r with
    | error stop =>
      cases stop with
      | error e => exact ⟨_, _, rfl, answers_refuse e, balanced⟩
      | fault f => exact absurd added (answers f)
    | ok h' => exact ⟨_, _, rfl, answers_ok _, balanced.retain added⟩
  | release r deep =>
    rcases permitted with rfl | holds
    · exact ⟨_, h, rfl, answers_refuse _, balanced⟩
    · obtain ⟨freed, h', released, after⟩ := balanced.release holds deep
      simp only [run, Action.run_map, released]
      refine ⟨_, _, rfl, answers_ok _, ?_⟩
      cases freed <;> cases deep <;> exact after

end Request

end CountedBox
