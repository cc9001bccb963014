import CountedBox.Entry
import CountedBox.Proofs.Insertion.Plan

namespace CountedBox

/-- What can be asked of the heap that may change it. -/
inductive Request where
  /-- Box one level of a value; its elements are taken over. -/
  | box (v : Value)
  | boxChar (code : UInt32)
  | boxRendering (r : Ref)
  | newTuple (arity : Nat)
  | insert (i : Insertion)
  | retain (r : Ref)
  | release (r : Ref) (deep : Bool)

namespace Request

def run : Request → Action Reply
  | box v => .ref <$> CountedBox.box v
  | boxChar code => .ref <$> CountedBox.boxChar code
  | boxRendering r => .ref <$> CountedBox.boxRendering r
  | newTuple arity => .ref <$> CountedBox.newTuple arity
  | insert i => i.run
  | retain r => (fun _ => .done) <$> CountedBox.retain r
  | release r deep => .bool <$> CountedBox.release r deep

/-- A container is boxed only over addresses that have been given out. -/
def Existing (h : Heap) : Request → Prop
  | box v => ∀ a, some a ∈ v.children → a < h.next
  | _ => True

end Request

/-- A property of the heap and the references boxed so far that survives boxing one more null holds
after boxing any number of them. -/
theorem boxNulls_induction {P : Heap → List Ref → Prop}
    (step : ∀ h slots, P h slots → P (h.alloc .null).2 (slots ++ [some h.next])) (n : Nat) {h : Heap}
    {front : List Ref} (begun : P h front) :
    ∃ slots h', ((List.replicate n Value.null).mapM box).run h = (.ok slots, h') ∧ slots.length = n ∧
      P h' (front ++ slots) := by
  induction n generalizing h front with
  | zero => exact ⟨[], h, rfl, rfl, by simpa using begun⟩
  | succ n ih =>
    obtain ⟨slots, h', run, length, held⟩ := ih (step h front begun)
    refine ⟨some h.next :: slots, h', ?_, congrArg Nat.succ length, by simpa using held⟩
    rw [List.replicate_succ, List.mapM_cons, Action.run_bind, run_box]
    simp only [Action.run_bind, run, Action.run_pure]

/-- Boxing a character refuses a number that stands for none, or makes one box. -/
theorem run_boxChar (code : UInt32) (h : Heap) :
    (∃ e, (boxChar code).run h = (.error (.error e), h)) ∨
      ∃ c, (boxChar code).run h = (.ok (some h.next), (h.alloc (.char c)).2) := by
  unfold boxChar
  split
  · exact Or.inr ⟨_, rfl⟩
  · exact Or.inl ⟨_, rfl⟩

theorem run_newTuple {n : Nat} {h h' : Heap} {slots : List Ref}
    (run : ((List.replicate n Value.null).mapM box).run h = (.ok slots, h')) :
    (newTuple n).run h = (.ok (some h'.next), (h'.alloc (.tuple slots)).2) := by
  simp only [newTuple, Action.run_bind, run, run_box]

theorem run_boxRendering (r : Ref) (h : Heap) :
    (boxRendering r).run h = match h.renderTop r with
      | .error stop => (.error stop, h)
      | .ok s => (.ok (some h.next), (h.alloc (.string (Text.untilZero (Text.utf8 s)))).2) := by
  simp only [boxRendering, boxText, Action.run_bind, Action.run_ask]
  cases h.renderTop r <;> rfl

/-- Boxing a character changes nothing or adds a box without elements. -/
theorem boxChar_heap (code : UInt32) (h : Heap) :
    ((boxChar code).run h).2 = h ∨ ∃ v : Value, v.children = [] ∧ ((boxChar code).run h).2 = (h.alloc v).2 := by
  rcases run_boxChar code h with ⟨e, ran⟩ | ⟨c, ran⟩
  · exact Or.inl (congrArg Prod.snd ran)
  · exact Or.inr ⟨.char c, rfl, congrArg Prod.snd ran⟩

/-- Boxing the text of a value makes a box without elements, or leaves the heap as it is. -/
theorem boxRendering_heap (r : Ref) (h : Heap) :
    ((boxRendering r).run h).2 = h ∨
      ∃ v : Value, v.children = [] ∧ ((boxRendering r).run h).2 = (h.alloc v).2 := by
  rw [run_boxRendering]
  cases h.renderTop r with
  | error stop => exact Or.inl rfl
  | ok s => exact Or.inr ⟨.string _, rfl, rfl⟩

namespace Heap

/-- A new tuple is made box by box. -/
theorem newTuple_changes (h : Heap) (n : Nat) :
    ∃ r h', (newTuple n).run h = (.ok r, h') ∧ h.Changes h' := by
  let P : Heap → List Ref → Prop := fun h' slots => h.Changes h' ∧ ∀ a, some a ∈ slots → a < h'.next
  have step : ∀ h' slots, P h' slots → P (h'.alloc .null).2 (slots ++ [some h'.next]) := by
    rintro h' slots ⟨changes, exist⟩
    refine ⟨changes.tail (.box .null (by simp [Value.children])), fun a member => ?_⟩
    rcases List.mem_append.mp member with old | new
    · exact Nat.lt_succ_of_lt (exist a old)
    · simp only [List.mem_singleton, Option.some.injEq] at new
      exact new ▸ Nat.lt_succ_self _
  have begun : P h [] := ⟨.refl, by simp⟩
  obtain ⟨slots, h', run, _, changes, exist⟩ := boxNulls_induction step n begun
  exact ⟨_, _, run_newTuple run, changes.tail (.box (.tuple slots) exist)⟩

end Heap

namespace Request

/-- Any request is a sequence of single changes, if what it is given exists. -/
theorem run_changes {q : Request} {h h' : Heap} {outcome : Except Stop Reply} (existing : q.Existing h)
    (run : q.run.run h = (outcome, h')) : h.Changes h' := by
  cases q with
  | box v =>
    cases run
    exact .single (.box v existing)
  | boxChar code =>
    simp only [Request.run, Action.run_map] at run
    cases run
    rcases boxChar_heap code h with same | ⟨v, none, boxed⟩
    · rw [same]
    · rw [boxed]
      exact .single (.box v (by simp [none]))
  | boxRendering r =>
    simp only [Request.run, Action.run_map] at run
    cases run
    rcases boxRendering_heap r h with same | ⟨v, none, boxed⟩
    · rw [same]
    · rw [boxed]
      exact .single (.box v (by simp [none]))
  | newTuple arity =>
    obtain ⟨r, next, made, changes⟩ := h.newTuple_changes arity
    simp only [Request.run, Action.run_map, made] at run
    cases run
    exact changes
  | insert i => exact Insertion.run_changes run
  | retain r =>
    simp only [Request.run, Action.run_map] at run
    cases run
    exact Heap.retain_changes rfl
  | release r deep =>
    simp only [Request.run, Action.run_map] at run
    cases run
    exact Heap.release_changes rfl

end Request

end CountedBox
