import CountedBox.Proofs.Ownership.Client

namespace CountedBox

/-! What a caller sees of boxing: where the new box is. -/

namespace Request

/-- What boxes something on behalf of a request. -/
def boxing? : Request → Option (Action Ref)
  | box v => some (CountedBox.box v)
  | boxChar code => some (CountedBox.boxChar code)
  | boxRendering r => some (CountedBox.boxRendering r)
  | newTuple arity => some (CountedBox.newTuple arity)
  | _ => none

theorem run_boxing {q : Request} {act : Action Ref} (boxes : q.boxing? = some act) : q.run = .ref <$> act := by
  cases q <;> cases boxes <;> rfl

end Request

/-- An entry that boxes returns the reference to the new box. -/
theorem Entry.perform_boxing {e : Entry} {q : Request} {act : Action Ref} (asked : e.request? = some q)
    (boxes : q.boxing? = some act) : e.perform = reference (onHeap act) := by
  cases e <;> simp only [Entry.request?, Option.some.injEq, reduceCtorEq] at asked
  case boxStr text =>
    obtain ⟨bytes, rfl, rfl⟩ := Option.map_eq_some_iff.mp asked
    cases boxes
    rfl
  case recordPut record field item =>
    obtain ⟨bytes, rfl, rfl⟩ := Option.map_eq_some_iff.mp asked
    cases boxes
  all_goals
    cases asked
    cases boxes
  all_goals rfl

/-- An operation that boxes something answers with the reference of the new box. -/
theorem Operation.perform_boxing {op : Operation} {q : Request} {act : Action Ref} {s s' : Session}
    {answer : Except Error Reply} {r : Ref} {h : Heap} (asked : op.request? = some q)
    (boxes : q.boxing? = some act) (ran : act.run s.heap = (.ok r, h)) (done : op.perform.run s = .ok (answer, s')) :
    answer = .ok (.ref r) ∧ s'.heap = { h with journal := [] } := by
  have outcome : q.run.run s.heap = (.ok (.ref r), h) := by rw [Request.run_boxing boxes, Action.run_map, ran]; rfl
  refine ⟨?_, perform_heap asked outcome done⟩
  cases op with
  | call c =>
    have ended := (Call.run_request asked s).symm.trans done
    rw [outcome] at ended
    cases ended
    rfl
  | entry e =>
    change (Except.ok <$> e.perform : Step _).run s = _ at done
    rw [Entry.perform_boxing asked boxes, Entry.reference, StateT.run_map, run_settle_onHeap, ran] at done
    cases done
    rfl

/-- A new tuple is boxed over as many nulls, which are new as well. -/
theorem newTuple_slots (n : Nat) (h : Heap) :
    ∃ (slots : List Ref) (h' : Heap), (newTuple n).run h = (.ok (some h'.next), (h'.alloc (.tuple slots)).2) ∧
      slots.length = n ∧ h.next ≤ h'.next ∧ ∀ x ∈ slots, ∃ c, x = some c ∧ h.next ≤ c ∧ c < h'.next ∧
        ∃ b, h'.boxes[c]? = some b ∧ b.Stores .null := by
  let P : Heap → List Ref → Prop := fun h' slots => h.next ≤ h'.next ∧
    ∀ x ∈ slots, ∃ c, x = some c ∧ h.next ≤ c ∧ c < h'.next ∧ ∃ b, h'.boxes[c]? = some b ∧ b.Stores .null
  have step : ∀ h' slots, P h' slots → P (h'.alloc .null).2 (slots ++ [some h'.next]) := by
    rintro h' slots ⟨later, nulls⟩
    refine ⟨Nat.le_succ_of_le later, fun x member => ?_⟩
    rcases List.mem_append.mp member with old | new
    · obtain ⟨c, rfl, low, high, b, found, stores⟩ := nulls x old
      refine ⟨c, rfl, low, Nat.lt_succ_of_lt high, b, ?_, stores⟩
      rw [Heap.getElem?_alloc, if_neg (Nat.ne_of_gt high)]
      exact found
    · cases List.mem_singleton.mp new
      refine ⟨h'.next, rfl, later, Nat.lt_succ_self _, ⟨Value.null.kind.tag, 1, Value.null.payload⟩, ?_, rfl, rfl⟩
      rw [Heap.getElem?_alloc, if_pos rfl]
  have begun : P h [] := ⟨Nat.le_refl _, by simp⟩
  obtain ⟨slots, h', run, length, later, nulls⟩ := boxNulls_induction step n begun
  exact ⟨slots, h', run_newTuple run, length, later, nulls⟩

namespace Operation

variable {op : Operation} {s s' : Session} {held : Holdings} {answer : Except Error Reply}

/-- Afterwards the new box is read as the value that was put into it. -/
theorem perform_box {v : Value} (balanced : s'.heap.Balanced held) (asked : op.request? = some (.box v))
    (done : op.perform.run s = .ok (answer, s')) :
    ∃ a, answer = .ok (.ref (some a)) ∧ s.heap.next ≤ a ∧ s'.heap.view (some a) = .ok v := by
  obtain ⟨answered, heap⟩ := perform_boxing asked rfl (run_box v s.heap) done
  refine ⟨s.heap.next, answered, Nat.le_refl _, ?_⟩
  have found : s'.heap.boxes[s.heap.next]? = some ⟨v.kind.tag, 1, v.payload⟩ := by
    rw [heap]
    exact (s.heap.getElem?_alloc v s.heap.next).trans (if_pos rfl)
  exact Heap.view_stores (balanced.known found) found ⟨rfl, rfl⟩

/-- Each place of a new tuple refers to a new box of null. -/
theorem perform_newTuple {n : Nat} (balanced : s'.heap.Balanced held) (asked : op.request? = some (.newTuple n))
    (done : op.perform.run s = .ok (answer, s')) :
    ∃ a slots, answer = .ok (.ref (some a)) ∧ s.heap.next ≤ a ∧ s'.heap.view (some a) = .ok (.tuple slots) ∧
      slots.length = n ∧ ∀ x ∈ slots, ∃ c, x = some c ∧ s.heap.next ≤ c ∧ s'.heap.view (some c) = .ok .null := by
  obtain ⟨slots, h, ran, length, later, nulls⟩ := newTuple_slots n s.heap
  obtain ⟨answered, heap⟩ := perform_boxing asked rfl ran done
  have boxes : ∀ c : Address, s'.heap.boxes[c]? = if h.next = c then some ⟨Kind.tuple.tag, 1, .items slots⟩
      else h.boxes[c]? := by
    intro c
    rw [heap]
    exact h.getElem?_alloc (.tuple slots) c
  have view : ∀ {c : Address} {b : Box} {v : Value}, s'.heap.boxes[c]? = some b → b.Stores v →
      s'.heap.view (some c) = .ok v := fun found stores => Heap.view_stores (balanced.known found) found stores
  refine ⟨h.next, slots, answered, later, view ((boxes _).trans (if_pos rfl)) ⟨rfl, rfl⟩, length, fun x member => ?_⟩
  obtain ⟨c, same, low, high, b, found, stores⟩ := nulls x member
  exact ⟨c, same, low, view ((boxes c).trans ((if_neg (Nat.ne_of_gt high)).trans found)) stores⟩

end Operation

end CountedBox
