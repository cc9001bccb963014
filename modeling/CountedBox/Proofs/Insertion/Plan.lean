import CountedBox.Call
import CountedBox.Proofs.Heap.Answers

namespace CountedBox

/-- The four ways to hand an item over to a container. -/
inductive Insertion where
  | listAdd (list item : Ref)
  | setAdd (set item : Ref)
  | tupleSet (tuple : Ref) (index : Nat) (item : Ref)
  | recordPut (record : Ref) (field : String) (item : Ref)

/-- What an insertion comes down to once nothing speaks against it. -/
inductive Placement where
  /-- The set has an equal element already. -/
  | present
  /-- The container gets this content. The element that made room is given back. -/
  | store (b : Located) (content : Value) (displaced : Option Ref)

namespace Insertion

def container : Insertion → Ref
  | listAdd c _ | setAdd c _ | tupleSet c _ _ | recordPut c _ _ => c

def item : Insertion → Ref
  | listAdd _ x | setAdd _ x | tupleSet _ _ x | recordPut _ _ x => x

def operation : Insertion → String
  | listAdd _ _ => "wycc_list_add"
  | setAdd _ _ => "wycc_set_add"
  | tupleSet _ _ _ => "wycc_tuple_set"
  | recordPut _ _ _ => "wycc_record_put"

def run : Insertion → Action Reply
  | listAdd list item => (fun _ => .done) <$> CountedBox.listAdd list item
  | setAdd set item => .bool <$> CountedBox.setAdd set item
  | tupleSet tuple index item => (fun _ => .done) <$> CountedBox.tupleSet tuple index item
  | recordPut record field item => (fun _ => .done) <$> CountedBox.recordPut record field item

/-- The answer when the item was stored. -/
def stored : Insertion → Reply
  | setAdd _ _ => .bool true
  | _ => .done

/-- Where the item goes, asked of the heap after the guard has passed. -/
def place (h : Heap) : Insertion → Except Stop Placement
  | listAdd list item => do
    let (b, items) ← h.elements list .list "wycc_list_add"
    return .store b (.list (items ++ [item])) none
  | setAdd set item => do
    let (b, items) ← h.elements set .set "wycc_set_add"
    if ← h.contains items item then return .present
    else return .store b (.set (items ++ [item])) none
  | tupleSet tuple index item => do
    let (b, items) ← h.elements tuple .tuple "wycc_tuple_set"
    match items[index]? with
    | none => refuse (.indexOutOfBounds index items.length)
    | some previous => return .store b (.tuple (items.set index item)) (some previous)
  | recordPut record field item => do
    let (b, fields) ← h.fields record "wycc_record_put"
    return .store b (.record (fields.insert field item)) fields[field]?

/-- All that an insertion asks before it changes anything. -/
def plan (i : Insertion) (h : Heap) : Except Stop Placement := do
  h.checkInsert i.container i.item i.operation
  i.place h

/-- What an insertion does with its plan. -/
def carryOut (i : Insertion) (h : Heap) : Except Stop Placement → Except Stop Reply × Heap
  | .error stop => (.error stop, h)
  | .ok .present => ((fun _ => .bool false) <$> release i.item true).run h
  | .ok (.store b content none) => (.ok i.stored, h.store b content.payload)
  | .ok (.store b content (some previous)) =>
    ((fun _ => i.stored) <$> release previous true).run (h.store b content.payload)

/-- An insertion asks all it has to ask, and only then changes the heap. -/
theorem run_eq (i : Insertion) (h : Heap) : i.run.run h = i.carryOut h (i.plan h) := by
  cases i with
  | listAdd list item =>
    simp only [run, Action.run_map, CountedBox.listAdd, Action.run_bind, Action.run_ask, plan, place,
      container, Insertion.item, operation]
    cases h.checkInsert list item "wycc_list_add" with
    | error stop => rfl
    | ok _ =>
      simp only [ok_bind]
      cases h.elements list .list "wycc_list_add" <;> rfl
  | setAdd set item =>
    simp only [run, Action.run_map, CountedBox.setAdd, Action.run_bind, Action.run_ask, plan, place,
      container, Insertion.item, operation]
    cases h.checkInsert set item "wycc_set_add" with
    | error stop => rfl
    | ok _ =>
      simp only [ok_bind]
      cases h.elements set .set "wycc_set_add" with
      | error stop => rfl
      | ok found =>
        obtain ⟨b, items⟩ := found
        simp only [ok_bind]
        cases h.contains items item with
        | error stop => rfl
        | ok present =>
          cases present with
          | false => rfl
          | true =>
            simp only [if_true, Action.run_bind, carryOut, ok_bind, pure, Except.pure, Insertion.item,
              Action.run_map]
            cases (release item true).run h with
            | mk outcome h' => cases outcome <;> rfl
  | tupleSet tuple index item =>
    simp only [run, Action.run_map, CountedBox.tupleSet, Action.run_bind, Action.run_ask, plan, place,
      container, Insertion.item, operation]
    cases h.checkInsert tuple item "wycc_tuple_set" with
    | error stop => rfl
    | ok _ =>
      simp only [ok_bind]
      cases h.elements tuple .tuple "wycc_tuple_set" with
      | error stop => rfl
      | ok found =>
        obtain ⟨b, items⟩ := found
        simp only [ok_bind]
        cases items[index]? with
        | none => rfl
        | some previous =>
          simp only [Action.run_bind, Action.run_store, carryOut, pure, Except.pure, Value.payload,
            Action.run_map]
          cases (release previous true).run (h.store b (.items (items.set index item))) with
          | mk outcome h' => cases outcome <;> rfl
  | recordPut record field item =>
    simp only [run, Action.run_map, CountedBox.recordPut, Action.run_bind, Action.run_ask, plan, place,
      container, Insertion.item, operation]
    cases h.checkInsert record item "wycc_record_put" with
    | error stop => rfl
    | ok _ =>
      simp only [ok_bind]
      cases h.fields record "wycc_record_put" with
      | error stop => rfl
      | ok found =>
        obtain ⟨b, fields⟩ := found
        simp only [ok_bind, Action.run_store]
        cases fields[field]? with
        | none => rfl
        | some previous =>
          simp only [Action.run_bind, carryOut, pure, Except.pure, Value.payload, Action.run_map]
          cases (release previous true).run (h.store b (.fields (fields.insert field item))) with
          | mk outcome h' => cases outcome <;> rfl

end Insertion

namespace Heap

/-- All that is known of a sequence whose items are given. -/
theorem elements_ok {h : Heap} {r : Ref} {kind : Kind} {operation : String} {b : Located}
    {items : List Ref} (given : h.elements r kind operation = .ok (b, items)) :
    r = some b.address ∧ h.boxes[b.address]? = some b.box ∧ h.Knows b.address ∧
      Kind.ofTag? b.box.tag = some kind ∧ b.box.payload = .items items := by
  obtain ⟨c, located, given⟩ := ok_of_bind_ok given
  obtain ⟨same, found, tagged, known⟩ := locate_found located
  split at given
  · rename_i expected
    split at given
    · rename_i xs payload
      cases given
      exact ⟨same, found, known, expected ▸ tagged, payload⟩
    · simp [breakOff] at given
  · simp [refuse] at given

/-- All that is known of a record whose fields are given. -/
theorem fields_ok {h : Heap} {r : Ref} {operation : String} {b : Located} {fields : Fields}
    (given : h.fields r operation = .ok (b, fields)) :
    r = some b.address ∧ h.boxes[b.address]? = some b.box ∧ h.Knows b.address ∧
      Kind.ofTag? b.box.tag = some .record ∧ b.box.payload = .fields fields := by
  obtain ⟨c, located, given⟩ := ok_of_bind_ok given
  obtain ⟨same, found, tagged, known⟩ := locate_found located
  split at given
  · rename_i expected
    split at given
    · rename_i fs payload
      cases given
      exact ⟨same, found, known, expected ▸ tagged, payload⟩
    · simp [breakOff] at given
  · simp [refuse] at given

end Heap

/-- Putting an item into a slot exchanges it for the one that was there. -/
theorem count_set_slot {items : List Ref} {index : Nat} {previous item : Ref}
    (slot : items[index]? = some previous) (r : Ref) :
    (items.set index item).count r + [previous].count r = items.count r + [item].count r := by
  induction items generalizing index with
  | nil => simp at slot
  | cons head tail ih =>
    cases index with
    | zero =>
      cases slot
      simp only [List.set_cons_zero, List.count_cons, List.count_nil]
      omega
    | succ index =>
      have rest := ih (by simpa using slot)
      simp only [List.set_cons_succ, List.count_cons] at rest ⊢
      omega

/-- Binding a field exchanges the item for the one the field was bound to, if any. -/
theorem count_values_insert (fields : Fields) (field : String) (item r : Ref) :
    (fields.insert field item).values.count r + (fields[field]?).toList.count r =
      fields.values.count r + [item].count r := by
  simp only [count_values]
  cases bound : fields[field]? with
  | none =>
    rw [totalWeight_insert_absent bound]
    simp [Nat.add_comm]
  | some previous =>
    have exchanged := totalWeight_insert_present (fun s => [s].count r) (v := item) bound
    simp only [Option.toList_some]
    omega

namespace Insertion

/-- What is known of an insertion that may store: where the container is, what it will hold, and
that its elements change by the item and by the one that makes room. -/
structure Accepted (h : Heap) (i : Insertion) (b : Located) (content : Value)
    (displaced : Option Ref) : Prop where
  checked : h.checkInsert i.container i.item i.operation = .ok ()
  container : i.container = some b.address
  found : h.boxes[b.address]? = some b.box
  known : h.Knows b.address
  tagged : Kind.ofTag? b.box.tag = some content.kind
  exchanged : ∀ r, content.children.count r + displaced.toList.count r =
    b.box.children.count r + [i.item].count r

/-- An insertion that is to store something has been accepted. -/
theorem plan_store {h : Heap} {i : Insertion} {b : Located} {content : Value} {displaced : Option Ref}
    (planned : i.plan h = .ok (.store b content displaced)) : i.Accepted h b content displaced := by
  obtain ⟨_, checked, planned⟩ := ok_of_bind_ok planned
  cases i with
  | listAdd list item =>
    obtain ⟨⟨c, items⟩, given, planned⟩ := ok_of_bind_ok planned
    cases planned
    obtain ⟨same, found, known, tagged, payload⟩ := Heap.elements_ok given
    refine ⟨checked, same, found, known, tagged, fun r => ?_⟩
    rw [Box.children_of_kind tagged, payload]
    simp [Value.children, Payload.elements, Insertion.item]
  | setAdd set item =>
    obtain ⟨⟨c, items⟩, given, planned⟩ := ok_of_bind_ok planned
    obtain ⟨present, _, planned⟩ := ok_of_bind_ok planned
    cases present with
    | true => cases planned
    | false =>
      cases planned
      obtain ⟨same, found, known, tagged, payload⟩ := Heap.elements_ok given
      refine ⟨checked, same, found, known, tagged, fun r => ?_⟩
      rw [Box.children_of_kind tagged, payload]
      simp [Value.children, Payload.elements, Insertion.item]
  | tupleSet tuple index item =>
    obtain ⟨⟨c, items⟩, given, planned⟩ := ok_of_bind_ok planned
    obtain ⟨same, found, known, tagged, payload⟩ := Heap.elements_ok given
    dsimp only at planned
    split at planned
    · simp [refuse] at planned
    · rename_i previous slot
      cases planned
      refine ⟨checked, same, found, known, tagged, fun r => ?_⟩
      rw [Box.children_of_kind tagged, payload]
      exact count_set_slot slot r
  | recordPut record field item =>
    obtain ⟨⟨c, fields⟩, given, planned⟩ := ok_of_bind_ok planned
    cases planned
    obtain ⟨same, found, known, tagged, payload⟩ := Heap.fields_ok given
    refine ⟨checked, same, found, known, tagged, fun r => ?_⟩
    rw [Box.children_of_kind tagged, payload]
    exact count_values_insert fields field item r

/-- Nothing is planned before the check against cycles is passed. -/
theorem plan_checked {h : Heap} {i : Insertion} {placement : Placement}
    (planned : i.plan h = .ok placement) :
    h.checkInsert i.container i.item i.operation = .ok () := by
  obtain ⟨_, checked, _⟩ := ok_of_bind_ok planned
  exact checked

theorem place_answers {expected : Fault → Prop} {h : Heap} (guarded : h.Guarded expected) {i : Insertion}
    (container : h.Safe expected i.container) (item : h.Safe expected i.item) : Answers expected (i.place h) := by
  cases i with
  | listAdd list item =>
    exact answers_bind (guarded.elements_answers container (Or.inl rfl) _) fun _ _ => answers_ok _
  | setAdd set x =>
    refine answers_bind (guarded.elements_answers container (Or.inr (Or.inl rfl)) _) fun found given => ?_
    obtain ⟨b, items⟩ := found
    obtain ⟨_, atSet, _, tagged, payload⟩ := Heap.elements_ok given
    have safe : ∀ y ∈ items, h.Safe expected y := by
      intro y member
      have inside : y ∈ b.box.children := by
        rw [Box.children_of_kind tagged, payload]
        exact member
      exact guarded.elements (Heap.edge_iff.mpr ⟨_, _, rfl, atSet, inside⟩)
    refine answers_bind (guarded.contains_answers safe item) fun present _ => ?_
    cases present <;> exact answers_ok _
  | tupleSet tuple index x =>
    refine answers_bind (guarded.elements_answers container (Or.inr (Or.inr rfl)) _) fun found _ => ?_
    obtain ⟨b, items⟩ := found
    dsimp only
    split
    · exact answers_refuse _
    · exact answers_ok _
  | recordPut record field x =>
    exact answers_bind (guarded.fields_answers container _) fun _ _ => answers_ok _

theorem plan_answers {expected : Fault → Prop} {h : Heap} (guarded : h.Guarded expected) {i : Insertion}
    (container : h.Safe expected i.container) (item : h.Safe expected i.item) : Answers expected (i.plan h) :=
  answers_bind (guarded.checkInsert_answers item _ _) fun _ _ => place_answers guarded container item

namespace Accepted

variable {h : Heap} {i : Insertion} {b : Located} {content : Value} {displaced : Option Ref}

/-- What a container holds afterwards it held before, or it is the item. -/
theorem member (accepted : i.Accepted h b content displaced) {s : Ref} (new : s ∈ content.children) :
    s ∈ b.box.children ∨ s = i.item := by
  have exchanged := accepted.exchanged s
  have positive := List.count_pos_iff.mpr new
  by_cases same : s = i.item
  · exact Or.inr same
  · have none : [i.item].count s = 0 := List.count_eq_zero.mpr (by simpa using same)
    exact Or.inl (List.count_pos_iff.mp (by omega))

/-- An accepted insertion is one of the changes a heap goes through. -/
theorem change (accepted : i.Accepted h b content displaced) : h.Change (h.store b content.payload) := by
  obtain ⟨viewable, apart⟩ := Heap.checkInsert_ok accepted.checked
  refine .store accepted.found accepted.known accepted.tagged (fun s => accepted.member) viewable ?_
  intro path
  exact (apart _ path).1 accepted.container.symm

end Accepted

/-- An insertion is a sequence of such changes, whether it succeeds or not. -/
theorem run_changes {h h' : Heap} {i : Insertion} {outcome : Except Stop Reply}
    (run : i.run.run h = (outcome, h')) : h.Changes h' := by
  rw [run_eq] at run
  cases planned : i.plan h with
  | error stop =>
    rw [planned] at run
    cases run
    exact .refl
  | ok placement =>
    rw [planned] at run
    cases placement with
    | present =>
      rw [carryOut, Action.run_map] at run
      cases run
      exact Heap.release_changes rfl
    | store b content displaced =>
      have stored := (plan_store planned).change
      cases displaced with
      | none =>
        cases run
        exact .single stored
      | some previous =>
        rw [carryOut, Action.run_map] at run
        cases run
        exact .head stored (Heap.release_changes rfl)

end Insertion

end CountedBox
