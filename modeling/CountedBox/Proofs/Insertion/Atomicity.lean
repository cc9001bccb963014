import CountedBox.Proofs.Insertion.Guard

namespace CountedBox

namespace Heap

/-- The reference is null, or the registry does not know it: never boxed here, or freed since. -/
def Dead (h : Heap) (r : Ref) : Prop := r = none ∨ h.isLive r = false

/-- With tracking on an address that is registered is not dead. -/
theorem Knows.alive {h : Heap} {a : Address} (known : h.Knows a) (tracking : h.tracking = true) :
    ¬ h.Dead (some a) := by
  rintro (null | dead)
  · cases null
  · have live : h.isLive (some a) = true := known tracking
    rw [live] at dead
    cases dead

theorem Viewable.alive {h : Heap} {r : Ref} (viewable : h.Viewable r) (tracking : h.tracking = true) :
    ¬ h.Dead r := by
  obtain ⟨v, viewed⟩ := viewable
  obtain ⟨a, b, rfl, known, _⟩ := view_found viewed
  exact known.alive tracking

/-- With tracking on, giving a reference back fails exactly for dead references. -/
theorem Coherent.dropReference_refused {h : Heap} (coherent : h.Coherent) (tracking : h.tracking = true)
    (r : Ref) (deep : Bool) :
    (h.Dead r ∧ ∃ e, h.dropReference r deep = refuse e) ∨
      (¬ h.Dead r ∧ ∃ h' freed, h.dropReference r deep = .ok (h', freed)) := by
  rcases coherent.dropReference_cases tracking r deep with ⟨e, lost, refused⟩ | ⟨h', freed, dropped⟩
  · refine Or.inl ⟨?_, e, refused⟩
    cases r with
    | none => exact Or.inl rfl
    | some a =>
      refine Or.inr (Bool.eq_false_iff.mpr fun live => ?_)
      have known : h.Knows a := fun _ => live
      obtain ⟨b, v, found, stores⟩ := coherent.found tracking known
      rw [locate_known known found stores.tagged] at lost
      cases lost
  · refine Or.inr ⟨?_, h', freed, dropped⟩
    obtain ⟨a, b, kind, rfl, known, _⟩ := Heap.dropReference_cases dropped
    exact known.alive tracking

/-- Where a box is found it is found in the name of any operation. -/
theorem locate_any {h : Heap} {r : Ref} {operation : String} {b : Located}
    (located : h.locate r operation = .ok b) (other : String) : h.locate r other = .ok b := by
  obtain ⟨rfl, found, tagged, known⟩ := locate_found located
  exact locate_known known found tagged

/-- What can be viewed as a tuple has those elements. -/
theorem elements_of_view {h : Heap} {r : Ref} {items : List Ref} (viewed : h.view r = .ok (.tuple items))
    (operation : String) : ∃ b, h.elements r .tuple operation = .ok (b, items) := by
  obtain ⟨b, located, read⟩ := view_read viewed
  refine ⟨b, ?_⟩
  cases kind : b.kind <;> cases payload : b.box.payload <;> rw [kind, payload] at read <;>
    simp only [Payload.read?, Option.some.injEq, Except.ok.injEq, reduceCtorEq, Value.tuple.injEq] at read
  case char.char => split at read <;> simp at read
  case tuple.items => simp [elements, locate_any located operation, kind, payload, read]

theorem fields_of_view {h : Heap} {r : Ref} {fields : Fields} (viewed : h.view r = .ok (.record fields))
    (operation : String) : ∃ b, h.fields r operation = .ok (b, fields) := by
  obtain ⟨b, located, read⟩ := view_read viewed
  refine ⟨b, ?_⟩
  cases kind : b.kind <;> cases payload : b.box.payload <;> rw [kind, payload] at read <;>
    simp only [Payload.read?, Option.some.injEq, Except.ok.injEq, reduceCtorEq, Value.record.injEq] at read
  case char.char => split at read <;> simp at read
  case record.fields => simp [Heap.fields, locate_any located operation, kind, payload, read]

end Heap

namespace Insertion

/-- What the insertion puts the item in place of: the occupant of the slot, or what the field is
bound to. -/
def Displaces (h : Heap) (previous : Ref) : Insertion → Prop
  | tupleSet tuple index _ => ∃ items, h.view tuple = .ok (.tuple items) ∧ items[index]? = some previous
  | recordPut record field _ => ∃ fields, h.view record = .ok (.record fields) ∧ fields[field]? = some previous
  | _ => False

/-- An accepted insertion displaces what it says. -/
theorem displaces_of_plan {h : Heap} {i : Insertion} {b : Located} {content : Value} {previous : Ref}
    (planned : i.plan h = .ok (.store b content (some previous))) : i.Displaces h previous := by
  obtain ⟨_, _, placed⟩ := ok_of_bind_ok planned
  cases i with
  | listAdd list item =>
    obtain ⟨found, _, chosen⟩ := ok_of_bind_ok placed
    cases chosen
  | setAdd set item =>
    obtain ⟨found, _, searched⟩ := ok_of_bind_ok placed
    obtain ⟨present, _, chosen⟩ := ok_of_bind_ok searched
    cases present <;> cases chosen
  | tupleSet tuple index item =>
    obtain ⟨⟨c, items⟩, given, chosen⟩ := ok_of_bind_ok placed
    obtain ⟨rfl, found, known, tagged, payload⟩ := Heap.elements_ok given
    dsimp only at chosen
    split at chosen
    · cases chosen
    · rename_i slot
      cases chosen
      exact ⟨items, Heap.view_stores known found (.of_tagged tagged payload), slot⟩
  | recordPut record field item =>
    obtain ⟨⟨c, fields⟩, given, chosen⟩ := ok_of_bind_ok placed
    obtain ⟨rfl, found, known, tagged, payload⟩ := Heap.fields_ok given
    simp only [pure, Except.pure, Except.ok.injEq, Placement.store.injEq] at chosen
    obtain ⟨rfl, _, bound⟩ := chosen
    exact ⟨fields, Heap.view_stores known found (.of_tagged tagged payload), bound⟩

/-- Where something is to be displaced, and no cycle would close, the insertion is accepted. -/
theorem plan_of_displaces {h : Heap} {i : Insertion} {previous : Ref}
    (checked : h.checkInsert i.container i.item i.operation = .ok ())
    (displaces : i.Displaces h previous) :
    ∃ b content, i.plan h = .ok (.store b content (some previous)) := by
  cases i with
  | listAdd list item => exact displaces.elim
  | setAdd set item => exact displaces.elim
  | tupleSet tuple index item =>
    obtain ⟨items, viewed, slot⟩ := displaces
    obtain ⟨b, given⟩ := Heap.elements_of_view viewed "wycc_tuple_set"
    exact ⟨b, _, by simp only [plan, checked, ok_bind, place, given, slot]; rfl⟩
  | recordPut record field item =>
    obtain ⟨fields, viewed, bound⟩ := displaces
    obtain ⟨b, given⟩ := Heap.fields_of_view viewed "wycc_record_put"
    exact ⟨b, _, by simp only [plan, checked, ok_bind, place, given, bound]; rfl⟩

/-- The guard lets the item pass, and it is put in place of a dead reference. -/
def OntoDead (h : Heap) (i : Insertion) : Prop :=
  h.checkInsert i.container i.item i.operation = .ok () ∧ ∃ previous, i.Displaces h previous ∧ h.Dead previous

/-- Putting an item in place of something else changes the heap. -/
theorem Accepted.store_ne {h : Heap} {i : Insertion} {b : Located} {content : Value} {previous : Ref}
    (accepted : i.Accepted h b content (some previous)) (other : previous ≠ i.item) :
    h.store b content.payload ≠ h := by
  intro same
  have stores : Box.Stores { b.box with payload := content.payload } content :=
    .of_tagged accepted.tagged rfl
  have after : (h.store b content.payload).children (some b.address) = content.children := by
    rw [Heap.store, Heap.children_write, if_pos rfl, stores.children]
  rw [same, Heap.children_found accepted.found] at after
  have exchanged := accepted.exchanged previous
  have none : [i.item].count previous = 0 := List.count_eq_zero.mpr (by simpa using other)
  rw [after, none] at exchanged
  simp at exchanged

/-- An insertion that fails has changed nothing, unless it puts its item in place of a dead reference. -/
theorem unchanged_of_error {h h' : Heap} {i : Insertion} {e : Error} (coherent : h.Coherent)
    (tracking : h.tracking = true) (run : i.run.run h = (.error (.error e), h'))
    (sound : ¬ i.OntoDead h) : h' = h := by
  rw [run_eq] at run
  cases planned : i.plan h with
  | error stop =>
    rw [planned] at run
    cases run
    rfl
  | ok placement =>
    rw [planned] at run
    have checked := plan_checked planned
    cases placement with
    | present => exact (Heap.release_refused (Action.run_error_of_map run)).1
    | store b content displaced =>
      cases displaced with
      | none => cases run
      | some previous =>
        -- The item is stored by now; what may still fail is to give back what it displaced.
        have alive : ¬ h.Dead previous := fun dead =>
          sound ⟨checked, previous, displaces_of_plan planned, dead⟩
        have after : (h.store b content.payload).Coherent := coherent.change (plan_store planned).change
        obtain ⟨_, refused⟩ := Heap.release_refused (Action.run_error_of_map run)
        rcases after.dropReference_refused tracking previous true with ⟨dead, _⟩ | ⟨_, _, _, dropped⟩
        · exact absurd dead alive
        · cases dropped.symm.trans refused

/-- Put in place of a dead reference, the item is stored, and then the insertion fails. -/
theorem run_ontoDead {h : Heap} {i : Insertion} (coherent : h.Coherent) (tracking : h.tracking = true)
    (onto : i.OntoDead h) : ∃ e b content previous, i.Accepted h b content (some previous) ∧
      h.Dead previous ∧ i.run.run h = (refuse e, h.store b content.payload) := by
  obtain ⟨checked, previous, displaces, dead⟩ := onto
  obtain ⟨b, content, planned⟩ := plan_of_displaces checked displaces
  have accepted := plan_store planned
  have after : (h.store b content.payload).Coherent := coherent.change accepted.change
  rcases after.dropReference_refused tracking previous true with ⟨_, e, refused⟩ | ⟨alive, _⟩
  · refine ⟨e, b, content, previous, accepted, dead, ?_⟩
    have released : (release previous true).run (h.store b content.payload) =
        (refuse e, h.store b content.payload) := by
      rw [run_release, refused]
    rw [run_eq, planned, carryOut, Action.run_map, released]
    rfl
  · exact absurd dead alive

end Insertion

/-- Insertion is atomic but for one defect. With tracking on, an insertion that fails leaves the whole
heap as it was, unless it puts its item in place of a dead reference: then the item is stored, and
the failure to give back the dead reference is returned. A reference stays dead, as the address of a freed
box is not given out again. -/
theorem TrackedRun.insertion_atomic_or_onto_dead {s : Session} (run : TrackedRun s) (i : Insertion) :
    (¬ i.OntoDead s.heap → ∀ e s', i.call.perform.run.run s = .ok (.error e, s') → s'.heap = s.heap) ∧
      (i.OntoDead s.heap →
        ∃ e s', i.call.perform.run.run s = .ok (.error e, s') ∧ s'.heap ≠ s.heap) := by
  have journal := run.journal
  rw [Insertion.run_call]
  constructor
  · intro sound e s' failed
    obtain ⟨refused, rfl⟩ := Session.conclude_eq_error.mp failed
    have inserted : i.run.run s.heap = (refuse e, (i.run.run s.heap).2) := Prod.ext refused rfl
    have same := Insertion.unchanged_of_error run.coherent run.tracking inserted sound
    rw [same, Session.adopt_heap, ← journal]
  · intro onto
    obtain ⟨e, b, content, previous, accepted, dead, inserted⟩ :=
      Insertion.run_ontoDead run.coherent run.tracking onto
    have alive := (Heap.checkInsert_ok accepted.checked).1.alive run.tracking
    have other : previous ≠ i.item := by
      rintro rfl
      exact alive dead
    rw [inserted]
    refine ⟨e, s.adopt (s.heap.store b content.payload), rfl, ?_⟩
    rw [Session.adopt_heap]
    intro same
    refine accepted.store_ne other ?_
    calc s.heap.store b content.payload
        = { s.heap.store b content.payload with journal := [] } := by rw [← journal]; rfl
      _ = s.heap := same

/-- A session in which the null that fills a slot of a tuple was given back by somebody who had only
borrowed it. -/
def staleSlot : Session :=
  let tuple := ((({ tracking := true } : Heap).alloc .null).2.alloc (.tuple [some 4096])).2
  { heap := { ((tuple.remove 4096 .null false).alloc (.int 2)).2 with journal := [] } }

theorem staleSlot_run : TrackedRun staleSlot := by
  let tuple := ((({ tracking := true } : Heap).alloc .null).2.alloc (.tuple [some 4096])).2
  have made : TrackedRun { heap := { tuple with journal := [] } } :=
    .operate (.call (.newTuple 1)) (.start (s := .initial true) rfl) (by simp [Operation.Steady])
      (by rintro q ⟨⟩; trivial) rfl
  have freed : TrackedRun { heap := { tuple.remove 4096 .null false with journal := [] } } :=
    .operate (.call (.release (some 4096) false)) made (by simp [Operation.Steady])
      (by rintro q ⟨⟩; trivial) rfl
  exact .operate (.call (.box (.int 2))) freed (by simp [Operation.Steady])
    (by rintro q ⟨⟩ a member; cases member) rfl

/-- Filling the slot fails, and yet the tuple has changed. -/
theorem not_atomic_staleSlot : ∃ e s', (Call.tupleSet (some 4097) 0 (some 4098)).perform.run.run staleSlot =
    .ok (.error e, s') ∧ s'.heap ≠ staleSlot.heap := by
  have viewed : staleSlot.heap.view (some 4098) = .ok (.int 2) := rfl
  have apart : staleSlot.heap.reaches (some 4098) (some 4097) = .ok false := by
    rw [Heap.reaches, Heap.search, viewed]
    simp [Heap.search, Value.children]
  have checked : staleSlot.heap.checkInsert (some 4097) (some 4098) "wycc_tuple_set" = .ok () := by
    simp [Heap.checkInsert, viewed, apart]
  have displaces : (Insertion.tupleSet (some 4097) 0 (some 4098)).Displaces staleSlot.heap (some 4096) :=
    ⟨[some 4096], rfl, rfl⟩
  have dead : staleSlot.heap.Dead (some 4096) := Or.inr rfl
  exact (TrackedRun.insertion_atomic_or_onto_dead staleSlot_run
    (.tupleSet (some 4097) 0 (some 4098))).2 ⟨checked, some 4096, displaces, dead⟩

end CountedBox
