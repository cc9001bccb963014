import CountedBox.Proofs.Insertion.Plan
import CountedBox.Proofs.Heap.Depth
import CountedBox.Proofs.Operation.Tracked

namespace CountedBox

namespace Heap

/-- Reading the items of a container never complains of a cycle. -/
theorem elements_ne_cyclic {h : Heap} {r : Ref} {kind : Kind} {operation : String} {stop : Stop}
    (failed : h.elements r kind operation = .error stop) (a : Address) :
    stop ≠ .error (.cyclicReference a) := by
  rintro rfl
  rcases error_of_bind_error failed with lost | ⟨b, _, failed⟩
  · exact locate_ne_cyclic lost a rfl
  · split at failed
    · split at failed <;> simp [breakOff] at failed
    · simp [refuse] at failed

theorem fields_ne_cyclic {h : Heap} {r : Ref} {operation : String} {stop : Stop}
    (failed : h.fields r operation = .error stop) (a : Address) :
    stop ≠ .error (.cyclicReference a) := by
  rintro rfl
  rcases error_of_bind_error failed with lost | ⟨b, _, failed⟩
  · exact locate_ne_cyclic lost a rfl
  · split at failed
    · split at failed <;> simp [breakOff] at failed
    · simp [refuse] at failed

/-- A release never complains of a cycle either. -/
theorem release_ne_cyclic {h h' : Heap} {r : Ref} {deep : Bool} {stop : Stop}
    (failed : (release r deep).run h = (.error stop, h')) (a : Address) :
    stop ≠ .error (.cyclicReference a) := by
  rintro rfl
  exact dropReference_ne_cyclic (release_refused failed).2 a rfl

end Heap

namespace Insertion

/-- The call of the library that inserts. -/
def call : Insertion → Call
  | listAdd list item => .listAdd list item
  | setAdd set item => .setAdd set item
  | tupleSet tuple index item => .tupleSet tuple index item
  | recordPut record field item => .recordPut record field item

/-- The call of an insertion ends as the insertion does on the heap. -/
theorem run_call (i : Insertion) (s : Session) :
    i.call.perform.run.run s = s.conclude (i.run.run s.heap) := by
  have asked : i.call.request? = some (.insert i) := by cases i <;> rfl
  exact Call.run_request asked s

/-- In a heap without cycles finding the place for an item is no cause to complain of one. -/
theorem place_ne_cyclic {h : Heap} {i : Insertion} {stop : Stop} (acyclic : h.Acyclic)
    (failed : i.place h = .error stop) (a : Address) : stop ≠ .error (.cyclicReference a) := by
  rintro rfl
  cases i with
  | listAdd list item =>
    rcases error_of_bind_error failed with failed | ⟨found, _, failed⟩
    · exact Heap.elements_ne_cyclic failed a rfl
    · cases failed
  | setAdd set item =>
    rcases error_of_bind_error failed with failed | ⟨found, _, failed⟩
    · exact Heap.elements_ne_cyclic failed a rfl
    · rcases error_of_bind_error failed with failed | ⟨present, _, failed⟩
      · obtain ⟨_, s, _, _, unseen⟩ := Heap.contains_error acyclic failed
        exact Heap.view_ne_cyclic unseen a rfl
      · cases present <;> cases failed
  | tupleSet tuple index item =>
    rcases error_of_bind_error failed with failed | ⟨found, _, failed⟩
    · exact Heap.elements_ne_cyclic failed a rfl
    · dsimp only at failed
      split at failed
      · simp [refuse] at failed
      · cases failed
  | recordPut record field item =>
    rcases error_of_bind_error failed with failed | ⟨found, _, failed⟩
    · exact Heap.fields_ne_cyclic failed a rfl
    · cases failed

/-- An insertion complains of a cycle only if the guard does. -/
theorem checkInsert_of_cyclic {h h' : Heap} {i : Insertion} {a : Address} (acyclic : h.Acyclic)
    (run : i.run.run h = (.error (.error (.cyclicReference a)), h')) :
    h.checkInsert i.container i.item i.operation = refuse (.cyclicReference a) := by
  rw [run_eq] at run
  cases planned : i.plan h with
  | error stop =>
    rw [planned] at run
    cases run
    rcases error_of_bind_error planned with checked | ⟨_, _, failed⟩
    · exact checked
    · exact absurd rfl (place_ne_cyclic acyclic failed a)
  | ok placement =>
    rw [planned] at run
    cases placement with
    | present => exact absurd rfl (Heap.release_ne_cyclic (Action.run_error_of_map run) a)
    | store b content displaced =>
      cases displaced with
      | none => cases run
      | some previous => exact absurd rfl (Heap.release_ne_cyclic (Action.run_error_of_map run) a)

/-- Where everything the item leads to can be viewed, an insertion complains of a cycle exactly if
the container is the item or an element below it. -/
theorem cyclic_iff {h : Heap} {i : Insertion} (acyclic : h.Acyclic)
    (clear : ∀ r, h.Path i.item r → h.Viewable r) :
    (∃ a, (i.run.run h).1 = refuse (.cyclicReference a)) ↔ h.Path i.item i.container := by
  constructor
  · rintro ⟨a, refused⟩
    have run : i.run.run h = (refuse (.cyclicReference a), (i.run.run h).2) := Prod.ext refused rfl
    exact (Heap.checkInsert_cyclic (checkInsert_of_cyclic acyclic run)).2.path
  · intro path
    have checked : h.checkInsert i.container i.item i.operation = _ :=
      Heap.checkInsert_cyclic_of_path clear path
    refine ⟨i.container.address, ?_⟩
    rw [run_eq, plan, checked]
    rfl

end Insertion

/-- With tracking on no container ever contains itself, however references are misused, and every
operation finishes: the address of a freed box is not given out again, so a dangling element leads nowhere
for good. And the guard is exact: an item that leads only to what can be viewed is turned away as cyclic
exactly if the container is the item or is reachable from it. -/
theorem TrackedRun.containers_acyclic {s : Session} (run : TrackedRun s) :
    (∀ r, ¬ Relation.TransGen s.heap.Edge r r) ∧
      (∀ op : Operation, op.Steady → ∃ x s', op.perform.run s = .ok (x, s')) ∧
      ∀ i : Insertion, (∀ r, s.heap.Path i.item r → s.heap.Viewable r) →
        ((∃ a s', i.call.perform.run.run s = .ok (.error (.cyclicReference a), s')) ↔
          s.heap.Path i.item i.container) := by
  refine ⟨run.coherent.acyclic,
    fun op steady => op.perform_tracked steady run.coherent run.tracking, fun i clear => ?_⟩
  rw [← Insertion.cyclic_iff run.coherent.acyclic clear]
  refine exists_congr fun a => ?_
  simp only [Insertion.run_call, Session.conclude_eq_error]
  constructor
  · rintro ⟨_, refused, _⟩
    exact refused
  · intro refused
    exact ⟨_, refused, rfl⟩

/-- A session in which a tuple holds an empty list. -/
def tupleOverList : Session :=
  let list := (({ tracking := true } : Heap).alloc (.list [])).2
  { heap := { (list.alloc (.tuple [some 4096])).2 with journal := [] } }

theorem tupleOverList_run : TrackedRun tupleOverList := by
  have list : TrackedRun { heap := { (({ tracking := true } : Heap).alloc (.list [])).2 with journal := [] } } :=
    .operate (.call (.newList 0)) (.start (s := .initial true) rfl) (by simp [Operation.Steady])
      (by rintro q ⟨⟩ a member; cases member) rfl
  refine .operate (.call (.tupleOf [some 4096])) list (by simp [Operation.Steady]) ?_ rfl
  rintro q ⟨⟩ a member
  cases List.mem_singleton.mp member
  decide

/-- The list does not take the tuple that holds it. -/
theorem containers_acyclic_tupleOverList :
    (∀ r, ¬ Relation.TransGen tupleOverList.heap.Edge r r) ∧
      ∃ a s', (Call.listAdd (some 4096) (some 4097)).perform.run.run tupleOverList =
        .ok (.error (.cyclicReference a), s') := by
  have below : ∀ r, tupleOverList.heap.Path (some 4097) r → r = some 4097 ∨ r = some 4096 := by
    intro r path
    induction path with
    | refl => exact Or.inl rfl
    | tail _ edge ih =>
      rcases ih with rfl | rfl
      · exact Or.inr (List.mem_singleton.mp edge)
      · cases edge
  have clear : ∀ r, tupleOverList.heap.Path (some 4097) r → tupleOverList.heap.Viewable r := by
    intro r path
    rcases below r path with rfl | rfl
    · exact ⟨.tuple [some 4096], rfl⟩
    · exact ⟨.list [], rfl⟩
  have held : tupleOverList.heap.Edge (some 4097) (some 4096) := List.mem_singleton.mpr rfl
  obtain ⟨apart, _, guarded⟩ := TrackedRun.containers_acyclic tupleOverList_run
  exact ⟨apart, (guarded (.listAdd (some 4096) (some 4097)) clear).mpr (.single held)⟩

end CountedBox
