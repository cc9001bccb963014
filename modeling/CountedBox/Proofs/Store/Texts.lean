import CountedBox.Proofs.Rendering.Zeros
import CountedBox.Proofs.Store.Placed
import CountedBox.Proofs.Switching.Run

namespace CountedBox

/-- Only a container that was a text before an insertion could be one after it. -/
theorem Insertion.string_of_into {i : Insertion} {v : Value} {bytes : List UInt8} (same : i.into v = .string bytes) :
    v = .string bytes := by
  cases v with
  | string => cases i <;> exact same
  | _ => cases i <;> cases same

/-- The value is no text with a zero byte in it. -/
def Value.ZeroFree : Value → Prop
  | string bytes => 0 ∉ bytes
  | _ => True

namespace Heap.ZeroFree

variable {h h' : Heap} {v : Value}

theorem start (tracking : Bool) : Heap.ZeroFree { tracking } := by simp [ZeroFree]

theorem of_value (free : v.ZeroFree) {bytes : List UInt8} (payload : v.payload = .string bytes) : 0 ∉ bytes := by
  cases v <;> cases payload
  exact free

theorem alloc (free : h.ZeroFree) (new : v.ZeroFree) : (h.alloc v).2.ZeroFree := by
  intro a b bytes found payload
  rw [getElem?_alloc] at found
  split at found
  · cases found
    exact of_value new payload
  · exact free a b bytes found payload

/-- The texts do not depend on the counts. -/
theorem recount (free : h.ZeroFree) {a : Address} {b : Box} (found : h.boxes[a]? = some b) (n : Int) :
    (h.write a { b with count := n }).ZeroFree := by
  intro c b' bytes atC payload
  rw [getElem?_write] at atC
  split at atC
  · cases atC
    exact free a b bytes found payload
  · exact free c b' bytes atC payload

/-- Fewer boxes have fewer texts. -/
theorem remove (free : h.ZeroFree) (a : Address) (kind : Kind) (deep : Bool) : (h.remove a kind deep).ZeroFree := by
  intro c b bytes atC payload
  rw [getElem?_remove] at atC
  split at atC
  · cases atC
  · exact free c b bytes atC payload

/-- Storing into a container brings no text into the heap but that of its new content. -/
theorem store (free : h.ZeroFree) (new : v.ZeroFree) (b : Located) : (h.store b v.payload).ZeroFree := by
  intro c b' bytes atC payload
  rw [Heap.store, getElem?_write] at atC
  split at atC
  · cases atC
    exact of_value new payload
  · exact free c b' bytes atC payload

theorem retain (free : h.ZeroFree) (r : Ref) : ((retain r).run h).2.ZeroFree := by
  rw [run_retain]
  split
  · exact free
  · rename_i added
    obtain ⟨a, b, kind, _, _, found, _, _, _, rfl⟩ := addReference_cases added
    exact free.recount found _

theorem dropReference (free : h.ZeroFree) {r : Ref} {deep : Bool} {freed : Option (List Ref)}
    (dropped : h.dropReference r deep = .ok (h', freed)) : h'.ZeroFree := by
  obtain ⟨a, b, kind, _, _, found, _, ⟨_, rfl, _⟩ | ⟨_, rfl, _⟩⟩ := dropReference_cases dropped
  · exact free.recount found _
  · exact free.remove a kind deep

/-- A cascade makes no text. -/
theorem releaseEach (free : h.ZeroFree) {pending : List Ref} (done : h.releaseEach pending = .ok h') :
    h'.ZeroFree := by
  fun_induction h.releaseEach pending with
  | case1 =>
    cases done
    exact free
  | case2 h r rest e refused ih => exact ih free done
  | case3 => cases done
  | case4 h r rest next dropped ih => exact ih (free.dropReference dropped) done
  | case5 h r rest next elements dropped ih => exact ih (free.dropReference dropped) done

theorem release (free : h.ZeroFree) (r : Ref) (deep : Bool) : ((release r deep).run h).2.ZeroFree := by
  rw [run_release]
  split
  · exact free
  · rename_i dropped
    exact free.dropReference dropped
  · rename_i dropped
    split
    · split
      · exact free.dropReference dropped
      · rename_i released
        exact (free.dropReference dropped).releaseEach released
    · exact free.dropReference dropped

theorem insert (free : h.ZeroFree) (i : Insertion) : (i.run.run h).2.ZeroFree := by
  rw [Insertion.run_eq]
  cases planned : i.plan h with
  | error stop => exact free
  | ok placement =>
    cases placement with
    | present =>
      rw [Insertion.carryOut, Action.run_map]
      exact free.release _ _
    | store b content displaced =>
      obtain ⟨v, viewed, rfl⟩ := Insertion.plan_into planned
      have new : (i.into v).ZeroFree := by
        cases content : i.into v with
        | string bytes => exact free.viewed (Insertion.string_of_into content ▸ viewed)
        | _ => trivial
      cases displaced with
      | none => exact free.store new b
      | some previous =>
        rw [Insertion.carryOut, Action.run_map]
        exact (free.store new b).release _ _

theorem newTuple (free : h.ZeroFree) (n : Nat) : ((newTuple n).run h).2.ZeroFree := by
  let P : Heap → List Ref → Prop := fun h' _ => h'.ZeroFree
  have step : ∀ h' slots, P h' slots → P (h'.alloc .null).2 (slots ++ [some h'.next]) :=
    fun _ _ before => before.alloc trivial
  obtain ⟨slots, h', ran, _, nulls⟩ := @boxNulls_induction P step n h [] free
  rw [run_newTuple ran]
  exact nulls.alloc trivial

/-- The text of a value is cut at its first zero before it is boxed. -/
theorem boxRendering (free : h.ZeroFree) (r : Ref) : ((boxRendering r).run h).2.ZeroFree := by
  rw [run_boxRendering]
  split
  · exact free
  · exact free.alloc (Text.zero_notMem_untilZero _)

theorem boxChar (free : h.ZeroFree) (code : UInt32) : ((boxChar code).run h).2.ZeroFree := by
  rcases run_boxChar code h with ⟨e, ran⟩ | ⟨c, ran⟩
  · rw [ran]
    exact free
  · rw [ran]
    exact free.alloc trivial

end Heap.ZeroFree

namespace Request

/-- What is boxed is no text with a zero byte in it. -/
def ZeroFree : Request → Prop
  | box v => v.ZeroFree
  | _ => True

/-- No request brings a zero into a text, if it is not handed one. -/
theorem run_zeroFree {q : Request} {h : Heap} (free : h.ZeroFree) (plain : q.ZeroFree) : (q.run.run h).2.ZeroFree := by
  cases q with
  | box v => exact free.alloc plain
  | insert i => exact free.insert i
  | boxChar code =>
    rw [run, Action.run_map]
    exact free.boxChar code
  | boxRendering r =>
    rw [run, Action.run_map]
    exact free.boxRendering r
  | newTuple arity =>
    rw [run, Action.run_map]
    exact free.newTuple arity
  | retain r =>
    rw [run, Action.run_map]
    exact free.retain r
  | release r deep =>
    rw [run, Action.run_map]
    exact free.release r deep

end Request

namespace Operation

/-- Bytes that are boxed as they are have no zero among them: a text that ends with a zero byte holds no other. -/
def ZeroFree (op : Operation) : Prop := ∀ bytes, op = call (.box (.string bytes)) → 0 ∉ bytes

theorem request_zeroFree {op : Operation} {q : Request} (plain : op.ZeroFree) (asked : op.request? = some q) :
    q.ZeroFree := by
  cases op with
  | call c =>
    cases c with
    | box v =>
      cases asked
      cases v with
      | string bytes => exact plain bytes rfl
      | _ => trivial
    | boxText s =>
      cases asked
      exact Text.zero_notMem_untilZero _
    | _ => cases asked <;> trivial
  | entry e =>
    cases e with
    | boxStr text =>
      obtain ⟨bytes, rfl, rfl⟩ := Option.map_eq_some_iff.mp asked
      exact Text.zero_notMem_untilZero _
    | recordPut record field item =>
      obtain ⟨bytes, rfl, rfl⟩ := Option.map_eq_some_iff.mp asked
      trivial
    | _ => cases asked <;> trivial

/-- Nor does an operation. -/
theorem perform_zeroFree {op : Operation} {s s' : Session} {x : Except Error Reply} {tracked : Address → Prop}
    (exact : s.heap.Exact tracked) (free : s.heap.ZeroFree) (plain : op.ZeroFree)
    (done : op.perform.run s = .ok (x, s')) : s'.heap.ZeroFree := by
  cases asked : op.request? with
  | some q =>
    rw [perform_heap asked rfl done]
    exact Request.run_zeroFree free (request_zeroFree plain asked)
  | none =>
    by_cases steady : op.Steady
    · rcases perform_quiet steady asked exact.guarded fun r _ => exact.safe r with
        ⟨_, stopped, _⟩ | ⟨_, _, finished, same⟩
      · cases stopped.symm.trans done
      · cases finished.symm.trans done
        exact same ▸ free
    · simp only [Steady, not_forall, not_not] at steady
      obtain ⟨on, rfl⟩ := steady
      cases done
      exact free

end Operation

/-- The sessions that any operations lead to, with tracking switched at will, where no bytes are boxed that a
text cannot hold. All but the heap may change at will. -/
inductive TextRun : Session → Prop
  | start {s : Session} {tracking : Bool} : s.heap = { tracking } → TextRun s
  | operate {s s' : Session} {x : Except Error Reply} (op : Operation) : TextRun s → op.Existing s.heap →
      op.ZeroFree → op.perform.run s = .ok (x, s') → TextRun s'
  | setUp {s s' : Session} {build : Build} {env : Environment} {c active : Config} :
      TextRun s → (startWith build env c).run s = .ok (active, s') → TextRun s'
  | beside {s s' : Session} : TextRun s → s'.heap = s.heap → TextRun s'

namespace TextRun

variable {s : Session}

theorem switched (run : TextRun s) : ∃ tracked, SwitchedRun s tracked := by
  induction run with
  | start begun => exact ⟨_, .start begun⟩
  | operate op _ existing _ done ih =>
    obtain ⟨_, before⟩ := ih
    exact ⟨_, before.operate op existing done⟩
  | setUp _ done ih =>
    obtain ⟨_, before⟩ := ih
    exact ⟨_, before.setUp done⟩
  | beside _ same ih =>
    obtain ⟨_, before⟩ := ih
    exact ⟨_, before.beside same⟩

/-- So along a run in which no zero is handed in all texts are free of it. -/
theorem zeroFree (run : TextRun s) : s.heap.ZeroFree := by
  induction run with
  | start begun => exact begun ▸ .start _
  | operate op before _ plain done ih =>
    obtain ⟨_, switched⟩ := before.switched
    exact op.perform_zeroFree switched.exact ih plain done
  | setUp _ done ih =>
    obtain ⟨on, switched⟩ := startWith_switches done
    exact switched ▸ ih
  | beside _ same ih => exact same ▸ ih

end TextRun

end CountedBox
