import CountedBox.Proofs.Request

namespace CountedBox

/-- The box is no set, or a set without elements. -/
def Box.Bare (b : Box) : Prop := ∀ items, b.Stores (.set items) → items = []

/-- The heap has a box with these contents at the address. -/
def Heap.Holds (h : Heap) (a : Address) (b' : Box) : Prop :=
  ∃ b, h.boxes[a]? = some b ∧ b.tag = b'.tag ∧ b.payload = b'.payload

/-- Of what there is now, except for the box at `touched`, each box held the same before or is new and
is no set with elements. -/
structure Heap.Keeps (h h' : Heap) (touched : Ref) : Prop where
  later : h.next ≤ h'.next
  contents : ∀ {a : Address} {b' : Box}, some a ≠ touched → h'.boxes[a]? = some b' →
    h.Holds a b' ∨ h.next ≤ a ∧ b'.Bare

/-- A value that is no set with elements gives a box that is none. -/
theorem Box.bare_of_value {v : Value} (bare : ∀ items, v = .set items → items = []) (n : Int) :
    Box.Bare ⟨v.kind.tag, n, v.payload⟩ := by
  rintro items ⟨tag, payload⟩
  cases v with
  | set xs =>
    cases payload
    exact bare _ rfl
  | _ => cases tag

namespace Heap.Keeps

variable {h h' : Heap} {touched : Ref}

/-- Where the boxes are the same, nothing is touched. -/
theorem of_boxes (boxes : h'.boxes = h.boxes) (later : h.next ≤ h'.next) : h.Keeps h' touched :=
  ⟨later, fun _ found => Or.inl ⟨_, boxes ▸ found, rfl, rfl⟩⟩

theorem refl (h : Heap) (touched : Ref) : h.Keeps h touched := of_boxes rfl (Nat.le_refl _)

theorem trans {h'' : Heap} (first : h.Keeps h' touched) (second : h'.Keeps h'' touched) : h.Keeps h'' touched := by
  refine ⟨Nat.le_trans first.later second.later, fun {a b''} other found => ?_⟩
  rcases second.contents other found with ⟨b', found', tag', payload'⟩ | ⟨new, bare⟩
  · rcases first.contents other found' with ⟨b, found, tag, payload⟩ | ⟨new, bare⟩
    · exact Or.inl ⟨b, found, tag.trans tag', payload.trans payload'⟩
    · exact Or.inr ⟨new, fun items stores => bare items ⟨tag'.trans stores.1, payload'.trans stores.2⟩⟩
  · exact Or.inr ⟨Nat.le_trans first.later new, bare⟩

theorem alloc (h : Heap) {v : Value} (bare : ∀ items, v = .set items → items = []) (touched : Ref) :
    h.Keeps (h.alloc v).2 touched := by
  refine ⟨Nat.le_succ _, fun {a b'} _ found => ?_⟩
  rw [getElem?_alloc] at found
  split at found
  · rename_i here
    cases found
    exact Or.inr ⟨Nat.le_of_eq here, Box.bare_of_value bare 1⟩
  · exact Or.inl ⟨b', found, rfl, rfl⟩

theorem alloc_childless (h : Heap) {v : Value} (none : v.children = []) (touched : Ref) :
    h.Keeps (h.alloc v).2 touched :=
  alloc h (by rintro items rfl; exact none) touched

/-- A count is no part of what a container holds. -/
theorem recount {a : Address} {b : Box} (found : h.boxes[a]? = some b) (n : Int) (touched : Ref) :
    h.Keeps (h.write a { b with count := n }) touched := by
  refine ⟨Nat.le_refl _, fun {c b'} _ atC => ?_⟩
  rw [getElem?_write] at atC
  split at atC
  · rename_i here
    cases atC
    exact Or.inl ⟨b, here ▸ found, rfl, rfl⟩
  · exact Or.inl ⟨b', atC, rfl, rfl⟩

/-- A box that is gone keeps nothing, and the others are as they were. -/
theorem remove (h : Heap) (a : Address) (kind : Kind) (deep : Bool) (touched : Ref) :
    h.Keeps (h.remove a kind deep) touched := by
  refine ⟨Nat.le_refl _, fun {c b'} _ atC => ?_⟩
  rw [getElem?_remove] at atC
  split at atC
  · cases atC
  · exact Or.inl ⟨b', atC, rfl, rfl⟩

/-- Storing touches the container that is stored into, and it alone. -/
theorem store (h : Heap) (b : Located) (payload : Payload) : h.Keeps (h.store b payload) (some b.address) := by
  refine ⟨Nat.le_refl _, fun {c b'} other atC => ?_⟩
  have apart : b.address ≠ c := fun same => other (congrArg some same.symm)
  rw [Heap.store, getElem?_write, if_neg apart] at atC
  exact Or.inl ⟨b', atC, rfl, rfl⟩

theorem addReference {r : Ref} (added : h.addReference r = .ok h') : h.Keeps h' touched := by
  obtain ⟨a, b, kind, _, _, found, _, _, _, rfl⟩ := addReference_cases added
  exact recount found _ touched

theorem retain {r : Ref} {outcome : Except Stop Unit} (run : (retain r).run h = (outcome, h')) :
    h.Keeps h' touched := by
  rw [run_retain] at run
  split at run
  · cases run
    exact refl h touched
  · rename_i added
    cases run
    exact addReference added

theorem dropReference {r : Ref} {deep : Bool} {freed : Option (List Ref)}
    (dropped : h.dropReference r deep = .ok (h', freed)) : h.Keeps h' touched := by
  obtain ⟨a, b, kind, _, _, found, _, ⟨_, rfl, _⟩ | ⟨_, rfl, _⟩⟩ := dropReference_cases dropped
  · exact recount found _ touched
  · exact remove h a kind deep touched

/-- A cascade frees boxes and touches no container that is left. -/
theorem releaseEach {pending : List Ref} (done : h.releaseEach pending = .ok h') : h.Keeps h' touched := by
  fun_induction h.releaseEach pending with
  | case1 =>
    cases done
    exact refl _ touched
  | case2 h r rest e refused ih =>
    have noted : h.Keeps (h.note (.elementError e)) touched := of_boxes rfl (Nat.le_refl _)
    exact noted.trans (ih done)
  | case3 => simp at done
  | case4 h r rest next dropped ih => exact (dropReference dropped).trans (ih done)
  | case5 h r rest next elements dropped ih => exact (dropReference dropped).trans (ih done)

theorem release {r : Ref} {deep : Bool} {outcome : Except Stop Bool}
    (run : (release r deep).run h = (outcome, h')) : h.Keeps h' touched := by
  rw [run_release] at run
  split at run
  · cases run
    exact refl h touched
  · rename_i dropped
    cases run
    exact dropReference dropped
  · rename_i next elements dropped
    have freed : h.Keeps next touched := dropReference dropped
    split at run
    · split at run
      · cases run
        exact freed
      · rename_i released
        cases run
        exact freed.trans (releaseEach released)
    · cases run
      exact freed

/-- A new tuple holds new boxes, and touches none that was there. -/
theorem newTuple (h : Heap) (n : Nat) (touched : Ref) :
    ∃ r h', (newTuple n).run h = (.ok r, h') ∧ h.Keeps h' touched := by
  let P : Heap → List Ref → Prop := fun h' _ => h.Keeps h' touched
  have step : ∀ h' slots, P h' slots → P (h'.alloc .null).2 (slots ++ [some h'.next]) :=
    fun h' _ before => before.trans (alloc h' (by simp) touched)
  have begun : P h [] := refl h touched
  obtain ⟨slots, h', run, _, kept⟩ := @boxNulls_induction P step n h [] begun
  exact ⟨_, _, run_newTuple run, kept.trans (alloc h' (by simp) touched)⟩

end Heap.Keeps

/-- The container whose elements the insertion is about to change; null if there is none. -/
def Insertion.touched (h : Heap) (i : Insertion) : Ref :=
  match i.plan h with
  | .ok (.store _ _ _) => i.container
  | _ => none

/-- The container whose elements the request is about to change; null if there is none. -/
def Request.touched (h : Heap) : Request → Ref
  | insert i => i.touched h
  | _ => none

/-- Once the item is stored, all that is left to do is to give back what made room. -/
theorem Insertion.run_keeps_stored {h h' : Heap} {i : Insertion} {outcome : Except Stop Reply} {b : Located}
    {content : Value} {displaced : Option Ref} (planned : i.plan h = .ok (.store b content displaced))
    (run : i.run.run h = (outcome, h')) (touched : Ref) : (h.store b content.payload).Keeps h' touched := by
  rw [run_eq, planned] at run
  cases displaced with
  | none =>
    cases run
    exact .refl _ touched
  | some previous =>
    rw [carryOut, Action.run_map] at run
    cases run
    exact .release rfl

/-- An insertion touches its own container only, whether it succeeds or not. -/
theorem Insertion.run_keeps {h h' : Heap} {i : Insertion} {outcome : Except Stop Reply}
    (run : i.run.run h = (outcome, h')) : h.Keeps h' (i.touched h) := by
  unfold touched
  cases planned : i.plan h with
  | error stop =>
    rw [run_eq, planned] at run
    cases run
    exact .refl h _
  | ok placement =>
    cases placement with
    | present =>
      rw [run_eq, planned, carryOut, Action.run_map] at run
      cases run
      exact .release rfl
    | store b content displaced =>
      have stored : h.Keeps (h.store b content.payload) i.container :=
        (plan_store planned).container ▸ .store h b content.payload
      exact stored.trans (run_keeps_stored planned run _)

theorem Request.run_keeps {q : Request} {h h' : Heap} {outcome : Except Stop Reply}
    (bare : ∀ items, q = .box (.set items) → items = []) (run : q.run.run h = (outcome, h')) :
    h.Keeps h' (q.touched h) := by
  cases q with
  | box v =>
    cases run
    exact .alloc h (fun items same => bare items (congrArg box same)) none
  | boxChar code =>
    simp only [Request.run, Action.run_map] at run
    cases run
    rcases boxChar_heap code h with same | ⟨v, childless, boxed⟩
    · rw [same]
      exact .refl h none
    · rw [boxed]
      exact .alloc_childless h childless none
  | boxRendering r =>
    simp only [Request.run, Action.run_map] at run
    cases run
    rcases boxRendering_heap r h with same | ⟨v, childless, boxed⟩
    · rw [same]
      exact .refl h none
    · rw [boxed]
      exact .alloc_childless h childless none
  | newTuple arity =>
    obtain ⟨r, next, made, kept⟩ := Heap.Keeps.newTuple h arity none
    simp only [Request.run, Action.run_map, made] at run
    cases run
    exact kept
  | insert i => exact i.run_keeps run
  | retain r =>
    simp only [Request.run, Action.run_map] at run
    cases run
    exact .retain rfl
  | release r deep =>
    simp only [Request.run, Action.run_map] at run
    cases run
    exact .release rfl

end CountedBox
