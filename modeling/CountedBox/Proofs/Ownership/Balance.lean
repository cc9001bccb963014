import CountedBox.Proofs.Insertion.Plan

namespace CountedBox

/-- How many references to what it leads to a client holds, for each reference. -/
abbrev Holdings := Ref → Nat

namespace Holdings

def gain (held : Holdings) (items : List Ref) : Holdings := fun r => held r + items.count r

def spend (held : Holdings) (items : List Ref) : Holdings := fun r => held r - items.count r

@[simp] theorem gain_apply (held : Holdings) (items : List Ref) (r : Ref) :
    held.gain items r = held r + items.count r := rfl

@[simp] theorem spend_apply (held : Holdings) (items : List Ref) (r : Ref) :
    held.spend items r = held r - items.count r := rfl

theorem holds_head (held : Holdings) (r : Ref) (rest : List Ref) : 0 < held.gain (r :: rest) r := by
  rw [gain_apply, List.count_cons_self]
  omega

@[simp] theorem gain_nil (held : Holdings) : held.gain [] = held := rfl

@[simp] theorem spend_nil (held : Holdings) : held.spend [] = held := rfl

end Holdings

namespace Heap

/-- The count stored behind a reference; nothing is counted where there is no box. -/
def count (h : Heap) (r : Ref) : Int := ((r.bind fun a => h.boxes[a]?).map Box.count).getD 0

theorem count_found {h : Heap} {a : Address} {b : Box} (found : h.boxes[a]? = some b) :
    h.count (some a) = b.count := by
  simp [count, found]

theorem count_missing {h : Heap} {a : Address} (missing : h.boxes[a]? = none) : h.count (some a) = 0 := by
  simp [count, missing]

theorem count_alloc (h : Heap) (v : Value) (r : Ref) :
    (h.alloc v).2.count r = if r = some h.next then 1 else h.count r := by
  cases r with
  | none => simp [count]
  | some a =>
    by_cases same : h.next = a
    · subst same
      simp [count, getElem?_alloc]
    · simp [count, getElem?_alloc, same, Ne.symm same]

theorem count_write (h : Heap) (a : Address) (b : Box) (r : Ref) :
    (h.write a b).count r = if r = some a then b.count else h.count r := by
  cases r with
  | none => simp [count]
  | some c =>
    by_cases same : a = c
    · subst same
      simp [count, getElem?_write]
    · simp [count, getElem?_write, same, Ne.symm same]

theorem count_remove (h : Heap) (a : Address) (kind : Kind) (deep : Bool) (r : Ref) :
    (h.remove a kind deep).count r = if r = some a then 0 else h.count r := by
  cases r with
  | none => simp [count]
  | some c =>
    by_cases same : a = c
    · subst same
      simp [count, getElem?_remove]
    · simp [count, getElem?_remove, same, Ne.symm same]

/-- The count of a box is no part of what it holds. -/
theorem occurrences_recount {h : Heap} {a : Address} {b : Box} (found : h.boxes[a]? = some b) (n : Int)
    (r : Ref) : (h.write a { b with count := n }).occurrences r = h.occurrences r := by
  have elements := occurrences_write (b := { b with count := n }) found r
  have same : Box.children { b with count := n } = b.children := rfl
  rw [same] at elements
  omega

/-- A container gives up what it held for its new content. -/
theorem occurrences_store {h : Heap} {b : Located} {content : Value}
    (found : h.boxes[b.address]? = some b.box) (tagged : Kind.ofTag? b.box.tag = some content.kind)
    (r : Ref) : (h.store b content.payload).occurrences r + b.box.children.count r =
      content.children.count r + h.occurrences r := by
  have stores : Box.Stores { b.box with payload := content.payload } content := .of_tagged tagged rfl
  rw [← stores.children]
  exact occurrences_write found r

theorem count_store {h : Heap} {b : Located} (found : h.boxes[b.address]? = some b.box) (payload : Payload)
    (r : Ref) : (h.store b payload).count r = h.count r := by
  rw [store, count_write]
  split
  · rename_i here
    rw [here, count_found found]
  · rfl

theorem count_single (r q : Ref) : [r].count q = if q = r then 1 else 0 := by
  by_cases same : q = r
  · rw [same, if_pos rfl, List.count_singleton_self]
  · rw [if_neg same, List.count_eq_zero]
    simpa using same

/-- The books of a heap whose references are held by a client and by containers: every count is the
number of references held, no box is foreign, and the counters tell how many boxes there are. -/
structure Balanced (h : Heap) (held : Holdings) : Prop where
  coherent : h.Coherent
  known : ∀ {a : Address} {b : Box}, h.boxes[a]? = some b → h.Knows a
  exact : ∀ r, h.count r = held r + h.occurrences r
  counters : h.boxed = h.freed + h.boxes.size

namespace Balanced

variable {h h' : Heap} {held : Holdings} {r : Ref} {rest : List Ref}

/-- What is held by the client or by a container is there. -/
theorem present (balanced : h.Balanced held) {r : Ref} (holder : 0 < held r + h.occurrences r) :
    ∃ a b, r = some a ∧ h.boxes[a]? = some b := by
  have exact := balanced.exact r
  cases r with
  | none =>
    have none : h.count none = 0 := rfl
    omega
  | some a =>
    cases found : h.boxes[a]? with
    | none =>
      have none := count_missing found
      omega
    | some b => exact ⟨a, b, rfl, found⟩

/-- In a balanced heap a box that is there has a reference. -/
theorem positive (balanced : h.Balanced held) {a : Address} {b : Box} (found : h.boxes[a]? = some b) :
    0 < b.count :=
  balanced.coherent.counted found (balanced.known found)

theorem of_same (balanced : h.Balanced held) (boxes : h'.boxes = h.boxes)
    (registry : h'.registry = h.registry) (tracking : h'.tracking = h.tracking) (next : h'.next = h.next)
    (boxed : h'.boxed = h.boxed) (freed : h'.freed = h.freed) : h'.Balanced held := by
  refine ⟨balanced.coherent.of_same boxes registry tracking next, ?_, ?_, ?_⟩
  · intro a b
    rw [boxes, Knows, registry, tracking]
    exact balanced.known
  · intro r
    have exact := balanced.exact r
    rwa [count, occurrences, boxes]
  · rw [boxed, freed, boxes]
    exact balanced.counters

/-- In the beginning nothing is held and nothing is there. -/
theorem start (tracking : Bool) : Heap.Balanced { tracking } fun _ => 0 where
  coherent := .start tracking
  known := by simp
  exact := by
    intro r
    cases r with
    | none => rfl
    | some a => rfl
  counters := by simp

/-- What a new box holds is taken out of the hands of the caller, who holds the box. -/
theorem alloc (balanced : h.Balanced held) {v : Value} (covered : ∀ r, v.children.count r ≤ held r) :
    (h.alloc v).2.Balanced ((held.spend v.children).gain [some h.next]) := by
  have fresh := balanced.coherent.fresh
  have exist : ∀ a, some a ∈ v.children → a < h.next := by
    intro a member
    have positive := List.count_pos_iff.mpr member
    have enough := covered (some a)
    obtain ⟨_, b, same, found⟩ := balanced.present (r := some a) (by omega)
    cases same
    exact balanced.coherent.below found
  refine ⟨balanced.coherent.alloc exist, ?_, ?_, ?_⟩
  · intro a b found
    rw [getElem?_alloc] at found
    rw [knows_alloc]
    split at found
    · rename_i here
      exact Or.inl here.symm
    · exact Or.inr (balanced.known found)
  · intro r
    have exact := balanced.exact r
    have enough := covered r
    rw [count_alloc, occurrences_alloc fresh]
    simp only [Holdings.gain_apply, Holdings.spend_apply]
    rw [count_single]
    by_cases new : r = some h.next
    · have none : h.count r = 0 := new ▸ count_missing fresh
      rw [if_pos new, if_pos new]
      omega
    · rw [if_neg new, if_neg new]
      omega
  · have counters := balanced.counters
    rw [h.size_alloc v fresh]
    simp only [Heap.alloc]
    omega

/-- Writing a box keeps the balance if what it gives up and takes is accounted for. -/
theorem write (balanced : h.Balanced held) {held' : Holdings} {a : Address} {old b : Box}
    (found : h.boxes[a]? = some old) (coherent : (h.write a b).Coherent)
    (exact : ∀ r, (h.write a b).count r = held' r + (h.write a b).occurrences r) :
    (h.write a b).Balanced held' := by
  refine ⟨coherent, ?_, exact, ?_⟩
  · intro c d atC
    rw [getElem?_write] at atC
    split at atC
    · rename_i here
      exact here ▸ balanced.known found
    · exact balanced.known atC
  · rw [size_write found]
    exact balanced.counters

/-- One more reference is one more that is held. -/
theorem retain (balanced : h.Balanced held) {r : Ref} (added : h.addReference r = .ok h') :
    h'.Balanced (held.gain [r]) := by
  have coherent := balanced.coherent.change (.retain added)
  obtain ⟨a, b, kind, rfl, _, found, _, _, _, rfl⟩ := addReference_cases added
  refine balanced.write found coherent fun q => ?_
  have exact := balanced.exact q
  rw [count_write, occurrences_recount found, Holdings.gain_apply, count_single]
  by_cases here : q = some a
  · rw [here, count_found found] at exact
    rw [here, if_pos rfl, if_pos rfl]
    dsimp only
    omega
  · rw [if_neg here, if_neg here]
    omega

/-- With the last reference the box goes, and what it held is in the hands of the caller. -/
theorem remove (balanced : h.Balanced held) {a : Address} {b : Box} (found : h.boxes[a]? = some b)
    (last : b.count = 1) (holds : 0 < held (some a)) (kind : Kind) (deep : Bool) :
    (h.remove a kind deep).Balanced ((held.spend [some a]).gain b.children) := by
  have counted := count_found found
  refine ⟨balanced.coherent.remove a kind deep, ?_, ?_, ?_⟩
  · intro c d atC
    rw [getElem?_remove] at atC
    split at atC
    · cases atC
    · rename_i other
      exact (knows_remove other).mpr (balanced.known atC)
  · intro q
    have exact := balanced.exact q
    have elements : h.occurrences q = b.children.count q + (h.remove a kind deep).occurrences q :=
      occurrences_remove found q
    rw [count_remove, Holdings.gain_apply, Holdings.spend_apply, count_single]
    by_cases here : q = some a
    · rw [here, counted] at exact
      rw [here] at elements
      rw [here, if_pos rfl, if_pos rfl]
      omega
    · rw [if_neg here, if_neg here]
      omega
  · have counters := balanced.counters
    have smaller := size_remove found kind deep
    simp only [Heap.remove] at smaller ⊢
    omega

/-- A held reference can be given back. If it was the last one, the references held by the box are
now held by whoever gave it back. -/
theorem drop (balanced : h.Balanced held) {r : Ref} (holds : 0 < held r) (deep : Bool) :
    ∃ h' freed, h.dropReference r deep = .ok (h', freed) ∧
      (∀ items, freed = some items → items = h.children r) ∧
      h'.Balanced ((held.spend [r]).gain (freed.getD [])) := by
  obtain ⟨a, b, rfl, found⟩ := balanced.present (r := r) (by omega)
  have known := balanced.known found
  have positive := balanced.positive found
  obtain ⟨v, stores⟩ := balanced.coherent.typed found known
  by_cases last : b.count = 1
  · have dropped : h.dropReference (some a) deep = .ok (h.remove a v.kind deep, some v.children) :=
      dropReference_last known found stores last
    refine ⟨_, _, dropped, ?_, ?_⟩
    · rintro items ⟨⟩
      rw [children_found found, stores.children]
    · rw [Option.getD_some, ← stores.children]
      exact balanced.remove found last holds v.kind deep
  · have dropped : h.dropReference (some a) deep = .ok (h.write a { b with count := b.count - 1 }, none) :=
      dropReference_shared known found stores.tagged (by omega)
    refine ⟨_, _, dropped, by simp, ?_⟩
    refine balanced.write found (balanced.coherent.change (.drop dropped)) fun q => ?_
    have exact := balanced.exact q
    rw [count_write, occurrences_recount found, Option.getD_none, Holdings.gain_nil,
      Holdings.spend_apply, count_single]
    by_cases here : q = some a
    · rw [here, count_found found] at exact
      rw [here, if_pos rfl, if_pos rfl]
      dsimp only
      omega
    · rw [if_neg here, if_neg here]
      omega

/-- Of several held references the first can be given back. What is freed by it is held before the rest. -/
theorem dropNext (balanced : h.Balanced (held.gain (r :: rest))) :
    ∃ h' freed, h.dropReference r true = .ok (h', freed) ∧ h'.Balanced (held.gain (freed.getD [] ++ rest)) := by
  obtain ⟨h', freed, dropped, _, after⟩ := balanced.drop (held.holds_head r rest) true
  refine ⟨h', freed, dropped, ?_⟩
  have settled : ((held.gain (r :: rest)).spend [r]).gain (freed.getD []) = held.gain (freed.getD [] ++ rest) := by
    funext q
    simp only [Holdings.gain_apply, Holdings.spend_apply, List.count_cons, List.count_nil, List.count_append]
    omega
  exact settled ▸ after

/-- Held references can be given back one after the other, with all that is freed by it. -/
theorem releaseEach {pending : List Ref} (balanced : h.Balanced (held.gain pending)) :
    ∃ h', h.releaseEach pending = .ok h' ∧ h'.Balanced held := by
  -- What is pending is held, so giving back the first keeps the books; it can never be refused.
  fun_induction h.releaseEach pending with
  | case1 h => exact ⟨h, rfl, balanced⟩
  | case2 h r rest e refused ih =>
    obtain ⟨_, _, dropped, _⟩ := balanced.dropNext
    cases dropped.symm.trans refused
  | case3 h r rest f broken =>
    obtain ⟨_, _, dropped, _⟩ := balanced.dropNext
    cases dropped.symm.trans broken
  | case4 h r rest next dropped ih =>
    obtain ⟨_, _, same, after⟩ := balanced.dropNext
    cases same.symm.trans dropped
    exact ih after
  | case5 h r rest next elements dropped ih =>
    obtain ⟨_, _, same, after⟩ := balanced.dropNext
    cases same.symm.trans dropped
    exact ih after

/-- A container takes over an item that the client holds, and the client gets what made room. -/
theorem store (balanced : h.Balanced held) {i : Insertion} {b : Located} {content : Value}
    {displaced : Option Ref} (accepted : i.Accepted h b content displaced) (holds : 0 < held i.item) :
    (h.store b content.payload).Balanced ((held.spend [i.item]).gain displaced.toList) := by
  refine balanced.write accepted.found (balanced.coherent.change accepted.change) fun q => ?_
  change (h.store b content.payload).count q = _ + ((h.store b content.payload).occurrences q : Int)
  have exact := balanced.exact q
  have exchanged := accepted.exchanged q
  have elements := occurrences_store accepted.found accepted.tagged q
  have enough : [i.item].count q ≤ held q := by
    rw [count_single]
    split
    · rename_i same
      exact same ▸ holds
    · exact Nat.zero_le _
  rw [count_store accepted.found, Holdings.gain_apply, Holdings.spend_apply]
  omega

theorem guarded (balanced : h.Balanced held) : h.Guarded NoFault := by
  have coherent := balanced.coherent
  refine ⟨coherent.registered, coherent.typed, coherent.acyclic, fun {r s} edge => ?_⟩
  rintro a rfl _ missing
  have positive := occurrences_pos_iff.mpr ⟨r, edge⟩
  obtain ⟨_, b, same, found⟩ := balanced.present (r := some a) (by omega)
  cases same
  cases missing.symm.trans found

/-- Giving back a held reference succeeds. The elements of a container freed by it go to the client
unless they are given back with it. -/
theorem release (balanced : h.Balanced held) {r : Ref} (holds : 0 < held r) (deep : Bool) :
    ∃ freed h', (CountedBox.release r deep).run h = (.ok freed, h') ∧
      h'.Balanced ((held.spend [r]).gain (if freed && !deep then h.children r else [])) := by
  obtain ⟨next, freed, dropped, elements, after⟩ := balanced.drop holds deep
  rw [run_release, dropped]
  cases freed with
  | none => exact ⟨false, next, rfl, after⟩
  | some items =>
    cases deep with
    | false =>
      refine ⟨true, next, rfl, ?_⟩
      rw [← elements items rfl]
      exact after
    | true =>
      obtain ⟨h', released, settled⟩ := after.releaseEach
      exact ⟨true, h', by simp only [Option.getD_some] at released; simp [released], settled⟩

end Balanced

end Heap

end CountedBox
