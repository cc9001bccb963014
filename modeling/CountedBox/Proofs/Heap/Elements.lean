import Mathlib.Algebra.BigOperators.Group.List.Basic
import Mathlib.Algebra.GroupWithZero.Nat
import Mathlib.Logic.Relation
import CountedBox.Heap.Basic

namespace CountedBox

section Weight

variable {α β : Type} {cmp : α → α → Ordering} [Std.TransCmp cmp] [Std.LawfulEqCmp cmp]

/-- What the values of a map weigh together. -/
def totalWeight (weight : β → Nat) (m : Std.TreeMap α β cmp) : Nat :=
  (m.toList.map fun entry => weight entry.2).sum

omit [Std.TransCmp cmp] [Std.LawfulEqCmp cmp] in
/-- A total weight depends on the entries only, in whatever order they come. -/
theorem totalWeight_perm {weight : β → Nat} {m n : Std.TreeMap α β cmp}
    (same : m.toList.Perm n.toList) : totalWeight weight m = totalWeight weight n :=
  (same.map _).sum_nat

theorem totalWeight_insert_absent {weight : β → Nat} {m : Std.TreeMap α β cmp} {k : α} {v : β}
    (absent : m[k]? = none) : totalWeight weight (m.insert k v) = weight v + totalWeight weight m := by
  classical
  have kept : m.toList.filter (fun entry => decide ¬((k == entry.1) = true)) = m.toList := by
    rw [List.filter_eq_self]
    intro entry member
    have found := Std.TreeMap.mem_toList_iff_getElem?_eq_some.mp member
    simp only [beq_iff_eq, decide_eq_true_eq]
    intro same
    rw [← same, absent] at found
    simp at found
  have perm := Std.TreeMap.toList_insert_perm (t := m) (k := k) (v := v)
  rw [kept] at perm
  simpa [totalWeight] using (perm.map fun entry => weight entry.2).sum_nat

theorem totalWeight_erase {weight : β → Nat} {m : Std.TreeMap α β cmp} {k : α} {v : β}
    (present : m[k]? = some v) : totalWeight weight m = weight v + totalWeight weight (m.erase k) := by
  have back : m.Equiv ((m.erase k).insert k v) := by
    apply Std.TreeMap.Equiv.of_forall_constGet?_eq
    intro j
    rw [Std.TreeMap.getElem?_insert, Std.TreeMap.getElem?_erase]
    by_cases same : cmp k j = .eq
    · rw [← Std.LawfulEqCmp.eq_of_compare same, present]
      simp
    · simp [same]
  rw [totalWeight_perm (Std.TreeMap.equiv_iff_toList_perm.mp back), totalWeight_insert_absent]
  simp

/-- An entry that is replaced gives up its weight for that of the new one. -/
theorem totalWeight_insert_present (weight : β → Nat) {m : Std.TreeMap α β cmp} {k : α} {old v : β}
    (present : m[k]? = some old) :
    totalWeight weight (m.insert k v) + weight old = weight v + totalWeight weight m := by
  have inserted : (m.insert k v)[k]? = some v := Std.TreeMap.getElem?_insert_self
  have erased : ((m.insert k v).erase k).Equiv (m.erase k) := by
    apply Std.TreeMap.Equiv.of_forall_constGet?_eq
    intro j
    simp only [Std.TreeMap.getElem?_erase, Std.TreeMap.getElem?_insert]
    by_cases same : cmp k j = .eq <;> simp [same]
  rw [totalWeight_erase inserted, totalWeight_erase present,
    totalWeight_perm (Std.TreeMap.equiv_iff_toList_perm.mp erased)]
  omega

omit [Std.TransCmp cmp] [Std.LawfulEqCmp cmp] in
theorem values_eq_map_toList (m : Std.TreeMap α β cmp) : m.values = m.toList.map Prod.snd := by
  change m.inner.inner.values = (Std.DTreeMap.Internal.Impl.Const.toList m.inner.inner).map Prod.snd
  rw [Std.DTreeMap.Internal.Impl.values_eq_map_snd,
    Std.DTreeMap.Internal.Impl.Const.toList_eq_toListModel_map]
  simp

omit [Std.TransCmp cmp] [Std.LawfulEqCmp cmp] in
/-- Counting a value is weighing each entry by how often it is that value. -/
theorem count_values [BEq β] (m : Std.TreeMap α β cmp) (r : β) :
    m.values.count r = totalWeight (fun s => [s].count r) m := by
  have singles : m.values = m.toList.flatMap fun entry => [entry.2] := by
    rw [values_eq_map_toList, List.map_eq_flatMap]
  rw [singles, List.count_flatMap]
  rfl

end Weight

/-- The elements a box holds, read by the kind its tag stands for. -/
def Box.children (b : Box) : List Ref :=
  match Kind.ofTag? b.tag with
  | none => []
  | some kind => b.payload.elements kind

theorem Box.children_of_kind {b : Box} {kind : Kind} (tagged : Kind.ofTag? b.tag = some kind) :
    b.children = b.payload.elements kind := by
  simp [Box.children, tagged]

theorem Box.children_of_value (v : Value) (n : Int) : Box.children ⟨v.kind.tag, n, v.payload⟩ = v.children := by
  rw [Box.children_of_kind (Kind.ofTag?_tag v.kind), Value.elements_payload]

/-- A map whose keys are all in another is no larger. -/
theorem size_le_of_contains {β γ : Type} {m : Std.TreeMap Address β} {n : Std.TreeMap Address γ}
    (within : ∀ a : Address, m.contains a = true → n.contains a = true) : m.size ≤ n.size := by
  rw [← Std.TreeMap.length_keys, ← Std.TreeMap.length_keys]
  refine (List.subperm_of_subset m.nodup_keys fun a member => ?_).length_le
  rw [Std.TreeMap.mem_keys] at member ⊢
  exact within a member

/-- Maps that contain the same addresses are of the same size. -/
theorem size_eq_of_contains {β γ : Type} {m : Std.TreeMap Address β} {n : Std.TreeMap Address γ}
    (same : ∀ a : Address, m.contains a = true ↔ n.contains a = true) : m.size = n.size :=
  Nat.le_antisymm (size_le_of_contains fun a => (same a).mp) (size_le_of_contains fun a => (same a).mpr)

namespace Heap

/-- The elements of the box a reference leads to; what leads to no box has none. -/
def children (h : Heap) (r : Ref) : List Ref :=
  ((r.bind fun a => h.boxes[a]?).map Box.children).getD []

/-- One step from a container to an element of it. -/
def Edge (h : Heap) (r s : Ref) : Prop := s ∈ h.children r

/-- Zero or more steps from a container to an element. -/
abbrev Path (h : Heap) : Ref → Ref → Prop := Relation.ReflTransGen h.Edge

/-- No container is reachable from itself through one or more elements. -/
def Acyclic (h : Heap) : Prop := ∀ r, ¬ Relation.TransGen h.Edge r r

/-- How often a reference is an element of a box, over all boxes. -/
def occurrences (h : Heap) (r : Ref) : Nat :=
  totalWeight (fun b => b.children.count r) h.boxes

@[simp] theorem children_null (h : Heap) : h.children none = [] := rfl

theorem children_found {h : Heap} {a : Address} {b : Box} (found : h.boxes[a]? = some b) :
    h.children (some a) = b.children := by
  simp [children, found]

theorem children_missing {h : Heap} {a : Address} (missing : h.boxes[a]? = none) :
    h.children (some a) = [] := by
  simp [children, missing]

/-- One reference holds another if there is a box at it that does. -/
theorem edge_iff {h : Heap} {r s : Ref} :
    h.Edge r s ↔ ∃ a b, r = some a ∧ h.boxes[a]? = some b ∧ s ∈ b.children := by
  constructor
  · intro edge
    cases r with
    | none => simp [Edge] at edge
    | some a =>
      cases found : h.boxes[a]? with
      | none => simp [Edge, children_missing found] at edge
      | some b => exact ⟨a, b, rfl, found, by simpa [Edge, children_found found] using edge⟩
  · rintro ⟨a, b, rfl, found, member⟩
    simpa [Edge, children_found found] using member

/-- What occurs in the heap is held by something. -/
theorem occurrences_pos_iff {h : Heap} {r : Ref} : 0 < h.occurrences r ↔ ∃ s, h.Edge s r := by
  constructor
  · intro positive
    rw [occurrences, totalWeight, List.sum_pos_iff_exists_pos_nat] at positive
    obtain ⟨n, member, countPos⟩ := positive
    obtain ⟨⟨a, b⟩, entry, rfl⟩ := List.mem_map.mp member
    have found := Std.TreeMap.mem_toList_iff_getElem?_eq_some.mp entry
    exact ⟨some a, edge_iff.mpr ⟨a, b, rfl, found, List.count_pos_iff.mp countPos⟩⟩
  · rintro ⟨s, edge⟩
    obtain ⟨a, b, rfl, found, member⟩ := edge_iff.mp edge
    rw [occurrences, totalWeight_erase found]
    have := List.count_pos_iff.mpr member
    omega

/-! What boxing, writing and removing a box do to elements. -/

theorem contains_found {h : Heap} {a : Address} {b : Box} (found : h.boxes[a]? = some b) :
    h.boxes.contains a = true := by
  rw [Std.TreeMap.contains_eq_isSome_getElem?, found]
  rfl

theorem getElem?_alloc (h : Heap) (v : Value) (a : Address) :
    (h.alloc v).2.boxes[a]? = if h.next = a then some ⟨v.kind.tag, 1, v.payload⟩ else h.boxes[a]? := by
  simp [alloc, Std.TreeMap.getElem?_insert]

theorem getElem?_write (h : Heap) (a c : Address) (b : Box) :
    (h.write a b).boxes[c]? = if a = c then some b else h.boxes[c]? := by
  simp [write, Std.TreeMap.getElem?_insert]

theorem getElem?_remove (h : Heap) (a c : Address) (kind : Kind) (deep : Bool) :
    (h.remove a kind deep).boxes[c]? = if a = c then none else h.boxes[c]? := by
  simp [remove, Std.TreeMap.getElem?_erase]

theorem size_alloc (h : Heap) (v : Value) (fresh : h.boxes[h.next]? = none) :
    (h.alloc v).2.boxes.size = h.boxes.size + 1 := by
  have absent : ¬ h.boxes.contains h.next = true := by
    rw [Std.TreeMap.contains_eq_isSome_getElem?, fresh]
    nofun
  simp only [alloc, Std.TreeMap.size_insert, if_neg absent]

theorem size_write {h : Heap} {a : Address} {old : Box} (found : h.boxes[a]? = some old) (b : Box) :
    (h.write a b).boxes.size = h.boxes.size := by
  simp only [write, Std.TreeMap.size_insert, if_pos (contains_found found)]

theorem size_remove {h : Heap} {a : Address} {b : Box} (found : h.boxes[a]? = some b) (kind : Kind) (deep : Bool) :
    (h.remove a kind deep).boxes.size + 1 = h.boxes.size := by
  have smaller := size_erase_lt (contains_found found)
  simp only [remove, Std.TreeMap.size_erase, if_pos (contains_found found)] at smaller ⊢
  omega

theorem children_write (h : Heap) (a : Address) (b : Box) (r : Ref) :
    (h.write a b).children r = if r = some a then b.children else h.children r := by
  cases r with
  | none => simp
  | some c =>
    by_cases same : a = c
    · subst same
      simp [children, getElem?_write]
    · simp [children, getElem?_write, same, Ne.symm same]

theorem children_remove (h : Heap) (a : Address) (kind : Kind) (deep : Bool) (r : Ref) :
    (h.remove a kind deep).children r = if r = some a then [] else h.children r := by
  cases r with
  | none => simp
  | some c =>
    by_cases same : a = c
    · subst same
      simp [children, getElem?_remove]
    · simp [children, getElem?_remove, same, Ne.symm same]

/-- A new box adds what it holds. -/
theorem occurrences_alloc {h : Heap} {v : Value} (fresh : h.boxes[h.next]? = none) (r : Ref) :
    (h.alloc v).2.occurrences r = v.children.count r + h.occurrences r := by
  rw [← Box.children_of_value v 1]
  exact totalWeight_insert_absent fresh

/-- A box that is written over gives up what it held for what it holds now. -/
theorem occurrences_write {h : Heap} {a : Address} {old b : Box} (found : h.boxes[a]? = some old)
    (r : Ref) :
    (h.write a b).occurrences r + old.children.count r = b.children.count r + h.occurrences r :=
  totalWeight_insert_present (fun (c : Box) => c.children.count r) found

/-- A box that is freed gives up what it held. -/
theorem occurrences_remove {h : Heap} {a : Address} {b : Box} {kind : Kind} {deep : Bool}
    (found : h.boxes[a]? = some b) (r : Ref) :
    h.occurrences r = b.children.count r + (h.remove a kind deep).occurrences r := by
  rw [occurrences, totalWeight_erase found]
  rfl

end Heap

end CountedBox
