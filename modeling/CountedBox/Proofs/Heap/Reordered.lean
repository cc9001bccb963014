import CountedBox.Proofs.Heap.Search

namespace CountedBox

/-- The same contents, or elements of a list, set or tuple in another order. -/
inductive Payload.Reordered : Payload → Payload → Prop
  | same (p : Payload) : Reordered p p
  | items {xs ys : List Ref} : xs.Perm ys → Reordered (.items xs) (.items ys)

theorem Payload.Reordered.fits {p q : Payload} (reordered : p.Reordered q) (kind : Kind) :
    p.fits kind = q.fits kind := by
  cases reordered with
  | same => rfl
  | items => cases kind <;> rfl

/-- Another order of a payload has the same elements, counted with repetitions. -/
theorem Payload.Reordered.elements {p q : Payload} (reordered : p.Reordered q) (kind : Kind) :
    (p.elements kind).Perm (q.elements kind) := by
  cases reordered with
  | same => exact .refl _
  | items perm =>
    cases kind with
    | null => exact .refl _
    | _ => exact perm

/-- What can be read in one order can be read in the other. -/
theorem Payload.Reordered.read? {p q : Payload} {kind : Kind} {v : Value} (reordered : p.Reordered q)
    (read : p.read? kind = some (.ok v)) : ∃ w, q.read? kind = some (.ok w) := by
  cases reordered with
  | same => exact ⟨v, read⟩
  | items => cases kind <;> first | exact ⟨_, rfl⟩ | cases read

/-- The boxes differ in nothing but the order of elements. -/
structure Box.Reordered (b c : Box) : Prop where
  tag : b.tag = c.tag
  count : b.count = c.count
  payload : b.payload.Reordered c.payload

theorem Box.Reordered.children {b c : Box} (reordered : b.Reordered c) : b.children.Perm c.children := by
  unfold Box.children
  rw [reordered.tag]
  split
  · exact .refl _
  · exact reordered.payload.elements _

/-- The heaps have the same boxes, with the same counts, but for the order of elements; and as many were
freed so far. -/
structure Heap.Reordered (h k : Heap) : Prop where
  registry : ∀ a : Address, h.registry[a]? = k.registry[a]?
  boxes : ∀ a : Address, Option.Rel Box.Reordered h.boxes[a]? k.boxes[a]?
  tracking : h.tracking = k.tracking
  freed : h.freed = k.freed

namespace Heap.Reordered

variable {h k : Heap}

/-- The registry knows the same addresses. -/
theorem contains (reordered : h.Reordered k) (a : Address) : h.registry.contains a = k.registry.contains a := by
  rw [Std.TreeMap.contains_eq_isSome_getElem?, Std.TreeMap.contains_eq_isSome_getElem?, reordered.registry]

theorem children (reordered : h.Reordered k) (r : Ref) : (h.children r).Perm (k.children r) := by
  cases r with
  | none => exact .refl _
  | some a =>
    have boxes := reordered.boxes a
    simp only [Heap.children, Option.bind_some]
    generalize h.boxes[a]? = b at boxes ⊢
    generalize k.boxes[a]? = c at boxes ⊢
    cases boxes with
    | none => exact .refl _
    | some same => exact same.children

/-- What is reached from where does not depend on the order. -/
theorem path_iff (reordered : h.Reordered k) {r s : Ref} : h.Path r s ↔ k.Path r s := by
  have edges : h.Edge = k.Edge := by
    funext x y
    exact propext (reordered.children x).mem_iff
  rw [Path, Path, edges]

/-- Nor does it depend on the order what can be read. -/
theorem viewable (reordered : h.Reordered k) {r : Ref} (viewable : h.Viewable r) : k.Viewable r := by
  obtain ⟨v, viewed⟩ := viewable
  obtain ⟨b, located, read⟩ := view_read viewed
  obtain ⟨rfl, found, tagged, known⟩ := locate_found located
  have boxes := reordered.boxes b.address
  rw [found] at boxes
  generalize atB : k.boxes[b.address]? = c at boxes
  cases boxes with
  | some same =>
    obtain ⟨w, read'⟩ := same.payload.read? read
    have knownK : k.Knows b.address := fun tracking => by
      rw [← reordered.contains]
      exact known (reordered.tracking.trans tracking)
    refine ⟨w, ?_⟩
    rw [view, locate_known knownK atB (same.tag ▸ tagged)]
    simp only [read']

end Heap.Reordered

end CountedBox
