import CountedBox.Proofs.Operation.Tracked
import CountedBox.Proofs.Tracking.Lockstep

namespace CountedBox

namespace Heap

/-- What lies at addresses that the registry does not know stays untouched, and stays unknown; and what
the registry knows keeps the kind it was boxed with. -/
structure Spares (h h' : Heap) : Prop where
  later : h.next ≤ h'.next
  unknown : ∀ {a : Address}, a < h.next → h.registry.contains a = false →
    h'.registry.contains a = false ∧ h'.boxes[a]? = h.boxes[a]?
  kept : ∀ {a : Address} {kind : Kind}, a < h.next → h'.registry[a]? = some kind → h.registry[a]? = some kind

namespace Spares

variable {h h' : Heap}

theorem of_same (boxes : h'.boxes = h.boxes) (registry : h'.registry = h.registry) (later : h.next ≤ h'.next) :
    h.Spares h' := by
  refine ⟨later, fun {a} _ absent => ?_, fun {a kind} _ entry => ?_⟩
  · rw [boxes, registry]
    exact ⟨absent, rfl⟩
  · rwa [registry] at entry

theorem refl (h : Heap) : h.Spares h := of_same rfl rfl (Nat.le_refl _)

theorem trans {h'' : Heap} (first : h.Spares h') (second : h'.Spares h'') : h.Spares h'' := by
  refine ⟨Nat.le_trans first.later second.later, fun {a} old absent => ?_, fun {a kind} old entry => ?_⟩
  · obtain ⟨absent', same⟩ := first.unknown old absent
    obtain ⟨absent'', same'⟩ := second.unknown (Nat.lt_of_lt_of_le old first.later) absent'
    exact ⟨absent'', same'.trans same⟩
  · exact first.kept old (second.kept (Nat.lt_of_lt_of_le old first.later) entry)

theorem alloc (h : Heap) (v : Value) : h.Spares (h.alloc v).2 := by
  have registry : ∀ {a : Address}, a < h.next → (h.alloc v).2.registry[a]? = h.registry[a]? := by
    intro a old
    have apart : h.next ≠ a := Nat.ne_of_gt old
    cases tracking : h.tracking <;> simp [Heap.alloc, tracking, Std.TreeMap.getElem?_insert, apart]
  refine ⟨Nat.le_succ _, fun {a} old absent => ⟨?_, ?_⟩, fun {a kind} old entry => ?_⟩
  · rwa [Std.TreeMap.contains_eq_isSome_getElem?, registry old, ← Std.TreeMap.contains_eq_isSome_getElem?]
  · rw [getElem?_alloc, if_neg (Nat.ne_of_gt old)]
  · rwa [registry old] at entry

theorem placeForeign (h : Heap) (tag count : Int) : h.Spares (h.placeForeign tag count).2 := by
  refine ⟨Nat.le_succ _, fun {a} old absent => ⟨absent, ?_⟩, fun _ entry => entry⟩
  have apart : h.next ≠ a := Nat.ne_of_gt old
  simp [Heap.placeForeign, Std.TreeMap.getElem?_insert, apart]

theorem write {a : Address} (known : h.registry.contains a = true) (b : Box) : h.Spares (h.write a b) := by
  refine ⟨Nat.le_refl _, fun {c} _ absent => ⟨absent, ?_⟩, fun _ entry => entry⟩
  have apart : a ≠ c := by
    rintro rfl
    cases known.symm.trans absent
  rw [getElem?_write, if_neg apart]

theorem remove {a : Address} (known : h.registry.contains a = true) (kind : Kind) (deep : Bool) :
    h.Spares (h.remove a kind deep) := by
  refine ⟨Nat.le_refl _, fun {c} _ absent => ?_, fun {c kind} _ entry => ?_⟩
  · have apart : a ≠ c := by
      rintro rfl
      cases known.symm.trans absent
    rw [getElem?_remove, if_neg apart]
    exact ⟨by simp [Heap.remove, Std.TreeMap.contains_erase, absent], rfl⟩
  · simp only [Heap.remove, Std.TreeMap.getElem?_erase] at entry
    split at entry
    · cases entry
    · exact entry

end Spares

/-- With tracking on no change touches a box that is not registered. -/
theorem Change.spares {h h' : Heap} (change : h.Change h') (tracking : h.tracking = true) : h.Spares h' := by
  cases change with
  | note n => exact .of_same rfl rfl (Nat.le_refl _)
  | settle => exact .of_same rfl rfl (Nat.le_refl _)
  | box v => exact .alloc h v
  | retain added =>
    obtain ⟨a, b, kind, _, known, _, _, _, _, rfl⟩ := addReference_cases added
    exact .write (known tracking) _
  | drop dropped =>
    obtain ⟨a, b, kind, _, known, _, _, ⟨_, rfl, _⟩ | ⟨_, rfl, _⟩⟩ := dropReference_cases dropped
    · exact .write (known tracking) _
    · exact .remove (known tracking) kind _
  | store found known => exact .write (known tracking) _

/-- Nor does a sequence of them. -/
theorem Changes.spares {h h' : Heap} (changes : h.Changes h') (tracking : h.tracking = true) : h.Spares h' := by
  induction changes with
  | refl => exact .refl h
  | tail before change ih => exact ih.trans (change.spares ((Changes.tracking before).trans tracking))

/-- The heap with nothing in it but what the registry knows. -/
def registered (h : Heap) : Heap := { h with boxes := h.boxes.filter fun a _ => h.registry.contains a }

theorem getElem?_registered (h : Heap) (a : Address) :
    h.registered.boxes[a]? = if h.registry.contains a then h.boxes[a]? else none := by
  simp only [registered, Std.TreeMap.getElem?_filter']
  cases h.boxes[a]? <;> cases h.registry.contains a <;> rfl

theorem registered_found {h : Heap} {a : Address} {b : Box} (found : h.registered.boxes[a]? = some b) :
    h.registry.contains a = true ∧ h.boxes[a]? = some b := by
  rw [getElem?_registered] at found
  split at found
  · exact ⟨‹_›, found⟩
  · cases found

/-- A tracked heap cannot be told from the part of it that is registered. -/
theorem alike_registered {h : Heap} (tracking : h.tracking = true) : h.Alike h.registered where
  boxes known _ := by rw [getElem?_registered, if_pos (known tracking)]
  left known unknown := absurd known unknown
  right known unknown := absurd known unknown
  registry _ := rfl
  next := rfl
  boxed := rfl
  freed := rfl
  journal := rfl

/-- The registered part is in order by itself. -/
theorem coherent_registered {h : Heap} (coherent : h.Coherent) : h.registered.Coherent := by
  have fewer : ∀ r s, h.registered.Edge r s → h.Edge r s := by
    intro r s edge
    obtain ⟨a, b, rfl, found, member⟩ := edge_iff.mp edge
    exact edge_iff.mpr ⟨a, b, rfl, (registered_found found).2, member⟩
  refine ⟨?_, ?_, ?_, ?_, ?_, fun edge => coherent.existing (fewer _ _ edge), coherent.acyclic.of_edges fewer⟩
  · intro a kind entry
    obtain ⟨b, found, tag⟩ := coherent.registered entry
    have contained : h.registry.contains a = true := by
      rw [Std.TreeMap.contains_eq_isSome_getElem?, show h.registry[a]? = some kind from entry]
      rfl
    exact ⟨b, by rw [getElem?_registered, if_pos contained, found], tag⟩
  · exact fun found known => coherent.typed (registered_found found).2 known
  · exact fun found known => coherent.counted (registered_found found).2 known
  · exact fun found unknown => absurd (fun _ => (registered_found found).1) unknown
  · exact fun found => coherent.below (registered_found found).2

end Heap

/-- With tracking on an operation works the same if there is nothing but what the registry knows. -/
theorem Operation.perform_registered {op : Operation} {s s' : Session} {x : Except Error Reply}
    (steady : op.Steady) (existing : op.Existing s.heap) (coherent : s.heap.Coherent)
    (tracking : s.heap.tracking = true) (done : op.perform.run s = .ok (x, s')) :
    ∃ t', op.perform.run { s with heap := s.heap.registered } = .ok (x, t') ∧ s'.Alike t' ∧
      s'.heap.tracking = t'.heap.tracking := by
  let t : Session := { s with heap := s.heap.registered }
  have coherentT : t.heap.Coherent := Heap.coherent_registered coherent
  have existingT : op.Existing t.heap := fun q asked => by
    have exist := existing q asked
    cases q with
    | box v => exact exist
    | _ => trivial
  obtain ⟨y, t', doneT⟩ := op.perform_tracked steady coherentT tracking
  have alike : s.Alike t := ⟨Heap.alike_registered tracking, rfl, rfl, rfl, rfl, rfl⟩
  have both := Operation.perform_lockstep steady alike (fun _ => rfl) rfl
  rw [done, doneT] at both
  have changesS := perform_changes steady existing (coherent.guarded tracking)
    (fun r _ => coherent.safe tracking r) done
  have changesT := perform_changes steady existingT (coherentT.guarded tracking)
    (fun r _ => coherentT.safe tracking r) doneT
  cases both with
  | both _ after => exact ⟨t', doneT, after, changesS.tracking.trans changesT.tracking.symm⟩

end CountedBox
