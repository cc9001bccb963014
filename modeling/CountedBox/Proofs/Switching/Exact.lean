import CountedBox.Proofs.Operation.Tracked

namespace CountedBox

namespace Heap

variable {h h' : Heap} {tracked : Address → Prop}

/-- The registry, the counters and the boxes agree, where `tracked` are the addresses that were given out
while tracking was on. Whether it is on now does not matter: what is there is laid out and counted also
where the registry does not know it. -/
structure Exact (h : Heap) (tracked : Address → Prop) : Prop where
  coherent : (h.setTracking false).Coherent
  limited : ∀ {a : Address} {b : Box}, h.boxes[a]? = some b → b.count ≤ maxCount
  listed : ∀ a : Address, h.registry.contains a = true ↔ tracked a ∧ h.boxes.contains a = true
  ledger : h.boxed = h.freed + h.boxes.size
  given : ∀ {a : Address}, tracked a → a < h.next

/-- The addresses that were given out between two heaps while tracking was on. -/
def TrackedSince (h h' : Heap) (a : Address) : Prop := h.tracking = true ∧ h.next ≤ a ∧ a < h'.next

/-- Without tracking the registry is not asked. -/
theorem knows_off (h : Heap) (a : Address) : (h.setTracking false).Knows a := nofun

theorem contains_alloc {v : Value} {a : Address} :
    (h.alloc v).2.boxes.contains a = true ↔ a = h.next ∨ h.boxes.contains a = true := by
  rw [eq_comm (a := a)]
  simp [Heap.alloc, Std.TreeMap.contains_insert]

theorem trackedSince_alloc {v : Value} {a : Address} :
    h.TrackedSince (h.alloc v).2 a ↔ h.tracking = true ∧ a = h.next := by
  refine and_congr_right fun _ => ⟨fun ⟨low, high⟩ => Nat.le_antisymm (Nat.le_of_lt_succ high) low, ?_⟩
  rintro rfl
  exact ⟨Nat.le_refl _, Nat.lt_succ_self _⟩

namespace Exact

theorem start (tracking : Bool) : Heap.Exact { tracking } fun _ => False where
  coherent := .start false
  limited := by simp
  listed := by simp
  ledger := rfl
  given := False.elim

theorem congr {tracked' : Address → Prop} (exact : h.Exact tracked) (same : ∀ a, tracked a ↔ tracked' a) :
    h.Exact tracked' := by
  have equal : tracked = tracked' := funext fun a => propext (same a)
  exact equal ▸ exact

/-- Switching tracking changes no box and no entry of the registry. -/
theorem setTracking (exact : h.Exact tracked) (on : Bool) : (h.setTracking on).Exact tracked :=
  ⟨exact.coherent, exact.limited, exact.listed, exact.ledger, exact.given⟩

theorem of_same (exact : h.Exact tracked) (boxes : h'.boxes = h.boxes) (registry : h'.registry = h.registry)
    (next : h'.next = h.next) (boxed : h'.boxed = h.boxed) (freed : h'.freed = h.freed) : h'.Exact tracked where
  coherent := exact.coherent.of_same boxes registry rfl next
  limited := by rw [boxes]; exact exact.limited
  listed := by rw [boxes, registry]; exact exact.listed
  ledger := by rw [boxes, boxed, freed]; exact exact.ledger
  given := by rw [next]; exact exact.given

/-- A box that is made with tracking on is tracked from then on. -/
theorem alloc (exact : h.Exact tracked) {v : Value} (exist : ∀ a, some a ∈ v.children → a < h.next) :
    (h.alloc v).2.Exact fun a => tracked a ∨ h.TrackedSince (h.alloc v).2 a where
  coherent := by
    refine exact.coherent.grow ⟨v.kind.tag, 1, v.payload⟩ (h.getElem?_alloc v) rfl ?_ ?_ ?_ ?_ ?_
    · exact fun a kind entry => (registry_alloc entry).imp_left fun new => ⟨new.1, congrArg Kind.tag new.2⟩
    · exact fun a _ => ⟨fun _ => knows_off h a, fun _ => knows_off _ a⟩
    · exact fun _ => ⟨⟨v, rfl, rfl⟩, Int.one_pos⟩
    · exact fun unknown => absurd (knows_off _ _) unknown
    · rw [Box.children_of_value]
      exact exist
  limited := by
    intro a b found
    rw [getElem?_alloc] at found
    split at found
    · cases found
      show (1 : Int) ≤ 2147483647
      decide
    · exact exact.limited found
  listed := by
    intro a
    have given : a = h.next → ¬ tracked a := fun new known =>
      absurd (exact.given known) (new ▸ Nat.lt_irrefl _)
    rw [registry_contains_alloc, contains_alloc, trackedSince_alloc, exact.listed a]
    constructor
    · rintro (⟨on, new⟩ | ⟨known, there⟩)
      · exact ⟨Or.inr ⟨on, new⟩, Or.inl new⟩
      · exact ⟨Or.inl known, Or.inr there⟩
    · rintro ⟨known | now, new | there⟩
      · exact absurd known (given new)
      · exact Or.inr ⟨known, there⟩
      · exact Or.inl now
      · exact Or.inl now
  ledger := by
    have ledger := exact.ledger
    rw [h.size_alloc v exact.coherent.fresh]
    simp only [Heap.alloc]
    omega
  given := by
    rintro a (known | ⟨_, _, below⟩)
    · exact Nat.lt_succ_of_lt (exact.given known)
    · exact below

theorem write (exact : h.Exact tracked) {a : Address} {old b : Box} (found : h.boxes[a]? = some old)
    (coherent : ((h.setTracking false).write a b).Coherent) (limited : b.count ≤ maxCount) :
    (h.write a b).Exact tracked where
  coherent := coherent
  limited := by
    intro c d atC
    rw [getElem?_write] at atC
    split at atC
    · cases atC
      exact limited
    · exact exact.limited atC
  listed := by
    intro c
    have boxes : (h.write a b).boxes.contains c = h.boxes.contains c := by
      rw [Heap.write, Std.TreeMap.contains_insert]
      by_cases here : a = c
      · rw [← here, contains_found found, Bool.or_true]
      · simp [here]
    rw [boxes]
    exact exact.listed c
  ledger := by
    rw [size_write found]
    exact exact.ledger
  given := exact.given

/-- A box that is freed leaves both the heap and the registry. -/
theorem remove (exact : h.Exact tracked) {a : Address} {b : Box} (found : h.boxes[a]? = some b) (kind : Kind)
    (deep : Bool) : (h.remove a kind deep).Exact tracked where
  coherent := exact.coherent.remove a kind deep
  limited := by
    intro c d atC
    rw [getElem?_remove] at atC
    split at atC
    · cases atC
    · exact exact.limited atC
  listed := by
    intro c
    have old := exact.listed c
    simp only [Heap.remove, Std.TreeMap.contains_erase, Bool.and_eq_true]
    rw [old]
    exact and_left_comm
  ledger := by
    have ledger := exact.ledger
    have fewer := size_remove found kind deep
    simp only [Heap.remove] at fewer ⊢
    omega
  given := exact.given

/-- Where no address was given out, none was tracked. -/
theorem extend (exact : h'.Exact tracked) (same : h'.next = h.next) :
    h'.Exact fun a => tracked a ∨ h.TrackedSince h' a := by
  refine exact.congr fun a => (or_iff_left ?_).symm
  rintro ⟨_, low, high⟩
  rw [same] at high
  exact Nat.lt_irrefl _ (Nat.lt_of_le_of_lt low high)

/-- What one change does to the three records keeps them in agreement. -/
theorem change (exact : h.Exact tracked) (step : h.Change h') :
    h'.Exact fun a => tracked a ∨ h.TrackedSince h' a := by
  cases step with
  | note n => exact Exact.extend (exact.of_same rfl rfl rfl rfl rfl) rfl
  | settle => exact Exact.extend (exact.of_same rfl rfl rfl rfl rfl) rfl
  | box v exist => exact exact.alloc exist
  | retain added =>
    obtain ⟨a, b, kind, _, _, found, _, positive, below, rfl⟩ := addReference_cases added
    have recounted := exact.coherent.recount (n := b.count + 1) found (knows_off h a) (by omega)
    exact Exact.extend (exact.write found recounted (by dsimp only; omega)) rfl
  | drop dropped =>
    obtain ⟨a, b, kind, _, _, found, _, ⟨shared, rfl, _⟩ | ⟨_, rfl, _⟩⟩ := dropReference_cases dropped
    · have limited := exact.limited found
      have recounted := exact.coherent.recount (n := b.count - 1) found (knows_off h a) (by omega)
      exact Exact.extend (exact.write found recounted (by dsimp only; omega)) rfl
    · exact Exact.extend (exact.remove found kind _) rfl
  | @store b v item found _ tagged elements viewable apart =>
    have viewableOff : (h.setTracking false).Viewable item := by
      obtain ⟨w, viewed⟩ := viewable
      obtain ⟨c, box, rfl, _, atItem, _⟩ := view_found viewed
      exact exact.coherent.viewable atItem (knows_off h c)
    have stored := exact.coherent.store found (knows_off h _) tagged elements viewableOff apart
    exact Exact.extend (exact.write found stored (exact.limited (b := b.box) found)) rfl

/-- Along any sequence of changes the boxes tracked are those from before and those made under tracking. -/
theorem changes (exact : h.Exact tracked) (steps : h.Changes h') :
    h'.Exact fun a => tracked a ∨ h.TrackedSince h' a := by
  induction steps with
  | refl => exact exact.extend rfl
  | @tail middle last before step ih =>
    refine (ih.change step).congr fun a => ?_
    have tracking := Changes.tracking before
    have early := Changes.next_le before
    have late := step.next_le
    simp only [TrackedSince, tracking, or_assoc]
    refine or_congr_right ?_
    constructor
    · rintro (⟨on, low, high⟩ | ⟨on, low, high⟩)
      · exact ⟨on, low, Nat.lt_of_lt_of_le high late⟩
      · exact ⟨on, Nat.le_trans early low, high⟩
    · rintro ⟨on, low, high⟩
      rcases Nat.lt_or_ge a middle.next with before | after
      · exact Or.inl ⟨on, low, before⟩
      · exact Or.inr ⟨on, after, high⟩

end Exact

end Heap

end CountedBox
