import CountedBox.Containers
import CountedBox.Proofs.Heap.Search

namespace CountedBox.Heap

/-- What every operation keeps true of a heap, also for programs that misuse references. A box that
the registry does not know is a header somebody else placed, and holds nothing. -/
structure Coherent (h : Heap) : Prop where
  registered : ∀ {a : Address} {kind : Kind}, h.registry[a]? = some kind →
    ∃ b, h.boxes[a]? = some b ∧ b.tag = kind.tag
  typed : ∀ {a : Address} {b : Box}, h.boxes[a]? = some b → h.Knows a → ∃ v, b.Stores v
  counted : ∀ {a : Address} {b : Box}, h.boxes[a]? = some b → h.Knows a → 0 < b.count
  foreign : ∀ {a : Address} {b : Box}, h.boxes[a]? = some b → ¬ h.Knows a → b.children = []
  below : ∀ {a : Address} {b : Box}, h.boxes[a]? = some b → a < h.next
  existing : ∀ {r : Ref} {a : Address}, h.Edge r (some a) → a < h.next
  acyclic : h.Acyclic

/-- One change of the heap. Every operation is a sequence of these. -/
inductive Change (h : Heap) : Heap → Prop
  | note (n : Note) : Change h (h.note n)
  | settle : Change h { h with journal := [] }
  | box (v : Value) : (∀ a, some a ∈ v.children → a < h.next) → Change h (h.alloc v).2
  | retain {h' r} : h.addReference r = .ok h' → Change h h'
  | drop {h' r deep freed} : h.dropReference r deep = .ok (h', freed) → Change h h'
  /-- A container takes over an item that does not lead to it. -/
  | store {b : Located} {v : Value} {item : Ref} : h.boxes[b.address]? = some b.box →
      h.Knows b.address → Kind.ofTag? b.box.tag = some v.kind →
      (∀ s ∈ v.children, s ∈ b.box.children ∨ s = item) → h.Viewable item →
      ¬ h.Path item (some b.address) → Change h (h.store b v.payload)

/-- Changes one after the other. -/
abbrev Changes : Heap → Heap → Prop := Relation.ReflTransGen Change

/-! Acyclicity under fewer edges, edges from a new box, and one edge to an item. -/

/-- Taking edges away closes no cycle. -/
theorem Acyclic.of_edges {h h' : Heap} (acyclic : h.Acyclic)
    (fewer : ∀ r s, h'.Edge r s → h.Edge r s) : h'.Acyclic :=
  fun r cycle => acyclic r (Relation.TransGen.mono fewer _ _ cycle)

/-- A box that nothing holds lies on no cycle, whatever it holds. -/
theorem Acyclic.of_new {h h' : Heap} (new : Ref) (acyclic : h.Acyclic)
    (old : ∀ r s, r ≠ new → h'.Edge r s → h.Edge r s) (unheld : ∀ r, ¬ h'.Edge r new) :
    h'.Acyclic := by
  intro r cycle
  have target_ne : ∀ {x y}, Relation.TransGen h'.Edge x y → y ≠ new := by
    rintro x y path rfl
    obtain ⟨_, _, edge⟩ := Relation.TransGen.tail'_iff.mp path
    exact unheld _ edge
  have inOld : ∀ {y}, Relation.TransGen h'.Edge r y → Relation.TransGen h.Edge r y := by
    intro y path
    induction path with
    | single edge => exact .single (old _ _ (target_ne cycle) edge)
    | tail front edge ih => exact ih.tail (old _ _ (target_ne front) edge)
  exact acyclic r (inOld cycle)

/-- An edge closes no cycle if its end does not reach its start. -/
theorem Acyclic.of_added {h h' : Heap} (container item : Ref) (acyclic : h.Acyclic)
    (edges : ∀ r s, h'.Edge r s → h.Edge r s ∨ r = container ∧ s = item)
    (apart : ¬ h.Path item container) : h'.Acyclic := by
  intro r cycle
  -- A path in the new heap either avoids the added edge, or comes to it and goes on from it.
  have split : ∀ {x y}, Relation.TransGen h'.Edge x y →
      Relation.TransGen h.Edge x y ∨ h.Path x container ∧ h.Path item y := by
    intro x y path
    induction path with
    | single edge =>
      rcases edges _ _ edge with old | ⟨rfl, rfl⟩
      · exact Or.inl (.single old)
      · exact Or.inr ⟨.refl, .refl⟩
    | tail _ edge ih =>
      rcases edges _ _ edge with old | ⟨rfl, rfl⟩
      · rcases ih with avoiding | ⟨before, after⟩
        · exact Or.inl (avoiding.tail old)
        · exact Or.inr ⟨before, after.tail old⟩
      · rcases ih with avoiding | ⟨before, _⟩
        · exact Or.inr ⟨avoiding.to_reflTransGen, .refl⟩
        · exact Or.inr ⟨before, .refl⟩
  rcases split cycle with avoiding | ⟨before, after⟩
  · exact acyclic r avoiding
  · exact apart (after.trans before)

/-! Addresses are given out in order. -/

/-- Addresses are given out in increasing order. -/
theorem Change.next_le {h h' : Heap} (step : h.Change h') : h.next ≤ h'.next := by
  cases step with
  | box v exist => exact Nat.le_succ _
  | retain added =>
    obtain ⟨_, _, _, _, _, _, _, _, _, rfl⟩ := addReference_cases added
    exact Nat.le_refl _
  | drop dropped =>
    obtain ⟨_, _, _, _, _, _, _, ⟨_, rfl, _⟩ | ⟨_, rfl, _⟩⟩ := dropReference_cases dropped
    · exact Nat.le_refl _
    · exact Nat.le_refl _
  | _ => exact Nat.le_refl _

/-- So they are along any sequence of changes. -/
theorem Changes.next_le {h h' : Heap} (steps : h.Changes h') : h.next ≤ h'.next := by
  induction steps with
  | refl => exact Nat.le_refl _
  | tail _ step ih => exact Nat.le_trans ih step.next_le

/-! What the registry lets pass after a change. -/

theorem registry_contains_alloc {h : Heap} {v : Value} {a : Address} :
    (h.alloc v).2.registry.contains a = true ↔
      h.tracking = true ∧ a = h.next ∨ h.registry.contains a = true := by
  rw [eq_comm (a := a)]
  cases tracking : h.tracking <;> simp [alloc, tracking, Std.TreeMap.contains_insert]

theorem knows_alloc {h : Heap} {v : Value} {a : Address} :
    (h.alloc v).2.Knows a ↔ a = h.next ∨ h.Knows a := by
  have same : (h.alloc v).2.tracking = h.tracking := rfl
  rw [Knows, Knows, same, registry_contains_alloc]
  cases h.tracking <;> simp

theorem registry_alloc {h : Heap} {v : Value} {a : Address} {kind : Kind}
    (entry : (h.alloc v).2.registry[a]? = some kind) :
    h.next = a ∧ v.kind = kind ∨ h.registry[a]? = some kind := by
  cases tracking : h.tracking with
  | false => exact Or.inr (by simpa [alloc, tracking] using entry)
  | true =>
    by_cases here : h.next = a
    · exact Or.inl ⟨here, by simpa [alloc, tracking, here] using entry⟩
    · exact Or.inr (by simpa [alloc, tracking, Std.TreeMap.getElem?_insert, here] using entry)

theorem knows_remove {h : Heap} {a c : Address} {kind : Kind} {deep : Bool} (other : a ≠ c) :
    (h.remove a kind deep).Knows c ↔ h.Knows c := by
  simp [Knows, remove, other]

namespace Coherent

variable {h h' : Heap}

/-- A box that the registry lets pass can be read. -/
theorem viewable (coherent : h.Coherent) {a : Address} {b : Box} (found : h.boxes[a]? = some b)
    (known : h.Knows a) : h.Viewable (some a) := by
  obtain ⟨v, stores⟩ := coherent.typed found known
  exact ⟨v, view_stores known found stores⟩

/-- At the address that is given out next there is no box. -/
theorem fresh (coherent : h.Coherent) : h.boxes[h.next]? = none := by
  cases found : h.boxes[h.next]? with
  | none => rfl
  | some b => exact absurd (coherent.below found) (Nat.lt_irrefl _)

theorem of_same (coherent : h.Coherent) (boxes : h'.boxes = h.boxes)
    (registry : h'.registry = h.registry) (tracking : h'.tracking = h.tracking)
    (next : h'.next = h.next) : h'.Coherent := by
  have knows : ∀ a, h'.Knows a ↔ h.Knows a := fun a => by rw [Knows, Knows, registry, tracking]
  have edges : h'.Edge = h.Edge := by funext r s; rw [Edge, Edge, children, children, boxes]
  refine ⟨?_, ?_, ?_, ?_, ?_, ?_, ?_⟩
  · rw [boxes, registry]; exact coherent.registered
  · intro a b; rw [boxes, knows]; exact coherent.typed
  · intro a b; rw [boxes, knows]; exact coherent.counted
  · intro a b; rw [boxes, knows]; exact coherent.foreign
  · rw [boxes, next]; exact coherent.below
  · rw [edges, next]; exact coherent.existing
  · exact coherent.acyclic.of_edges (by rw [edges]; exact fun _ _ edge => edge)

/-- A new box at the next address, with elements that have been given out before. -/
theorem grow (coherent : h.Coherent) (new : Box)
    (boxes : ∀ a : Address, h'.boxes[a]? = if h.next = a then some new else h.boxes[a]?)
    (next : h'.next = h.next + 1)
    (entries : ∀ (a : Address) (kind : Kind), h'.registry[a]? = some kind →
      h.next = a ∧ new.tag = kind.tag ∨ h.registry[a]? = some kind)
    (knows : ∀ a, a ≠ h.next → (h'.Knows a ↔ h.Knows a))
    (own : h'.Knows h.next → (∃ v, new.Stores v) ∧ 0 < new.count)
    (foreign : ¬ h'.Knows h.next → new.children = [])
    (exist : ∀ a, some a ∈ new.children → a < h.next) : h'.Coherent := by
  have found_cases : ∀ {a : Address} {b : Box}, h'.boxes[a]? = some b →
      a = h.next ∧ b = new ∨ a ≠ h.next ∧ h.boxes[a]? = some b := by
    intro a b found
    rw [boxes] at found
    split at found
    · rename_i here
      exact Or.inl ⟨here.symm, (Option.some.inj found).symm⟩
    · rename_i other
      exact Or.inr ⟨Ne.symm other, found⟩
  have edge_cases : ∀ {r s}, h'.Edge r s → r = some h.next ∧ s ∈ new.children ∨ h.Edge r s := by
    intro r s edge
    obtain ⟨a, b, rfl, found, member⟩ := edge_iff.mp edge
    rcases found_cases found with ⟨rfl, rfl⟩ | ⟨_, old⟩
    · exact Or.inl ⟨rfl, member⟩
    · exact Or.inr (edge_iff.mpr ⟨a, b, rfl, old, member⟩)
  -- Nothing leads to the new box, since all elements have been given out before it.
  have target_lt : ∀ {r a}, h'.Edge r (some a) → a < h.next := by
    intro r a edge
    rcases edge_cases edge with ⟨_, child⟩ | old
    · exact exist a child
    · exact coherent.existing old
  refine ⟨?_, ?_, ?_, ?_, ?_, ?_, ?_⟩
  · intro a kind entry
    rcases entries a kind entry with ⟨here, tag⟩ | old
    · exact ⟨new, by rw [boxes, if_pos here], tag⟩
    · obtain ⟨b, found, tag⟩ := coherent.registered old
      exact ⟨b, by rw [boxes, if_neg (Nat.ne_of_gt (coherent.below found))]; exact found, tag⟩
  · intro a b found known
    rcases found_cases found with ⟨rfl, rfl⟩ | ⟨other, old⟩
    · exact (own known).1
    · exact coherent.typed old ((knows a other).mp known)
  · intro a b found known
    rcases found_cases found with ⟨rfl, rfl⟩ | ⟨other, old⟩
    · exact (own known).2
    · exact coherent.counted old ((knows a other).mp known)
  · intro a b found unknown
    rcases found_cases found with ⟨rfl, rfl⟩ | ⟨other, old⟩
    · exact foreign unknown
    · exact coherent.foreign old (mt (knows a other).mpr unknown)
  · intro a b found
    rw [next]
    rcases found_cases found with ⟨rfl, rfl⟩ | ⟨_, old⟩
    · exact Nat.lt_succ_self _
    · exact Nat.lt_succ_of_lt (coherent.below old)
  · intro r a edge
    rw [next]
    exact Nat.lt_succ_of_lt (target_lt edge)
  · refine coherent.acyclic.of_new (some h.next) ?_ ?_
    · intro r s other edge
      exact (edge_cases edge).resolve_left (fun fromNew => other fromNew.1)
    · exact fun r edge => absurd (target_lt edge) (Nat.lt_irrefl _)

/-- A new box holds only addresses that were given out before it, so it is on no cycle. -/
theorem alloc (coherent : h.Coherent) {v : Value} (exist : ∀ a, some a ∈ v.children → a < h.next) :
    (h.alloc v).2.Coherent := by
  refine coherent.grow _ (h.getElem?_alloc v) rfl ?_ ?_ ?_ ?_ ?_
  · exact fun a kind entry => (registry_alloc entry).imp_left fun new => ⟨new.1, congrArg Kind.tag new.2⟩
  · intro a other
    rw [knows_alloc, or_iff_right other]
  · exact fun _ => ⟨⟨v, rfl, rfl⟩, Int.one_pos⟩
  · exact fun unknown => absurd (knows_alloc.mpr (Or.inl rfl)) unknown
  · rw [Box.children_of_value]
    exact exist

/-- A box that was not made here is not registered, so with tracking on nothing has to hold of it. -/
theorem placeForeign (coherent : h.Coherent) (tag count : Int) (tracking : h.tracking = true) :
    (h.placeForeign tag count).2.Coherent := by
  have empty : Box.children ⟨tag, count, .empty⟩ = [] := by
    simp only [Box.children]
    split
    · rfl
    · rename_i kind _
      cases kind <;> rfl
  have unknown : ¬ (h.placeForeign tag count).2.Knows h.next := by
    intro known
    have contained : h.registry.contains h.next = true := known tracking
    rw [Std.TreeMap.contains_eq_isSome_getElem?] at contained
    obtain ⟨kind, entry⟩ := Option.isSome_iff_exists.mp contained
    obtain ⟨b, found, _⟩ := coherent.registered entry
    exact absurd (coherent.below found) (Nat.lt_irrefl _)
  refine coherent.grow ⟨tag, count, .empty⟩ ?_ rfl (fun _ _ entry => Or.inr entry)
    (fun _ _ => Iff.rfl) (fun known => absurd known unknown) (fun _ => empty) (by simp [empty])
  intro a
  simp [Heap.placeForeign, Std.TreeMap.getElem?_insert]

/-- A box may be written over by another of its kind that keeps the heap free of cycles. -/
theorem write (coherent : h.Coherent) {a : Address} {old b : Box} (found : h.boxes[a]? = some old)
    (known : h.Knows a) (tag : b.tag = old.tag) (stores : ∃ v, b.Stores v) (positive : 0 < b.count)
    (exist : ∀ c, some c ∈ b.children → c < h.next) (acyclic : (h.write a b).Acyclic) :
    (h.write a b).Coherent := by
  refine ⟨?_, ?_, ?_, ?_, ?_, ?_, acyclic⟩
  · intro c kind entry
    obtain ⟨d, atC, same⟩ := coherent.registered entry
    rw [getElem?_write]
    by_cases here : a = c
    · subst here
      have : d = old := Option.some.inj (atC.symm.trans found)
      exact ⟨b, if_pos rfl, by rw [tag, ← this, same]⟩
    · exact ⟨d, by rw [if_neg here]; exact atC, same⟩
  · intro c d atC knownC
    rw [getElem?_write] at atC
    split at atC
    · cases atC
      exact stores
    · exact coherent.typed atC knownC
  · intro c d atC knownC
    rw [getElem?_write] at atC
    split at atC
    · cases atC
      exact positive
    · exact coherent.counted atC knownC
  · intro c d atC unknown
    rw [getElem?_write] at atC
    split at atC
    · rename_i here
      exact absurd (here ▸ known) unknown
    · exact coherent.foreign atC unknown
  · intro c d atC
    rw [getElem?_write] at atC
    split at atC
    · rename_i here
      exact here ▸ coherent.below found
    · exact coherent.below atC
  · intro r c edge
    rw [Edge, children_write] at edge
    split at edge
    · exact exist c edge
    · exact coherent.existing edge

/-- Changing a count leaves every element where it is. -/
theorem recount (coherent : h.Coherent) {a : Address} {b : Box} {n : Int}
    (found : h.boxes[a]? = some b) (known : h.Knows a) (positive : 0 < n) :
    (h.write a { b with count := n }).Coherent := by
  obtain ⟨v, stores⟩ := coherent.typed found known
  refine coherent.write found known rfl ⟨v, stores⟩ positive ?_ ?_
  · intro c member
    exact coherent.existing (edge_iff.mpr ⟨a, b, rfl, found, member⟩)
  · refine coherent.acyclic.of_edges fun r s edge => ?_
    rw [Edge, children_write] at edge
    split at edge
    · rename_i here
      exact edge_iff.mpr ⟨a, b, here, found, edge⟩
    · exact edge

/-- Freeing a box leaves what holds it with an address that is not registered any more. -/
theorem remove (coherent : h.Coherent) (a : Address) (kind : Kind) (deep : Bool) :
    (h.remove a kind deep).Coherent := by
  have kept : ∀ {c b}, (h.remove a kind deep).boxes[c]? = some b → a ≠ c ∧ h.boxes[c]? = some b := by
    intro c b atC
    rw [getElem?_remove] at atC
    split at atC
    · simp at atC
    · exact ⟨by assumption, atC⟩
  have edges : ∀ {r s}, (h.remove a kind deep).Edge r s → h.Edge r s := by
    intro r s edge
    rw [Edge, children_remove] at edge
    split at edge
    · simp at edge
    · exact edge
  refine ⟨?_, ?_, ?_, ?_, ?_, ?_, ?_⟩
  · intro c kindC entry
    have split : a ≠ c ∧ h.registry[c]? = some kindC := by
      by_cases here : a = c
      · simp [Heap.remove, here] at entry
      · exact ⟨here, by simpa [Heap.remove, Std.TreeMap.getElem?_erase, here] using entry⟩
    obtain ⟨b, found, tag⟩ := coherent.registered split.2
    exact ⟨b, by rw [getElem?_remove, if_neg split.1]; exact found, tag⟩
  · intro c b atC known
    obtain ⟨other, found⟩ := kept atC
    exact coherent.typed found ((knows_remove other).mp known)
  · intro c b atC known
    obtain ⟨other, found⟩ := kept atC
    exact coherent.counted found ((knows_remove other).mp known)
  · intro c b atC unknown
    obtain ⟨other, found⟩ := kept atC
    exact coherent.foreign found (mt (knows_remove other).mpr unknown)
  · intro c b atC
    exact coherent.below (kept atC).2
  · exact fun edge => coherent.existing (edges edge)
  · exact coherent.acyclic.of_edges fun _ _ edge => edges edge

/-- Storing an item that does not reach its container keeps the heap in order. -/
theorem store (coherent : h.Coherent) {b : Located} {v : Value} {item : Ref}
    (found : h.boxes[b.address]? = some b.box) (known : h.Knows b.address)
    (tagged : Kind.ofTag? b.box.tag = some v.kind)
    (elements : ∀ s ∈ v.children, s ∈ b.box.children ∨ s = item) (viewable : h.Viewable item)
    (apart : ¬ h.Path item (some b.address)) : (h.store b v.payload).Coherent := by
  have stores : Box.Stores { b.box with payload := v.payload } v := .of_tagged tagged rfl
  have member : ∀ {s}, s ∈ Box.children { b.box with payload := v.payload } →
      h.Edge (some b.address) s ∨ s = item := by
    intro s child
    rw [stores.children] at child
    exact (elements s child).imp_left fun old => edge_iff.mpr ⟨_, _, rfl, found, old⟩
  have positive := coherent.counted found known
  refine coherent.write found known rfl ⟨v, stores⟩ positive ?_ ?_
  · intro c child
    rcases member child with old | rfl
    · exact coherent.existing old
    · obtain ⟨_, viewed⟩ := viewable
      obtain ⟨a, _, same, _, atItem, _⟩ := view_found viewed
      cases same
      exact coherent.below atItem
  · refine coherent.acyclic.of_added (some b.address) item ?_ apart
    intro r s edge
    rw [Edge, children_write] at edge
    split at edge
    · rename_i here
      subst here
      exact (member edge).imp_right fun new => ⟨rfl, new⟩
    · exact Or.inl edge

/-- Each of the changes keeps the heap in order. -/
theorem change (coherent : h.Coherent) (step : h.Change h') : h'.Coherent := by
  cases step with
  | note n => exact coherent.of_same rfl rfl rfl rfl
  | settle => exact coherent.of_same rfl rfl rfl rfl
  | box v exist => exact coherent.alloc exist
  | retain added =>
    obtain ⟨a, b, kind, rfl, known, found, _, positive, _, rfl⟩ := addReference_cases added
    exact coherent.recount found known (by omega)
  | drop dropped =>
    obtain ⟨a, b, kind, rfl, known, found, _, ⟨shared, rfl, _⟩ | ⟨_, rfl, _⟩⟩ :=
      dropReference_cases dropped
    · exact coherent.recount found known (by omega)
    · exact coherent.remove a kind _
  | store found known tagged elements viewable apart =>
    exact coherent.store found known tagged elements viewable apart

/-- So does any sequence of them. -/
theorem changes (coherent : h.Coherent) (steps : h.Changes h') : h'.Coherent := by
  induction steps with
  | refl => exact coherent
  | tail _ step ih => exact ih.change step

theorem start (tracking : Bool) : Heap.Coherent { tracking } where
  registered := by simp
  typed := by simp
  counted := by simp
  foreign := by simp
  below := by simp
  existing := by
    intro r a edge
    obtain ⟨_, _, _, found, _⟩ := edge_iff.mp edge
    simp at found
  acyclic := by
    intro r cycle
    obtain ⟨_, edge, _⟩ := Relation.TransGen.head'_iff.mp cycle
    obtain ⟨_, _, _, found, _⟩ := edge_iff.mp edge
    simp at found

end Coherent

end CountedBox.Heap
