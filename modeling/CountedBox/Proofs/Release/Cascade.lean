import Mathlib.Algebra.BigOperators.Group.Finset.Basic
import Mathlib.Algebra.Order.BigOperators.Group.Finset
import CountedBox.Proofs.Operation.Effect
import CountedBox.Proofs.Ownership.Balance

namespace CountedBox

namespace Heap

/-- With tracking on, each box that the registry knows can be given back: it is laid out by the kind its
tag stands for, and its count is not exhausted. Elements may be anything, and there may be cycles. -/
structure Releasable (h : Heap) : Prop where
  tracking : h.tracking = true
  sound : ∀ {a : Address}, h.registry.contains a = true → ∃ b kind, h.boxes[a]? = some b ∧
    Kind.ofTag? b.tag = some kind ∧ b.payload.fits kind = true ∧ 0 < b.count

/-- How often a reference is given back in all: by the calls, and as an element of what is freed. -/
def due (h : Heap) (calls : List Ref) (freed : Finset Address) (r : Ref) : Nat :=
  calls.count r + ∑ a ∈ freed, (h.children (some a)).count r

/-- Sets of known boxes that hold each known box given back as often as it is counted. -/
def Exhausting (h : Heap) (calls : List Ref) : Set (Finset Address) :=
  { freed | (∀ a ∈ freed, h.registry.contains a = true) ∧ ∀ a : Address, h.registry.contains a = true →
    h.count (some a) ≤ h.due calls freed (some a) → a ∈ freed }

/-- The heap after some boxes were freed, and each other known box was given back so many times. -/
structure Emptied (h h' : Heap) (freed : Finset Address) (times : Ref → Nat) : Prop where
  registry : ∀ a : Address, h'.registry[a]? = if a ∈ freed then none else h.registry[a]?
  boxes : ∀ a : Address, h'.boxes[a]? = if a ∈ freed then none
    else if h.registry.contains a then (h.boxes[a]?).map fun b => { b with count := b.count - times (some a) }
    else h.boxes[a]?
  tracking : h'.tracking = h.tracking
  boxed : h'.boxed = h.boxed
  counter : h'.freed = h.freed + freed.card

/-- The more is freed, the more references are given up. -/
theorem due_mono (h : Heap) (calls : List Ref) {freed freed' : Finset Address} (subset : freed ⊆ freed')
    (r : Ref) : h.due calls freed r ≤ h.due calls freed' r :=
  Nat.add_le_add_left (Finset.sum_le_sum_of_subset subset) _

/-- With one more box freed, what it held is given up as well. -/
theorem due_insert (h : Heap) (calls : List Ref) {freed : Finset Address} {a : Address} (new : a ∉ freed) (r : Ref) :
    h.due calls (insert a freed) r = h.due calls freed r + (h.children (some a)).count r := by
  rw [due, due, Finset.sum_insert new]
  omega

/-- Giving back is refused for what the registry does not know, and succeeds otherwise. -/
theorem Releasable.dropReference_cases {h : Heap} (releasable : h.Releasable) (r : Ref) (deep : Bool) :
    (∀ a, r = some a → h.registry.contains a = false) ∧ (∃ e, h.dropReference r deep = refuse e) ∨
      ∃ a b kind, r = some a ∧ h.registry.contains a = true ∧ h.boxes[a]? = some b ∧
        (1 < b.count ∧ h.dropReference r deep = .ok (h.write a { b with count := b.count - 1 }, none) ∨
          b.count = 1 ∧ h.dropReference r deep = .ok (h.remove a kind deep, some b.children)) := by
  cases r with
  | none => exact Or.inl ⟨by simp, _, rfl⟩
  | some a =>
    by_cases contained : h.registry.contains a = true
    · obtain ⟨b, kind, found, tagged, fits, positive⟩ := releasable.sound contained
      have known : h.Knows a := fun _ => contained
      refine Or.inr ⟨a, b, kind, rfl, contained, found, ?_⟩
      by_cases shared : 1 < b.count
      · exact Or.inl ⟨shared, dropReference_shared known found tagged shared⟩
      · have last : b.count = 1 := by omega
        refine Or.inr ⟨last, ?_⟩
        rw [dropReference, locate_known known found tagged]
        simp [last, fits, Box.children_of_kind tagged]
    · have unknown : ¬ h.Knows a := fun known => contained (known releasable.tracking)
      refine Or.inl ⟨?_, .unknownObject a, ?_⟩
      · rintro _ ⟨⟩
        exact Bool.eq_false_iff.mpr contained
      · rw [dropReference, locate_unknown unknown]

/-- Some of what is due has been given back, and the rest is still to come. What was freed had to be: it
is in every exhausting set. What was not freed is counted more often than it was given back. -/
structure Returned (h : Heap) (calls : List Ref) (h' : Heap) (freed : Finset Address) (times : Ref → Nat)
    (rest : List Ref) : Prop where
  emptied : h.Emptied h' freed times
  known : ∀ a ∈ freed, h.registry.contains a = true
  least : ∀ other ∈ h.Exhausting calls, freed ⊆ other
  left : ∀ a : Address, a ∉ freed → h.registry.contains a = true → (times (some a) : Int) < h.count (some a)
  ledger : ∀ r, times r + rest.count r = h.due calls freed r

namespace Returned

variable {h h' : Heap} {calls rest : List Ref} {freed : Finset Address} {times : Ref → Nat} {r : Ref}

/-- At the beginning nothing is freed, and all the calls are still to be made. -/
theorem start (releasable : h.Releasable) (calls : List Ref) : h.Returned calls h ∅ (fun _ => 0) calls := by
  refine ⟨⟨by simp, fun a => ?_, rfl, rfl, by simp⟩, by simp, by simp, ?_, by simp [due]⟩
  · cases h.boxes[a]? <;> simp
  · intro a _ contained
    obtain ⟨b, _, found, _, _, positive⟩ := releasable.sound contained
    rwa [count_found found]

theorem settle (returned : h.Returned calls h' freed times rest) (journal : List Note) :
    h.Returned calls { h' with journal } freed times rest :=
  ⟨⟨returned.emptied.registry, returned.emptied.boxes, returned.emptied.tracking, returned.emptied.boxed,
    returned.emptied.counter⟩, returned.known, returned.least, returned.left, returned.ledger⟩

/-- What is registered is what was and is not freed. -/
theorem contains_iff (returned : h.Returned calls h' freed times rest) {a : Address} :
    h'.registry.contains a = true ↔ a ∉ freed ∧ h.registry.contains a = true := by
  rw [Std.TreeMap.contains_eq_isSome_getElem?, Std.TreeMap.contains_eq_isSome_getElem?, returned.emptied.registry]
  by_cases gone : a ∈ freed <;> simp [gone]

/-- What is still known is the box that was there at first, with what was given back taken off. -/
theorem remaining (returned : h.Returned calls h' freed times rest) {a : Address} {b' : Box}
    (contained : h'.registry.contains a = true) (found : h'.boxes[a]? = some b') :
    ∃ b, h.boxes[a]? = some b ∧ b' = { b with count := b.count - times (some a) } := by
  obtain ⟨kept, contained⟩ := returned.contains_iff.mp contained
  rw [returned.emptied.boxes, if_neg kept, if_pos contained] at found
  obtain ⟨b, atA, rfl⟩ := Option.map_eq_some_iff.mp found
  exact ⟨b, atA, rfl⟩

theorem releasable (returned : h.Returned calls h' freed times rest) (begun : h.Releasable) : h'.Releasable := by
  refine ⟨returned.emptied.tracking.trans begun.tracking, fun {a} contained => ?_⟩
  obtain ⟨kept, contained⟩ := returned.contains_iff.mp contained
  obtain ⟨b, kind, found, tagged, fits, _⟩ := begun.sound contained
  have left := returned.left a kept contained
  rw [count_found found] at left
  refine ⟨{ b with count := b.count - times (some a) }, kind, ?_, tagged, fits, ?_⟩
  · rw [returned.emptied.boxes, if_neg kept, if_pos contained, found]
    rfl
  · dsimp only
    omega

/-- One more given back, which the registry did not know. -/
theorem refused (returned : h.Returned calls h' freed times (r :: rest))
    (unknown : ∀ a, r = some a → h'.registry.contains a = false) :
    h.Returned calls h' freed (fun q => times q + [r].count q) rest := by
  have apart : ∀ a, a ∉ freed → h.registry.contains a = true → [r].count (some a) = 0 := by
    intro a kept contained
    refine List.count_eq_zero.mpr fun member => ?_
    have absent := unknown a (List.mem_singleton.mp member).symm
    rw [returned.contains_iff.mpr ⟨kept, contained⟩] at absent
    cases absent
  obtain ⟨registry, boxes, tracking, boxed, counter⟩ := returned.emptied
  refine ⟨⟨registry, fun a => ?_, tracking, boxed, counter⟩, returned.known, returned.least, ?_, ?_⟩
  · refine (boxes a).trans ?_
    by_cases gone : a ∈ freed
    · simp [gone]
    · by_cases contained : h.registry.contains a = true
      · simp only [apart a gone contained, Nat.add_zero]
      · simp [contained]
  · intro a kept contained
    rw [apart a kept contained]
    exact returned.left a kept contained
  · intro q
    have ledger := returned.ledger q
    rw [List.count_cons] at ledger
    rw [← ledger, List.count_cons, List.count_nil]
    omega

/-- One more given back to a box that is counted more often. -/
theorem shared (returned : h.Returned calls h' freed times (r :: rest)) {a : Address} {b' : Box} (here : r = some a)
    (contained : h'.registry.contains a = true) (found : h'.boxes[a]? = some b') (more : 1 < b'.count) :
    h.Returned calls (h'.write a { b' with count := b'.count - 1 }) freed
      (fun q => times q + [r].count q) rest := by
  obtain ⟨b, atA, rfl⟩ := returned.remaining contained found
  obtain ⟨kept, known⟩ := returned.contains_iff.mp contained
  obtain ⟨registry, boxes, tracking, boxed, counter⟩ := returned.emptied
  subst here
  refine ⟨⟨registry, fun c => ?_, tracking, boxed, counter⟩, returned.known, returned.least, ?_, ?_⟩
  · rw [getElem?_write, boxes, count_single]
    by_cases same : a = c
    · subst same
      simp only [if_true, if_neg kept, if_pos known, atA, Option.map_some, Option.some.injEq, Box.mk.injEq, true_and,
        and_true]
      omega
    · have other : some c ≠ some a := fun equal => same (Option.some.inj equal).symm
      simp only [if_neg same, if_neg other, Nat.add_zero]
  · intro c keptC knownC
    have left := returned.left c keptC knownC
    rw [count_single]
    by_cases same : some c = some a
    · cases same
      rw [count_found atA, if_pos rfl]
      dsimp only at more
      omega
    · rw [if_neg same]
      exact left
  · intro q
    have ledger := returned.ledger q
    rw [List.count_cons] at ledger
    rw [← ledger, List.count_cons, List.count_nil]
    omega

/-- One more given back to a box that is counted no more. It is freed, and its elements are to come. -/
theorem last (returned : h.Returned calls h' freed times (r :: rest)) {a : Address} {b' : Box} {kind : Kind}
    {deep : Bool} (here : r = some a) (contained : h'.registry.contains a = true)
    (found : h'.boxes[a]? = some b') (final : b'.count = 1) :
    h.Returned calls (h'.remove a kind deep) (insert a freed) (fun q => times q + [r].count q)
      (b'.children ++ rest) := by
  obtain ⟨b, atA, rfl⟩ := returned.remaining contained found
  obtain ⟨kept, known⟩ := returned.contains_iff.mp contained
  obtain ⟨registry, boxes, tracking, boxed, counter⟩ := returned.emptied
  subst here
  have elements : Box.children { b with count := b.count - times (some a) } = h.children (some a) := by
    rw [children_found atA]
    rfl
  have mine := returned.ledger (some a)
  rw [List.count_cons_self] at mine
  refine ⟨⟨fun c => ?_, fun c => ?_, tracking, boxed, ?_⟩, ?_, ?_, ?_, ?_⟩
  · simp only [Heap.remove, Std.TreeMap.getElem?_erase, Nat.compare_eq_eq, registry, Finset.mem_insert]
    by_cases same : a = c
    · simp [same]
    · simp [same, Ne.symm same]
  · rw [getElem?_remove, boxes, count_single]
    by_cases same : a = c
    · simp [same]
    · have other : some c ≠ some a := fun equal => same (Option.some.inj equal).symm
      simp only [if_neg same, if_neg other, Nat.add_zero, Finset.mem_insert, Ne.symm same, false_or]
  · rw [Finset.card_insert_of_notMem kept]
    simp only [Heap.remove, counter]
    omega
  · intro c member
    rcases Finset.mem_insert.mp member with rfl | old
    · exact known
    · exact returned.known c old
  · -- By now it was given back as often as it is counted, and all of that is due to what had to be freed.
    intro other exhausting
    have subset := returned.least other exhausting
    refine Finset.insert_subset (exhausting.2 a known ?_) subset
    have enough := h.due_mono calls subset (some a)
    rw [count_found atA]
    dsimp only at final
    omega
  · intro c keptC knownC
    rw [Finset.mem_insert, not_or] at keptC
    have other : some c ≠ some a := fun equal => keptC.1 (Option.some.inj equal)
    rw [count_single, if_neg other]
    exact returned.left c keptC.2 knownC
  · intro q
    have ledger := returned.ledger q
    rw [List.count_cons] at ledger
    rw [h.due_insert calls kept, ← ledger, List.count_append, elements, List.count_cons, List.count_nil]
    omega

/-- All that is pending is given back, with what is freed by it. Nothing stops it. -/
theorem releaseEach {pending : List Ref} (begun : h.Releasable)
    (returned : h.Returned calls h' freed times (pending ++ rest)) :
    ∃ h'' freed' times', h'.releaseEach pending = .ok h'' ∧ h.Returned calls h'' freed' times' rest := by
  fun_induction h'.releaseEach pending generalizing freed times with
  | case1 h' => exact ⟨h', freed, times, rfl, returned⟩
  | case2 h' r pending e failed ih =>
    rcases (returned.releasable begun).dropReference_cases r true with
      ⟨unknown, _⟩ | ⟨_, _, _, _, _, _, ⟨_, dropped⟩ | ⟨_, dropped⟩⟩
    · exact ih ((returned.refused unknown).settle _)
    · cases failed.symm.trans dropped
    · cases failed.symm.trans dropped
  | case3 h' r pending f broken =>
    rcases (returned.releasable begun).dropReference_cases r true with
      ⟨_, e, refused⟩ | ⟨_, _, _, _, _, _, ⟨_, dropped⟩ | ⟨_, dropped⟩⟩
    · cases broken.symm.trans refused
    · cases broken.symm.trans dropped
    · cases broken.symm.trans dropped
  | case4 h' r pending next given ih =>
    rcases (returned.releasable begun).dropReference_cases r true with
      ⟨_, e, refused⟩ | ⟨a, b, kind, here, contained, found, ⟨more, dropped⟩ | ⟨_, dropped⟩⟩
    · cases given.symm.trans refused
    · cases given.symm.trans dropped
      exact ih (returned.shared here contained found more)
    · cases given.symm.trans dropped
  | case5 h' r pending next elements given ih =>
    rcases (returned.releasable begun).dropReference_cases r true with
      ⟨_, e, refused⟩ | ⟨a, b, kind, here, contained, found, ⟨_, dropped⟩ | ⟨final, dropped⟩⟩
    · cases given.symm.trans refused
    · cases given.symm.trans dropped
    · cases given.symm.trans dropped
      have after : h.Returned calls (h'.remove a kind true) _ _ (b.children ++ (pending ++ rest)) :=
        returned.last here contained found final
      rw [← List.append_assoc] at after
      exact ih after

end Returned

end Heap

end CountedBox
