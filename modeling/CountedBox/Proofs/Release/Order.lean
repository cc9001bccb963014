import CountedBox.Proofs.Heap.Reordered
import CountedBox.Proofs.Release.Cascade
import CountedBox.Proofs.Tracking.Transparent

namespace CountedBox

/-- Deep releases of the references one after the other. -/
def releases (calls : List Ref) : List Operation := calls.map fun r => .call (.release r true)

namespace Heap.Returned

variable {h : Heap} {calls rest : List Ref} {freed : Finset Address} {times : Ref → Nat} {s : Session}

theorem adopt {h' : Heap} (returned : h.Returned calls h' freed times rest) (s : Session) :
    h.Returned calls (s.adopt h').heap freed times rest := by
  rw [Session.adopt_heap]
  exact returned.settle []

/-- One deep release finishes, whatever it is given. -/
theorem release {r : Ref} (begun : h.Releasable) (returned : h.Returned calls s.heap freed times (r :: rest)) :
    ∃ x s' freed' times', (Operation.call (.release r true)).perform.run s = .ok (x, s') ∧
      h.Returned calls s'.heap freed' times' rest := by
  have asked : (Call.release r true).request? = some (.release r true) := rfl
  change ∃ x s' freed' times', (Call.release r true).perform.run.run s = .ok (x, s') ∧ _
  rw [Call.run_request asked, Request.run, Action.run_map, run_release]
  rcases (returned.releasable begun).dropReference_cases r true with
    ⟨unknown, e, refused⟩ | ⟨a, b, kind, here, contained, found, ⟨more, dropped⟩ | ⟨final, dropped⟩⟩
  · rw [refused]
    exact ⟨_, _, _, _, rfl, (returned.refused unknown).adopt s⟩
  · rw [dropped]
    exact ⟨_, _, _, _, rfl, (returned.shared here contained found more).adopt s⟩
  · have after : h.Returned calls (s.heap.remove a kind true) _ _ (b.children ++ rest) :=
      returned.last here contained found final
    obtain ⟨h', freed', times', done, settled⟩ := after.releaseEach begun
    simp only [dropped, done, if_true]
    exact ⟨_, _, freed', times', rfl, settled.adopt s⟩

/-- A sequence of deep releases finishes, and all that was given up on the way is returned. -/
theorem performAll (begun : h.Releasable) (returned : h.Returned calls s.heap freed times rest) :
    ∃ replies s' freed' times', (performAll (releases rest)).run s = .ok (replies, s') ∧
      h.Returned calls s'.heap freed' times' [] := by
  induction rest generalizing s freed times with
  | nil => exact ⟨[], s, freed, times, rfl, returned⟩
  | cons r rest ih =>
    obtain ⟨x, s', freed', times', first, after⟩ := returned.release begun
    obtain ⟨replies, s'', freed'', times'', others, done⟩ := ih after
    exact ⟨x :: replies, s'', freed'', times'', performAll_cons first others, done⟩

/-- When nothing is left to be given back, what was freed is the least exhausting set. -/
theorem isLeast (returned : h.Returned calls s.heap freed times []) : IsLeast (h.Exhausting calls) freed := by
  refine ⟨⟨returned.known, fun a contained exhausted => ?_⟩, returned.least⟩
  by_contra kept
  have left := returned.left a kept contained
  have ledger := returned.ledger (some a)
  rw [List.count_nil] at ledger
  omega

/-- When nothing is pending each reference was given up as often as it was due. -/
theorem times_eq_due (returned : h.Returned calls s.heap freed times []) : times = h.due calls freed :=
  funext returned.ledger

end Heap.Returned

namespace Heap.Reordered

variable {h k : Heap} {calls calls' : List Ref}

theorem count (reordered : h.Reordered k) (r : Ref) : h.count r = k.count r := by
  cases r with
  | none => rfl
  | some a =>
    have boxes := reordered.boxes a
    simp only [Heap.count, Option.bind_some]
    generalize h.boxes[a]? = b at boxes ⊢
    generalize k.boxes[a]? = c at boxes ⊢
    cases boxes with
    | none => rfl
    | some same => exact same.count

theorem due (reordered : h.Reordered k) (perm : calls.Perm calls') (freed : Finset Address) :
    h.due calls freed = k.due calls' freed := by
  funext r
  have elements : ∀ a ∈ freed, (h.children (some a)).count r = (k.children (some a)).count r :=
    fun a _ => (reordered.children (some a)).count_eq r
  rw [Heap.due, Heap.due, perm.count_eq, Finset.sum_congr rfl elements]

/-- Which sets of boxes are exhausted depends neither on the order of the calls nor on that of the elements. -/
theorem exhausting (reordered : h.Reordered k) (perm : calls.Perm calls') :
    h.Exhausting calls = k.Exhausting calls' := by
  unfold Exhausting
  simp only [reordered.contains, reordered.count, reordered.due perm]

theorem releasable (reordered : h.Reordered k) (releasable : h.Releasable) : k.Releasable := by
  refine ⟨reordered.tracking ▸ releasable.tracking, fun {a} contained => ?_⟩
  obtain ⟨b, kind, found, tagged, fits, positive⟩ := releasable.sound ((reordered.contains a).trans contained)
  have boxes := reordered.boxes a
  rw [found] at boxes
  generalize atA : k.boxes[a]? = c at boxes
  cases boxes with
  | some same =>
    exact ⟨_, kind, rfl, same.tag ▸ tagged, (same.payload.fits kind).symm.trans fits, same.count ▸ positive⟩

/-- Freeing the same boxes and taking the same off the counts of the others leaves the heaps alike. -/
theorem emptied {h' k' : Heap} {freed : Finset Address} {times : Ref → Nat} (reordered : h.Reordered k)
    (left : h.Emptied h' freed times) (right : k.Emptied k' freed times) : h'.Reordered k' := by
  refine ⟨fun a => ?_, fun a => ?_, ?_, ?_⟩
  · rw [left.registry, right.registry, reordered.registry]
  · have boxes := reordered.boxes a
    rw [left.boxes, right.boxes, reordered.contains]
    by_cases gone : a ∈ freed
    · simp only [if_pos gone]
      exact .none
    · simp only [if_neg gone]
      split
      · generalize h.boxes[a]? = b at boxes ⊢
        generalize k.boxes[a]? = c at boxes ⊢
        cases boxes with
        | none => exact .none
        | some same => exact .some ⟨same.tag, congrArg (· - _) same.count, same.payload⟩
      · exact boxes
  · rw [left.tracking, right.tracking, reordered.tracking]
  · rw [left.counter, right.counter, reordered.freed]

end Heap.Reordered

/-- The calls finish one after the other; the boxes they free are the least exhausting set, and each other
known box was given back as often as was due. -/
theorem performAll_releases {s : Session} (releasable : s.heap.Releasable) (calls : List Ref) :
    ∃ replies s' freed, (performAll (releases calls)).run s = .ok (replies, s') ∧
      IsLeast (s.heap.Exhausting calls) freed ∧ s.heap.Emptied s'.heap freed (s.heap.due calls freed) := by
  obtain ⟨replies, s', freed, times, done, returned⟩ := (Heap.Returned.start releasable calls).performAll releasable
  exact ⟨replies, s', freed, done, returned.isLeast, returned.times_eq_due ▸ returned.emptied⟩

/-- Deep release is exact. With tracking on, any calls on any references finish; they free exactly the
least set of known boxes that holds each box given back, by the calls and as an element of a freed box,
as often as it is counted; and from every other known box exactly what was given back is taken off. So
neither the order of the calls nor that of the elements makes a difference to what is left. -/
theorem deep_releases_exact {s : Session} (releasable : s.heap.Releasable) (calls : List Ref) :
    (∃ replies s' freed, (performAll (releases calls)).run s = .ok (replies, s') ∧
      IsLeast (s.heap.Exhausting calls) freed ∧ s.heap.Emptied s'.heap freed (s.heap.due calls freed)) ∧
    ∀ (t : Session) (calls' : List Ref), s.heap.Reordered t.heap → calls.Perm calls' →
      ∃ replies s' replies' t', (performAll (releases calls)).run s = .ok (replies, s') ∧
        (performAll (releases calls')).run t = .ok (replies', t') ∧ s'.heap.Reordered t'.heap := by
  refine ⟨performAll_releases releasable calls, fun t calls' reordered perm => ?_⟩
  obtain ⟨replies, s', freed, doneS, leastS, emptiedS⟩ := performAll_releases releasable calls
  obtain ⟨replies', t', freed', doneT, leastT, emptiedT⟩ :=
    performAll_releases (reordered.releasable releasable) calls'
  rw [← reordered.exhausting perm] at leastT
  cases leastS.unique leastT
  rw [← reordered.due perm] at emptiedT
  exact ⟨replies, s', replies', t', doneS, doneT, reordered.emptied emptiedS emptiedT⟩

/-- A list with some elements, a number, and a list that is an element of itself. -/
def tangled (items : List Ref) : Heap :=
  { boxes := ((Std.TreeMap.empty.insert 4096 ⟨Kind.list.tag, 1, .items items⟩).insert
      4097 ⟨Kind.int.tag, 3, .int 7⟩).insert 4098 ⟨Kind.list.tag, 2, .items [some 4098]⟩
    registry := ((Std.TreeMap.empty.insert 4096 .list).insert 4097 .int).insert 4098 .list
    tracking := true }

theorem tangled_contains {items : List Ref} {a : Address} :
    (tangled items).registry.contains a = true ↔ a = 4096 ∨ a = 4097 ∨ a = 4098 := by
  simp only [tangled, Std.TreeMap.contains_insert]
  grind

theorem tangled_releasable (items : List Ref) : (tangled items).Releasable := by
  refine ⟨rfl, fun {a} contained => ?_⟩
  rcases tangled_contains.mp contained with rfl | rfl | rfl
  · exact ⟨_, .list, rfl, rfl, rfl, Int.one_pos⟩
  · exact ⟨_, .int, rfl, rfl, rfl, by decide⟩
  · exact ⟨_, .list, rfl, rfl, rfl, by decide⟩

theorem tangled_reordered {items items' : List Ref} (perm : items.Perm items') :
    (tangled items).Reordered (tangled items') := by
  refine ⟨fun a => rfl, fun a => ?_, rfl, rfl⟩
  simp only [tangled, Std.TreeMap.getElem?_insert]
  split
  · exact .some ⟨rfl, rfl, .same _⟩
  split
  · exact .some ⟨rfl, rfl, .same _⟩
  split
  · exact .some ⟨rfl, rfl, .items perm⟩
  · exact .none

/-- The first list is freed with the number, which it holds twice, whatever else it holds; the other one
stays, since its own reference to itself would only be given back if it were freed. In another order the
same is left. -/
theorem deep_releases_exact_tangled : ∃ replies s' replies' t',
    (performAll (releases [some 4096, some 4098, some 4097])).run
      { heap := tangled [some 4097, none, some 9, some 4097] } = .ok (replies, s') ∧
    (performAll (releases [some 4097, some 4096, some 4098])).run
      { heap := tangled [some 9, some 4097, some 4097, none] } = .ok (replies', t') ∧
    s'.heap.Reordered t'.heap ∧ s'.heap.freed = 2 ∧ s'.heap.count (some 4098) = 1 := by
  obtain ⟨⟨replies, s', freed, doneS, ⟨exhausting, least⟩, emptied⟩, reordered⟩ :=
    deep_releases_exact (s := { heap := tangled [some 4097, none, some 9, some 4097] }) (tangled_releasable _)
      [some 4096, some 4098, some 4097]
  obtain ⟨_, _, replies', t', doneS', doneT, same⟩ := reordered
    { heap := tangled [some 9, some 4097, some 4097, none] } [some 4097, some 4096, some 4098]
    (tangled_reordered (by decide)) (by decide)
  cases doneS.symm.trans doneS'
  have list : 4096 ∈ freed := exhausting.2 4096 (by decide) (le_trans (by decide)
    (Int.ofNat_le.mpr (Heap.due_mono _ _ (Finset.empty_subset freed) _)))
  have both : freed = {4096, 4097} := by
    refine (least ⟨by decide, fun a contained => ?_⟩).antisymm (Finset.insert_subset list ?_)
    · rcases tangled_contains.mp contained with rfl | rfl | rfl <;> decide
    · refine Finset.singleton_subset_iff.mpr (exhausting.2 4097 (by decide) ?_)
      exact le_trans (by decide) (Int.ofNat_le.mpr (Heap.due_mono _ _ (Finset.singleton_subset_iff.mpr list) _))
  subst both
  refine ⟨replies, s', replies', t', doneS, doneT, same, emptied.counter, ?_⟩
  rw [Heap.count, Option.bind_some, emptied.boxes]
  rfl

end CountedBox
