import CountedBox.Proofs.Heap.Answers
import CountedBox.Proofs.Heap.Reordered

namespace CountedBox.Heap

/-- A search told turn by turn: the references it has looked into, those that are pending, how many turns
it takes from there, and its answer. Each turn deals with the first that is pending; what it has looked into
before is passed over. -/
inductive Searches (h : Heap) (target : Ref) : List Ref → List Ref → Nat → Except Stop Bool → Prop
  | exhausted (seen : List Ref) : Searches h target seen [] 0 (.ok false)
  | found (seen rest : List Ref) : Searches h target seen (target :: rest) 1 (.ok true)
  | refused {seen rest : List Ref} {r : Ref} {stop : Stop} : r ≠ target → r ∉ seen →
      h.view r = .error stop → Searches h target seen (r :: rest) 1 (.error stop)
  | entered {seen rest : List Ref} {r : Ref} {v : Value} {turns : Nat} {answer : Except Stop Bool} :
      r ≠ target → r ∉ seen → h.view r = .ok v →
      Searches h target (r :: seen) (v.children.reverse ++ rest) turns answer →
      Searches h target seen (r :: rest) (turns + 1) answer
  | passed {seen rest : List Ref} {r : Ref} {turns : Nat} {answer : Except Stop Bool} :
      r ≠ target → r ∈ seen → Searches h target seen rest turns answer →
      Searches h target seen (r :: rest) (turns + 1) answer

/-- How many elements the boxes hold together. -/
def elementCount (boxes : Std.TreeMap Address Box) : Nat :=
  totalWeight (fun b => b.children.length) boxes

/-- A box that is taken out of what is left takes its elements along. -/
theorem elementCount_erase {h : Heap} {fresh : Std.TreeMap Address Box} {r : Ref} {v : Value}
    (within : ∀ {a : Address} {b : Box}, fresh[a]? = some b → h.boxes[a]? = some b)
    (viewed : h.view r = .ok v) (present : fresh.contains r.address = true) :
    elementCount fresh = v.children.length + elementCount (fresh.erase r.address) := by
  obtain ⟨a, b, rfl, _, found, elements⟩ := view_found viewed
  rw [Std.TreeMap.contains_eq_isSome_getElem?] at present
  obtain ⟨c, atA⟩ := Option.isSome_iff_exists.mp present
  have same : c = b := Option.some.inj ((within atA).symm.trans found)
  rw [elementCount, totalWeight_erase atA, same, elements]
  rfl

/-- Each turn uses up a pending reference, and the elements that a box adds to those are added once, when
the box is entered. So pending references and elements of fresh boxes bound the turns. -/
theorem search_turns {h : Heap} {target : Ref} {fresh : Std.TreeMap Address Box} {seen pending : List Ref}
    (within : ∀ {a : Address} {b : Box}, fresh[a]? = some b → h.boxes[a]? = some b)
    (remembered : ∀ r, r ∈ seen ↔ h.Explored target fresh r) :
    ∃ turns ≤ pending.length + elementCount fresh,
      h.Searches target seen pending turns (h.search target fresh pending) := by
  fun_induction h.search target fresh pending generalizing seen with
  | case1 fresh => exact ⟨0, Nat.zero_le _, .exhausted seen⟩
  | case2 fresh rest => exact ⟨1, by rw [List.length_cons]; omega, .found seen rest⟩
  | case3 fresh r rest other stop failed =>
    have new : r ∉ seen := by
      intro old
      obtain ⟨_, ⟨v, viewed⟩, _⟩ := (remembered r).mp old
      cases viewed.symm.trans failed
    exact ⟨1, by rw [List.length_cons]; omega, .refused other new failed⟩
  | case4 fresh r rest other v viewed present ih =>
    have new : r ∉ seen := by
      intro old
      cases present.symm.trans ((remembered r).mp old).2.2
    have kept : ∀ {a : Address} {b : Box}, (fresh.erase r.address)[a]? = some b → h.boxes[a]? = some b := by
      intro a b found
      rw [Std.TreeMap.getElem?_erase] at found
      split at found
      · cases found
      · exact within found
    have entered : ∀ s, s ∈ r :: seen ↔ h.Explored target (fresh.erase r.address) s := by
      intro s
      rw [explored_erase other ⟨v, viewed⟩, List.mem_cons, remembered]
    obtain ⟨turns, bound, searches⟩ := ih kept entered
    have opened := elementCount_erase within viewed present
    rw [List.length_append, List.length_reverse] at bound
    exact ⟨turns + 1, by rw [List.length_cons]; omega, .entered other new viewed searches⟩
  | case5 fresh r rest other v viewed absent ih =>
    have old : r ∈ seen := (remembered r).mpr ⟨other, ⟨v, viewed⟩, Bool.eq_false_iff.mpr absent⟩
    obtain ⟨turns, bound, searches⟩ := ih within remembered
    exact ⟨turns + 1, by rw [List.length_cons]; omega, .passed other old searches⟩

/-- At the start every box is fresh, so nothing is explored yet. -/
theorem not_explored_start {h : Heap} {target r : Ref} : ¬ h.Explored target h.boxes r := by
  rintro ⟨_, ⟨v, viewed⟩, gone⟩
  obtain ⟨a, b, rfl, _, found, _⟩ := view_found viewed
  cases (contains_found found).symm.trans gone

/-- The search ends, after at most one turn for its source and one for each element there is. -/
theorem reaches_turns (h : Heap) (source target : Ref) : ∃ turns ≤ [source].length + elementCount h.boxes,
    h.Searches target [] [source] turns (h.reaches source target) :=
  search_turns (fun found => found) fun _ => iff_of_false List.not_mem_nil not_explored_start

/-- What the registry knows is there, and laid out by the kind its tag stands for if it stands for one.
Elements may be anything, and there may be cycles. -/
def Intact (h : Heap) : Prop := ∀ a : Address, h.registry.contains a = true →
  ∃ b, h.boxes[a]? = some b ∧ ∀ kind, Kind.ofTag? b.tag = some kind → b.payload.fits kind = true

/-- In a heap that was not tampered with viewing answers, also a reference that leads nowhere. -/
theorem Intact.view_answers {h : Heap} (intact : h.Intact) (tracking : h.tracking = true) (r : Ref) :
    Answers NoFault (h.view r) := by
  have safe : h.Safe NoFault r := by
    intro a _ known missing
    obtain ⟨b, found, _⟩ := intact a (known tracking)
    cases missing.symm.trans found
  refine Guarded.view_answers_of_fits safe fun located => ?_
  obtain ⟨_, found, tagged, known⟩ := locate_found located
  obtain ⟨c, atB, layout⟩ := intact _ (known tracking)
  cases found.symm.trans atB
  exact layout _ tagged

/-- The search is exact, in every heap. It ends within one turn more than there are elements. It says yes
only if there is a way to the target over boxes that can be viewed; no only if there is none and all that
is reachable can be viewed; and it stops only at something reachable that cannot be viewed. With tracking
on that is a refusal. Where all can be viewed, the order of elements makes no difference. -/
theorem reaches_exact (h : Heap) (source target : Ref) :
    (∃ turns ≤ 1 + elementCount h.boxes, h.Searches target [] [source] turns (h.reaches source target)) ∧
    (h.reaches source target = .ok true → h.ViewedPath source target) ∧
    (h.reaches source target = .ok false →
      ¬ h.Path source target ∧ ∀ s, h.Path source s → h.Viewable s) ∧
    (∀ stop, h.reaches source target = .error stop → ∃ s, h.ViewedPath source s ∧ h.view s = .error stop) ∧
    (h.tracking = true → h.Intact → Answers NoFault (h.reaches source target)) ∧
    ((∀ s, h.Path source s → h.Viewable s) →
      ∀ k : Heap, h.Reordered k → k.reaches source target = h.reaches source target) := by
  refine ⟨h.reaches_turns source target, reaches_true, ?_, fun stop => reaches_error, ?_, ?_⟩
  · intro done
    exact ⟨fun path => (reaches_false done path).1 rfl, fun s path => (reaches_false done path).2⟩
  · intro tracking intact fault stopped
    obtain ⟨s, _, failed⟩ := reaches_error stopped
    exact intact.view_answers tracking s fault failed
  · intro clear k reordered
    have clearK : ∀ s, k.Path source s → k.Viewable s := fun s path =>
      reordered.viewable (clear s (reordered.path_iff.mpr path))
    obtain ⟨found, answered, decided⟩ := reaches_of_clear clear target
    obtain ⟨foundK, answeredK, decidedK⟩ := reaches_of_clear clearK target
    have same : foundK = found := Bool.eq_iff_iff.mpr (decidedK.trans (reordered.path_iff.symm.trans decided.symm))
    rw [answered, answeredK, same]

/-- A list of anything, and a list that holds it. -/
def knot (items : List Ref) : Heap :=
  { boxes := (Std.TreeMap.empty.insert 4096 ⟨Kind.list.tag, 2, .items items⟩).insert
      4097 ⟨Kind.list.tag, 1, .items [some 4096]⟩
    registry := (Std.TreeMap.empty.insert 4096 .list).insert 4097 .list
    tracking := true }

theorem knot_viewable {items : List Ref} {r : Ref} (inside : r = some 4096 ∨ r = some 4097) : (knot items).Viewable r := by
  rcases inside with rfl | rfl
  · exact ⟨.list items, rfl⟩
  · exact ⟨.list [some 4096], rfl⟩

/-- Nothing but the two boxes is reached. -/
theorem knot_path {items : List Ref} {r : Ref} (closed : ∀ s ∈ items, s = some 4096 ∨ s = some 4097)
    (path : (knot items).Path (some 4097) r) : r = some 4096 ∨ r = some 4097 := by
  induction path with
  | refl => exact Or.inr rfl
  | tail _ edge ih =>
    rcases ih with rfl | rfl
    · exact closed _ edge
    · exact Or.inl (List.mem_singleton.mp edge)

theorem knot_reordered {items items' : List Ref} (perm : items.Perm items') : (knot items).Reordered (knot items') := by
  refine ⟨fun a => rfl, fun a => ?_, rfl, rfl⟩
  simp only [knot, Std.TreeMap.getElem?_insert]
  split
  · exact .some ⟨rfl, rfl, .same _⟩
  split
  · exact .some ⟨rfl, rfl, .items perm⟩
  · exact .none

/-- Two lists that hold each other, and one of them itself: the search for null goes through both and ends,
in either order of the elements. -/
theorem reaches_exact_knot :
    (∃ turns ≤ 5, (knot [some 4097, some 4096, some 4097]).Searches none [] [some 4097] turns (.ok false)) ∧
      (knot [some 4096, some 4097, some 4097]).reaches (some 4097) none = .ok false := by
  have closed : ∀ s ∈ [some 4097, some 4096, some 4097], s = some 4096 ∨ s = some 4097 := by decide
  obtain ⟨⟨turns, bound, searches⟩, yes, _, stops, _, unordered⟩ :=
    reaches_exact (knot [some 4097, some 4096, some 4097]) (some 4097) none
  have absent : (knot [some 4097, some 4096, some 4097]).reaches (some 4097) none = .ok false := by
    cases result : (knot [some 4097, some 4096, some 4097]).reaches (some 4097) none with
    | error stop =>
      obtain ⟨s, path, failed⟩ := stops stop result
      obtain ⟨v, viewed⟩ := knot_viewable (knot_path closed path.path)
      cases viewed.symm.trans failed
    | ok found =>
      cases found with
      | false => rfl
      | true => exact absurd (knot_path closed (yes result).path) (by decide)
  refine ⟨⟨turns, bound, absent ▸ searches⟩, ?_⟩
  rw [unordered (fun s path => knot_viewable (knot_path closed path)) _ (knot_reordered (by decide)), absent]

end CountedBox.Heap
