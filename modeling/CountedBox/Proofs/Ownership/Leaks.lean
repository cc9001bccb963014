import CountedBox.Proofs.Ownership.Client

namespace CountedBox

theorem toList_eq_nil {β : Type} {m : Std.TreeMap Address β} (empty : ∀ a : Address, m[a]? = none) :
    m.toList = [] := by
  rw [List.eq_nil_iff_forall_not_mem]
  rintro ⟨a, x⟩ member
  have found := Std.TreeMap.mem_toList_iff_getElem?_eq_some.mp member
  rw [empty a] at found
  cases found

theorem size_eq_zero {β : Type} {m : Std.TreeMap Address β} (empty : ∀ a : Address, m[a]? = none) :
    m.size = 0 := by
  rw [← Std.TreeMap.length_toList, toList_eq_nil empty, List.length_nil]

namespace Heap.Balanced

variable {h : Heap} {held : Holdings}

/-- From a box that no held reference leads to, one can climb from container to container forever. -/
theorem climb (balanced : h.Balanced held) {a : Address} {b : Box} (found : h.boxes[a]? = some b)
    (unowned : ∀ r, 0 < held r → ¬ h.Path r (some a)) (n : Nat) :
    ∃ c d, h.boxes[c]? = some d ∧ h.Path (some c) (some a) ∧ h.Descends n (some c) := by
  induction n with
  | zero => exact ⟨a, b, found, .refl, .here _⟩
  | succ n ih =>
    obtain ⟨c, d, atC, path, descends⟩ := ih
    have exact := balanced.exact (some c)
    have positive := balanced.positive atC
    have released : held (some c) = 0 := by
      by_contra holds
      exact unowned _ (Nat.pos_of_ne_zero holds) path
    rw [count_found atC] at exact
    obtain ⟨holder, edge⟩ := occurrences_pos_iff.mp (show 0 < h.occurrences (some c) by omega)
    obtain ⟨e, f, rfl, atE, _⟩ := edge_iff.mp edge
    exact ⟨e, f, atE, .head edge path, .down edge descends⟩

/-- Every box is reachable from one that the client holds a reference to. -/
theorem rooted (balanced : h.Balanced held) {a : Address} {b : Box} (found : h.boxes[a]? = some b) :
    ∃ r, 0 < held r ∧ h.Path r (some a) := by
  by_contra unowned
  -- Each step up makes the way down one box longer, and there are only so many boxes.
  have apart : ∀ r, 0 < held r → ¬ h.Path r (some a) := fun r holds path => unowned ⟨r, holds, path⟩
  obtain ⟨c, d, _, _, descends⟩ := balanced.climb found apart (h.boxes.size + 1)
  have bound := descends.le_size balanced.coherent.acyclic
  omega

/-- The registry is empty when the heap is. -/
theorem unregistered (balanced : h.Balanced held) (empty : ∀ a : Address, h.boxes[a]? = none) (a : Address) :
    h.registry[a]? = none := by
  cases entry : h.registry[a]? with
  | none => rfl
  | some kind =>
    obtain ⟨b, found, _⟩ := balanced.coherent.registered entry
    rw [empty a] at found
    cases found

end Heap.Balanced

/-- No leaks. Every box is reachable, through zero or more elements, from one that the client holds a
reference to. Once the client holds none any more, nothing is left, and shutting down says so. In a run the
address of a freed box is not given out again. -/
theorem ClientRun.no_leaks {s : Session} {held : Holdings} (run : ClientRun s held) :
    (∀ (a : Address) (b : Box), s.heap.boxes[a]? = some b → ∃ r, 0 < held r ∧ s.heap.Path r (some a)) ∧
    ((∀ r, held r = 0) → (∀ a : Address, s.heap.boxes[a]? = none) ∧
      s.heap.statistics.boxed = s.heap.statistics.freed ∧ s.heap.statistics.live = 0 ∧
      s.heap.liveObjects = [] ∧ ∃ s', shutdown.run s = .ok (0, s')) := by
  have balanced := run.balanced
  refine ⟨fun a b found => balanced.rooted found, fun released => ?_⟩
  have empty : ∀ a : Address, s.heap.boxes[a]? = none := by
    intro a
    cases found : s.heap.boxes[a]? with
    | none => rfl
    | some b =>
      obtain ⟨r, holds, _⟩ := balanced.rooted found
      exact absurd holds (by simp [released r])
  have counters : s.heap.boxed = s.heap.freed := by
    rw [balanced.counters, size_eq_zero empty, Nat.add_zero]
  have unregistered := balanced.unregistered empty
  have live : s.heap.statistics.live = 0 := by
    simp only [Heap.statistics]
    split
    · exact size_eq_zero unregistered
    · rw [counters, Nat.sub_self]
  obtain ⟨s', done, _⟩ := shutdown_run balanced.coherent.registered
  exact ⟨empty, counters, live, toList_eq_nil unregistered, s', live ▸ done⟩

/-- The session that follows when the tuple is given back by itself, and then the number. -/
def numberReleased : Session :=
  let number := numberInTuple.heap.remove 4097 .tuple false
  { heap := { number.remove 4096 .int false with journal := [] } }

def numberReleased_held : Holdings :=
  (((numberInTuple_held.spend [some 4097]).gain [some 4096]).spend [some 4096]).gain []

theorem numberReleased_run : ClientRun numberReleased numberReleased_held := by
  have number : ClientRun { heap := { numberInTuple.heap.remove 4097 .tuple false with journal := [] } }
      ((numberInTuple_held.spend [some 4097]).gain [some 4096]) :=
    .operate (.call (.release (some 4097) false)) numberInTuple_run (by simp [Operation.Steady])
      ⟨by rintro q ⟨⟩; exact Or.inr Nat.one_pos, by rintro r ⟨⟩⟩ rfl
  exact .operate (.call (.release (some 4096) false)) number (by simp [Operation.Steady])
    ⟨by rintro q ⟨⟩; exact Or.inr Nat.one_pos, by rintro r ⟨⟩⟩ rfl

/-- The number is reachable while the tuple is held, and in the end nothing is left. -/
theorem no_leaks_numberReleased :
    (∃ r, 0 < numberInTuple_held r ∧ numberInTuple.heap.Path r (some 4096)) ∧
      numberReleased.heap.statistics.live = 0 ∧ ∃ s', shutdown.run numberReleased = .ok (0, s') := by
  have released : ∀ r, numberReleased_held r = 0 := by
    intro r
    simp only [numberReleased_held, numberInTuple_held, Holdings.gain_apply, Holdings.spend_apply]
    simp
  obtain ⟨_, _, live, _, ended⟩ := (ClientRun.no_leaks numberReleased_run).2 released
  exact ⟨(ClientRun.no_leaks numberInTuple_run).1 4096 _ rfl, live, ended⟩

end CountedBox
