import CountedBox.Proofs.Insertion.Atomicity
import CountedBox.Proofs.Recursion.Calls

namespace CountedBox

section Lists

variable {α β : Type} {xs : List α}

theorem mapM_congr {f g : α → Except Stop β} (each : ∀ x ∈ xs, f x = g x) : xs.mapM f = xs.mapM g := by
  induction xs with
  | nil => rfl
  | cons head tail ih =>
    rw [List.mapM_cons, List.mapM_cons, each head List.mem_cons_self,
      ih fun x member => each x (List.mem_cons_of_mem _ member)]

theorem allM_congr {f g : α → Except Stop Bool} (each : ∀ x ∈ xs, f x = g x) : xs.allM f = xs.allM g := by
  induction xs with
  | nil => rfl
  | cons head tail ih =>
    rw [List.allM, List.allM, each head List.mem_cons_self,
      ih fun x member => each x (List.mem_cons_of_mem _ member)]

theorem anyM_congr {f g : α → Except Stop Bool} (each : ∀ x ∈ xs, f x = g x) : xs.anyM f = xs.anyM g := by
  induction xs with
  | nil => rfl
  | cons head tail ih =>
    rw [List.anyM, List.anyM, each head List.mem_cons_self,
      ih fun x member => each x (List.mem_cons_of_mem _ member)]

end Lists

namespace Value

/-- To write a value only its elements have to be written. -/
theorem renderBy_congr {render render' : Ref → Except Stop String} {v : Value}
    (each : ∀ x ∈ v.children, render x = render' x) : v.renderBy render = v.renderBy render' := by
  have listed : ∀ {opening closing : String} {items : List Ref}, (∀ x ∈ items, render x = render' x) →
      (do return bracketed opening closing (← items.mapM render) : Except Stop String) =
        do return bracketed opening closing (← items.mapM render') := by
    intro opening closing items each
    rw [mapM_congr each]
  cases v with
  | list items => exact listed each
  | set items => exact listed each
  | tuple items => exact listed each
  | record fields =>
    refine congrArg (· >>= _) (mapM_congr fun field member => ?_)
    have child : field.2 ∈ (record fields).children := by
      rw [children, values_eq_map_toList]
      exact List.mem_map_of_mem member
    rw [each field.2 child]
  | _ => rfl

/-- To compare two values only elements of one have to be compared to elements of the other. -/
theorem equalsBy_congr {same same' : Ref → Ref → Except Stop Bool} {v w : Value}
    (each : ∀ x ∈ v.children, ∀ y ∈ w.children, same x y = same' x y ∧ same y x = same' y x) :
    v.equalsBy same w = v.equalsBy same' w := by
  have pairwise : ∀ {xs ys : List Ref}, (∀ x ∈ xs, ∀ y ∈ ys, same x y = same' x y ∧ same y x = same' y x) →
      pairwiseBy same xs ys = pairwiseBy same' xs ys := by
    intro xs ys each
    exact allM_congr fun pair member => (each _ (List.of_mem_zip member).1 _ (List.of_mem_zip member).2).1
  unfold equalsBy
  split
  all_goals first | rfl | split <;> [skip; rfl]
  · exact pairwise each
  · exact pairwise each
  · exact allM_congr fun x inLeft => anyM_congr fun y inRight => (each x inLeft y inRight).2
  · exact pairwise each

end Value

namespace Heap

/-- One call of the recursion that writes a box; `call` stands for the calls below. -/
def renderStep (h : Heap) (call : Ref → Except Stop String) (r : Ref) : Except Stop String := do
  (← h.view r).renderBy call

/-- The call that writes a box by itself; its elements are left to the recursion. -/
def renderTopStep (h : Heap) (r : Ref) (call : Ref → Except Stop String) : Except Stop String := do
  match ← h.view r with
  | .string bytes => return Text.lossy bytes
  | v => v.renderBy call

/-- One call of the recursion that compares two boxes. -/
def equalsStep (h : Heap) (call : Ref × Ref → Except Stop Bool) (pair : Ref × Ref) : Except Stop Bool :=
  if pair.1 = pair.2 then do
    let _ ← h.view pair.1
    return true
  else do
    let x ← h.view pair.1
    let y ← h.view pair.2
    x.equalsBy (fun a b => call (a, b)) y

/-- The boxes that one comparison may compare: an element of either with one of the other. -/
def comparisons (h : Heap) (pair : Ref × Ref) : List (Ref × Ref) :=
  h.children pair.1 ×ˢ h.children pair.2 ++ h.children pair.2 ×ˢ h.children pair.1

variable {h : Heap}

theorem renderWithin_succ (bound : Nat) : h.renderWithin (bound + 1) = h.renderStep (h.renderWithin bound) := rfl

theorem renderTop_eq (r : Ref) : h.renderTop r = h.renderTopStep r (h.renderWithin h.boxes.size) := rfl

theorem equalsWithin_succ (bound : Nat) : (fun pair : Ref × Ref => h.equalsWithin (bound + 1) pair.1 pair.2) =
    h.equalsStep fun pair => h.equalsWithin bound pair.1 pair.2 := rfl

/-- Writing one level asks for the elements of the reference and for nothing else. -/
theorem renderStep_congr {call call' : Ref → Except Stop String} {r : Ref}
    (each : ∀ x ∈ h.children r, call x = call' x) : h.renderStep call r = h.renderStep call' r := by
  unfold renderStep
  cases viewed : h.view r with
  | error stop => rfl
  | ok v => exact Value.renderBy_congr (children_of_view viewed ▸ each)

theorem renderTopStep_congr {call call' : Ref → Except Stop String} {r : Ref}
    (each : ∀ x ∈ h.children r, call x = call' x) : h.renderTopStep r call = h.renderTopStep r call' := by
  unfold renderTopStep
  cases viewed : h.view r with
  | error stop => rfl
  | ok v =>
    have same := Value.renderBy_congr (children_of_view viewed ▸ each)
    cases v <;> first | rfl | exact same

/-- Comparing one level asks for pairs of elements and for nothing else. -/
theorem equalsStep_congr {call call' : Ref × Ref → Except Stop Bool} {pair : Ref × Ref}
    (each : ∀ p ∈ h.comparisons pair, call p = call' p) : h.equalsStep call pair = h.equalsStep call' pair := by
  unfold equalsStep
  split
  · rfl
  · cases left : h.view pair.1 with
    | error stop => rfl
    | ok v =>
      cases right : h.view pair.2 with
      | error stop => rfl
      | ok w =>
        refine Value.equalsBy_congr fun x inLeft y inRight => ?_
        rw [← children_of_view left] at inLeft
        rw [← children_of_view right] at inRight
        exact ⟨each _ (List.mem_append_left _ (List.pair_mem_product.mpr ⟨inLeft, inRight⟩)),
          each _ (List.mem_append_right _ (List.pair_mem_product.mpr ⟨inRight, inLeft⟩))⟩

/-! Calls are nested no deeper than elements are. -/

/-- Calls nested in each other for writing are a descent through the heap. -/
theorem descends_of_nests_children {n : Nat} {r : Ref} (nests : Nests h.children n r) : h.Descends n r := by
  induction nests with
  | here r => exact .here r
  | call edge _ ih => exact .down edge ih

/-- Comparisons nested in each other are a descent on both sides. -/
theorem descends_of_nests_comparisons {n : Nat} {pair : Ref × Ref} (nests : Nests h.comparisons n pair) :
    h.Descends n pair.1 ∧ h.Descends n pair.2 := by
  induction nests with
  | here pair => exact ⟨.here _, .here _⟩
  | call member _ ih =>
    rcases List.mem_append.mp member with straight | crossed
    · obtain ⟨left, right⟩ := List.pair_mem_product.mp straight
      exact ⟨.down left ih.1, .down right ih.2⟩
    · obtain ⟨right, left⟩ := List.pair_mem_product.mp crossed
      exact ⟨.down left ih.2, .down right ih.1⟩

theorem statistics_live (tracking : h.tracking = true) : h.statistics.live = h.registry.size := if_pos tracking

/-- Only live boxes have elements, and a way down goes through different ones. -/
theorem Coherent.descends_le_live (coherent : h.Coherent) (tracking : h.tracking = true) {n : Nat} {r : Ref}
    (descends : h.Descends n r) : n ≤ h.statistics.live := by
  rw [statistics_live tracking, ← Std.TreeMap.length_keys]
  refine descends.le_length (coherent.acyclic.below r) fun {a s} edge => ?_
  obtain ⟨_, b, same, found, member⟩ := edge_iff.mp edge
  cases same
  have known : h.Knows a := by
    by_contra unknown
    rw [coherent.foreign found unknown] at member
    cases member
  exact Std.TreeMap.mem_keys.mpr (Std.TreeMap.mem_iff_contains.mpr (known tracking))

/-- There are at least as many boxes as are registered. -/
theorem Coherent.live_le_size (coherent : h.Coherent) (tracking : h.tracking = true) :
    h.statistics.live ≤ h.boxes.size := by
  rw [statistics_live tracking]
  refine size_le_of_contains fun a known => ?_
  rw [Std.TreeMap.contains_eq_isSome_getElem?] at known
  obtain ⟨kind, entry⟩ := Option.isSome_iff_exists.mp known
  obtain ⟨b, found, _⟩ := coherent.registered entry
  exact contains_found found

/-- If no descent is longer than the depth, writing ends within that depth of calls. -/
theorem ends_render {depth bound : Nat} {r : Ref} (shallow : ¬ h.Descends depth r) (enough : depth ≤ bound) :
    Ends h.renderStep depth r (h.renderWithin bound r) :=
  ends_of_not_nests h.renderWithin renderWithin_succ renderStep_congr
    (fun nests => shallow (descends_of_nests_children nests)) enough

/-- So does comparing, if no descent on the left side is longer. -/
theorem ends_equals {depth bound : Nat} {a b : Ref} (shallow : ¬ h.Descends depth a) (enough : depth ≤ bound) :
    Ends h.equalsStep depth (a, b) (h.equalsWithin bound a b) :=
  ends_of_not_nests (fun bound pair => h.equalsWithin bound pair.1 pair.2) equalsWithin_succ equalsStep_congr
    (fun nests => shallow (descends_of_nests_comparisons nests).1) enough

theorem comesTo_renderTop {depth : Nat} {r : Ref} (shallow : ¬ h.Descends (depth + 1) r)
    (enough : depth ≤ h.boxes.size) : ComesTo (Ends h.renderStep depth) (h.renderTopStep r) (h.renderTop r) := by
  refine ⟨h.children r, h.renderWithin h.boxes.size, fun x member => ?_, fun call answered => ?_⟩
  · exact ends_render (fun descends => shallow (.down member descends)) enough
  · rw [renderTop_eq]
    exact renderTopStep_congr answered

theorem comesTo_contains {depth : Nat} {items : List Ref} {item : Ref}
    (each : ∀ x ∈ items, Ends h.equalsStep depth (x, item) (h.equals x item)) :
    ComesTo (Ends h.equalsStep depth) (fun call => containsBy (fun x y => call (x, y)) items item)
      (h.contains items item) := by
  refine ⟨items.map (·, item), fun pair => h.equals pair.1 pair.2, fun pair asked => ?_, fun call answered => ?_⟩
  · obtain ⟨x, member, rfl⟩ := List.mem_map.mp asked
    exact each x member
  · exact anyM_congr fun x member => answered (x, item) (List.mem_map_of_mem member)

/-- Without a bound, a list that holds itself is never written to its end. -/
theorem not_ends_of_holds_itself {r : Ref} (viewed : h.view r = .ok (.list [r])) (depth : Nat)
    (outcome : Except Stop String) : ¬ Ends h.renderStep depth r outcome := by
  induction depth generalizing outcome with
  | zero => exact id
  | succ depth ih =>
    rintro ⟨asked, answer, ended, comes⟩
    by_cases member : r ∈ asked
    · exact ih _ (ended r member)
    -- The outcome would not depend on what becomes of the list inside.
    · have stops : ∀ stop, outcome = .error stop := by
        intro stop
        classical
        let call i := if i ∈ asked then answer i else .error stop
        have inside : call r = .error stop := if_neg member
        have came : h.renderStep call r = outcome := comes call fun i asks => if_pos asks
        rw [← came, renderStep, viewed]
        simp only [Value.renderBy, List.mapM_cons, bind, Except.bind, inside]
      cases (stops (.fault .tooDeep)).symm.trans (stops (.fault (.dangling 0)))

end Heap

/-- Along a tracked run no descent takes more steps than there are live boxes. -/
theorem TrackedRun.not_descends {s : Session} (run : TrackedRun s) (r : Ref) :
    ¬ s.heap.Descends (s.heap.statistics.live + 1) r := by
  intro descends
  have := run.coherent.descends_le_live run.tracking descends
  omega

/-- Writing and comparing end by themselves, with a result or a refusal. In every state that operations lead to
while tracking is on, the calls that write are nested at most one deeper than there are live boxes, and so are
the calls that compare. Dead, shared and foreign elements make no difference: only what lives has elements, and
as a box is made only over what has been given out before, and filled only with what does not lead to it, and
the address of a freed box is not given out again, none holds itself. So both ways to write a box to debug output return, and both ways to box its text. -/
theorem TrackedRun.recursions_end {s : Session} (run : TrackedRun s) :
    (∀ r outcome, Ends s.heap.renderStep (s.heap.statistics.live + 1) r outcome ↔ outcome = s.heap.render r) ∧
    (∀ r, Answers NoFault (s.heap.render r)) ∧
    (∀ r, ComesTo (Ends s.heap.renderStep s.heap.statistics.live) (s.heap.renderTopStep r) (s.heap.renderTop r)) ∧
    (∀ r, Answers NoFault (s.heap.renderTop r)) ∧
    (∀ a b outcome, Ends s.heap.equalsStep (s.heap.statistics.live + 1) (a, b) outcome ↔
      outcome = s.heap.equals a b) ∧
    (∀ a b, Answers NoFault (s.heap.equals a b)) ∧
    (∀ items item, ComesTo (Ends s.heap.equalsStep (s.heap.statistics.live + 1))
      (fun call => containsBy (fun x y => call (x, y)) items item) (s.heap.contains items item)) ∧
    (∀ items item, Answers NoFault (s.heap.contains items item)) ∧
    ∀ r, ∀ op ∈ [Operation.call (.debugObject r), .entry (.debugObj r), .call (.boxRendering r), .entry (.objStr r)],
      ∃ x s', op.perform.run s = .ok (x, s') := by
  have enough : s.heap.statistics.live ≤ s.heap.boxes.size := run.coherent.live_le_size run.tracking
  have written : ∀ r, Ends s.heap.renderStep (s.heap.statistics.live + 1) r (s.heap.render r) :=
    fun r => Heap.ends_render (run.not_descends r) (Nat.succ_le_succ enough)
  have compared : ∀ a b, Ends s.heap.equalsStep (s.heap.statistics.live + 1) (a, b) (s.heap.equals a b) :=
    fun a b => Heap.ends_equals (run.not_descends a) (Nat.succ_le_succ enough)
  refine ⟨fun r _ => (written r).iff_eq, fun r => run.guarded.render_answers (run.safe r),
    fun r => Heap.comesTo_renderTop (run.not_descends r) enough,
    fun r => run.guarded.renderTop_answers (run.safe r), fun a b _ => (compared a b).iff_eq,
    fun a b => run.guarded.equals_answers (run.safe a) (run.safe b),
    fun items item => Heap.comesTo_contains fun x _ => compared x item,
    fun items item => run.guarded.contains_answers (fun x _ => run.safe x) (run.safe item), fun r op writes => ?_⟩
  have steady : op.Steady := by
    intro on same
    subst same
    simp at writes
  exact Operation.perform_tracked steady run.coherent run.tracking

/-- Writing the tuple whose element is dead ends with a refusal; two boxes are live. -/
theorem recursions_end_staleSlot : TrackedRun staleSlot ∧
    Ends staleSlot.heap.renderStep 3 (some 4097) (refuse (.unknownObject 4096)) ∧
    Ends staleSlot.heap.equalsStep 3 (some 4097, some 4098) (.ok false) := by
  have ends := TrackedRun.recursions_end staleSlot_run
  exact ⟨staleSlot_run, (ends.1 (some 4097) _).mpr rfl, (ends.2.2.2.2.1 (some 4097) (some 4098) _).mpr rfl⟩

end CountedBox
