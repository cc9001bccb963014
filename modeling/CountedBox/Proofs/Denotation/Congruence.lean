import CountedBox.Proofs.Denotation.Equality

namespace CountedBox

namespace Value

variable {α : Type} {f g : Ref → α} {related : Ref → Ref → Prop} {v w : Value}

/-- The values agree at the top, and their elements are related: place by place in lists and tuples,
each to some element of the other in sets, and under the same names in records. -/
def Related (related : Ref → Ref → Prop) : Value → Value → Prop
  | list xs, list ys | tuple xs, tuple ys => List.Forall₂ related xs ys
  | set xs, set ys => (∀ x ∈ xs, ∃ y ∈ ys, related x y) ∧ ∀ y ∈ ys, ∃ x ∈ xs, related x y
  | record xs, record ys => ∀ name : String, Option.Rel related xs[name]? ys[name]?
  | v, w => v = w

/-- Sequences are related one by one just if their meanings are the same sequence. -/
theorem forall₂_iff_map_eq {xs ys : List Ref} (agree : ∀ x ∈ xs, ∀ y ∈ ys, related x y ↔ f x = g y) :
    List.Forall₂ related xs ys ↔ xs.map f = ys.map g := by
  induction xs generalizing ys with
  | nil => cases ys <;> simp
  | cons x xs ih =>
    cases ys with
    | nil => simp
    | cons y ys =>
      have rest := ih fun x' inXs y' inYs => agree x' (List.mem_cons_of_mem _ inXs) y' (List.mem_cons_of_mem _ inYs)
      rw [List.forall₂_cons, agree x List.mem_cons_self y List.mem_cons_self, rest, List.map_cons, List.map_cons,
        List.cons.injEq]

theorem toFinset_map_subset_iff [DecidableEq α] {xs ys : List Ref}
    (agree : ∀ x ∈ xs, ∀ y ∈ ys, related x y ↔ f x = g y) :
    (∀ x ∈ xs, ∃ y ∈ ys, related x y) ↔ (xs.map f).toFinset ⊆ (ys.map g).toFinset := by
  constructor
  · intro included d member
    obtain ⟨x, inXs, rfl⟩ := List.mem_map.mp (List.mem_toFinset.mp member)
    obtain ⟨y, inYs, held⟩ := included x inXs
    rw [(agree x inXs y inYs).mp held]
    exact List.mem_toFinset.mpr (List.mem_map_of_mem inYs)
  · intro subset x inXs
    have member : f x ∈ (ys.map g).toFinset := subset (List.mem_toFinset.mpr (List.mem_map_of_mem inXs))
    obtain ⟨y, inYs, same⟩ := List.mem_map.mp (List.mem_toFinset.mp member)
    exact ⟨y, inYs, (agree x inXs y inYs).mpr same.symm⟩

/-- Inclusion both ways is equality of the sets of meanings. -/
theorem toFinset_map_eq_iff [DecidableEq α] {xs ys : List Ref}
    (agree : ∀ x ∈ xs, ∀ y ∈ ys, related x y ↔ f x = g y) :
    ((∀ x ∈ xs, ∃ y ∈ ys, related x y) ∧ ∀ y ∈ ys, ∃ x ∈ xs, related x y) ↔
      (xs.map f).toFinset = (ys.map g).toFinset := by
  have backward : ∀ y ∈ ys, ∀ x ∈ xs, related x y ↔ g y = f x :=
    fun y inYs x inXs => (agree x inXs y inYs).trans eq_comm
  rw [Finset.Subset.antisymm_iff]
  exact and_congr (toFinset_map_subset_iff agree) (toFinset_map_subset_iff backward)

/-- Values are related by their elements just if they are the same level of meanings. -/
theorem related_iff_level (agree : ∀ s ∈ v.children, ∀ t ∈ w.children, related s t ↔ f s = g t) :
    v.Related related w ↔ v.level f = w.level g := by
  classical
  by_cases kinds : v.kind = w.kind
  · cases v <;> cases w <;> try (cases kinds; done)
    case list.list xs ys =>
      rw [level, level, Level.list.injEq]
      exact forall₂_iff_map_eq agree
    case tuple.tuple xs ys =>
      rw [level, level, Level.tuple.injEq]
      exact forall₂_iff_map_eq agree
    case set.set xs ys =>
      rw [level, level, Level.set.injEq]
      exact toFinset_map_eq_iff agree
    case record.record xs ys =>
      rw [level, level, Level.record.injEq, funext_iff]
      refine forall_congr' fun name => ?_
      cases inXs : xs[name]? with
      | none => cases ys[name]? <;> simp
      | some x =>
        cases inYs : ys[name]? with
        | none => simp
        | some y => simpa using agree x (mem_values_of_field inXs) y (mem_values_of_field inYs)
    all_goals simp [Related, level]
  · have unrelated : ¬ v.Related related w := by
      intro held
      unfold Related at held
      split at held
      all_goals first | exact kinds rfl | exact kinds (congrArg kind held)
    exact iff_of_false unrelated (level_ne kinds)

end Value

namespace Heap

variable {h : Heap} {a b c : Ref}

/-- A reference below which all is in order has a meaning. -/
theorem Proper.denotes (proper : h.Proper a) (acyclic : h.Acyclic) : ∃ x, h.Denotes a x :=
  exists_denotes acyclic proper.viewable

/-- Two references are equal just if they mean the same. -/
theorem equals_true_iff {x y : Datum} (acyclic : h.Acyclic) (left : h.Proper a) (right : h.Proper b)
    (denotesA : h.Denotes a x) (denotesB : h.Denotes b y) : h.equals a b = .ok true ↔ x = y := by
  classical
  rw [equals_of_denotes acyclic left right denotesA denotesB]
  simp

/-- One level of equality: values are equal if their kinds and their elements are. -/
theorem equals_related {v w : Value} (acyclic : h.Acyclic) (left : h.Proper a) (right : h.Proper b)
    (viewedA : h.view a = .ok v) (viewedB : h.view b = .ok w) :
    h.equals a b = .ok true ↔ v.Related (fun s t => h.equals s t = .ok true) w := by
  obtain ⟨x, denotesA⟩ := left.denotes acyclic
  obtain ⟨y, denotesB⟩ := right.denotes acyclic
  rw [equals_true_iff acyclic left right denotesA denotesB]
  cases denotesA with
  | intro meaning viewed elements =>
    cases viewed.symm.trans viewedA
    cases denotesB with
    | intro meaning' viewed' elements' =>
      cases viewed'.symm.trans viewedB
      rw [Datum.of_inj, Value.related_iff_level fun s inV t inW => equals_true_iff acyclic
        (left.element viewedA inV) (right.element viewedB inW) (elements s inV) (elements' t inW)]

/-- Equality is equality of denoted values. In a heap without cycles, what leads only to viewable boxes,
with sets of pairwise different elements, denotes exactly one value; comparing two such references
always gives an answer, and it is yes exactly if they denote the same value. So equality is reflexive,
symmetric and transitive, and two containers are equal exactly if equal elements correspond. -/
theorem equals_is_equality_of_values (acyclic : h.Acyclic) :
    (∀ a b, h.Proper a → h.Proper b → (∃! x, h.Denotes a x) ∧ (∃! x, h.Denotes b x) ∧
      ∃ answer, h.equals a b = .ok answer ∧ (answer = true ↔ ∃ x, h.Denotes a x ∧ h.Denotes b x)) ∧
    (∀ a, h.Proper a → h.equals a a = .ok true) ∧
    (∀ a b, h.Proper a → h.Proper b → h.equals a b = h.equals b a) ∧
    (∀ a b c, h.Proper a → h.Proper b → h.Proper c → h.equals a b = .ok true → h.equals b c = .ok true →
      h.equals a c = .ok true) ∧
    (∀ a b v w, h.Proper a → h.Proper b → h.view a = .ok v → h.view b = .ok w →
      (h.equals a b = .ok true ↔ v.Related (fun s t => h.equals s t = .ok true) w)) := by
  classical
  have denoted : ∀ a, h.Proper a → ∃! x, h.Denotes a x := by
    intro a proper
    obtain ⟨x, denotes⟩ := proper.denotes acyclic
    exact ⟨x, denotes, fun y other => other.unique denotes⟩
  refine ⟨?_, ?_, ?_, ?_, fun a b v w => equals_related acyclic⟩
  · intro a b left right
    obtain ⟨x, denotesA⟩ := left.denotes acyclic
    obtain ⟨y, denotesB⟩ := right.denotes acyclic
    refine ⟨denoted a left, denoted b right, _, equals_of_denotes acyclic left right denotesA denotesB, ?_⟩
    rw [decide_eq_true_iff]
    constructor
    · rintro rfl
      exact ⟨x, denotesA, denotesB⟩
    · rintro ⟨z, atA, atB⟩
      exact (denotesA.unique atA).trans (atB.unique denotesB)
  · intro a proper
    obtain ⟨x, denotes⟩ := proper.denotes acyclic
    exact (equals_true_iff acyclic proper proper denotes denotes).mpr rfl
  · intro a b left right
    obtain ⟨x, denotesA⟩ := left.denotes acyclic
    obtain ⟨y, denotesB⟩ := right.denotes acyclic
    rw [equals_of_denotes acyclic left right denotesA denotesB,
      equals_of_denotes acyclic right left denotesB denotesA]
    simp only [eq_comm]
  · intro a b c left middle right first second
    obtain ⟨x, denotesA⟩ := left.denotes acyclic
    obtain ⟨y, denotesB⟩ := middle.denotes acyclic
    obtain ⟨z, denotesC⟩ := right.denotes acyclic
    rw [equals_true_iff acyclic left middle denotesA denotesB] at first
    rw [equals_true_iff acyclic middle right denotesB denotesC] at second
    exact (equals_true_iff acyclic left right denotesA denotesC).mpr (first.trans second)

end Heap

/-- A heap with two sets of the numbers one and two, in different order and with different boxes for one. -/
def reorderedSets : Heap :=
  let one := (({ tracking := true } : Heap).alloc (.int 1)).2
  let two := (one.alloc (.int 2)).2
  let again := (two.alloc (.int 1)).2
  let ordered := (again.alloc (.set [some 4096, some 4097])).2
  (ordered.alloc (.set [some 4097, some 4098])).2

theorem reorderedSets_acyclic : reorderedSets.Acyclic := by
  have one := (Heap.Coherent.start true).alloc (v := .int 1) (by simp [Value.children])
  have two := one.alloc (v := .int 2) (by simp [Value.children])
  have again := two.alloc (v := .int 1) (by simp [Value.children])
  have ordered := again.alloc (v := .set [some 4096, some 4097]) (by simp [Value.children]; decide)
  have reordered := ordered.alloc (v := .set [some 4097, some 4098]) (by simp [Value.children]; decide)
  exact reordered.acyclic

theorem reorderedSets_number {a : Address} {i : Int} (viewed : reorderedSets.view (some a) = .ok (.int i)) :
    reorderedSets.Proper (some a) ∧ reorderedSets.Denotes (some a) (.of (.int i)) :=
  ⟨.of_elements viewed (by simp [Value.children]) (by simp),
    .intro (fun _ => default) viewed (by simp [Value.children])⟩

theorem reorderedSets_set {a c d : Address} {i j : Int} (different : i ≠ j)
    (viewed : reorderedSets.view (some a) = .ok (.set [some c, some d]))
    (first : reorderedSets.view (some c) = .ok (.int i)) (second : reorderedSets.view (some d) = .ok (.int j)) :
    reorderedSets.Proper (some a) := by
  obtain ⟨properC, denotesC⟩ := reorderedSets_number first
  obtain ⟨properD, denotesD⟩ := reorderedSets_number second
  refine .of_elements viewed (by simp [Value.children, properC, properD]) ?_
  rintro items ⟨⟩
  refine List.pairwise_pair.mpr fun x atC atD => different ?_
  have same := (denotesC.unique atC).trans (atD.unique denotesD)
  simpa using Datum.of_inj.mp same

theorem reorderedSets_same :
    ∃ x, reorderedSets.Denotes (some 4099) x ∧ reorderedSets.Denotes (some 4100) x := by
  classical
  let meaning : Ref → Datum := fun s => if s = some 4097 then .of (.int 2) else .of (.int 1)
  have ordered : reorderedSets.Denotes (some 4099) (.of (Value.level meaning (.set [some 4096, some 4097]))) := by
    refine .intro meaning rfl (List.forall_mem_cons.mpr ⟨?_, List.forall_mem_singleton.mpr ?_⟩)
    · exact (reorderedSets_number rfl).2
    · exact (reorderedSets_number rfl).2
  have reordered : reorderedSets.Denotes (some 4100) (.of (Value.level meaning (.set [some 4097, some 4098]))) := by
    refine .intro meaning rfl (List.forall_mem_cons.mpr ⟨?_, List.forall_mem_singleton.mpr ?_⟩)
    · exact (reorderedSets_number rfl).2
    · exact (reorderedSets_number rfl).2
  have same : Value.level meaning (.set [some 4096, some 4097]) =
      Value.level meaning (.set [some 4097, some 4098]) := by
    refine congrArg Level.set (Finset.ext fun x => ?_)
    simp [meaning, or_comm]
  exact ⟨_, ordered, same ▸ reordered⟩

/-- The two sets are equal. -/
theorem equality_reorderedSets : reorderedSets.equals (some 4099) (some 4100) = .ok true := by
  have ordered : reorderedSets.Proper (some 4099) := reorderedSets_set (i := 1) (j := 2) (by decide) rfl rfl rfl
  have reordered : reorderedSets.Proper (some 4100) := reorderedSets_set (i := 2) (j := 1) (by decide) rfl rfl rfl
  obtain ⟨_, _, answer, done, decided⟩ :=
    (Heap.equals_is_equality_of_values reorderedSets_acyclic).1 _ _ ordered reordered
  rw [done, decided.mpr reorderedSets_same]

end CountedBox
