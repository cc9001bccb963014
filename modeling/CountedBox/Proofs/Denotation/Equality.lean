import Mathlib.Data.Finset.Card
import CountedBox.Proofs.Denotation.Reference

namespace CountedBox

section Search

variable {α β : Type} {f : α → Except Stop Bool} {holds : α → Prop} {xs : List α} {answer : Bool}

/-- A test of all elements that ends answers whether it holds for each. -/
theorem allM_ok (done : xs.allM f = .ok answer) (each : ∀ x ∈ xs, ∀ b, f x = .ok b → (b = true ↔ holds x)) :
    answer = true ↔ ∀ x ∈ xs, holds x := by
  induction xs with
  | nil =>
    cases done
    simp
  | cons head tail ih =>
    obtain ⟨b, here, rest⟩ := ok_of_bind_ok done
    have first := each head List.mem_cons_self b here
    cases b with
    | false =>
      cases rest
      simp [← first]
    | true =>
      rw [ih rest fun x member => each x (List.mem_cons_of_mem _ member), List.forall_mem_cons]
      exact (and_iff_right (first.mp rfl)).symm

/-- A test of any element that ends answers whether it holds for one. -/
theorem anyM_ok (done : xs.anyM f = .ok answer) (each : ∀ x ∈ xs, ∀ b, f x = .ok b → (b = true ↔ holds x)) :
    answer = true ↔ ∃ x ∈ xs, holds x := by
  induction xs with
  | nil =>
    cases done
    simp
  | cons head tail ih =>
    obtain ⟨b, here, rest⟩ := ok_of_bind_ok done
    have first := each head List.mem_cons_self b here
    cases b with
    | true =>
      cases rest
      simp [first.mp rfl]
    | false =>
      have absent : ¬ holds head := by simp [← first]
      rw [ih rest fun x member => each x (List.mem_cons_of_mem _ member)]
      simp only [List.mem_cons, exists_eq_or_imp]
      exact (or_iff_right absent).symm

end Search

section Elements

variable {α : Type} {f g : Ref → α}

/-- Sequences of one length are compared pair by pair. -/
theorem map_eq_map_iff_zip {xs ys : List Ref} (length : xs.length = ys.length) :
    (∀ pair ∈ xs.zip ys, f pair.1 = g pair.2) ↔ xs.map f = ys.map g := by
  induction xs generalizing ys with
  | nil =>
    cases List.length_eq_zero_iff.mp length.symm
    simp
  | cons x xs ih =>
    cases ys with
    | nil => simp at length
    | cons y ys =>
      rw [List.zip_cons_cons, List.forall_mem_cons, ih (Nat.succ.inj length), List.map_cons, List.map_cons,
        List.cons.injEq]

theorem length_values (fields : Fields) : fields.values.length = fields.keys.length := by
  rw [← Std.TreeMap.map_fst_toList_eq_keys, values_eq_map_toList, List.length_map, List.length_map]

/-- Two records have the same names with the same values exactly if they agree under every name. -/
theorem fields_eq_iff (xs ys : Fields) :
    xs.keys = ys.keys ∧ xs.values.map f = ys.values.map g ↔
      ∀ name : String, xs[name]?.map f = ys[name]?.map g := by
  have listed : ∀ (fields : Fields) (e : Ref → α),
      (fields.map fun _ r => e r).toList = fields.keys.zip (fields.values.map e) := by
    intro fields e
    rw [Std.TreeMap.toList_map, ← Std.TreeMap.map_fst_toList_eq_keys, values_eq_map_toList,
      List.map_map, List.zip_map']
    rfl
  constructor
  · rintro ⟨names, values⟩ name
    have same : (xs.map fun _ r => f r).toList = (ys.map fun _ r => g r).toList := by
      rw [listed, listed, names, values]
    have equal := (Std.TreeMap.equiv_iff_toList_eq.mpr same).getElem?_eq (k := name)
    simpa only [Std.TreeMap.getElem?_map] using equal
  · intro agree
    have equal : (xs.map fun _ r => f r).Equiv (ys.map fun _ r => g r) := by
      refine Std.TreeMap.Equiv.of_forall_constGet?_eq fun name => ?_
      simpa only [Std.TreeMap.getElem?_map] using agree name
    have same := equal.toList_eq
    rw [listed, listed] at same
    have fst := congrArg (List.map Prod.fst) same
    have snd := congrArg (List.map Prod.snd) same
    rw [List.map_fst_zip (by simp [length_values]), List.map_fst_zip (by simp [length_values])] at fst
    rw [List.map_snd_zip (by simp [length_values]), List.map_snd_zip (by simp [length_values])] at snd
    exact ⟨fst, snd⟩

/-- Among lists without repetition, equal length and inclusion one way make equal sets. -/
theorem toFinset_eq_iff [DecidableEq α] {xs ys : List α} (left : xs.Nodup) (right : ys.Nodup) :
    xs.toFinset = ys.toFinset ↔ xs.length = ys.length ∧ ∀ x ∈ xs, x ∈ ys := by
  constructor
  · intro same
    refine ⟨?_, fun x member => ?_⟩
    · rw [← List.toFinset_card_of_nodup left, ← List.toFinset_card_of_nodup right, same]
    · rw [← List.mem_toFinset, ← same, List.mem_toFinset]
      exact member
  · rintro ⟨length, included⟩
    refine Finset.eq_of_subset_of_card_le (fun x member => ?_) ?_
    · exact List.mem_toFinset.mpr (included x (List.mem_toFinset.mp member))
    · rw [List.toFinset_card_of_nodup left, List.toFinset_card_of_nodup right, length]

end Elements

namespace Value

variable {α : Type} {f g : Ref → α} {same : Ref → Ref → Except Stop Bool} {v w : Value} {answer : Bool}

theorem equalsBy_of_kind_ne (different : v.kind ≠ w.kind) : v.equalsBy same w = .ok false := by
  unfold equalsBy
  split
  all_goals first | rfl | exact absurd rfl different

/-- If comparing elements decides equality of what they stand for, comparing two values decides
equality of their levels, as long as the elements of sets stand for different things. -/
theorem equalsBy_level (done : v.equalsBy same w = .ok answer)
    (forward : ∀ s ∈ v.children, ∀ t ∈ w.children, ∀ b, same s t = .ok b → (b = true ↔ f s = g t))
    (backward : ∀ s ∈ v.children, ∀ t ∈ w.children, ∀ b, same t s = .ok b → (b = true ↔ f s = g t))
    (left : ∀ items, v = .set items → (items.map f).Nodup)
    (right : ∀ items, w = .set items → (items.map g).Nodup) :
    answer = true ↔ v.level f = w.level g := by
  classical
  have pairwise : ∀ {xs ys : List Ref}, v.children = xs → w.children = ys → xs.length = ys.length →
      pairwiseBy same xs ys = .ok answer → (answer = true ↔ xs.map f = ys.map g) := by
    rintro xs ys rfl rfl length done
    rw [← map_eq_map_iff_zip length]
    exact allM_ok done fun pair member =>
      forward pair.1 (List.of_mem_zip member).1 pair.2 (List.of_mem_zip member).2
  have sequence : ∀ {xs ys : List Ref}, v.children = xs → w.children = ys →
      (if xs.length = ys.length then pairwiseBy same xs ys else .ok false) = .ok answer →
      (answer = true ↔ xs.map f = ys.map g) := by
    intro xs ys atV atW done
    split at done
    · rename_i length
      exact pairwise atV atW length done
    · rename_i length
      cases done
      have different : xs.map f ≠ ys.map g := fun equal => length (by simpa using congrArg List.length equal)
      simp [different]
  -- Of two values of one kind only containers ask for their elements.
  by_cases kinds : v.kind = w.kind
  · cases v <;> cases w <;> try (cases kinds; done)
    case list.list xs ys =>
      rw [level, level, Level.list.injEq]
      exact sequence rfl rfl done
    case tuple.tuple xs ys =>
      rw [level, level, Level.tuple.injEq]
      exact sequence rfl rfl done
    case set.set xs ys =>
      rw [level, level, Level.set.injEq, toFinset_eq_iff (left xs rfl) (right ys rfl), List.length_map,
        List.length_map]
      simp only [equalsBy] at done
      split at done
      · rename_i length
        have found : ∀ x ∈ xs, ∀ b, containsBy same ys x = .ok b → (b = true ↔ f x ∈ ys.map g) := by
          intro x member b searched
          rw [anyM_ok searched fun y inside => backward x member y inside]
          simp only [List.mem_map, eq_comm]
        rw [allM_ok done found]
        simp [length]
      · rename_i length
        cases done
        simp [length]
    case record.record xs ys =>
      rw [level, level, Level.record.injEq, funext_iff, ← fields_eq_iff]
      simp only [equalsBy] at done
      split at done
      · rename_i names
        have length : xs.values.length = ys.values.length := by
          rw [length_values, length_values, names]
        rw [pairwise rfl rfl length done]
        exact (and_iff_right names).symm
      · rename_i names
        cases done
        simp [names]
    all_goals
      cases done
      simp [level]
  · cases (equalsBy_of_kind_ne kinds).symm.trans done
    simp [level_ne kinds]

end Value

namespace Heap

variable {h : Heap} {a b : Ref} {x y : Datum}

/-- What is in order is in order in each of its elements. -/
theorem Proper.element {v : Value} {s : Ref} (proper : h.Proper a) (viewed : h.view a = .ok v)
    (child : s ∈ v.children) : h.Proper s := by
  have edge := (ViewedEdge.of_view viewed child).2
  exact ⟨fun t path => proper.viewable t (.head edge path),
    fun t items path => proper.distinct t items (.head edge path)⟩

theorem Proper.of_elements {v : Value} (viewed : h.view a = .ok v) (elements : ∀ s ∈ v.children, h.Proper s)
    (distinct : ∀ items, v = .set items → h.Distinct items) : h.Proper a := by
  constructor
  · intro t path
    rcases path_of_view viewed path with rfl | ⟨s, child, rest⟩
    · exact ⟨v, viewed⟩
    · exact (elements s child).viewable t rest
  · intro t items path atT
    rcases path_of_view viewed path with rfl | ⟨s, child, rest⟩
    · cases viewed.symm.trans atT
      exact distinct items rfl
    · exact (elements s child).distinct t items rest atT

/-- Elements that are told apart have different meanings. -/
theorem Distinct.nodup {items : List Ref} {meaning : Ref → Datum} (distinct : h.Distinct items)
    (denotes : ∀ s ∈ items, h.Denotes s (meaning s)) : (items.map meaning).Nodup := by
  refine List.pairwise_map.mpr (distinct.imp_of_mem fun {s t} first second apart same => ?_)
  exact apart _ (denotes s first) (same ▸ denotes t second)

/-- If following two references down to some bound gives an answer, it says whether they denote the
same value. -/
theorem equalsWithin_denotes {bound : Nat} {answer : Bool} (done : h.equalsWithin bound a b = .ok answer)
    (left : h.Proper a) (right : h.Proper b) (denotesA : h.Denotes a x) (denotesB : h.Denotes b y) :
    answer = true ↔ x = y := by
  induction bound generalizing a b x y answer with
  | zero => cases done
  | succ bound ih =>
    unfold equalsWithin at done
    split at done
    · rename_i pointers
      obtain ⟨_, _, done⟩ := ok_of_bind_ok done
      cases done
      simp [denotesA.unique (pointers ▸ denotesB)]
    · obtain ⟨v, viewedA, done⟩ := ok_of_bind_ok done
      obtain ⟨w, viewedB, done⟩ := ok_of_bind_ok done
      cases denotesA with
      | intro meaning viewed elements =>
        cases viewed.symm.trans viewedA
        cases denotesB with
        | intro meaning' viewed' elements' =>
          cases viewed'.symm.trans viewedB
          rw [Datum.of_inj]
          refine Value.equalsBy_level done ?_ ?_ ?_ ?_
          · intro s inV t inW answer asked
            exact ih asked (left.element viewedA inV) (right.element viewedB inW) (elements s inV) (elements' t inW)
          -- Sets ask the other way round: the candidate in the second comes first.
          · intro s inV t inW answer asked
            rw [ih asked (right.element viewedB inW) (left.element viewedA inV) (elements' t inW) (elements s inV)]
            exact eq_comm
          · rintro items rfl
            exact (left.distinct a items .refl viewedA).nodup elements
          · rintro items rfl
            exact (right.distinct b items .refl viewedB).nodup elements'

/-- Without cycles, comparing what leads only to viewable boxes gives an answer. -/
theorem equals_answer (acyclic : h.Acyclic) (left : h.Proper a) (right : h.Proper b) :
    ∃ answer, h.equals a b = .ok answer := by
  cases result : h.equals a b with
  | ok answer => exact ⟨answer, rfl⟩
  | error stop =>
    obtain ⟨s, path | path, failed⟩ := equals_error acyclic result
    · obtain ⟨v, viewed⟩ := left.viewable s path
      cases failed.symm.trans viewed
    · obtain ⟨v, viewed⟩ := right.viewable s path
      cases failed.symm.trans viewed

/-- Where both sides have a meaning the comparison ends and decides whether it is the same. -/
theorem equals_of_denotes [Decidable (x = y)] (acyclic : h.Acyclic) (left : h.Proper a) (right : h.Proper b)
    (denotesA : h.Denotes a x) (denotesB : h.Denotes b y) : h.equals a b = .ok (decide (x = y)) := by
  obtain ⟨answer, done⟩ := equals_answer acyclic left right
  have decided := equalsWithin_denotes done left right denotesA denotesB
  rw [done]
  by_cases same : x = y
  · simp [same, decided.mpr same]
  · have refuted : answer = false := Bool.eq_false_iff.mpr (mt decided.mp same)
    simp [same, refuted]

end Heap

end CountedBox
