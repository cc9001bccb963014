import Mathlib.Data.List.Perm.Subperm
import CountedBox.Rendering
import CountedBox.Proofs.Heap.Actions

namespace CountedBox

/-- What stops a test of all elements stops it at one of them. -/
theorem error_of_allM {α : Type} {f : α → Except Stop Bool} {xs : List α} {stop : Stop}
    (stopped : xs.allM f = .error stop) : ∃ x ∈ xs, f x = .error stop := by
  induction xs with
  | nil => cases stopped
  | cons head tail ih =>
    rcases error_of_bind_error stopped with here | ⟨agrees, _, later⟩
    · exact ⟨head, List.mem_cons_self, here⟩
    · cases agrees with
      | false => cases later
      | true =>
        obtain ⟨x, member, failed⟩ := ih later
        exact ⟨x, List.mem_cons_of_mem _ member, failed⟩

/-- What stops a test of any element stops it at one of them. -/
theorem error_of_anyM {α : Type} {f : α → Except Stop Bool} {xs : List α} {stop : Stop}
    (stopped : xs.anyM f = .error stop) : ∃ x ∈ xs, f x = .error stop := by
  induction xs with
  | nil => cases stopped
  | cons head tail ih =>
    rcases error_of_bind_error stopped with here | ⟨agrees, _, later⟩
    · exact ⟨head, List.mem_cons_self, here⟩
    · cases agrees with
      | true => cases later
      | false =>
        obtain ⟨x, member, failed⟩ := ih later
        exact ⟨x, List.mem_cons_of_mem _ member, failed⟩

/-- What stops a map stops it at one of the elements. -/
theorem error_of_mapM {α β : Type} {f : α → Except Stop β} {xs : List α} {stop : Stop}
    (stopped : xs.mapM f = .error stop) : ∃ x ∈ xs, f x = .error stop := by
  induction xs with
  | nil => cases stopped
  | cons head tail ih =>
    rw [List.mapM_cons] at stopped
    rcases error_of_bind_error stopped with here | ⟨_, _, rest⟩
    · exact ⟨head, List.mem_cons_self, here⟩
    · rcases error_of_bind_error rest with later | ⟨_, _, done⟩
      · obtain ⟨x, member, failed⟩ := ih later
        exact ⟨x, List.mem_cons_of_mem _ member, failed⟩
      · cases done

namespace Value

/-- Comparing two values stops only where comparing two of their elements does. -/
theorem equalsBy_error {same : Ref → Ref → Except Stop Bool} {v w : Value} {stop : Stop}
    (stopped : v.equalsBy same w = .error stop) :
    ∃ x ∈ v.children, ∃ y ∈ w.children, same x y = .error stop ∨ same y x = .error stop := by
  have pairwise : ∀ {xs ys : List Ref}, pairwiseBy same xs ys = .error stop →
      ∃ x ∈ xs, ∃ y ∈ ys, same x y = .error stop ∨ same y x = .error stop := by
    intro xs ys failed
    obtain ⟨⟨x, y⟩, member, failed⟩ := error_of_allM failed
    exact ⟨x, (List.of_mem_zip member).1, y, (List.of_mem_zip member).2, Or.inl failed⟩
  unfold equalsBy at stopped
  split at stopped
  all_goals first | cases stopped | skip
  · split at stopped
    · exact pairwise stopped
    · cases stopped
  · split at stopped
    · exact pairwise stopped
    · cases stopped
  · split at stopped
    · obtain ⟨x, inLeft, failed⟩ := error_of_allM stopped
      obtain ⟨y, inRight, failed⟩ := error_of_anyM failed
      exact ⟨x, inLeft, y, inRight, Or.inr failed⟩
    · cases stopped
  · split at stopped
    · exact pairwise stopped
    · cases stopped

/-- Writing a value stops only where writing one of its elements does. -/
theorem renderBy_error {render : Ref → Except Stop String} {v : Value} {stop : Stop}
    (stopped : v.renderBy render = .error stop) : ∃ x ∈ v.children, render x = .error stop := by
  have listed : ∀ {opening closing : String} {items : List Ref},
      (do return bracketed opening closing (← items.mapM render)) = .error stop →
      ∃ x ∈ items, render x = .error stop := by
    intro opening closing items failed
    rcases error_of_bind_error failed with inside | ⟨_, _, done⟩
    · exact error_of_mapM inside
    · cases done
  unfold renderBy at stopped
  split at stopped
  all_goals first | cases stopped | skip
  · exact listed stopped
  · exact listed stopped
  · exact listed stopped
  · rcases error_of_bind_error stopped with inside | ⟨_, _, done⟩
    · obtain ⟨field, member, failed⟩ := error_of_mapM inside
      rcases error_of_bind_error failed with here | ⟨_, _, done⟩
      · refine ⟨field.2, ?_, here⟩
        rw [children, values_eq_map_toList]
        exact List.mem_map_of_mem member
      · cases done
    · cases done

end Value

namespace Heap

/-- At least so many steps lead down from the reference. -/
inductive Descends (h : Heap) : Nat → Ref → Prop
  | here (r : Ref) : Descends h 0 r
  | down {r s n} : h.Edge r s → Descends h n s → Descends h (n + 1) r

/-- Nothing that the reference leads to is on a cycle. -/
def AcyclicBelow (h : Heap) (r : Ref) : Prop := ∀ s, h.Path r s → ¬ Relation.TransGen h.Edge s s

theorem Acyclic.below {h : Heap} (acyclic : h.Acyclic) (r : Ref) : h.AcyclicBelow r := fun s _ => acyclic s

theorem AcyclicBelow.edge {h : Heap} {r s : Ref} (acyclic : h.AcyclicBelow r) (edge : h.Edge r s) :
    h.AcyclicBelow s := fun t path => acyclic t (.head edge path)

/-- Without cycles a descent passes a different container at each step. -/
theorem Descends.le_length {h : Heap} {n : Nat} {r : Ref} {containers : List Address} (acyclic : h.AcyclicBelow r)
    (covered : ∀ {a s}, h.Edge (some a) s → a ∈ containers) (descends : h.Descends n r) : n ≤ containers.length := by
  have passed : ∃ as : List Address, as.length = n ∧ as.Nodup ∧ ∀ a ∈ as, a ∈ containers ∧ h.Path r (some a) := by
    induction descends with
    | here r => exact ⟨[], rfl, List.nodup_nil, by simp⟩
    | @down r s n edge _ ih =>
      obtain ⟨as, length, distinct, each⟩ := ih (acyclic.edge edge)
      obtain ⟨a, b, rfl, _, _⟩ := edge_iff.mp edge
      refine ⟨a :: as, by simp [length], List.nodup_cons.mpr ⟨?_, distinct⟩, ?_⟩
      · intro again
        exact acyclic _ .refl (Relation.TransGen.head' edge (each a again).2)
      · intro c member
        rcases List.mem_cons.mp member with rfl | below
        · exact ⟨covered edge, .refl⟩
        · exact ⟨(each c below).1, .head edge (each c below).2⟩
  obtain ⟨as, length, distinct, each⟩ := passed
  calc n = as.length := length.symm
    _ ≤ containers.length := (List.subperm_of_subset distinct fun a member => (each a member).1).length_le

/-- A descent without cycles visits a box once, so it is no longer than there are boxes. -/
theorem Descends.le_size_below {h : Heap} {n : Nat} {r : Ref} (acyclic : h.AcyclicBelow r)
    (descends : h.Descends n r) : n ≤ h.boxes.size := by
  rw [← Std.TreeMap.length_keys]
  refine descends.le_length acyclic fun edge => ?_
  obtain ⟨a, b, same, found, _⟩ := edge_iff.mp edge
  cases same
  exact Std.TreeMap.mem_keys.mpr (Std.TreeMap.mem_iff_contains.mpr (contains_found found))

theorem Descends.le_size {h : Heap} {n : Nat} {r : Ref} (acyclic : h.Acyclic) (descends : h.Descends n r) :
    n ≤ h.boxes.size := descends.le_size_below (acyclic.below r)

/-- Why following a reference down to some bound may stop: something reachable cannot be viewed,
or the bound is reached. -/
def Stops (h : Heap) (bound : Nat) (r : Ref) (stop : Stop) : Prop :=
  (∃ s, h.Path r s ∧ h.view s = .error stop) ∨ stop = .fault .tooDeep ∧ h.Descends bound r

/-- What an element stops at its container stops at, one step further up. -/
theorem Stops.up {h : Heap} {bound : Nat} {r s : Ref} {v : Value} {stop : Stop}
    (viewed : h.view r = .ok v) (member : s ∈ v.children) (stops : h.Stops bound s stop) :
    h.Stops (bound + 1) r stop := by
  have edge := (ViewedEdge.of_view viewed member).2
  rcases stops with ⟨t, path, failed⟩ | ⟨deep, descends⟩
  · exact Or.inl ⟨t, .head edge path, failed⟩
  · exact Or.inr ⟨deep, .down edge descends⟩

/-- A comparison stops where one of the two sides cannot be read, or where its bound is used up. -/
theorem equalsWithin_error {h : Heap} {bound : Nat} {a b : Ref} {stop : Stop}
    (stopped : h.equalsWithin bound a b = .error stop) : h.Stops bound a stop ∨ h.Stops bound b stop := by
  induction bound generalizing a b with
  | zero =>
    cases stopped
    exact Or.inl (Or.inr ⟨rfl, .here a⟩)
  | succ bound ih =>
    unfold equalsWithin at stopped
    split at stopped
    · rcases error_of_bind_error stopped with failed | ⟨_, _, done⟩
      · exact Or.inl (Or.inl ⟨a, .refl, failed⟩)
      · cases done
    · rcases error_of_bind_error stopped with failed | ⟨v, left, stopped⟩
      · exact Or.inl (Or.inl ⟨a, .refl, failed⟩)
      · rcases error_of_bind_error stopped with failed | ⟨w, right, stopped⟩
        · exact Or.inr (Or.inl ⟨b, .refl, failed⟩)
        · obtain ⟨x, inLeft, y, inRight, failed⟩ := Value.equalsBy_error stopped
          have below : h.Stops bound x stop ∨ h.Stops bound y stop := by
            rcases failed with failed | failed
            · exact ih failed
            · exact (ih failed).symm
          exact below.imp (Stops.up left inLeft) (Stops.up right inRight)

/-- Writing a value stops where something below it cannot be read, or where its bound is used up. -/
theorem renderWithin_error {h : Heap} {bound : Nat} {r : Ref} {stop : Stop}
    (stopped : h.renderWithin bound r = .error stop) : h.Stops bound r stop := by
  induction bound generalizing r with
  | zero =>
    cases stopped
    exact Or.inr ⟨rfl, .here r⟩
  | succ bound ih =>
    rcases error_of_bind_error stopped with failed | ⟨v, viewed, stopped⟩
    · exact Or.inl ⟨r, .refl, failed⟩
    · obtain ⟨x, member, failed⟩ := Value.renderBy_error stopped
      exact Stops.up viewed member (ih failed)

/-- Without cycles no value is too deep, so only something that cannot be viewed stops the way down. -/
theorem Stops.of_acyclic_below {h : Heap} {bound : Nat} {r : Ref} {stop : Stop} (acyclic : h.AcyclicBelow r)
    (enough : h.boxes.size < bound) (stops : h.Stops bound r stop) :
    ∃ s, h.Path r s ∧ h.view s = .error stop := by
  rcases stops with failed | ⟨_, descends⟩
  · exact failed
  · have := descends.le_size_below acyclic
    omega

/-- Without cycles, and with a bound beyond the number of boxes, it is not the bound that is used up. -/
theorem Stops.of_acyclic {h : Heap} {bound : Nat} {r : Ref} {stop : Stop} (acyclic : h.Acyclic)
    (enough : h.boxes.size < bound) (stops : h.Stops bound r stop) :
    ∃ s, h.Path r s ∧ h.view s = .error stop := stops.of_acyclic_below (acyclic.below r) enough

/-- So a comparison stops only at something that cannot be read. -/
theorem equals_error {h : Heap} {a b : Ref} {stop : Stop} (acyclic : h.Acyclic)
    (stopped : h.equals a b = .error stop) :
    ∃ s, (h.Path a s ∨ h.Path b s) ∧ h.view s = .error stop := by
  have enough : h.boxes.size < h.depth := Nat.lt_succ_self _
  rcases equalsWithin_error stopped with left | right
  · obtain ⟨s, path, failed⟩ := left.of_acyclic acyclic enough
    exact ⟨s, Or.inl path, failed⟩
  · obtain ⟨s, path, failed⟩ := right.of_acyclic acyclic enough
    exact ⟨s, Or.inr path, failed⟩

theorem contains_error {h : Heap} {items : List Ref} {item : Ref} {stop : Stop} (acyclic : h.Acyclic)
    (stopped : h.contains items item = .error stop) :
    ∃ x s, (x ∈ items ∨ x = item) ∧ h.Path x s ∧ h.view s = .error stop := by
  obtain ⟨x, member, failed⟩ := error_of_anyM stopped
  obtain ⟨s, path | path, failed⟩ := equals_error acyclic failed
  · exact ⟨x, s, Or.inl member, path, failed⟩
  · exact ⟨item, s, Or.inr rfl, path, failed⟩

/-- Writing a value stops only at something that cannot be read. -/
theorem render_error {h : Heap} {r : Ref} {stop : Stop} (acyclic : h.Acyclic)
    (stopped : h.render r = .error stop) : ∃ s, h.Path r s ∧ h.view s = .error stop :=
  (renderWithin_error stopped).of_acyclic acyclic (Nat.lt_succ_self _)

theorem renderTop_error {h : Heap} {r : Ref} {stop : Stop} (acyclic : h.Acyclic)
    (stopped : h.renderTop r = .error stop) : ∃ s, h.Path r s ∧ h.view s = .error stop := by
  rcases error_of_bind_error stopped with failed | ⟨v, viewed, stopped⟩
  · exact ⟨r, .refl, failed⟩
  · have below : v.renderBy (h.renderWithin h.boxes.size) = .error stop := by
      cases v <;> first | cases stopped | exact stopped
    obtain ⟨x, member, failed⟩ := Value.renderBy_error below
    exact (Stops.up viewed member (renderWithin_error failed)).of_acyclic acyclic (Nat.lt_succ_self _)

end Heap

end CountedBox
