import Mathlib.Data.List.Forall2
import CountedBox.Proofs.Denotation.Equality
import CountedBox.Proofs.Rendering.Shape

namespace CountedBox

open Notation

theorem anyM_false {α : Type} {f : α → Except Stop Bool} {xs : List α} (done : xs.anyM f = .ok false) :
    ∀ x ∈ xs, f x = .ok false := by
  induction xs with
  | nil =>
    intro x member
    cases member
  | cons head tail ih =>
    obtain ⟨b, here, rest⟩ := ok_of_bind_ok done
    cases b with
    | true => cases rest
    | false => exact List.forall_mem_cons.mpr ⟨here, ih rest⟩

theorem exists_of_forall₂ {α β : Type} {related : α → β → Prop} {xs : List α} {ys : List β}
    (aligned : List.Forall₂ related xs ys) : ∀ x ∈ xs, ∃ y ∈ ys, related x y := by
  induction aligned with
  | nil =>
    intro x member
    cases member
  | cons held _ ih =>
    refine List.forall_mem_cons.mpr ⟨⟨_, List.mem_cons_self, held⟩, fun x member => ?_⟩
    obtain ⟨y, inside, held⟩ := ih x member
    exact ⟨y, List.mem_cons_of_mem _ inside, held⟩

namespace Value

/-- Place by place the elements are related, and apart from elements the values are the same. -/
inductive Aligned (related : Ref → Ref → Prop) : Value → Value → Prop
  | null : Aligned related null null
  | bool (b : Bool) : Aligned related (bool b) (bool b)
  | byte (b : UInt8) : Aligned related (byte b) (byte b)
  | char (c : Char) : Aligned related (char c) (char c)
  | int (i : Int) : Aligned related (int i) (int i)
  | string (bytes : List UInt8) : Aligned related (string bytes) (string bytes)
  | list {xs ys : List Ref} : List.Forall₂ related xs ys → Aligned related (list xs) (list ys)
  | set {xs ys : List Ref} : List.Forall₂ related xs ys → Aligned related (set xs) (set ys)
  | tuple {xs ys : List Ref} : List.Forall₂ related xs ys → Aligned related (tuple xs) (tuple ys)
  | record {xs ys : Fields} : xs.keys = ys.keys → List.Forall₂ related xs.values ys.values →
    Aligned related (record xs) (record ys)

section Shape

variable {v w : Value} {f g : Ref → String}

theorem forall₂_of_map_eq {α β : Type} {d e : α → β} {xs ys : List α} {related : α → α → Prop}
    (inj : ∀ x y, d x = e y → related x y) (same : xs.map d = ys.map e) :
    List.Forall₂ related xs ys := by
  have equal : List.Forall₂ Eq (xs.map d) (ys.map e) := by
    rw [List.forall₂_eq_eq_eq]
    exact same
  rw [List.forall₂_map_left_iff, List.forall₂_map_right_iff] at equal
  exact equal.imp inj

/-- The braces of a set are not those of a record, since a record has fields. -/
theorem items_ne_fields {items : List Ref} {fields : Fields} (legible : (Value.record fields).Legible) :
    items.map (fun r => ((none, f r) : Element)) ≠ fields.toList.map fun field => (some field.1, g field.2) := by
  intro same
  cases items with
  | nil =>
    have empty : fields.toList = [] := List.map_eq_nil_iff.mp same.symm
    exact legible.1 (by rw [← Std.TreeMap.map_fst_toList_eq_keys, empty, List.map_nil])
  | cons r items =>
    cases entries : fields.toList with
    | nil => simp [entries] at same
    | cons field rest => simp [entries] at same

/-- Values of the same shape are the same but for elements, which are written the same. -/
theorem aligned_of_shape (left : v.Legible) (right : w.Legible) (same : v.shape f = w.shape g) :
    v.Aligned (fun x y => f x = g y) w := by
  cases atV : v.shape f with
  | word word =>
    cases eq_of_shape_word atV (same ▸ atV)
    rcases shape_word_cases atV with ⟨rfl, _⟩ | ⟨_, rfl, _⟩ | ⟨_, rfl, _⟩ | ⟨_, rfl, _⟩
    · exact .null
    · exact .bool _
    · exact .byte _
    · exact .int _
  | quoted quote cs =>
    rcases shape_quoted_cases atV with ⟨c, rfl, rfl, rfl⟩ | ⟨bytes, rfl, rfl, rfl⟩ <;>
      rcases shape_quoted_cases (same ▸ atV) with ⟨d, rfl, mark, text⟩ | ⟨bytes', rfl, mark, text⟩
    · cases text
      exact .char c
    · cases mark
    · cases mark
    · obtain ⟨s, rfl⟩ := left
      obtain ⟨t, rfl⟩ := right
      rw [String.toList_inj, Text.lossy_utf8, Text.lossy_utf8] at text
      cases text
      exact .string _
  | bracketed opening closing es =>
    have unnamed : ∀ x y, ((none, f x) : Element) = (none, g y) → f x = g y := fun x y equal => congrArg Prod.snd equal
    rcases shape_bracketed_cases atV with ⟨xs, rfl, kind⟩ | ⟨xs, rfl, rfl, rfl⟩ <;>
      rcases shape_bracketed_cases (same ▸ atV) with ⟨ys, elements, kind'⟩ | ⟨ys, rfl, opens, elements⟩
    · have items := forall₂_of_map_eq unnamed elements
      rcases kind with ⟨rfl, rfl⟩ | ⟨rfl, rfl⟩ | ⟨rfl, rfl⟩ <;>
        rcases kind' with ⟨rfl, opens⟩ | ⟨rfl, opens⟩ | ⟨rfl, opens⟩ <;>
        first | exact absurd opens (by decide) | exact .list items | exact .set items | exact .tuple items
    · exact absurd elements (items_ne_fields right)
    · exact absurd elements.symm (items_ne_fields left)
    · refine .record ?_ ?_
      · have names := congrArg (List.map Prod.fst) elements
        rw [List.map_map, List.map_map] at names
        rw [← Std.TreeMap.map_fst_toList_eq_keys, ← Std.TreeMap.map_fst_toList_eq_keys]
        refine List.map_injective_iff.mpr (fun _ _ => Option.some.inj) ?_
        rwa [List.map_map, List.map_map]
      · rw [values_eq_map_toList, values_eq_map_toList, List.forall₂_map_left_iff, List.forall₂_map_right_iff]
        exact forall₂_of_map_eq (fun x y equal => congrArg Prod.snd equal) elements

theorem fields_elements (fields : Fields) (f : Ref → String) :
    (fields.toList.map fun field => ((some field.1, f field.2) : Element)) =
      (fields.keys.map some).zip (fields.values.map f) := by
  rw [← Std.TreeMap.map_fst_toList_eq_keys, values_eq_map_toList, List.map_map, List.map_map, List.zip_map']
  rfl

/-- If corresponding elements are written the same, so are the values. -/
theorem shape_of_aligned {related : Ref → Ref → Prop} (aligned : v.Aligned related w)
    (each : ∀ x ∈ v.children, ∀ y ∈ w.children, related x y → f x = g y) : v.shape f = w.shape g := by
  have written : ∀ {xs ys : List Ref}, List.Forall₂ related xs ys →
      (∀ x ∈ xs, ∀ y ∈ ys, related x y → f x = g y) → xs.map f = ys.map g := by
    intro xs ys aligned each
    induction aligned with
    | nil => rfl
    | cons held _ ih =>
      rw [List.map_cons, List.map_cons, each _ List.mem_cons_self _ List.mem_cons_self held,
        ih fun x inXs y inYs => each x (List.mem_cons_of_mem _ inXs) y (List.mem_cons_of_mem _ inYs)]
  have unnamed : ∀ (xs : List Ref) (e : Ref → String), xs.map (fun r => ((none, e r) : Element)) =
      (xs.map e).map (none, ·) := fun xs e => by rw [List.map_map]; rfl
  cases aligned with
  | list items => rw [shape, shape, unnamed, unnamed, written items each]
  | set items => rw [shape, shape, unnamed, unnamed, written items each]
  | tuple items => rw [shape, shape, unnamed, unnamed, written items each]
  | record names values => rw [shape, shape, fields_elements, fields_elements, names, written values each]
  | _ => rfl

end Shape

section Equality

variable {v w : Value} {same : Ref → Ref → Except Stop Bool} {related : Ref → Ref → Prop} {answer : Bool}

/-- Values that agree place by place are found equal, if corresponding elements are, asked either way. -/
theorem equalsBy_of_aligned (aligned : v.Aligned related w) (done : v.equalsBy same w = .ok answer)
    (each : ∀ x ∈ v.children, ∀ y ∈ w.children, related x y →
      ∀ b, same x y = .ok b ∨ same y x = .ok b → b = true) : answer = true := by
  have pairwise : ∀ {xs ys : List Ref}, List.Forall₂ related xs ys → v.children = xs → w.children = ys →
      pairwiseBy same xs ys = .ok answer → answer = true := by
    rintro xs ys aligned rfl rfl done
    have every : ∀ pair ∈ v.children.zip w.children, ∀ b, same pair.1 pair.2 = .ok b → (b = true ↔ True) := by
      intro pair member b asked
      have inside := List.of_mem_zip member
      have paired := (List.forall₂_iff_zip.mp aligned).2 member
      exact iff_of_true (each _ inside.1 _ inside.2 paired b (Or.inl asked)) trivial
    exact (allM_ok done every).mpr fun _ _ => trivial
  have included : ∀ {xs ys : List Ref}, List.Forall₂ related xs ys → v.children = xs → w.children = ys →
      xs.allM (containsBy same ys) = .ok answer → answer = true := by
    rintro xs ys aligned rfl rfl done
    have every : ∀ x ∈ v.children, ∀ b, containsBy same w.children x = .ok b → (b = true ↔ True) := by
      intro x inV b searched
      obtain ⟨y, inW, held⟩ := exists_of_forall₂ aligned x inV
      cases b with
      | true => exact iff_of_true rfl trivial
      | false => exact absurd (each x inV y inW held false (Or.inr (anyM_false searched y inW))) Bool.false_ne_true
    exact (allM_ok done every).mpr fun _ _ => trivial
  cases aligned with
  | list items =>
    rw [equalsBy, if_pos items.length_eq] at done
    exact pairwise items rfl rfl done
  | set items =>
    rw [equalsBy, if_pos items.length_eq] at done
    exact included items rfl rfl done
  | tuple items =>
    rw [equalsBy, if_pos items.length_eq] at done
    exact pairwise items rfl rfl done
  | record names values =>
    rw [equalsBy, if_pos names] at done
    exact pairwise values rfl rfl done
  | _ => simpa [equalsBy] using done.symm

/-- Without sets, values found equal agree place by place. -/
theorem aligned_of_equalsBy (done : v.equalsBy same w = .ok true) (noSet : ∀ items, v ≠ .set items) :
    v.Aligned (fun x y => same x y = .ok true) w := by
  have pairwise : ∀ {xs ys : List Ref}, xs.length = ys.length → pairwiseBy same xs ys = .ok true →
      List.Forall₂ (fun x y => same x y = .ok true) xs ys := by
    intro xs ys length done
    have every : ∀ pair ∈ xs.zip ys, ∀ b, same pair.1 pair.2 = .ok b → (b = true ↔ same pair.1 pair.2 = .ok true) := by
      intro pair _ b asked
      rw [asked, Except.ok.injEq]
    exact List.forall₂_iff_zip.mpr ⟨length, fun member => (allM_ok done every).mp rfl _ member⟩
  unfold equalsBy at done
  split at done
  · exact .null
  · cases eq_of_beq (Except.ok.inj done)
    exact .bool _
  · cases eq_of_beq (Except.ok.inj done)
    exact .byte _
  · cases eq_of_beq (Except.ok.inj done)
    exact .char _
  · cases eq_of_beq (Except.ok.inj done)
    exact .int _
  · cases eq_of_beq (Except.ok.inj done)
    exact .string _
  · split at done
    · exact .list (pairwise ‹_› done)
    · cases done
  · split at done
    · exact .tuple (pairwise ‹_› done)
    · cases done
  · exact absurd rfl (noSet _)
  · split at done
    · rename_i names
      exact .record names (pairwise (by rw [length_values, length_values, names]) done)
    · cases done
  · cases done

end Equality

end Value

end CountedBox
