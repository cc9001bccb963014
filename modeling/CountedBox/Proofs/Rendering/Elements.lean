import CountedBox.Proofs.Denotation.Equality
import CountedBox.Proofs.Rendering.Determined

namespace CountedBox

/-- Two records bind the same names to what stands for the same, so they list the same. -/
theorem toList_map_of_agree {α : Type} {f g : Ref → α} {xs ys : Fields}
    (agree : ∀ name : String, xs[name]?.map f = ys[name]?.map g) :
    xs.toList.map (fun field => (field.1, f field.2)) = ys.toList.map fun field => (field.1, g field.2) := by
  have zipped : ∀ (fields : Fields) (e : Ref → α),
      fields.toList.map (fun field => (field.1, e field.2)) = fields.keys.zip (fields.values.map e) := by
    intro fields e
    rw [← Std.TreeMap.map_fst_toList_eq_keys, values_eq_map_toList, List.map_map, List.zip_map']
    rfl
  obtain ⟨names, values⟩ := (fields_eq_iff xs ys).mpr agree
  rw [zipped, zipped, names, values]

namespace Heap

variable {h : Heap} {r : Ref} {v : Value}

/-- More room to go down changes nothing in what is written. -/
theorem renderWithin_mono {m n : Nat} {text : String} (more : m ≤ n) (done : h.renderWithin m r = .ok text) :
    h.renderWithin n r = .ok text := by
  induction m generalizing n r text with
  | zero => cases done
  | succ m ih =>
    obtain ⟨n, rfl⟩ := Nat.exists_eq_add_of_le' more
    obtain ⟨v, viewed, elements, rfl⟩ := renderWithin_ok done
    have below : ∀ s ∈ v.children, h.renderWithin (n + m) s = .ok (h.written m s) := fun s member =>
      ih (Nat.le_add_left m n) (elements s member)
    exact (congrArg (· >>= _) viewed).trans (Value.renderBy_eq_shape below)

theorem viewable_of_elements (viewed : h.view r = .ok v)
    (elements : ∀ s ∈ v.children, ∀ t, h.Path s t → h.Viewable t) : ∀ t, h.Path r t → h.Viewable t := by
  intro t path
  rcases path_of_view viewed path with rfl | ⟨s, child, rest⟩
  · exact ⟨v, viewed⟩
  · exact elements s child t rest

/-- What is stopped only by something below that cannot be viewed is not stopped. -/
theorem ok_of_viewable {α : Type} {outcome : Except Stop α} (viewable : ∀ s, h.Path r s → h.Viewable s)
    (stops : ∀ {stop}, outcome = .error stop → ∃ s, h.Path r s ∧ h.view s = .error stop) :
    ∃ x, outcome = .ok x := by
  cases result : outcome with
  | ok x => exact ⟨x, rfl⟩
  | error stop =>
    obtain ⟨s, path, failed⟩ := stops result
    obtain ⟨v, viewed⟩ := viewable s path
    cases viewed.symm.trans failed

/-- Writing ends with a text where all that is reached can be read. -/
theorem render_of_viewable (acyclic : h.Acyclic) (viewable : ∀ s, h.Path r s → h.Viewable s) :
    ∃ text, h.render r = .ok text := ok_of_viewable viewable (render_error acyclic)

theorem renderTop_of_viewable (acyclic : h.Acyclic) (viewable : ∀ s, h.Path r s → h.Viewable s) :
    ∃ text, h.renderTop r = .ok text := ok_of_viewable viewable (renderTop_error acyclic)

/-- A box is written as its value, with its elements written by themselves. -/
theorem render_eq_shape (acyclic : h.Acyclic) (viewable : ∀ s, h.Path r s → h.Viewable s)
    (viewed : h.view r = .ok v) : h.render r = .ok (String.ofList (v.shape (h.written h.depth)).text) := by
  have elements : ∀ s ∈ v.children, h.render s = .ok (h.written h.depth s) := by
    intro s member
    have edge := (ViewedEdge.of_view viewed member).2
    obtain ⟨text, written⟩ := render_of_viewable acyclic fun t path => viewable t (.head edge path)
    rw [written, Heap.written, ← render, written]
  obtain ⟨text, written⟩ := render_of_viewable acyclic viewable
  obtain ⟨w, again, below, _⟩ := renderWithin_ok written
  cases viewed.symm.trans again
  -- The bound is one less for the elements, which makes no difference.
  have same : ∀ s ∈ v.children, h.renderWithin h.boxes.size s = .ok (h.written h.depth s) := by
    intro s member
    have higher := renderWithin_mono (Nat.le_succ _) (below s member)
    rw [below s member, ← elements s member]
    exact higher.symm
  exact (congrArg (· >>= _) viewed).trans (Value.renderBy_eq_shape same)

/-- By itself only a text is written in another way. -/
theorem renderTop_eq_render (viewed : h.view r = .ok v) (noText : ∀ bytes, v ≠ .string bytes) :
    h.renderTop r = h.render r := by
  rw [renderTop, render, depth, renderWithin, viewed]
  cases v with
  | string bytes => exact absurd rfl (noText bytes)
  | _ => rfl

/-- Records whose names are bound to what is written alike are written alike. -/
theorem render_record_congr {a b : Ref} {xs ys : Fields} (acyclic : h.Acyclic)
    (left : ∀ s, h.Path a s → h.Viewable s) (right : ∀ s, h.Path b s → h.Viewable s)
    (viewedA : h.view a = .ok (.record xs)) (viewedB : h.view b = .ok (.record ys))
    (alike : ∀ name : String, Option.Rel (fun x y => h.render x = h.render y) xs[name]? ys[name]?) :
    h.render a = h.render b := by
  have agree : ∀ name : String, xs[name]?.map (h.written h.depth) = ys[name]?.map (h.written h.depth) := by
    intro name
    have related := alike name
    generalize xs[name]? = x at related ⊢
    generalize ys[name]? = y at related ⊢
    cases related with
    | some same => rw [Option.map_some, Option.map_some, written, ← render, same, render, ← written]
    | none => rfl
  have listed := congrArg (List.map fun field : String × String => (some field.1, field.2)) (toList_map_of_agree agree)
  rw [List.map_map, List.map_map] at listed
  have same : (Value.record xs).shape (h.written h.depth) = (Value.record ys).shape (h.written h.depth) :=
    congrArg (Notation.Shape.bracketed '{' '}') listed
  rw [render_eq_shape acyclic left viewedA, render_eq_shape acyclic right viewedB, same]

end Heap

end CountedBox
