import CountedBox.Proofs.Rendering.Alignment

namespace CountedBox

open Notation

namespace Heap

/-- Everything that the reference leads to can be viewed, is legible, and does not contain itself. -/
structure Legible (h : Heap) (r : Ref) : Prop where
  acyclic : h.AcyclicBelow r
  viewed : ∀ s, h.Path r s → ∃ v, h.view s = .ok v ∧ v.Legible

/-- The reference leads to no set. -/
def SetFree (h : Heap) (r : Ref) : Prop := ∀ s items, h.Path r s → h.view s ≠ .ok (.set items)

/-- The written form within a bound, as far as there is one. -/
def written (h : Heap) (bound : Nat) (r : Ref) : String :=
  match h.renderWithin bound r with
  | .ok text => text
  | .error _ => ""

variable {h : Heap} {r a b : Ref} {v : Value}

theorem Legible.element (legible : h.Legible r) (viewed : h.view r = .ok v) : ∀ s ∈ v.children, h.Legible s := by
  intro s member
  have edge := (ViewedEdge.of_view viewed member).2
  exact ⟨legible.acyclic.edge edge, fun t path => legible.viewed t (.head edge path)⟩

theorem SetFree.element (setFree : h.SetFree r) (viewed : h.view r = .ok v) : ∀ s ∈ v.children, h.SetFree s :=
  fun _ member t items path => setFree t items (.head (ViewedEdge.of_view viewed member).2 path)

theorem Legible.level (legible : h.Legible r) (viewed : h.view r = .ok v) : v.Legible := by
  obtain ⟨w, found, level⟩ := legible.viewed r .refl
  cases viewed.symm.trans found
  exact level

/-- What is written within a bound is a view written with the elements within the bound below. -/
theorem renderWithin_ok {bound : Nat} {text : String} (done : h.renderWithin (bound + 1) r = .ok text) :
    ∃ v, h.view r = .ok v ∧ (∀ s ∈ v.children, h.renderWithin bound s = .ok (h.written bound s)) ∧
      text = String.ofList (v.shape (h.written bound)).text := by
  obtain ⟨v, viewed, done⟩ := ok_of_bind_ok done
  have elements : ∀ s ∈ v.children, h.renderWithin bound s = .ok (h.written bound s) := by
    intro s member
    obtain ⟨t, rendered⟩ := Value.ok_of_renderBy done s member
    simp only [written, rendered]
  rw [Value.renderBy_eq_shape elements] at done
  exact ⟨v, viewed, elements, (Except.ok.inj done).symm⟩

/-- What is written of something legible is a text of the notation. -/
theorem renderWithin_readable {bound : Nat} {text : String} (legible : h.Legible r)
    (done : h.renderWithin bound r = .ok text) : Readable text.toList := by
  induction bound generalizing r text with
  | zero => cases done
  | succ bound ih =>
    obtain ⟨v, viewed, elements, rfl⟩ := renderWithin_ok done
    rw [String.toList_ofList]
    exact .of _ (Value.shape_sound (legible.level viewed) _) (Value.shape_elements fun s inV =>
      ih (legible.element viewed s inV) (elements s inV))

/-- Where two legible values are written the same, their places correspond and are written the same. -/
theorem aligned_of_written {bound : Nat} {text : String} (left : h.Legible a) (right : h.Legible b)
    (writtenA : h.renderWithin (bound + 1) a = .ok text) (writtenB : h.renderWithin (bound + 1) b = .ok text) :
    ∃ v w, h.view a = .ok v ∧ h.view b = .ok w ∧
      (∀ s ∈ v.children, h.renderWithin bound s = .ok (h.written bound s)) ∧
      (∀ s ∈ w.children, h.renderWithin bound s = .ok (h.written bound s)) ∧
      v.Aligned (fun s t => h.written bound s = h.written bound t) w := by
  obtain ⟨v, viewedA, elementsA, textA⟩ := renderWithin_ok writtenA
  obtain ⟨w, viewedB, elementsB, textB⟩ := renderWithin_ok writtenB
  have levelA := left.level viewedA
  have levelB := right.level viewedB
  have same := Shape.text_inj (Value.shape_sound levelA _) (Value.shape_sound levelB _)
    (Value.shape_elements fun s inV => renderWithin_readable (left.element viewedA s inV) (elementsA s inV))
    (Value.shape_elements fun s inW => renderWithin_readable (right.element viewedB s inW) (elementsB s inW))
    (String.ofList_inj.mp (textA.symm.trans textB))
  exact ⟨v, w, viewedA, viewedB, elementsA, elementsB, Value.aligned_of_shape levelA levelB same⟩

/-- What is written the same is found equal. -/
theorem equalsWithin_of_written {bound depth : Nat} {text : String} {answer : Bool} (left : h.Legible a)
    (right : h.Legible b) (writtenA : h.renderWithin bound a = .ok text) (writtenB : h.renderWithin bound b = .ok text)
    (done : h.equalsWithin depth a b = .ok answer) : answer = true := by
  induction bound generalizing depth a b text answer with
  | zero => cases writtenA
  | succ bound ih =>
    obtain ⟨v, w, viewedA, viewedB, elementsA, elementsB, aligned⟩ := aligned_of_written left right writtenA writtenB
    cases depth with
    | zero => cases done
    | succ depth =>
      unfold equalsWithin at done
      split at done
      · obtain ⟨_, _, done⟩ := ok_of_bind_ok done
        exact (Except.ok.inj done).symm
      · rw [viewedA, viewedB] at done
        refine Value.equalsBy_of_aligned aligned done fun s inV t inW same answer asked => ?_
        have writtenS := elementsA s inV
        have writtenT := elementsB t inW
        rw [same] at writtenS
        -- A set asks whether the second element equals the first.
        rcases asked with forward | backward
        · exact ih (left.element viewedA s inV) (right.element viewedB t inW) writtenS writtenT forward
        · exact ih (right.element viewedB t inW) (left.element viewedA s inV) writtenT writtenS backward

/-- Where no sets are, what is found equal is written the same. -/
theorem written_of_equalsWithin {bound depth : Nat} {text text' : String} (setFree : h.SetFree a)
    (writtenA : h.renderWithin bound a = .ok text) (writtenB : h.renderWithin bound b = .ok text')
    (done : h.equalsWithin depth a b = .ok true) : text = text' := by
  induction bound generalizing depth a b text text' with
  | zero => cases writtenA
  | succ bound ih =>
    cases depth with
    | zero => cases done
    | succ depth =>
      unfold equalsWithin at done
      split at done
      · rename_i pointers
        rw [pointers] at writtenA
        exact Except.ok.inj (writtenA.symm.trans writtenB)
      · obtain ⟨v, viewedA, elementsA, rfl⟩ := renderWithin_ok writtenA
        obtain ⟨w, viewedB, elementsB, rfl⟩ := renderWithin_ok writtenB
        rw [viewedA, viewedB] at done
        have aligned := Value.aligned_of_equalsBy done fun items isSet => setFree a items .refl (isSet ▸ viewedA)
        rw [Value.shape_of_aligned aligned fun s inV t inW equal =>
          ih (setFree.element viewedA s inV) (elementsA s inV) (elementsB t inW) equal]

/-- What is legible can be written. -/
theorem Legible.render (legible : h.Legible r) : ∃ text, h.render r = .ok text := by
  cases result : h.render r with
  | ok text => exact ⟨text, rfl⟩
  | error stop =>
    obtain ⟨s, path, failed⟩ := (renderWithin_error result).of_acyclic_below legible.acyclic (Nat.lt_succ_self _)
    obtain ⟨v, viewed, _⟩ := legible.viewed s path
    cases failed.symm.trans viewed

/-- Two legible values can be compared. -/
theorem Legible.equals (left : h.Legible a) (right : h.Legible b) : ∃ answer, h.equals a b = .ok answer := by
  cases result : h.equals a b with
  | ok answer => exact ⟨answer, rfl⟩
  | error stop =>
    have unseen : ∀ {r : Ref}, h.Legible r → ¬ h.Stops h.depth r stop := by
      intro r legible stops
      obtain ⟨s, path, failed⟩ := stops.of_acyclic_below legible.acyclic (Nat.lt_succ_self _)
      obtain ⟨v, viewed, _⟩ := legible.viewed s path
      cases failed.symm.trans viewed
    rcases equalsWithin_error result with stops | stops
    · exact absurd stops (unseen left)
    · exact absurd stops (unseen right)

/-- The written form determines the value. Two legible values can be written and compared. If they are
written the same, they are equal; and if the first contains no sets, which are written in the order of
insertion, they are written the same if they are equal. -/
theorem render_determines_value (left : h.Legible a) (right : h.Legible b) :
    ∃ text text' answer, h.render a = .ok text ∧ h.render b = .ok text' ∧ h.equals a b = .ok answer ∧
      (text = text' → answer = true) ∧ (h.SetFree a → answer = true → text = text') := by
  obtain ⟨text, writtenA⟩ := left.render
  obtain ⟨text', writtenB⟩ := right.render
  obtain ⟨answer, compared⟩ := left.equals right
  refine ⟨text, text', answer, writtenA, writtenB, compared, ?_, ?_⟩
  · rintro rfl
    exact equalsWithin_of_written left right writtenA writtenB compared
  · rintro setFree rfl
    exact written_of_equalsWithin setFree writtenA writtenB compared

theorem Legible.of_elements (acyclic : h.Acyclic) (viewed : h.view r = .ok v) (level : v.Legible)
    (elements : ∀ s ∈ v.children, h.Legible s) : h.Legible r := by
  refine ⟨acyclic.below r, fun t path => ?_⟩
  rcases path_of_view viewed path with rfl | ⟨s, child, rest⟩
  · exact ⟨v, viewed, level⟩
  · exact (elements s child).viewed t rest

theorem SetFree.of_elements (viewed : h.view r = .ok v) (level : ∀ items, v ≠ .set items)
    (elements : ∀ s ∈ v.children, h.SetFree s) : h.SetFree r := by
  intro t items path found
  rcases path_of_view viewed path with rfl | ⟨s, child, rest⟩
  · exact level items (Except.ok.inj (viewed.symm.trans found))
  · exact elements s child t items rest found

end Heap

/-- Two tuples of a record with a text and of a number, with different boxes for the number. -/
def twinTuples : Heap :=
  let text := (({ tracking := true } : Heap).alloc (.string (Text.utf8 "é"))).2
  let record := (text.alloc (.record (Std.TreeMap.empty.insert "x_1" (some 4096)))).2
  let numbers := ((record.alloc (.int (-5))).2.alloc (.int (-5))).2
  ((numbers.alloc (.tuple [some 4097, some 4098])).2.alloc (.tuple [some 4097, some 4099])).2

theorem twinTuples_acyclic : twinTuples.Acyclic := by
  have text := (Heap.Coherent.start true).alloc (v := .string (Text.utf8 "é")) (by simp [Value.children])
  have record := text.alloc (v := .record (Std.TreeMap.empty.insert "x_1" (some 4096))) (by
    intro a member
    cases List.mem_singleton.mp (show some a ∈ [some 4096] from member)
    decide)
  have number := record.alloc (v := .int (-5)) (by simp [Value.children])
  have numbers := number.alloc (v := .int (-5)) (by simp [Value.children])
  have tuple := numbers.alloc (v := .tuple [some 4097, some 4098]) (by simp [Value.children]; decide)
  have tuples := tuple.alloc (v := .tuple [some 4097, some 4099]) (by simp [Value.children]; decide)
  exact tuples.acyclic

theorem twinTuples_number {a : Address} {i : Int} (viewed : twinTuples.view (some a) = .ok (.int i)) :
    twinTuples.Legible (some a) ∧ twinTuples.SetFree (some a) :=
  ⟨.of_elements twinTuples_acyclic viewed trivial (by simp [Value.children]),
    .of_elements viewed (by simp) (by simp [Value.children])⟩

theorem twinTuples_record : twinTuples.Legible (some 4097) ∧ twinTuples.SetFree (some 4097) := by
  have text : twinTuples.view (some 4096) = .ok (.string (Text.utf8 "é")) := rfl
  have viewed : twinTuples.view (some 4097) = .ok (.record (Std.TreeMap.empty.insert "x_1" (some 4096))) := rfl
  have legible : twinTuples.Legible (some 4096) :=
    .of_elements twinTuples_acyclic text ⟨"é", rfl⟩ (by simp [Value.children])
  have setFree : twinTuples.SetFree (some 4096) := .of_elements text (by simp) (by simp [Value.children])
  have named : (Value.record (Std.TreeMap.empty.insert "x_1" (some 4096))).Legible := by
    refine ⟨by decide, fun name member => ?_⟩
    cases List.mem_singleton.mp (show name ∈ ["x_1"] from member)
    exact ⟨by decide, by simp [NameChar]⟩
  exact ⟨.of_elements twinTuples_acyclic viewed named (List.forall_mem_singleton.mpr legible),
    .of_elements viewed (by simp) (List.forall_mem_singleton.mpr setFree)⟩

theorem twinTuples_tuple {a c : Address} {i : Int}
    (viewed : twinTuples.view (some a) = .ok (.tuple [some 4097, some c]))
    (number : twinTuples.view (some c) = .ok (.int i)) :
    twinTuples.Legible (some a) ∧ twinTuples.SetFree (some a) := by
  obtain ⟨legible, setFree⟩ := twinTuples_number number
  obtain ⟨legible', setFree'⟩ := twinTuples_record
  exact ⟨.of_elements twinTuples_acyclic viewed trivial
      (List.forall_mem_cons.mpr ⟨legible', List.forall_mem_singleton.mpr legible⟩),
    .of_elements viewed (by simp) (List.forall_mem_cons.mpr ⟨setFree', List.forall_mem_singleton.mpr setFree⟩)⟩

/-- The tuples are equal, so they are written the same. -/
theorem render_determines_value_twinTuples : ∃ text, twinTuples.render (some 4100) = .ok text ∧
    twinTuples.render (some 4101) = .ok text ∧ twinTuples.equals (some 4100) (some 4101) = .ok true := by
  have left := twinTuples_tuple (a := 4100) (c := 4098) (i := -5) rfl rfl
  have right := twinTuples_tuple (a := 4101) (c := 4099) (i := -5) rfl rfl
  obtain ⟨text, text', answer, writtenA, writtenB, compared, _, same⟩ :=
    Heap.render_determines_value left.1 right.1
  have equal : twinTuples.equals (some 4100) (some 4101) = .ok true := rfl
  cases equal.symm.trans compared
  exact ⟨text, writtenA, same left.2 rfl ▸ writtenB, equal⟩

end CountedBox
