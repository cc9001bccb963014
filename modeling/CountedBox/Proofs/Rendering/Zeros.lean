import CountedBox.Proofs.Rendering.Elements
import CountedBox.Proofs.Text.Zero

namespace CountedBox

namespace Notation

theorem zero_not_word : ¬ WordChar '\x00' := by simp [WordChar, NameChar]

/-- A zero among the elements is in the text of one of them. -/
theorem zero_mem_following {closing : Char} (mark : closing ≠ '\x00') (es : List Element) :
    '\x00' ∈ following closing es ↔ ∃ e ∈ es, '\x00' ∈ e.text := by
  induction es with
  | nil => simp [following, mark.symm]
  | cons e es ih => simp [following, ih]

/-- A zero between brackets is in one of the elements. -/
theorem zero_mem_bracketed {opening closing : Char} (marks : opening ≠ '\x00' ∧ closing ≠ '\x00') (es : List Element) :
    '\x00' ∈ (Shape.bracketed opening closing es).text ↔ ∃ e ∈ es, '\x00' ∈ e.text := by
  rw [Shape.text, List.mem_cons, or_iff_right marks.1.symm]
  cases es with
  | nil => simp [enclosed, marks.2.symm]
  | cons e es => simp [enclosed, zero_mem_following marks.2]

/-- A zero between quotation marks is escaped. -/
theorem zero_notMem_quoted {quote : Char} (mark : quote ≠ '\x00') (cs : List Char) :
    '\x00' ∉ (Shape.quoted quote cs).text := by
  simp [Shape.text, mark.symm, Text.zero_notMem_escapeChar]

end Notation

open Notation

namespace Value

/-- The value is a record with a field whose name holds a zero. -/
def ZeroNamed : Value → Prop
  | record fields => ∃ name ∈ fields, '\x00' ∈ name.toList
  | _ => False

/-- A zero in a written form is in the name of a field or in an element. -/
theorem zero_mem_shape (v : Value) (written : Ref → String) :
    '\x00' ∈ (v.shape written).text ↔ v.ZeroNamed ∨ ∃ r ∈ v.children, '\x00' ∈ (written r).toList := by
  have word : ∀ {w : String}, (∀ c ∈ w.toList, WordChar c) → '\x00' ∉ (Shape.word w).text := fun chars member =>
    zero_not_word (chars _ member)
  have listed : ∀ {opening closing : Char} {items : List Ref}, opening ≠ '\x00' ∧ closing ≠ '\x00' →
      ('\x00' ∈ (Shape.bracketed opening closing (items.map fun r => (none, written r))).text ↔
        False ∨ ∃ r ∈ items, '\x00' ∈ (written r).toList) := by
    intro opening closing items marks
    simp [zero_mem_bracketed marks, Element.text]
  cases v with
  | list items => exact listed (by decide)
  | set items => exact listed (by decide)
  | tuple items => exact listed (by decide)
  | record fields =>
    have entry : ∀ field : String × Ref, '\x00' ∈ Element.text (some field.1, written field.2) ↔
        '\x00' ∈ field.1.toList ∨ '\x00' ∈ (written field.2).toList := by simp [Element.text]
    have names : ∀ name, name ∈ fields ↔ ∃ field ∈ fields.toList, field.1 = name := by
      intro name
      rw [← Std.TreeMap.mem_keys, ← Std.TreeMap.map_fst_toList_eq_keys, List.mem_map]
    rw [shape, zero_mem_bracketed (by decide), children, values_eq_map_toList]
    constructor
    · rintro ⟨e, member, zero⟩
      obtain ⟨field, inside, rfl⟩ := List.mem_map.mp member
      rcases (entry field).mp zero with named | below
      · exact Or.inl ⟨field.1, (names _).mpr ⟨field, inside, rfl⟩, named⟩
      · exact Or.inr ⟨field.2, List.mem_map_of_mem inside, below⟩
    · rintro (⟨name, known, zero⟩ | ⟨r, member, zero⟩)
      · obtain ⟨field, inside, rfl⟩ := (names name).mp known
        exact ⟨_, List.mem_map_of_mem inside, (entry field).mpr (Or.inl zero)⟩
      · obtain ⟨field, inside, rfl⟩ := List.mem_map.mp member
        exact ⟨_, List.mem_map_of_mem inside, (entry field).mpr (Or.inr zero)⟩
  | null => exact iff_of_false (word (by simp [WordChar, NameChar])) (by simp [ZeroNamed, children])
  | bool b =>
    exact iff_of_false (word (by cases b <;> simp [WordChar, NameChar])) (by simp [ZeroNamed, children])
  | byte b => exact iff_of_false (word (byteWord_word b)) (by simp [ZeroNamed, children])
  | char c => exact iff_of_false (zero_notMem_quoted (by decide) _) (by simp [ZeroNamed, children])
  | int i => exact iff_of_false (word (intWord_word i)) (by simp [ZeroNamed, children])
  | string bytes => exact iff_of_false (zero_notMem_quoted (by decide) _) (by simp [ZeroNamed, children])

end Value

theorem Payload.string_of_read? {p : Payload} {kind : Kind} {bytes : List UInt8}
    (read : p.read? kind = some (.ok (.string bytes))) : p = .string bytes := by
  cases kind <;> cases p <;> simp only [Payload.read?, Option.some.injEq, Except.ok.injEq, reduceCtorEq,
    Value.string.injEq] at read
  case char.char c =>
    split at read <;> cases read
  case string.string => rw [read]

namespace Heap

/-- A record that the reference leads to has a field whose name holds a zero. -/
def ZeroNamed (h : Heap) (r : Ref) : Prop := ∃ s v, h.Path r s ∧ h.view s = .ok v ∧ v.ZeroNamed

/-- No text that is stored holds a zero. -/
def ZeroFree (h : Heap) : Prop :=
  ∀ (a : Address) (b : Box) (bytes : List UInt8), h.boxes[a]? = some b → b.payload = .string bytes → 0 ∉ bytes

variable {h : Heap} {r : Ref} {v : Value}

theorem ZeroFree.viewed {bytes : List UInt8} (free : h.ZeroFree) (viewed : h.view r = .ok (.string bytes)) :
    0 ∉ bytes := by
  unfold view at viewed
  split at viewed
  · cases viewed
  · rename_i b located
    obtain ⟨_, found, _⟩ := locate_found located
    split at viewed
    · cases viewed
    · cases viewed
    · rename_i w read
      cases viewed
      exact free _ _ _ found (Payload.string_of_read? read)

/-- A zero in a name is in a name of the value itself, or below one of its elements. -/
theorem zeroNamed_iff (viewed : h.view r = .ok v) :
    h.ZeroNamed r ↔ v.ZeroNamed ∨ ∃ s ∈ v.children, h.ZeroNamed s := by
  constructor
  · rintro ⟨t, w, path, found, named⟩
    rcases path_of_view viewed path with rfl | ⟨s, child, rest⟩
    · cases viewed.symm.trans found
      exact Or.inl named
    · exact Or.inr ⟨s, child, t, w, rest, found, named⟩
  · rintro (named | ⟨s, member, t, w, path, found, named⟩)
    · exact ⟨r, v, .refl, viewed, named⟩
    · exact ⟨t, w, .head (ViewedEdge.of_view viewed member).2 path, found, named⟩

/-- All but the names of fields is written without a zero. -/
theorem renderWithin_zero {bound : Nat} {text : String} (done : h.renderWithin bound r = .ok text) :
    '\x00' ∈ text.toList ↔ h.ZeroNamed r := by
  induction bound generalizing r text with
  | zero => cases done
  | succ bound ih =>
    obtain ⟨v, viewed, elements, rfl⟩ := renderWithin_ok done
    rw [String.toList_ofList, Value.zero_mem_shape, zeroNamed_iff viewed]
    refine or_congr_right (exists_congr fun s => and_congr_right fun member => ih (elements s member))

/-- So is a text by itself, if what is stored has no zero. -/
theorem renderTop_zero {text : String} (free : h.ZeroFree) (done : h.renderTop r = .ok text) :
    '\x00' ∈ text.toList ↔ h.ZeroNamed r := by
  obtain ⟨v, viewed, _⟩ := ok_of_bind_ok done
  by_cases isText : ∃ bytes, v = .string bytes
  · obtain ⟨bytes, rfl⟩ := isText
    have same : text = Text.lossy bytes := by
      rw [renderTop, viewed] at done
      exact (Except.ok.inj done).symm
    rw [zeroNamed_iff viewed, same, Text.lossy, String.toList_ofList]
    exact iff_of_false (Text.zero_notMem_decodeLossy (free.viewed viewed)) (by simp [Value.ZeroNamed, Value.children])
  · rw [renderTop_eq_render viewed fun bytes same => isText ⟨bytes, same⟩] at done
    exact renderWithin_zero done

end Heap

end CountedBox
