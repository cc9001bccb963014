import CountedBox.Rendering
import CountedBox.Proofs.Heap.Depth
import CountedBox.Proofs.Rendering.Words
import CountedBox.Proofs.Text.Utf8

namespace CountedBox

open Notation

theorem mapM_of_ok {α β : Type} {f : α → Except Stop β} {g : α → β} {xs : List α}
    (each : ∀ x ∈ xs, f x = .ok (g x)) : xs.mapM f = .ok (xs.map g) := by
  induction xs with
  | nil => rfl
  | cons x xs ih =>
    rw [List.forall_mem_cons] at each
    rw [List.mapM_cons, each.1, ih each.2]
    rfl

theorem ok_of_mapM {α β : Type} {f : α → Except Stop β} {xs : List α} {ys : List β} (done : xs.mapM f = .ok ys) :
    ∀ x ∈ xs, ∃ y, f x = .ok y := by
  induction xs generalizing ys with
  | nil =>
    intro x member
    cases member
  | cons head tail ih =>
    rw [List.mapM_cons] at done
    obtain ⟨y, here, done⟩ := ok_of_bind_ok done
    obtain ⟨ys, later, _⟩ := ok_of_bind_ok done
    exact List.forall_mem_cons.mpr ⟨⟨y, here⟩, ih later⟩

namespace Notation

/-- The elements between brackets, with a comma and a blank between each two. -/
theorem enclosed_eq_intercalate (closing : Char) (es : List Element) :
    enclosed closing es = [',', ' '].intercalate (es.map Element.text) ++ [closing] := by
  cases es with
  | nil => rfl
  | cons e es =>
    rw [enclosed]
    induction es generalizing e with
    | nil => simp [following]
    | cons f es ih => simp [following, ih f]

theorem bracketed_eq_shape {opening closing : String} {o c : Char} (texts : List String) (es : List Element)
    (opens : opening.toList = [o]) (closes : closing.toList = [c])
    (same : texts.map String.toList = es.map Element.text) :
    bracketed opening closing texts = String.ofList (Shape.bracketed o c es).text := by
  rw [← String.toList_inj, String.toList_ofList, bracketed, String.toList_append, String.toList_append,
    String.toList_intercalate, same, opens, closes, Shape.text, enclosed_eq_intercalate]
  rfl

end Notation

namespace Value

/-- The shape of the written form of a value, with `written` for its elements. -/
def shape (written : Ref → String) : Value → Shape
  | null => .word "null"
  | bool b => .word (if b then "true" else "false")
  | byte b => .word (byteWord b)
  | char c => .quoted '\'' [c]
  | int i => .word (toString i)
  | string bytes => .quoted '"' (Text.lossy bytes).toList
  | list items => .bracketed '[' ']' (items.map fun r => (none, written r))
  | set items => .bracketed '{' '}' (items.map fun r => (none, written r))
  | tuple items => .bracketed '(' ')' (items.map fun r => (none, written r))
  | record fields => .bracketed '{' '}' (fields.toList.map fun field => (some field.1, written field.2))

/-- The value is written as its shape says. -/
theorem renderBy_eq_shape {render : Ref → Except Stop String} {written : Ref → String} {v : Value}
    (each : ∀ r ∈ v.children, render r = .ok (written r)) :
    v.renderBy render = .ok (String.ofList (v.shape written).text) := by
  have listed : ∀ {opening closing : String} {o c : Char} {items : List Ref}, opening.toList = [o] →
      closing.toList = [c] → (∀ r ∈ items, render r = .ok (written r)) →
      (do return bracketed opening closing (← items.mapM render)) =
        Except.ok (ε := Stop) (String.ofList (Shape.bracketed o c (items.map fun r => (none, written r))).text) := by
    intro opening closing o c items opens closes each
    rw [mapM_of_ok each, ← bracketed_eq_shape (items.map written) _ opens closes (by simp [Element.text])]
    rfl
  cases v with
  | list items => exact listed rfl rfl each
  | set items => exact listed rfl rfl each
  | tuple items => exact listed rfl rfl each
  | record fields =>
    have named : ∀ field ∈ fields.toList, (do return field.1 ++ ": " ++ (← render field.2)) =
        Except.ok (ε := Stop) (field.1 ++ ": " ++ written field.2) := by
      intro field member
      rw [each field.2 (by rw [children, values_eq_map_toList]; exact List.mem_map_of_mem member)]
      rfl
    rw [renderBy, mapM_of_ok named]
    exact congrArg Except.ok (bracketed_eq_shape _ _ rfl rfl (by simp [Element.text]))
  | null => exact congrArg Except.ok (String.ofList_toList).symm
  | bool b => exact congrArg Except.ok (String.ofList_toList).symm
  | byte b => exact congrArg Except.ok (String.ofList_toList).symm
  | int i => exact congrArg Except.ok (String.ofList_toList).symm
  | char c => exact congrArg Except.ok (String.toList_inj.mp (by simp [shape, Shape.text]))
  | string bytes => exact congrArg Except.ok (String.toList_inj.mp (by simp [shape, Shape.text, Text.escape]))

/-- A value is written only if each of its elements is. -/
theorem ok_of_renderBy {render : Ref → Except Stop String} {v : Value} {text : String}
    (done : v.renderBy render = .ok text) : ∀ r ∈ v.children, ∃ s, render r = .ok s := by
  cases v with
  | list items | set items | tuple items =>
    obtain ⟨_, inside, _⟩ := ok_of_bind_ok done
    exact ok_of_mapM inside
  | record fields =>
    obtain ⟨_, inside, _⟩ := ok_of_bind_ok done
    intro r member
    rw [children, values_eq_map_toList] at member
    obtain ⟨field, entry, rfl⟩ := List.mem_map.mp member
    obtain ⟨_, here⟩ := ok_of_mapM inside field entry
    obtain ⟨s, here, _⟩ := ok_of_bind_ok here
    exact ⟨s, here⟩
  | _ =>
    intro r member
    cases member

/-- What makes one level of a value readable: a text that is one, and fields with names. -/
def Legible : Value → Prop
  | string bytes => ∃ s, bytes = Text.utf8 s
  | record fields => fields.keys ≠ [] ∧ ∀ name ∈ fields.keys, IsName name
  | _ => True

theorem mem_keys_of_field {fields : Fields} {field : String × Ref} (member : field ∈ fields.toList) :
    field.1 ∈ fields.keys := by
  rw [← Std.TreeMap.map_fst_toList_eq_keys]
  exact List.mem_map_of_mem member

/-- A legible value has a shape that can be read back. -/
theorem shape_sound {v : Value} (legible : v.Legible) (written : Ref → String) : (v.shape written).Sound := by
  have unnamed : ∀ {opening closing : Char} {items : List Ref}, (opening, closing) ∈ brackets →
      (Shape.bracketed opening closing (items.map fun r => (none, written r))).Sound := by
    intro opening closing items pair
    refine ⟨pair, fun e member name named => ?_⟩
    obtain ⟨r, _, rfl⟩ := List.mem_map.mp member
    cases named
  cases v with
  | null => exact ⟨by decide, by simp [WordChar, NameChar]⟩
  | bool b => cases b <;> exact ⟨by decide, by simp [WordChar, NameChar]⟩
  | byte b =>
    refine ⟨fun empty => ?_, byteWord_word b⟩
    simpa [byteWord_toList] using congrArg String.toList empty
  | char c => exact Or.inl rfl
  | int i => exact ⟨intWord_ne_empty i, intWord_word i⟩
  | string bytes => exact Or.inr rfl
  | list items => exact unnamed (by decide)
  | set items => exact unnamed (by decide)
  | tuple items => exact unnamed (by decide)
  | record fields =>
    refine ⟨by decide, fun e member name named => ?_⟩
    obtain ⟨field, entry, rfl⟩ := List.mem_map.mp member
    cases named
    exact legible.2 _ (mem_keys_of_field entry)

/-- The elements of the shape are the children in their written form. -/
theorem shape_elements {v : Value} {written : Ref → String} (each : ∀ r ∈ v.children, Readable (written r).toList) :
    ∀ e ∈ (v.shape written).elements, Readable e.2.toList := by
  have children : (v.shape written).elements.map Prod.snd = v.children.map written := by
    cases v with
    | record fields => simp [shape, Shape.elements, Value.children, values_eq_map_toList]
    | _ => simp [shape, Shape.elements, Value.children]
  intro e member
  have child : e.2 ∈ v.children.map written := children ▸ List.mem_map_of_mem member
  obtain ⟨r, inside, text⟩ := List.mem_map.mp child
  exact text ▸ each r inside

section Cases

variable {v w : Value} {f g : Ref → String}

/-- Which values are written as a word, and which word. -/
theorem shape_word_cases {word : String} (shaped : v.shape f = .word word) :
    v = .null ∧ word = "null" ∨ (∃ b, v = .bool b ∧ word = if b then "true" else "false") ∨
      (∃ b, v = .byte b ∧ word = byteWord b) ∨ ∃ i, v = .int i ∧ word = toString i := by
  cases v <;> cases shaped
  · exact Or.inl ⟨rfl, rfl⟩
  · exact Or.inr (Or.inl ⟨_, rfl, rfl⟩)
  · exact Or.inr (Or.inr (Or.inl ⟨_, rfl, rfl⟩))
  · exact Or.inr (Or.inr (Or.inr ⟨_, rfl, rfl⟩))

/-- A word says which scalar it stands for. -/
theorem eq_of_shape_word {word : String} (left : v.shape f = .word word) (right : w.shape g = .word word) : v = w := by
  have eNotInt : ∀ (b : Bool) (i : Int), toString i ≠ if b then "true" else "false" := fun b i =>
    intWord_ne i (c := 'e') (by cases b <;> decide) rfl (by decide)
  have bInByte : ∀ b : UInt8, 'b' ∈ (byteWord b).toList := fun b => by simp [byteWord_toList]
  rcases shape_word_cases left with ⟨rfl, rfl⟩ | ⟨b, rfl, rfl⟩ | ⟨b, rfl, rfl⟩ | ⟨i, rfl, rfl⟩ <;>
    rcases shape_word_cases right with ⟨rfl, same⟩ | ⟨c, rfl, same⟩ | ⟨c, rfl, same⟩ | ⟨j, rfl, same⟩
  · rfl
  · cases c <;> exact absurd same (by decide)
  · exact absurd (bInByte c) (same ▸ by decide)
  · exact absurd same.symm (intWord_ne j (c := 'n') (by decide) rfl (by decide))
  · cases b <;> exact absurd same (by decide)
  · cases b <;> cases c <;> first | rfl | exact absurd same (by decide)
  · exact absurd (bInByte c) (same ▸ by cases b <;> decide)
  · exact absurd same.symm (eNotInt b j)
  · exact absurd (bInByte b) (same ▸ by decide)
  · exact absurd (bInByte b) (same ▸ by cases c <;> decide)
  · exact congrArg byte (byteWord_inj same)
  · exact absurd same.symm (intWord_ne j (bInByte b) rfl (by decide))
  · exact absurd same (intWord_ne i (c := 'n') (by decide) rfl (by decide))
  · exact absurd same (eNotInt c i)
  · exact absurd same (intWord_ne i (bInByte c) rfl (by decide))
  · exact congrArg int (intWord_inj same)

/-- Which values are written between quotation marks. -/
theorem shape_quoted_cases {quote : Char} {cs : List Char} (shaped : v.shape f = .quoted quote cs) :
    (∃ c, v = .char c ∧ quote = '\'' ∧ cs = [c]) ∨
      ∃ bytes, v = .string bytes ∧ quote = '"' ∧ cs = (Text.lossy bytes).toList := by
  cases v <;> cases shaped
  · exact Or.inl ⟨_, rfl, rfl, rfl⟩
  · exact Or.inr ⟨_, rfl, rfl, rfl⟩

/-- Which values are written between brackets, and between which. -/
theorem shape_bracketed_cases {opening closing : Char} {es : List Element}
    (shaped : v.shape f = .bracketed opening closing es) :
    (∃ items : List Ref, es = items.map (fun r => (none, f r)) ∧
      (v = .list items ∧ opening = '[' ∨ v = .set items ∧ opening = '{' ∨ v = .tuple items ∧ opening = '(')) ∨
    ∃ fields : Fields, v = .record fields ∧ opening = '{' ∧
      es = fields.toList.map fun field => (some field.1, f field.2) := by
  cases v <;> cases shaped
  · exact Or.inl ⟨_, rfl, Or.inl ⟨rfl, rfl⟩⟩
  · exact Or.inl ⟨_, rfl, Or.inr (Or.inl ⟨rfl, rfl⟩)⟩
  · exact Or.inl ⟨_, rfl, Or.inr (Or.inr ⟨rfl, rfl⟩)⟩
  · exact Or.inr ⟨_, rfl, rfl, rfl⟩

end Cases

end Value

end CountedBox
