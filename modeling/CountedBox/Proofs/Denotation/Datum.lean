import Mathlib.Data.Fintype.Basic
import Mathlib.Data.List.FinRange
import Mathlib.Data.QPF.Univariate.Basic

namespace CountedBox

open scoped Classical

/-- One level of a value, over what stands for its elements. Lists and tuples are sequences and kept
apart, a set knows neither order nor repetition, and a record has an element under some names. -/
inductive Level (α : Type) where
  | null
  | bool (b : Bool)
  | byte (b : UInt8)
  | char (c : Char)
  | int (i : Int)
  | string (bytes : List UInt8)
  | list (items : List α)
  | set (items : Finset α)
  | tuple (items : List α)
  | record (field : String → Option α)

namespace Level

variable {α β γ : Type}

noncomputable def map (f : α → β) : Level α → Level β
  | null => null
  | bool b => bool b
  | byte b => byte b
  | char c => char c
  | int i => int i
  | string bytes => string bytes
  | list items => list (items.map f)
  | set items => set (items.image f)
  | tuple items => tuple (items.map f)
  | record field => record fun name => (field name).map f

theorem map_map (g : β → γ) (f : α → β) (l : Level α) : (l.map f).map g = l.map (g ∘ f) := by
  cases l <;> simp [map, Finset.image_image]

/-- What remains of a level without its elements, when the elements of a set are numbered. -/
inductive Frame where
  | scalar (level : Level Empty)
  | list (length : Nat)
  | set (size : Nat)
  | tuple (length : Nat)
  | record (names : Set String)

namespace Frame

/-- The places of a frame, one for each element. -/
def Place : Frame → Type
  | scalar _ => Empty
  | list n | set n | tuple n => Fin n
  | record names => names

/-- The frame with each place as its own element. -/
noncomputable def level : (frame : Frame) → Level frame.Place
  | scalar l => l
  | list n => .list (List.finRange n)
  | set n => .set (Finset.univ : Finset (Fin n))
  | tuple n => .tuple (List.finRange n)
  | record names => .record fun name => if h : name ∈ names then some ⟨name, h⟩ else none

end Frame

/-- A level is a frame with elements in its places. -/
theorem exists_frame (l : Level α) :
    ∃ (frame : Frame) (element : frame.Place → α), frame.level.map element = l := by
  have sequence : ∀ items : List α, (List.finRange items.length).map items.get = items :=
    fun items => List.map_get_finRange items
  cases l with
  | null => exact ⟨.scalar .null, Empty.elim, rfl⟩
  | bool b => exact ⟨.scalar (.bool b), Empty.elim, rfl⟩
  | byte b => exact ⟨.scalar (.byte b), Empty.elim, rfl⟩
  | char c => exact ⟨.scalar (.char c), Empty.elim, rfl⟩
  | int i => exact ⟨.scalar (.int i), Empty.elim, rfl⟩
  | string bytes => exact ⟨.scalar (.string bytes), Empty.elim, rfl⟩
  | list items => exact ⟨.list items.length, items.get, congrArg Level.list (sequence items)⟩
  | tuple items => exact ⟨.tuple items.length, items.get, congrArg Level.tuple (sequence items)⟩
  | set items =>
    have numbered : (Finset.univ : Finset (Fin items.toList.length)).image items.toList.get = items := by
      ext x
      rw [Finset.mem_image, ← Finset.mem_toList, List.mem_iff_get]
      simp
    exact ⟨.set items.toList.length, items.toList.get, congrArg Level.set numbered⟩
  | record field =>
    let element : (Frame.record {name | (field name).isSome}).Place → α :=
      fun place => (field place.1).get place.2
    refine ⟨.record {name | (field name).isSome}, element, congrArg Level.record (funext fun name => ?_)⟩
    by_cases bound : name ∈ {name | (field name).isSome = true}
    · simp only [dif_pos bound]
      exact Option.some_get bound
    · simp only [dif_neg bound, Option.map_none]
      exact (Option.not_isSome_iff_eq_none.mp bound).symm

noncomputable instance : QPF Level where
  map := Level.map
  P := ⟨Frame, Frame.Place⟩
  abs filled := filled.1.level.map filled.2
  repr l := ⟨l.exists_frame.choose, l.exists_frame.choose_spec.choose⟩
  abs_repr l := l.exists_frame.choose_spec.choose_spec
  abs_map f filled := (Level.map_map f filled.2 filled.1.level).symm

end Level

/-- The values that boxes denote: levels over levels, down to scalars and empty containers. -/
def Datum : Type := QPF.Fix Level

namespace Datum

noncomputable def of (l : Level Datum) : Datum := QPF.Fix.mk l

noncomputable instance : Inhabited Datum := ⟨of .null⟩

/-- Two values are equal exactly if they agree at the top and in their elements. -/
theorem of_inj {l m : Level Datum} : of l = of m ↔ l = m :=
  ⟨fun same => by rw [← QPF.Fix.dest_mk l, ← QPF.Fix.dest_mk m]; exact congrArg QPF.Fix.dest same,
    congrArg of⟩

end Datum

end CountedBox
