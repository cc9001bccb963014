import Std.Data.String.ToInt
import Mathlib.Algebra.Group.Nat.Defs
import CountedBox.Rendering
import CountedBox.Proofs.Rendering.Notation

namespace CountedBox

open Notation

theorem binaryDigits_chars {count n : Nat} : ∀ c ∈ binaryDigits count n, c = '0' ∨ c = '1' := by
  induction count generalizing n with
  | zero =>
    intro c member
    cases member
  | succ count ih =>
    intro c member
    rcases List.mem_append.mp member with earlier | last
    · exact ih c earlier
    · rw [List.mem_singleton.mp last]
      split
      · exact Or.inr rfl
      · exact Or.inl rfl

/-- Numbers are told apart by as many binary digits as they need. -/
theorem binaryDigits_inj {count m n : Nat} (left : m < 2 ^ count) (right : n < 2 ^ count)
    (same : binaryDigits count m = binaryDigits count n) : m = n := by
  induction count generalizing m n with
  | zero => omega
  | succ count ih =>
    obtain ⟨higher, lowest⟩ := List.append_inj' same rfl
    have high := ih (by omega) (by omega) higher
    have low := (List.cons.inj lowest).1
    have parity : m % 2 = 1 ↔ n % 2 = 1 := by
      by_cases odd : m % 2 = 1 <;> by_cases odd' : n % 2 = 1 <;> simp [odd, odd'] at low ⊢
    omega

/-- The written form of a byte. -/
def byteWord (b : UInt8) : String := String.ofList (binaryDigits 8 b.toNat) ++ "b"

theorem byteWord_toList (b : UInt8) : (byteWord b).toList = binaryDigits 8 b.toNat ++ ['b'] := by simp [byteWord]

/-- Two bytes are not written alike. -/
theorem byteWord_inj {b c : UInt8} (same : byteWord b = byteWord c) : b = c := by
  have digits := congrArg String.toList same
  rw [byteWord_toList, byteWord_toList] at digits
  exact UInt8.toNat_inj.mp (binaryDigits_inj b.toNat_lt c.toNat_lt (List.append_cancel_right digits))

theorem byteWord_word (b : UInt8) : ∀ c ∈ (byteWord b).toList, WordChar c := by
  rw [byteWord_toList]
  intro c member
  rcases List.mem_append.mp member with digit | last
  · rcases binaryDigits_chars c digit with rfl | rfl <;> exact Or.inl (Or.inl rfl)
  · rw [List.mem_singleton.mp last]
    exact Or.inl (Or.inl rfl)

theorem intWord_chars (i : Int) : ∀ c ∈ (toString i).toList, c.isDigit = true ∨ c = '-' := by
  have digits : ∀ n : Nat, ∀ c ∈ n.repr.toList, c.isDigit = true := by
    intro n c member
    rw [Nat.repr_eq_ofList_toDigits, String.toList_ofList] at member
    exact Nat.isDigit_of_mem_toDigits (by decide) (by decide) member
  change ∀ c ∈ i.repr.toList, _
  rw [Int.repr_eq_if]
  split
  · exact fun c member => Or.inl (digits _ c member)
  · intro c member
    rw [String.toList_append] at member
    rcases List.mem_append.mp member with sign | digit
    · exact Or.inr (List.mem_singleton.mp sign)
    · exact Or.inl (digits _ c digit)

theorem intWord_word (i : Int) : ∀ c ∈ (toString i).toList, WordChar c := by
  intro c member
  rcases intWord_chars i c member with digit | rfl
  · exact Or.inl (Or.inl (by simp [Char.isAlphanum, digit]))
  · exact Or.inr rfl

/-- A number is not written as a word with a letter in it. -/
theorem intWord_ne (i : Int) {w : String} {c : Char} (member : c ∈ w.toList) (noDigit : c.isDigit = false)
    (noSign : c ≠ '-') : toString i ≠ w := by
  rintro rfl
  rcases intWord_chars i c member with digit | sign
  · simp [digit] at noDigit
  · exact noSign sign

theorem intWord_ne_empty (i : Int) : toString i ≠ "" := by
  change i.repr ≠ ""
  rw [Int.repr_eq_if]
  split
  · exact Nat.repr_ne_empty
  · intro empty
    simpa using congrArg String.toList empty

/-- Two numbers are not written alike. -/
theorem intWord_inj {i j : Int} (same : toString i = toString j) : i = j := Int.repr_injective same

end CountedBox
