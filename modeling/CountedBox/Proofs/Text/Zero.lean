import Mathlib.Data.List.TakeWhile
import CountedBox.Proofs.Text.Escaped
import CountedBox.Proofs.Text.Order
import CountedBox.Text.Escaped

namespace CountedBox.Text

/-- A text up to its first zero. -/
def beforeZero (s : String) : String := String.ofList (s.toList.takeWhile fun c => c != '\x00')

/-- A text without a zero is not cut. -/
theorem beforeZero_eq_self {s : String} : beforeZero s = s ↔ '\x00' ∉ s.toList := by
  rw [beforeZero, ← String.toList_inj, String.toList_ofList, List.takeWhile_eq_self_iff]
  constructor
  · intro all member
    exact absurd (all _ member) (by decide)
  · intro absent c member
    exact bne_iff_ne.mpr fun zero => absent (zero ▸ member)

/-- Only a zero has a zero byte. -/
theorem zero_notMem_utf8EncodeChar {c : Char} (other : c ≠ '\x00') : 0 ∉ String.utf8EncodeChar c := by
  have positive : c.val.toNat ≠ 0 := fun zero => other (Char.toNat_inj.mp zero)
  have valid := c.valid
  simp only [UInt32.isValidChar, Nat.isValidChar] at valid
  have zero : (0 : UInt8) = UInt8.ofNat 0 := rfl
  unfold String.utf8EncodeChar
  generalize c.val.toNat = n at positive valid ⊢
  dsimp only
  split_ifs <;>
    simp (disch := omega) only [zero, List.mem_cons, List.not_mem_nil, or_false, ofNat_eq_ofNat, not_or] <;>
    omega

/-- The bytes up to the first zero byte are those of the text up to the first zero. -/
theorem untilZero_utf8 (s : String) : untilZero (utf8 s) = utf8 (beforeZero s) := by
  rw [untilZero, utf8, utf8, beforeZero, String.toList_ofList]
  induction s.toList with
  | nil => rfl
  | cons c cs ih =>
    by_cases zero : c = '\x00'
    · subst zero
      rfl
    · have whole : ∀ b ∈ String.utf8EncodeChar c, (b != 0) = true := fun b member =>
        bne_iff_ne.mpr fun same => zero_notMem_utf8EncodeChar zero (same ▸ member)
      rw [List.flatMap_cons, List.takeWhile_append_of_pos whole, ih, List.takeWhile_cons,
        if_pos (bne_iff_ne.mpr zero), List.flatMap_cons]

theorem zero_notMem_untilZero (bytes : List UInt8) : 0 ∉ untilZero bytes := fun member =>
  absurd (List.mem_takeWhile_imp member) (by decide)

theorem ofNat_ne_zero {n : Nat} (valid : n.isValidChar) (positive : n ≠ 0) : Char.ofNat n ≠ '\x00' := by
  intro zero
  have number : (Char.ofNat n).toNat = n := by
    rw [Char.ofNat, dif_pos valid]
    rfl
  exact positive (number.symm.trans (congrArg Char.toNat zero))

/-- What follows a lead byte is complete only if it goes on with a byte in the range. -/
theorem continues_complete {count : Nat} {low high : UInt8} {rest : List UInt8}
    (complete : (continues (count + 1) low high rest).length = count + 1) :
    ∃ b more, continues (count + 1) low high rest = b :: continues count 0x80 0xbf more ∧
      low.toNat ≤ b.toNat ∧ b.toNat ≤ high.toNat ∧ (continues count 0x80 0xbf more).length = count := by
  cases rest with
  | nil => cases complete
  | cons b more =>
    rw [continues] at complete ⊢
    split at complete
    · rename_i range
      rw [if_pos range]
      exact ⟨b, more, rfl, range.1, range.2, Nat.succ.inj complete⟩
    · cases complete

/-- A lead byte and the range of the byte after it leave out longer spellings than needed, surrogates and
numbers that are too large. -/
theorem continuation?_cases {lead low high : UInt8} {count : Nat} (asks : continuation? lead = some (count, low, high)) :
    128 ≤ low.toNat ∧ high.toNat ≤ 191 ∧
      (count = 1 ∧ 194 ≤ lead.toNat ∧ lead.toNat ≤ 223 ∨
        count = 2 ∧ 224 ≤ lead.toNat ∧ lead.toNat ≤ 239 ∧ (lead.toNat = 224 → 160 ≤ low.toNat) ∧
          (lead.toNat = 237 → high.toNat ≤ 159) ∨
        count = 3 ∧ 240 ≤ lead.toNat ∧ lead.toNat ≤ 244 ∧ (lead.toNat = 240 → 144 ≤ low.toNat) ∧
          (lead.toNat = 244 → high.toNat ≤ 143)) := by
  simp only [continuation?, UInt8.lt_iff_toNat_lt, ← UInt8.toNat_inj, UInt8.reduceToNat] at asks
  split_ifs at asks <;> cases asks <;> simp only [UInt8.reduceToNat, true_and] <;> omega

/-- What a lead byte and the bytes after it stand for is a character beyond ASCII. -/
theorem assemble_ne_zero {lead low high : UInt8} {count : Nat} {rest : List UInt8}
    (asks : continuation? lead = some (count, low, high))
    (complete : (continues count low high rest).length = count) :
    assemble lead (continues count low high rest) ≠ '\x00' := by
  obtain ⟨least, most, ⟨rfl, ranges⟩ | ⟨rfl, ranges⟩ | ⟨rfl, ranges⟩⟩ := continuation?_cases asks
  · obtain ⟨b, more, here, lower, upper, -⟩ := continues_complete complete
    have modulus : Nat.pow 2 (6 - 1) = 32 := rfl
    rw [here]
    simp only [assemble, continues, List.length_cons, List.length_nil, List.foldl_cons, List.foldl_nil, modulus]
    exact ofNat_ne_zero (Or.inl (by omega)) (by omega)
  · obtain ⟨b, more, here, lower, upper, second⟩ := continues_complete complete
    obtain ⟨c, more', here', -⟩ := continues_complete second
    have modulus : Nat.pow 2 (6 - 2) = 16 := rfl
    rw [here, here']
    simp only [assemble, continues, List.length_cons, List.length_nil, List.foldl_cons, List.foldl_nil, modulus]
    refine ofNat_ne_zero ?_ (by omega)
    simp only [Nat.isValidChar]
    omega
  · obtain ⟨b, more, here, lower, upper, second⟩ := continues_complete complete
    obtain ⟨c, more', here', -, -, third⟩ := continues_complete second
    obtain ⟨d, more'', here'', -⟩ := continues_complete third
    have modulus : Nat.pow 2 (6 - 3) = 8 := rfl
    rw [here, here', here'']
    simp only [assemble, continues, List.length_cons, List.length_nil, List.foldl_cons, List.foldl_nil, modulus]
    refine ofNat_ne_zero ?_ (by omega)
    simp only [Nat.isValidChar]
    omega

/-- Reading bytes as UTF-8 makes no zero up. -/
theorem zero_notMem_decodeLossy {bytes : List UInt8} (absent : 0 ∉ bytes) : '\x00' ∉ decodeLossy bytes := by
  fun_induction decodeLossy bytes with
  | case1 => exact List.not_mem_nil
  | case2 b rest short ih =>
    rw [List.mem_cons, not_or] at absent ⊢
    have positive : b.toNat ≠ 0 := fun zero => absent.1 (UInt8.toNat_inj.mp zero.symm)
    have ascii : b.toNat < 128 := short
    exact ⟨(ofNat_ne_zero (Or.inl (by omega)) positive).symm, ih absent.2⟩
  | case3 b rest long invalid ih =>
    rw [List.mem_cons, not_or] at absent ⊢
    exact ⟨by decide, ih absent.2⟩
  | case4 b rest long count low high asks tail ih =>
    rw [List.mem_cons, not_or] at absent ⊢
    refine ⟨?_, ih fun member => absent.2 (List.mem_of_mem_drop member)⟩
    split
    · exact (assemble_ne_zero asks ‹_›).symm
    · decide

theorem digitChar_ne_zero : ∀ d < 16, Nat.digitChar d ≠ '\x00' := by decide

theorem zero_notMem_unicodeEscape (c : Char) : '\x00' ∉ unicodeEscape c := by
  intro member
  simp only [unicodeEscape, hexDigits, String.toList_ofList, List.mem_append, List.mem_cons, List.not_mem_nil,
    or_false, Char.reduceEq, false_or] at member
  obtain ⟨d, small, zero⟩ := digitChar_of_mem_toDigits _ member
  exact digitChar_ne_zero d small zero.symm

theorem zero_notMem_escapeChar (c : Char) : '\x00' ∉ escapeChar c := by
  intro member
  rcases escapeChar_cases c with ⟨plain, _⟩ | ⟨x, short, escaped⟩ | number
  · rw [plain] at member
    cases List.mem_singleton.mp member
    exact absurd plain (by decide)
  · have letter : ∀ p ∈ abbreviations, '\x00' ∉ ['\\', p.2] := by decide
    exact letter _ short (escaped ▸ member)
  · exact zero_notMem_unicodeEscape c (number ▸ member)

/-- No character is quoted with a zero, not even the zero. -/
theorem zero_notMem_quoteChar (c : Char) : '\x00' ∉ quoteChar c := by
  fun_cases quoteChar c
  case case7 => exact zero_notMem_unicodeEscape c
  case case8 => simpa using Ne.symm ‹c ≠ '\x00'›
  all_goals decide

/-- Quotes in messages show a zero by its escape. -/
theorem zero_notMem_quoted (s : String) : '\x00' ∉ (quoted s).toList := by
  simp only [quoted, String.toList_ofList, List.mem_append, List.mem_cons, List.mem_flatMap, List.not_mem_nil, or_false,
    not_or, not_exists, not_and]
  exact ⟨⟨by decide, fun c _ => zero_notMem_quoteChar c⟩, by decide⟩

end CountedBox.Text
