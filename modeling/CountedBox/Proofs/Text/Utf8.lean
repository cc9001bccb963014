import Mathlib.Tactic.SplitIfs
import CountedBox.Text.Utf8

namespace CountedBox.Text

/-- A lead byte with all that must follow it is read as one character. -/
theorem decodeLossy_lead {lead low high : UInt8} (tail : List UInt8) {rest : List UInt8} (long : ¬ lead < 0x80)
    (asks : continuation? lead = some (tail.length, low, high))
    (follows : continues tail.length low high (tail ++ rest) = tail) :
    decodeLossy (lead :: (tail ++ rest)) = assemble lead tail :: decodeLossy rest := by
  rw [decodeLossy, if_neg long, asks]
  simp only [follows, if_true, List.drop_left]

theorem toNat_ofNat_of_lt {n : Nat} (small : n < 256) : (UInt8.ofNat n).toNat = n :=
  UInt8.toNat_ofNat_of_lt' small

section Sequences

variable {n : Nat} (rest : List UInt8)

theorem decodeLossy_one (high : n < 0x80) : decodeLossy (UInt8.ofNat n :: rest) = Char.ofNat n :: decodeLossy rest := by
  have lead : (UInt8.ofNat n).toNat = n := toNat_ofNat_of_lt (by omega)
  have short : UInt8.ofNat n < 0x80 := by rwa [UInt8.lt_iff_toNat_lt, lead]
  rw [decodeLossy, if_pos short, lead]

theorem decodeLossy_two (low : 0x80 ≤ n) (high : n < 0x800) :
    decodeLossy (UInt8.ofNat (n / 64 % 32 + 192) :: UInt8.ofNat (n % 64 + 128) :: rest) =
      Char.ofNat n :: decodeLossy rest := by
  have lead := toNat_ofNat_of_lt (n := n / 64 % 32 + 192) (by omega)
  have second := toNat_ofNat_of_lt (n := n % 64 + 128) (by omega)
  generalize UInt8.ofNat (n / 64 % 32 + 192) = a at lead ⊢
  generalize UInt8.ofNat (n % 64 + 128) = b at second ⊢
  have asks : continuation? a = some (1, 0x80, 0xbf) := by
    simp only [continuation?, UInt8.lt_iff_toNat_lt, ← UInt8.toNat_inj, lead, UInt8.reduceToNat]
    split_ifs <;> first | rfl | omega
  refine (decodeLossy_lead [b] ?_ asks ?_).trans (congrArg (· :: _) (congrArg Char.ofNat ?_))
  · simp only [UInt8.lt_iff_toNat_lt, lead, UInt8.reduceToNat]
    omega
  · simp only [List.length_singleton, List.singleton_append, continues, UInt8.le_iff_toNat_le, second,
      UInt8.reduceToNat]
    rw [if_pos (by omega)]
  · have modulus : Nat.pow 2 (6 - [b].length) = 32 := rfl
    simp only [modulus, List.foldl_cons, List.foldl_nil, lead, second]
    omega

/-- Surrogates are left out. -/
theorem decodeLossy_three (low : 0x800 ≤ n) (high : n < 0x10000) (valid : n < 0xd800 ∨ 0xdfff < n) :
    decodeLossy (UInt8.ofNat (n / 4096 % 16 + 224) :: UInt8.ofNat (n / 64 % 64 + 128) ::
      UInt8.ofNat (n % 64 + 128) :: rest) = Char.ofNat n :: decodeLossy rest := by
  have lead := toNat_ofNat_of_lt (n := n / 4096 % 16 + 224) (by omega)
  have second := toNat_ofNat_of_lt (n := n / 64 % 64 + 128) (by omega)
  have third := toNat_ofNat_of_lt (n := n % 64 + 128) (by omega)
  generalize UInt8.ofNat (n / 4096 % 16 + 224) = a at lead ⊢
  generalize UInt8.ofNat (n / 64 % 64 + 128) = b at second ⊢
  generalize UInt8.ofNat (n % 64 + 128) = c at third ⊢
  have asks : ∃ low high : UInt8, continuation? a = some (2, low, high) ∧
      low.toNat ≤ b.toNat ∧ b.toNat ≤ high.toNat := by
    simp only [continuation?, UInt8.lt_iff_toNat_lt, ← UInt8.toNat_inj, lead, second, UInt8.reduceToNat]
    split_ifs <;> first | omega | exact ⟨_, _, rfl, by simp only [UInt8.reduceToNat]; omega⟩
  obtain ⟨low', high', asks, range⟩ := asks
  refine (decodeLossy_lead [b, c] ?_ asks ?_).trans (congrArg (· :: _) (congrArg Char.ofNat ?_))
  · simp only [UInt8.lt_iff_toNat_lt, lead, UInt8.reduceToNat]
    omega
  · simp only [List.length_cons, List.length_nil, List.cons_append, List.nil_append, continues,
      UInt8.le_iff_toNat_le, third, UInt8.reduceToNat, if_pos range]
    rw [if_pos (by omega)]
  · have modulus : Nat.pow 2 (6 - [b, c].length) = 16 := rfl
    simp only [modulus, List.foldl_cons, List.foldl_nil, lead, second, third]
    omega

theorem decodeLossy_four (low : 0x10000 ≤ n) (high : n < 0x110000) :
    decodeLossy (UInt8.ofNat (n / 262144 % 8 + 240) :: UInt8.ofNat (n / 4096 % 64 + 128) ::
      UInt8.ofNat (n / 64 % 64 + 128) :: UInt8.ofNat (n % 64 + 128) :: rest) = Char.ofNat n :: decodeLossy rest := by
  have lead := toNat_ofNat_of_lt (n := n / 262144 % 8 + 240) (by omega)
  have second := toNat_ofNat_of_lt (n := n / 4096 % 64 + 128) (by omega)
  have third := toNat_ofNat_of_lt (n := n / 64 % 64 + 128) (by omega)
  have fourth := toNat_ofNat_of_lt (n := n % 64 + 128) (by omega)
  generalize UInt8.ofNat (n / 262144 % 8 + 240) = a at lead ⊢
  generalize UInt8.ofNat (n / 4096 % 64 + 128) = b at second ⊢
  generalize UInt8.ofNat (n / 64 % 64 + 128) = c at third ⊢
  generalize UInt8.ofNat (n % 64 + 128) = d at fourth ⊢
  have asks : ∃ low high : UInt8, continuation? a = some (3, low, high) ∧
      low.toNat ≤ b.toNat ∧ b.toNat ≤ high.toNat := by
    simp only [continuation?, UInt8.lt_iff_toNat_lt, ← UInt8.toNat_inj, lead, second, UInt8.reduceToNat]
    split_ifs <;> first | omega | exact ⟨_, _, rfl, by simp only [UInt8.reduceToNat]; omega⟩
  obtain ⟨low', high', asks, range⟩ := asks
  refine (decodeLossy_lead [b, c, d] ?_ asks ?_).trans (congrArg (· :: _) (congrArg Char.ofNat ?_))
  · simp only [UInt8.lt_iff_toNat_lt, lead, UInt8.reduceToNat]
    omega
  · simp only [List.length_cons, List.length_nil, List.cons_append, List.nil_append, continues,
      UInt8.le_iff_toNat_le, third, fourth, UInt8.reduceToNat, if_pos range]
    rw [if_pos (by omega), if_pos (by omega)]
  · have modulus : Nat.pow 2 (6 - [b, c, d].length) = 8 := rfl
    simp only [modulus, List.foldl_cons, List.foldl_nil, lead, second, third, fourth]
    omega

end Sequences

/-- A character is decoded before what follows it. -/
theorem decodeLossy_utf8EncodeChar (c : Char) (rest : List UInt8) :
    decodeLossy (String.utf8EncodeChar c ++ rest) = c :: decodeLossy rest := by
  have valid := c.valid
  simp only [UInt32.isValidChar, Nat.isValidChar] at valid
  have back : Char.ofNat c.val.toNat = c := Char.ofNat_toNat c
  fun_cases String.utf8EncodeChar c with
  | case1 n one => exact (decodeLossy_one rest (by omega)).trans (congrArg (· :: _) back)
  | case2 n _ _ => exact (decodeLossy_two rest (by omega) (by omega)).trans (congrArg (· :: _) back)
  | case3 n _ _ _ => exact (decodeLossy_three rest (by omega) (by omega) (by omega)).trans (congrArg (· :: _) back)
  | case4 n _ _ _ => exact (decodeLossy_four rest (by omega) (by omega)).trans (congrArg (· :: _) back)

/-- Bytes that are UTF-8 are read back as the text they were made from. -/
theorem decodeLossy_utf8 (s : String) : decodeLossy (utf8 s) = s.toList := by
  unfold utf8
  induction s.toList with
  | nil => rw [List.flatMap_nil, decodeLossy]
  | cons c cs ih => rw [List.flatMap_cons, decodeLossy_utf8EncodeChar, ih]

/-- Decoding takes back what encoding did. -/
theorem lossy_utf8 (s : String) : lossy (utf8 s) = s := by rw [lossy, decodeLossy_utf8, String.ofList_toList]

/-- What is UTF-8 is read as the text that it is the bytes of. -/
theorem decode?_eq_some_iff {bytes : List UInt8} {s : String} : decode? bytes = some s ↔ bytes = utf8 s := by
  have array : s.toByteArray.data = (utf8 s).toArray := by
    conv => lhs; rw [← String.ofList_toList (s := s)]
    rw [String.toByteArray_ofList, List.utf8Encode, List.data_toByteArray, utf8]
  constructor
  · intro decoded
    unfold decode? String.fromUTF8? at decoded
    split at decoded
    · have data : s.toByteArray.data = bytes.toArray := by
        cases decoded
        rfl
      exact Array.toList_inj.mpr (data.symm.trans array)
    · cases decoded
  · rintro rfl
    have whole : (⟨(utf8 s).toArray⟩ : ByteArray) = s.toByteArray := by rw [← array]
    unfold decode? String.fromUTF8?
    rw [whole, dif_pos s.isValidUTF8]
    rfl

end CountedBox.Text
