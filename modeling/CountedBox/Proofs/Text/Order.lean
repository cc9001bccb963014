import CountedBox.Proofs.Text.Utf8

namespace CountedBox.Text

theorem ofNat_lt_ofNat {m n : Nat} (left : m < 256) (right : n < 256) : UInt8.ofNat m < UInt8.ofNat n ↔ m < n := by
  rw [UInt8.lt_iff_toNat_lt, toNat_ofNat_of_lt left, toNat_ofNat_of_lt right]

theorem ofNat_eq_ofNat {m n : Nat} (left : m < 256) (right : n < 256) : UInt8.ofNat m = UInt8.ofNat n ↔ m = n := by
  rw [← UInt8.toNat_inj, toNat_ofNat_of_lt left, toNat_ofNat_of_lt right]

/-- The bytes of a smaller character come first, whatever follows. -/
theorem utf8EncodeChar_lt {c d : Char} (less : c < d) (xs ys : List UInt8) :
    String.utf8EncodeChar c ++ xs < String.utf8EncodeChar d ++ ys := by
  have number : c.val.toNat < d.val.toNat := less
  have digits : ∀ c : Char, c.val.toNat / 64 / 64 = c.val.toNat / 4096 ∧
      c.val.toNat / 4096 / 64 = c.val.toNat / 262144 ∧ c.val.toNat < 0x110000 ∧
      c.val.toNat / 262144 % 8 = c.val.toNat / 262144 := by
    intro c
    have valid := c.valid
    simp only [UInt32.isValidChar, Nat.isValidChar] at valid
    omega
  have digitsC := digits c
  have digitsD := digits d
  unfold String.utf8EncodeChar
  generalize c.val.toNat = m at number digitsC ⊢
  generalize d.val.toNat = n at number digitsD ⊢
  dsimp only
  -- Where what follows would matter, all bytes before it are the same, and so would be the numbers.
  split_ifs <;>
    simp (disch := omega) only [List.cons_append, List.nil_append, List.cons_lt_cons_iff, ofNat_lt_ofNat,
      ofNat_eq_ofNat] <;>
    by_cases tail : xs < ys <;> (try simp only [tail, and_true, and_false, or_false]) <;> omega

/-- Texts are in the order of their bytes. -/
theorem utf8_lt {s t : String} (less : s < t) : utf8 s < utf8 t := by
  rw [String.lt_iff] at less
  unfold utf8
  generalize s.toList = cs at less ⊢
  generalize t.toList = ds at less ⊢
  induction cs generalizing ds with
  | nil =>
    cases ds with
    | nil => exact absurd less (List.not_lt_nil _)
    | cons d ds =>
      rw [List.flatMap_cons]
      cases bytes : String.utf8EncodeChar d with
      | nil => exact absurd bytes String.utf8EncodeChar_ne_nil
      | cons b bs => exact List.nil_lt_cons _ _
  | cons c cs ih =>
    cases ds with
    | nil => exact absurd less (List.not_lt_nil _)
    | cons d ds =>
      rw [List.flatMap_cons, List.flatMap_cons]
      rcases List.cons_lt_cons_iff.mp less with first | ⟨rfl, rest⟩
      · exact utf8EncodeChar_lt first _ _
      · exact List.append_left_lt (ih ds rest)

end CountedBox.Text
