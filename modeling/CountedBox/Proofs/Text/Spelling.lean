import CountedBox.Text.Lowercase

namespace CountedBox.Text

/-- A text with its ASCII capitals made small. -/
def small (s : String) : String := s.map Char.toLower

/-- A character of ASCII that only ASCII has as its lower case. The sign of the kelvin has a small `k`. -/
def IsPlain (c : Char) : Prop := c ≠ '\x00' ∧ c ≠ 'k' ∧ c.toNat < 128

instance : DecidablePred IsPlain := fun c => inferInstanceAs (Decidable (c ≠ '\x00' ∧ c ≠ 'k' ∧ c.toNat < 128))

theorem caseRuns_head : caseRuns = ⟨65, 90, 1, 32⟩ :: caseRuns.tail := rfl

/-- All runs but the first begin beyond ASCII, and lead beyond it or from one character to the small `k`. -/
theorem caseRuns_beyond : ∀ r ∈ caseRuns.tail, 128 ≤ r.first ∧
    (128 ≤ r.first + r.offset ∨ r.first = r.last ∧ r.first + r.offset = 107) := by
  decide +kernel

theorem toNat_toLower (c : Char) :
    c.toLower.toNat = if 65 ≤ c.toNat ∧ c.toNat ≤ 90 then c.toNat + 32 else c.toNat := by
  have range : (c.val ≥ 'A'.val ∧ c.val ≤ 'Z'.val) ↔ 65 ≤ c.toNat ∧ c.toNat ≤ 90 := by
    simp only [ge_iff_le, UInt32.le_iff_toNat_le]
    rfl
  unfold Char.toLower
  split
  · rename_i capital
    rw [if_pos (range.mp capital)]
    have sum : (c.val + ('a'.val - 'A'.val)).toNat = (c.toNat + 32) % 2 ^ 32 := UInt32.toNat_add _ _
    have bound := (range.mp capital).2
    exact sum.trans (Nat.mod_eq_of_lt (by omega))
  · rename_i other
    rw [if_neg (mt range.mpr other)]

/-- Only a character below 128 is lowered to one. -/
theorem ascii_of_toLower {c : Char} (ascii : c.toLower.toNat < 128) : c.toNat < 128 := by
  rw [toNat_toLower] at ascii
  split at ascii <;> omega

theorem toNat_ofNat_valid {n : Nat} (valid : n.isValidChar) : (Char.ofNat n).toNat = n := by
  rw [Char.ofNat, dif_pos valid]
  rfl

theorem ofNat_invalid {n : Nat} (invalid : ¬ n.isValidChar) : Char.ofNat n = '\x00' := by
  rw [Char.ofNat, dif_neg invalid]
  rfl

/-- In ASCII only capitals change. -/
theorem lowerChar_ascii {c : Char} (ascii : c.toNat < 128) : lowerChar c = [c.toLower] := by
  have dotted : c ≠ 'İ' := by
    rintro rfl
    exact absurd ascii (by decide)
  have later : caseRuns.tail.find? (fun r => r.holds c.toNat) = none := by
    rw [List.find?_eq_none]
    intro r member holds
    have beyond := (caseRuns_beyond r member).1
    simp only [CaseRun.holds, Bool.and_eq_true, decide_eq_true_eq] at holds
    omega
  have number := toNat_toLower c
  rw [lowerChar, if_neg dotted, caseRuns_head, List.find?_cons, later]
  by_cases capital : 65 ≤ c.toNat ∧ c.toNat ≤ 90
  · have first : CaseRun.holds ⟨65, 90, 1, 32⟩ c.toNat = true := by simp [CaseRun.holds, capital, Nat.mod_one]
    rw [if_pos capital] at number
    simp only [first]
    refine congrArg (fun d => [d]) (Char.toNat_inj.mp ?_)
    rw [number, toNat_ofNat_valid (Or.inl (by omega))]
    omega
  · have first : CaseRun.holds ⟨65, 90, 1, 32⟩ c.toNat = false := by
      simp only [CaseRun.holds, Bool.and_eq_false_iff, decide_eq_false_iff_not]
      omega
    rw [if_neg capital] at number
    simp only [first]
    exact congrArg (fun d => [d]) (Char.toNat_inj.mp number.symm)

/-- What is plain in lower case comes from an ASCII letter or is itself. -/
theorem eq_toLower_of_lowerChar {c : Char} (plain : ∀ x ∈ lowerChar c, IsPlain x) : lowerChar c = [c.toLower] := by
  by_cases ascii : c.toNat < 128
  · exact lowerChar_ascii ascii
  · exfalso
    unfold lowerChar at plain
    split at plain
    · exact absurd (plain '\u0307' (by simp)).2.2 (by decide)
    · split at plain
      · rename_i r found
        obtain ⟨notNull, notK, small⟩ := plain _ (List.mem_singleton_self _)
        have holds := List.find?_some found
        have member := List.mem_of_find?_eq_some found
        simp only [CaseRun.holds, Bool.and_eq_true, decide_eq_true_eq] at holds
        rw [caseRuns_head, List.mem_cons] at member
        rcases member with rfl | later
        · dsimp only at holds
          omega
        · by_cases valid : (c.toNat + r.offset).toNat.isValidChar
          · rw [toNat_ofNat_valid valid] at small
            refine notK (Char.toNat_inj.mp ?_)
            rw [toNat_ofNat_valid valid]
            change _ = 107
            rcases (caseRuns_beyond r later).2 with beyond | ⟨single, kelvin⟩ <;> omega
          · exact notNull (ofNat_invalid valid)
      · exact ascii (plain c (List.mem_singleton_self _)).2.2

theorem lowerAfter_ascii (before : List Char) {cs : List Char} (ascii : ∀ c ∈ cs, c.toNat < 128) :
    lowerAfter before cs = cs.map Char.toLower := by
  induction cs generalizing before with
  | nil => rfl
  | cons c cs ih =>
    have here := ascii c List.mem_cons_self
    have sigma : c ≠ 'Σ' := by
      rintro rfl
      exact absurd here (by decide)
    rw [lowerAfter, if_neg sigma, lowerChar_ascii here, ih _ fun d member => ascii d (List.mem_cons_of_mem _ member)]
    rfl

/-- Where only plain characters come out each of them was lowered by itself. -/
theorem lowerAfter_plain {before cs : List Char} (plain : ∀ x ∈ lowerAfter before cs, IsPlain x) :
    lowerAfter before cs = cs.map Char.toLower := by
  induction cs generalizing before with
  | nil => rfl
  | cons c cs ih =>
    rw [lowerAfter] at plain ⊢
    have rest := ih fun x member => plain x (List.mem_append_right _ member)
    rw [rest]
    split
    · rename_i sigma
      have final : ¬ ∀ x ∈ ['ς'], IsPlain x := fun all => absurd (all _ (List.mem_singleton_self _)).2.2 (by decide)
      have inner : ¬ ∀ x ∈ ['σ'], IsPlain x := fun all => absurd (all _ (List.mem_singleton_self _)).2.2 (by decide)
      rw [if_pos sigma] at plain
      have head := fun x member => plain x (List.mem_append_left _ member)
      split at head
      · exact absurd head final
      · exact absurd head inner
    · rename_i other
      rw [if_neg other] at plain
      rw [eq_toLower_of_lowerChar fun x member => plain x (List.mem_append_left _ member)]
      rfl

/-- Lower case is a plain word just when making the ASCII capitals small gives that word: nothing beyond ASCII
is taken for a letter of it. -/
theorem lowercase_eq_iff {s word : String} (plain : ∀ c ∈ word.toList, IsPlain c) :
    lowercase s = word ↔ small s = word := by
  rw [← String.toList_inj, ← String.toList_inj, lowercase, small, String.toList_ofList, String.toList_map]
  constructor
  · intro lower
    rw [← lower]
    exact (lowerAfter_plain (lower ▸ plain)).symm
  · intro same
    rw [← same]
    refine lowerAfter_ascii [] fun c member => ascii_of_toLower (plain _ ?_).2.2
    rw [← same]
    exact List.mem_map_of_mem member

end CountedBox.Text
