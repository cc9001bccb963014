import Mathlib.Data.List.Basic
import Mathlib.Tactic.Common
import CountedBox.Text.Escaped

namespace CountedBox.Text

/-- A run of characters with a property ends where a character without it follows. -/
theorem run_unique {p : Char → Prop} {cs ds rest rest' : List Char} (left : ∀ c ∈ cs, p c) (right : ∀ d ∈ ds, p d)
    (ends : ∀ c ∈ rest.head?, ¬ p c) (ends' : ∀ c ∈ rest'.head?, ¬ p c) (same : cs ++ rest = ds ++ rest') :
    cs = ds ∧ rest = rest' := by
  induction cs generalizing ds with
  | nil =>
    cases ds with
    | nil => exact ⟨rfl, same⟩
    | cons d ds =>
      cases same
      exact absurd (right d List.mem_cons_self) (ends d rfl)
  | cons c cs ih =>
    cases ds with
    | nil =>
      cases same
      exact absurd (left c List.mem_cons_self) (ends' c rfl)
    | cons d ds =>
      obtain ⟨rfl, after⟩ := List.cons.inj same
      rw [List.forall_mem_cons] at left right
      obtain ⟨rfl, tails⟩ := ih left.2 right.2 after
      exact ⟨rfl, tails⟩

theorem digitChar_ne_brace : ∀ n < 16, Nat.digitChar n ≠ '}' := by decide

theorem digitChar_inj : ∀ m < 16, ∀ n < 16, Nat.digitChar m = Nat.digitChar n → m = n := by decide

theorem digitChar_of_mem_toDigits {n : Nat} : ∀ c ∈ Nat.toDigits 16 n, ∃ d < 16, c = Nat.digitChar d := by
  induction n using Nat.strongRecOn with
  | _ n ih =>
    intro c member
    rw [Nat.toDigits_eq_if (by decide)] at member
    split at member
    · exact ⟨n, ‹_›, List.mem_singleton.mp member⟩
    · rcases List.mem_append.mp member with earlier | last
      · exact ih (n / 16) (by omega) c earlier
      · exact ⟨n % 16, by omega, List.mem_singleton.mp last⟩

theorem toDigits_ne_brace {n : Nat} : ∀ c ∈ Nat.toDigits 16 n, c ≠ '}' := by
  intro c member
  obtain ⟨d, small, rfl⟩ := digitChar_of_mem_toDigits c member
  exact digitChar_ne_brace d small

/-- Numbers are told apart by their digits. -/
theorem toDigits_inj {m n : Nat} (same : Nat.toDigits 16 m = Nat.toDigits 16 n) : m = n := by
  induction m using Nat.strongRecOn generalizing n with
  | _ m ih =>
    rw [Nat.toDigits_eq_if (by decide), Nat.toDigits_eq_if (n := n) (by decide)] at same
    split at same <;> split at same
    · exact digitChar_inj m ‹_› n ‹_› (List.cons.inj same).1
    · exact absurd (List.append_eq_singleton_iff.mp same.symm) (by simp [Nat.toDigits_ne_nil])
    · exact absurd (List.append_eq_singleton_iff.mp same) (by simp [Nat.toDigits_ne_nil])
    · obtain ⟨higher, lowest⟩ := List.append_inj' same rfl
      have high := ih (m / 16) (by omega) higher
      have low := digitChar_inj _ (Nat.mod_lt m (by decide)) _ (Nat.mod_lt n (by decide)) (List.cons.inj lowest).1
      omega

/-- The characters that are escaped by a letter or by themselves. -/
def abbreviations : List (Char × Char) :=
  [('\t', 't'), ('\r', 'r'), ('\n', 'n'), ('\'', '\''), ('"', '"'), ('\\', '\\')]

/-- A character stands for itself, or it has an abbreviation, or it is written by its number. -/
theorem escapeChar_cases (c : Char) : (escapeChar c = [c] ∧ c ≠ '\\' ∧ c ≠ '\'' ∧ c ≠ '"') ∨
    (∃ x, (c, x) ∈ abbreviations ∧ escapeChar c = ['\\', x]) ∨ escapeChar c = unicodeEscape c := by
  fun_cases escapeChar c
  case case7 plain => exact Or.inl ⟨rfl, ‹_›, ‹_›, ‹_›⟩
  case case8 => exact Or.inr (Or.inr rfl)
  all_goals exact Or.inr (Or.inl ⟨_, by decide, rfl⟩)

theorem abbreviations_inj : ∀ p ∈ abbreviations, ∀ q ∈ abbreviations, p.2 = q.2 → p.1 = q.1 := by decide

theorem abbreviations_ne_number : ∀ p ∈ abbreviations, p.2 ≠ 'u' := by decide

/-- A number between braces is read back from what follows it. -/
theorem unicodeEscape_unique {c d : Char} {rest rest' : List Char}
    (same : unicodeEscape c ++ rest = unicodeEscape d ++ rest') : c = d ∧ rest = rest' := by
  simp only [unicodeEscape, hexDigits, String.toList_ofList, List.append_assoc] at same
  have digits := List.append_cancel_left same
  obtain ⟨number, tails⟩ := run_unique (p := (· ≠ '}')) toDigits_ne_brace toDigits_ne_brace (by simp) (by simp) digits
  exact ⟨Char.toNat_inj.mp (toDigits_inj number), List.append_cancel_left tails⟩

/-- No escaped character is the start of another one. -/
theorem escapeChar_unique {c d : Char} {rest rest' : List Char} (same : escapeChar c ++ rest = escapeChar d ++ rest') :
    c = d ∧ rest = rest' := by
  rcases escapeChar_cases c with ⟨left, plain, _⟩ | ⟨x, short, left⟩ | left <;>
    rcases escapeChar_cases d with ⟨right, plain', _⟩ | ⟨y, short', right⟩ | right <;> rw [left, right] at same
  · exact List.cons.inj same
  · exact absurd (List.cons.inj same).1 plain
  · exact absurd (List.cons.inj same).1 plain
  · exact absurd (List.cons.inj same).1.symm plain'
  · obtain ⟨rfl, tails⟩ := List.cons.inj (List.cons.inj same).2
    exact ⟨abbreviations_inj _ short _ short' rfl, tails⟩
  · exact absurd (List.cons.inj (List.cons.inj same).2).1 (abbreviations_ne_number _ short)
  · exact absurd (List.cons.inj same).1.symm plain'
  · exact absurd (List.cons.inj (List.cons.inj same).2).1.symm (abbreviations_ne_number _ short')
  · exact unicodeEscape_unique same

/-- An escaped character does not look like a quote. -/
theorem escapeChar_head (c : Char) : ∃ x tail, escapeChar c = x :: tail ∧ x ≠ '\'' ∧ x ≠ '"' := by
  rcases escapeChar_cases c with ⟨plain, _, single, double⟩ | ⟨x, _, short⟩ | number
  · exact ⟨c, [], plain, single, double⟩
  · exact ⟨'\\', [x], short, by decide, by decide⟩
  · exact ⟨'\\', _, number, by decide, by decide⟩

/-- So what stands between two quotes can be read back. -/
theorem quoted_unique {quote : Char} {cs ds rest rest' : List Char} (mark : quote = '\'' ∨ quote = '"')
    (same : cs.flatMap escapeChar ++ quote :: rest = ds.flatMap escapeChar ++ quote :: rest') :
    cs = ds ∧ rest = rest' := by
  have apart : ∀ c (cs rest rest' : List Char), quote :: rest ≠ (c :: cs).flatMap escapeChar ++ rest' := by
    intro c cs rest rest' same
    obtain ⟨x, tail, escaped, single, double⟩ := escapeChar_head c
    rw [List.flatMap_cons, escaped] at same
    obtain rfl | rfl := mark
    · exact single (List.cons.inj same).1.symm
    · exact double (List.cons.inj same).1.symm
  induction cs generalizing ds with
  | nil =>
    cases ds with
    | nil => exact ⟨rfl, (List.cons.inj same).2⟩
    | cons d ds => exact absurd same (apart d ds rest _)
  | cons c cs ih =>
    cases ds with
    | nil => exact absurd same.symm (apart c cs rest' _)
    | cons d ds =>
      rw [List.flatMap_cons, List.flatMap_cons, List.append_assoc, List.append_assoc] at same
      obtain ⟨rfl, after⟩ := escapeChar_unique same
      obtain ⟨rfl, tails⟩ := ih after
      exact ⟨rfl, tails⟩

end CountedBox.Text
