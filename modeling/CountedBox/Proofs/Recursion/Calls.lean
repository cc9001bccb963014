import Mathlib.Data.List.Basic

namespace CountedBox

variable {ι α β : Type}

/-- The program comes to the outcome by calls that end: whoever answers these as they end brings it there,
whatever becomes of all other calls. -/
def ComesTo (ends : ι → α → Prop) (program : (ι → α) → β) (outcome : β) : Prop :=
  ∃ (asked : List ι) (answer : ι → α), (∀ i ∈ asked, ends i (answer i)) ∧
    ∀ call : ι → α, (∀ i ∈ asked, call i = answer i) → program call = outcome

/-- Unbudgeted execution of a recursion: called for `i` the body comes to the outcome by calls of itself that
end as well. This call counted, calls are nested at most so deep. -/
def Ends (body : (ι → α) → ι → α) : Nat → ι → α → Prop
  | 0, _, _ => False
  | depth + 1, i, outcome => ComesTo (Ends body depth) (fun call => body call i) outcome

/-- A program comes to one outcome at most, if the calls it makes do. -/
theorem ComesTo.unique {ends ends' : ι → α → Prop} {program : (ι → α) → β} {x y : β}
    (same : ∀ i a b, ends i a → ends' i b → a = b) (left : ComesTo ends program x)
    (right : ComesTo ends' program y) : x = y := by
  classical
  obtain ⟨asked, answer, ended, comes⟩ := left
  obtain ⟨asked', answer', ended', comes'⟩ := right
  -- Where both ask they are answered alike, so one caller can serve both.
  let call i := if i ∈ asked then answer i else answer' i
  have first : program call = x := comes call fun i member => if_pos member
  have second : program call = y := by
    refine comes' call fun i member' => ?_
    by_cases member : i ∈ asked
    · exact (if_pos member).trans (same i _ _ (ended i member) (ended' i member'))
    · exact if_neg member
  exact first.symm.trans second

/-- A recursion ends with one outcome, however deep its calls may be nested. -/
theorem Ends.unique {body : (ι → α) → ι → α} {m n : Nat} {i : ι} {x y : α} (left : Ends body m i x)
    (right : Ends body n i y) : x = y := by
  induction m generalizing n i x y with
  | zero => cases left
  | succ m ih =>
    cases n with
    | zero => cases right
    | succ n =>
      have same : ∀ j a b, Ends body m j a → Ends body n j b → a = b := fun _ _ _ => ih
      exact ComesTo.unique same left right

/-- A call ends with one outcome at most. -/
theorem Ends.iff_eq {body : (ι → α) → ι → α} {depth : Nat} {i : ι} {x y : α} (ends : Ends body depth i x) :
    Ends body depth i y ↔ y = x := ⟨fun other => other.unique ends, fun same => same ▸ ends⟩

/-- So many calls can be nested in a call for `i`, each of them for one of those that the one around it
may need. -/
inductive Nests (needed : ι → List ι) : Nat → ι → Prop
  | here (i : ι) : Nests needed 0 i
  | call {i j : ι} {n : Nat} : j ∈ needed i → Nests needed n j → Nests needed (n + 1) i

/-- A recursion that is cut off at some depth ends uncut where its calls cannot be nested so deep. -/
theorem ends_of_not_nests {body : (ι → α) → ι → α} {needed : ι → List ι} (within : Nat → ι → α)
    (unfolds : ∀ bound, within (bound + 1) = body (within bound))
    (needs : ∀ {call call' i}, (∀ j ∈ needed i, call j = call' j) → body call i = body call' i)
    {depth bound : Nat} {i : ι} (shallow : ¬ Nests needed depth i) (enough : depth ≤ bound) :
    Ends body depth i (within bound i) := by
  induction depth generalizing bound i with
  | zero => exact absurd (.here i) shallow
  | succ depth ih =>
    obtain ⟨bound, rfl⟩ := Nat.exists_eq_succ_of_ne_zero (Nat.ne_zero_of_lt enough)
    refine ⟨needed i, within bound, fun j member => ?_, fun call answered => ?_⟩
    · exact ih (fun nests => shallow (.call member nests)) (Nat.le_of_succ_le_succ enough)
    · rw [unfolds]
      exact needs answered

end CountedBox
