import CountedBox.Proofs.Heap.Answers
import CountedBox.Proofs.Rendering.Words
import CountedBox.Proofs.Text.Zero

namespace CountedBox

namespace Error

/-- The text that an error passes on as it is. -/
def passedOn? : Error → Option String
  | nullReference text | unknownField text | configuration text | io text => some text
  | _ => none

/-- The error passes on no zero. -/
def Plain (e : Error) : Prop := ∀ text, e.passedOn? = some text → '\x00' ∉ text.toList

/-- An error that passes no text on is told without a zero. -/
theorem plain_of_none {e : Error} (none : e.passedOn? = none) : e.Plain := by
  intro text some
  cases none.symm.trans some

/-- One that does is told without a zero just if the text has none. -/
theorem plain_iff {e : Error} {text : String} (some : e.passedOn? = some text) :
    e.Plain ↔ '\x00' ∉ text.toList := by
  rw [Plain, some]
  simp

theorem zero_notMem_append {s t : String} : '\x00' ∉ (s ++ t).toList ↔ '\x00' ∉ s.toList ∧ '\x00' ∉ t.toList := by
  rw [String.toList_append, List.mem_append, not_or]

theorem zero_notMem_nat (n : Nat) : '\x00' ∉ (toString n).toList := by
  intro member
  rw [Nat.toString_eq_repr, Nat.repr_eq_ofList_toDigits, String.toList_ofList] at member
  have digit : Char.isDigit '\x00' = true := Nat.isDigit_of_mem_toDigits (by decide) (by decide) member
  cases digit

theorem zero_notMem_int (i : Int) : '\x00' ∉ (toString i).toList := by
  intro member
  rcases intWord_chars i _ member with digit | sign
  · cases digit
  · cases sign

theorem zero_notMem_hexDigits (n : Nat) : '\x00' ∉ (Text.hexDigits n).toList := by
  intro member
  rw [Text.hexDigits, String.toList_ofList] at member
  obtain ⟨d, small, zero⟩ := Text.digitChar_of_mem_toDigits _ member
  exact Text.digitChar_ne_zero d small zero.symm

theorem zero_notMem_address (a : Address) : '\x00' ∉ (Address.hex a).toList :=
  zero_notMem_append.mpr ⟨by decide, zero_notMem_hexDigits a⟩

theorem zero_notMem_name (k : Kind) : '\x00' ∉ k.name.toList := by cases k <;> decide

/-- A message holds a zero only where the error passes one on. -/
theorem zero_notMem_message {e : Error} : '\x00' ∉ e.message.toList ↔ e.Plain := by
  have both : ∀ {s t : String}, '\x00' ∉ s.toList → '\x00' ∉ t.toList → '\x00' ∉ (s ++ t).toList :=
    fun front back => zero_notMem_append.mpr ⟨front, back⟩
  cases e with
  | nullReference text | configuration text | io text =>
    exact (zero_notMem_append.trans (and_iff_right (by decide +kernel))).trans (plain_iff rfl).symm
  | unknownField text =>
    refine (zero_notMem_append.trans (and_iff_left (by decide +kernel))).trans ?_
    exact (zero_notMem_append.trans (and_iff_right (by decide +kernel))).trans (plain_iff rfl).symm
  | unknownObject a | countOverflow a =>
    exact iff_of_true (both (by decide +kernel) (zero_notMem_address a)) (plain_of_none rfl)
  | cyclicReference a =>
    have front := both (s := "object at ") (by decide +kernel) (zero_notMem_address a)
    exact iff_of_true (both front (by decide +kernel)) (plain_of_none rfl)
  | countUnderflow a n =>
    have front := both (s := "refcount underflow at ") (by decide +kernel) (zero_notMem_address a)
    have counted := both (both front (t := " (count ") (by decide +kernel)) (zero_notMem_int n)
    exact iff_of_true (both counted (by decide +kernel)) (plain_of_none rfl)
  | invalidTag t => exact iff_of_true (both (by decide +kernel) (zero_notMem_int t)) (plain_of_none rfl)
  | kindMismatch e f =>
    have front := both (s := "type mismatch: expected ") (by decide +kernel) (zero_notMem_name e)
    exact iff_of_true (both (both front (by decide +kernel)) (zero_notMem_name f)) (plain_of_none rfl)
  | invalidChar c => exact iff_of_true (both (by decide +kernel) (zero_notMem_hexDigits c)) (plain_of_none rfl)
  | indexOutOfBounds i n =>
    have front := both (s := "index ") (by decide +kernel) (zero_notMem_nat i)
    exact iff_of_true (both (both front (by decide +kernel)) (zero_notMem_nat n)) (plain_of_none rfl)

end Error

/-- If the outcome is a refusal, it passes on no zero. -/
def Plainly {α : Type} (outcome : Except Stop α) : Prop := ∀ e, outcome = refuse e → e.Plain

section Plainly

variable {α β : Type}

theorem plainly_ok (x : α) : Plainly (.ok x : Except Stop α) := by
  rintro e ⟨⟩

theorem plainly_breakOff (f : Fault) : Plainly (breakOff f : Except Stop α) := by
  rintro e ⟨⟩

theorem plainly_refuse {e : Error} (plain : e.Plain) : Plainly (refuse e : Except Stop α) := by
  rintro _ ⟨⟩
  exact plain

/-- Of two questions, one after the other, any error is plain if that of each is. -/
theorem plainly_bind {x : Except Stop α} {f : α → Except Stop β} (first : Plainly x) (second : ∀ a, Plainly (f a)) :
    Plainly (x >>= f) := by
  intro e refused
  rcases error_of_bind_error refused with failed | ⟨a, _, failed⟩
  · exact first e failed
  · exact second a e failed

theorem plainly_map {x : Except Stop α} (plainly : Plainly x) (g : α → β) : Plainly (x.map g) := by
  rcases x with stop | a
  · rintro e ⟨⟩
    exact plainly e rfl
  · exact plainly_ok (g a)

end Plainly

/-- A payload that cannot be read holds a number that is no character. -/
theorem Payload.invalidChar_of_read? {p : Payload} {kind : Kind} {e : Error} (read : p.read? kind = some (.error e)) :
    ∃ code, e = .invalidChar code := by
  unfold read? at read
  split at read
  case h_4 =>
    split at read <;> cases read
    exact ⟨_, rfl⟩
  all_goals cases read

namespace Heap

variable {h : Heap} {r : Ref} {kind : Kind} {operation : String}

theorem locate_plainly (plain : '\x00' ∉ operation.toList) : Plainly (h.locate r operation) := by
  unfold locate
  split
  · exact plainly_refuse ((Error.plain_iff rfl).mpr plain)
  · split
    · exact plainly_refuse (Error.plain_of_none rfl)
    · split
      · exact plainly_breakOff _
      · split
        · exact plainly_refuse (Error.plain_of_none rfl)
        · exact plainly_ok _

/-- Viewing tells of an address or a number, and of no text. -/
theorem view_plainly : Plainly (h.view r) := by
  have located : Plainly (h.locate r "view") := locate_plainly (by decide)
  unfold view
  split
  · rename_i stop failed
    rintro e ⟨⟩
    exact located e failed
  · split
    · exact plainly_breakOff _
    · rename_i e read
      obtain ⟨code, rfl⟩ := Payload.invalidChar_of_read? read
      exact plainly_refuse (Error.plain_of_none rfl)
    · exact plainly_ok _

theorem elements_plainly (plain : '\x00' ∉ operation.toList) : Plainly (h.elements r kind operation) := by
  refine plainly_bind (locate_plainly plain) fun b => ?_
  split
  · split
    · exact plainly_ok _
    · exact plainly_breakOff _
  · exact plainly_refuse (Error.plain_of_none rfl)

theorem fields_plainly (plain : '\x00' ∉ operation.toList) : Plainly (h.fields r operation) := by
  refine plainly_bind (locate_plainly plain) fun b => ?_
  split
  · split
    · exact plainly_ok _
    · exact plainly_breakOff _
  · exact plainly_refuse (Error.plain_of_none rfl)

theorem itemAt_plainly (plain : '\x00' ∉ operation.toList) (index : Nat) :
    Plainly (h.itemAt r kind index operation) := by
  refine plainly_bind (elements_plainly plain) fun found => ?_
  dsimp only
  split
  · exact plainly_ok _
  · exact plainly_refuse (Error.plain_of_none rfl)

/-- A name that is not bound is told of, so it has to be plain itself. -/
theorem recordGet_plainly {field : String} (plain : '\x00' ∉ field.toList) : Plainly (h.recordGet r field) := by
  refine plainly_bind (fields_plainly (by decide +kernel)) fun found => ?_
  dsimp only
  split
  · exact plainly_ok _
  · exact plainly_refuse ((Error.plain_iff rfl).mpr plain)

theorem boolValue_plainly : Plainly (h.boolValue r) := by
  refine plainly_bind view_plainly fun v => ?_
  split
  · exact plainly_ok _
  · exact plainly_refuse (Error.plain_of_none rfl)

theorem intValue_plainly : Plainly (h.intValue r) := by
  refine plainly_bind view_plainly fun v => ?_
  split
  · exact plainly_ok _
  · exact plainly_refuse (Error.plain_of_none rfl)

theorem textValue_plainly : Plainly (h.textValue r) := by
  refine plainly_bind view_plainly fun v => ?_
  split
  · exact plainly_ok _
  · exact plainly_refuse (Error.plain_of_none rfl)

/-- Following references down is refused only where something cannot be viewed. -/
theorem Stops.plain {bound : Nat} {e : Error} (stops : h.Stops bound r (.error e)) : e.Plain := by
  rcases stops with ⟨s, _, failed⟩ | ⟨deep, _⟩
  · exact view_plainly e failed
  · cases deep

theorem equals_plainly {a b : Ref} : Plainly (h.equals a b) := by
  intro e refused
  rcases equalsWithin_error refused with left | right
  · exact left.plain
  · exact right.plain

theorem contains_plainly {items : List Ref} {item : Ref} : Plainly (h.contains items item) := by
  intro e refused
  obtain ⟨x, _, failed⟩ := error_of_anyM refused
  exact equals_plainly e failed

theorem renderTop_plainly : Plainly (h.renderTop r) := by
  refine plainly_bind view_plainly fun v e refused => ?_
  have below : v.renderBy (h.renderWithin h.boxes.size) = refuse e := by
    cases v with
    | string bytes => cases refused
    | _ => exact refused
  obtain ⟨x, _, failed⟩ := Value.renderBy_error below
  exact (renderWithin_error failed).plain

theorem checkInsert_plainly {container item : Ref} (plain : '\x00' ∉ operation.toList) :
    Plainly (h.checkInsert container item operation) := by
  unfold checkInsert
  split
  · exact plainly_refuse ((Error.plain_iff rfl).mpr plain)
  · refine plainly_bind view_plainly fun _ => plainly_bind (fun e refused => ?_) fun found => ?_
    · obtain ⟨s, _, failed⟩ := reaches_error refused
      exact view_plainly e failed
    · split
      · exact plainly_refuse (Error.plain_of_none rfl)
      · exact plainly_ok _

theorem addReference_plainly : Plainly (h.addReference r) := by
  have located : Plainly (h.locate r "wycc_incr_box") := locate_plainly (by decide +kernel)
  unfold addReference
  split
  · rename_i stop failed
    rintro e ⟨⟩
    exact located e failed
  · split
    · exact plainly_refuse (Error.plain_of_none rfl)
    · split
      · exact plainly_refuse (Error.plain_of_none rfl)
      · exact plainly_ok _

theorem dropReference_plainly {deep : Bool} : Plainly (h.dropReference r deep) := by
  have located : Plainly (h.locate r "wycc_deref_box") := locate_plainly (by decide +kernel)
  unfold dropReference
  split
  · rename_i stop failed
    rintro e ⟨⟩
    exact located e failed
  · split
    · exact plainly_refuse (Error.plain_of_none rfl)
    · split
      · exact plainly_ok _
      · split
        · exact plainly_ok _
        · exact plainly_breakOff _

end Heap

end CountedBox
