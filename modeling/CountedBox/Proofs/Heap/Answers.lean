import CountedBox.Proofs.Heap.Depth
import CountedBox.Boxing

namespace CountedBox

/-- The outcome is a result or a refusal, or one of the faults that are expected. -/
def Answers {α : Type} (expected : Fault → Prop) (outcome : Except Stop α) : Prop :=
  ∀ fault, outcome = .error (.fault fault) → expected fault

/-- No fault is expected. -/
abbrev NoFault : Fault → Prop := fun _ => False

section

variable {α β : Type} {expected : Fault → Prop}

theorem answers_ok (a : α) : Answers expected (.ok a : Except Stop α) := by
  intro fault stopped
  cases stopped

theorem answers_refuse (e : Error) : Answers expected (refuse e : Except Stop α) := by
  intro fault stopped
  cases stopped

/-- What comes after has to answer only where what comes before does. -/
theorem answers_bind {x : Except Stop α} {f : α → Except Stop β} (first : Answers expected x)
    (second : ∀ a, x = .ok a → Answers expected (f a)) : Answers expected (x >>= f) := by
  intro fault stopped
  rcases error_of_bind_error stopped with failed | ⟨a, given, failed⟩
  · exact first fault failed
  · exact second a given fault failed

theorem answers_map {x : Except Stop α} {g : α → β} (answers : Answers expected x) :
    Answers expected (x.map g) := by
  rcases x with (e | f) | a
  · exact answers_refuse e
  · exact fun fault stopped => answers fault (by cases stopped; rfl)
  · exact answers_ok (g a)

end

namespace Heap

/-- Following the reference comes to no fault but the expected: a box that the registry lets pass and
that is missing. -/
def Safe (expected : Fault → Prop) (h : Heap) (r : Ref) : Prop :=
  ∀ a, r = some a → h.Knows a → h.boxes[a]? = none → expected (.dangling a)

/-- A heap whose elements may be passed on. -/
structure Guarded (expected : Fault → Prop) (h : Heap) : Prop where
  registered : ∀ {a : Address} {kind : Kind}, h.registry[a]? = some kind →
    ∃ b, h.boxes[a]? = some b ∧ b.tag = kind.tag
  typed : ∀ {a : Address} {b : Box}, h.boxes[a]? = some b → h.Knows a → ∃ v, b.Stores v
  acyclic : h.Acyclic
  elements : ∀ {r s : Ref}, h.Edge r s → h.Safe expected s

variable {expected : Fault → Prop} {h : Heap}

/-- With tracking on, what passes the registry is there. -/
theorem Coherent.found (coherent : h.Coherent) (tracking : h.tracking = true) {a : Address}
    (known : h.Knows a) : ∃ b v, h.boxes[a]? = some b ∧ b.Stores v := by
  have contained := known tracking
  rw [Std.TreeMap.contains_eq_isSome_getElem?] at contained
  obtain ⟨kind, entry⟩ := Option.isSome_iff_exists.mp contained
  obtain ⟨b, found, _⟩ := coherent.registered entry
  obtain ⟨v, stores⟩ := coherent.typed found known
  exact ⟨b, v, found, stores⟩

/-- With tracking on any reference is safe to hand in, also one that has gone stale. -/
theorem Coherent.safe (coherent : h.Coherent) (tracking : h.tracking = true) (r : Ref) :
    h.Safe expected r := by
  intro a _ known missing
  obtain ⟨b, _, found, _⟩ := coherent.found tracking known
  cases missing.symm.trans found

theorem Coherent.guarded (coherent : h.Coherent) (tracking : h.tracking = true) : h.Guarded NoFault :=
  ⟨coherent.registered, coherent.typed, coherent.acyclic, fun _ => coherent.safe tracking _⟩

/-- With tracking on, giving back a reference fails only where the reference cannot be followed. -/
theorem Coherent.dropReference_cases (coherent : h.Coherent) (tracking : h.tracking = true) (r : Ref)
    (deep : Bool) :
    (∃ e, h.locate r "wycc_deref_box" = refuse e ∧ h.dropReference r deep = refuse e) ∨
      ∃ h' freed, h.dropReference r deep = .ok (h', freed) := by
  have refused : ∀ e, h.locate r "wycc_deref_box" = refuse e → h.dropReference r deep = refuse e := by
    intro e failed
    rw [dropReference, failed]
  cases r with
  | none => exact Or.inl ⟨_, rfl, refused _ rfl⟩
  | some a =>
    by_cases known : h.Knows a
    · obtain ⟨b, v, found, stores⟩ := coherent.found tracking known
      have positive := coherent.counted found known
      by_cases last : b.count = 1
      · exact Or.inr ⟨_, _, dropReference_last known found stores last⟩
      · exact Or.inr ⟨_, _, dropReference_shared known found stores.tagged (by omega)⟩
    · have unknown := locate_unknown known "wycc_deref_box"
      exact Or.inl ⟨_, unknown, refused _ unknown⟩

namespace Guarded

/-- What is reached from a safe reference is safe. -/
theorem path (guarded : h.Guarded expected) {r s : Ref} (safe : h.Safe expected r) (path : h.Path r s) :
    h.Safe expected s := by
  cases path with
  | refl => exact safe
  | tail _ edge => exact guarded.elements edge

/-- Looking up a safe reference gives its box or refuses it. -/
theorem locate_answers {r : Ref} (safe : h.Safe expected r) (operation : String) :
    Answers expected (h.locate r operation) := by
  intro fault stopped
  unfold locate at stopped
  split at stopped
  · cases stopped
  · rename_i a
    split at stopped
    · cases stopped
    · rename_i passed
      have known : h.Knows a := fun tracking => by simpa [tracking] using passed
      split at stopped
      · rename_i missing
        cases stopped
        exact safe a rfl known missing
      · split at stopped <;> cases stopped

/-- What a reference leads to is laid out by its kind. -/
theorem stores_of_locate (guarded : h.Guarded expected) {r : Ref} {operation : String} {b : Located}
    (located : h.locate r operation = .ok b) : ∃ v, b.box.Stores v ∧ b.kind = v.kind := by
  obtain ⟨_, found, tagged, known⟩ := locate_found located
  obtain ⟨v, stores⟩ := guarded.typed found known
  exact ⟨v, stores, Option.some.inj (tagged.symm.trans stores.tagged)⟩

/-- Viewing comes to a fault only on the way to the box, or where the box is not laid out by its tag. -/
theorem view_answers_of_fits {r : Ref} (safe : h.Safe expected r)
    (fits : ∀ {b : Located}, h.locate r "view" = .ok b → b.box.payload.fits b.kind = true) :
    Answers expected (h.view r) := by
  intro fault stopped
  unfold view at stopped
  split at stopped
  · rename_i stop located
    cases stopped
    exact locate_answers safe "view" fault located
  · rename_i b located
    have read := (b.box.payload.read?_isSome b.kind).trans (fits located)
    split at stopped
    · rename_i unread
      rw [unread] at read
      cases read
    · cases stopped
    · cases stopped

theorem view_answers (guarded : h.Guarded expected) {r : Ref} (safe : h.Safe expected r) :
    Answers expected (h.view r) := by
  refine view_answers_of_fits safe fun located => ?_
  obtain ⟨v, stores, kind⟩ := guarded.stores_of_locate located
  rw [stores.2, kind, Value.fits_payload]

/-- The items of a sequence are given, or it is told why there are none. -/
theorem elements_answers (guarded : h.Guarded expected) {r : Ref} (safe : h.Safe expected r) {kind : Kind}
    (sequence : kind = .list ∨ kind = .set ∨ kind = .tuple) (operation : String) :
    Answers expected (h.elements r kind operation) := by
  refine answers_bind (locate_answers safe operation) fun b located => ?_
  obtain ⟨v, stores, kind⟩ := guarded.stores_of_locate located
  split
  · rename_i asked
    split
    · exact answers_ok _
    · rename_i other
      rw [stores.2] at other
      rw [← asked, kind] at sequence
      cases v <;> simp [Value.kind] at sequence <;> exact absurd rfl (other _)
  · exact answers_refuse _

theorem fields_answers (guarded : h.Guarded expected) {r : Ref} (safe : h.Safe expected r)
    (operation : String) : Answers expected (h.fields r operation) := by
  refine answers_bind (locate_answers safe operation) fun b located => ?_
  obtain ⟨v, stores, kind⟩ := guarded.stores_of_locate located
  split
  · rename_i asked
    split
    · exact answers_ok _
    · rename_i other
      rw [stores.2] at other
      rw [kind] at asked
      cases v <;> simp [Value.kind] at asked
      exact absurd rfl (other _)
  · exact answers_refuse _

theorem itemAt_answers (guarded : h.Guarded expected) {r : Ref} (safe : h.Safe expected r) {kind : Kind}
    (sequence : kind = .list ∨ kind = .set ∨ kind = .tuple) (index : Nat) (operation : String) :
    Answers expected (h.itemAt r kind index operation) := by
  refine answers_bind (guarded.elements_answers safe sequence operation) fun found _ => ?_
  obtain ⟨b, items⟩ := found
  dsimp only
  split
  · exact answers_ok _
  · exact answers_refuse _

theorem recordGet_answers (guarded : h.Guarded expected) {r : Ref} (safe : h.Safe expected r)
    (field : String) : Answers expected (h.recordGet r field) := by
  refine answers_bind (guarded.fields_answers safe _) fun found _ => ?_
  obtain ⟨b, fields⟩ := found
  dsimp only
  split
  · exact answers_ok _
  · exact answers_refuse _

theorem boolValue_answers (guarded : h.Guarded expected) {r : Ref} (safe : h.Safe expected r) :
    Answers expected (h.boolValue r) := by
  refine answers_bind (guarded.view_answers safe) fun v _ => ?_
  split
  · exact answers_ok _
  · exact answers_refuse _

theorem intValue_answers (guarded : h.Guarded expected) {r : Ref} (safe : h.Safe expected r) :
    Answers expected (h.intValue r) := by
  refine answers_bind (guarded.view_answers safe) fun v _ => ?_
  split
  · exact answers_ok _
  · exact answers_refuse _

theorem textValue_answers (guarded : h.Guarded expected) {r : Ref} (safe : h.Safe expected r) :
    Answers expected (h.textValue r) := by
  refine answers_bind (guarded.view_answers safe) fun v _ => ?_
  split
  · exact answers_ok _
  · exact answers_refuse _

theorem listSize_answers (guarded : h.Guarded expected) {r : Ref} (safe : h.Safe expected r) :
    Answers expected (h.listSize r) :=
  answers_bind (guarded.elements_answers safe (Or.inl rfl) _) fun _ _ => answers_ok _

theorem setSize_answers (guarded : h.Guarded expected) {r : Ref} (safe : h.Safe expected r) :
    Answers expected (h.setSize r) :=
  answers_bind (guarded.elements_answers safe (Or.inr (Or.inl rfl)) _) fun _ _ => answers_ok _

theorem viewed_answers (guarded : h.Guarded expected) {r s : Ref} (safe : h.Safe expected r)
    (path : h.Path r s) : Answers expected (h.view s) :=
  guarded.view_answers (guarded.path safe path)

theorem reaches_answers (guarded : h.Guarded expected) {source : Ref} (safe : h.Safe expected source)
    (target : Ref) : Answers expected (h.reaches source target) := by
  intro fault stopped
  obtain ⟨s, path, failed⟩ := reaches_error stopped
  exact guarded.viewed_answers safe path.path fault failed

theorem checkInsert_answers (guarded : h.Guarded expected) {item : Ref} (safe : h.Safe expected item)
    (container : Ref) (operation : String) : Answers expected (h.checkInsert container item operation) := by
  unfold checkInsert
  split
  · exact answers_refuse _
  · refine answers_bind (guarded.view_answers safe) fun _ _ => ?_
    refine answers_bind (guarded.reaches_answers safe container) fun found _ => ?_
    cases found
    · exact answers_ok _
    · exact answers_refuse _

/-- A comparison of safe references ends with an answer or an error, since each pair of boxes that it looks at is safe
again. -/
theorem equals_answers (guarded : h.Guarded expected) {a b : Ref} (left : h.Safe expected a)
    (right : h.Safe expected b) : Answers expected (h.equals a b) := by
  intro fault stopped
  obtain ⟨s, path | path, failed⟩ := equals_error guarded.acyclic stopped
  · exact guarded.viewed_answers left path fault failed
  · exact guarded.viewed_answers right path fault failed

theorem contains_answers (guarded : h.Guarded expected) {items : List Ref} {item : Ref}
    (left : ∀ x ∈ items, h.Safe expected x) (right : h.Safe expected item) :
    Answers expected (h.contains items item) := by
  intro fault stopped
  obtain ⟨x, s, inside, path, failed⟩ := contains_error guarded.acyclic stopped
  have safe : h.Safe expected x := by
    rcases inside with member | rfl
    · exact left x member
    · exact right
  exact guarded.viewed_answers safe path fault failed

/-- Writing a safe reference as text ends with the text or an error. -/
theorem render_answers (guarded : h.Guarded expected) {r : Ref} (safe : h.Safe expected r) :
    Answers expected (h.render r) := by
  intro fault stopped
  obtain ⟨s, path, failed⟩ := render_error guarded.acyclic stopped
  exact guarded.viewed_answers safe path fault failed

theorem renderTop_answers (guarded : h.Guarded expected) {r : Ref} (safe : h.Safe expected r) :
    Answers expected (h.renderTop r) := by
  intro fault stopped
  obtain ⟨s, path, failed⟩ := renderTop_error guarded.acyclic stopped
  exact guarded.viewed_answers safe path fault failed

theorem addReference_answers {r : Ref} (safe : h.Safe expected r) : Answers expected (h.addReference r) := by
  intro fault stopped
  unfold addReference at stopped
  split at stopped
  · rename_i stop located
    cases stopped
    exact locate_answers safe _ fault located
  · split at stopped
    · cases stopped
    · split at stopped <;> cases stopped

/-- Dropping a safe reference is done or refused. -/
theorem dropReference_answers (guarded : h.Guarded expected) {r : Ref} (safe : h.Safe expected r)
    (deep : Bool) : Answers expected (h.dropReference r deep) := by
  intro fault stopped
  unfold dropReference at stopped
  split at stopped
  · rename_i stop located
    cases stopped
    exact locate_answers safe _ fault located
  · rename_i b located
    obtain ⟨v, stores, kind⟩ := guarded.stores_of_locate located
    rw [stores.2, kind, Value.fits_payload] at stopped
    split at stopped
    · cases stopped
    · split at stopped <;> cases stopped

end Guarded

end Heap

end CountedBox
