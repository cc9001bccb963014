import CountedBox.Heap.Release
import CountedBox.Proofs.Heap.Elements

namespace CountedBox

/-- The box is laid out as a box of this value. -/
def Box.Stores (b : Box) (v : Value) : Prop := b.tag = v.kind.tag ∧ b.payload = v.payload

theorem Box.Stores.of_tagged {b : Box} {v : Value} (tagged : Kind.ofTag? b.tag = some v.kind)
    (payload : b.payload = v.payload) : b.Stores v :=
  ⟨(Kind.tag_of_ofTag? tagged).symm, payload⟩

theorem Box.Stores.tagged {b : Box} {v : Value} (stores : b.Stores v) :
    Kind.ofTag? b.tag = some v.kind := by
  rw [stores.1, Kind.ofTag?_tag]

theorem Box.Stores.children {b : Box} {v : Value} (stores : b.Stores v) : b.children = v.children := by
  rw [Box.children_of_kind stores.tagged, stores.2, Value.elements_payload]

/-- A payload that can be read as a kind holds what the value that is read holds. -/
theorem Payload.children_of_read? {p : Payload} {kind : Kind} {v : Value}
    (read : p.read? kind = some (.ok v)) : v.children = p.elements kind := by
  cases kind <;> cases p <;> simp only [Payload.read?, Option.some.injEq, Except.ok.injEq, reduceCtorEq] at read
  case char.char c =>
    split at read
    · cases read
      rfl
    · simp at read
  all_goals
    subst read
    rfl

namespace Heap

/-- The address passes the registry. Without tracking every address does. -/
def Knows (h : Heap) (a : Address) : Prop := h.tracking = true → h.registry.contains a = true

/-- A box is found where one is kept, if the registry lets the address pass and the tag is that of a kind. -/
theorem locate_known {h : Heap} {a : Address} {b : Box} {kind : Kind} {operation : String}
    (known : h.Knows a) (found : h.boxes[a]? = some b) (tagged : Kind.ofTag? b.tag = some kind) :
    h.locate (some a) operation = .ok ⟨a, b, kind⟩ := by
  cases tracking : h.tracking with
  | false => simp [locate, tracking, found, tagged]
  | true => simp [locate, tracking, known tracking, found, tagged]

/-- With tracking on an address that is not registered is refused, before anything at it is looked at. -/
theorem locate_unknown {h : Heap} {a : Address} (unknown : ¬ h.Knows a) (operation : String) :
    h.locate (some a) operation = refuse (.unknownObject a) := by
  simp only [Knows, Classical.not_imp] at unknown
  simp [locate, unknown.1, unknown.2]

/-- Looking for a box never complains of a cycle. -/
theorem locate_ne_cyclic {h : Heap} {r : Ref} {operation : String} {stop : Stop}
    (failed : h.locate r operation = .error stop) (a : Address) : stop ≠ .error (.cyclicReference a) := by
  rintro rfl
  cases r with
  | none => simp [locate, refuse] at failed
  | some c =>
    simp only [locate] at failed
    split at failed
    · simp [refuse] at failed
    · split at failed
      · simp [breakOff] at failed
      · split at failed <;> simp [refuse] at failed

theorem view_ne_cyclic {h : Heap} {r : Ref} {stop : Stop} (failed : h.view r = .error stop)
    (a : Address) : stop ≠ .error (.cyclicReference a) := by
  rintro rfl
  unfold view at failed
  split at failed
  · rename_i e located
    cases failed
    exact locate_ne_cyclic located a rfl
  · rename_i b _
    split at failed
    · simp [breakOff] at failed
    · rename_i e read
      simp only [refuse, Except.error.injEq, Stop.error.injEq] at failed
      subst failed
      cases kind : b.kind <;> cases payload : b.box.payload <;> rw [kind, payload] at read <;>
        simp only [Payload.read?, Option.some.injEq, reduceCtorEq] at read
      split at read <;> simp at read
    · simp at failed

/-- A box that is laid out as a value is read as this value. -/
theorem view_stores {h : Heap} {a : Address} {b : Box} {v : Value} (known : h.Knows a)
    (found : h.boxes[a]? = some b) (stores : b.Stores v) : h.view (some a) = .ok v := by
  unfold view
  rw [locate_known known found stores.tagged]
  simp only [stores.2, Value.read?_payload]

theorem view_read {h : Heap} {r : Ref} {v : Value} (viewed : h.view r = .ok v) :
    ∃ b, h.locate r "view" = .ok b ∧ b.box.payload.read? b.kind = some (.ok v) := by
  unfold view at viewed
  split at viewed
  · cases viewed
  · rename_i b located
    split at viewed
    · cases viewed
    · cases viewed
    · rename_i w read
      cases viewed
      exact ⟨b, located, read⟩

/-- What can be viewed is a box that passes the registry and whose elements are those of the view. -/
theorem view_found {h : Heap} {r : Ref} {v : Value} (viewed : h.view r = .ok v) :
    ∃ a b, r = some a ∧ h.Knows a ∧ h.boxes[a]? = some b ∧ b.children = v.children := by
  obtain ⟨b, located, read⟩ := view_read viewed
  obtain ⟨rfl, found, tagged, known⟩ := locate_found located
  refine ⟨b.address, b.box, rfl, known, found, ?_⟩
  rw [Box.children_of_kind tagged, Payload.children_of_read? read]

/-- What a value that is read holds is what its box holds. -/
theorem children_of_view {h : Heap} {r : Ref} {v : Value} (viewed : h.view r = .ok v) :
    h.children r = v.children := by
  obtain ⟨a, b, rfl, _, found, same⟩ := view_found viewed
  rw [children_found found, same]

/-! Taking and giving back one reference: what a success amounts to. -/

/-- All that counting one more reference does, where it succeeds: one box is written, with one more in its count. -/
theorem addReference_cases {h h' : Heap} {r : Ref} (added : h.addReference r = .ok h') :
    ∃ a b kind, r = some a ∧ h.Knows a ∧ h.boxes[a]? = some b ∧ Kind.ofTag? b.tag = some kind ∧
      0 < b.count ∧ b.count < maxCount ∧ h' = h.write a { b with count := b.count + 1 } := by
  unfold addReference at added
  split at added
  · simp at added
  · rename_i b located
    obtain ⟨rfl, found, tagged, known⟩ := locate_found located
    split at added
    · simp [refuse] at added
    · split at added
      · simp [refuse] at added
      · cases added
        exact ⟨b.address, b.box, b.kind, rfl, known, found, tagged, by omega, by omega, rfl⟩

/-- All that dropping a reference does, where it succeeds. One that is not the last is taken off the count; with the
last the box is freed, and what it held is left to be released if the call goes deep. -/
theorem dropReference_cases {h h' : Heap} {r : Ref} {deep : Bool} {freed : Option (List Ref)}
    (dropped : h.dropReference r deep = .ok (h', freed)) :
    ∃ a b kind, r = some a ∧ h.Knows a ∧ h.boxes[a]? = some b ∧ Kind.ofTag? b.tag = some kind ∧
      ((1 < b.count ∧ h' = h.write a { b with count := b.count - 1 } ∧ freed = none) ∨
        (b.count = 1 ∧ h' = h.remove a kind deep ∧ freed = some b.children)) := by
  unfold dropReference at dropped
  split at dropped
  · simp at dropped
  · rename_i b located
    obtain ⟨rfl, found, tagged, known⟩ := locate_found located
    refine ⟨b.address, b.box, b.kind, rfl, known, found, tagged, ?_⟩
    split at dropped
    · simp [refuse] at dropped
    · split at dropped
      · cases dropped
        exact Or.inl ⟨by omega, rfl, rfl⟩
      · split at dropped
        · cases dropped
          exact Or.inr ⟨by omega, rfl, by rw [Box.children_of_kind tagged]⟩
        · simp [breakOff] at dropped

/-- Of a box that others refer to only the count changes. -/
theorem dropReference_shared {h : Heap} {a : Address} {b : Box} {kind : Kind} {deep : Bool}
    (known : h.Knows a) (found : h.boxes[a]? = some b) (tagged : Kind.ofTag? b.tag = some kind)
    (shared : 1 < b.count) :
    h.dropReference (some a) deep = .ok (h.write a { b with count := b.count - 1 }, none) := by
  unfold dropReference
  rw [locate_known known found tagged]
  simp only [if_neg (by omega : ¬ b.count ≤ 0), if_pos shared]

/-- With its last reference a box that can be read is freed. -/
theorem dropReference_last {h : Heap} {a : Address} {b : Box} {v : Value} {deep : Bool}
    (known : h.Knows a) (found : h.boxes[a]? = some b) (stores : b.Stores v) (last : b.count = 1) :
    h.dropReference (some a) deep = .ok (h.remove a v.kind deep, some v.children) := by
  unfold dropReference
  rw [locate_known known found stores.tagged]
  simp [last, stores.2, Value.fits_payload, Value.elements_payload]

theorem dropReference_ne_cyclic {h : Heap} {r : Ref} {deep : Bool} {stop : Stop}
    (failed : h.dropReference r deep = .error stop) (a : Address) :
    stop ≠ .error (.cyclicReference a) := by
  rintro rfl
  unfold dropReference at failed
  split at failed
  · rename_i e located
    cases failed
    exact locate_ne_cyclic located a rfl
  · split at failed
    · simp [refuse] at failed
    · split at failed
      · simp at failed
      · split at failed <;> simp [breakOff] at failed

end Heap

end CountedBox
