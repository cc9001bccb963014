import CountedBox.Heap.Basic

namespace CountedBox

/-- A step on the heap that may end early. What it did until then stays done. -/
abbrev Action (α : Type) : Type := ExceptT Stop (StateM Heap) α

namespace Action

/-- Ask the heap without changing it. -/
def ask {α : Type} (f : Heap → Except Stop α) : Action α :=
  ExceptT.mk fun h => (f h, h)

def refuse {α : Type} (e : Error) : Action α := throw (.error e)

end Action

namespace Heap

/-- Take one more reference. -/
def addReference (h : Heap) (r : Ref) : Except Stop Heap :=
  match h.locate r "wycc_incr_box" with
  | .error e => .error e
  | .ok b =>
    if b.box.count ≤ 0 then refuse (.countUnderflow b.address b.box.count)
    else if maxCount ≤ b.box.count then refuse (.countOverflow b.address)
    else .ok (h.write b.address { b.box with count := b.box.count + 1 })

/-- Give one reference back. The last one frees the box; its elements are then returned. -/
def dropReference (h : Heap) (r : Ref) (deep : Bool) : Except Stop (Heap × Option (List Ref)) :=
  match h.locate r "wycc_deref_box" with
  | .error e => .error e
  | .ok b =>
    if b.box.count ≤ 0 then refuse (.countUnderflow b.address b.box.count)
    else if 1 < b.box.count then
      .ok (h.write b.address { b.box with count := b.box.count - 1 }, none)
    else if b.box.payload.fits b.kind then
      .ok (h.remove b.address b.kind deep, some (b.box.payload.elements b.kind))
    else breakOff (.layout b.address)

/-- All that is known of a box that is located. -/
theorem locate_found {h : Heap} {r : Ref} {operation : String} {b : Located}
    (found : h.locate r operation = .ok b) :
    r = some b.address ∧ h.boxes[b.address]? = some b.box ∧ Kind.ofTag? b.box.tag = some b.kind ∧
      (h.tracking = true → h.registry.contains b.address = true) := by
  unfold locate at found
  cases r with
  | none => simp [CountedBox.refuse] at found
  | some a =>
    simp only at found
    split at found
    · simp [CountedBox.refuse] at found
    · rename_i known
      split at found
      · simp [breakOff] at found
      · rename_i box atA
        split at found
        · simp [CountedBox.refuse] at found
        · rename_i kind tagged
          simp only [Except.ok.injEq] at found
          subst found
          simp_all

/-- A box is freed or the number of boxes stays the same, so a cascade ends. -/
theorem size_of_dropReference {h h' : Heap} {r : Ref} {deep : Bool} {freed : Option (List Ref)}
    (dropped : h.dropReference r deep = .ok (h', freed)) :
    if freed.isSome then h'.boxes.size < h.boxes.size else h'.boxes.size = h.boxes.size := by
  unfold dropReference at dropped
  split at dropped
  · simp at dropped
  · rename_i b found
    obtain ⟨-, atB, -, -⟩ := locate_found found
    have present : h.boxes.contains b.address = true := by
      rw [Std.TreeMap.contains_eq_isSome_getElem?, atB]; rfl
    split at dropped
    · simp [CountedBox.refuse] at dropped
    · split at dropped
      · simp only [Except.ok.injEq, Prod.mk.injEq] at dropped
        obtain ⟨rfl, rfl⟩ := dropped
        simp [write, Std.TreeMap.size_insert, present]
      · split at dropped
        · simp only [Except.ok.injEq, Prod.mk.injEq] at dropped
          obtain ⟨rfl, rfl⟩ := dropped
          simpa [remove] using size_erase_lt present
        · simp [breakOff] at dropped

/-- Give back one reference to each of `pending` in turn, and to the elements of what is freed by
it. An element that cannot be released is noted and does not stop the rest. -/
def releaseEach (h : Heap) (pending : List Ref) : Except Fault Heap :=
  match pending with
  | [] => .ok h
  | r :: rest => match _dropped : h.dropReference r true with
    | .error (.error e) => releaseEach (h.note (.elementError e)) rest
    | .error (.fault f) => .error f
    | .ok (h', none) => releaseEach h' rest
    | .ok (h', some elements) => releaseEach h' (elements ++ rest)
termination_by (h.boxes.size, pending.length)
decreasing_by
  · apply Prod.Lex.right
    simp
  · have same := size_of_dropReference _dropped
    simp only [Option.isSome_none, Bool.false_eq_true, if_false] at same
    rw [same]
    apply Prod.Lex.right
    simp
  · apply Prod.Lex.left
    simpa using size_of_dropReference _dropped

end Heap

/-- Take one more reference to a box. -/
def retain (r : Ref) : Action Unit := ExceptT.mk fun h =>
  match h.addReference r with
  | .error e => (.error e, h)
  | .ok h' => (.ok (), h')

/-- Give a reference back; true when that freed the box. A deep release of a container that is
freed also gives back the references to its elements. -/
def release (r : Ref) (deep : Bool) : Action Bool := ExceptT.mk fun h =>
  match h.dropReference r deep with
  | .error e => (.error e, h)
  | .ok (h', none) => (.ok false, h')
  | .ok (h', some elements) =>
    if deep then match h'.releaseEach elements with
      | .error f => (.error (.fault f), h')
      | .ok h'' => (.ok true, h'')
    else (.ok true, h')

/-- Box a value; the caller holds the reference. -/
def box (v : Value) : Action Ref := ExceptT.mk fun h =>
  match h.alloc v with
  | (a, h') => (.ok (some a), h')

end CountedBox
