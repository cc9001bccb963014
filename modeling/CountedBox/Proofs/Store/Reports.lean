import CountedBox.Proofs.Operation.Effect

namespace CountedBox

namespace Heap

variable {h : Heap} {a : Address} {b : Box}

/-- A box that stores a sequence gives its items. -/
theorem elements_stored {v : Value} {items : List Ref} (known : h.Knows a) (found : h.boxes[a]? = some b)
    (stores : b.Stores v) (payload : v.payload = .items items) (operation : String) :
    h.elements (some a) v.kind operation = .ok (⟨a, b, v.kind⟩, items) := by
  rw [elements, locate_known known found stores.tagged, ok_bind, if_pos rfl]
  dsimp only
  rw [stores.2, payload]

end Heap

section Ask

variable {α : Type} {s : Session}

theorem run_askHeap (f : Heap → Except Stop α) (s : Session) : (askHeap f).run.run s = match f s.heap with
    | .ok x => .ok (.ok x, s)
    | .error (.error e) => .ok (.error e, s)
    | .error (.fault fault) => .error fault := rfl

end Ask

end CountedBox
