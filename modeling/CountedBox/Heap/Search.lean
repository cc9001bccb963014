import CountedBox.Heap.Basic

namespace CountedBox.Heap

/-- Whether `target` is among the pending references or what they lead to. `fresh` holds the boxes
that were not looked into yet, so a box is entered once also in a heap with cycles. -/
def search (h : Heap) (target : Ref) (fresh : Std.TreeMap Address Box) (pending : List Ref) :
    Except Stop Bool :=
  match pending with
  | [] => .ok false
  | r :: rest =>
    if r = target then .ok true
    else match h.view r with
      | .error e => .error e
      | .ok v =>
        if _present : fresh.contains r.address then
          search h target (fresh.erase r.address) (v.children.reverse ++ rest)
        else search h target fresh rest
termination_by (fresh.size, pending.length)
decreasing_by
  · apply Prod.Lex.left
    exact size_erase_lt _present
  · apply Prod.Lex.right
    simp

/-- Whether `target` is reachable from `source` through zero or more elements. -/
def reaches (h : Heap) (source target : Ref) : Except Stop Bool :=
  h.search target h.boxes [source]

/-- What is asked of an item before `container` takes over a reference to it. -/
def checkInsert (h : Heap) (container item : Ref) (operation : String) : Except Stop Unit :=
  if item = none then refuse (.nullReference operation)
  else do
    let _ ← h.view item
    if ← h.reaches item container then refuse (.cyclicReference container.address)

end CountedBox.Heap
