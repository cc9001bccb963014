import CountedBox.Heap.Search

namespace CountedBox

/-- Whether some item satisfies `same · item`, asked in order until one does. -/
def containsBy (same : Ref → Ref → Except Stop Bool) (items : List Ref) (item : Ref) :
    Except Stop Bool :=
  items.anyM (fun candidate => same candidate item)

/-- Whether the items agree place by place, asked in order until two differ. -/
def pairwiseBy (same : Ref → Ref → Except Stop Bool) (xs ys : List Ref) : Except Stop Bool :=
  (xs.zip ys).allM (fun pair => same pair.1 pair.2)

namespace Value

/-- Equality of two values, with `same` deciding it for elements. Set elements are meant to be
pairwise unequal, so equal sizes and inclusion one way are enough. -/
def equalsBy (same : Ref → Ref → Except Stop Bool) : Value → Value → Except Stop Bool
  | null, null => .ok true
  | bool x, bool y => .ok (x == y)
  | byte x, byte y => .ok (x == y)
  | char x, char y => .ok (x == y)
  | int x, int y => .ok (x == y)
  | string x, string y => .ok (x == y)
  | list xs, list ys | tuple xs, tuple ys =>
    if xs.length = ys.length then pairwiseBy same xs ys else .ok false
  | set xs, set ys =>
    if xs.length = ys.length then xs.allM (containsBy same ys) else .ok false
  | record xs, record ys =>
    if xs.keys = ys.keys then pairwiseBy same xs.values ys.values else .ok false
  | _, _ => .ok false

end Value

namespace Heap

/-- How deep a value can be nested that does not contain itself. -/
def depth (h : Heap) : Nat := h.boxes.size + 1

/-- Equality by content, followed at most `bound` levels down. -/
def equalsWithin (h : Heap) : Nat → Ref → Ref → Except Stop Bool
  | 0, _, _ => breakOff .tooDeep
  | bound + 1, a, b =>
    if a = b then do
      let _ ← h.view a
      return true
    else do
      let x ← h.view a
      let y ← h.view b
      x.equalsBy (h.equalsWithin bound) y

/-- Whether two boxes hold equal values. -/
def equals (h : Heap) (a b : Ref) : Except Stop Bool := h.equalsWithin h.depth a b

/-- Whether some of the items equals `item`. -/
def contains (h : Heap) (items : List Ref) (item : Ref) : Except Stop Bool :=
  containsBy h.equals items item

end Heap

end CountedBox
