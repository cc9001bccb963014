import CountedBox.Value

namespace CountedBox

/-- A reference-counted box. Compiled programs may write any number into tag and count. -/
structure Box where
  tag : Int
  count : Int
  payload : Payload

/-- What happened in the heap, for the log and the error slot. -/
inductive Note where
  | boxed (kind : Kind) (address : Address)
  | freed (kind : Kind) (address : Address) (deep : Bool)
  /-- An element of a freed container could not be released. -/
  | elementError (e : Error)

structure Heap where
  boxes : Std.TreeMap Address Box := ∅
  /-- The boxes made while tracking was on and not freed yet, with their kind at boxing. -/
  registry : Std.TreeMap Address Kind := ∅
  tracking : Bool
  boxed : Nat := 0
  freed : Nat := 0
  /-- The address of the next box. It only grows, so no address is handed out twice. -/
  next : Address := firstAddress
  /-- Newest first. -/
  journal : List Note := []

/-- The largest count a box can store. -/
def maxCount : Int := 2147483647

/-- A box that a reference leads to, with its kind. -/
structure Located where
  address : Address
  box : Box
  kind : Kind

structure Statistics where
  boxed : Nat
  freed : Nat
  live : Nat
  deriving DecidableEq

/-- A search that takes a box out has fewer left. -/
theorem size_erase_lt {β : Type} {m : Std.TreeMap Address β} {a : Address}
    (present : m.contains a = true) : (m.erase a).size < m.size := by
  have nonempty : m.isEmpty = false := Std.TreeMap.isEmpty_eq_false_of_contains present
  rw [Std.TreeMap.isEmpty_eq_size_eq_zero] at nonempty
  rw [Std.TreeMap.size_erase, if_pos present]
  simp at nonempty
  omega

namespace Heap

def note (h : Heap) (n : Note) : Heap := { h with journal := n :: h.journal }

/-- Box one level of a value, with a count of one. The address was never handed out before: that of a box that
was freed stays unused for good, while a memory allocator may hand it out again. -/
def alloc (v : Value) (h : Heap) : Address × Heap :=
  (h.next,
    { h with
      boxes := h.boxes.insert h.next ⟨v.kind.tag, 1, v.payload⟩
      registry := if h.tracking then h.registry.insert h.next v.kind else h.registry
      boxed := h.boxed + 1
      next := h.next + 1
      journal := .boxed v.kind h.next :: h.journal })

/-- Store a box at an address that is in use. -/
def write (h : Heap) (a : Address) (b : Box) : Heap :=
  { h with boxes := h.boxes.insert a b }

/-- The box at `a` is gone, and its address stays unknown for good. -/
def remove (h : Heap) (a : Address) (kind : Kind) (deep : Bool) : Heap :=
  { h with
    boxes := h.boxes.erase a
    registry := h.registry.erase a
    freed := h.freed + 1
    journal := .freed kind a deep :: h.journal }

/-- Follow a reference on behalf of `operation`. With tracking on, only registered addresses are
followed. -/
def locate (h : Heap) (r : Ref) (operation : String) : Except Stop Located :=
  match r with
  | none => refuse (.nullReference operation)
  | some a =>
    if h.tracking && !h.registry.contains a then refuse (.unknownObject a)
    else match h.boxes[a]? with
      | none => breakOff (.dangling a)
      | some box => match Kind.ofTag? box.tag with
        | none => refuse (.invalidTag box.tag)
        | some kind => .ok ⟨a, box, kind⟩

/-- One level of what the reference leads to. -/
def view (h : Heap) (r : Ref) : Except Stop Value :=
  match h.locate r "view" with
  | .error e => .error e
  | .ok b => match b.box.payload.read? b.kind with
    | none => breakOff (.layout b.address)
    | some (.error e) => refuse e
    | some (.ok v) => .ok v

/-- Whether the registry knows the address; asked regardless of tracking. -/
def isLive (h : Heap) (r : Ref) : Bool := h.registry.contains r.address

/-- The registered boxes in the order they were boxed. -/
def liveObjects (h : Heap) : List (Address × Kind) := h.registry.toList

/-- Counts since the start. Without tracking the live boxes are those boxed and not freed. -/
def statistics (h : Heap) : Statistics :=
  ⟨h.boxed, h.freed, if h.tracking then h.registry.size else h.boxed - h.freed⟩

/-- Tracking is meant to be chosen before the first box. -/
def setTracking (h : Heap) (on : Bool) : Heap := { h with tracking := on }

/-- A header that lies in memory without having been boxed here: neither registered nor counted. -/
def placeForeign (h : Heap) (tag count : Int) : Address × Heap :=
  (h.next, { h with boxes := h.boxes.insert h.next ⟨tag, count, .empty⟩, next := h.next + 1 })

/-- Write straight into a box, as the holder of its address can. -/
def overwrite (h : Heap) (r : Ref) (f : Box → Box) : Heap :=
  match r with
  | none => h
  | some a => match h.boxes[a]? with
    | none => h
    | some b => h.write a (f b)

end Heap

end CountedBox
