import CountedBox.Proofs.Store.Seen

namespace CountedBox

namespace Insertion

/-- The item, if it was added to a list. -/
def listed? : Insertion → Option Ref
  | listAdd _ item => some item
  | _ => none

/-- The item, if it was added to a set. -/
def joined? : Insertion → Option Ref
  | setAdd _ item => some item
  | _ => none

/-- The item, if it was put into this slot of a tuple. -/
def slotted? (slot : Nat) : Insertion → Option Ref
  | tupleSet _ index item => if index = slot then some item else none
  | _ => none

/-- The item, if this name was bound to it in a record. -/
def bound? (name : String) : Insertion → Option Ref
  | recordPut _ field item => if field = name then some item else none
  | _ => none

end Insertion

/-- The last of the values that are there, where one more comes first. -/
theorem getLast?_or_of_head {α : Type} (first before : Option α) (rest : List α) :
    (first.toList ++ rest).getLast?.or before = rest.getLast?.or (first.or before) := by
  cases first with
  | none => rfl
  | some x => cases last : rest.getLast? <;> simp [List.getLast?_cons, last]

theorem filterMap_cons_toList {α β : Type} (f : α → Option β) (x : α) (xs : List α) :
    (x :: xs).filterMap f = (f x).toList ++ xs.filterMap f := by
  cases found : f x <;> simp [found]

namespace Value

/-- What insertions, in the order they were made, make of a container: a list and a set get the items added,
a slot and a name keep the last item put there. A scalar stays what it is. -/
def Grown (insertions : List Insertion) : Value → Value → Prop
  | list old, list items => items = old ++ insertions.filterMap Insertion.listed?
  | set old, set items => items = old ++ insertions.filterMap Insertion.joined?
  | tuple old, tuple items => items.length = old.length ∧ ∀ slot < old.length,
      items[slot]? = (insertions.filterMap (Insertion.slotted? slot)).getLast?.or old[slot]?
  | record old, record fields => ∀ name,
      fields[name]? = (insertions.filterMap (Insertion.bound? name)).getLast?.or old[name]?
  | v, w => w = v

/-- Containers that an insertion appends to, if it is for them at all. -/
theorem insertAll_append {make : List Ref → Value} {pick : Insertion → Option Ref}
    (step : ∀ i old, i.into (make old) = make (old ++ (pick i).toList)) (insertions : List Insertion)
    (old : List Ref) : (make old).insertAll insertions = make (old ++ insertions.filterMap pick) := by
  induction insertions generalizing old with
  | nil => simp [insertAll]
  | cons i rest ih =>
    rw [filterMap_cons_toList, ← List.append_assoc, ← ih, ← step]
    rfl

/-- Containers in which an insertion replaces what is at one key, if it is for them at all. -/
theorem insertAll_replace {γ κ : Type} {make : γ → Value} {get : γ → κ → Option Ref}
    {pick : κ → Insertion → Option Ref} (step : ∀ (i : Insertion) (old : γ), ∃ next, i.into (make old) = make next ∧
      ∀ k, get next k = (pick k i).or (get old k)) (insertions : List Insertion) (old : γ) :
    ∃ now, (make old).insertAll insertions = make now ∧
      ∀ k, get now k = (insertions.filterMap (pick k)).getLast?.or (get old k) := by
  induction insertions generalizing old with
  | nil => exact ⟨old, rfl, fun _ => by simp⟩
  | cons i rest ih =>
    obtain ⟨next, made, entries⟩ := step i old
    obtain ⟨now, all, same⟩ := ih next
    refine ⟨now, ?_, fun k => ?_⟩
    · rw [← all, ← made]
      rfl
    · rw [same k, entries k, filterMap_cons_toList, getLast?_or_of_head]

/-- Insertions leave a value alone that takes none. -/
theorem insertAll_scalar {v : Value} (scalar : ∀ i : Insertion, i.into v = v) (insertions : List Insertion) :
    v.insertAll insertions = v := by
  induction insertions with
  | nil => rfl
  | cons i rest ih => rwa [insertAll, List.foldl_cons, scalar i]

/-- Inserting one by one comes to what the list of insertions says at once. -/
theorem grown_insertAll (v : Value) (insertions : List Insertion) : v.Grown insertions (v.insertAll insertions) := by
  cases v with
  | list old =>
    have step : ∀ (i : Insertion) (items : List Ref), i.into (list items) = list (items ++ i.listed?.toList) := by
      intro i items
      cases i <;> simp [Insertion.into, Insertion.listed?]
    rw [insertAll_append step]
    rfl
  | set old =>
    have step : ∀ (i : Insertion) (items : List Ref), i.into (set items) = set (items ++ i.joined?.toList) := by
      intro i items
      cases i <;> simp [Insertion.into, Insertion.joined?]
    rw [insertAll_append step]
    rfl
  | tuple old =>
    -- No insertion changes how many slots there are, so the slots of the beginning are those of the end.
    let Slots := { items : List Ref // items.length = old.length }
    have step : ∀ (i : Insertion) (items : Slots), ∃ next : Slots, i.into (tuple items.1) = tuple next.1 ∧
        ∀ slot : Fin old.length, next.1[slot.1]? = (i.slotted? slot).or items.1[slot.1]? := by
      intro i items
      cases i with
      | tupleSet tuple index item =>
        refine ⟨⟨items.1.set index item, List.length_set.trans items.2⟩, rfl, fun slot => ?_⟩
        have bound : slot.1 < items.1.length := Nat.lt_of_lt_of_eq slot.2 items.2.symm
        by_cases here : index = slot
        · simp [Insertion.slotted?, here, bound]
        · simp [Insertion.slotted?, here]
      | _ => exact ⟨items, rfl, fun _ => rfl⟩
    obtain ⟨items, made, slots⟩ := insertAll_replace step insertions ⟨old, rfl⟩
    rw [made]
    exact ⟨items.2, fun slot bound => slots ⟨slot, bound⟩⟩
  | record old =>
    have step : ∀ (i : Insertion) (fields : Fields), ∃ next : Fields, i.into (record fields) = record next ∧
        ∀ name : String, next[name]? = (i.bound? name).or fields[name]? := by
      intro i fields
      cases i with
      | recordPut record field item =>
        refine ⟨fields.insert field item, rfl, fun name => ?_⟩
        by_cases here : field = name
        · simp [Insertion.bound?, here]
        · simp [Insertion.bound?, here, Std.TreeMap.getElem?_insert]
      | _ => exact ⟨fields, rfl, fun _ => rfl⟩
    obtain ⟨fields, made, names⟩ := insertAll_replace step insertions old
    rw [made]
    exact names
  | _ =>
    rw [insertAll_scalar (fun i => by cases i <;> rfl)]
    rfl

end Value

end CountedBox
