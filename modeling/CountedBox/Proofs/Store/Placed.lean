import CountedBox.Proofs.Ownership.Sets

namespace CountedBox

/-- What a container holds once the item is stored in it. -/
def Insertion.into : Insertion → Value → Value
  | listAdd _ item, .list items => .list (items ++ [item])
  | setAdd _ item, .set items => .set (items ++ [item])
  | tupleSet _ index item, .tuple items => .tuple (items.set index item)
  | recordPut _ field item, .record fields => .record (fields.insert field item)
  | _, v => v

namespace Insertion

variable {h h' : Heap} {i : Insertion}

/-- An accepted insertion takes the container as it is read, and inserts. -/
theorem plan_into {b : Located} {content : Value} {displaced : Option Ref}
    (planned : i.plan h = .ok (.store b content displaced)) :
    ∃ v, h.view i.container = .ok v ∧ content = i.into v := by
  obtain ⟨_, _, placed⟩ := ok_of_bind_ok planned
  cases i with
  | listAdd list item =>
    obtain ⟨⟨c, items⟩, given, chosen⟩ := ok_of_bind_ok placed
    obtain ⟨rfl, found, known, tagged, payload⟩ := Heap.elements_ok given
    cases chosen
    exact ⟨.list items, Heap.view_stores known found (.of_tagged tagged payload), rfl⟩
  | setAdd set item =>
    obtain ⟨⟨c, items⟩, given, searched⟩ := ok_of_bind_ok placed
    obtain ⟨rfl, found, known, tagged, payload⟩ := Heap.elements_ok given
    obtain ⟨present, _, chosen⟩ := ok_of_bind_ok searched
    cases present <;> cases chosen
    exact ⟨.set items, Heap.view_stores known found (.of_tagged tagged payload), rfl⟩
  | tupleSet tuple index item =>
    obtain ⟨⟨c, items⟩, given, chosen⟩ := ok_of_bind_ok placed
    obtain ⟨rfl, found, known, tagged, payload⟩ := Heap.elements_ok given
    dsimp only at chosen
    split at chosen <;> cases chosen
    exact ⟨.tuple items, Heap.view_stores known found (.of_tagged tagged payload), rfl⟩
  | recordPut record field item =>
    obtain ⟨⟨c, fields⟩, given, chosen⟩ := ok_of_bind_ok placed
    obtain ⟨rfl, found, known, tagged, payload⟩ := Heap.fields_ok given
    cases chosen
    exact ⟨.record fields, Heap.view_stores known found (.of_tagged tagged payload), rfl⟩

/-- Only a set can have the item already. -/
theorem plan_present (planned : i.plan h = .ok .present) : ∃ set item, i = .setAdd set item := by
  obtain ⟨_, _, placed⟩ := ok_of_bind_ok planned
  cases i with
  | setAdd set item => exact ⟨set, item, rfl⟩
  | tupleSet tuple index item =>
    obtain ⟨found, _, chosen⟩ := ok_of_bind_ok placed
    dsimp only at chosen
    split at chosen <;> cases chosen
  | _ =>
    obtain ⟨found, _, chosen⟩ := ok_of_bind_ok placed
    cases chosen

/-- Only an accepted insertion touches its container. -/
theorem touched_some {a : Address} (touched : i.touched h = some a) : i.container = some a ∧
    ∃ b content displaced, i.plan h = .ok (.store b content displaced) := by
  unfold Insertion.touched at touched
  split at touched
  · rename_i b content displaced planned
    exact ⟨touched, b, content, displaced, planned⟩
  · cases touched

theorem touched_of_plan {b : Located} {content : Value} {displaced : Option Ref}
    (planned : i.plan h = .ok (.store b content displaced)) : i.touched h = some b.address := by
  rw [touched, planned]
  exact (plan_store planned).container

end Insertion

/-- A box that was there before and that is not touched held what it holds. -/
theorem Request.run_holds {q : Request} {h h' : Heap} {outcome : Except Stop Reply} {a : Address} {b' : Box}
    (run : q.run.run h = (outcome, h')) (old : a < h.next) (other : some a ≠ q.touched h)
    (found : h'.boxes[a]? = some b') : h.Holds a b' := by
  cases q with
  | box v =>
    cases run
    change (h.alloc v).2.boxes[a]? = some b' at found
    rw [Heap.getElem?_alloc, if_neg (Nat.ne_of_gt old)] at found
    exact ⟨b', found, rfl, rfl⟩
  | _ =>
    have keeps := Request.run_keeps (by rintro items ⟨⟩) run
    exact (keeps.contents other found).resolve_right fun new => absurd old (Nat.not_lt.mpr new.1)

namespace Request

variable {q : Request} {h h' : Heap} {held held' : Holdings} {outcome : Except Stop Reply} {a : Address}
  {v' : Value}

/-- What was there before and is there after a request holds what it held; the container that an insertion
has touched holds the item as well. -/
theorem run_contents (before : h.Balanced held) (after : h'.Balanced held') (permitted : q.Permitted h held)
    (run : q.run.run h = (outcome, h')) (old : a < h.next) (viewed : h'.view (some a) = .ok v') :
    (h.view (some a) = .ok v' ∧ some a ≠ q.touched h) ∨
      ∃ i v, q = .insert i ∧ i.touched h = some a ∧ h.view (some a) = .ok v ∧ v' = i.into v := by
  by_cases other : some a = q.touched h
  · cases q with
    | insert i =>
      obtain ⟨container, b, content, displaced, planned⟩ := Insertion.touched_some other.symm
      obtain ⟨v, viewedOld, same⟩ := Insertion.plan_into planned
      have accepted := Insertion.plan_store planned
      have stored := before.store accepted (Insertion.item_held planned permitted.2)
      have viewedStored := accepted.view_store
      rw [container] at viewedOld viewedStored
      -- After the item is stored, only what made room is released, and that keeps the contents.
      have keeps := Insertion.run_keeps_stored planned run none
      have kept := keeps.view_old stored after ⟨_, viewedStored⟩ (Option.some_ne_none a) viewed
      cases kept.symm.trans viewedStored
      exact Or.inr ⟨i, v, rfl, other.symm, viewedOld, same⟩
    | _ => cases other
  · obtain ⟨c, b', here, known, found, _⟩ := Heap.view_found viewed
    cases here
    obtain ⟨w, stores⟩ := after.coherent.typed found known
    cases (Heap.view_stores known found stores).symm.trans viewed
    obtain ⟨b, foundOld, tag, payload⟩ := run_holds run old other found
    have storesOld : b.Stores v' := ⟨tag.trans stores.1, payload.trans stores.2⟩
    exact Or.inl ⟨Heap.view_stores (before.known foundOld) foundOld storesOld, other⟩

end Request

end CountedBox
