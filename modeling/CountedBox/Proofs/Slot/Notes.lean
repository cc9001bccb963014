import CountedBox.Proofs.Ownership.Ledger

namespace CountedBox

/-- The error a note is about, if it is about one. -/
def Note.error? : Note → Option Error
  | .elementError e => some e
  | _ => none

/-- The errors a heap has noted, newest first. -/
def Heap.noted (h : Heap) : List Error := h.journal.filterMap Note.error?

theorem Session.log_lastError (s : Session) (event : Log.Event) : (s.log event).lastError = s.lastError := by
  unfold Session.log
  split
  · split <;> rfl
  · rfl

/-- Of what the heap has noted the newest error stays in the slot. -/
theorem Session.adopt_lastError (s : Session) (h : Heap) : (s.adopt h).lastError = h.noted.head?.or s.lastError := by
  rw [adopt, List.foldl_reverse, Heap.noted]
  induction h.journal with
  | nil => rfl
  | cons note rest ih =>
    rw [List.foldr_cons, List.filterMap_cons]
    cases note with
    | elementError e => rfl
    | boxed kind a => exact (log_lastError _ _).trans ih
    | freed kind a deep => exact (log_lastError _ _).trans ih

namespace Heap

variable {h h' : Heap} {held : Holdings}

theorem noted_addReference {r : Ref} (added : h.addReference r = .ok h') : h'.noted = h.noted := by
  obtain ⟨a, b, kind, _, _, _, _, _, _, rfl⟩ := addReference_cases added
  rfl

/-- Freeing one box writes into the journal what is no error. -/
theorem noted_dropReference {r : Ref} {deep : Bool} {freed : Option (List Ref)}
    (dropped : h.dropReference r deep = .ok (h', freed)) : h'.noted = h.noted := by
  obtain ⟨a, b, kind, _, _, _, _, ⟨_, rfl, _⟩ | ⟨_, rfl, _⟩⟩ := dropReference_cases dropped <;> rfl

namespace Balanced

/-- References that are held are given back without an error, and so are those freed by it. -/
theorem noted_releaseEach {pending : List Ref} (balanced : h.Balanced (held.gain pending))
    (done : h.releaseEach pending = .ok h') : h'.noted = h.noted := by
  fun_induction h.releaseEach pending with
  | case1 =>
    cases done
    rfl
  | case2 h r rest e refused ih =>
    obtain ⟨_, _, dropped, _⟩ := balanced.dropNext
    cases dropped.symm.trans refused
  | case3 => cases done
  | case4 h r rest next dropped ih =>
    obtain ⟨_, _, same, after⟩ := balanced.dropNext
    cases same.symm.trans dropped
    exact (ih after done).trans (noted_dropReference dropped)
  | case5 h r rest next elements dropped ih =>
    obtain ⟨_, _, same, after⟩ := balanced.dropNext
    cases same.symm.trans dropped
    exact (ih after done).trans (noted_dropReference dropped)

/-- Releasing what is held records no error on its way. -/
theorem noted_release {r : Ref} (balanced : h.Balanced held) (holds : 0 < held r) (deep : Bool) :
    ((CountedBox.release r deep).run h).2.noted = h.noted := by
  obtain ⟨next, freed, dropped, _, after⟩ := balanced.drop holds deep
  have first := noted_dropReference dropped
  rw [run_release, dropped]
  cases freed with
  | none => exact first
  | some items =>
    cases deep with
    | false => exact first
    | true =>
      obtain ⟨h', released, _⟩ := after.releaseEach
      rw [Option.getD_some] at released after
      simp only [if_true, released]
      exact (after.noted_releaseEach released).trans first

end Balanced

theorem noted_newTuple (h : Heap) (n : Nat) : ((newTuple n).run h).2.noted = h.noted := by
  let P : Heap → List Ref → Prop := fun h' _ => h'.noted = h.noted
  obtain ⟨slots, h', run, _, same⟩ := @boxNulls_induction P (fun _ _ same => same) n h [] rfl
  rw [run_newTuple run]
  exact same

end Heap

/-- Nor does an insertion of what is held. -/
theorem Insertion.noted_run {h : Heap} {held : Holdings} {i : Insertion} (balanced : h.Balanced held)
    (owned : held.Owns i.item) : (i.run.run h).2.noted = h.noted := by
  rw [run_eq]
  cases planned : i.plan h with
  | error stop => rfl
  | ok placement =>
    have holds := item_held planned owned
    cases placement with
    | present =>
      rw [carryOut, Action.run_map]
      exact balanced.noted_release holds true
    | store b content displaced =>
      have stored := balanced.store (plan_store planned) holds
      cases displaced with
      | none => rfl
      | some previous =>
        rw [carryOut, Action.run_map]
        exact stored.noted_release (Holdings.holds_head _ previous []) true

/-- No permitted request frees an element that cannot be given back. -/
theorem Request.noted_run {h : Heap} {held : Holdings} {q : Request} (balanced : h.Balanced held)
    (permitted : q.Permitted h held) : (q.run.run h).2.noted = h.noted := by
  cases q with
  | box v => rfl
  | boxChar code =>
    rw [run, Action.run_map]
    rcases boxChar_heap code h with same | ⟨v, _, boxed⟩
    · rw [same]
    · rw [boxed]
      rfl
  | boxRendering r =>
    rw [run, Action.run_map]
    rcases boxRendering_heap r h with same | ⟨v, _, boxed⟩
    · rw [same]
    · rw [boxed]
      rfl
  | newTuple arity =>
    rw [run, Action.run_map]
    exact h.noted_newTuple arity
  | insert i => exact i.noted_run balanced permitted.2
  | retain r =>
    rw [run, Action.run_map, run_retain]
    split
    · rfl
    · rename_i added
      exact Heap.noted_addReference added
  | release r deep =>
    rw [run, Action.run_map]
    rcases permitted with rfl | holds
    · rfl
    · exact balanced.noted_release holds deep

end CountedBox
