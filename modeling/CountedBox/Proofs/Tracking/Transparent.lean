import CountedBox.Proofs.Operation.Tracked
import CountedBox.Proofs.Ownership.Client
import CountedBox.Proofs.Tracking.Lockstep

namespace CountedBox

namespace Heap

variable {h k : Heap} {held : Holdings}

/-- The registry of a client that follows the rules holds what there is. -/
theorem Balanced.registry_size (balanced : h.Balanced held) (tracking : h.tracking = true) :
    h.registry.size = h.boxes.size := by
  refine size_eq_of_contains fun a => ⟨fun listed => ?_, fun there => ?_⟩
  · rw [Std.TreeMap.contains_eq_isSome_getElem?] at listed
    obtain ⟨kind, entry⟩ := Option.isSome_iff_exists.mp listed
    obtain ⟨b, found, _⟩ := balanced.coherent.registered entry
    exact contains_found found
  · rw [Std.TreeMap.contains_eq_isSome_getElem?] at there
    obtain ⟨b, found⟩ := Option.isSome_iff_exists.mp there
    exact balanced.known found tracking

/-- Both ways to count the live boxes come to how many there are. -/
theorem Balanced.live (balanced : h.Balanced held) : h.statistics.live = h.boxes.size := by
  have counters := balanced.counters
  simp only [statistics]
  split
  · exact balanced.registry_size ‹_›
  · omega

/-- For a client that follows the rules alike heaps hold the same boxes. -/
theorem Alike.getElem?_eq {held' : Holdings} (alike : h.Alike k) (left : h.Balanced held) (right : k.Balanced held')
    (a : Address) : h.boxes[a]? = k.boxes[a]? := by
  by_cases knownH : h.Knows a <;> by_cases knownK : k.Knows a
  · exact alike.boxes knownH knownK
  · rw [alike.left knownH knownK]
    cases found : k.boxes[a]? with
    | none => rfl
    | some b => exact absurd (right.known found) knownK
  · rw [alike.right knownK knownH]
    cases found : h.boxes[a]? with
    | none => rfl
    | some b => exact absurd (left.known found) knownH
  · cases found : h.boxes[a]? with
    | some b => exact absurd (left.known found) knownH
    | none =>
      cases found : k.boxes[a]? with
      | none => rfl
      | some b => exact absurd (right.known found) knownK

end Heap

/-! A client may do the same in both sessions, and then holds the same. -/

theorem Heap.Lendable.of_boxes {h k : Heap} {r : Ref} (same : ∀ a : Address, h.boxes[a]? = k.boxes[a]?)
    (lendable : h.Lendable r) : k.Lendable r := by
  intro a here
  obtain ⟨b, found⟩ := lendable a here
  exact ⟨b, (same a).symm.trans found⟩

/-- What is permitted depends on the boxes, and not on the registry. -/
theorem Request.Permitted.of_boxes {h k : Heap} {held : Holdings} {q : Request}
    (same : ∀ a : Address, h.boxes[a]? = k.boxes[a]?) (permitted : q.Permitted h held) : q.Permitted k held := by
  cases q with
  | boxRendering r => exact Heap.Lendable.of_boxes same permitted
  | retain r => exact Heap.Lendable.of_boxes same permitted
  | insert i => exact ⟨permitted.1.of_boxes same, permitted.2⟩
  | _ => exact permitted

theorem Operation.Permitted.of_boxes {h k : Heap} {held : Holdings} {op : Operation}
    (same : ∀ a : Address, h.boxes[a]? = k.boxes[a]?) (permitted : op.Permitted h held) : op.Permitted k held :=
  ⟨fun q asked => (permitted.1 q asked).of_boxes same, fun r member => (permitted.2 r member).of_boxes same⟩

theorem Request.gained_of_boxes {h k : Heap} (same : ∀ a : Address, h.boxes[a]? = k.boxes[a]?) (q : Request)
    (reply : Reply) : q.gained h reply = q.gained k reply := by
  have children : ∀ r, h.children r = k.children r := by
    intro r
    cases r with
    | none => rfl
    | some a => simp only [Heap.children, Option.bind_some, same]
  unfold gained
  simp only [children]

/-- So does what changes hands. -/
theorem Operation.settle_of_alike {h k : Heap} {held : Holdings} {op : Operation} (alike : h.Alike k)
    (left : h.Balanced held) (right : k.Balanced held) (permitted : op.Permitted h held) :
    op.settle h held = op.settle k held := by
  have same := alike.getElem?_eq left right
  cases asked : op.request? with
  | none => simp only [settle, asked]
  | some q =>
    have permittedH := permitted.1 q asked
    obtain ⟨outcome, h', runH, answersH, _⟩ := q.run_balanced left permittedH
    obtain ⟨outcome', k', runK, answersK, _⟩ := q.run_balanced right (permittedH.of_boxes same)
    have matched := q.run_matches alike
    rw [runH, runK] at matched
    simp only [settle, asked, runH, runK]
    cases matched with
    | left f => exact absurd rfl (answersH f)
    | right _ f => exact absurd rfl (answersK f)
    | both =>
      cases outcome with
      | error stop => rfl
      | ok reply => simp only [Request.settle, q.gained_of_boxes same reply]

/-! Whole runs. -/

/-- The operations one after the other, with what each answers. -/
def performAll (ops : List Operation) : Step (List (Except Error Reply)) := ops.mapM Operation.perform

/-- The client follows the rules at each of the operations, and asks for nothing that shows the registry. -/
def Obeys : List Operation → Session → Holdings → Prop
  | [], _, _ => True
  | op :: ops, s, held => op.Steady ∧ ¬ op.Aware ∧ op.Permitted s.heap held ∧
      ∀ x s', op.perform.run s = .ok (x, s') → Obeys ops s' (op.settle s.heap held)

theorem Obeys.of_append {before after : List Operation} {s : Session} {held : Holdings}
    (obeys : Obeys (before ++ after) s held) : Obeys before s held := by
  induction before generalizing s held with
  | nil => trivial
  | cons op before ih =>
    obtain ⟨steady, unaware, permitted, rest⟩ := obeys
    exact ⟨steady, unaware, permitted, fun x s' done => ih (rest x s' done)⟩

theorem performAll_cons {op : Operation} {ops : List Operation} {s s' s'' : Session} {x : Except Error Reply}
    {replies : List (Except Error Reply)} (first : op.perform.run s = .ok (x, s'))
    (rest : (performAll ops).run s' = .ok (replies, s'')) :
    (performAll (op :: ops)).run s = .ok (x :: replies, s'') := by
  have unfolded : performAll (op :: ops) = do
      let x ← op.perform
      let replies ← performAll ops
      return x :: replies := List.mapM_cons
  rw [unfolded, StateT.run_bind, first, ok_bind, StateT.run_bind, rest]
  rfl

theorem Operation.perform_keeps_tracking {op : Operation} {s s' : Session} {held : Holdings}
    {x : Except Error Reply} (balanced : s.heap.Balanced held) (steady : op.Steady)
    (permitted : op.Permitted s.heap held) (done : op.perform.run s = .ok (x, s')) :
    s'.heap.tracking = s.heap.tracking := by
  exact (perform_permitted balanced steady permitted done).tracking

/-- A client that follows the rules is at the same point in both sessions, of which the first has
tracking on and the second off. -/
structure Session.Paired (s t : Session) (held : Holdings) : Prop where
  alike : s.Alike t
  on : s.heap.tracking = true
  off : t.heap.tracking = false
  left : s.heap.Balanced held
  right : t.heap.Balanced held

namespace Session.Paired

variable {s t : Session} {held : Holdings}

/-- Two sessions that begin alike but for tracking are paired. -/
theorem fresh {s : Session} (on : s.heap = { tracking := true }) :
    s.Paired { s with heap := { tracking := false } } fun _ => 0 := by
  have heaps : Heap.Alike { tracking := true } { tracking := false } :=
    ⟨fun _ _ => rfl, fun _ _ => rfl, fun _ _ => rfl, fun _ => rfl, rfl, rfl, rfl, rfl⟩
  exact ⟨⟨on ▸ heaps, rfl, rfl, rfl, rfl, rfl⟩, on ▸ rfl, rfl, on ▸ .start true, .start false⟩

theorem boxes (paired : s.Paired t held) (a : Address) : s.heap.boxes[a]? = t.heap.boxes[a]? :=
  paired.alike.heap.getElem?_eq paired.left paired.right a

theorem live (paired : s.Paired t held) : s.heap.statistics.live = t.heap.statistics.live := by
  have same : s.heap.boxes.Equiv t.heap.boxes := .of_forall_constGet?_eq paired.boxes
  rw [paired.left.live, paired.right.live, same.size_eq]

theorem statistics (paired : s.Paired t held) : s.heap.statistics = t.heap.statistics := by
  have live := paired.live
  simp only [Heap.statistics, Statistics.mk.injEq] at live ⊢
  exact ⟨paired.alike.heap.boxed, paired.alike.heap.freed, live⟩

/-- An operation answers the same in both sessions, and they are paired afterwards. -/
theorem perform (paired : s.Paired t held) {op : Operation} (steady : op.Steady) (unaware : ¬ op.Aware)
    (permitted : op.Permitted s.heap held) : ∃ x s' t', op.perform.run s = .ok (x, s') ∧
      op.perform.run t = .ok (x, t') ∧ s'.Paired t' (op.settle s.heap held) := by
  have permittedT := permitted.of_boxes paired.boxes
  obtain ⟨x, s', doneS, afterS⟩ := op.perform_balanced paired.left steady permitted
  obtain ⟨y, t', doneT, afterT⟩ := op.perform_balanced paired.right steady permittedT
  have on := (Operation.perform_keeps_tracking paired.left steady permitted doneS).trans paired.on
  have off := (Operation.perform_keeps_tracking paired.right steady permittedT doneT).trans paired.off
  rw [← Operation.settle_of_alike paired.alike.heap paired.left paired.right permitted] at afterT
  -- The registry and the counters agree on what is alive, so shutting down returns the same.
  have both := Operation.perform_lockstep steady paired.alike (fun aware => absurd aware unaware) paired.live
  rw [doneS, doneT] at both
  cases both with
  | both _ after => exact ⟨x, s', t', doneS, doneT, after, on, off, afterS, afterT⟩

/-- So does a sequence of operations. -/
theorem performAll (paired : s.Paired t held) {ops : List Operation} (obeys : Obeys ops s held) :
    ∃ replies s' t' held', (performAll ops).run s = .ok (replies, s') ∧
      (performAll ops).run t = .ok (replies, t') ∧ s'.Paired t' held' := by
  induction ops generalizing s t held with
  | nil => exact ⟨[], s, t, held, rfl, rfl, paired⟩
  | cons op ops ih =>
    obtain ⟨steady, unaware, permitted, rest⟩ := obeys
    obtain ⟨x, s', t', doneS, doneT, after⟩ := paired.perform steady unaware permitted
    obtain ⟨replies, s'', t'', held', runS, runT, last⟩ := ih after (rest x s' doneS)
    exact ⟨x :: replies, s'', t'', held', performAll_cons doneS runS, performAll_cons doneT runT, last⟩

end Session.Paired

/-- Tracking makes no difference to a client that follows the rules. The same operations, with tracking
on and with tracking off, give at every point the same answers, the same boxes, counts and counters,
the same last error and debug output, the same log but for warnings of leaks, and the same number to
return when shutting down. In neither run the address of a freed box is given out again. -/
theorem tracking_transparent {ops : List Operation} {s t : Session} (on : s.heap = { tracking := true })
    (off : t = { s with heap := { tracking := false } }) (obeys : Obeys ops s fun _ => 0) :
    ∀ before after, ops = before ++ after → ∃ replies s' t',
      (performAll before).run s = .ok (replies, s') ∧ (performAll before).run t = .ok (replies, t') ∧
      s'.heap.tracking = true ∧ t'.heap.tracking = false ∧
      (∀ a : Address, s'.heap.boxes[a]? = t'.heap.boxes[a]?) ∧ s'.heap.statistics = t'.heap.statistics ∧
      s'.lastError = t'.lastError ∧ s'.debug = t'.debug ∧
      s'.events.filter (fun e => !e.warnsOfLeak) = t'.events.filter (fun e => !e.warnsOfLeak) ∧
      ∃ live u v, shutdown.run s' = .ok (live, u) ∧ shutdown.run t' = .ok (live, v) := by
  rintro before after rfl
  subst off
  obtain ⟨replies, s', t', _, runS, runT, last⟩ := (Session.Paired.fresh on).performAll obeys.of_append
  obtain ⟨u, endS, _⟩ := shutdown_run last.left.coherent.registered
  obtain ⟨v, endT, _⟩ := shutdown_run last.right.coherent.registered
  exact ⟨replies, s', t', runS, runT, last.on, last.off, last.boxes, last.statistics, last.alike.lastError,
    last.alike.debug, last.alike.events, _, u, v, endS, last.live ▸ endT⟩

/-- A number is put into a tuple, the tuple is looked at and given back, and a null reference is read. -/
def tupleLooked : List Operation :=
  [.entry (.boxInt 1), .call (.tupleOf [some 4096]), .call (.view (some 4097)), .entry (.derefBox (some 4097) 0),
    .entry (.intValue none)]

theorem tupleLooked_obeys : Obeys tupleLooked (.initial true) fun _ => 0 := by
  have steady : ∀ e, (Operation.entry e).Steady := fun e => by simp [Operation.Steady]
  refine ⟨steady _, id, ⟨?_, by rintro r ⟨⟩⟩, ?_⟩
  · rintro q ⟨⟩ r
    exact Nat.zero_le _
  rintro x s ⟨⟩
  refine ⟨by simp [Operation.Steady], id, ⟨?_, by rintro r ⟨⟩⟩, ?_⟩
  · rintro q ⟨⟩ r
    exact Nat.le_add_left _ _
  rintro x s ⟨⟩
  refine ⟨by simp [Operation.Steady], id, ⟨by rintro q ⟨⟩, ?_⟩, ?_⟩
  · rintro r member
    cases List.mem_singleton.mp member
    rintro a ⟨⟩
    exact ⟨_, rfl⟩
  rintro x s ⟨⟩
  refine ⟨steady _, id, ⟨?_, by rintro r ⟨⟩⟩, ?_⟩
  · rintro q ⟨⟩
    exact Or.inr (by decide)
  rintro x s ⟨⟩
  refine ⟨steady _, id, ⟨by rintro q ⟨⟩, ?_⟩, fun _ _ _ => trivial⟩
  rintro r member
  cases List.mem_singleton.mp member
  rintro a ⟨⟩

/-- Both ways the null reference is complained of, and the number is left over. -/
theorem tracking_transparent_tupleLooked : ∃ replies s' t', (performAll tupleLooked).run (.initial true) = .ok (replies, s') ∧
    (performAll tupleLooked).run { heap := { tracking := false } } = .ok (replies, t') ∧
    t'.lastError = some (.nullReference "view") ∧ t'.heap.statistics = ⟨2, 1, 1⟩ := by
  obtain ⟨replies, s', t', runS, runT, _, _, _, statistics, lastError, _⟩ :=
    tracking_transparent (s := .initial true) rfl rfl tupleLooked_obeys tupleLooked [] rfl
  have run : (performAll tupleLooked).run (.initial true) = .ok (_, _) := rfl
  cases run.symm.trans runS
  exact ⟨_, _, t', runS, runT, lastError.symm, statistics.symm⟩

end CountedBox
