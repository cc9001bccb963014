import CountedBox.Proofs.Ownership.Client
import CountedBox.Proofs.Slot.Counterpart

namespace CountedBox

/-- A success if and only if `p` holds, and otherwise refused with `e`. -/
def AcceptsIff {α : Type} (p : Prop) (e : Error) (outcome : Except Stop α) : Prop :=
  (p ∧ ∃ x, outcome = .ok x) ∨ (¬ p ∧ outcome = refuse e)

theorem AcceptsIff.map {α β : Type} {p : Prop} {e : Error} {outcome : Except Stop α} (accepts : AcceptsIff p e outcome)
    (g : α → β) : AcceptsIff p e (g <$> outcome) := by
  rcases accepts with ⟨holds, x, rfl⟩ | ⟨fails, rfl⟩
  · exact Or.inl ⟨holds, g x, rfl⟩
  · exact Or.inr ⟨fails, rfl⟩

namespace Heap

variable {h : Heap} {held : Holdings} {a : Address} {b : Box} {v : Value}

/-- A text is given for a string, and for nothing else. -/
theorem textValue_accepts {r : Ref} (viewed : h.view r = .ok v) :
    AcceptsIff (v.kind = .string) (.kindMismatch .string v.kind) (h.textValue r) := by
  rw [textValue, viewed, ok_bind]
  cases v with
  | string bytes => exact Or.inl ⟨rfl, bytes, rfl⟩
  | _ => exact Or.inr ⟨by simp [Value.kind], rfl⟩

/-- Looking into a list, a set or a tuple. -/
theorem elements_accepts {kind : Kind} (known : h.Knows a) (found : h.boxes[a]? = some b) (stores : b.Stores v)
    (sequence : kind = .list ∨ kind = .set ∨ kind = .tuple) (operation : String) :
    AcceptsIff (v.kind = kind) (.kindMismatch kind v.kind) (h.elements (some a) kind operation) := by
  by_cases same : v.kind = kind
  · subst same
    cases v <;> simp only [Value.kind, reduceCtorEq, or_false] at sequence <;>
      exact Or.inl ⟨rfl, _, elements_stored known found stores rfl operation⟩
  · exact Or.inr ⟨same, by rw [elements, locate_known known found stores.tagged, ok_bind, if_neg same]⟩

/-- Giving back a reference to what is there is not refused, whoever holds it. -/
theorem Coherent.dropReference_found (coherent : h.Coherent) (known : h.Knows a) (found : h.boxes[a]? = some b)
    (deep : Bool) : ∃ h' freed, h.dropReference (some a) deep = .ok (h', freed) := by
  obtain ⟨v, stores⟩ := coherent.typed found known
  have positive := coherent.counted found known
  by_cases last : b.count = 1
  · exact ⟨_, _, dropReference_last known found stores last⟩
  · exact ⟨_, _, dropReference_shared known found stores.tagged (by omega)⟩

/-- A release of what can be read is not refused. -/
theorem Coherent.release_accepted (coherent : h.Coherent) (known : h.Knows a) (found : h.boxes[a]? = some b)
    (deep : Bool) (e : Error) (h' : Heap) : (release (some a) deep).run h ≠ (refuse e, h') := by
  intro refused
  obtain ⟨_, _, dropped⟩ := coherent.dropReference_found known found deep
  cases dropped.symm.trans (release_refused refused).2

end Heap

namespace Insertion

variable {h h' : Heap} {held : Holdings} {i : Insertion} {e : Error}

/-- What makes room is there, now as before, since the container held it or it is the item. -/
theorem Accepted.displaced_found {b : Located} {content : Value} {previous : Ref} (balanced : h.Balanced held)
    (accepted : i.Accepted h b content (some previous)) :
    ∃ a c, previous = some a ∧ (h.store b content.payload).boxes[a]? = some c ∧ h.Knows a := by
  have there : ∃ a c, previous = some a ∧ h.boxes[a]? = some c := by
    by_cases same : previous = i.item
    · obtain ⟨⟨_, viewed⟩, _⟩ := Heap.checkInsert_ok accepted.checked
      obtain ⟨a, c, item, _, found, _⟩ := Heap.view_found viewed
      exact ⟨a, c, same.trans item, found⟩
    · have exchanged := accepted.exchanged previous
      have other : [i.item].count previous = 0 := List.count_eq_zero.mpr (by simpa using same)
      rw [Option.toList_some, List.count_singleton_self, other] at exchanged
      have element : previous ∈ b.box.children := List.count_pos_iff.mp (by omega)
      have edge := Heap.edge_iff.mpr ⟨_, _, rfl, accepted.found, element⟩
      exact balanced.present (Nat.lt_add_left _ (Heap.occurrences_pos_iff.mpr ⟨_, edge⟩))
  obtain ⟨a, c, rfl, found⟩ := there
  have known := balanced.known found
  have after := h.getElem?_write b.address a { b.box with payload := content.payload }
  by_cases here : b.address = a
  · exact ⟨a, _, rfl, after.trans (if_pos here), known⟩
  · exact ⟨a, c, rfl, after.trans ((if_neg here).trans found), known⟩

/-- An insertion is refused only by what it asks before it changes anything. -/
theorem plan_of_refused (balanced : h.Balanced held) (refused : i.run.run h = (refuse e, h')) :
    i.plan h = refuse e ∧ h' = h := by
  rw [run_eq] at refused
  cases planned : i.plan h with
  | error stop =>
    rw [planned] at refused
    cases refused
    exact ⟨rfl, rfl⟩
  | ok placement =>
    rw [planned] at refused
    cases placement with
    | present =>
      obtain ⟨⟨_, viewed⟩, _⟩ := Heap.checkInsert_ok (plan_checked planned)
      obtain ⟨a, b, item, known, found, _⟩ := Heap.view_found viewed
      have given := Action.run_error_of_map refused
      rw [item] at given
      exact absurd given (balanced.coherent.release_accepted known found true e h')
    | store b content displaced =>
      have accepted := plan_store planned
      cases displaced with
      | none => cases refused
      | some previous =>
        obtain ⟨a, c, rfl, found, known⟩ := accepted.displaced_found balanced
        have coherent := balanced.coherent.change accepted.change
        exact absurd (Action.run_error_of_map refused) (coherent.release_accepted known found true e h')

end Insertion

/-- The references to objects that a request is about. -/
def Request.objects : Request → List Ref
  | boxRendering r | retain r | release r _ => [r]
  | insert i => [i.container, i.item]
  | _ => []

namespace Entry

/-- What an entry without a call of its own looks into, of which kind that has to be, and what a null is
reported for. -/
def wanted? : Entry → Option (Ref × Kind × String)
  | strValue r => some (r, .string, "view")
  | listSize list => some (list, .list, "wycc_list_size")
  | setSize set => some (set, .set, "wycc_set_size")
  | _ => none

/-- When an entry fails: a text that it needs is null, or its call is refused, or what it looks into is null
or of another kind. -/
inductive FailsWith (s : Session) (e : Entry) : Error → Prop
  | noText {err : Error} : e.missing? = some err → FailsWith s e err
  | refused {c : Call} {err : Error} {t : Session} : e.counterpart? = some c →
      c.perform.run.run s = .ok (.error err, t) → FailsWith s e err
  | null {kind : Kind} {operation : String} : e.wanted? = some (none, kind, operation) →
      FailsWith s e (.nullReference operation)
  | otherKind {r : Ref} {kind : Kind} {operation : String} {v : Value} : e.wanted? = some (r, kind, operation) →
      s.heap.view r = .ok v → v.kind ≠ kind → FailsWith s e (.kindMismatch kind v.kind)

/-- The client passes only null or what is there, and what a call that succeeds uses up it holds. -/
structure Fair (e : Entry) (s : Session) (held : Holdings) : Prop where
  live : ∀ r ∈ e.objects, s.heap.Lendable r
  covered : (∀ err, ¬ e.FailsWith s err) → ∀ q, e.request? = some q → ∀ r ∈ q.consumed, 0 < held r

variable {e : Entry} {s s' : Session} {held : Holdings} {err : Error}

/-- What such an entry finds in what is there. -/
theorem question_accepts {ask : Heap → Except Stop Reply} {r : Ref} {kind : Kind} {operation : String} {h : Heap}
    (balanced : h.Balanced held) (live : h.Lendable r) (asks : e.question? = some ask)
    (wanted : e.wanted? = some (r, kind, operation)) :
    (r = none ∧ ask h = refuse (.nullReference operation)) ∨
      ∃ v, h.view r = .ok v ∧ AcceptsIff (v.kind = kind) (.kindMismatch kind v.kind) (ask h) := by
  cases r with
  | none =>
    refine Or.inl ⟨rfl, ?_⟩
    cases e <;> simp only [wanted?, Option.some.injEq, Prod.mk.injEq, reduceCtorEq] at wanted <;>
      obtain ⟨rfl, rfl, rfl⟩ := wanted <;> cases asks <;> rfl
  | some a =>
    obtain ⟨b, found⟩ := live a rfl
    have known := balanced.known found
    obtain ⟨v, stores⟩ := balanced.coherent.typed found known
    have viewed := Heap.view_stores known found stores
    refine Or.inr ⟨v, viewed, ?_⟩
    cases e <;> simp only [wanted?, Option.some.injEq, Prod.mk.injEq, reduceCtorEq] at wanted <;>
      obtain ⟨rfl, rfl, rfl⟩ := wanted <;> cases asks
    case strValue.refl => exact (Heap.textValue_accepts viewed).map _
    case listSize.refl =>
      have elements := Heap.elements_accepts known found stores (Or.inl rfl) "wycc_list_size"
      exact (elements.map fun x => x.2.length).map _
    case setSize.refl =>
      have elements := Heap.elements_accepts known found stores (Or.inr (Or.inl rfl)) "wycc_set_size"
      exact (elements.map fun x => x.2.length).map _

theorem asks_of_wanted {r : Ref} {kind : Kind} {operation : String} (wanted : e.wanted? = some (r, kind, operation)) :
    ∃ ask, e.question? = some ask ∧ r ∈ e.objects := by
  cases e <;> simp only [wanted?, Option.some.injEq, Prod.mk.injEq, reduceCtorEq] at wanted <;>
    exact ⟨_, rfl, wanted.1 ▸ List.mem_cons_self⟩

theorem wanted_of_asks {ask : Heap → Except Stop Reply} (asks : e.question? = some ask) :
    ∃ r kind operation, e.wanted? = some (r, kind, operation) ∧ r ∈ e.objects := by
  cases e <;> simp only [question?, reduceCtorEq] at asks <;> exact ⟨_, _, _, rfl, List.mem_cons_self⟩

/-- So such an entry is refused for a null or for what is of another kind, and for nothing else. -/
theorem question_refused_iff {ask : Heap → Except Stop Reply} {r : Ref} {kind : Kind} {operation : String} {h : Heap}
    (balanced : h.Balanced held) (live : h.Lendable r) (asks : e.question? = some ask)
    (wanted : e.wanted? = some (r, kind, operation)) :
    ask h = refuse err ↔ (r = none ∧ err = .nullReference operation) ∨
      ∃ v, h.view r = .ok v ∧ v.kind ≠ kind ∧ err = .kindMismatch kind v.kind := by
  rcases question_accepts balanced live asks wanted with
    ⟨rfl, refused⟩ | ⟨v, viewed, ⟨same, x, answered⟩ | ⟨other, refused⟩⟩
  · rw [refused]
    constructor
    · rintro ⟨⟩
      exact Or.inl ⟨rfl, rfl⟩
    · rintro (⟨_, rfl⟩ | ⟨v, viewed, _⟩)
      · rfl
      · cases viewed
  · rw [answered]
    constructor
    · rintro ⟨⟩
    · rintro (⟨rfl, _⟩ | ⟨v', viewed', other, _⟩)
      · cases viewed
      · cases viewed.symm.trans viewed'
        exact absurd same other
  · rw [refused]
    constructor
    · rintro ⟨⟩
      exact Or.inr ⟨v, viewed, other, rfl⟩
    · rintro (⟨rfl, _⟩ | ⟨v', viewed', _, rfl⟩)
      · cases viewed
      · cases viewed.symm.trans viewed'
        rfl

/-- Where the objects are there, an entry fails when it is said to. -/
theorem failsWith_iff (balanced : s.heap.Balanced held) (live : ∀ r ∈ e.objects, s.heap.Lendable r) :
    e.FailsWith s err ↔ e.refusal? s = some err := by
  constructor
  · intro fails
    cases fails with
    | noText missing => exact refusal?_of_missing missing
    | refused counterpart ran => rw [refusal?_of_counterpart counterpart, Call.refusal?, ran]
    | null wanted =>
      obtain ⟨ask, asks, object⟩ := asks_of_wanted wanted
      have refused := (question_refused_iff balanced (live _ object) asks wanted).mpr (Or.inl ⟨rfl, rfl⟩)
      rw [refusal?_of_question asks, refused]
    | otherKind wanted viewed other =>
      obtain ⟨ask, asks, object⟩ := asks_of_wanted wanted
      have refused := (question_refused_iff balanced (live _ object) asks wanted).mpr (Or.inr ⟨_, viewed, other, rfl⟩)
      rw [refusal?_of_question asks, refused]
  · intro refused
    unfold refusal? at refused
    split at refused
    · rename_i missing
      cases refused
      exact .noText missing
    · rename_i c missing counterpart
      unfold Call.refusal? at refused
      split at refused
      · rename_i ran
        cases refused
        exact .refused counterpart ran
      · cases refused
    · rename_i ask missing counterpart asks
      obtain ⟨r, kind, operation, wanted, object⟩ := wanted_of_asks asks
      split at refused
      · rename_i answered
        cases refused
        rcases (question_refused_iff balanced (live r object) asks wanted).mp answered with
          ⟨rfl, rfl⟩ | ⟨v, viewed, other, rfl⟩
        · exact .null wanted
        · exact .otherKind wanted viewed other
      · cases refused
    · cases refused

/-- An entry fails only if its request is refused, if it has one. -/
theorem refused_of_failsWith {q : Request} (asked : e.request? = some q) (fails : e.FailsWith s err) :
    ∃ h, q.run.run s.heap = (refuse err, h) := by
  cases fails with
  | noText missing =>
    unfold missing? at missing
    split at missing <;> cases missing <;> cases asked
  | refused counterpart ran =>
    rw [Call.run_request ((counterpart_request counterpart).trans asked)] at ran
    obtain ⟨refused, _⟩ := Session.conclude_eq_error.mp ran
    exact ⟨_, Prod.ext refused rfl⟩
  | null wanted | otherKind wanted =>
    unfold wanted? at wanted
    split at wanted <;> cases wanted <;> cases asked

theorem children_of_request {v : Value} (asked : e.request? = some (.box v)) : v.children = [] := by
  cases e <;> simp only [request?, Option.some.injEq, Option.map_eq_some_iff, reduceCtorEq, Request.box.injEq] at asked
  case boxStr =>
    obtain ⟨bytes, rfl, rfl⟩ := asked
    rfl
  case recordPut =>
    obtain ⟨bytes, _, other⟩ := asked
    cases other
  all_goals
    subst asked
    rfl

/-- An entry passes on to the heap only objects that it is given. -/
theorem request_objects {q : Request} (asked : e.request? = some q) : ∀ r ∈ q.objects, r ∈ e.objects := by
  cases e <;> simp only [request?, Option.some.injEq, Option.map_eq_some_iff, reduceCtorEq] at asked
  case boxStr =>
    obtain ⟨bytes, _, rfl⟩ := asked
    simp [Request.objects]
  case recordPut =>
    obtain ⟨bytes, _, rfl⟩ := asked
    simp [Request.objects, objects, Insertion.container, Insertion.item]
  all_goals
    subst asked
    simp [Request.objects, objects, Insertion.container, Insertion.item]

/-- Nor does it look at others. -/
theorem inspected_objects : ∀ r ∈ e.inspected, r ∈ e.objects := by
  cases e <;> simp [inspected, objects]

/-- What a fair client asks for is permitted, or it is an insertion that is refused before anything happens. -/
theorem Fair.permitted (fair : e.Fair s held) (balanced : s.heap.Balanced held) :
    (Operation.entry e).Permitted s.heap held ∨
      ∃ i err, e.request? = some (.insert i) ∧ i.run.run s.heap = (refuse err, s.heap) := by
  have seen : ∀ r ∈ (Operation.entry e).inspected, s.heap.Lendable r := fun r member =>
    fair.live r (inspected_objects r member)
  have accepted : ∀ q, e.request? = some q → (∀ err h, q.run.run s.heap ≠ (refuse err, h)) → ∀ r ∈ q.consumed,
      0 < held r := by
    intro q asked accepts
    refine fair.covered (fun err fails => ?_) q asked
    obtain ⟨h, refused⟩ := refused_of_failsWith asked fails
    exact accepts err h refused
  cases asked : e.request? with
  | none => exact Or.inl ⟨fun q some => (by cases asked.symm.trans some), seen⟩
  | some q =>
    have permit : q.Permitted s.heap held → (Operation.entry e).Permitted s.heap held := by
      refine fun permitted => ⟨fun q' some => ?_, seen⟩
      cases asked.symm.trans some
      exact permitted
    have live : ∀ r ∈ q.objects, s.heap.Lendable r := fun r member => fair.live r (request_objects asked r member)
    cases q with
    | box v =>
      refine Or.inl (permit fun r => ?_)
      rw [children_of_request asked]
      exact Nat.zero_le _
    | boxChar code => exact Or.inl (permit trivial)
    | newTuple arity => exact Or.inl (permit trivial)
    | boxRendering r | retain r => exact Or.inl (permit (live r List.mem_cons_self))
    | release r deep =>
      cases r with
      | none => exact Or.inl (permit (Or.inl rfl))
      | some a =>
        obtain ⟨b, found⟩ := live (some a) List.mem_cons_self a rfl
        refine Or.inl (permit (Or.inr (accepted _ asked (fun err h refused => ?_) _ List.mem_cons_self)))
        exact balanced.coherent.release_accepted (balanced.known found) found deep err h
          (Action.run_error_of_map refused)
    | insert i =>
      have container := live i.container List.mem_cons_self
      have item := live i.item (List.mem_cons_of_mem _ List.mem_cons_self)
      -- An accepted insertion cannot fail any more, so its item has to be owned; a refused one needs nothing.
      cases planned : i.plan s.heap with
      | ok placement =>
        refine Or.inl (permit ⟨container, Or.inr (accepted _ asked (fun err h refused => ?_) _ List.mem_cons_self)⟩)
        cases planned.symm.trans (Insertion.plan_of_refused balanced refused).1
      | error stop =>
        cases stop with
        | error err => exact Or.inr ⟨i, err, rfl, by rw [Insertion.run_eq, planned]; rfl⟩
        | fault f => exact absurd planned (Insertion.plan_answers balanced.guarded container.safe item.safe f)

end Entry

variable {s s' : Session} {held : Holdings} {last : Option Error}

/-- Between operations nothing is noted that was not acted on. -/
theorem ClientRun.journal (run : ClientRun s held) : s.heap.journal = [] := by
  induction run with
  | start begun => rw [begun]
  | operate op run steady permitted done ih =>
    rcases Operation.perform_cases steady run.balanced.guarded (fun r member => (permitted.2 r member).safe) done with
      ⟨_, same⟩ | ⟨q, outcome, h, _, _, _, heap⟩
    · rw [same, ih]
    · rw [heap]
  | beside _ same ih => rw [same, ih]

/-- A fair client goes on with what the entry leaves it, and no element is freed that cannot be given back. -/
theorem Entry.Fair.step {e : Entry} (fair : e.Fair s held) (run : ClientRun s held) :
    ∃ reply s', e.perform.run s = .ok (reply, s') ∧ ClientRun s' ((Operation.entry e).settle s.heap held) ∧
      e.noted s = [] := by
  have balanced := run.balanced
  have silent : s.heap.noted = [] := by rw [Heap.noted, run.journal, List.filterMap_nil]
  rcases fair.permitted balanced with permitted | ⟨i, err, asked, refused⟩
  · have steady : (Operation.entry e).Steady := fun on => by simp
    obtain ⟨x, s', finished, _⟩ := Operation.perform_balanced balanced steady permitted
    have next := run.operate (.entry e) steady permitted finished
    rw [Operation.perform, StateT.run_map] at finished
    obtain ⟨⟨reply, t⟩, done, same⟩ := ok_of_bind_ok finished
    cases same
    refine ⟨reply, _, done, next, ?_⟩
    cases asked : e.request? with
    | none => rw [noted, asked]
    | some q =>
      rw [noted, asked]
      exact (q.noted_run balanced (permitted.1 q asked)).trans silent
  · rcases perform_request asked s with ⟨f, h, stopped, _⟩ | ⟨_, h, reply, s', same, _, done, heap⟩
    · cases refused.symm.trans stopped
    · cases refused.symm.trans same
      have settled : (Operation.entry e).settle s.heap held = held := by
        rw [Operation.settle, Operation.request?, asked]
        dsimp only
        rw [Request.run, refused]
        rfl
      have kept : s'.heap = s.heap := by rw [heap, ← run.journal]
      refine ⟨reply, s', done, ?_, ?_⟩
      · rw [settled]
        exact run.beside kept
      · rw [noted, asked]
        dsimp only
        rw [Request.run, refused]
        exact silent

/-- What a fair client comes to that has cleared the slot and then makes calls on one thread. The last error is
that of the last call that has failed. -/
inductive Polled : Session → Holdings → Option Error → Prop
  | cleared {s s' : Session} {held : Holdings} {reply : Reply} : ClientRun s held →
      Entry.clearError.perform.run s = .ok (reply, s') → Polled s' held none
  | succeeded {s s' : Session} {held : Holdings} {last : Option Error} {reply : Reply} (e : Entry) :
      Polled s held last → e.Ordinary → e.Fair s held → (∀ err, ¬ e.FailsWith s err) →
      e.perform.run s = .ok (reply, s') → Polled s' ((Operation.entry e).settle s.heap held) last
  | failed {s s' : Session} {held : Holdings} {last : Option Error} {reply : Reply} {err : Error} (e : Entry) :
      Polled s held last → e.Ordinary → e.Fair s held → e.FailsWith s err →
      e.perform.run s = .ok (reply, s') → Polled s' ((Operation.entry e).settle s.heap held) (some err)

namespace Polled

/-- Polling is what a client may do. -/
theorem client (polled : Polled s held last) : ClientRun s held := by
  induction polled with
  | cleared run done =>
    cases done
    exact run.beside rfl
  | succeeded e _ _ fair _ done ih | failed e _ _ fair _ done ih =>
    obtain ⟨_, _, same, next, _⟩ := fair.step ih
    cases same.symm.trans done
    exact next

/-- One more call leaves the slot as it is, or leaves in it why it has failed. -/
theorem step {e : Entry} {reply : Reply} (run : ClientRun s held) (ordinary : e.Ordinary)
    (fair : e.Fair s held) (done : e.perform.run s = .ok (reply, s')) :
    (∀ err, ¬ e.FailsWith s err) ∧ s'.lastError = s.lastError ∨
      ∃ err, e.FailsWith s err ∧ s'.lastError = some err ∧ reply = e.failure err := by
  obtain ⟨_, _, _, _, silent⟩ := fair.step run
  obtain ⟨slot, returned⟩ := Entry.perform_slot ordinary done
  have fails : ∀ err, e.FailsWith s err ↔ e.refusal? s = some err := fun _ => e.failsWith_iff run.balanced fair.live
  rw [Entry.recorded, silent, List.append_nil] at slot
  cases refusal : e.refusal? s with
  | none =>
    rw [refusal] at slot fails
    exact Or.inl ⟨fun err failing => (by cases (fails err).mp failing), slot⟩
  | some err =>
    rw [refusal] at slot
    exact Or.inr ⟨err, (fails err).mpr refusal, slot, returned err refusal⟩

/-- The slot has the error last recorded. -/
theorem lastError (polled : Polled s held last) : s.lastError = last := by
  induction polled with
  | cleared run done =>
    cases done
    rfl
  | succeeded e polled ordinary fair succeeds done ih =>
    rcases step polled.client ordinary fair done with ⟨_, same⟩ | ⟨err, fails, _⟩
    · exact same.trans ih
    · exact absurd fails (succeeds err)
  | failed e polled ordinary fair fails done _ =>
    rcases step polled.client ordinary fair done with ⟨never, _⟩ | ⟨err, fails', slot, _⟩
    · exact absurd fails (never _)
    · have here := (e.failsWith_iff polled.client.balanced fair.live).mp fails
      rw [slot, ← here, ← (e.failsWith_iff polled.client.balanced fair.live).mp fails']

end Polled

end CountedBox
