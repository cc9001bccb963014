import CountedBox.Proofs.Ownership.Client
import CountedBox.Proofs.Tracking.Registered

namespace CountedBox

/-! Nothing that is asked about an unknown address succeeds. -/

theorem bind_ne_ok {ε α β : Type} {x : Except ε α} {f : α → Except ε β} (failing : ∀ a, x ≠ .ok a)
    (b : β) : x >>= f ≠ .ok b := by
  intro done
  obtain ⟨a, given, _⟩ := ok_of_bind_ok done
  exact failing a given

/-- An answer that is no success is a refusal. -/
theorem refuse_of_answers {α : Type} {x : Except Stop α} (answers : Answers NoFault x) (failing : ∀ a, x ≠ .ok a) :
    ∃ e, x = refuse e := by
  rcases x with (e | f) | a
  · exact ⟨e, rfl⟩
  · exact absurd rfl (answers f)
  · exact absurd rfl (failing a)

namespace Heap

variable {h : Heap} {a : Address}

/-- An address that is not registered is not located. -/
theorem locate_ne_ok (unknown : ¬ h.Knows a) (operation : String) (b : Located) :
    h.locate (some a) operation ≠ .ok b := by
  rw [locate_unknown unknown]
  simp [refuse]

theorem view_ne_ok (unknown : ¬ h.Knows a) (v : Value) : h.view (some a) ≠ .ok v := by
  rw [view, locate_unknown unknown]
  simp

theorem elements_ne_ok (unknown : ¬ h.Knows a) (kind : Kind) (operation : String) (x : Located × List Ref) :
    h.elements (some a) kind operation ≠ .ok x :=
  bind_ne_ok (locate_ne_ok unknown operation) x

theorem fields_ne_ok (unknown : ¬ h.Knows a) (operation : String) (x : Located × Fields) :
    h.fields (some a) operation ≠ .ok x :=
  bind_ne_ok (locate_ne_ok unknown operation) x

/-- A comparison with such an address does not succeed, since both sides are viewed. -/
theorem equals_ne_ok {r s : Ref} (unknown : ¬ h.Knows a) (passed : some a = r ∨ some a = s) (b : Bool) :
    h.equals r s ≠ .ok b := by
  unfold equals depth equalsWithin
  split
  · rename_i same
    subst same
    rcases passed with rfl | rfl <;> exact bind_ne_ok (view_ne_ok unknown) b
  · rcases passed with rfl | rfl
    · exact bind_ne_ok (view_ne_ok unknown) b
    · intro done
      obtain ⟨v, _, rest⟩ := ok_of_bind_ok done
      exact bind_ne_ok (view_ne_ok unknown) b rest

end Heap

/-- Neither a container nor an item of that kind is accepted. -/
theorem Insertion.plan_ne_ok {h : Heap} {a : Address} {i : Insertion} (unknown : ¬ h.Knows a)
    (passed : some a = i.container ∨ some a = i.item) (placement : Placement) : i.plan h ≠ .ok placement := by
  intro planned
  obtain ⟨_, checked, placed⟩ := ok_of_bind_ok planned
  rcases passed with container | item
  · cases i <;> cases container
    · exact bind_ne_ok (Heap.elements_ne_ok unknown _ _) _ placed
    · exact bind_ne_ok (Heap.elements_ne_ok unknown _ _) _ placed
    · exact bind_ne_ok (Heap.elements_ne_ok unknown _ _) _ placed
    · exact bind_ne_ok (Heap.fields_ne_ok unknown _) _ placed
  · obtain ⟨⟨v, viewed⟩, _⟩ := Heap.checkInsert_ok checked
    rw [← item] at viewed
    exact Heap.view_ne_ok unknown v viewed

/-- So an insertion with one is refused, and the heap is as it was. -/
theorem Insertion.run_unknown {h : Heap} {a : Address} {i : Insertion} (coherent : h.Coherent)
    (tracking : h.tracking = true) (unknown : ¬ h.Knows a) (passed : some a = i.container ∨ some a = i.item) :
    ∃ e, i.run.run h = (refuse e, h) := by
  have answers := plan_answers (i := i) (coherent.guarded tracking) (coherent.safe tracking _)
    (coherent.safe tracking _)
  obtain ⟨e, refused⟩ := refuse_of_answers answers (plan_ne_ok unknown passed)
  exact ⟨e, by rw [run_eq, refused]; rfl⟩

/-! Attempts that fail and leave the heap alone. -/

section Fails

variable {α β : Type} {s : Session}

/-- The attempt is refused, and the heap stays the same. -/
def Fails (m : Attempt α) (s : Session) : Prop :=
  ∃ e s', m.run.run s = .ok (.error e, s') ∧ s'.heap = s.heap

theorem fails_ask {f : Heap → Except Stop α} (answers : Answers NoFault (f s.heap)) (failing : ∀ x, f s.heap ≠ .ok x) :
    Fails (askHeap f) s := by
  obtain ⟨e, refused⟩ := refuse_of_answers answers failing
  exact ⟨e, s, by simp [askHeap, ExceptT.run, ExceptT.mk, StateT.run, refused], rfl⟩

theorem fails_onHeap {a : Action α} {e : Error} (journal : s.heap.journal = [])
    (refused : a.run s.heap = (refuse e, s.heap)) : Fails (onHeap a) s := by
  refine ⟨e, s.adopt s.heap, by rw [run_onHeap, refused]; rfl, ?_⟩
  rw [Session.adopt_heap, ← journal]

theorem fails_bind {m : Attempt α} {f : α → Attempt β} (fails : Fails m s) : Fails (m >>= f) s := by
  obtain ⟨e, s', run, same⟩ := fails
  exact ⟨e, s', by rw [ExceptT.run_bind, StateT.run_bind, run]; rfl, same⟩

theorem fails_map {m : Attempt α} {g : α → β} (fails : Fails m s) : Fails (g <$> m) s := by
  obtain ⟨e, s', run, same⟩ := fails
  exact ⟨e, s', by rw [ExceptT.run_map, StateT.run_map, run]; rfl, same⟩

/-- An attempt that starts with a given text fails without it, and otherwise if the rest fails. -/
theorem fails_argument {given : Except Error α} {f : α → Attempt β} (rest : ∀ x, Fails (f x) s) :
    Fails (ExceptT.mk (pure given) >>= f) s := by
  cases given with
  | error e => exact ⟨e, s, rfl, rfl⟩
  | ok x => exact rest x

theorem fails_log {m : Attempt α} {event : Log.Event} (fails : Fails m (s.log event)) :
    Fails (do log event; m) s := by
  obtain ⟨e, s', run, same⟩ := fails
  exact ⟨e, s', run, same.trans (s.log_heap event)⟩

/-- A failure is settled by the answer for it and recorded in the slot. -/
theorem settle_of_fails {attempt : Attempt α} {ok : α → β} {failed : Error → β} (fails : Fails attempt s) :
    ∃ e s', (settle attempt ok failed).run s = .ok (failed e, s') ∧ s'.heap = s.heap ∧
      s'.lastError = some e := by
  obtain ⟨e, s', run, same⟩ := fails
  refine ⟨e, s'.record e, ?_, (s'.record_heap e).trans same, rfl⟩
  rw [settle, StateT.run_bind, run]
  rfl

end Fails

namespace Entry

/-- The references to objects among the arguments. -/
def objects : Entry → List Ref
  | objStr r | boolValue r | intValue r | strValue r | listSize r | setSize r | incrBox r | debugObj r => [r]
  | listGet r _ | tupleGet r _ | recordGet r _ | derefBox r _ => [r]
  | listAdd container item | setAdd container item | tupleSet container _ item => [container, item]
  | recordPut container _ item | equals container item => [container, item]
  | _ => []

/-- What an entry returns in place of a result. -/
def failure (e : Error) : Entry → Reply
  | boolValue _ | intValue _ | equals _ _ => .int 0
  | strValue _ => .bytes none
  | listSize _ | setSize _ => .int (-1)
  | listAdd _ _ | tupleSet _ _ _ | recordPut _ _ _ => .int e.code
  | setAdd _ _ => .int (-e.code)
  | debugStr _ | debugObj _ | clearError => .done
  | _ => .ref none

/-- An entry that is given an address that is not registered fails, and changes no box. -/
theorem perform_unknown {e : Entry} {s : Session} {a : Address} (coherent : s.heap.Coherent)
    (tracking : s.heap.tracking = true) (journal : s.heap.journal = []) (unknown : ¬ s.heap.Knows a)
    (passed : some a ∈ e.objects) :
    ∃ err s', e.perform.run s = .ok (e.failure err, s') ∧ s'.heap = s.heap ∧ s'.lastError = some err := by
  have guarded := coherent.guarded tracking
  have safe : ∀ r, s.heap.Safe NoFault r := coherent.safe tracking
  have unseen := Heap.view_ne_ok unknown
  have inserted : ∀ i : Insertion, some a = i.container ∨ some a = i.item →
      ∃ e, i.run.run s.heap = (refuse e, s.heap) := fun i => Insertion.run_unknown coherent tracking unknown
  cases e with
  | objStr r =>
    cases List.mem_singleton.mp passed
    obtain ⟨err, refused⟩ := refuse_of_answers (guarded.renderTop_answers (safe (some a))) (bind_ne_ok unseen)
    -- What an entry asks first already needs a box at the address; so it goes with each of them.
    exact settle_of_fails (fails_onHeap journal (by rw [run_boxRendering, refused]))
  | boolValue r =>
    cases List.mem_singleton.mp passed
    exact settle_of_fails (fails_map (fails_ask (guarded.boolValue_answers (safe _)) (bind_ne_ok unseen)))
  | intValue r =>
    cases List.mem_singleton.mp passed
    exact settle_of_fails (fails_ask (guarded.intValue_answers (safe _)) (bind_ne_ok unseen))
  | strValue r =>
    cases List.mem_singleton.mp passed
    exact settle_of_fails (fails_ask (guarded.textValue_answers (safe _)) (bind_ne_ok unseen))
  | listSize list =>
    cases List.mem_singleton.mp passed
    exact settle_of_fails (fails_map (fails_ask (guarded.listSize_answers (safe _))
      (bind_ne_ok (Heap.elements_ne_ok unknown _ _))))
  | setSize set =>
    cases List.mem_singleton.mp passed
    exact settle_of_fails (fails_map (fails_ask (guarded.setSize_answers (safe _))
      (bind_ne_ok (Heap.elements_ne_ok unknown _ _))))
  | listGet list i =>
    cases List.mem_singleton.mp passed
    exact settle_of_fails (fails_ask (guarded.itemAt_answers (safe _) (Or.inl rfl) _ _)
      (bind_ne_ok (Heap.elements_ne_ok unknown _ _)))
  | tupleGet tuple i =>
    cases List.mem_singleton.mp passed
    exact settle_of_fails (fails_ask (guarded.itemAt_answers (safe _) (Or.inr (Or.inr rfl)) _ _)
      (bind_ne_ok (Heap.elements_ne_ok unknown _ _)))
  | recordGet record field =>
    cases List.mem_singleton.mp passed
    exact settle_of_fails (fails_argument fun name => fails_ask (guarded.recordGet_answers (safe _) name)
      (bind_ne_ok (Heap.fields_ne_ok unknown _)))
  | incrBox r =>
    cases List.mem_singleton.mp passed
    have refused : (retain (some a)).run s.heap = (refuse (.unknownObject a), s.heap) := by
      rw [run_retain, Heap.addReference, Heap.locate_unknown unknown]
    exact settle_of_fails (fails_bind (fails_onHeap journal refused))
  | derefBox r f =>
    cases List.mem_singleton.mp passed
    have refused : ∀ deep, (release (some a) deep).run s.heap = (refuse (.unknownObject a), s.heap) := by
      intro deep
      rw [run_release, Heap.dropReference, Heap.locate_unknown unknown]
    exact settle_of_fails (fails_bind (fails_onHeap journal (refused _)))
  | debugObj r =>
    cases List.mem_singleton.mp passed
    have asked : Fails (askHeap fun h => h.renderTop (some a)) (s.log (.debugObject (some a))) :=
      fails_ask (by rw [s.log_heap]; exact guarded.renderTop_answers (safe _))
        (by rw [s.log_heap]; exact bind_ne_ok unseen)
    exact settle_of_fails (fails_log (fails_bind asked))
  | equals x y =>
    have either : some a = x ∨ some a = y := by simpa using List.mem_pair.mp passed
    exact settle_of_fails (fails_map (fails_ask (guarded.equals_answers (safe _) (safe _))
      (Heap.equals_ne_ok unknown either)))
  | listAdd list item =>
    obtain ⟨err, refused⟩ := inserted (.listAdd list item) (List.mem_pair.mp passed)
    exact settle_of_fails (fails_onHeap journal (Action.run_error_of_map refused))
  | setAdd set item =>
    obtain ⟨err, refused⟩ := inserted (.setAdd set item) (List.mem_pair.mp passed)
    exact settle_of_fails (fails_onHeap journal (Action.run_error_of_map refused))
  | tupleSet tuple i item =>
    obtain ⟨err, refused⟩ := inserted (.tupleSet tuple (index i) item) (List.mem_pair.mp passed)
    exact settle_of_fails (fails_onHeap journal (Action.run_error_of_map refused))
  | recordPut record field item =>
    refine settle_of_fails (fails_argument fun name => ?_)
    obtain ⟨err, refused⟩ := inserted (.recordPut record name item) (List.mem_pair.mp passed)
    exact fails_onHeap journal (Action.run_error_of_map refused)
  | _ => cases passed

end Entry

/-- One thing that may happen to a session in which tracking is on. -/
inductive TrackedStep (s : Session) : Session → Prop
  | operate {s' : Session} {x : Except Error Reply} (op : Operation) : op.Steady → op.Existing s.heap →
      op.perform.run s = .ok (x, s') → TrackedStep s s'
  | foreign (tag count : Int) : TrackedStep s { s with heap := (s.heap.placeForeign tag count).2 }
  | beside {s' : Session} : s'.heap = s.heap → TrackedStep s s'

/-- Any number of such steps. -/
abbrev Session.Later : Session → Session → Prop := Relation.ReflTransGen TrackedStep

namespace TrackedRun

variable {s t : Session}

/-- A stretch of a run is a run, and what was not registered is left alone by it. -/
theorem later (run : TrackedRun s) (steps : s.Later t) : TrackedRun t ∧ s.heap.Spares t.heap := by
  induction steps with
  | refl => exact ⟨run, .refl s.heap⟩
  | @tail t u _ step ih =>
    obtain ⟨middle, spared⟩ := ih
    cases step with
    | operate op steady existing done =>
      have changes :=
        Operation.perform_changes steady existing middle.guarded (fun r _ => middle.safe r) done
      exact ⟨.operate op middle steady existing done, spared.trans (changes.spares middle.tracking)⟩
    | foreign tag count => exact ⟨.foreign tag count middle, spared.trans (.placeForeign t.heap tag count)⟩
    | beside same => exact ⟨.beside middle same, by rwa [same]⟩

/-- Stale references do no harm. With tracking on, whatever references are misused: what the registry
knows is laid out by the kind it was boxed with; every operation finishes, gives the same answer and
leaves the same if there is nothing but what the registry knows, and touches nothing else; and a box
that was freed stays unknown for good, as its address is not given out again: every entry that is given
it fails, records the error and leaves the whole heap as it was. -/
theorem stale_harmless (run : TrackedRun s) :
    (∀ (a : Address) (kind : Kind), s.heap.registry[a]? = some kind →
      ∃ b v, s.heap.boxes[a]? = some b ∧ b.Stores v ∧ v.kind = kind) ∧
    (∀ op : Operation, op.Steady → op.Existing s.heap → ∃ x s' t', op.perform.run s = .ok (x, s') ∧
      op.perform.run { s with heap := s.heap.registered } = .ok (x, t') ∧ s.heap.Spares s'.heap ∧
      t'.heap.registry = s'.heap.registry ∧
      (∀ a : Address, s'.heap.registry.contains a = true → t'.heap.boxes[a]? = s'.heap.boxes[a]?) ∧
      t'.heap.statistics = s'.heap.statistics ∧ t'.lastError = s'.lastError ∧ t'.debug = s'.debug) ∧
    ∀ (a : Address) (kind : Kind) (t u : Session), s.heap.registry[a]? = some kind → s.Later t →
      t.heap.isLive (some a) = false → t.Later u → ∀ e : Entry, some a ∈ e.objects →
        ∃ err u', e.perform.run u = .ok (e.failure err, u') ∧ u'.heap = u.heap ∧ u'.lastError = some err := by
  have coherent := run.coherent
  have tracking := run.tracking
  refine ⟨?_, ?_, ?_⟩
  · intro a kind entry
    obtain ⟨b, found, tag⟩ := coherent.registered entry
    have known : s.heap.Knows a := fun _ => by
      rw [Std.TreeMap.contains_eq_isSome_getElem?, entry]
      rfl
    obtain ⟨v, stores⟩ := coherent.typed found known
    have same : Kind.ofTag? kind.tag = some v.kind := tag ▸ stores.tagged
    rw [Kind.ofTag?_tag] at same
    exact ⟨b, v, found, stores, (Option.some.inj same).symm⟩
  · intro op steady existing
    obtain ⟨x, s', done⟩ := op.perform_tracked steady coherent tracking
    obtain ⟨t', doneT, alike, both⟩ := Operation.perform_registered steady existing coherent tracking done
    have changes := Operation.perform_changes steady existing run.guarded (fun r _ => run.safe r) done
    have on : s'.heap.tracking = true := changes.tracking.trans tracking
    have registry := alike.heap.registry both
    refine ⟨x, s', t', done, doneT, changes.spares tracking, registry.symm, ?_, ?_, alike.lastError.symm,
      alike.debug.symm⟩
    · intro a contained
      exact (alike.heap.boxes (fun _ => contained) (fun _ => registry ▸ contained)).symm
    · simp only [Heap.statistics, ← both, ← registry, ← alike.heap.boxed, ← alike.heap.freed]
  · intro a kind t u entry first freed second e passed
    obtain ⟨runT, sparedT⟩ := run.later first
    obtain ⟨runU, sparedU⟩ := runT.later second
    obtain ⟨b, found, _⟩ := coherent.registered entry
    -- The address was given out before it was freed, and none is given out twice.
    have old : a < t.heap.next := Nat.lt_of_lt_of_le (coherent.below found) sparedT.later
    have absent : u.heap.registry.contains a = false := (sparedU.unknown old freed).1
    have unknown : ¬ u.heap.Knows a := fun known => by
      cases (known runU.tracking).symm.trans absent
    exact Entry.perform_unknown runU.coherent runU.tracking runU.journal unknown passed

end TrackedRun

theorem numberInTuple_tracked : TrackedRun numberInTuple := by
  have number : TrackedRun { heap := { (({ tracking := true } : Heap).alloc (.int 1)).2 with journal := [] } } :=
    .operate (.call (.box (.int 1))) (.start (s := .initial true) rfl) (by simp [Operation.Steady])
      (by rintro q ⟨⟩ a member; cases member) rfl
  refine .operate (.call (.tupleOf [some 4096])) number (by simp [Operation.Steady]) ?_ rfl
  rintro q ⟨⟩ a member
  cases List.mem_singleton.mp member
  decide

/-- The session that follows when somebody gives back the number, which only the tuple holds. -/
def numberOverReleased : Session :=
  { heap := { numberInTuple.heap.remove 4096 .int false with journal := [] } }

/-- Comparing the tuple with the freed number is an error, and so is any other use of the number. -/
theorem stale_harmless_numberOverReleased :
    (∃ b v, numberInTuple.heap.boxes[(4096 : Address)]? = some b ∧ b.Stores v ∧ v.kind = .int) ∧
      ∃ err u', (Entry.equals (some 4097) (some 4096)).perform.run numberOverReleased = .ok (.int 0, u') ∧
        u'.heap = numberOverReleased.heap ∧ u'.lastError = some err := by
  have freed : numberInTuple.Later numberOverReleased :=
    .single (.operate (.entry (.derefBox (some 4096) 0)) (by simp [Operation.Steady])
      (by rintro q ⟨⟩; trivial) rfl)
  obtain ⟨layouts, _, stale⟩ := TrackedRun.stale_harmless numberInTuple_tracked
  exact ⟨layouts 4096 .int rfl, stale 4096 .int numberOverReleased numberOverReleased rfl freed rfl .refl
    (.equals (some 4097) (some 4096)) (List.mem_pair.mpr (Or.inr rfl))⟩

end CountedBox
