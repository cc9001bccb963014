import CountedBox.Proofs.Switching.Exact

namespace CountedBox

namespace Heap

/-- With tracking off an operation may run into a box that is gone. -/
def GoneUntracked (on : Bool) (fault : Fault) : Prop := on = false ∧ ∃ a, fault = .dangling a

namespace Exact

variable {h : Heap} {tracked : Address → Prop}

/-- The registry has an entry just for the tracked boxes that are there, under their kinds. -/
theorem registry_iff (exact : h.Exact tracked) (a : Address) (kind : Kind) :
    h.registry[a]? = some kind ↔ tracked a ∧ ∃ b, h.boxes[a]? = some b ∧ b.tag = kind.tag := by
  have listed := exact.listed a
  rw [Std.TreeMap.contains_eq_isSome_getElem?] at listed
  constructor
  · intro entry
    exact ⟨(listed.mp (by rw [entry]; rfl)).1, exact.coherent.registered entry⟩
  · rintro ⟨known, b, found, tag⟩
    obtain ⟨kind', entry⟩ := Option.isSome_iff_exists.mp (listed.mpr ⟨known, contains_found found⟩)
    obtain ⟨b', found', tag'⟩ := exact.coherent.registered (h := h.setTracking false) entry
    cases found.symm.trans found'
    have same : Kind.ofTag? kind.tag = Kind.ofTag? kind'.tag := by rw [← tag, ← tag']
    rw [Kind.ofTag?_tag, Kind.ofTag?_tag] at same
    rw [entry, Option.some.inj same]

/-- The statistics are right unless a box was made while tracking was off and it is on now. -/
theorem live_eq (exact : h.Exact tracked)
    (covered : h.tracking = false ∨ ∀ (a : Address) (b : Box), h.boxes[a]? = some b → tracked a) :
    h.statistics.live = h.boxes.size := by
  cases tracking : h.tracking with
  | false =>
    have ledger := exact.ledger
    simp only [statistics, tracking, Bool.false_eq_true, if_false]
    omega
  | true =>
    have all := covered.resolve_left (by simp [tracking])
    simp only [statistics, tracking, if_true]
    refine size_eq_of_contains fun a => (exact.listed a).trans (and_iff_right_of_imp fun there => ?_)
    rw [Std.TreeMap.contains_eq_isSome_getElem?] at there
    obtain ⟨b, found⟩ := Option.isSome_iff_exists.mp there
    exact all a b found

/-- Any reference is safe, but for the fault of one that is gone and not tracked. -/
theorem safe (exact : h.Exact tracked) (r : Ref) : h.Safe (GoneUntracked h.tracking) r := by
  intro a _ known missing
  refine ⟨?_, a, rfl⟩
  cases tracking : h.tracking with
  | false => rfl
  | true =>
    have there := ((exact.listed a).mp (known tracking)).2
    rw [Std.TreeMap.contains_eq_isSome_getElem?, missing] at there
    cases there

end Exact

/-- A heap stays exact, and the only fault to be expected of it, with tracking off, is that of a box that is gone. -/
theorem robust_exact (on : Bool) :
    Robust (GoneUntracked on) fun h => h.tracking = on ∧ ∃ tracked, h.Exact tracked where
  change := by
    rintro h h' ⟨same, tracked, exact⟩ step
    exact ⟨(Changes.tracking (.single step)).trans same, _, exact.change step⟩
  guarded := by
    rintro h ⟨rfl, tracked, exact⟩
    exact ⟨exact.coherent.registered, fun found _ => exact.coherent.typed found (knows_off h _),
      exact.coherent.acyclic, fun _ => exact.safe _⟩
  safe := by
    rintro h ⟨rfl, tracked, exact⟩ r
    exact exact.safe r

theorem Exact.guarded {h : Heap} {tracked : Address → Prop} (exact : h.Exact tracked) :
    h.Guarded (GoneUntracked h.tracking) := (robust_exact h.tracking).guarded ⟨rfl, tracked, exact⟩

end Heap

/-- What an operation that finishes does to the heap: it switches tracking, or makes changes. -/
theorem Operation.perform_switches {op : Operation} {s s' : Session} {x : Except Error Reply}
    {tracked : Address → Prop} (exact : s.heap.Exact tracked) (existing : op.Existing s.heap)
    (done : op.perform.run s = .ok (x, s')) :
    (∃ on, s'.heap = s.heap.setTracking on) ∨ s.heap.Changes s'.heap := by
  by_cases steady : op.Steady
  · exact Or.inr (perform_changes steady existing exact.guarded (fun r _ => exact.safe r) done)
  · simp only [Steady, not_forall, not_not] at steady
    obtain ⟨on, rfl⟩ := steady
    cases done
    exact Or.inl ⟨on, rfl⟩

theorem quiet_startLogging (build : Build) (env : Environment) (c : Config) (s : Session) :
    Quiet NoFault (startLogging build env c) s := by
  refine Or.inr ⟨(), _, rfl, ?_⟩
  dsimp only
  split <;> rfl

theorem quiet_setTarget (target : Channel) (s : Session) : Quiet NoFault (setTarget target) s :=
  quiet_bind (quiet_settle (quiet_flush s)) fun _ t _ =>
    Or.inr ⟨(), { t with debug := { t.debug with sink := ⟨.channel target, none, none⟩ } }, rfl, rfl⟩

/-- Setting up the program does nothing to the heap but switch tracking. -/
theorem startWith_switches {build : Build} {env : Environment} {c active : Config} {s s' : Session}
    (done : (startWith build env c).run s = .ok (active, s')) : ∃ on, s'.heap = s.heap.setTracking on := by
  unfold startWith at done
  simp only [StateT.run_bind, StateT.run_get, pure_bind] at done
  cases configured : s.config with
  | some known =>
    rw [configured] at done
    cases done
    exact ⟨s.heap.tracking, rfl⟩
  | none =>
    obtain ⟨_, s₁, opened, same₁⟩ := (quiet_startLogging build env c s).finishes
    let s₂ : Session := { s₁.log (.starting c) with heap := (s₁.log (.starting c)).heap.setTracking c.trackObjects }
    obtain ⟨_, s₃, aimed, same₃⟩ := (quiet_setTarget c.debugTarget s₂).finishes
    simp only [configured, StateT.run_bind, opened, ok_bind] at done
    change (setTarget c.debugTarget).run s₂ >>= _ = _ at done
    rw [aimed] at done
    cases done
    refine ⟨c.trackObjects, same₃.trans ?_⟩
    change (s₁.log (.starting c)).heap.setTracking c.trackObjects = s.heap.setTracking c.trackObjects
    rw [s₁.log_heap, same₁]

/-- The sessions that any operations lead to, with tracking switched at will, and the addresses that were
given out while it was on. With tracking on, stale references may be passed; with tracking off, an operation
that comes to a box that is gone does not finish. Setting up the program switches tracking, too; beside that
all but the heap may change at will. -/
inductive SwitchedRun : Session → (Address → Prop) → Prop
  | start {s : Session} {tracking : Bool} : s.heap = { tracking } → SwitchedRun s fun _ => False
  | operate {s s' : Session} {tracked : Address → Prop} {x : Except Error Reply} (op : Operation) :
      SwitchedRun s tracked → op.Existing s.heap → op.perform.run s = .ok (x, s') →
      SwitchedRun s' fun a => tracked a ∨ s.heap.TrackedSince s'.heap a
  | setUp {s s' : Session} {tracked : Address → Prop} {build : Build} {env : Environment} {c active : Config} :
      SwitchedRun s tracked → (startWith build env c).run s = .ok (active, s') → SwitchedRun s' tracked
  | beside {s s' : Session} {tracked : Address → Prop} : SwitchedRun s tracked → s'.heap = s.heap →
      SwitchedRun s' tracked

namespace SwitchedRun

variable {s : Session} {tracked : Address → Prop}

/-- Along a run with tracking switched the heap stays exact. -/
theorem exact (run : SwitchedRun s tracked) : s.heap.Exact tracked := by
  induction run with
  | start begun => exact begun ▸ .start _
  | @operate s s' tracked x op _ existing done ih =>
    rcases Operation.perform_switches ih existing done with ⟨on, switched⟩ | changes
    · rw [switched]
      exact (ih.setTracking on).extend rfl
    · exact ih.changes changes
  | setUp _ done ih =>
    obtain ⟨on, switched⟩ := startWith_switches done
    exact switched ▸ ih.setTracking on
  | beside _ same ih => exact same ▸ ih

/-- The registry, the counters and the headers stay coherent, however tracking is switched. The registry
lists what is there of what was boxed with tracking on, under the tag in its header. Every header has the tag
of a kind and a count that fits. What was boxed and not freed is there, so the number of live boxes is right
with tracking off, and with tracking on if all that is there was boxed with tracking on. Shutting down
finishes: it reads the headers of boxes that are there. And no operation breaks off but with tracking off, at
a box that is gone. In a run the address of a freed box is not given out again. -/
theorem records_coherent (run : SwitchedRun s tracked) :
    (∀ (a : Address) (kind : Kind), s.heap.registry[a]? = some kind ↔
      tracked a ∧ ∃ b, s.heap.boxes[a]? = some b ∧ b.tag = kind.tag) ∧
    (∀ (a : Address) (b : Box), s.heap.boxes[a]? = some b →
      (∃ kind : Kind, b.tag = kind.tag) ∧ 1 ≤ b.count ∧ b.count ≤ maxCount) ∧
    s.heap.boxed = s.heap.freed + s.heap.boxes.size ∧
    (s.heap.tracking = false ∨ (∀ (a : Address) (b : Box), s.heap.boxes[a]? = some b → tracked a) →
      s.heap.statistics.live = s.heap.boxes.size) ∧
    (∃ s', shutdown.run s = .ok (s.heap.statistics.live, s') ∧ s'.heap = s.heap) ∧
    ∀ op : Operation, (∃ x s', op.perform.run s = .ok (x, s')) ∨
      s.heap.tracking = false ∧ ∃ a, op.perform.run s = .error (.dangling a) := by
  have exact := run.exact
  refine ⟨exact.registry_iff, ?_, exact.ledger, exact.live_eq, shutdown_run exact.coherent.registered, ?_⟩
  · intro a b found
    obtain ⟨v, tag, _⟩ := exact.coherent.typed found (Heap.knows_off s.heap a)
    exact ⟨⟨v.kind, tag⟩, exact.coherent.counted found (Heap.knows_off s.heap a), exact.limited found⟩
  · intro op
    by_cases steady : op.Steady
    · have robust := Heap.robust_exact s.heap.tracking
      rcases Operation.perform_robust steady robust ⟨rfl, tracked, exact⟩ with
        ⟨_, stopped, off, a, rfl⟩ | finished
      · exact Or.inr ⟨off, a, stopped⟩
      · exact Or.inl finished
    · simp only [Operation.Steady, not_forall, not_not] at steady
      obtain ⟨on, rfl⟩ := steady
      exact Or.inl ⟨_, _, rfl⟩

end SwitchedRun

/-- A number was boxed with tracking on and another with tracking off, which is on again. -/
def halfTracked : Session :=
  let first : Heap := { (({ tracking := true } : Heap).alloc (.int 1)).2 with journal := [] }
  let second : Heap := { ((first.setTracking false).alloc (.int 2)).2 with journal := [] }
  { heap := second.setTracking true }

theorem halfTracked_run : ∃ tracked, SwitchedRun halfTracked tracked ∧ ∀ a, tracked a ↔ a = 4096 := by
  have begun : SwitchedRun (.initial true) fun _ => False := .start (s := .initial true) rfl
  have first := begun.operate (.call (.box (.int 1))) (by rintro q ⟨⟩ a member; cases member) rfl
  have off := first.operate (.call (.setTracking false)) (by rintro q ⟨⟩) rfl
  have second := off.operate (.call (.box (.int 2))) (by rintro q ⟨⟩ a member; cases member) rfl
  have on := second.operate (.call (.setTracking true)) (by rintro q ⟨⟩) rfl
  refine ⟨_, on, fun a => ⟨?_, ?_⟩⟩
  · rintro ((((none | ⟨_, low, high⟩) | ⟨_, low, high⟩) | ⟨⟨⟩, _⟩) | ⟨⟨⟩, _⟩)
    · exact none.elim
    · exact Nat.le_antisymm (Nat.le_of_lt_succ high) low
    · exact absurd (Nat.lt_of_le_of_lt low high) (Nat.lt_irrefl _)
  · rintro rfl
    exact Or.inl (Or.inl (Or.inl (Or.inr ⟨rfl, Nat.le_refl _, Nat.lt_succ_self _⟩)))

/-- The registry knows the first number only, and shutting down counts one live box where there are two. -/
theorem records_coherent_halfTracked :
    halfTracked.heap.registry[(4096 : Address)]? = some .int ∧
      halfTracked.heap.registry[(4097 : Address)]? = none ∧
      halfTracked.heap.boxed = halfTracked.heap.freed + 2 ∧
      ∃ s', shutdown.run halfTracked = .ok (1, s') ∧ s'.heap = halfTracked.heap := by
  obtain ⟨tracked, run, only⟩ := halfTracked_run
  obtain ⟨registry, _, counters, _, ends, _⟩ := SwitchedRun.records_coherent run
  refine ⟨(registry 4096 .int).mpr ⟨(only 4096).mpr rfl, _, rfl, rfl⟩, ?_, counters, ends⟩
  cases entry : halfTracked.heap.registry[(4097 : Address)]? with
  | none => rfl
  | some kind =>
    have known := ((registry 4097 kind).mp entry).1
    exact absurd ((only 4097).mp known) (by decide)

end CountedBox
