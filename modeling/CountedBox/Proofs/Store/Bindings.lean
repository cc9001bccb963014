import CountedBox.Proofs.Ownership.Kept
import CountedBox.Proofs.Rendering.Elements
import CountedBox.Proofs.Store.History
import CountedBox.Proofs.Text.Order

namespace CountedBox

/-- The item that the name was last bound to in the record at the address. -/
def History.lastBound (history : History) (a : Address) (name : String) : Option Ref :=
  ((history.insertionsAt a).filterMap (Insertion.bound? name)).getLast?

/-- Two references denote the same value. -/
def Heap.SameValue (h : Heap) (r s : Ref) : Prop := ∃ x, h.Denotes r x ∧ h.Denotes s x

/-- Two references are written the same. -/
def Heap.WrittenAlike (h : Heap) (r s : Ref) : Prop := ∃ text, h.render r = .ok text ∧ h.render s = .ok text

/-- The comparison answers whether two references stand for the same value. -/
theorem Heap.equals_iff_sameValue {h : Heap} {r s : Ref} (acyclic : h.Acyclic) (left : h.Proper r)
    (right : h.Proper s) : h.equals r s = .ok true ↔ h.SameValue r s := by
  obtain ⟨x, denotesR⟩ := left.denotes acyclic
  obtain ⟨y, denotesS⟩ := right.denotes acyclic
  rw [Heap.equals_true_iff acyclic left right denotesR denotesS]
  constructor
  · rintro rfl
    exact ⟨x, denotesR, denotesS⟩
  · rintro ⟨z, atR, atS⟩
    exact (denotesR.unique atR).trans (atS.unique denotesS)

/-- A record lists its names in the order of their bytes, and each once. -/
theorem keys_increasing (fields : Fields) : fields.keys.Pairwise fun m n => Text.utf8 m < Text.utf8 n :=
  fields.ordered_keys.imp fun less => Text.utf8_lt (compareOfLessAndEq_eq_lt.mp less)

/-- A name is among the keys just if something is bound to it. -/
theorem mem_keys_iff_isSome (fields : Fields) (name : String) : name ∈ fields.keys ↔ fields[name]?.isSome := by
  rw [Std.TreeMap.mem_keys, Std.TreeMap.mem_iff_isSome_getElem?]

/-- Records with the same names list them the same. -/
theorem keys_eq_iff (xs ys : Fields) :
    xs.keys = ys.keys ↔ ∀ name : String, xs[name]?.isSome = ys[name]?.isSome := by
  constructor
  · intro same name
    rw [Bool.eq_iff_iff, ← mem_keys_iff_isSome, ← mem_keys_iff_isSome, same]
  · intro same
    refine ((fields_eq_iff (f := fun _ => ()) (g := fun _ => ()) xs ys).mpr fun name => ?_).1
    have bound := same name
    cases atX : xs[name]? <;> cases atY : ys[name]? <;> simp_all

namespace RecordedRun

variable {s : Session} {held : Holdings} {history : History} {origins : Origins} {a b : Address}

/-- What was boxed as an empty record binds each name to the item it was last bound to. -/
theorem record_bindings (run : RecordedRun s held history origins) (fresh : origins a = some (.record ∅))
    (viewable : s.heap.Viewable (some a)) : ∃ fields : Fields, s.heap.view (some a) = .ok (.record fields) ∧
      ∀ name : String, fields[name]? = history.lastBound a name := by
  obtain ⟨v, viewed⟩ := viewable
  obtain ⟨first, origin, rfl⟩ := run.recorded.contents viewed
  cases fresh.symm.trans origin
  have grown := Value.grown_insertAll (.record ∅) (history.insertionsAt a)
  cases now : (Value.record ∅).insertAll (history.insertionsAt a) with
  | record fields =>
    rw [now] at grown viewed
    refine ⟨fields, viewed, fun name => ?_⟩
    rw [grown name, Std.TreeMap.getElem?_emptyc, Option.or_none]
    rfl
  | _ =>
    rw [now] at grown
    cases grown

/-- Records do not remember the order in which their names were bound. Two records that were made in a run, where
the address of a freed box is not given out again, hold what their names were bound to last, and report the
names in the order of their bytes. They are equal exactly if they bind the same names to equal values, and
written alike if what they bind is. -/
theorem records_forget_order (run : RecordedRun s held history origins)
    (freshA : origins a = some (.record ∅)) (freshB : origins b = some (.record ∅))
    (left : s.heap.Proper (some a)) (right : s.heap.Proper (some b)) :
    ∃ xs ys : Fields, s.heap.view (some a) = .ok (.record xs) ∧ s.heap.view (some b) = .ok (.record ys) ∧
      (∀ name : String, xs[name]? = history.lastBound a name ∧ ys[name]? = history.lastBound b name) ∧
      xs.keys.Pairwise (fun m n => Text.utf8 m < Text.utf8 n) ∧
      ys.keys.Pairwise (fun m n => Text.utf8 m < Text.utf8 n) ∧
      (xs.keys = ys.keys ↔ ∀ name, (history.lastBound a name).isSome = (history.lastBound b name).isSome) ∧
      (∃ answer, s.heap.equals (some a) (some b) = .ok answer ∧ (answer = true ↔
        ∀ name, Option.Rel s.heap.SameValue (history.lastBound a name) (history.lastBound b name))) ∧
      ((∀ name, Option.Rel s.heap.WrittenAlike (history.lastBound a name) (history.lastBound b name)) →
        s.heap.WrittenAlike (some a) (some b) ∧ s.heap.renderTop (some a) = s.heap.render (some a) ∧
          s.heap.renderTop (some b) = s.heap.render (some b)) := by
  have acyclic := run.client.balanced.coherent.acyclic
  obtain ⟨xs, viewedA, boundA⟩ := run.record_bindings freshA (left.viewable _ .refl)
  obtain ⟨ys, viewedB, boundB⟩ := run.record_bindings freshB (right.viewable _ .refl)
  simp only [← boundA, ← boundB]
  refine ⟨xs, ys, viewedA, viewedB, fun _ => ⟨rfl, rfl⟩, keys_increasing xs, keys_increasing ys, keys_eq_iff xs ys,
    ?_, fun alike => ⟨?_, ?_, ?_⟩⟩
  · obtain ⟨answer, compared⟩ := Heap.equals_answer acyclic left right
    refine ⟨answer, compared, ?_⟩
    have decided := Heap.equals_related acyclic left right viewedA viewedB
    rw [compared, Except.ok.injEq] at decided
    refine decided.trans (forall_congr' fun name => ?_)
    cases atX : xs[name]? with
    | none => cases ys[name]? <;> simp
    | some x =>
      cases atY : ys[name]? with
      | none => simp
      | some y =>
        rw [Option.rel_some_some, Option.rel_some_some]
        exact Heap.equals_iff_sameValue acyclic (left.element viewedA (mem_values_of_field atX))
          (right.element viewedB (mem_values_of_field atY))
  · have bound : ∀ name : String, Option.Rel (fun x y => s.heap.render x = s.heap.render y) xs[name]? ys[name]? := by
      intro name
      have related := alike name
      generalize xs[name]? = x at related ⊢
      generalize ys[name]? = y at related ⊢
      cases related with
      | some same =>
        obtain ⟨_, writtenX, writtenY⟩ := same
        exact .some (writtenX.trans writtenY.symm)
      | none => exact .none
    have same := Heap.render_record_congr acyclic left.viewable right.viewable viewedA viewedB bound
    obtain ⟨text, written⟩ := Heap.render_of_viewable acyclic left.viewable
    exact ⟨text, written, same ▸ written⟩
  · exact Heap.renderTop_eq_render viewedA (by simp)
  · exact Heap.renderTop_eq_render viewedB (by simp)

/-- A client binds a name in a record that nothing holds to another box that it holds. -/
theorem put (run : RecordedRun s held history origins) (record item : Ref) (field : String) {b : Located}
    {content : Value} {displaced : Option Ref} {h' : Heap} (holds : 0 < held item) (other : item ≠ record)
    (unheld : s.heap.occurrences record = 0)
    (placed : (Insertion.recordPut record field item).place s.heap = .ok (.store b content displaced))
    (carried : (Insertion.recordPut record field item).carryOut s.heap (.ok (.store b content displaced)) =
      (.ok .done, h')) :
    ∃ origins', RecordedRun { heap := { h' with journal := [] } } ((held.spend [item]).gain [])
      (history ++ [(.call (.recordPut record field item), .ok .done)]) origins' := by
  have balanced := run.client.balanced
  have viewable := balanced.viewable_of_holder (r := item) (by omega)
  have planned := Insertion.plan_of_place (balanced.checkInsert_unheld viewable other unheld _) placed
  have container : s.heap.Lendable record := by
    have accepted := Insertion.plan_store planned
    rintro a rfl
    cases accepted.container
    exact ⟨_, accepted.found⟩
  have ran : (Insertion.recordPut record field item).run.run s.heap = (.ok .done, h') := by
    rw [Insertion.run_eq, planned, carried]
  have done : (Operation.call (.recordPut record field item)).perform.run s = .ok (.ok .done, s.adopt h') :=
    (Call.run_request rfl s).trans (by rw [Request.run, ran]; rfl)
  have permitted : (Operation.call (.recordPut record field item)).Permitted s.heap held :=
    ⟨by rintro q ⟨⟩; exact ⟨container, Or.inr holds⟩, by rintro r ⟨⟩⟩
  have next := run.operate _ (by simp [Operation.Steady]) permitted done
  have asked : (Operation.call (.recordPut record field item)).request? =
      some (.insert (.recordPut record field item)) := rfl
  have heap := Operation.perform_heap asked ran done
  simp only [Operation.settle, asked, Request.run, ran] at next
  exact ⟨_, next.beside heap.symm⟩

end RecordedRun

/-- Two records have their one name bound to the number two, each to a box of its own. In the first the name was
bound before to the number one, which the client holds on to. -/
def reboundRecords_history : History :=
  [(.call .newRecord, .ok (.ref (some 4096))), (.call .newRecord, .ok (.ref (some 4097))),
    (.call (.box (.int 1)), .ok (.ref (some 4098))), (.call (.retain (some 4098)), .ok .done),
    (.call (.box (.int 2)), .ok (.ref (some 4099))), (.call (.box (.int 2)), .ok (.ref (some 4100))),
    (.call (.recordPut (some 4096) "x" (some 4098)), .ok .done),
    (.call (.recordPut (some 4096) "x" (some 4099)), .ok .done),
    (.call (.recordPut (some 4097) "x" (some 4100)), .ok .done)]

theorem reboundRecords_run : ∃ s held origins, RecordedRun s held reboundRecords_history origins ∧
    (∃ xs : Fields, s.heap.view (some 4096) = .ok (.record xs) ∧ (Value.record xs).children = [some 4099]) ∧
    (∃ ys : Fields, s.heap.view (some 4097) = .ok (.record ys) ∧ (Value.record ys).children = [some 4100]) ∧
    s.heap.view (some 4099) = .ok (.int 2) ∧ s.heap.view (some 4100) = .ok (.int 2) := by
  have begun : RecordedRun (.initial true) (fun _ => 0) [] fun _ => none := .start (s := .initial true) rfl
  have first := begun.operate (.call .newRecord) (by simp [Operation.Steady])
    ⟨by rintro q ⟨⟩ r; exact Nat.zero_le _, by rintro r ⟨⟩⟩ rfl
  have second := first.operate (.call .newRecord) (by simp [Operation.Steady])
    ⟨by rintro q ⟨⟩ r; exact Nat.zero_le _, by rintro r ⟨⟩⟩ rfl
  have one := second.operate (.call (.box (.int 1))) (by simp [Operation.Steady])
    ⟨by rintro q ⟨⟩ r; exact Nat.zero_le _, by rintro r ⟨⟩⟩ rfl
  have kept := one.operate (.call (.retain (some 4098))) (by simp [Operation.Steady])
    ⟨by rintro q ⟨⟩ a ⟨⟩; exact ⟨_, rfl⟩, by rintro r ⟨⟩⟩ rfl
  have two := kept.operate (.call (.box (.int 2))) (by simp [Operation.Steady])
    ⟨by rintro q ⟨⟩ r; exact Nat.zero_le _, by rintro r ⟨⟩⟩ rfl
  have again := two.operate (.call (.box (.int 2))) (by simp [Operation.Steady])
    ⟨by rintro q ⟨⟩ r; exact Nat.zero_le _, by rintro r ⟨⟩⟩ rfl
  obtain ⟨_, bound⟩ := again.put (some 4096) (some 4098) "x" (by decide) (by decide) (by decide) rfl rfl
  obtain ⟨_, rebound⟩ := bound.put (some 4096) (some 4099) "x" (by decide) (by decide) (by decide) rfl rfl
  obtain ⟨_, both⟩ := rebound.put (some 4097) (some 4100) "x" (by decide) (by decide) (by decide) rfl rfl
  exact ⟨_, _, _, both, ⟨_, rfl, rfl⟩, ⟨_, rfl, rfl⟩, rfl, rfl⟩

theorem reboundRecords_lastBound (name : String) :
    reboundRecords_history.lastBound 4096 name = (if "x" = name then some (some 4099) else none) ∧
      reboundRecords_history.lastBound 4097 name = if "x" = name then some (some 4100) else none := by
  have first : reboundRecords_history.insertionsAt 4096 =
      [.recordPut (some 4096) "x" (some 4098), .recordPut (some 4096) "x" (some 4099)] := rfl
  have second : reboundRecords_history.insertionsAt 4097 = [.recordPut (some 4097) "x" (some 4100)] := rfl
  rw [History.lastBound, History.lastBound, first, second]
  by_cases here : "x" = name <;> simp [Insertion.bound?, here]

/-- The records are equal and written alike. -/
theorem records_forget_order_rebound : ∃ s held origins, RecordedRun s held reboundRecords_history origins ∧
    s.heap.equals (some 4096) (some 4097) = .ok true ∧ s.heap.WrittenAlike (some 4096) (some 4097) := by
  obtain ⟨s, held, origins, run, ⟨xs, viewedA, childA⟩, ⟨ys, viewedB, childB⟩, first, second⟩ := reboundRecords_run
  have number : ∀ {a : Address}, s.heap.view (some a) = .ok (.int 2) → s.heap.Proper (some a) ∧
      s.heap.Denotes (some a) (.of (.int 2)) ∧ s.heap.render (some a) = .ok "2" := by
    intro a viewed
    refine ⟨.of_elements viewed (by simp [Value.children]) (by simp),
      .intro (fun _ => default) viewed (by simp [Value.children]), ?_⟩
    rw [Heap.render, Heap.depth, Heap.renderWithin, viewed]
    rfl
  obtain ⟨properA, denotesA, writtenA⟩ := number first
  obtain ⟨properB, denotesB, writtenB⟩ := number second
  have left : s.heap.Proper (some 4096) :=
    .of_elements viewedA (childA ▸ List.forall_mem_singleton.mpr properA) (by simp)
  have right : s.heap.Proper (some 4097) :=
    .of_elements viewedB (childB ▸ List.forall_mem_singleton.mpr properB) (by simp)
  have bornA : (.call .newRecord, .ok (.ref (some 4096))) ∈ reboundRecords_history := .head _
  have bornB : (.call .newRecord, .ok (.ref (some 4097))) ∈ reboundRecords_history := .tail _ (.head _)
  obtain ⟨_, ⟨⟩, freshA⟩ := (run.recorded.births bornA).1 (.record ∅) rfl
  obtain ⟨_, ⟨⟩, freshB⟩ := (run.recorded.births bornB).1 (.record ∅) rfl
  obtain ⟨_, _, _, _, _, _, _, _, ⟨answer, compared, verdict⟩, alike⟩ :=
    RecordedRun.records_forget_order run freshA freshB left right
  have equal : answer = true := verdict.mpr fun name => by
    rw [(reboundRecords_lastBound name).1, (reboundRecords_lastBound name).2]
    split
    · exact .some ⟨_, denotesA, denotesB⟩
    · exact .none
  refine ⟨s, held, origins, run, equal ▸ compared, (alike fun name => ?_).1⟩
  rw [(reboundRecords_lastBound name).1, (reboundRecords_lastBound name).2]
  split
  · exact .some ⟨_, writtenA, writtenB⟩
  · exact .none

end CountedBox
