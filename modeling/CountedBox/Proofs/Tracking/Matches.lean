import CountedBox.Proofs.Request
import CountedBox.Proofs.Tracking.Alike

namespace CountedBox

namespace Heap.Alike

variable {h k : Heap}

/-! Alike heaps stay alike when the same is done to both. -/

theorem of_same {h' k' : Heap} (alike : h.Alike k) (boxesH : h'.boxes = h.boxes) (boxesK : k'.boxes = k.boxes)
    (registryH : h'.registry = h.registry) (registryK : k'.registry = k.registry)
    (trackingH : h'.tracking = h.tracking) (trackingK : k'.tracking = k.tracking)
    (next : h'.next = k'.next) (boxed : h'.boxed = k'.boxed) (freed : h'.freed = k'.freed)
    (journal : h'.journal = k'.journal) : h'.Alike k' := by
  have knowsH : ∀ a, h'.Knows a ↔ h.Knows a := fun a => by rw [Knows, Knows, registryH, trackingH]
  have knowsK : ∀ a, k'.Knows a ↔ k.Knows a := fun a => by rw [Knows, Knows, registryK, trackingK]
  refine ⟨?_, ?_, ?_, ?_, next, boxed, freed, journal⟩
  · intro a knownH knownK
    rw [boxesH, boxesK]
    exact alike.boxes ((knowsH a).mp knownH) ((knowsK a).mp knownK)
  · intro a knownH unknownK
    rw [boxesH]
    exact alike.left ((knowsH a).mp knownH) (mt (knowsK a).mpr unknownK)
  · intro a knownK unknownH
    rw [boxesK]
    exact alike.right ((knowsK a).mp knownK) (mt (knowsH a).mpr unknownH)
  · rw [trackingH, trackingK, registryH, registryK]
    exact alike.registry

theorem note (alike : h.Alike k) (n : Note) : (h.note n).Alike (k.note n) :=
  alike.of_same rfl rfl rfl rfl rfl rfl alike.next alike.boxed alike.freed (congrArg (n :: ·) alike.journal)

/-- A new box has the same address in both heaps. -/
theorem alloc (alike : h.Alike k) (v : Value) : (h.alloc v).2.Alike (k.alloc v).2 := by
  have other : ∀ {l : Heap} {a : Address}, l.next ≠ a → ((l.alloc v).2.Knows a ↔ l.Knows a) :=
    fun apart => knows_alloc.trans (or_iff_right (Ne.symm apart))
  refine ⟨?_, ?_, ?_, ?_, ?_, ?_, alike.freed, ?_⟩
  · intro a knownH knownK
    rw [getElem?_alloc, getElem?_alloc, ← alike.next]
    split
    · rfl
    · rename_i apart
      exact alike.boxes ((other apart).mp knownH) ((other (alike.next ▸ apart)).mp knownK)
  · intro a knownH unknownK
    have apart : k.next ≠ a := fun here => unknownK (knows_alloc.mpr (Or.inl here.symm))
    rw [getElem?_alloc, if_neg (alike.next ▸ apart)]
    exact alike.left ((other (alike.next ▸ apart)).mp knownH) (mt (other apart).mpr unknownK)
  · intro a knownK unknownH
    have apart : h.next ≠ a := fun here => unknownH (knows_alloc.mpr (Or.inl here.symm))
    rw [getElem?_alloc, if_neg (alike.next ▸ apart)]
    exact alike.right ((other (alike.next ▸ apart)).mp knownK) (mt (other apart).mpr unknownH)
  · intro tracking
    simp only [Heap.alloc, show h.tracking = k.tracking from tracking, alike.registry tracking, alike.next]
  · exact congrArg (· + 1) alike.next
  · exact congrArg (· + 1) alike.boxed
  · simp only [Heap.alloc, alike.next, alike.journal]

theorem write (alike : h.Alike k) {a : Address} (knownH : h.Knows a) (knownK : k.Knows a) (b : Box) :
    (h.write a b).Alike (k.write a b) := by
  refine ⟨?_, ?_, ?_, alike.registry, alike.next, alike.boxed, alike.freed, alike.journal⟩
  · intro c left right
    rw [getElem?_write, getElem?_write]
    split
    · rfl
    · exact alike.boxes left right
  · intro c left unknown
    have apart : a ≠ c := fun here => unknown (here ▸ knownK)
    rw [getElem?_write, if_neg apart]
    exact alike.left left unknown
  · intro c right unknown
    have apart : a ≠ c := fun here => unknown (here ▸ knownH)
    rw [getElem?_write, if_neg apart]
    exact alike.right right unknown

/-- A box is freed in both. -/
theorem remove (alike : h.Alike k) (a : Address) (kind : Kind) (deep : Bool) :
    (h.remove a kind deep).Alike (k.remove a kind deep) := by
  refine ⟨?_, ?_, ?_, ?_, alike.next, alike.boxed, congrArg (· + 1) alike.freed, ?_⟩
  · intro c left right
    rw [getElem?_remove, getElem?_remove]
    split
    · rfl
    · rename_i apart
      exact alike.boxes ((knows_remove apart).mp left) ((knows_remove apart).mp right)
  · intro c left unknown
    rw [getElem?_remove]
    split
    · rfl
    · rename_i apart
      exact alike.left ((knows_remove apart).mp left) (mt (knows_remove apart).mpr unknown)
  · intro c right unknown
    rw [getElem?_remove]
    split
    · rfl
    · rename_i apart
      exact alike.right ((knows_remove apart).mp right) (mt (knows_remove apart).mpr unknown)
  · intro tracking
    exact congrArg (·.erase a) (alike.registry tracking)
  · exact congrArg (_ :: ·) alike.journal

end Heap.Alike

/-- Two outcomes with the heaps they leave: one is a fault, or they are the same and the heaps alike. -/
inductive Matches {α : Type} : Except Stop α × Heap → Except Stop α × Heap → Prop
  | left (f : Fault) (h : Heap) (q : Except Stop α × Heap) : Matches (breakOff f, h) q
  | right (p : Except Stop α × Heap) (f : Fault) (k : Heap) : Matches p (breakOff f, k)
  | both {h k : Heap} (outcome : Except Stop α) : h.Alike k → Matches (outcome, h) (outcome, k)

section Matches

variable {α β : Type} {h k : Heap}

theorem matches_of_concur {x y : Except Stop α} (alike : h.Alike k) (concur : Concur x y) :
    Matches (x, h) (y, k) := by
  cases concur with
  | left f y => exact .left f h _
  | right x f => exact .right _ f k
  | refused e => exact .both _ alike
  | given same => exact same ▸ .both _ alike

/-- Actions that match one after the other match together. -/
theorem matches_bind {x : Action α} {f : α → Action β} (first : Matches (x.run h) (x.run k))
    (second : ∀ a h' k', h'.Alike k' → Matches ((f a).run h') ((f a).run k')) :
    Matches ((x >>= f).run h) ((x >>= f).run k) := by
  rw [Action.run_bind, Action.run_bind]
  generalize x.run h = p at first ⊢
  generalize x.run k = q at first ⊢
  cases first with
  | left fault h' q => exact .left fault h' _
  | right p fault k' => exact .right _ fault k'
  | both outcome alike =>
    cases outcome with
    | error stop => exact .both _ alike
    | ok a => exact second a _ _ alike

theorem matches_map {x : Action α} (g : α → β) (first : Matches (x.run h) (x.run k)) :
    Matches ((g <$> x).run h) ((g <$> x).run k) := by
  rw [Action.run_map, Action.run_map]
  generalize x.run h = p at first ⊢
  generalize x.run k = q at first ⊢
  cases first with
  | left fault h' q => exact .left fault h' _
  | right p fault k' => exact .right _ fault k'
  | both outcome alike => exact .both _ alike

theorem Matches.cases {p q : Except Stop α × Heap} (matched : Matches p q) :
    (∃ f, p.1 = breakOff f) ∨ (∃ f, q.1 = breakOff f) ∨ p.1 = q.1 ∧ p.2.Alike q.2 := by
  cases matched with
  | left f h q => exact Or.inl ⟨f, rfl⟩
  | right p f k => exact Or.inr (Or.inl ⟨f, rfl⟩)
  | both outcome alike => exact Or.inr (Or.inr ⟨rfl, alike⟩)

/-- An action matches if it does when its results are renamed one to one. -/
theorem matches_of_map {x : Action α} {g : α → β} (injective : g.Injective)
    (mapped : Matches ((g <$> x).run h) ((g <$> x).run k)) : Matches (x.run h) (x.run k) := by
  have cases := mapped.cases
  rw [Action.run_map, Action.run_map] at cases
  generalize x.run h = p at cases ⊢
  generalize x.run k = q at cases ⊢
  rcases p with ⟨(e | f) | a, h'⟩ <;> rcases q with ⟨(e' | f') | a', k'⟩
  all_goals first | exact .left f h' _ | exact .right _ f' k' | skip
  all_goals
    rcases cases with ⟨_, broken⟩ | ⟨_, broken⟩ | ⟨same, alike⟩
    · cases broken
    · cases broken
  · cases same
    exact .both _ alike
  · cases same
  · cases same
  · rw [injective (Except.ok.inj same)]
    exact .both _ alike

end Matches

/-! Actions on alike heaps. -/

namespace Heap.Alike

variable {h k : Heap}

/-- A box that is found can be written to in both heaps. -/
theorem write_located (alike : h.Alike k) {r : Ref} {operation : String} {b : Located}
    (left : h.locate r operation = .ok b) (right : k.locate r operation = .ok b) (box : Box) :
    (h.write b.address box).Alike (k.write b.address box) := by
  obtain ⟨_, _, _, knownH⟩ := locate_found left
  obtain ⟨_, _, _, knownK⟩ := locate_found right
  exact alike.write knownH knownK box

/-- A reference is counted in both heaps, or refused in both. -/
theorem addReference (alike : h.Alike k) (r : Ref) : Coupled Heap.Alike (h.addReference r) (k.addReference r) := by
  have both := alike.locate r "wycc_incr_box"
  unfold Heap.addReference
  generalize left : h.locate r "wycc_incr_box" = x at both ⊢
  generalize right : k.locate r "wycc_incr_box" = y at both ⊢
  cases both with
  | left f _ => exact .left f _
  | right _ f => exact .right _ f
  | refused e => exact .refused e
  | given same =>
    cases same
    dsimp only
    split
    · exact .refused _
    · split
      · exact .refused _
      · exact .given (alike.write_located left right _)

/-- A reference is dropped in both heaps, and the same elements are left to be released. -/
theorem dropReference (alike : h.Alike k) (r : Ref) (deep : Bool) :
    Coupled (fun p q => p.1.Alike q.1 ∧ p.2 = q.2) (h.dropReference r deep) (k.dropReference r deep) := by
  have both := alike.locate r "wycc_deref_box"
  unfold Heap.dropReference
  generalize left : h.locate r "wycc_deref_box" = x at both ⊢
  generalize right : k.locate r "wycc_deref_box" = y at both ⊢
  cases both with
  | left f _ => exact .left f _
  | right _ f => exact .right _ f
  | refused e => exact .refused e
  | given same =>
    cases same
    dsimp only
    split
    · exact .refused _
    · split
      · exact .given ⟨alike.write_located left right _, rfl⟩
      · split
        · exact .given ⟨alike.remove _ _ _, rfl⟩
        · exact .left _ _

/-- Giving back one after the other ends in alike heaps, unless it breaks off in one. -/
theorem releaseEach (alike : h.Alike k) {pending : List Ref} {h' k' : Heap} (left : h.releaseEach pending = .ok h')
    (right : k.releaseEach pending = .ok k') : h'.Alike k' := by
  fun_induction h.releaseEach pending generalizing k with
  | case1 h =>
    rw [Heap.releaseEach] at right
    cases left
    cases right
    exact alike
  | case2 h r rest e refused ih =>
    have both := alike.dropReference r true
    rw [refused] at both
    rw [Heap.releaseEach] at right
    split at right <;> rename_i dropped' <;> rw [dropped'] at both <;> cases both
    · exact ih (alike.note _) left right
    · cases right
  | case3 h r rest f broken => cases left
  | case4 h r rest next dropped ih =>
    have both := alike.dropReference r true
    rw [dropped] at both
    rw [Heap.releaseEach] at right
    split at right <;> rename_i dropped' <;> rw [dropped'] at both <;> cases both
    · cases right
    · rename_i related
      exact ih related.1 left right
    · rename_i related
      cases related.2
  | case5 h r rest next elements dropped ih =>
    have both := alike.dropReference r true
    rw [dropped] at both
    rw [Heap.releaseEach] at right
    split at right <;> rename_i dropped' <;> rw [dropped'] at both <;> cases both
    · cases right
    · rename_i related
      cases related.2
    · rename_i related
      cases related.2
      exact ih related.1 left right

end Heap.Alike

section Actions

variable {h k : Heap}

theorem box_matches (alike : h.Alike k) (v : Value) : Matches ((box v).run h) ((box v).run k) := by
  rw [run_box, run_box, alike.next]
  exact .both _ (alike.alloc v)

theorem boxNulls_matches (alike : h.Alike k) (n : Nat) :
    Matches (((List.replicate n Value.null).mapM box).run h) (((List.replicate n Value.null).mapM box).run k) := by
  induction n generalizing h k with
  | zero => exact .both _ alike
  | succ n ih =>
    rw [List.replicate_succ, List.mapM_cons]
    refine matches_bind (box_matches alike _) fun _ h' k' after => ?_
    exact matches_bind (ih after) fun _ _ _ last => .both _ last

theorem newTuple_matches (alike : h.Alike k) (n : Nat) : Matches ((newTuple n).run h) ((newTuple n).run k) :=
  matches_bind (boxNulls_matches alike n) fun slots _ _ after => box_matches after (.tuple slots)

theorem boxChar_matches (alike : h.Alike k) (code : UInt32) :
    Matches ((boxChar code).run h) ((boxChar code).run k) := by
  unfold boxChar
  split
  · exact box_matches alike _
  · exact .both _ alike

theorem boxRendering_matches (alike : h.Alike k) (r : Ref) :
    Matches ((boxRendering r).run h) ((boxRendering r).run k) :=
  matches_bind (matches_of_concur alike (alike.renderTop r)) fun _ _ _ after => box_matches after _

theorem retain_matches (alike : h.Alike k) (r : Ref) : Matches ((retain r).run h) ((retain r).run k) := by
  rw [run_retain, run_retain]
  have both := alike.addReference r
  generalize h.addReference r = x at both ⊢
  generalize k.addReference r = y at both ⊢
  cases both with
  | left f y => exact .left f h _
  | right x f => exact .right _ f k
  | refused e => exact .both _ alike
  | given after => exact .both _ after

/-- A cascade goes through the same boxes in both. -/
theorem release_matches (alike : h.Alike k) (r : Ref) (deep : Bool) :
    Matches ((release r deep).run h) ((release r deep).run k) := by
  rw [run_release, run_release]
  have both := alike.dropReference r deep
  generalize h.dropReference r deep = x at both ⊢
  generalize k.dropReference r deep = y at both ⊢
  cases both with
  | left f y => exact .left f h _
  | right x f => exact .right _ f k
  | refused e => exact .both _ alike
  | @given a b related =>
    obtain ⟨h', freed⟩ := a
    obtain ⟨k', freed'⟩ := b
    obtain ⟨after, same⟩ := related
    cases same
    cases freed with
    | none => exact .both _ after
    | some elements =>
      cases deep with
      | false => exact .both _ after
      | true =>
        dsimp only
        cases left : h'.releaseEach elements with
        | error f => exact .left f h' _
        | ok h'' =>
          cases right : k'.releaseEach elements with
          | error f => exact .right _ f k'
          | ok k'' => exact .both _ (after.releaseEach left right)

/-- An insertion has the same outcome in both. -/
theorem Insertion.run_matches (alike : h.Alike k) (i : Insertion) : Matches (i.run.run h) (i.run.run k) := by
  rw [run_eq, run_eq]
  have both := alike.plan i
  cases left : i.plan h with
  | error stop =>
    rw [left] at both
    generalize i.plan k = y at both ⊢
    cases both with
    | left f y => exact .left f h _
    | right x f => exact .right _ f k
    | refused e => exact .both _ alike
  | ok placement =>
    rcases both.of_ok left with right | ⟨f, broken⟩
    · rw [right]
      cases placement with
      | present => exact matches_map _ (release_matches alike _ true)
      | store b content displaced =>
        have stored : (h.store b content.payload).Alike (k.store b content.payload) :=
          alike.write (plan_store left).known (plan_store right).known _
        cases displaced with
        | none => exact .both _ stored
        | some previous => exact matches_map _ (release_matches stored previous true)
    · rw [broken]
      exact .right _ f k

theorem listAdd_matches (alike : h.Alike k) (list item : Ref) :
    Matches ((listAdd list item).run h) ((listAdd list item).run k) :=
  matches_of_map (Function.injective_of_subsingleton _) (Insertion.run_matches alike (.listAdd list item))

theorem setAdd_matches (alike : h.Alike k) (set item : Ref) :
    Matches ((setAdd set item).run h) ((setAdd set item).run k) :=
  matches_of_map (fun _ _ => Reply.bool.inj) (Insertion.run_matches alike (.setAdd set item))

theorem tupleSet_matches (alike : h.Alike k) (tuple : Ref) (index : Nat) (item : Ref) :
    Matches ((tupleSet tuple index item).run h) ((tupleSet tuple index item).run k) :=
  matches_of_map (Function.injective_of_subsingleton _) (Insertion.run_matches alike (.tupleSet tuple index item))

theorem recordPut_matches (alike : h.Alike k) (record : Ref) (field : String) (item : Ref) :
    Matches ((recordPut record field item).run h) ((recordPut record field item).run k) :=
  matches_of_map (Function.injective_of_subsingleton _) (Insertion.run_matches alike (.recordPut record field item))

/-- So has any request. -/
theorem Request.run_matches (alike : h.Alike k) (q : Request) : Matches (q.run.run h) (q.run.run k) := by
  cases q with
  | box v => exact matches_map _ (box_matches alike v)
  | boxChar code => exact matches_map _ (boxChar_matches alike code)
  | boxRendering r => exact matches_map _ (boxRendering_matches alike r)
  | newTuple arity => exact matches_map _ (newTuple_matches alike arity)
  | insert i => exact i.run_matches alike
  | retain r => exact matches_map _ (retain_matches alike r)
  | release r deep => exact matches_map _ (release_matches alike r deep)

end Actions

end CountedBox
