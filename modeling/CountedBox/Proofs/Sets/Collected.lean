import CountedBox.Proofs.Ownership.Kept
import CountedBox.Proofs.Store.Reports

namespace CountedBox

open scoped Classical

/-- If each test ends, whether any of them succeeds is found out. -/
theorem anyM_of_ok {α : Type} {f : α → Except Stop Bool} {holds : α → Prop} {xs : List α}
    (each : ∀ x ∈ xs, f x = .ok (decide (holds x))) : xs.anyM f = .ok (decide (∃ x ∈ xs, holds x)) := by
  induction xs with
  | nil => simp [pure, Except.pure]
  | cons x xs ih =>
    rw [List.forall_mem_cons] at each
    rw [List.anyM, each.1, ok_bind]
    by_cases here : holds x
    · simp [here, pure, Except.pure]
    · simp [here, ih each.2]

/-- Add items to a new set, one after the other. -/
def collect (items : List Ref) : Action (Ref × List Bool) := do
  let set ← newSet
  let answers ← items.mapM (setAdd set)
  return (set, answers)

/-- A collection is a new set to which the items are added one by one. -/
theorem run_collect {items : List Ref} {answers : List Bool} {h h' : Heap}
    (added : (items.mapM (setAdd (some h.next))).run (h.alloc (.set [])).2 = (.ok answers, h')) :
    (collect items).run h = (.ok (some h.next, answers), h') := by
  simp only [collect, Action.run_bind, newSet, run_box, added, Action.run_pure]

theorem run_mapM_append {α β : Type} {f : α → Action β} {xs ys : List α} {as bs : List β} {h h₁ h₂ : Heap}
    (first : (xs.mapM f).run h = (.ok as, h₁)) (second : (ys.mapM f).run h₁ = (.ok bs, h₂)) :
    ((xs ++ ys).mapM f).run h = (.ok (as ++ bs), h₂) := by
  rw [List.mapM_append, Action.run_bind, first]
  simp only [Action.run_bind, second, Action.run_pure]

theorem run_mapM_cons {α β : Type} {f : α → Action β} {x : α} {xs : List α} {a : β} {as : List β}
    {h h₁ h₂ : Heap} (first : (f x).run h = (.ok a, h₁)) (others : (xs.mapM f).run h₁ = (.ok as, h₂)) :
    ((x :: xs).mapM f).run h = (.ok (a :: as), h₂) := by
  rw [List.mapM_cons, Action.run_bind, first]
  simp only [Action.run_bind, others, Action.run_pure]

/-- The items that are the first with their meaning, where some meanings were seen before. -/
noncomputable def firsts (meaning : Ref → Datum) (seen : List Datum) : List Ref → List Ref
  | [] => []
  | x :: rest =>
    if meaning x ∈ seen then firsts meaning seen rest else x :: firsts meaning (seen ++ [meaning x]) rest

/-- Nothing that is meant is lost. -/
theorem mem_seen_firsts (meaning : Ref → Datum) (seen : List Datum) (items : List Ref) (d : Datum) :
    d ∈ seen ++ (firsts meaning seen items).map meaning ↔ d ∈ seen ++ items.map meaning := by
  induction items generalizing seen with
  | nil => rfl
  | cons x rest ih =>
    rw [firsts]
    split
    · rename_i again
      rw [ih, List.map_cons, List.mem_append, List.mem_append, List.mem_cons]
      constructor
      · exact Or.imp_right Or.inr
      · rintro (before | rfl | after)
        · exact Or.inl before
        · exact Or.inl again
        · exact Or.inr after
    · rw [List.map_cons, List.map_cons, List.append_cons, ih, ← List.append_cons]

theorem run_setAdd {h h' : Heap} {set x : Ref} {answer : Bool}
    (ran : (Insertion.setAdd set x).run.run h = (.ok (.bool answer), h')) :
    (setAdd set x).run h = (.ok answer, h') := by
  rw [Insertion.run, Action.run_map] at ran
  cases result : (setAdd set x).run h with
  | mk outcome next =>
    rw [result] at ran
    cases outcome <;> cases ran
    rfl

namespace Heap

variable {h h' : Heap} {held : Holdings} {meaning : Ref → Datum} {set x : Ref} {old pending items : List Ref}

/-- A set is searched for the meaning of the item. -/
theorem contains_of_denotes (acyclic : h.Acyclic) (proper : ∀ s ∈ old, h.Proper s)
    (denotes : ∀ s ∈ old, h.Denotes s (meaning s)) (properX : h.Proper x) (denotesX : h.Denotes x (meaning x)) :
    h.contains old x = .ok (decide (meaning x ∈ old.map meaning)) := by
  have each : ∀ s ∈ old, h.equals s x = .ok (decide (meaning s = meaning x)) := fun s member =>
    equals_of_denotes acyclic (proper s member) properX (denotes s member) denotesX
  rw [contains, containsBy, anyM_of_ok each]
  simp [List.mem_map]

/-- A client adds items to a set that only it holds: `old` is in the set, and it holds a reference for each item
that is pending. -/
structure Filling (h : Heap) (held : Holdings) (meaning : Ref → Datum) (set : Ref) (old pending : List Ref) :
    Prop where
  balanced : h.Balanced held
  covered : ∀ r, (set :: pending).count r ≤ held r
  viewed : h.view set = .ok (.set old)
  apart : ∀ x ∈ old ++ pending, ¬ h.Path x set
  proper : ∀ x ∈ old ++ pending, h.Proper x
  denotes : ∀ x ∈ old ++ pending, h.Denotes x (meaning x)
  differ : (old.map meaning).Nodup

namespace Filling

/-- An item that is still to be offered is held. -/
theorem holds (filling : h.Filling held meaning set old (x :: pending)) : 0 < held x := by
  have positive : 0 < (set :: x :: pending).count x := List.count_pos_iff.mpr (by simp)
  exact Nat.lt_of_lt_of_le positive (filling.covered x)

/-- Where the item goes depends on its meaning. -/
theorem plan (filling : h.Filling held meaning set old (x :: pending)) :
    ∃ b, (Insertion.setAdd set x).plan h = .ok
      (if meaning x ∈ old.map meaning then .present else .store b (.set (old ++ [x])) none) := by
  obtain ⟨a, b, rfl, known, found, stores⟩ := filling.balanced.stored_of_view filling.viewed
  have checked : h.checkInsert (some a) x "wycc_set_add" = .ok () :=
    checkInsert_of_apart (filling.proper x (by simp)).viewable (filling.apart x (by simp))
  have given : h.elements (some a) .set "wycc_set_add" = .ok (⟨a, b, .set⟩, old) :=
    elements_stored known found stores rfl _
  have searched := contains_of_denotes filling.balanced.coherent.acyclic
    (fun s member => filling.proper s (List.mem_append_left _ member))
    (fun s member => filling.denotes s (List.mem_append_left _ member))
    (filling.proper x (by simp)) (filling.denotes x (by simp))
  refine ⟨⟨a, b, .set⟩, Insertion.plan_of_place checked ?_⟩
  rw [Insertion.place, given, ok_bind]
  dsimp only
  rw [searched, ok_bind]
  by_cases seen : meaning x ∈ old.map meaning <;> simp [seen, pure, Except.pure]

/-- The books stay in order while only the set is touched. -/
theorem of_keeps {held' : Holdings} (before : h.Balanced held) (keeps : h.Keeps h' set)
    (each : ∀ s ∈ old ++ pending, ¬ h.Path s set ∧ h.Proper s ∧ h.Denotes s (meaning s))
    (after : h'.Balanced held') (covered : ∀ r, (set :: pending).count r ≤ held' r)
    (viewed : h'.view set = .ok (.set old)) (differ : (old.map meaning).Nodup) :
    h'.Filling held' meaning set old pending := by
  have holder : ∀ s ∈ old ++ pending, 0 < held' s + h'.occurrences s := by
    intro s member
    rcases List.mem_append.mp member with inSet | waiting
    · have positive := occurrences_pos_iff.mpr ⟨set, (ViewedEdge.of_view viewed inSet).2⟩
      omega
    · have positive : 0 < (set :: pending).count s := List.count_pos_iff.mpr (List.mem_cons_of_mem _ waiting)
      have := covered s
      omega
  refine ⟨after, covered, viewed, fun s member path => ?_, fun s member => ?_, fun s member => ?_, differ⟩ <;>
    obtain ⟨apart, proper, denotes⟩ := each s member
  · exact apart (keeps.path before after (proper.viewable s .refl) apart path)
  · exact keeps.proper_held before after (holder s member) apart proper
  · exact keeps.denotes_held before after (holder s member) apart denotes

/-- One item is added. A call that says no drops one reference of its item, and the set is as before. -/
theorem step (filling : h.Filling held meaning set old (x :: pending)) :
    ∃ answer h', (setAdd set x).run h = (.ok answer, h') ∧ (answer = true ↔ meaning x ∉ old.map meaning) ∧
      h'.Filling (held.spend [x]) meaning set (if meaning x ∈ old.map meaning then old else old ++ [x]) pending ∧
      h.Keeps h' set ∧ (answer = false → h'.count x + 1 = h.count x) ∧
      (answer = true → h'.count x = h.count x) := by
  have before := filling.balanced
  have covered : ∀ r, (set :: pending).count r ≤ held.spend [x] r := by
    intro r
    have enough := filling.covered r
    simp only [List.count_cons, List.count_nil, Holdings.spend_apply] at enough ⊢
    omega
  have each : ∀ s ∈ old ++ x :: pending, ¬ h.Path s set ∧ h.Proper s ∧ h.Denotes s (meaning s) :=
    fun s member => ⟨filling.apart s member, filling.proper s member, filling.denotes s member⟩
  obtain ⟨b, planned⟩ := filling.plan
  -- A duplicate is released, which leaves the set as it is; anything else is stored at its end.
  by_cases seen : meaning x ∈ old.map meaning
  · rw [if_pos seen] at planned ⊢
    obtain ⟨freed, h', released, after⟩ := before.release filling.holds true
    have ran : (Insertion.setAdd set x).run.run h = (.ok (.bool false), h') := by
      rw [Insertion.run_eq, planned, Insertion.carryOut, Action.run_map, Insertion.item, released]
      rfl
    have holder : 0 < held.spend [x] set + h'.occurrences set := by
      have enough := covered set
      rw [List.count_cons_self] at enough
      omega
    have after : h'.Balanced (held.spend [x]) := by simpa using after
    have viewed : h'.view set = .ok (.set old) := by
      have keeps : h.Keeps h' none := .release released
      refine keeps.view_held before after ?_ holder filling.viewed
      rintro rfl
      obtain ⟨_, _, same, _⟩ := view_found filling.viewed
      cases same
    refine ⟨false, h', run_setAdd ran, by simp [seen], ?_, .release released,
      fun _ => before.release_count filling.holds released, by simp⟩
    exact .of_keeps before (.release released) (fun s member => each s (by simp at member ⊢; tauto)) after covered
      viewed filling.differ
  · rw [if_neg seen] at planned ⊢
    have accepted := Insertion.plan_store planned
    have keeps : h.Keeps (h.store b (Value.set (old ++ [x])).payload) set := by
      have container : set = some b.address := accepted.container
      rw [container]
      exact .store h b _
    refine ⟨true, _, run_setAdd (Insertion.run_of_plan planned), by simp [seen], ?_, keeps, by simp,
      fun _ => count_store accepted.found _ x⟩
    refine .of_keeps before keeps (fun s member => each s (by simp at member ⊢; tauto))
      (before.store accepted filling.holds) covered accepted.view_store ?_
    rw [List.map_append, List.map_singleton]
    exact List.nodup_append.mpr ⟨filling.differ, List.nodup_singleton _, by simp at seen ⊢; tauto⟩

/-- Items are added one after the other. -/
theorem run {front rest : List Ref} (filling : h.Filling held meaning set old (front ++ rest)) :
    ∃ answers h', (front.mapM (setAdd set)).run h = (.ok answers, h') ∧
      h'.Filling (held.spend front) meaning set (old ++ firsts meaning (old.map meaning) front) rest ∧
      h.Keeps h' set := by
  induction front generalizing h held old with
  | nil =>
    refine ⟨[], h, rfl, ?_, .refl h set⟩
    rw [firsts, List.append_nil]
    exact filling
  | cons x front ih =>
    obtain ⟨answer, h₁, first, _, filling₁, keeps₁, _⟩ := filling.step
    obtain ⟨answers, h₂, others, filling₂, keeps₂⟩ := ih filling₁
    refine ⟨answer :: answers, h₂, run_mapM_cons first others, ?_, keeps₁.trans keeps₂⟩
    have spent : (held.spend [x]).spend front = held.spend (x :: front) := by
      funext r
      simp only [Holdings.spend_apply, List.count_cons, List.count_nil]
      omega
    rw [spent] at filling₂
    rw [firsts]
    by_cases seen : meaning x ∈ old.map meaning
    · simpa only [if_pos seen] using filling₂
    · simpa only [if_neg seen, List.map_append, List.map_singleton, List.append_assoc,
        List.singleton_append] using filling₂

end Filling

namespace Filling

theorem set_proper (filling : h.Filling held meaning set old pending) : h.Proper set := by
  have inside : ∀ s ∈ old, s ∈ old ++ pending := fun _ => List.mem_append_left _
  refine .of_elements filling.viewed (fun s member => filling.proper s (inside s member)) ?_
  rintro _ ⟨⟩
  refine (List.pairwise_map.mp filling.differ).imp_of_mem fun {s t} inS inT differ x atS atT => differ ?_
  exact ((filling.denotes s (inside s inS)).unique atS).trans (atT.unique (filling.denotes t (inside t inT)))

/-- The set means what has been kept so far. -/
theorem set_denotes (filling : h.Filling held meaning set old pending) :
    h.Denotes set (.of (.set (old.map meaning).toFinset)) :=
  .intro meaning filling.viewed fun s member => filling.denotes s (List.mem_append_left _ member)

end Filling

/-- A client can give the items to a set one after the other: it holds a reference for each, and the elements
of the sets that they lead to differ. -/
structure Offers (h : Heap) (held : Holdings) (items : List Ref) : Prop where
  balanced : h.Balanced held
  covered : ∀ r, items.count r ≤ held r
  distinct : ∀ x ∈ items, ∀ s inner, h.Path x s → h.view s = .ok (.set inner) → h.Distinct inner

namespace Offers

theorem proper (offers : h.Offers held items) : ∀ x ∈ items, h.Proper x := by
  intro x member
  have positive := List.count_pos_iff.mpr member
  have enough := offers.covered x
  have viewable := offers.balanced.viewable_of_holder (r := x) (by omega)
  exact ⟨fun s path => offers.balanced.viewable viewable path, offers.distinct x member⟩

/-- The items that are offered have a meaning each. -/
theorem exists_meaning (offers : h.Offers held items) :
    ∃ meaning : Ref → Datum, ∀ x ∈ items, h.Denotes x (meaning x) := by
  have denoted : ∀ x ∈ items, ∃ d, h.Denotes x d := fun x member =>
    (offers.proper x member).denotes offers.balanced.coherent.acyclic
  choose! meaning denotes using denoted
  exact ⟨meaning, denotes⟩

/-- With a new set the work can begin. -/
theorem filling (offers : h.Offers held items) (denotes : ∀ x ∈ items, h.Denotes x (meaning x)) :
    (h.alloc (.set [])).2.Filling (held.gain [some h.next]) meaning (some h.next) [] items := by
  have fresh := offers.balanced.coherent.fresh
  have after : (h.alloc (.set [])).2.Balanced (held.gain [some h.next]) :=
    offers.balanced.alloc (v := .set []) fun _ => Nat.zero_le _
  have found : (h.alloc (.set [])).2.boxes[h.next]? = some ⟨Kind.set.tag, 1, .items []⟩ := by
    rw [getElem?_alloc, if_pos rfl]
    rfl
  refine .of_keeps offers.balanced (.alloc_childless h rfl _) (fun x member => ?_) after (fun r => ?_)
    (view_stores (after.known found) found ⟨rfl, rfl⟩) .nil
  · refine ⟨fun path => ?_, offers.proper x member, denotes x member⟩
    obtain ⟨v, viewed⟩ := (offers.proper x member).viewable _ path
    obtain ⟨_, b, same, _, there, _⟩ := view_found viewed
    cases same
    cases fresh.symm.trans there
  · have enough := offers.covered r
    simp only [Holdings.gain_apply, List.count_cons, List.count_nil]
    omega

theorem run {front rest : List Ref} (offers : h.Offers held (front ++ rest))
    (denotes : ∀ x ∈ front ++ rest, h.Denotes x (meaning x)) :
    ∃ answers h', (front.mapM (setAdd (some h.next))).run (h.alloc (.set [])).2 = (.ok answers, h') ∧
      (collect front).run h = (.ok (some h.next, answers), h') ∧
      h'.Filling ((held.gain [some h.next]).spend front) meaning (some h.next) (firsts meaning [] front) rest := by
  obtain ⟨answers, h', added, filling, _⟩ := (offers.filling denotes).run
  exact ⟨answers, h', added, run_collect added, filling⟩

/-- What else the client could give to a set it still can, and the set too; and it means what it did. -/
theorem left {others : List Ref} {answers : List Bool} {set : Ref} (offers : h.Offers held (items ++ others))
    (ran : (collect items).run h = (.ok (set, answers), h')) :
    h'.Offers ((held.gain [set]).spend items) (set :: others) ∧
      ∀ x ∈ others, ∀ d, h.Denotes x d → h'.Denotes x d := by
  obtain ⟨meaning, denotes⟩ := offers.exists_meaning
  obtain ⟨_, _, _, again, filling⟩ := offers.run denotes
  cases ran.symm.trans again
  refine ⟨⟨filling.balanced, filling.covered, fun x member => ?_⟩, fun x member d before => ?_⟩
  · rcases List.mem_cons.mp member with rfl | other
    · exact filling.set_proper.distinct
    · exact (filling.proper x (List.mem_append_right _ other)).distinct
  · rw [before.unique (denotes x (List.mem_append_right _ member))]
    exact filling.denotes x (List.mem_append_right _ member)

/-- What a set becomes depends only on the values of the items added to it, in the order they come. A call
says yes exactly if no item before means the same; a call that says no gives back one reference of its item.
In the end the set holds the first items with each meaning, in their order. A set made of other items, at
once or after more has happened that leaves the first set its value, equals the first one exactly if the
items of the two mean the same values. Between the two no address of a freed box is given out again. -/
theorem collects_values (offers : h.Offers held items) :
    ∃ meaning : Ref → Datum, (∀ x ∈ items, h.Denotes x (meaning x)) ∧
    ∃ set answers h', (collect items).run h = (.ok (set, answers), h') ∧
      h'.view set = .ok (.set (firsts meaning [] items)) ∧
      (firsts meaning [] items).length = (items.map meaning).toFinset.card ∧
      (∀ front x rest, items = front ++ x :: rest → ∃ g g' earlier answer later,
        answers = earlier ++ answer :: later ∧ (collect front).run h = (.ok (set, earlier), g) ∧
        (setAdd set x).run g = (.ok answer, g') ∧ (answer = true ↔ meaning x ∉ front.map meaning) ∧
        (answer = false → g'.count x + 1 = g.count x) ∧ (answer = true → g'.count x = g.count x)) ∧
      h'.Balanced ((held.gain [set]).spend items) ∧
      (∀ others, h.Offers held (items ++ others) → h'.Offers ((held.gain [set]).spend items) (set :: others) ∧
        ∀ x ∈ others, ∀ d, h.Denotes x d → h'.Denotes x d) ∧
      ∀ (g : Heap) (heldThen : Holdings) (others : List Ref) (meaning' : Ref → Datum),
        g.Offers heldThen (set :: others) → (∀ d, h'.Denotes set d → g.Denotes set d) →
        (∀ x ∈ others, g.Denotes x (meaning' x)) →
        ∃ other answers' g', (collect others).run g = (.ok (other, answers'), g') ∧
          ∃ same, g'.equals set other = .ok same ∧
            (same = true ↔ ∀ d, d ∈ items.map meaning ↔ d ∈ others.map meaning') := by
  obtain ⟨meaning, denotes⟩ := offers.exists_meaning
  have whole : h.Offers held (items ++ []) := by rwa [List.append_nil]
  obtain ⟨answers, h', added, ran, filling⟩ := whole.run (by rwa [List.append_nil])
  have kept : ∀ {items : List Ref} (meaning : Ref → Datum) (d : Datum),
      d ∈ (firsts meaning [] items).map meaning ↔ d ∈ items.map meaning :=
    fun meaning d => mem_seen_firsts meaning [] _ d
  refine ⟨meaning, denotes, some h.next, answers, h', ran, filling.viewed, ?_, ?_, filling.balanced,
    fun others both => both.left ran, ?_⟩
  · have same : ((firsts meaning [] items).map meaning).toFinset = (items.map meaning).toFinset := by
      ext d
      rw [List.mem_toFinset, List.mem_toFinset, kept]
    rw [← same, List.toFinset_card_of_nodup filling.differ, List.length_map]
  · rintro front x rest rfl
    obtain ⟨earlier, g, first, ranFirst, fillingX⟩ := offers.run denotes
    obtain ⟨answer, g', addedX, verdict, fillingRest, _, counts⟩ := fillingX.step
    rw [← List.append_nil rest] at fillingRest
    obtain ⟨later, _, others, _⟩ := fillingRest.run
    have all := run_mapM_append first (run_mapM_cons addedX others)
    cases added.symm.trans all
    exact ⟨g, g', earlier, answer, later, rfl, ranFirst, addedX, verdict.trans (not_congr (kept _ _)), counts⟩
  · intro g heldThen others meaning' offers' same denotes'
    -- The first set waits behind the others, so that it is known to stay what it is.
    have both : g.Offers heldThen (others ++ [some h.next]) := by
      refine ⟨offers'.balanced, fun r => ?_, fun x member => offers'.distinct x (by simp at member ⊢; tauto)⟩
      have enough := offers'.covered r
      rw [List.count_append, List.count_singleton]
      rw [List.count_cons] at enough
      exact enough
    obtain ⟨meant, denotesThen⟩ := both.exists_meaning
    obtain ⟨answers', g', _, ran', filling'⟩ := both.run denotesThen
    have first : meant (some h.next) = .of (.set ((firsts meaning [] items).map meaning).toFinset) :=
      (denotesThen _ (by simp)).unique (same _ filling.set_denotes)
    have agree : others.map meant = others.map meaning' := List.map_congr_left fun x member =>
      (denotesThen x (List.mem_append_left _ member)).unique (denotes' x member)
    refine ⟨_, answers', g', ran', _, equals_of_denotes filling'.balanced.coherent.acyclic
      (filling'.proper _ (by simp)) filling'.set_proper (filling'.denotes _ (by simp)) filling'.set_denotes, ?_⟩
    rw [decide_eq_true_iff, first, Datum.of_inj, Level.set.injEq, Finset.ext_iff, ← agree]
    refine forall_congr' fun d => ?_
    rw [List.mem_toFinset, List.mem_toFinset, kept, kept]

end Offers

end Heap

/-- A heap with three tuples of the number one. -/
def equalTuples : Heap :=
  let first := ((({ tracking := true } : Heap).alloc (.int 1)).2.alloc (.tuple [some 4096])).2
  let second := ((first.alloc (.int 1)).2.alloc (.tuple [some 4098])).2
  ((second.alloc (.int 1)).2.alloc (.tuple [some 4100])).2

theorem equalTuples_tuple {a c : Address} (viewed : equalTuples.view (some a) = .ok (.tuple [some c]))
    (number : equalTuples.view (some c) = .ok (.int 1)) :
    equalTuples.Proper (some a) ∧ equalTuples.Denotes (some a) (.of (.tuple [.of (.int 1)])) := by
  have proper : equalTuples.Proper (some c) := .of_elements number (by simp [Value.children]) (by simp)
  have denotes : equalTuples.Denotes (some c) (.of (.int 1)) :=
    .intro (fun _ => default) number (by simp [Value.children])
  exact ⟨.of_elements viewed (List.forall_mem_singleton.mpr proper) (by simp),
    .intro (fun _ => .of (.int 1)) viewed (List.forall_mem_singleton.mpr denotes)⟩

theorem equalTuples_offers :
    ∃ held, equalTuples.Offers held [some 4097, some 4099, some 4101] := by
  have one := (Heap.Balanced.start true).alloc (v := .int 1) fun _ => Nat.zero_le _
  have first := one.alloc (v := .tuple [some 4096]) fun _ => Nat.le_add_left _ _
  have two := first.alloc (v := .int 1) fun _ => Nat.zero_le _
  have second := two.alloc (v := .tuple [some 4098]) fun _ => Nat.le_add_left _ _
  have three := second.alloc (v := .int 1) fun _ => Nat.zero_le _
  have third := three.alloc (v := .tuple [some 4100]) fun _ => Nat.le_add_left _ _
  refine ⟨_, third, fun r => ?_, ?_⟩
  · by_cases inside : r ∈ [some 4097, some 4099, some 4101]
    · simp only [List.mem_cons, List.not_mem_nil, or_false] at inside
      rcases inside with rfl | rfl | rfl <;> decide
    · rw [List.count_eq_zero.mpr inside]
      exact Nat.zero_le _
  · have proper : ∀ x ∈ [some 4097, some 4099, some 4101], equalTuples.Proper x := by
      simp only [List.forall_mem_cons]
      exact ⟨(equalTuples_tuple rfl rfl).1, (equalTuples_tuple rfl rfl).1, (equalTuples_tuple rfl rfl).1, by simp⟩
    exact fun x member => (proper x member).distinct

/-- Of two tuples that mean the same only the first is kept, and the set equals one of the third tuple. -/
theorem collects_values_equalTuples : ∃ set answers h',
    (collect [some 4097, some 4099]).run equalTuples = (.ok (set, answers), h') ∧
      h'.view set = .ok (.set [some 4097]) ∧ ∃ other answers' g',
        (collect [some 4101]).run h' = (.ok (other, answers'), g') ∧ g'.equals set other = .ok true := by
  obtain ⟨held, all⟩ := equalTuples_offers
  have offers : equalTuples.Offers held [some 4097, some 4099] := by
    refine ⟨all.balanced, fun r => Nat.le_trans ?_ (all.covered r), fun x member => all.distinct x ?_⟩
    · exact List.Sublist.count_le r (by simp)
    · simp at member ⊢
      tauto
  obtain ⟨meaning, denotes, set, answers, h', ran, viewed, _, _, _, left, other⟩ := Heap.Offers.collects_values offers
  have first := (denotes (some 4097) (by simp)).unique (equalTuples_tuple rfl rfl).2
  have second := (denotes (some 4099) (by simp)).unique (equalTuples_tuple rfl rfl).2
  have only : firsts meaning [] [some 4097, some 4099] = [some 4097] := by simp [firsts, first, second]
  rw [only] at viewed
  obtain ⟨offers', kept⟩ := left [some 4101] all
  obtain ⟨set', answers', g', ran', answer, compared, verdict⟩ := other h' _ [some 4101]
    (fun _ => .of (.tuple [.of (.int 1)])) offers' (fun _ => id) fun x member =>
      List.mem_singleton.mp member ▸ kept _ (List.mem_singleton_self _) _ (equalTuples_tuple rfl rfl).2
  have equal : answer = true := verdict.mpr fun d => by simp [first, second]
  exact ⟨set, answers, h', ran, viewed, set', answers', g', ran', equal ▸ compared⟩

end CountedBox
