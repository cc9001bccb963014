import CountedBox.Proofs.Insertion.Plan

namespace CountedBox

/-- One of the outcomes is a fault, both are the same refusal, or both are results that are related. -/
inductive Coupled {α β : Type} (related : α → β → Prop) : Except Stop α → Except Stop β → Prop
  | left (f : Fault) (y : Except Stop β) : Coupled related (breakOff f) y
  | right (x : Except Stop α) (f : Fault) : Coupled related x (breakOff f)
  | refused (e : Error) : Coupled related (refuse e) (refuse e)
  | given {a : α} {b : β} : related a b → Coupled related (.ok a) (.ok b)

/-- The outcomes are the same unless one of them is a fault. -/
abbrev Concur {α : Type} (x y : Except Stop α) : Prop := Coupled Eq x y

section Coupled

variable {α β : Type}

theorem concur_rfl (x : Except Stop α) : Concur x x := by
  rcases x with (e | f) | a
  · exact .refused e
  · exact .left f _
  · exact .given rfl

theorem Coupled.of_ok {x y : Except Stop α} {a : α} (concur : Concur x y) (given : x = .ok a) :
    y = .ok a ∨ ∃ f, y = breakOff f := by
  subst given
  cases concur with
  | right _ f => exact Or.inr ⟨f, rfl⟩
  | given same => exact Or.inl (congrArg Except.ok same.symm)

/-- Questions that concur may be put one after the other. -/
theorem concur_bind {x y : Except Stop α} {f g : α → Except Stop β} (first : Concur x y)
    (second : ∀ a, x = .ok a → y = .ok a → Concur (f a) (g a)) : Concur (x >>= f) (y >>= g) := by
  cases first with
  | left fault y => exact .left fault _
  | right x fault => exact .right _ fault
  | refused e => exact .refused e
  | given same =>
    cases same
    exact second _ rfl rfl

theorem concur_allM {f g : α → Except Stop Bool} (each : ∀ x, Concur (f x) (g x)) (xs : List α) :
    Concur (xs.allM f) (xs.allM g) := by
  induction xs with
  | nil => exact concur_rfl _
  | cons head tail ih =>
    refine concur_bind (each head) fun agrees _ _ => ?_
    cases agrees
    · exact concur_rfl _
    · exact ih

theorem concur_anyM {f g : α → Except Stop Bool} (each : ∀ x, Concur (f x) (g x)) (xs : List α) :
    Concur (xs.anyM f) (xs.anyM g) := by
  induction xs with
  | nil => exact concur_rfl _
  | cons head tail ih =>
    refine concur_bind (each head) fun agrees _ _ => ?_
    cases agrees
    · exact ih
    · exact concur_rfl _

theorem concur_mapM {f g : α → Except Stop β} (each : ∀ x, Concur (f x) (g x)) (xs : List α) :
    Concur (xs.mapM f) (xs.mapM g) := by
  induction xs with
  | nil => exact concur_rfl _
  | cons head tail ih =>
    rw [List.mapM_cons, List.mapM_cons]
    exact concur_bind (each head) fun _ _ _ => concur_bind ih fun _ _ _ => concur_rfl _

end Coupled

namespace Value

theorem equalsBy_concur {same same' : Ref → Ref → Except Stop Bool}
    (each : ∀ r s, Concur (same r s) (same' r s)) (v w : Value) : Concur (v.equalsBy same w) (v.equalsBy same' w) := by
  have pairwise : ∀ xs ys : List Ref, Concur (pairwiseBy same xs ys) (pairwiseBy same' xs ys) :=
    fun xs ys => concur_allM (fun pair : Ref × Ref => each pair.1 pair.2) (xs.zip ys)
  have included : ∀ xs ys : List Ref, Concur (xs.allM (containsBy same ys)) (xs.allM (containsBy same' ys)) :=
    fun xs ys => concur_allM (fun x => concur_anyM (fun y => each y x) ys) xs
  cases v <;> cases w <;> simp only [equalsBy] <;> first | exact concur_rfl _ | split
  all_goals first | exact concur_rfl _ | exact pairwise _ _ | exact included _ _

theorem renderBy_concur {render render' : Ref → Except Stop String} (each : ∀ r, Concur (render r) (render' r))
    (v : Value) : Concur (v.renderBy render) (v.renderBy render') := by
  have items : ∀ (opening closing : String) (xs : List Ref),
      Concur (do return bracketed opening closing (← xs.mapM render))
        (do return bracketed opening closing (← xs.mapM render')) :=
    fun _ _ xs => concur_bind (concur_mapM each xs) fun _ _ _ => concur_rfl _
  cases v with
  | list xs => exact items _ _ xs
  | set xs => exact items _ _ xs
  | tuple xs => exact items _ _ xs
  | record fields =>
    refine concur_bind (concur_mapM (fun field => ?_) fields.toList) fun _ _ _ => concur_rfl _
    exact concur_bind (each field.2) fun _ _ _ => concur_rfl _
  | _ => exact concur_rfl _

end Value

/-- Two heaps that cannot be told apart by references that do not dangle: what both let pass leads to
the same box, and what only one lets pass leads to none. -/
structure Heap.Alike (h k : Heap) : Prop where
  boxes : ∀ {a : Address}, h.Knows a → k.Knows a → h.boxes[a]? = k.boxes[a]?
  left : ∀ {a : Address}, h.Knows a → ¬ k.Knows a → h.boxes[a]? = none
  right : ∀ {a : Address}, k.Knows a → ¬ h.Knows a → k.boxes[a]? = none
  registry : h.tracking = k.tracking → h.registry = k.registry
  next : h.next = k.next
  boxed : h.boxed = k.boxed
  freed : h.freed = k.freed
  journal : h.journal = k.journal

namespace Heap

theorem passes_of_known {h : Heap} {a : Address} (known : h.Knows a) :
    (h.tracking && !h.registry.contains a) = false := by
  cases tracking : h.tracking with
  | false => rfl
  | true => simp [known tracking]

/-- Where both heaps let an address pass and have the same box there, it is located alike. -/
theorem locate_congr {h k : Heap} {a : Address} (knownH : h.Knows a) (knownK : k.Knows a)
    (same : h.boxes[a]? = k.boxes[a]?) (operation : String) :
    h.locate (some a) operation = k.locate (some a) operation := by
  simp only [locate, passes_of_known knownH, passes_of_known knownK, same]

/-- An address that passes and has no box at it is a fault. -/
theorem locate_dangling {h : Heap} {a : Address} (known : h.Knows a) (missing : h.boxes[a]? = none)
    (operation : String) : h.locate (some a) operation = breakOff (.dangling a) := by
  simp [locate, passes_of_known known, missing]

namespace Alike

variable {h k : Heap}

theorem locate (alike : h.Alike k) (r : Ref) (operation : String) :
    Concur (h.locate r operation) (k.locate r operation) := by
  cases r with
  | none => exact concur_rfl _
  | some a =>
    by_cases knownH : h.Knows a <;> by_cases knownK : k.Knows a
    · rw [locate_congr knownH knownK (alike.boxes knownH knownK)]
      exact concur_rfl _
    · rw [locate_dangling knownH (alike.left knownH knownK)]
      exact .left _ _
    · rw [locate_dangling knownK (alike.right knownK knownH)]
      exact .right _ _
    · rw [locate_unknown knownH, locate_unknown knownK]
      exact concur_rfl _

/-! Questions about alike heaps. -/

/-- Each reference is read alike in both heaps, unless one of them meets a fault. -/
theorem view (alike : h.Alike k) (r : Ref) : Concur (h.view r) (k.view r) := by
  have both := alike.locate r "view"
  unfold Heap.view
  generalize h.locate r "view" = x at both ⊢
  generalize k.locate r "view" = y at both ⊢
  cases both with
  | left f _ => exact .left f _
  | right _ f => exact .right _ f
  | refused e => exact .refused e
  | given same =>
    cases same
    exact concur_rfl _

theorem elements (alike : h.Alike k) (r : Ref) (kind : Kind) (operation : String) :
    Concur (h.elements r kind operation) (k.elements r kind operation) :=
  concur_bind (alike.locate r operation) fun _ _ _ => concur_rfl _

theorem fields (alike : h.Alike k) (r : Ref) (operation : String) :
    Concur (h.fields r operation) (k.fields r operation) :=
  concur_bind (alike.locate r operation) fun _ _ _ => concur_rfl _

theorem itemAt (alike : h.Alike k) (r : Ref) (kind : Kind) (index : Nat) (operation : String) :
    Concur (h.itemAt r kind index operation) (k.itemAt r kind index operation) :=
  concur_bind (alike.elements r kind operation) fun _ _ _ => concur_rfl _

theorem recordGet (alike : h.Alike k) (r : Ref) (field : String) :
    Concur (h.recordGet r field) (k.recordGet r field) :=
  concur_bind (alike.fields r _) fun _ _ _ => concur_rfl _

theorem listSize (alike : h.Alike k) (r : Ref) : Concur (h.listSize r) (k.listSize r) :=
  concur_bind (alike.elements r _ _) fun _ _ _ => concur_rfl _

theorem setSize (alike : h.Alike k) (r : Ref) : Concur (h.setSize r) (k.setSize r) :=
  concur_bind (alike.elements r _ _) fun _ _ _ => concur_rfl _

theorem boolValue (alike : h.Alike k) (r : Ref) : Concur (h.boolValue r) (k.boolValue r) :=
  concur_bind (alike.view r) fun _ _ _ => concur_rfl _

theorem intValue (alike : h.Alike k) (r : Ref) : Concur (h.intValue r) (k.intValue r) :=
  concur_bind (alike.view r) fun _ _ _ => concur_rfl _

theorem textValue (alike : h.Alike k) (r : Ref) : Concur (h.textValue r) (k.textValue r) :=
  concur_bind (alike.view r) fun _ _ _ => concur_rfl _

theorem equalsWithin (alike : h.Alike k) (m n : Nat) (a b : Ref) :
    Concur (h.equalsWithin m a b) (k.equalsWithin n a b) := by
  induction m generalizing n a b with
  | zero => exact .left _ _
  | succ m ih =>
    cases n with
    | zero => exact .right _ _
    | succ n =>
      unfold Heap.equalsWithin
      split
      · exact concur_bind (alike.view a) fun _ _ _ => concur_rfl _
      · refine concur_bind (alike.view a) fun v _ _ => concur_bind (alike.view b) fun w _ _ => ?_
        exact Value.equalsBy_concur (fun r s => ih n r s) v w

/-- The comparison concurs, although its bound comes from the number of boxes, which may differ. -/
theorem equals (alike : h.Alike k) (a b : Ref) : Concur (h.equals a b) (k.equals a b) :=
  alike.equalsWithin _ _ a b

theorem contains (alike : h.Alike k) (items : List Ref) (item : Ref) :
    Concur (h.contains items item) (k.contains items item) :=
  concur_anyM (fun candidate => alike.equals candidate item) items

theorem renderWithin (alike : h.Alike k) (m n : Nat) (r : Ref) :
    Concur (h.renderWithin m r) (k.renderWithin n r) := by
  induction m generalizing n r with
  | zero => exact .left _ _
  | succ m ih =>
    cases n with
    | zero => exact .right _ _
    | succ n =>
      exact concur_bind (alike.view r) fun v _ _ => Value.renderBy_concur (fun s => ih n s) v

theorem render (alike : h.Alike k) (r : Ref) : Concur (h.render r) (k.render r) := alike.renderWithin _ _ r

theorem renderTop (alike : h.Alike k) (r : Ref) : Concur (h.renderTop r) (k.renderTop r) := by
  refine concur_bind (alike.view r) fun v _ _ => ?_
  cases v with
  | string bytes => exact concur_rfl _
  | _ => exact Value.renderBy_concur (fun s => alike.renderWithin _ _ s) _

/-- The searches go the same way as long as the same viewable boxes are fresh to both. -/
theorem search (alike : h.Alike k) {target : Ref} {fresh fresh' : Std.TreeMap Address Box} {pending : List Ref}
    (same : ∀ r, h.Viewable r → k.Viewable r → fresh.contains r.address = fresh'.contains r.address) :
    Concur (h.search target fresh pending) (k.search target fresh' pending) := by
  fun_induction h.search target fresh pending generalizing fresh' with
  | case1 =>
    rw [Heap.search]
    exact concur_rfl _
  | case2 =>
    rw [Heap.search, if_pos rfl]
    exact concur_rfl _
  | case3 fresh r rest other stop failed =>
    rw [Heap.search, if_neg other]
    have both := alike.view r
    rw [failed] at both
    generalize k.view r = seen at both ⊢
    cases both with
    | left f => exact .left f _
    | right _ f => exact .right _ f
    | refused e => exact .refused e
  | case4 fresh r rest other v viewed present ih =>
    rw [Heap.search, if_neg other]
    rcases (alike.view r).of_ok viewed with viewedK | ⟨f, broken⟩
    · have present' : fresh'.contains r.address = true := same r ⟨v, viewed⟩ ⟨v, viewedK⟩ ▸ present
      rw [viewedK]
      simp only [dif_pos present']
      refine ih fun s left right => ?_
      rw [Std.TreeMap.contains_erase, Std.TreeMap.contains_erase, same s left right]
    · rw [broken]
      exact .right _ f
  | case5 fresh r rest other v viewed seen ih =>
    rw [Heap.search, if_neg other]
    rcases (alike.view r).of_ok viewed with viewedK | ⟨f, broken⟩
    · have seen' : ¬ fresh'.contains r.address = true := same r ⟨v, viewed⟩ ⟨v, viewedK⟩ ▸ seen
      rw [viewedK]
      simp only [dif_neg seen']
      exact ih same
    · rw [broken]
      exact .right _ f

/-- The searches concur, although one may have more boxes to go through. -/
theorem reaches (alike : h.Alike k) (source target : Ref) :
    Concur (h.reaches source target) (k.reaches source target) := by
  refine alike.search fun r left right => ?_
  have present : ∀ l : Heap, l.Viewable r → l.boxes.contains r.address = true := by
    rintro l ⟨v, viewed⟩
    obtain ⟨a, b, rfl, _, found, _⟩ := view_found viewed
    simp [Ref.address, Std.TreeMap.contains_eq_isSome_getElem?, found]
  rw [present h left, present k right]

theorem checkInsert (alike : h.Alike k) (container item : Ref) (operation : String) :
    Concur (h.checkInsert container item operation) (k.checkInsert container item operation) := by
  unfold Heap.checkInsert
  split
  · exact concur_rfl _
  · exact concur_bind (alike.view item) fun _ _ _ =>
      concur_bind (alike.reaches item container) fun _ _ _ => concur_rfl _

/-- The same insertions are accepted, and for the same place. -/
theorem plan (alike : h.Alike k) (i : Insertion) : Concur (i.plan h) (i.plan k) := by
  refine concur_bind (alike.checkInsert _ _ _) fun _ _ _ => ?_
  cases i with
  | listAdd list item => exact concur_bind (alike.elements _ _ _) fun _ _ _ => concur_rfl _
  | setAdd set item =>
    exact concur_bind (alike.elements _ _ _) fun found _ _ =>
      concur_bind (alike.contains found.2 item) fun _ _ _ => concur_rfl _
  | tupleSet tuple index item => exact concur_bind (alike.elements _ _ _) fun _ _ _ => concur_rfl _
  | recordPut record field item => exact concur_bind (alike.fields _ _) fun _ _ _ => concur_rfl _

end Alike

end Heap

end CountedBox
