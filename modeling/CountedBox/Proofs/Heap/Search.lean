import CountedBox.Heap.Search
import CountedBox.Proofs.Heap.Access

namespace CountedBox.Heap

/-- The reference leads to a box that can be viewed. -/
def Viewable (h : Heap) (r : Ref) : Prop := ∃ v, h.view r = .ok v

/-- One step from a viewable container to an element of it. -/
def ViewedEdge (h : Heap) (r s : Ref) : Prop := h.Viewable r ∧ h.Edge r s

/-- Zero or more such steps; only the last reference need not be viewable. -/
abbrev ViewedPath (h : Heap) : Ref → Ref → Prop := Relation.ReflTransGen h.ViewedEdge

theorem ViewedPath.path {h : Heap} {r s : Ref} (viewed : h.ViewedPath r s) : h.Path r s :=
  Relation.ReflTransGen.mono (fun _ _ (edge : h.ViewedEdge _ _) => edge.2) _ _ viewed

theorem ViewedEdge.of_view {h : Heap} {r s : Ref} {v : Value} (viewed : h.view r = .ok v)
    (member : s ∈ v.children) : h.ViewedEdge r s :=
  ⟨⟨v, viewed⟩, by rw [Edge, children_of_view viewed]; exact member⟩

/-- A way down from what can be viewed ends there or goes on from an element. -/
theorem path_of_view {h : Heap} {r t : Ref} {v : Value} (viewed : h.view r = .ok v) (path : h.Path r t) :
    t = r ∨ ∃ s ∈ v.children, h.Path s t := by
  rcases Relation.ReflTransGen.cases_head path with rfl | ⟨s, edge, rest⟩
  · exact Or.inl rfl
  · rw [Edge, children_of_view viewed] at edge
    exact Or.inr ⟨s, edge, rest⟩

/-- A search that succeeds has followed boxes that it could read, from one of the pending references to its target. -/
theorem search_true {h : Heap} {target : Ref} {fresh : Std.TreeMap Address Box} {pending : List Ref}
    (found : h.search target fresh pending = .ok true) : ∃ r ∈ pending, h.ViewedPath r target := by
  fun_induction h.search target fresh pending with
  | case1 => simp at found
  | case2 fresh rest => exact ⟨target, List.mem_cons_self, .refl⟩
  | case3 => simp at found
  | case4 fresh r rest other v viewed present ih =>
    obtain ⟨s, member, path⟩ := ih found
    rcases List.mem_append.mp member with child | later
    · have edge := ViewedEdge.of_view viewed (List.mem_reverse.mp child)
      exact ⟨r, List.mem_cons_self, .head edge path⟩
    · exact ⟨s, List.mem_cons_of_mem _ later, path⟩
  | case5 fresh r rest other v viewed seen ih =>
    obtain ⟨s, member, path⟩ := ih found
    exact ⟨s, List.mem_cons_of_mem _ member, path⟩

/-- A search that fails has come to something that cannot be read. -/
theorem search_error {h : Heap} {target : Ref} {fresh : Std.TreeMap Address Box} {pending : List Ref}
    {stop : Stop} (failed : h.search target fresh pending = .error stop) :
    ∃ r ∈ pending, ∃ s, h.ViewedPath r s ∧ h.view s = .error stop := by
  fun_induction h.search target fresh pending with
  | case1 => simp at failed
  | case2 => simp at failed
  | case3 fresh r rest other e refused =>
    cases failed
    exact ⟨r, List.mem_cons_self, r, .refl, refused⟩
  | case4 fresh r rest other v viewed present ih =>
    obtain ⟨s, member, last, path, refused⟩ := ih failed
    rcases List.mem_append.mp member with child | later
    · have edge := ViewedEdge.of_view viewed (List.mem_reverse.mp child)
      exact ⟨r, List.mem_cons_self, last, .head edge path, refused⟩
    · exact ⟨s, List.mem_cons_of_mem _ later, last, path, refused⟩
  | case5 fresh r rest other v viewed seen ih =>
    obtain ⟨s, member, last, path, refused⟩ := ih failed
    exact ⟨s, List.mem_cons_of_mem _ member, last, path, refused⟩

/-- A reference the search has looked into: viewed, not the target, and no longer fresh. -/
def Explored (h : Heap) (target : Ref) (fresh : Std.TreeMap Address Box) (r : Ref) : Prop :=
  r ≠ target ∧ h.Viewable r ∧ fresh.contains r.address = false

/-- What can be read is told apart by its address alone. -/
theorem Viewable.address_inj {h : Heap} {r s : Ref} (left : h.Viewable r) (right : h.Viewable s)
    (same : r.address = s.address) : r = s := by
  obtain ⟨v, viewed⟩ := left
  obtain ⟨w, viewed'⟩ := right
  obtain ⟨a, _, rfl, _⟩ := view_found viewed
  obtain ⟨c, _, rfl, _⟩ := view_found viewed'
  exact congrArg some same

/-- Looking into `r` makes it explored, and nothing else. -/
theorem explored_erase {h : Heap} {target : Ref} {fresh : Std.TreeMap Address Box} {r s : Ref}
    (other : r ≠ target) (viewable : h.Viewable r) :
    h.Explored target (fresh.erase r.address) s ↔ s = r ∨ h.Explored target fresh s := by
  simp only [Explored, Std.TreeMap.contains_erase]
  constructor
  · rintro ⟨apart, seen, gone⟩
    by_cases same : r.address = s.address
    · exact Or.inl (seen.address_inj viewable same.symm)
    · exact Or.inr ⟨apart, seen, by simpa [same] using gone⟩
  · rintro (rfl | ⟨apart, seen, gone⟩)
    · exact ⟨other, viewable, by simp⟩
    · exact ⟨apart, seen, by simp [gone]⟩

/-- The invariant of the search is that every unexplored element of an explored box is pending.
When nothing is pending any more, the explored boxes are closed under taking elements. -/
theorem search_false {h : Heap} {target : Ref} {fresh : Std.TreeMap Address Box} {pending : List Ref}
    (done : h.search target fresh pending = .ok false)
    (frontier : ∀ r, h.Explored target fresh r → ∀ s, h.Edge r s →
      h.Explored target fresh s ∨ s ∈ pending)
    {r s : Ref} (begun : h.Explored target fresh r ∨ r ∈ pending) (path : h.Path r s) :
    s ≠ target ∧ h.Viewable s := by
  -- All that an explored box leads to is explored or pending; when nothing is pending that closes every path.
  fun_induction h.search target fresh pending generalizing r s with
  | case1 fresh =>
    have explored : h.Explored target fresh s := by
      induction path with
      | refl => simpa using begun
      | tail _ edge ih => simpa using frontier _ ih _ edge
    exact ⟨explored.1, explored.2.1⟩
  | case2 => simp at done
  | case3 => simp at done
  | case4 fresh first rest other v viewed present ih =>
    have entered (x : Ref) : h.Explored target (fresh.erase first.address) x ↔
        x = first ∨ h.Explored target fresh x := explored_erase other ⟨v, viewed⟩
    refine ih done ?_ ?_ path
    · intro x explored y edge
      rw [entered] at explored ⊢
      rcases explored with rfl | explored
      · rw [Edge, children_of_view viewed] at edge
        exact Or.inr (List.mem_append_left _ (List.mem_reverse.mpr edge))
      · rcases frontier x explored y edge with old | waiting
        · exact Or.inl (Or.inr old)
        · rcases List.mem_cons.mp waiting with rfl | waiting
          · exact Or.inl (Or.inl rfl)
          · exact Or.inr (List.mem_append_right _ waiting)
    · rw [entered]
      rcases begun with old | waiting
      · exact Or.inl (Or.inr old)
      · rcases List.mem_cons.mp waiting with rfl | waiting
        · exact Or.inl (Or.inl rfl)
        · exact Or.inr (List.mem_append_right _ waiting)
  | case5 fresh first rest other v viewed seen ih =>
    have explored : h.Explored target fresh first := ⟨other, ⟨v, viewed⟩, Bool.eq_false_iff.mpr seen⟩
    have move : ∀ {x}, (h.Explored target fresh x ∨ x ∈ first :: rest) →
        h.Explored target fresh x ∨ x ∈ rest := by
      rintro x (old | waiting)
      · exact Or.inl old
      · rcases List.mem_cons.mp waiting with rfl | waiting
        · exact Or.inl explored
        · exact Or.inr waiting
    exact ih done (fun x old y edge => move (frontier x old y edge)) (move begun) path

/-- A source that is said to reach the target does, through boxes that can be read. -/
theorem reaches_true {h : Heap} {source target : Ref} (found : h.reaches source target = .ok true) :
    h.ViewedPath source target := by
  obtain ⟨r, member, path⟩ := search_true found
  rw [List.mem_singleton] at member
  exact member ▸ path

/-- A search from a source fails at something that is reached and cannot be read. -/
theorem reaches_error {h : Heap} {source target : Ref} {stop : Stop}
    (failed : h.reaches source target = .error stop) :
    ∃ s, h.ViewedPath source s ∧ h.view s = .error stop := by
  obtain ⟨r, member, s, path, refused⟩ := search_error failed
  rw [List.mem_singleton] at member
  exact ⟨s, member ▸ path, refused⟩

/-- A source that is said not to reach the target does not, and then all that it reaches can be read. -/
theorem reaches_false {h : Heap} {source target : Ref} (done : h.reaches source target = .ok false)
    {s : Ref} (path : h.Path source s) : s ≠ target ∧ h.Viewable s := by
  refine search_false done ?_ (Or.inr List.mem_cons_self) path
  -- At the start every viewable box is fresh, so nothing is explored yet.
  rintro r ⟨_, ⟨v, viewed⟩, gone⟩
  obtain ⟨a, b, rfl, _, found, _⟩ := view_found viewed
  simp [Ref.address, Std.TreeMap.contains_eq_isSome_getElem?, found] at gone

/-- Where everything reachable can be viewed, the search decides reachability. -/
theorem reaches_of_clear {h : Heap} {source : Ref} (clear : ∀ s, h.Path source s → h.Viewable s) (target : Ref) :
    ∃ found, h.reaches source target = .ok found ∧ (found = true ↔ h.Path source target) := by
  cases result : h.reaches source target with
  | error stop =>
    obtain ⟨s, toS, refused⟩ := reaches_error result
    obtain ⟨v, viewed⟩ := clear s toS.path
    cases viewed.symm.trans refused
  | ok found =>
    refine ⟨found, rfl, ?_⟩
    cases found with
    | true => exact iff_of_true rfl (reaches_true result).path
    | false => exact iff_of_false Bool.false_ne_true fun path => (reaches_false result path).1 rfl

/-- What has been checked of an item that a container may take over. -/
theorem checkInsert_ok {h : Heap} {container item : Ref} {operation : String}
    (checked : h.checkInsert container item operation = .ok ()) :
    h.Viewable item ∧ ∀ s, h.Path item s → s ≠ container ∧ h.Viewable s := by
  unfold checkInsert at checked
  split at checked
  · simp [refuse] at checked
  · cases viewed : h.view item with
    | error stop => simp [viewed, bind, Except.bind] at checked
    | ok v =>
      cases result : h.reaches item container with
      | error stop => simp [viewed, result, bind, Except.bind] at checked
      | ok found =>
        cases found with
        | true => simp [viewed, result, bind, Except.bind, refuse] at checked
        | false => exact ⟨⟨v, viewed⟩, fun s path => reaches_false result path⟩

/-- The check complains of a cycle only where the item does reach the container. -/
theorem checkInsert_cyclic {h : Heap} {container item : Ref} {operation : String} {a : Address}
    (refused : h.checkInsert container item operation = .error (.error (.cyclicReference a))) :
    a = container.address ∧ h.ViewedPath item container := by
  unfold checkInsert at refused
  split at refused
  · simp [refuse] at refused
  · cases viewed : h.view item with
    | error stop =>
      simp only [viewed, bind, Except.bind, Except.error.injEq] at refused
      exact absurd refused (view_ne_cyclic viewed a)
    | ok v =>
      cases result : h.reaches item container with
      | error stop =>
        simp only [viewed, result, bind, Except.bind, Except.error.injEq] at refused
        obtain ⟨s, _, failed⟩ := reaches_error result
        exact absurd refused (view_ne_cyclic failed a)
      | ok found =>
        cases found with
        | true =>
          simp only [viewed, result, bind, Except.bind, refuse, if_true, Except.error.injEq,
            Stop.error.injEq, Error.cyclicReference.injEq] at refused
          exact ⟨refused.symm, reaches_true result⟩
        | false => simp [viewed, result, bind, Except.bind, pure, Except.pure] at refused

/-- The guard turns an item away as cyclic exactly when it leads to the container. -/
theorem checkInsert_cyclic_of_path {h : Heap} {container item : Ref} {operation : String}
    (clear : ∀ s, h.Path item s → h.Viewable s) (path : h.Path item container) :
    h.checkInsert container item operation = refuse (.cyclicReference container.address) := by
  obtain ⟨v, viewed⟩ := clear item .refl
  obtain ⟨a, b, rfl, -⟩ := view_found viewed
  obtain ⟨found, answered, decided⟩ := reaches_of_clear clear container
  simp [checkInsert, viewed, answered, decided.mpr path, bind, Except.bind]

/-- It lets the item pass if it does not. -/
theorem checkInsert_of_apart {h : Heap} {container item : Ref} {operation : String}
    (clear : ∀ s, h.Path item s → h.Viewable s) (apart : ¬ h.Path item container) :
    h.checkInsert container item operation = .ok () := by
  obtain ⟨v, viewed⟩ := clear item .refl
  obtain ⟨a, b, rfl, -⟩ := view_found viewed
  obtain ⟨found, answered, decided⟩ := reaches_of_clear clear container
  have absent : found = false := Bool.eq_false_iff.mpr (mt decided.mp apart)
  simp [checkInsert, viewed, answered, absent, bind, Except.bind, pure, Except.pure]

end CountedBox.Heap
