import CountedBox.Boxing
import CountedBox.Proofs.Heap.Coherence

namespace CountedBox

@[simp] theorem ok_bind {ε α β : Type} (a : α) (f : α → Except ε β) : (Except.ok a >>= f) = f a := rfl

/-- A success in two parts is a success of both. -/
theorem ok_of_bind_ok {ε α β : Type} {x : Except ε α} {f : α → Except ε β} {y : β}
    (done : x >>= f = .ok y) : ∃ a, x = .ok a ∧ f a = .ok y := by
  cases x with
  | error e => simp [bind, Except.bind] at done
  | ok a => exact ⟨a, rfl, done⟩

/-- A failure in two parts is a failure of one of them. -/
theorem error_of_bind_error {ε α β : Type} {x : Except ε α} {f : α → Except ε β} {e : ε}
    (failed : x >>= f = .error e) : x = .error e ∨ ∃ a, x = .ok a ∧ f a = .error e := by
  cases x with
  | error e' => exact Or.inl (by simpa [bind, Except.bind] using failed)
  | ok a => exact Or.inr ⟨a, rfl, failed⟩

namespace Action

variable {α β : Type}

/-- An action that stops leaves the heap as it is then, and what was to follow is not done. -/
theorem run_bind (x : Action α) (f : α → Action β) (h : Heap) :
    (x >>= f).run h = match x.run h with
      | (.ok a, h') => (f a).run h'
      | (.error stop, h') => (.error stop, h') := by
  cases first : x.run h with
  | mk outcome h' =>
    change x h = (outcome, h') at first
    change (x >>= f) h = _
    simp only [bind, ExceptT.bind, ExceptT.mk, StateT.bind, first]
    cases outcome <;> rfl

theorem run_map (g : α → β) (x : Action α) (h : Heap) :
    (g <$> x).run h = ((x.run h).1.map g, (x.run h).2) := by
  cases first : x.run h with
  | mk outcome h' =>
    change x h = (outcome, h') at first
    change (g <$> x) h = (outcome.map g, h')
    simp only [Functor.map, ExceptT.map, ExceptT.mk, bind, StateT.bind, first]
    cases outcome <;> rfl

/-- What a mapped action fails with is what the action itself fails with. -/
theorem run_error_of_map {g : α → β} {x : Action α} {h h' : Heap} {stop : Stop}
    (run : (g <$> x).run h = (.error stop, h')) : x.run h = (.error stop, h') := by
  rw [run_map] at run
  cases ran : x.run h with
  | mk outcome next =>
    rw [ran] at run
    cases outcome <;> cases run
    rfl

@[simp] theorem run_pure (a : α) (h : Heap) : (pure a : Action α).run h = (.ok a, h) := rfl

@[simp] theorem run_ask (f : Heap → Except Stop α) (h : Heap) : (ask f).run h = (f h, h) := rfl

@[simp] theorem run_store (b : Located) (payload : Payload) (h : Heap) :
    (Action.store b payload).run h = (.ok (), h.store b payload) := rfl

end Action

@[simp] theorem run_box (v : Value) (h : Heap) : (box v).run h = (.ok (some h.next), (h.alloc v).2) := rfl

theorem run_retain (r : Ref) (h : Heap) :
    (retain r).run h = match h.addReference r with
      | .error stop => (.error stop, h)
      | .ok h' => (.ok (), h') := by
  rfl

theorem run_release (r : Ref) (deep : Bool) (h : Heap) :
    (release r deep).run h = match h.dropReference r deep with
      | .error stop => (.error stop, h)
      | .ok (h', none) => (.ok false, h')
      | .ok (h', some elements) =>
        if deep then match h'.releaseEach elements with
          | .error fault => (.error (.fault fault), h')
          | .ok h'' => (.ok true, h'')
        else (.ok true, h') := by
  rfl

namespace Heap

/-- A cascade is made of the changes that single boxes go through. -/
theorem releaseEach_changes {h h' : Heap} {pending : List Ref}
    (done : h.releaseEach pending = .ok h') : h.Changes h' := by
  fun_induction h.releaseEach pending with
  | case1 => cases done; exact .refl
  | case2 h r rest e refused ih => exact .head (.note _) (ih done)
  | case3 => simp at done
  | case4 h r rest next dropped ih => exact .head (.drop dropped) (ih done)
  | case5 h r rest next elements dropped ih => exact .head (.drop dropped) (ih done)

theorem retain_changes {h h' : Heap} {r : Ref} {outcome : Except Stop Unit}
    (run : (retain r).run h = (outcome, h')) : h.Changes h' := by
  rw [run_retain] at run
  split at run
  · cases run; exact .refl
  · rename_i added
    cases run
    exact .single (.retain added)

theorem release_changes {h h' : Heap} {r : Ref} {deep : Bool} {outcome : Except Stop Bool}
    (run : (release r deep).run h = (outcome, h')) : h.Changes h' := by
  rw [run_release] at run
  split at run
  · cases run; exact .refl
  · rename_i dropped
    cases run
    exact .single (.drop dropped)
  · rename_i next elements dropped
    split at run
    · split at run
      · cases run
        exact .single (.drop dropped)
      · rename_i released
        cases run
        exact .head (.drop dropped) (releaseEach_changes released)
    · cases run
      exact .single (.drop dropped)

/-- Giving a reference back is refused only before anything has happened. -/
theorem release_refused {h h' : Heap} {r : Ref} {deep : Bool} {e : Error}
    (run : (release r deep).run h = (.error (.error e), h')) :
    h' = h ∧ h.dropReference r deep = .error (.error e) := by
  rw [run_release] at run
  split at run
  · rename_i refused
    cases run
    exact ⟨rfl, refused⟩
  · cases run
  · split at run
    · split at run <;> cases run
    · cases run

end Heap

end CountedBox
