import CountedBox.Proofs.Ownership.Sets

namespace CountedBox

namespace Heap

section Balanced

variable {h h' : Heap} {held held' : Holdings} {touched r s : Ref} {v : Value}

/-- What can be viewed is a box that stores it. -/
theorem Balanced.stored_of_view (balanced : h.Balanced held) (viewed : h.view r = .ok v) :
    ∃ a b, r = some a ∧ h.Knows a ∧ h.boxes[a]? = some b ∧ b.Stores v := by
  obtain ⟨a, b, rfl, known, found, _⟩ := view_found viewed
  obtain ⟨w, stores⟩ := balanced.coherent.typed found known
  cases (view_stores known found stores).symm.trans viewed
  exact ⟨a, b, rfl, known, found, stores⟩

/-- What is held can be viewed. -/
theorem Balanced.viewable_of_holder (balanced : h.Balanced held) (holder : 0 < held r + h.occurrences r) :
    h.Viewable r := by
  obtain ⟨a, b, rfl, found⟩ := balanced.present holder
  exact balanced.coherent.viewable found (balanced.known found)

/-! What is still held and leads to nothing that was touched is there as before, with all below it. -/

namespace Keeps

/-- A box that is still referred to and was not touched is read as before. -/
theorem view_held (keeps : h.Keeps h' touched) (before : h.Balanced held) (after : h'.Balanced held')
    (other : r ≠ touched) (holder : 0 < held' r + h'.occurrences r) (viewed : h.view r = .ok v) :
    h'.view r = .ok v := by
  obtain ⟨w, viewedNow⟩ := after.viewable_of_holder holder
  cases viewed.symm.trans (keeps.view_old before after ⟨v, viewed⟩ other viewedNow)
  exact viewedNow

/-- So is all that is below a reference that does not reach what was touched. -/
theorem view_below (keeps : h.Keeps h' touched) (before : h.Balanced held) (after : h'.Balanced held')
    (holder : 0 < held' r + h'.occurrences r) (apart : ¬ h.Path r touched) (path : h.Path r s)
    (viewed : h.view s = .ok v) : h'.view s = .ok v := by
  induction path generalizing v with
  | refl => exact keeps.view_held before after (fun same => apart (same ▸ .refl)) holder viewed
  | @tail t u path edge ih =>
    obtain ⟨a, b, rfl, found, _⟩ := edge_iff.mp edge
    obtain ⟨w, viewedT⟩ := before.coherent.viewable found (before.known found)
    have member : u ∈ w.children := by rwa [← children_of_view viewedT]
    have positive := occurrences_pos_iff.mpr ⟨_, (ViewedEdge.of_view (ih viewedT) member).2⟩
    exact keeps.view_held before after (fun same => apart (same ▸ path.tail edge)) (by omega) viewed

/-- Such a reference keeps its meaning. -/
theorem denotes_held {x : Datum} (keeps : h.Keeps h' touched) (before : h.Balanced held)
    (after : h'.Balanced held') (holder : 0 < held' r + h'.occurrences r) (apart : ¬ h.Path r touched)
    (denotes : h.Denotes r x) : h'.Denotes r x :=
  denotes.transfer fun _ _ path => keeps.view_below before after holder apart path

/-- What was in order below it still is. -/
theorem proper_held (keeps : h.Keeps h' touched) (before : h.Balanced held) (after : h'.Balanced held')
    (holder : 0 < held' r + h'.occurrences r) (apart : ¬ h.Path r touched) (proper : h.Proper r) :
    h'.Proper r := by
  have back : ∀ {t}, h'.Path r t → h.Path r t := fun path =>
    keeps.path before after (proper.viewable r .refl) apart path
  refine ⟨fun t path => ?_, fun t items path viewed => ?_⟩
  · obtain ⟨w, viewed⟩ := proper.viewable t (back path)
    exact ⟨w, keeps.view_below before after holder apart (back path) viewed⟩
  · have viewedOld : h.view t = .ok (.set items) := keeps.view_old before after (proper.viewable t (back path))
      (fun same => apart (same ▸ back path)) viewed
    have same : ∀ u ∈ items, ∀ x, h'.Denotes u x → h.Denotes u x := fun u member x => by
      have edge := (ViewedEdge.of_view viewedOld member).2
      exact keeps.denotes before after (proper.viewable u ((back path).tail edge))
        fun below => apart (((back path).tail edge).trans below)
    refine (proper.distinct t items (back path) viewedOld).imp_of_mem fun {u w} inU inW differ x atU atW => ?_
    exact differ x (same u inU x atU) (same w inW x atW)

end Keeps

/-- Giving back a held reference lowers the count of what it leads to by one, whatever else is given back
with it. -/
theorem Balanced.release_count (balanced : h.Balanced held) (holds : 0 < held r) {deep : Bool}
    {outcome : Except Stop Bool} (run : (CountedBox.release r deep).run h = (outcome, h')) :
    h'.count r + 1 = h.count r := by
  obtain ⟨next, freed, dropped, _, _⟩ := balanced.drop holds deep
  obtain ⟨a, b, kind, rfl, _, found, _, ⟨_, rfl, rfl⟩ | ⟨last, rfl, rfl⟩⟩ := dropReference_cases dropped
  · rw [run_release, dropped] at run
    cases run
    rw [count_write, if_pos rfl, count_found found]
    dsimp only
    omega
  · have gone : ∀ {h' : Heap}, (h.remove a kind deep).Keeps h' none → h'.count (some a) = 0 := by
      intro h' keeps
      cases here : h'.boxes[a]? with
      | none => exact count_missing here
      | some b' =>
        rcases keeps.contents (by simp) here with ⟨c, old, _⟩ | ⟨new, _⟩
        · simp [getElem?_remove] at old
        · exact absurd (balanced.coherent.below found) (Nat.not_lt.mpr new)
    have missing : h'.count (some a) = 0 := by
      rw [run_release, dropped] at run
      dsimp only at run
      split at run
      · split at run
        · cases run
          exact gone (.refl _ none)
        · rename_i released
          cases run
          exact gone (.releaseEach released)
      · cases run
        exact gone (.refl _ none)
    rw [missing, count_found found, last]
    rfl

end Balanced

end Heap

end CountedBox
