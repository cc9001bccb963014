import CountedBox.Proofs.Denotation.Congruence
import CountedBox.Proofs.Heap.Contents
import CountedBox.Proofs.Operation.Tracked
import CountedBox.Proofs.Ownership.Client

namespace CountedBox

namespace Heap

/-- The reference is below a set: one of its elements, or reachable from one. -/
def InSet (h : Heap) (r : Ref) : Prop :=
  ∃ s items, h.view s = .ok (.set items) ∧ Relation.TransGen h.Edge s r

/-- The elements of every set denote pairwise different values. -/
def SetsDistinct (h : Heap) : Prop := ∀ r items, h.view r = .ok (.set items) → h.Distinct items

section Balanced

variable {h h' : Heap} {held held' : Holdings} {touched : Ref}

/-- What a container holds can be viewed. -/
theorem Balanced.viewable (balanced : h.Balanced held) {r s : Ref} (viewable : h.Viewable r)
    (path : h.Path r s) : h.Viewable s := by
  cases path with
  | refl => exact viewable
  | tail _ edge =>
    have positive := occurrences_pos_iff.mpr ⟨_, edge⟩
    obtain ⟨a, b, rfl, found⟩ := balanced.present (r := s) (by omega)
    exact balanced.coherent.viewable found (balanced.known found)

theorem Balanced.proper (balanced : h.Balanced held) (distinct : h.SetsDistinct) {r : Ref}
    (viewable : h.Viewable r) : h.Proper r :=
  ⟨fun _ path => balanced.viewable viewable path, fun s items _ viewed => distinct s items viewed⟩

theorem Balanced.not_inSet_null (balanced : h.Balanced held) : ¬ h.InSet none := by
  rintro ⟨s, items, viewed, below⟩
  obtain ⟨v, here⟩ := balanced.viewable ⟨_, viewed⟩ below.to_reflTransGen
  obtain ⟨a, b, none, _⟩ := view_found here
  cases none

/-- What nothing holds is in no set. -/
theorem not_inSet_of_unheld {r : Ref} (unheld : h.occurrences r = 0) : ¬ h.InSet r := by
  rintro ⟨s, items, _, below⟩
  obtain ⟨t, _, edge⟩ := Relation.TransGen.tail'_iff.mp below
  have positive := occurrences_pos_iff.mpr ⟨t, edge⟩
  omega

/-- Comparing two elements of a set with pairwise different elements says that they differ. -/
theorem Balanced.equals_of_distinct (balanced : h.Balanced held) (distinct : h.SetsDistinct) {r x y : Ref}
    {items : List Ref} (viewed : h.view r = .ok (.set items)) {i j : Nat} (other : i ≠ j)
    (atI : items[i]? = some x) (atJ : items[j]? = some y) : h.equals x y = .ok false := by
  have acyclic := balanced.coherent.acyclic
  have proper : ∀ {s}, s ∈ items → h.Proper s := fun member =>
    (balanced.proper distinct ⟨_, viewed⟩).element viewed member
  have inX := List.mem_of_getElem? atI
  have inY := List.mem_of_getElem? atJ
  obtain ⟨d, denotesX⟩ := (proper inX).denotes acyclic
  obtain ⟨e, denotesY⟩ := (proper inY).denotes acyclic
  have different : d ≠ e := by
    obtain ⟨boundI, rfl⟩ := List.getElem?_eq_some_iff.mp atI
    obtain ⟨boundJ, rfl⟩ := List.getElem?_eq_some_iff.mp atJ
    have pairs := List.pairwise_iff_getElem.mp (distinct r items viewed)
    rintro rfl
    rcases Nat.lt_or_gt_of_ne other with before | after
    · exact pairs i j boundI boundJ before d denotesX denotesY
    · exact pairs j i boundJ boundI after d denotesY denotesX
  obtain ⟨answer, done⟩ := equals_answer acyclic (proper inX) (proper inY)
  rw [done]
  refine congrArg Except.ok (Bool.eq_false_iff.mpr ?_)
  rintro rfl
  exact different ((equals_true_iff acyclic (proper inX) (proper inY) denotesX denotesY).mp done)

end Balanced

/-! What is not above the touched box denotes what it did. -/

namespace Keeps

variable {h h' : Heap} {held held' : Holdings} {touched : Ref}

/-- What is read afterwards was read before, or the box is new, and then it is no set with elements. -/
theorem view (keeps : h.Keeps h' touched) (before : h.Balanced held) (after : h'.Balanced held')
    {r : Ref} {v : Value} (other : r ≠ touched) (viewed : h'.view r = .ok v) :
    h.view r = .ok v ∨ ¬ h.Viewable r ∧ ∀ items, v = .set items → items = [] := by
  obtain ⟨a, b', rfl, known', found', _⟩ := view_found viewed
  obtain ⟨w, stores'⟩ := after.coherent.typed found' known'
  cases (view_stores known' found' stores').symm.trans viewed
  rcases keeps.contents other found' with ⟨b, found, tag, payload⟩ | ⟨new, bare⟩
  · have stores : b.Stores v := ⟨tag.trans stores'.1, payload.trans stores'.2⟩
    exact Or.inl (view_stores (before.known found) found stores)
  · refine Or.inr ⟨?_, ?_⟩
    · rintro ⟨_, viewed⟩
      obtain ⟨_, b, same, _, found, _⟩ := view_found viewed
      cases same
      exact absurd (before.coherent.below found) (Nat.not_lt.mpr new)
    · rintro items rfl
      exact bare items stores'

theorem view_old (keeps : h.Keeps h' touched) (before : h.Balanced held) (after : h'.Balanced held')
    {r : Ref} {v : Value} (old : h.Viewable r) (other : r ≠ touched) (viewed : h'.view r = .ok v) :
    h.view r = .ok v :=
  (keeps.view before after other viewed).resolve_right fun new => new.1 old

/-- What is reached afterwards, apart from what was touched, was reached before. -/
theorem path (keeps : h.Keeps h' touched) (before : h.Balanced held) (after : h'.Balanced held')
    {r s : Ref} (old : h.Viewable r) (apart : ¬ h.Path r touched) (path : h'.Path r s) : h.Path r s := by
  induction path with
  | refl => exact .refl
  | @tail t u _ edge ih =>
    have other : t ≠ touched := fun same => apart (same ▸ ih)
    obtain ⟨a, b, rfl, found, _⟩ := edge_iff.mp edge
    obtain ⟨v, viewed⟩ := after.coherent.viewable found (after.known found)
    have kept := keeps.view_old before after (before.viewable old ih) other viewed
    have member : u ∈ v.children := by rwa [← children_of_view viewed]
    exact ih.tail (ViewedEdge.of_view kept member).2

/-- So a meaning afterwards is the meaning from before. -/
theorem denotes (keeps : h.Keeps h' touched) (before : h.Balanced held) (after : h'.Balanced held')
    {r : Ref} {x : Datum} (old : h.Viewable r) (apart : ¬ h.Path r touched) (denotes : h'.Denotes r x) :
    h.Denotes r x := by
  refine denotes.transfer fun s v path viewed => ?_
  have reached : h.Path r s := keeps.path before after old apart path
  have other : s ≠ touched := fun same => apart (same ▸ reached)
  exact keeps.view_old before after (before.viewable old reached) other viewed

/-- If the touched box is below no set and its own elements differ, the elements of every set do. -/
theorem setsDistinct (keeps : h.Keeps h' touched) (before : h.Balanced held) (after : h'.Balanced held')
    (distinct : h.SetsDistinct) (outside : ¬ h.InSet touched)
    (own : ∀ items, h'.view touched = .ok (.set items) → h'.Distinct items) : h'.SetsDistinct := by
  intro r items viewed
  by_cases here : r = touched
  · exact own items (here ▸ viewed)
  · rcases keeps.view before after here viewed with kept | ⟨_, bare⟩
    · have same : ∀ s ∈ items, ∀ x, h'.Denotes s x → h.Denotes s x := by
        intro s member x denotes
        have edge : h.Edge r s := (ViewedEdge.of_view kept member).2
        refine keeps.denotes before after (before.viewable ⟨_, kept⟩ (.single edge)) (fun path => ?_) denotes
        exact outside ⟨r, items, kept, .head' edge path⟩
      refine (distinct r items kept).imp_of_mem fun {s t} inS inT apart x denotesS denotesT => ?_
      exact apart x (same s inS x denotesS) (same t inT x denotesT)
    · rw [bare items rfl]
      exact .nil

/-- An item that no element of a set equals denotes something else than each of them. -/
theorem apart_of_absent {old : List Ref} {item s : Ref} (balanced : h.Balanced held) (distinct : h.SetsDistinct)
    (absent : h.contains old item = .ok false) (member : s ∈ old) (viewableS : h.Viewable s)
    (viewable : h.Viewable item) (x : Datum) (denotesS : h.Denotes s x) : ¬ h.Denotes item x := by
  intro denotes
  have equal : h.equals s item = .ok true := (equals_true_iff balanced.coherent.acyclic
    (balanced.proper distinct viewableS) (balanced.proper distinct viewable) denotesS denotes).mpr rfl
  have searched : false = true ↔ ∃ s ∈ old, h.equals s item = .ok true :=
    anyM_ok absent fun s _ b compared => by rw [compared]; simp
  exact absurd (searched.mpr ⟨s, member, equal⟩) (by simp)

/-- If only the set that was added to is touched, its elements and the item that none of them equals
still denote what they did. -/
theorem distinct_added {item : Ref} {old : List Ref} (keeps : h.Keeps h' touched) (before : h.Balanced held)
    (after : h'.Balanced held') (distinct : h.SetsDistinct) (viewed : h.view touched = .ok (.set old))
    (absent : h.contains old item = .ok false) (viewable : h.Viewable item) (apart : ¬ h.Path item touched) :
    h'.Distinct (old ++ [item]) := by
  have below : ∀ s ∈ old, h.Edge touched s := fun s => And.right ∘ ViewedEdge.of_view viewed
  have elements : ∀ s ∈ old, h.Viewable s := fun s member =>
    before.viewable ⟨_, viewed⟩ (.single (below s member))
  have same : ∀ s ∈ old, ∀ x, h'.Denotes s x → h.Denotes s x := fun s member x =>
    keeps.denotes before after (elements s member) fun path =>
      before.coherent.acyclic _ (.head' (below s member) path)
  have sameItem : ∀ x, h'.Denotes item x → h.Denotes item x := fun x => keeps.denotes before after viewable apart
  refine List.pairwise_append.mpr ⟨?_, List.pairwise_singleton _ _, ?_⟩
  · refine (distinct _ old viewed).imp_of_mem fun {s t} inS inT differ x denotesS denotesT => ?_
    exact differ x (same s inS x denotesS) (same t inT x denotesT)
  · intro s member t isItem x denotesS denotes
    cases List.mem_singleton.mp isItem
    exact apart_of_absent before distinct absent member (elements s member) viewable x
      (same s member x denotesS) (sameItem x denotes)

end Keeps

end Heap

/-! An insertion keeps the elements of sets apart, unless it changes a container below a set. -/

namespace Insertion

variable {h h' : Heap} {held : Holdings} {i : Insertion} {b : Located}

/-- Only adding to a set stores a set: the item goes behind elements that do not equal it. -/
theorem plan_set {items : List Ref} {displaced : Option Ref}
    (planned : i.plan h = .ok (.store b (.set items) displaced)) :
    displaced = none ∧ ∃ old, items = old ++ [i.item] ∧ h.view i.container = .ok (.set old) ∧
      h.contains old i.item = .ok false := by
  obtain ⟨_, _, placed⟩ := ok_of_bind_ok planned
  cases i with
  | listAdd list item =>
    obtain ⟨found, _, chosen⟩ := ok_of_bind_ok placed
    cases chosen
  | setAdd set item =>
    obtain ⟨⟨c, old⟩, given, searched⟩ := ok_of_bind_ok placed
    obtain ⟨present, absent, chosen⟩ := ok_of_bind_ok searched
    cases present with
    | true => cases chosen
    | false =>
      cases chosen
      obtain ⟨rfl, found, known, tagged, payload⟩ := Heap.elements_ok given
      exact ⟨rfl, old, rfl, Heap.view_stores known found (.of_tagged tagged payload), absent⟩
  | tupleSet tuple index item =>
    obtain ⟨⟨c, old⟩, _, chosen⟩ := ok_of_bind_ok placed
    dsimp only at chosen
    split at chosen <;> cases chosen
  | recordPut record field item =>
    obtain ⟨found, _, chosen⟩ := ok_of_bind_ok placed
    cases chosen

theorem plan_of_place {placement : Placement} (checked : h.checkInsert i.container i.item i.operation = .ok ())
    (placed : i.place h = .ok placement) : i.plan h = .ok placement := by
  rw [plan, checked, ok_bind, placed]

/-- Where nothing is displaced an accepted insertion just stores. -/
theorem run_of_plan {content : Value} (planned : i.plan h = .ok (.store b content none)) :
    i.run.run h = (.ok i.stored, h.store b content.payload) := by
  rw [run_eq, planned]
  rfl

/-- After the store the container is read as its new content. -/
theorem Accepted.view_store {content : Value} {displaced : Option Ref}
    (accepted : i.Accepted h b content displaced) : (h.store b content.payload).view i.container = .ok content := by
  rw [accepted.container]
  refine Heap.view_stores (b := { b.box with payload := content.payload }) accepted.known ?_
    (.of_tagged accepted.tagged rfl)
  rw [Heap.store, Heap.getElem?_write, if_pos rfl]

/-- An insertion into what no set holds leaves the elements of all sets apart. -/
theorem run_setsDistinct {outcome : Except Stop Reply} {held' : Holdings} (before : h.Balanced held)
    (after : h'.Balanced held') (distinct : h.SetsDistinct) (owned : held.Owns i.item)
    (outside : ¬ h.InSet (i.touched h)) (run : i.run.run h = (outcome, h')) : h'.SetsDistinct := by
  have keeps := i.run_keeps run
  refine keeps.setsDistinct before after distinct outside fun items viewed => ?_
  unfold touched at keeps outside viewed
  cases planned : i.plan h with
  | error stop =>
    rw [planned] at viewed
    cases viewed
  | ok placement =>
    cases placement with
    | present =>
      rw [planned] at viewed
      cases viewed
    | store b content displaced =>
      have accepted := plan_store planned
      obtain ⟨viewable, apart⟩ := Heap.checkInsert_ok accepted.checked
      have stored := before.store accepted (item_held planned owned)
      rw [planned] at keeps viewed
      -- What is in the container now is what was stored, so it is a set only if the set was added to.
      have container : i.container ≠ none := by simp [accepted.container]
      have kept := (run_keeps_stored planned run none).view_old stored after ⟨_, accepted.view_store⟩ container viewed
      cases kept.symm.trans accepted.view_store
      obtain ⟨rfl, old, rfl, viewedOld, absent⟩ := plan_set planned
      exact keeps.distinct_added before after distinct viewedOld absent viewable fun path => (apart _ path).1 rfl

end Insertion

/-- So does any request that touches nothing that a set holds. -/
theorem Request.run_setsDistinct {q : Request} {h h' : Heap} {held held' : Holdings} {outcome : Except Stop Reply}
    (before : h.Balanced held) (after : h'.Balanced held') (permitted : q.Permitted h held)
    (bare : ∀ items, q = .box (.set items) → items = []) (distinct : h.SetsDistinct)
    (outside : ¬ h.InSet (q.touched h)) (run : q.run.run h = (outcome, h')) : h'.SetsDistinct := by
  cases q with
  | insert i => exact i.run_setsDistinct before after distinct permitted.2 outside run
  | _ =>
    have keeps := Request.run_keeps bare run
    exact keeps.setsDistinct before after distinct outside fun items viewed => by cases viewed

/-- Only an insertion that finds nothing against it touches a container. -/
theorem Request.inSet_touched {q : Request} {h : Heap} {held : Holdings} (balanced : h.Balanced held)
    (below : h.InSet (q.touched h)) : ∃ i, q = .insert i ∧ h.InSet i.container ∧
      ∃ b content displaced, i.plan h = .ok (.store b content displaced) := by
  cases q with
  | insert i =>
    change h.InSet (i.touched h) at below
    unfold Insertion.touched at below
    split at below
    · rename_i planned
      exact ⟨i, rfl, below, _, _, _, planned⟩
    · exact absurd below balanced.not_inSet_null
  | _ => exact absurd below balanced.not_inSet_null

/-- Entries make only empty sets. -/
theorem Entry.bare_of_request {e : Entry} {items : List Ref} (asked : e.request? = some (.box (.set items))) :
    items = [] := by
  cases e <;> simp [request?] at asked
  exact asked

theorem Operation.perform_setsDistinct {e : Entry} {s s' : Session} {held : Holdings} {x : Except Error Reply}
    (balanced : s.heap.Balanced held) (permitted : (entry e).Permitted s.heap held)
    (distinct : s.heap.SetsDistinct)
    (outside : ∀ q, e.request? = some q → ¬ s.heap.InSet (q.touched s.heap))
    (done : (entry e).perform.run s = .ok (x, s')) : s'.heap.SetsDistinct := by
  have safe : ∀ r ∈ (entry e).inspected, s.heap.Safe NoFault r :=
    fun r member => (permitted.2 r member).safe
  rcases perform_cases (by simp [Steady]) balanced.guarded safe done with
    ⟨_, same⟩ | ⟨q, outcome, h, asked, run, _, heap⟩
  · rw [same]
    exact distinct
  · obtain ⟨_, _, ran, _, after⟩ := q.run_balanced balanced (permitted.1 q asked)
    cases ran.symm.trans run
    have settled : s'.heap.Balanced (q.settle s.heap held outcome) := by
      rw [heap]
      exact after.of_same rfl rfl rfl rfl rfl rfl
    have bare : ∀ items, q = .box (.set items) → items = [] := by
      rintro items rfl
      exact Entry.bare_of_request asked
    have next := q.run_setsDistinct balanced after (permitted.1 q asked) bare distinct (outside q asked) run
    have kept : h.Keeps s'.heap none := .of_boxes (by rw [heap]) (by rw [heap])
    exact kept.setsDistinct after settled next after.not_inSet_null fun items viewed => by cases viewed

/-- The sessions of a client of the entries that follows the rules of ownership and changes no
container below a set. -/
inductive SettledRun : Session → Holdings → Prop
  | start {s : Session} {tracking : Bool} : s.heap = { tracking } → SettledRun s fun _ => 0
  | operate {s s' : Session} {held : Holdings} {x : Except Error Reply} (e : Entry) :
      SettledRun s held → (Operation.entry e).Permitted s.heap held →
      (∀ q, e.request? = some q → ¬ s.heap.InSet (q.touched s.heap)) →
      (Operation.entry e).perform.run s = .ok (x, s') → SettledRun s' ((Operation.entry e).settle s.heap held)
  | beside {s s' : Session} {held : Holdings} : SettledRun s held → s'.heap = s.heap → SettledRun s' held

/-- Two elements of a set, at different places, are equal. -/
def Heap.HasTwins (h : Heap) : Prop :=
  ∃ (r : Ref) (items : List Ref) (i j : Nat) (x y : Ref), h.view r = .ok (.set items) ∧ i ≠ j ∧
    items[i]? = some x ∧ items[j]? = some y ∧ h.equals x y = .ok true

/-- An item passes the guard of a container that nothing holds. -/
theorem Heap.Balanced.checkInsert_unheld {h : Heap} {held : Holdings} (balanced : h.Balanced held)
    {container item : Ref} (viewable : h.Viewable item) (other : item ≠ container)
    (unheld : h.occurrences container = 0) (operation : String) :
    h.checkInsert container item operation = .ok () := by
  refine checkInsert_of_apart (fun s path => balanced.viewable viewable path) fun path => ?_
  rcases Relation.ReflTransGen.cases_tail path with same | ⟨t, _, edge⟩
  · exact other same.symm
  · have positive := occurrences_pos_iff.mpr ⟨t, edge⟩
    omega

namespace SettledRun

variable {s : Session} {held : Holdings}

theorem client (run : SettledRun s held) : ClientRun s held := by
  induction run with
  | start begun => exact .start begun
  | operate e _ permitted _ done ih => exact .operate (.entry e) ih (by simp [Operation.Steady]) permitted done
  | beside _ same ih => exact .beside ih same

/-- Along a settled run the elements of each set stay different. -/
theorem setsDistinct (run : SettledRun s held) : s.heap.SetsDistinct := by
  induction run with
  | start begun =>
    intro r items viewed
    obtain ⟨a, b, rfl, _, found, _⟩ := Heap.view_found viewed
    simp [begun] at found
  | operate e run permitted outside done ih =>
    exact Operation.perform_setsDistinct run.client.balanced permitted ih outside done
  | beside _ same ih => exact same ▸ ih

/-- The elements of a set stay pairwise unequal until a container below a set is changed: in every
session before that, comparing two of them answers no, and an entry that makes two of them equal is an
insertion into a container below a set. In a run the address of a freed box is not given out again. -/
theorem set_elements_unequal (run : SettledRun s held) :
    (∀ (r : Ref) (items : List Ref) (i j : Nat) (x y : Ref), s.heap.view r = .ok (.set items) → i ≠ j →
      items[i]? = some x → items[j]? = some y → s.heap.equals x y = .ok false) ∧
    ∀ (e : Entry) (x : Except Error Reply) (s' : Session), (Operation.entry e).Permitted s.heap held →
      (Operation.entry e).perform.run s = .ok (x, s') → s'.heap.HasTwins →
      ∃ i : Insertion, e.request? = some (.insert i) ∧ s.heap.InSet i.container ∧
        ∃ b content displaced, i.plan s.heap = .ok (.store b content displaced) := by
  have balanced := run.client.balanced
  refine ⟨fun r items i j x y viewed => balanced.equals_of_distinct run.setsDistinct viewed, ?_⟩
  rintro e x s' permitted done ⟨r, items, i, j, y, z, viewed, other, atI, atJ, equal⟩
  by_contra unchanged
  have outside : ∀ q, e.request? = some q → ¬ s.heap.InSet (q.touched s.heap) := by
    intro q asked below
    obtain ⟨i, rfl, inSet, planned⟩ := Request.inSet_touched balanced below
    exact unchanged ⟨i, asked, inSet, planned⟩
  have after := run.operate e permitted outside done
  have unequal := after.client.balanced.equals_of_distinct after.setsDistinct viewed other atI atJ
  cases unequal.symm.trans equal

/-- A request that the rules permit, to a container that nothing holds if it is an insertion, goes on
to a session of nothing but the heap it leaves. -/
theorem request (run : SettledRun s held) (e : Entry) {q : Request} {outcome : Except Stop Reply} {h : Heap}
    (asked : e.request? = some q) (permitted : q.Permitted s.heap held)
    (unheld : ∀ i, q = .insert i → s.heap.occurrences i.container = 0)
    (ran : q.run.run s.heap = (outcome, h)) :
    SettledRun { heap := { h with journal := [] } } (q.settle s.heap held outcome) := by
  have balanced := run.client.balanced
  have lent : (Operation.entry e).Permitted s.heap held := by
    refine ⟨fun q' same => ?_, fun r member => ?_⟩
    · cases same.symm.trans asked
      exact permitted
    · cases e <;> simp [Entry.request?] at asked <;> cases member
  have outside : ∀ q', e.request? = some q' → ¬ s.heap.InSet (q'.touched s.heap) := by
    intro q' same
    cases same.symm.trans asked
    intro below
    obtain ⟨i, insertion, inSet, _⟩ := Request.inSet_touched balanced below
    exact Heap.not_inSet_of_unheld (unheld i insertion) inSet
  obtain ⟨x, s', done, _⟩ := Operation.perform_balanced balanced (by simp [Operation.Steady]) lent
  have next := run.operate e lent outside done
  have entry : (Operation.entry e).request? = some q := asked
  simp only [Operation.settle, entry, ran] at next
  exact next.beside (Operation.perform_heap entry ran done).symm

/-- A held item goes into a container that nothing holds, where there is a place for it. -/
theorem insert (run : SettledRun s held) (e : Entry) (i : Insertion) {b : Located} {content : Value}
    (asked : e.request? = some (.insert i)) (holds : 0 < held i.item) (other : i.item ≠ i.container)
    (unheld : s.heap.occurrences i.container = 0)
    (placed : i.place s.heap = .ok (.store b content none)) :
    SettledRun { heap := { s.heap.store b content.payload with journal := [] } } ((held.spend [i.item]).gain []) := by
  have balanced := run.client.balanced
  obtain ⟨a, box, item, found⟩ := balanced.present (r := i.item) (by omega)
  have viewable : s.heap.Viewable i.item := item ▸ balanced.coherent.viewable found (balanced.known found)
  have checked := balanced.checkInsert_unheld viewable other unheld i.operation
  have planned := Insertion.plan_of_place checked placed
  have accepted := Insertion.plan_store planned
  have container : s.heap.Lendable i.container := by
    intro a same
    cases accepted.container.symm.trans same
    exact ⟨_, accepted.found⟩
  have next := run.request e asked ⟨container, Or.inr holds⟩ (by rintro _ ⟨⟩; exact unheld)
    (Insertion.run_of_plan planned)
  cases i <;> exact next

end SettledRun

/-- A session with a set of two lists, of which one is empty and the other holds a null. -/
def listsInSet : Session :=
  let lists := ((({ tracking := true } : Heap).alloc (.list [])).2.alloc (.list [])).2
  let filled := (lists.alloc .null).2.write 4097 ⟨6, 1, .items [some 4098]⟩
  let set := (filled.alloc (.set [])).2.write 4099 ⟨7, 1, .items [some 4096, some 4097]⟩
  { heap := { (set.alloc .null).2 with journal := [] } }

theorem listsInSet_run : ∃ held, SettledRun listsInSet held ∧ 0 < held (some 4100) := by
  have begun : SettledRun (.initial true) fun _ => 0 := .start (s := .initial true) rfl
  have first := begun.request (.listNew 0) rfl (fun _ => Nat.zero_le _) (by simp) rfl
  have second := first.request (.listNew 0) rfl (fun _ => Nat.zero_le _) (by simp) rfl
  have null := second.request .boxNull rfl (fun _ => Nat.zero_le _) (by simp) rfl
  have filled := null.insert (.listAdd (some 4097) (some 4098)) (.listAdd (some 4097) (some 4098)) rfl
    (by decide) (by decide) rfl rfl
  have set := filled.request .setNew rfl (fun _ => Nat.zero_le _) (by simp) rfl
  have one := set.insert (.setAdd (some 4099) (some 4096)) (.setAdd (some 4099) (some 4096)) rfl
    (by decide) (by decide) rfl rfl
  have both := one.insert (.setAdd (some 4099) (some 4097)) (.setAdd (some 4099) (some 4097)) rfl
    (by decide) (by decide) rfl rfl
  have other := both.request .boxNull rfl (fun _ => Nat.zero_le _) (by simp) rfl
  exact ⟨_, other, by decide⟩

theorem listsInSet_plan : (Insertion.listAdd (some 4096) (some 4100)).plan listsInSet.heap =
    .ok (.store ⟨4096, ⟨6, 1, .items []⟩, .list⟩ (.list [some 4100]) none) := by
  have alone : ∀ r, listsInSet.heap.Path (some 4100) r → r = some 4100 := by
    intro r path
    rcases Relation.ReflTransGen.cases_head path with same | ⟨s, edge, _⟩
    · exact same.symm
    · cases edge
  have checked : listsInSet.heap.checkInsert (some 4096) (some 4100) "wycc_list_add" = .ok () := by
    refine Heap.checkInsert_of_apart (fun r path => ⟨.null, alone r path ▸ rfl⟩) fun path => ?_
    cases alone _ path
  exact Insertion.plan_of_place checked rfl

/-- The lists in the set are not equal until a null is added to the empty one. -/
theorem elements_unequal_listsInSet : listsInSet.heap.equals (some 4096) (some 4097) = .ok false ∧
    ∃ x s', (Operation.entry (.listAdd (some 4096) (some 4100))).perform.run listsInSet = .ok (x, s') ∧
      s'.heap.HasTwins ∧ listsInSet.heap.InSet (some 4096) := by
  obtain ⟨held, run, holds⟩ := listsInSet_run
  obtain ⟨unequal, only⟩ := SettledRun.set_elements_unequal run
  refine ⟨unequal (some 4099) [some 4096, some 4097] 0 1 _ _ rfl (by decide) rfl rfl, ?_⟩
  have permitted : (Operation.entry (.listAdd (some 4096) (some 4100))).Permitted listsInSet.heap held := by
    refine ⟨?_, by rintro r ⟨⟩⟩
    rintro q ⟨⟩
    exact ⟨by rintro a ⟨⟩; exact ⟨_, rfl⟩, Or.inr holds⟩
  obtain ⟨x, s', done, _⟩ := Operation.perform_balanced run.client.balanced (by simp [Operation.Steady]) permitted
  have twins : s'.heap.HasTwins := by
    have asked : (Operation.entry (.listAdd (some 4096) (some 4100))).request? =
        some (.insert (.listAdd (some 4096) (some 4100))) := rfl
    rw [Operation.perform_heap asked (Insertion.run_of_plan listsInSet_plan) done]
    exact ⟨some 4099, [some 4096, some 4097], 0, 1, some 4096, some 4097, rfl, by decide, rfl, rfl, rfl⟩
  obtain ⟨_, ⟨⟩, inSet, _⟩ := only _ x s' permitted done twins
  exact ⟨x, s', done, twins, inSet⟩

end CountedBox