import CountedBox.Proofs.Denotation.Datum
import CountedBox.Proofs.Heap.Depth

namespace CountedBox

theorem mem_values_of_field {fields : Fields} {name : String} {r : Ref} (bound : fields[name]? = some r) :
    r ∈ fields.values := by
  have entry := Std.TreeMap.mem_toList_iff_getElem?_eq_some.mpr bound
  rw [values_eq_map_toList]
  exact List.mem_map_of_mem (f := Prod.snd) entry

def Level.kind {α : Type} : Level α → Kind
  | null => .null
  | bool _ => .bool
  | byte _ => .byte
  | char _ => .char
  | int _ => .int
  | string _ => .string
  | list _ => .list
  | set _ => .set
  | tuple _ => .tuple
  | record _ => .record

namespace Value

variable {α : Type}

/-- The value with `f r` in place of each element `r`. -/
noncomputable def level (f : Ref → α) : Value → Level α
  | null => .null
  | bool b => .bool b
  | byte b => .byte b
  | char c => .char c
  | int i => .int i
  | string bytes => .string bytes
  | list items => .list (items.map f)
  | set items => .set (open scoped Classical in (items.map f).toFinset)
  | tuple items => .tuple (items.map f)
  | record fields => .record fun name => fields[name]?.map f

theorem kind_level (v : Value) (f : Ref → α) : (v.level f).kind = v.kind := by cases v <;> rfl

/-- Values of different kinds are different levels, whatever their elements become. -/
theorem level_ne {v w : Value} {f g : Ref → α} (different : v.kind ≠ w.kind) :
    v.level f ≠ w.level g := by
  intro same
  exact different (by rw [← kind_level v f, ← kind_level w g, same])

/-- A level depends on its elements only. -/
theorem level_congr {v : Value} {f g : Ref → α} (same : ∀ r ∈ v.children, f r = g r) :
    v.level f = v.level g := by
  cases v with
  | list items => exact congrArg Level.list (List.map_congr_left same)
  | tuple items => exact congrArg Level.tuple (List.map_congr_left same)
  | set items =>
    have mapped : items.map f = items.map g := List.map_congr_left same
    simp only [level, mapped]
  | record fields =>
    refine congrArg Level.record (funext fun name => ?_)
    cases bound : fields[name]? with
    | none => rfl
    | some r => exact congrArg some (same r (mem_values_of_field bound))
  | _ => rfl

end Value

namespace Heap

/-- A reference denotes what the value it leads to becomes when each element is replaced by what that
denotes in turn. -/
inductive Denotes (h : Heap) : Ref → Datum → Prop
  | intro {r : Ref} {v : Value} (meaning : Ref → Datum) : h.view r = .ok v →
      (∀ s ∈ v.children, Denotes h s (meaning s)) → Denotes h r (.of (v.level meaning))

variable {h h' : Heap} {r : Ref} {x y : Datum}

/-- A reference means one value at most. -/
theorem Denotes.unique (left : h.Denotes r x) (right : h.Denotes r y) : x = y := by
  induction left generalizing y with
  | intro meaning viewed _ ih =>
    cases right with
    | intro meaning' viewed' elements' =>
      cases viewed.symm.trans viewed'
      exact congrArg Datum.of (Value.level_congr fun s child => ih s child (elements' s child))

/-- What a reference denotes depends only on what is reachable from it. -/
theorem Denotes.transfer (denotes : h.Denotes r x)
    (same : ∀ s v, h.Path r s → h.view s = .ok v → h'.view s = .ok v) : h'.Denotes r x := by
  induction denotes with
  | intro meaning viewed _ ih =>
    refine .intro meaning (same _ _ .refl viewed) fun s child => ih s child fun t w path => ?_
    exact same t w (.head (ViewedEdge.of_view viewed child).2 path)

/-- Without cycles, a reference that leads only to what can be viewed denotes something. -/
theorem exists_denotes (acyclic : h.Acyclic) (clear : ∀ s, h.Path r s → h.Viewable s) :
    ∃ x, h.Denotes r x := by
  -- The induction is on a bound for how deep the reference leads; without cycles there is one.
  have below : ∀ n r, ¬ h.Descends n r → (∀ s, h.Path r s → h.Viewable s) → ∃ x, h.Denotes r x := by
    intro n
    induction n with
    | zero => exact fun r shallow _ => absurd (.here r) shallow
    | succ n ih =>
      intro r shallow clear
      obtain ⟨v, viewed⟩ := clear r .refl
      have element : ∀ s ∈ v.children, ∃ x, h.Denotes s x := by
        intro s child
        have edge := (ViewedEdge.of_view viewed child).2
        exact ih s (fun deep => shallow (.down edge deep)) fun t path => clear t (.head edge path)
      choose! meaning denotes using element
      exact ⟨_, .intro meaning viewed denotes⟩
  refine below (h.boxes.size + 1) r (fun deep => ?_) clear
  have := deep.le_size acyclic
  omega

/-- The elements of the sets denote pairwise different values. -/
def Distinct (h : Heap) (items : List Ref) : Prop :=
  items.Pairwise fun s t => ∀ x, h.Denotes s x → ¬ h.Denotes t x

/-- All that is reachable from the reference can be viewed, and is a set only if its elements denote
pairwise different values. -/
structure Proper (h : Heap) (r : Ref) : Prop where
  viewable : ∀ s, h.Path r s → h.Viewable s
  distinct : ∀ s items, h.Path r s → h.view s = .ok (.set items) → h.Distinct items

end Heap

end CountedBox
