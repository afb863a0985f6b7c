import Roster.SetStore

/-! # Companions keep their field names

A companion either shares the set that it was built from or has a copy that nobody else knows. In both
cases its set is frozen when it is built, and no operation on any set, the shared one included, changes
a frozen set.

* `read_build`: building changes no set.
* `read_move_of_frozen`, `read_moved_of_frozen`: a frozen set outlasts one operation, and all of them.
* `companion_keeps_names`: what a companion is seen to be, whatever is done to the sets later.
-/

namespace Roster

theorem FieldNames.freeze_of_frozen : {s : FieldNames} → s.frozen = true → s.freeze = s
  | ⟨_, _, _⟩, rfl => rfl

theorem FieldNames.add_of_frozen {s : FieldNames} (h : s.frozen = true) (name : String) :
    s.add name = .error .frozenSet :=
  if_pos h

namespace SetStore

variable {store : SetStore} {r : SetRef}

/-! ## Building -/

theorem build_of_frozen (h : (store.read r).frozen = true) (t : TypeDescriptor)
    (debuggable : Bool) :
    store.build t r debuggable
      = (store, ⟨Artifact.packageFor t, Artifact.nameFor t, r, debuggable, t.qualifiedName⟩) := by
  rw [build, if_pos h]

theorem build_of_open (h : (store.read r).frozen = false) (t : TypeDescriptor)
    (debuggable : Bool) :
    store.build t r debuggable
      = ((store.keep (store.read r).copy.freeze).1,
          ⟨Artifact.packageFor t, Artifact.nameFor t, store.size, debuggable, t.qualifiedName⟩) := by
  rw [build, if_neg (by simp [h])]
  rfl

/-- Building a companion changes no set that is there. -/
theorem read_build (t : TypeDescriptor) (set : SetRef) (debuggable : Bool) (h : r < store.size) :
    (store.build t set debuggable).1.read r = store.read r := by
  cases hfrozen : (store.read set).frozen with
  | true => rw [build_of_frozen hfrozen]
  | false => rw [build_of_open hfrozen, read_keep, if_neg (Nat.ne_of_lt h)]

/-- A companion refers to a frozen set of the names that it was built from. -/
theorem read_fieldNames_build (t : TypeDescriptor) (debuggable : Bool) :
    (store.build t r debuggable).1.read (store.build t r debuggable).2.fieldNames
      = (store.read r).freeze := by
  cases hfrozen : (store.read r).frozen with
  | true => rw [build_of_frozen hfrozen, FieldNames.freeze_of_frozen hfrozen]
  | false =>
    rw [build_of_open hfrozen, read_keep, if_pos rfl]
    rfl

/-! ## Operations on sets -/

theorem read_put_of_ne {other : SetRef} (h : other ≠ r) (s : FieldNames) :
    (store.put r s).read other = store.read other := by
  by_cases hr : r < store.size
  · rw [store.read_put hr, if_neg h]
  · rw [store.put_of_le (Nat.le_of_not_lt hr)]

/-- No operation changes a frozen set. -/
theorem read_move_of_frozen (h : (store.read r).frozen = true) (m : SetMove) :
    (store.move m).read r = store.read r := by
  have hthere : r < store.size := store.lt_size_of_frozen h
  have hkeep : ∀ s, (store.keep s).1.read r = store.read r := by
    intro s
    rw [read_keep, if_neg (Nat.ne_of_lt hthere)]
  cases m with
  | new names => exact hkeep _
  | copy set => exact hkeep _
  | read set => rfl
  | build t set debuggable => exact read_build t set debuggable hthere
  | add set name =>
    rw [move, add]
    by_cases hset : r = set
    · -- a name is refused by a frozen set
      rw [← hset, FieldNames.add_of_frozen h]
    · split
      · exact read_put_of_ne hset _
      · rfl
  | freeze set =>
    rw [move]
    by_cases hset : r = set
    · rw [← hset, FieldNames.freeze_of_frozen h, store.read_put hthere, if_pos rfl]
    · exact read_put_of_ne hset _

/-- A frozen set outlasts all operations. -/
theorem read_moved_of_frozen (h : (store.read r).frozen = true) (moves : List SetMove) :
    (store.moved moves).read r = store.read r := by
  induction moves generalizing store with
  | nil => rfl
  | cons m moves ih =>
    have hstep := read_move_of_frozen h m
    exact (ih (hstep ▸ h)).trans hstep

/-! ## Companions -/

/-- A companion is built as it is seen to be at any later time, whatever is done to the sets in
between. -/
theorem seenIn_moved_build (t : TypeDescriptor) (debuggable : Bool) (moves : List SetMove) :
    (store.build t r debuggable).2.seenIn ((store.build t r debuggable).1.moved moves)
      = Artifact.build t (store.read r) debuggable := by
  have hnames := @read_fieldNames_build store r t debuggable
  have hlasting := @read_moved_of_frozen _ (store.build t r debuggable).2.fieldNames
    (by rw [hnames]; rfl) moves
  rw [SharingArtifact.seenIn, hlasting, hnames]
  cases hfrozen : (store.read r).frozen with
  | true =>
    rw [build_of_frozen hfrozen]
    rfl
  | false =>
    rw [build_of_open hfrozen]
    rfl

/-- A companion built from a set of any store is the one that is made of the names that the set has
at that time, and after any operations on any sets it has these names still and is frozen still.
Building it leaves the given set and all others as they are. Whether it is debuggable makes no
difference to the sets, and none to the companion but that one mark. -/
theorem companion_keeps_names (t : TypeDescriptor) (store : SetStore) (r : SetRef)
    (h : r < store.size) (debuggable : Bool) (moves : List SetMove) :
    let given := store.read r
    let built := store.build t r debuggable
    let seen := built.2.seenIn (built.1.moved moves)
    seen = Artifact.build t given debuggable ∧
    seen.fieldNames.toList = given.toList ∧
    seen.fieldNames.frozen = true ∧
    built.1.read r = given ∧
    (∀ other < store.size, built.1.read other = store.read other) ∧
    ∀ debuggable',
      let built' := store.build t r debuggable'
      built'.1 = built.1 ∧
      built'.2.seenIn (built'.1.moved moves) = { seen with debuggable := debuggable' } := by
  intro given built seen
  have hseen : seen = Artifact.build t given debuggable := seenIn_moved_build t debuggable moves
  refine ⟨hseen, ?_, ?_, read_build t r debuggable h,
    fun other hother => read_build t r debuggable hother, ?_⟩
  · rw [hseen]
    rfl
  · rw [hseen]
    rfl
  · intro debuggable' built'
    constructor
    · show (store.build t r debuggable').1 = (store.build t r debuggable).1
      cases hfrozen : (store.read r).frozen with
      | true => rw [build_of_frozen hfrozen, build_of_frozen hfrozen]
      | false => rw [build_of_open hfrozen, build_of_open hfrozen]
    · rw [hseen]
      exact seenIn_moved_build t debuggable' moves

/-- A set that is still open takes another name after a companion was built from it, is frozen, and is
built from again: the first companion keeps the one name that it was built with. -/
theorem companion_of_open_set :
    let t : TypeDescriptor := ⟨"p.A", "A", "p", [some "x"], none, classKind, none⟩
    let store := (empty.keep (.ofList ["x"])).1
    let built := store.build t 0 true
    let later := built.1.moved [.add 0 "y", .freeze 0, .build t 0 false, .add 0 "z"]
    0 < store.size ∧
      (built.2.seenIn later).fieldNames.toList = ["x"] ∧
      (built.2.seenIn later).fieldNames.frozen = true ∧
      built.1.read 0 = store.read 0 ∧
      (later.read 0).toList = ["x", "y"] := by
  intro t store built later
  have hthere : 0 < store.size := by decide
  obtain ⟨-, hnames, hfrozen, hgiven, -⟩ := companion_keeps_names t store 0 hthere true
    [.add 0 "y", .freeze 0, .build t 0 false, .add 0 "z"]
  exact ⟨hthere, hnames.trans (by decide), hfrozen, hgiven, by decide⟩

end SetStore
end Roster
