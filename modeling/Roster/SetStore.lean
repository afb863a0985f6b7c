import Roster.Artifact

/-! # Shared sets of field names

Sets of names as things that several holders refer to: what is done to a set through one reference is
seen through every other. A companion refers to its field names. If the set that it is built from is
frozen, the companion shares it; otherwise it gets a frozen copy of its own.

* `SetStore.build` builds a companion that refers to its field names.
* `SetStore.move` carries out one operation on a store, `SetStore.moved` several.
-/

namespace Roster

/-- Where a set is kept. -/
abbrev SetRef := Nat

/-- Sets by their references. A reference that is not in use stands for the empty set. -/
structure SetStore where
  sets : Array FieldNames
  deriving Inhabited

/-- A companion that refers to its field names. -/
structure SharingArtifact where
  package : String
  name : String
  fieldNames : SetRef
  debuggable : Bool
  sourceType : String
  deriving DecidableEq, Repr

/-- An operation on the sets of a store. Reading a set changes nothing. -/
inductive SetMove where
  | new (names : List String)
  | add (set : SetRef) (name : String)
  | freeze (set : SetRef)
  | copy (set : SetRef)
  | read (set : SetRef)
  /-- Builds a companion from a set. -/
  | build (type : TypeDescriptor) (set : SetRef) (debuggable : Bool)
  deriving Repr

namespace SetStore

/-- The store without sets. -/
def empty : SetStore := ⟨#[]⟩

/-- How many sets there are. -/
def size (store : SetStore) : Nat := store.sets.size

/-- The set of a reference as it is now. -/
def read (store : SetStore) (r : SetRef) : FieldNames := (store.sets[r]?).getD FieldNames.empty

/-- Keeps a new set, under a new reference. -/
def keep (store : SetStore) (s : FieldNames) : SetStore × SetRef :=
  (⟨store.sets.push s⟩, store.size)

/-- Puts a set in the place of another. -/
def put (store : SetStore) (r : SetRef) (s : FieldNames) : SetStore :=
  ⟨store.sets.setIfInBounds r s⟩

/-- Adds a name to a set; the answer tells whether it was new. -/
def add (store : SetStore) (r : SetRef) (name : String) : SetStore × Except NameRefusal Bool :=
  match (store.read r).add name with
  | .ok (s, new) => (store.put r s, .ok new)
  | .error refusal => (store, .error refusal)

/-- Builds the companion of a type from a set: a frozen set is shared, any other is copied. -/
def build (store : SetStore) (t : TypeDescriptor) (r : SetRef) (debuggable : Bool) :
    SetStore × SharingArtifact :=
  let (store, names) :=
    if (store.read r).frozen then (store, r) else store.keep (store.read r).copy.freeze
  (store, ⟨Artifact.packageFor t, Artifact.nameFor t, names, debuggable, t.qualifiedName⟩)

/-- Carries out one operation. -/
def move (store : SetStore) : SetMove → SetStore
  | .new names => (store.keep (FieldNames.ofList names)).1
  | .add r name => (store.add r name).1
  | .freeze r => store.put r (store.read r).freeze
  | .copy r => (store.keep (store.read r).copy).1
  | .read _ => store
  | .build t r debuggable => (store.build t r debuggable).1

/-- Carries out operations in order. -/
def moved (store : SetStore) (moves : List SetMove) : SetStore := moves.foldl move store

end SetStore

/-- A companion with its field names as they are now. -/
def SharingArtifact.seenIn (a : SharingArtifact) (store : SetStore) : Artifact :=
  ⟨a.package, a.name, store.read a.fieldNames, a.debuggable, a.sourceType⟩

namespace SetStore

variable (store : SetStore)

theorem read_of_le {r : SetRef} (h : store.size ≤ r) : store.read r = .empty := by
  rw [read, Array.getElem?_eq_none h, Option.getD_none]

/-- Only a set that is kept can be frozen. -/
theorem lt_size_of_frozen {r : SetRef} (h : (store.read r).frozen = true) : r < store.size := by
  apply Nat.lt_of_not_le
  intro hout
  rw [store.read_of_le hout] at h
  contradiction

/-- A new set is found under its reference, and the sets that were there stay. -/
theorem read_keep (s : FieldNames) (r : SetRef) :
    (store.keep s).1.read r = if r = store.size then s else store.read r := by
  simp only [keep, read, size, Array.getElem?_push]
  by_cases h : r = store.sets.size <;> simp [h]

/-- A set that is put somewhere is found there, and the others stay. -/
theorem read_put {r : SetRef} (h : r < store.size) (s : FieldNames) (other : SetRef) :
    (store.put r s).read other = if other = r then s else store.read other := by
  simp only [put, read, Array.getElem?_setIfInBounds]
  by_cases hr : r = other
  · subst hr
    simp [show r < store.sets.size from h]
  · simp [hr, Ne.symm hr]

theorem put_of_le {r : SetRef} (h : store.size ≤ r) (s : FieldNames) : store.put r s = store := by
  rw [put, Array.setIfInBounds_eq_of_size_le h]

end SetStore
end Roster
