import Roster.FieldNames
import Roster.OrderedMap
import Roster.Path
import Roster.TypeGraph

/-! # Companion types

A type whose field names are known gets a companion: its name is the type's with a suffix, and it
lives in the type's package. A type without package gets a flat package made from its name.

* `Artifact.build` makes a companion, `Artifact.qualifiedName` is the name that has to be unique.
* `collisions` groups companions of one qualified name.
-/

namespace Roster

/-- The companion of a type. -/
structure Artifact where
  package : String
  name : String
  fieldNames : FieldNames
  debuggable : Bool
  sourceType : String

namespace Artifact

/-- What a companion's name ends in. -/
def nameEnding : String := "_Fielder"

/-- The name of a type's companion. -/
def nameFor (t : TypeDescriptor) : String := t.simpleName ++ nameEnding

/-- The package of a type's companion. -/
def packageFor (t : TypeDescriptor) : String :=
  if t.package ≠ "" then t.package
  else String.ofList (t.qualifiedName.toList.map fun c => if c = '.' then '_' else c)

/-- Makes the companion of a type. -/
def build (t : TypeDescriptor) (names : FieldNames) (debuggable : Bool) : Artifact :=
  ⟨packageFor t, nameFor t, names.freeze, debuggable, t.qualifiedName⟩

/-- The package and the name. -/
def qualifiedName (a : Artifact) : String :=
  if a.package ≠ "" then a.package ++ "." ++ a.name else a.name

end Artifact

/-! ## Collisions -/

/-- Puts an item into the group of its key, or into a new group at the end. -/
def joinGroup {α : Type} (groups : OrderedMap String (List α)) (key : String) (item : α) :
    OrderedMap String (List α) :=
  groups.insert key ((groups.get? key).getD [] ++ [item])

/-- Items in groups of equal keys, the groups in order of their first members. -/
def groupsOf {α : Type} (key : α → String) (items : List α) : List (List α) :=
  (items.foldl (fun groups item => joinGroup groups (key item) item) OrderedMap.empty).values

/-- The groups of two or more items of one key. -/
def collisions {α : Type} (key : α → String) (items : List α) : List (List α) :=
  (groupsOf key items).filter fun members => 1 < members.length

end Roster
