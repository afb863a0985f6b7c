import Roster.FieldNames
import Roster.Failure
import Roster.Log
import Roster.TypeGraph

/-! # Lineages

The walk from a type to the types above it, under a bound on its length, and the field names that
are met on the way: a type's own first, then those of each type above. A name keeps the place of its
first declaration.

* `walk`: the types on the way up, and the failure that ends it.
* `collect`: the names, frozen, or the first failure on the way, and what was logged until then.
-/

namespace Roster

/-- A positive bound on the number of types on a walk. -/
structure WalkBound where
  depth : Nat
  positive : 0 < depth
  deriving DecidableEq, Repr

namespace WalkBound

/-- The bound when none is given. -/
def standard : WalkBound := ⟨1024, by decide⟩

instance : Inhabited WalkBound := ⟨standard⟩

/-- The wording for a bound that is not positive. -/
def refusal : String := "max_depth must be positive"

/-- A bound from a whole number. -/
def ofInt? (n : Int) : Option WalkBound :=
  if h : 0 < n then some ⟨n.toNat, by omega⟩ else none

end WalkBound

/-! ## Walking -/

/-- How a walk up ends: above a last type, or at a type with which the chain is too long or closed. -/
inductive WalkEnd where
  | top
  | cyclic (chain : List TypeId)
  deriving DecidableEq, Repr

/-- Walks up from a type. `seen` are the types below it and `room` is how many more types fit. -/
def climb (g : TypeGraph) : Nat → List TypeId → TypeId → List TypeId × WalkEnd
  | 0, seen, i => ([], .cyclic (seen ++ [i]))
  | room + 1, seen, i =>
    if i ∈ seen then ([], .cyclic (seen ++ [i]))
    else
      match g.ancestor? i with
      | none => ([i], .top)
      | some above =>
        let (visited, ending) := climb g room (seen ++ [i]) above
        (i :: visited, ending)

/-- A walk: the types visited, the lowest first, and the failure that ends it. -/
structure Walk where
  visited : List TypeId
  failure : Option Failure
  deriving Repr

/-- Walks up from a type that may be missing. -/
def walk (g : TypeGraph) (bound : WalkBound) (target : Option TypeId) : Walk :=
  match target.bind fun i => (g.get? i).map fun t => (i, t) with
  | none => ⟨[], some .missingType⟩
  | some (i, t) =>
    if t.kind ≠ classKind then ⟨[], some (.notConcrete t.qualifiedName t.kind)⟩
    else
      match climb g bound.depth [] i with
      | (visited, .top) => ⟨visited, none⟩
      | (visited, .cyclic chain) => ⟨visited, some (.cyclic t.qualifiedName (chain.map g.nameOf))⟩

/-! ## Collecting -/

/-- A field name is usable when it is a text that is not empty. -/
def usableName? (field : Option String) : Option String := field.filter (· ≠ "")

/-- What collecting has gathered so far. -/
structure Gathered where
  names : FieldNames
  log : Log

/-- Adds the fields of one type from number `index` on; the number of the first unusable one ends it. -/
def gatherFields (typeName : String) : Gathered → Nat → List (Option String) → Gathered × Option Nat
  | acc, _, [] => (acc, none)
  | acc, index, field :: rest =>
    match usableName? field with
    | none => (acc, some index)
    | some name =>
      if acc.names.contains name then gatherFields typeName acc (index + 1) rest
      else
        let record : LogRecord :=
          ⟨.debug, .collection, "Adding field " ++ name ++ " from " ++ typeName⟩
        gatherFields typeName ⟨acc.names.push name, acc.log ++ [record]⟩ (index + 1) rest

/-- The record of the step above a type. -/
def stepRecord (g : TypeGraph) (i : TypeId) : LogRecord :=
  match g.ancestor? i with
  | none => ⟨.debug, .collection, "No ancestor above " ++ g.nameOf i⟩
  | some above =>
    ⟨.debug, .collection, "Found ancestor " ++ g.nameOf above ++ " of " ++ g.nameOf i⟩

/-- Gathers the fields of the visited types; the type and the number of an unusable one end it. -/
def gather (g : TypeGraph) : Gathered → List TypeId → Gathered × Option (TypeId × Nat)
  | acc, [] => (acc, none)
  | acc, i :: rest =>
    match gatherFields (g.nameOf i) acc 0 (g.declaredFields i) with
    | (acc, some index) => (acc, some (i, index))
    | (acc, none) => gather g { acc with log := acc.log ++ [stepRecord g i] } rest

/-- The field names of a type and the types above it, and what is logged on the way. -/
def collect (g : TypeGraph) (bound : WalkBound) (target : Option TypeId) :
    Except Failure FieldNames × Log :=
  let way := walk g bound target
  match gather g ⟨FieldNames.empty, []⟩ way.visited with
  | (acc, some (i, index)) =>
    let source := (target.map g.nameOf).getD ""
    (.error (.malformedField source (g.nameOf i) index), acc.log)
  | (acc, none) =>
    match way.failure with
    | some failure => (.error failure, acc.log)
    | none => (.ok acc.names.freeze, acc.log)

end Roster
