/-! # Type graphs

The types that a round works on, each with its declared fields and the type above it. A type is
known by its place in the graph, so that two types of one name stay two; pointers to the type above
may form loops.

* `TypeGraph.ancestor?`: the type above; no pointer that is followed leaves the graph.
* `TypeGraph.above?`: where a number of pointers lead.
* `TypeGraph.append`: the second graph's types come after the first's, their pointers moved along.
-/

namespace Roster

/-- The place of a type in its graph. -/
abbrev TypeId := Nat

/-- A type as a discovery source describes it; a field that has no usable text is `none`. -/
structure TypeDescriptor where
  qualifiedName : String
  simpleName : String
  package : String
  declaredFields : List (Option String)
  ancestor : Option TypeId
  kind : String
  origin : Option String
  deriving DecidableEq, Repr, Inhabited

/-- The kind of a concrete class. -/
def classKind : String := "class"

/-- The kind of an interface. -/
def interfaceKind : String := "interface"

/-- Types by their place. -/
structure TypeGraph where
  types : Array TypeDescriptor
  deriving Repr, Inhabited

namespace TypeGraph

/-- The graph without types. -/
def empty : TypeGraph := ⟨#[]⟩

/-- The graph of a list of types. -/
def ofList (types : List TypeDescriptor) : TypeGraph := ⟨types.toArray⟩

/-- How many types there are. -/
def size (g : TypeGraph) : Nat := g.types.size

/-- The type at a place. -/
def get? (g : TypeGraph) (i : TypeId) : Option TypeDescriptor := g.types[i]?

/-- The qualified name of the type at a place. -/
def nameOf (g : TypeGraph) (i : TypeId) : String := ((g.get? i).map (·.qualifiedName)).getD ""

/-- The declared fields of the type at a place. -/
def declaredFields (g : TypeGraph) (i : TypeId) : List (Option String) :=
  ((g.get? i).map (·.declaredFields)).getD []

/-- The type above; a pointer out of the graph leads nowhere. -/
def ancestor? (g : TypeGraph) (i : TypeId) : Option TypeId :=
  (g.get? i).bind fun t => t.ancestor.filter (· < g.size)

/-- The type that a number of pointers lead up to. -/
def above? (g : TypeGraph) : Nat → TypeId → Option TypeId
  | 0, i => some i
  | steps + 1, i => (g.ancestor? i).bind (g.above? steps)

/-- Moves a type's pointer. -/
def moved (offset : Nat) (t : TypeDescriptor) : TypeDescriptor :=
  { t with ancestor := t.ancestor.map (· + offset) }

/-- The types of both graphs. A type at place `i` of the second is at `g.size + i`. -/
def append (g h : TypeGraph) : TypeGraph := ⟨g.types ++ h.types.map (moved g.size)⟩

/-- The last of some pointers. -/
theorem above?_succ (g : TypeGraph) (steps : Nat) (i : TypeId) :
    g.above? (steps + 1) i = (g.above? steps i).bind g.ancestor? := by
  induction steps generalizing i with
  | zero =>
    rw [above?, above?, Option.bind_some]
    cases g.ancestor? i <;> rfl
  | succ steps ih =>
    rw [above?, above?]
    cases g.ancestor? i with
    | none => rfl
    | some j => exact ih j

theorem get?_append_right (g h : TypeGraph) (i : TypeId) :
    (g.append h).get? (g.size + i) = (h.get? i).map (moved g.size) := by
  simp only [get?, append, size]
  rw [Array.getElem?_append_right (by omega)]
  simp

end TypeGraph
end Roster
