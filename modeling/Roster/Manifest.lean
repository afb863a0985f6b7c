import Roster.InputFault
import Roster.Log
import Roster.OrderedMap
import Roster.TypeGraph

/-! # Type manifests

A manifest lists types with their fields and the names of the types that they extend, in any order.
All of them form a graph; those that are not marked otherwise get companions.

* `Manifest.ofValue` reads the entries and links them.
* `discoverManifest` reads the file.
-/

namespace Roster

open Document (Value)

/-- What a discovery source found: a graph, the types that get companions, and what was logged. -/
structure Discovery where
  graph : TypeGraph
  found : List TypeId
  log : Log

/-- The part of a name after its last dot. -/
def lastPart (name : String) : String := ((splitText '.' name).getLast?).getD ""

/-- The part of a name before its last dot. -/
def withoutLastPart (name : String) : String :=
  String.intercalate "." (splitText '.' name).dropLast

namespace Manifest

/-- An entry of a manifest. -/
structure Entry where
  name : String
  package : String
  fields : List (Option String)
  extends? : Option String
  kind : String
  fieldable : Bool
  deriving DecidableEq, Repr

/-- A text, if the value is one. -/
def text? : Value → Option String
  | .text s => some s
  | _ => none

/-- A value that is there and not nothing. -/
def given (v : Option Value) : Option Value :=
  match v with
  | some .null => none
  | v => v

/-- The package of a type; the part of its name before the last dot when none is given. -/
def packageOf (name : String) (v : Option Value) : Except InputFault String :=
  match given v with
  | none => .ok (withoutLastPart name)
  | some (.text s) => .ok s
  | some _ => .error (.config (.packageNotText name))

/-- The fields of a type; an item that is no text is kept as unusable. -/
def fieldsOf (name : String) (v : Option Value) : Except InputFault (List (Option String)) :=
  match v.filter Value.truthy with
  | none => .ok []
  | some v =>
    match v.items? with
    | some items => .ok (items.map text?)
    | none => .error (.config (.fieldsNotList name))

/-- The name of the type that a type extends. -/
def extendsOf (name : String) (v : Option Value) : Except InputFault (Option String) :=
  match given v with
  | none => .ok none
  | some (.text s) => .ok (some s)
  | some _ => .error (.config (.extendsNotText name))

/-- The kind of a type: any value as a text, if it can be written where collections can be nested
`nesting` deep. -/
def kindOf (nesting : Nat) (v : Option Value) : Except InputFault String :=
  match v.filter Value.truthy with
  | none => .ok classKind
  | some v => (v.plainText? nesting).mapError .document

/-- Whether a type gets a companion: anything but a plain no. -/
def isFieldable : Option Value → Bool
  | some (.bool false) => false
  | _ => true

/-- Reads the entry with a number; `known` are the names of the entries before it. -/
def readEntry (nesting : Nat) (known : List String) (index : Nat) (v : Value) :
    Except InputFault Entry := do
  match v with
  | .map _ =>
    match ((v.field? "name").bind text?).map Text.trimmed with
    | none => .error (.config (.entryWithoutName index))
    | some name =>
      if name = "" then .error (.config (.entryWithoutName index))
      else if name ∈ known then .error (.config (.declaredTwice name))
      else
        let package ← packageOf name (v.field? "package")
        let fields ← fieldsOf name (v.field? "fields")
        let extends? ← extendsOf name (v.field? "extends")
        let kind ← kindOf nesting (v.field? "kind")
        .ok ⟨name, package, fields, extends?, kind, isFieldable (v.field? "fieldable")⟩
  | _ => .error (.config (.entryNotMapping index))

/-- Reads entries in order. -/
def readEntries (nesting : Nat) : (known : List String) → (index : Nat) → List Value →
    Except InputFault (List Entry)
  | _, _, [] => .ok []
  | known, index, v :: rest => do
    let entry ← readEntry nesting known index v
    .ok (entry :: (← readEntries nesting (entry.name :: known) (index + 1) rest))

/-- The place of the entry with a name. -/
def placeOf (entries : List Entry) (name : String) : Option TypeId :=
  entries.findIdx? fun e => e.name = name

/-- An entry that extends a type that is not in the manifest. -/
def dangling? (entries : List Entry) : Option (String × String) :=
  entries.findSome? fun e =>
    match e.extends? with
    | some parent => if (placeOf entries parent).isNone then some (e.name, parent) else none
    | none => none

/-- The type of an entry. -/
def Entry.descriptor (entries : List Entry) (origin : Option String) (e : Entry) (index : Nat) :
    TypeDescriptor where
  qualifiedName := e.name
  simpleName := lastPart e.name
  package := e.package
  declaredFields := e.fields
  ancestor := e.extends?.bind (placeOf entries)
  kind := e.kind
  origin := origin.map fun o => o ++ "#" ++ toString index

/-- The graph of entries and the types that get companions. -/
def discoveryOf (entries : List Entry) (origin : Option String) : Discovery :=
  let indexed := entries.zipIdx
  let found := (indexed.filter fun e => e.1.fieldable).map (·.2)
  { graph := TypeGraph.ofList (indexed.map fun e => e.1.descriptor entries origin e.2)
    found
    log := [⟨.debug, .manifest, "Manifest declares " ++ toString entries.length ++ " types, "
      ++ toString found.length ++ " fieldable"⟩] }

/-- Reads a manifest's value; `origin` names where it comes from. -/
def ofValue (nesting : Nat) (origin : Option String) (v : Value) : Except InputFault Discovery := do
  let origin := origin.filter (· ≠ "")
  match v, (v.field? "types").bind Value.items? with
  | .map _, some items =>
    let entries ← readEntries nesting [] 0 items
    match dangling? entries with
    | some (name, parent) => .error (.config (.extendsUnknown name parent))
    | none => .ok (discoveryOf entries origin)
  | _, _ => .error (.config .noTypesList)

end Manifest

/-- Reads the manifest at a path. -/
def discoverManifest (t : FileTree) (path : Path) : Except InputFault Discovery := do
  let text ← match t.readText path with
    | .ok text => .ok text
    | .error (.inl (.system cause place)) =>
      .error (.config (.unreadableManifest path.text (FileFault.system cause place).message))
    | .error fault => .error (.ofRead fault)
  let v ← t.readDocument true path.name text
  Manifest.ofValue t.limits.nesting (some path.name) v

end Roster
