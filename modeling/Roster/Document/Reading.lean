import Roster.Document.Node
import Roster.Document.Scalar

/-! # Reading documents

The value of a document's graph. Values are made level by level: the items of a list or a map are
made after those of all collections that are nearer to the top, which decides the fault that is found
first. Entries under a merge key are taken over from other maps, behind the map's own.

* `readText` reads a text as one document.
-/

namespace Roster.Document

/-! ## Merging -/

/-- The node at a place. -/
def nodeAt (nodes : Array Node) (i : NodeId) : Node := nodes[i]?.getD default

/-- The entries of a map, those of merged maps first; `visiting` are the maps that are being merged and
`fuel` bounds how many maps merge into each other. -/
def mergedEntries (nodes : Array Node) :
    Nat → List NodeId → NodeId → Except Fault (List (NodeId × NodeId))
  | 0, _, _ => .ok []
  | fuel + 1, visiting, i =>
    match (nodeAt nodes i).content with
    | .map entries => do
      let own := entries.filter fun e => (nodeAt nodes e.1).tag ≠ .merge
      let sources := entries.filter fun e => (nodeAt nodes e.1).tag = .merge
      if visiting.contains i then .ok own
      else
        let merged ← sources.mapM fun e => do
          match (nodeAt nodes e.2).content with
          | .map _ => mergedEntries nodes fuel (i :: visiting) e.2
          | .seq items =>
            let each ← items.mapM fun item => do
              match (nodeAt nodes item).content with
              | .map _ => mergedEntries nodes fuel (i :: visiting) item
              | _ => .error .malformed
            .ok each.reverse.flatten
          | .scalar _ => .error .malformed
        .ok (merged.flatten ++ own)
    | _ => .error .malformed

/-! ## Cells -/

/-- What a node has become: a value of its own, or a collection of other nodes. -/
inductive Cell where
  | leaf (v : Value)
  | seq (items : List NodeId)
  | map (entries : List (Value × NodeId))
  | set (members : List Value)
  | pairs (items : List (NodeId × NodeId))
  deriving Inhabited

/-- The work that is done so far: the cells of nodes, and the collections still to be opened. -/
structure Workshop where
  cells : List (NodeId × Cell)
  waiting : List NodeId

/-- The text of a scalar; a map may have one under its value key. -/
def scalarText? (nodes : Array Node) : Nat → NodeId → Option String
  | 0, _ => none
  | fuel + 1, i =>
    match (nodeAt nodes i).content with
    | .scalar text => some text
    | .map entries =>
      (entries.find? fun e => (nodeAt nodes e.1).tag = .value).bind
        fun e => scalarText? nodes fuel e.2
    | .seq _ => none

/-- An empty collection for a tag of collections. -/
def emptyCell? : Tag → Option Cell
  | .seq => some (.seq [])
  | .map => some (.map [])
  | .set => some (.set [])
  | .omap | .pairs => some (.pairs [])
  | _ => none

/-- Makes a node: a scalar gets its value, a collection waits to be opened. The key of a map that is
written as a value key is a text. -/
def makeNode (nodes : Array Node) (asKey : Bool) (w : Workshop) (i : NodeId) :
    Except Fault Workshop :=
  if (w.cells.lookup i).isSome then .ok w
  else
    let node := nodeAt nodes i
    let tag := if asKey && node.tag = .value then .text else node.tag
    match emptyCell? tag with
    | some cell => .ok ⟨(i, cell) :: w.cells, w.waiting ++ [i]⟩
    | none =>
      match scalarText? nodes (nodes.size + 1) i with
      | none => .error .malformed
      | some text =>
        match scalarValue? tag text with
        | some (.ok v) => .ok ⟨(i, .leaf v) :: w.cells, w.waiting⟩
        | some (.error f) => .error f
        | none => .error .malformed

/-- Makes the nodes of a list, in order. -/
def makeNodes (nodes : Array Node) : Workshop → List NodeId → Except Fault Workshop
  | w, [] => .ok w
  | w, i :: rest => do makeNodes nodes (← makeNode nodes false w i) rest

/-- Makes the keys and values of entries in order; a key has to be a value of its own. -/
def makeEntries (nodes : Array Node) :
    Workshop → List (NodeId × NodeId) → Except Fault (Workshop × List (Value × NodeId))
  | w, [] => .ok (w, [])
  | w, (k, v) :: rest => do
    let w ← makeNode nodes true w k
    match w.cells.lookup k with
    | some (.leaf key) =>
      let w ← makeNode nodes false w v
      let (w, more) ← makeEntries nodes w rest
      .ok (w, (key, v) :: more)
    | _ => .error .malformed

/-- Entries with each key once, in the place where it came first and with the value that came last. -/
def distinctEntries (entries : List (Value × NodeId)) : List (Value × NodeId) :=
  entries.foldl (fun acc e => put e.1 e.2 acc) []
where
  /-- Gives a key a value. -/
  put (key : Value) (i : NodeId) : List (Value × NodeId) → List (Value × NodeId)
    | [] => [(key, i)]
    | (k, v) :: rest => if Value.sameKey k key then (k, i) :: rest else (k, v) :: put key i rest

/-- The single entry of each map in a list. -/
def singleEntries (nodes : Array Node) :
    Workshop → List NodeId → Except Fault (Workshop × List (NodeId × NodeId))
  | w, [] => .ok (w, [])
  | w, i :: rest => do
    match (nodeAt nodes i).content with
    | .map [(k, v)] =>
      let w ← makeNode nodes false w k
      let w ← makeNode nodes false w v
      let (w, more) ← singleEntries nodes w rest
      .ok (w, (k, v) :: more)
    | _ => .error .malformed

/-- Opens a collection: makes what is in it. -/
def openCell (nodes : Array Node) (w : Workshop) (i : NodeId) : Except Fault Workshop := do
  let node := nodeAt nodes i
  match w.cells.lookup i with
  | some (.seq _) =>
    match node.content with
    | .seq items =>
      let w ← makeNodes nodes w items
      .ok { w with cells := (i, .seq items) :: w.cells }
    | _ => .error .malformed
  | some (.map _) =>
    let (w, entries) ← makeEntries nodes w (← mergedEntries nodes (nodes.size + 1) [] i)
    .ok { w with cells := (i, .map (distinctEntries entries)) :: w.cells }
  | some (.set _) =>
    let (w, entries) ← makeEntries nodes w (← mergedEntries nodes (nodes.size + 1) [] i)
    .ok { w with cells := (i, .set ((distinctEntries entries).map (·.1))) :: w.cells }
  | some (.pairs _) =>
    match node.content with
    | .seq items =>
      let (w, pairs) ← singleEntries nodes w items
      .ok { w with cells := (i, .pairs pairs) :: w.cells }
    | _ => .error .malformed
  | _ => .ok w

/-- Opens collections level by level; `fuel` bounds the levels. -/
def openLevels (nodes : Array Node) : Nat → Workshop → Except Fault Workshop
  | 0, w => .ok w
  | fuel + 1, w => do
    match w.waiting with
    | [] => .ok w
    | level =>
      let w ← level.foldlM (openCell nodes) { w with waiting := [] }
      openLevels nodes fuel w

/-! ## Values -/

/-- The value of a node. `path` are the lists and maps around it, the innermost first; one that is met
again is a loop. `fuel` bounds the depth. -/
def valueOf (cells : List (NodeId × Cell)) : Nat → List NodeId → NodeId → Value
  | 0, _, _ => .null
  | fuel + 1, path, i =>
    match path.findIdx? (· = i) with
    | some depth => .loop depth
    | none =>
      match cells.lookup i with
      | some (.leaf v) => v
      | some (.seq items) => .seq (items.map (valueOf cells fuel (i :: path)))
      | some (.map entries) =>
        .map (entries.map fun e => (e.1, valueOf cells fuel (i :: path) e.2))
      | some (.set members) => .set members
      | some (.pairs items) =>
        .seq (items.map fun e =>
          .pair (valueOf cells fuel (i :: path) e.1) (valueOf cells fuel (i :: path) e.2))
      | none => .null

/-- The value of a graph; no document is nothing. -/
def Graph.value (g : Graph) : Except Fault Value := do
  match g.top with
  | none => .ok .null
  | some top =>
    let w ← makeNode g.nodes false ⟨[], []⟩ top
    let w ← openLevels g.nodes (g.nodes.size + 1) w
    .ok (valueOf w.cells (g.nodes.size + 1) [] top)

/-- Reads a text as one document. Words such as `yes` are texts where `truths` is off. -/
def readText (truths : Bool) (text : String) : Except Fault Value := do
  (← Graph.ofTokens? truths (Token.ofText text)).value

end Roster.Document
