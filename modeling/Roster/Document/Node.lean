import Roster.Document.Tag
import Roster.Document.Token

/-! # Document nodes

The graph of a document: scalars, lists and maps, each with its tag. An alias leads to the node of
its anchor, so that a node may be met in many places and below itself.

* `Graph.ofTokens?` reads the one document of a list of tokens.
-/

namespace Roster.Document

/-- The place of a node in its graph. -/
abbrev NodeId := Nat

/-- What a node consists of. -/
inductive Content where
  | scalar (text : String)
  | seq (items : List NodeId)
  | map (entries : List (NodeId × NodeId))
  deriving DecidableEq, Repr, Inhabited

/-- A node. -/
structure Node where
  tag : Tag
  content : Content
  deriving DecidableEq, Repr, Inhabited

/-- The nodes of a document and the one at its top, if there is a document. -/
structure Graph where
  nodes : Array Node
  top : Option NodeId
  deriving Repr, Inhabited

/-! ## Reading tokens -/

/-- The state of reading: tokens to come, nodes so far, anchors and the handles of tags. -/
structure Reading where
  tokens : List Token
  nodes : Array Node
  anchors : List (String × NodeId)
  handles : List (String × String)
  truths : Bool

/-- A step of reading. -/
abbrev Read (α : Type) := StateT Reading (Except Fault) α

namespace Read

/-- The fault of a token that does not fit: a fault found before, or a malformed document. -/
def refuse {α : Type} : Read α := do
  match (← get).tokens with
  | .fault f :: _ => throw f
  | _ => throw .malformed

/-- The next token. -/
def peek : Read (Option Token) := do
  return (← get).tokens.head?

/-- Goes past the next token. -/
def drop : Read Unit := modify fun s => { s with tokens := s.tokens.drop 1 }

/-- Whether the next token is one of a list. -/
def at? (ts : List Token) : Read Bool := do
  match ← peek with
  | some t => return ts.contains t
  | none => return false

/-- Goes past the next token if it is the given one. -/
def accept (t : Token) : Read Bool := do
  if ← at? [t] then
    drop
    return true
  else return false

/-- Goes past the next token, which has to be the given one. -/
def expect (t : Token) : Read Unit := do
  unless ← accept t do refuse

/-- Adds a node. -/
def addNode (n : Node) : Read NodeId := do
  let s ← get
  set { s with nodes := s.nodes.push n }
  return s.nodes.size

/-- Gives a node its content. -/
def fill (i : NodeId) (content : Content) : Read Unit :=
  modify fun s => { s with nodes := s.nodes.modify i fun n => { n with content } }

/-- A scalar without text. -/
def emptyScalar : Read NodeId := do
  addNode ⟨Tag.ofForm (← get).truths "", .scalar ""⟩

/-- Gives an anchor to a node. -/
def bind (anchor : Option String) (i : NodeId) : Read Unit :=
  match anchor with
  | none => pure ()
  | some name => modify fun s => { s with anchors := (name, i) :: s.anchors }

end Read

/-- The anchor and the tag in front of a node, the tag as its full address. -/
structure Properties where
  anchor : Option String
  tag : Option String

/-- The full address of a tag. -/
def fullAddress (handle : Option String) (suffix : String) : Read String := do
  match handle with
  | none => return suffix
  | some handle =>
    match (← get).handles.lookup handle with
    | some start => return start ++ suffix
    | none => throw .malformed

/-- Reads the anchor and the tag in front of a node, in either order. -/
def readProperties : Read Properties := do
  match ← Read.peek with
  | some (.anchor name) =>
    Read.drop
    match ← Read.peek with
    | some (.tag handle suffix) =>
      Read.drop
      return ⟨some name, some (← fullAddress handle suffix)⟩
    | _ => return ⟨some name, none⟩
  | some (.tag handle suffix) =>
    Read.drop
    match ← Read.peek with
    | some (.anchor name) =>
      Read.drop
      return ⟨some name, some (← fullAddress handle suffix)⟩
    | _ => return ⟨none, some (← fullAddress handle suffix)⟩
  | _ => return ⟨none, none⟩

/-- The address that leaves the choice of a tag open. -/
def openAddress : String := "!"

/-- The tag of a scalar: its own, or the one of its form if it is plain, or that of a text. -/
def scalarTag (truths plain : Bool) (tag : Option String) (text : String) : Tag :=
  match tag with
  | none => if plain then Tag.ofForm truths text else .text
  | some address => if address = openAddress then Tag.ofForm truths text else Tag.ofAddress address

/-- The tag of a collection: its own, or the usual one. -/
def collectionTag (usual : Tag) (tag : Option String) : Tag :=
  match tag with
  | none => usual
  | some address => if address = openAddress then usual else Tag.ofAddress address

/-- Where a node stands: anywhere in a block, as a value that may be a list without indentation of
its own, or inside a flow collection. -/
inductive Setting where
  | block
  | indentless
  | flow
  deriving DecidableEq

/-- Whether the next token ends an entry of a flow collection with the given end. -/
def endsFlowItem (close : Token) : Read Bool := Read.at? [.value, .flowEntry, close]

mutual
/-- Reads a node. -/
def readNode : Nat → Setting → Read NodeId
  | 0, _ => Read.refuse
  | fuel + 1, setting => do
    match ← Read.peek with
    | some (.anchorUse name) =>
      Read.drop
      match (← get).anchors.lookup name with
      | some i => return i
      | none => throw .malformed
    | _ =>
      let props ← readProperties
      if let some name := props.anchor then
        if ((← get).anchors.lookup name).isSome then throw .malformed
      let truths := (← get).truths
      match ← Read.peek with
      | some (.scalar plain text) =>
        Read.drop
        let i ← Read.addNode ⟨scalarTag truths plain props.tag text, .scalar text⟩
        Read.bind props.anchor i
        return i
      | some .flowSequenceStart =>
        Read.drop
        let i ← Read.addNode ⟨collectionTag .seq props.tag, .seq []⟩
        Read.bind props.anchor i
        Read.fill i (.seq (← readFlowItems fuel true))
        return i
      | some .flowMappingStart =>
        Read.drop
        let i ← Read.addNode ⟨collectionTag .map props.tag, .map []⟩
        Read.bind props.anchor i
        Read.fill i (.map (← readFlowEntries fuel true))
        return i
      | token =>
        if setting = .indentless && token = some .blockEntry then
          let i ← Read.addNode ⟨collectionTag .seq props.tag, .seq []⟩
          Read.bind props.anchor i
          Read.fill i (.seq (← readIndentlessItems fuel))
          return i
        else if setting ≠ .flow && token = some .blockSequenceStart then
          Read.drop
          let i ← Read.addNode ⟨collectionTag .seq props.tag, .seq []⟩
          Read.bind props.anchor i
          Read.fill i (.seq (← readBlockItems fuel))
          return i
        else if setting ≠ .flow && token = some .blockMappingStart then
          Read.drop
          let i ← Read.addNode ⟨collectionTag .map props.tag, .map []⟩
          Read.bind props.anchor i
          Read.fill i (.map (← readBlockEntries fuel))
          return i
        else if props.anchor.isSome || props.tag.isSome then
          -- A tag or an anchor may stand alone.
          let i ← Read.addNode
            ⟨scalarTag truths (props.tag.isNone) props.tag "", .scalar ""⟩
          Read.bind props.anchor i
          return i
        else Read.refuse

/-- Reads the entries of a block list up to its end. -/
def readBlockItems : Nat → Read (List NodeId)
  | 0 => Read.refuse
  | fuel + 1 => do
    if ← Read.accept .blockEntry then
      let item ←
        if ← Read.at? [.blockEntry, .blockEnd] then Read.emptyScalar else readNode fuel .block
      return item :: (← readBlockItems fuel)
    else
      Read.expect .blockEnd
      return []

/-- Reads the entries of a list that is indented like the map it is a value of. -/
def readIndentlessItems : Nat → Read (List NodeId)
  | 0 => Read.refuse
  | fuel + 1 => do
    if ← Read.accept .blockEntry then
      let item ←
        if ← Read.at? [.blockEntry, .key, .value, .blockEnd] then Read.emptyScalar
        else readNode fuel .block
      return item :: (← readIndentlessItems fuel)
    else return []

/-- Reads the entries of a block map up to its end. -/
def readBlockEntries : Nat → Read (List (NodeId × NodeId))
  | 0 => Read.refuse
  | fuel + 1 => do
    if ← Read.accept .key then
      let key ←
        if ← Read.at? [.key, .value, .blockEnd] then Read.emptyScalar
        else readNode fuel .indentless
      let value ← readBlockValue fuel
      return (key, value) :: (← readBlockEntries fuel)
    else
      Read.expect .blockEnd
      return []

/-- Reads the value after a key of a block map. -/
def readBlockValue : Nat → Read NodeId
  | 0 => Read.refuse
  | fuel + 1 => do
    if ← Read.accept .value then
      if ← Read.at? [.key, .value, .blockEnd] then Read.emptyScalar
      else readNode fuel .indentless
    else Read.emptyScalar

/-- Reads the items of a flow list up to its end. -/
def readFlowItems : Nat → (first : Bool) → Read (List NodeId)
  | 0, _ => Read.refuse
  | fuel + 1, first => do
    if ← Read.accept .flowSequenceEnd then return []
    else
      unless first do Read.expect .flowEntry
      if ← Read.accept .key then
        -- A single entry of a map may stand as an item.
        let i ← Read.addNode ⟨.map, .map []⟩
        let key ←
          if ← endsFlowItem .flowSequenceEnd then Read.emptyScalar else readNode fuel .flow
        let value ← readFlowValue fuel .flowSequenceEnd
        Read.fill i (.map [(key, value)])
        return i :: (← readFlowItems fuel false)
      else if ← Read.accept .flowSequenceEnd then return []
      else
        let item ← readNode fuel .flow
        return item :: (← readFlowItems fuel false)

/-- Reads the value after a key inside a flow collection with the given end. -/
def readFlowValue : Nat → Token → Read NodeId
  | 0, _ => Read.refuse
  | fuel + 1, close => do
    if ← Read.accept .value then
      if ← Read.at? [.flowEntry, close] then Read.emptyScalar else readNode fuel .flow
    else Read.emptyScalar

/-- Reads the entries of a flow map up to its end. -/
def readFlowEntries : Nat → (first : Bool) → Read (List (NodeId × NodeId))
  | 0, _ => Read.refuse
  | fuel + 1, first => do
    if ← Read.accept .flowMappingEnd then return []
    else
      unless first do Read.expect .flowEntry
      if ← Read.accept .key then
        let key ←
          if ← endsFlowItem .flowMappingEnd then Read.emptyScalar else readNode fuel .flow
        let value ← readFlowValue fuel .flowMappingEnd
        return (key, value) :: (← readFlowEntries fuel false)
      else if ← Read.accept .flowMappingEnd then return []
      else
        let key ← readNode fuel .flow
        let value ← Read.emptyScalar
        return (key, value) :: (← readFlowEntries fuel false)
end

/-! ## Documents -/

/-- The handles of tags that are always there. -/
def usualHandles : List (String × String) := [("!", "!"), ("!!", commonTagStart)]

/-- Reads the directives in front of a document: at most one version, which has to be a first one,
and at most one meaning for each handle. -/
def readDirectives : Nat → (versioned : Bool) → List (String × String) →
    Read (List (String × String))
  | 0, _, handles => return handles
  | fuel + 1, versioned, handles => do
    match ← Read.peek with
    | some (.directive d) =>
      Read.drop
      match d with
      | .version major _ =>
        if versioned || major ≠ 1 then throw .malformed
        readDirectives fuel true handles
      | .tagHandle handle start =>
        if (handles.lookup handle).isSome then throw .malformed
        readDirectives fuel versioned (handles ++ [(handle, start)])
      | .other => readDirectives fuel versioned handles
    | _ => return handles

/-- Goes past marks of a document's end. -/
def dropDocumentEnds : Nat → Read Unit
  | 0 => pure ()
  | fuel + 1 => do
    if ← Read.accept .documentEnd then dropDocumentEnds fuel

/-- Reads the document, if there is one, and refuses a second one. -/
def readDocument : Read (Option NodeId) := do
  let size := (← get).tokens.length
  let fuel := 2 * size + 2
  let top ←
    match ← Read.peek with
    | some .streamEnd => return none
    | some (.directive _) | some .documentStart =>
      let handles ← readDirectives size false []
      modify fun s => { s with handles := handles ++ usualHandles }
      Read.expect .documentStart
      match ← Read.peek with
      | some (.directive _) | some .documentStart | some .documentEnd | some .streamEnd =>
        Read.emptyScalar
      | _ => readNode fuel .block
    | _ => readNode fuel .block
  dropDocumentEnds size
  Read.expect .streamEnd
  return some top

/-- The graph of the one document of a list of tokens. -/
def Graph.ofTokens? (truths : Bool) (tokens : List Token) : Except Fault Graph :=
  match readDocument.run ⟨tokens, #[], [], usualHandles, truths⟩ with
  | .ok (top, s) => .ok ⟨s.nodes, top⟩
  | .error f => .error f

end Roster.Document
