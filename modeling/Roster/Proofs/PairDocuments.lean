import Roster.Document.Reading
import Roster.Proofs.PairLines

/-! # Documents of pairs

What the tokens of a heading with pairs below it stand for: a map in a map, its keys and values told from
texts by how they are written.

* `readDocument_headed`: the nodes of such a document.
* `readText_headedPairs`: the value of the document, if each key and each value has one.
-/

namespace Roster.Document

variable {anchors : List (String × NodeId)} {handles : List (String × String)} {truths : Bool}
  {nodes : Array Node} {rest : List Token} {fuel : Nat}

/-! ## Nodes -/

/-- The node of a plain scalar. -/
def plainNode (truths : Bool) (text : String) : Node := ⟨Tag.ofForm truths text, .scalar text⟩

/-- A key with a plain value of a block map, and the entries behind it. -/
theorem readBlockEntries_plain (fuel : Nat) (p : String × String) :
    readBlockEntries (fuel + 3) ⟨pairTokens p ++ rest, nodes, anchors, handles, truths⟩
      = (readBlockEntries (fuel + 2)
          ⟨rest, (nodes.push (plainNode truths p.1)).push (plainNode truths p.2), anchors, handles, truths⟩).bind
            fun r => .ok ((nodes.size, nodes.size + 1) :: r.1, r.2) := by
  have hsize : nodes.size + 1 = (nodes.push (plainNode truths p.1)).size := by simp
  rw [hsize]
  rfl

theorem readBlockEntries_end :
    readBlockEntries (fuel + 1) ⟨.blockEnd :: rest, nodes, anchors, handles, truths⟩
      = .ok ([], ⟨rest, nodes, anchors, handles, truths⟩) := by
  rfl

/-- A key of a block map whose value is a block map, and the entries behind it. -/
theorem readBlockEntries_map (heading : String) :
    readBlockEntries (fuel + 3)
        ⟨.key :: .scalar true heading :: .value :: .blockMappingStart :: rest, nodes, anchors, handles, truths⟩
      = (readNode (fuel + 1) .indentless
          ⟨.blockMappingStart :: rest, nodes.push (plainNode truths heading), anchors, handles, truths⟩).bind
            fun r => (readBlockEntries (fuel + 2) r.2).bind
              fun more => .ok ((nodes.size, r.1) :: more.1, more.2) := by
  rfl

/-- A block map gets its place before its entries do. -/
theorem readNode_blockMap {setting : Setting} (h : setting ≠ .flow) :
    readNode (fuel + 1) setting ⟨.blockMappingStart :: rest, nodes, anchors, handles, truths⟩
      = (readBlockEntries fuel ⟨rest, nodes.push ⟨.map, .map []⟩, anchors, handles, truths⟩).bind
          fun r => .ok (nodes.size, { r.2 with
            nodes := r.2.nodes.modify nodes.size fun n => { n with content := .map r.1 } }) := by
  cases setting with
  | block => rfl
  | indentless => rfl
  | flow => contradiction

/-- The places of pairs in the graph, from `n` on. -/
def placesFrom (n : Nat) : List (String × String) → List (NodeId × NodeId)
  | [] => []
  | _ :: pairs => (n, n + 1) :: placesFrom (n + 2) pairs

/-- The nodes of pairs. -/
def pairNodes (truths : Bool) (pairs : List (String × String)) : List Node :=
  pairs.flatMap fun p => [plainNode truths p.1, plainNode truths p.2]

theorem readBlockEntries_pairs (pairs : List (String × String)) :
    readBlockEntries (fuel + (pairs.length + 2))
        ⟨pairs.flatMap pairTokens ++ .blockEnd :: rest, nodes, anchors, handles, truths⟩
      = .ok (placesFrom nodes.size pairs,
          ⟨rest, nodes ++ (pairNodes truths pairs).toArray, anchors, handles, truths⟩) := by
  induction pairs generalizing nodes with
  | nil =>
    rw [List.flatMap_nil, List.nil_append]
    exact readBlockEntries_end.trans (by simp [placesFrom, pairNodes])
  | cons p pairs ih =>
    rw [List.flatMap_cons, List.append_assoc]
    refine (readBlockEntries_plain (fuel + pairs.length) p).trans ?_
    rw [Nat.add_assoc, ih]
    simp [Except.bind, placesFrom, pairNodes]

/-- A block map of pairs: its own node comes before those of its entries. -/
theorem readNode_pairs (pairs : List (String × String)) :
    readNode (fuel + (pairs.length + 2) + 1) .indentless
        ⟨.blockMappingStart :: (pairs.flatMap pairTokens ++ .blockEnd :: rest), nodes, anchors, handles,
          truths⟩
      = .ok (nodes.size, ⟨rest, nodes ++ (⟨.map, .map (placesFrom (nodes.size + 1) pairs)⟩
          :: pairNodes truths pairs).toArray, anchors, handles, truths⟩) := by
  rw [readNode_blockMap (by decide), readBlockEntries_pairs]
  simp only [Except.bind, Array.size_push]
  -- the place of the map is the first one behind the nodes that were there
  congr 4
  apply Array.toList_inj.mp
  simp [List.modify_eq_take_drop]

/-- The nodes of a map in a map: both maps first, the heading between them. -/
def headedNodes (truths : Bool) (heading : String) (pairs : List (String × String)) : Array Node :=
  (⟨.map, .map [(1, 2)]⟩ :: plainNode truths heading :: ⟨.map, .map (placesFrom 3 pairs)⟩
    :: pairNodes truths pairs).toArray

/-- A document that is a block map ends behind it. -/
theorem readDocument_blockMap :
    readDocument ⟨.blockMappingStart :: rest, nodes, anchors, handles, truths⟩
      = (readNode (2 * (rest.length + 1) + 2) .block
          ⟨.blockMappingStart :: rest, nodes, anchors, handles, truths⟩).bind
            fun r => (dropDocumentEnds (rest.length + 1) r.2).bind
              fun ended => (Read.expect .streamEnd ended.2).bind fun last => .ok (some r.1, last.2) := by
  rfl

theorem readDocument_headed (heading : String) (pairs : List (String × String)) :
    readDocument ⟨[.blockMappingStart, .key, .scalar true heading, .value, .blockMappingStart]
          ++ pairs.flatMap pairTokens ++ [.blockEnd, .blockEnd, .streamEnd], #[], [], usualHandles, truths⟩
      = .ok (some 0, ⟨[], headedNodes truths heading pairs, [], usualHandles, truths⟩) := by
  have hlength : (pairs.flatMap pairTokens).length = 4 * pairs.length := by
    simp [List.length_flatMap, pairTokens, Nat.mul_comm]
  have hmap : readNode (7 * pairs.length + 12 + (pairs.length + 2) + 1) .indentless
      ⟨.blockMappingStart :: (pairs.flatMap pairTokens ++ [.blockEnd, .blockEnd, .streamEnd]),
        #[⟨.map, .map []⟩, plainNode truths heading], [], usualHandles, truths⟩
      = .ok (2, ⟨[.blockEnd, .streamEnd],
          #[⟨.map, .map []⟩, plainNode truths heading]
            ++ (⟨.map, .map (placesFrom 3 pairs)⟩ :: pairNodes truths pairs).toArray,
          [], usualHandles, truths⟩) := readNode_pairs pairs
  have hentries : readBlockEntries (7 * pairs.length + 12 + (pairs.length + 2) + 3)
      ⟨.key :: .scalar true heading :: .value :: .blockMappingStart ::
        (pairs.flatMap pairTokens ++ [.blockEnd, .blockEnd, .streamEnd]), #[⟨.map, .map []⟩], [], usualHandles,
        truths⟩
      = .ok ([(1, 2)], ⟨[.streamEnd],
          (⟨.map, .map []⟩ :: plainNode truths heading :: ⟨.map, .map (placesFrom 3 pairs)⟩
            :: pairNodes truths pairs).toArray, [], usualHandles, truths⟩) := by
    refine (readBlockEntries_map heading).trans ((congrArg (Except.bind · _) hmap).trans ?_)
    simp [Except.bind, readBlockEntries_end]
  have hnode : readNode (7 * pairs.length + 12 + (pairs.length + 2) + 1 + 2 + 1) .block
      ⟨.blockMappingStart :: .key :: .scalar true heading :: .value :: .blockMappingStart ::
        (pairs.flatMap pairTokens ++ [.blockEnd, .blockEnd, .streamEnd]), #[], [], usualHandles, truths⟩
      = .ok (0, ⟨[.streamEnd], headedNodes truths heading pairs, [], usualHandles, truths⟩) := by
    rw [readNode_blockMap (by decide)]
    refine (congrArg (Except.bind · _) hentries).trans ?_
    simp [Except.bind, headedNodes]
  have htokens : [Token.blockMappingStart, .key, .scalar true heading, .value, .blockMappingStart]
        ++ pairs.flatMap pairTokens ++ [Token.blockEnd, .blockEnd, .streamEnd]
      = .blockMappingStart :: .key :: .scalar true heading :: .value :: .blockMappingStart ::
        (pairs.flatMap pairTokens ++ [.blockEnd, .blockEnd, .streamEnd]) := by simp
  have hfuel : 2 * ((Token.key :: .scalar true heading :: .value :: .blockMappingStart ::
        (pairs.flatMap pairTokens ++ [.blockEnd, .blockEnd, .streamEnd])).length + 1) + 2
      = 7 * pairs.length + 12 + (pairs.length + 2) + 1 + 2 + 1 := by
    simp only [List.length_append, hlength, List.length_cons, List.length_nil]
    omega
  rw [htokens, readDocument_blockMap, hfuel, hnode]
  rfl

/-! ## Values -/

/-- The value of a plain scalar. -/
def plainValue (truths : Bool) (text : String) : Except Fault Value :=
  (scalarValue? (Tag.ofForm truths text) text).getD (.error .malformed)

/-- The values of pairs of plain scalars, read in their order. -/
def plainPairs (truths : Bool) : List (String × String) → Except Fault (List (Value × Value))
  | [] => .ok []
  | p :: pairs => do
    let key ← plainValue truths p.1
    let value ← plainValue truths p.2
    .ok ((key, value) :: (← plainPairs truths pairs))

/-- A plain scalar is no collection. -/
theorem emptyCell?_ofForm (truths : Bool) (text : String) : emptyCell? (Tag.ofForm truths text) = none := by
  unfold Tag.ofForm
  dsimp only
  repeat' split
  all_goals rfl

theorem nodeAt_of_drop {n : Nat} {node : Node} {later : List Node} (h : nodes.toList.drop n = node :: later) :
    nodeAt nodes n = node ∧ nodes.toList.drop (n + 1) = later := by
  have hget : nodes.toList[n]? = some node := by
    rw [← List.head?_drop, h, List.head?_cons]
  constructor
  · rw [nodeAt, ← Array.getElem?_toList, hget, Option.getD_some]
  · rw [← List.drop_drop, h, List.drop_one, List.tail_cons]

variable {w : Workshop} {i n : Nat} {asKey : Bool} {text : String}

/-- Making the node of a plain scalar gives it its value. -/
theorem makeNode_plain (hnew : w.cells.lookup i = none) (hnode : nodeAt nodes i = plainNode truths text)
    (hkey : asKey = true → Tag.ofForm truths text ≠ .value) :
    makeNode nodes asKey w i
      = (plainValue truths text).map fun v => ⟨(i, .leaf v) :: w.cells, w.waiting⟩ := by
  have htag : (if asKey && (nodeAt nodes i).tag = .value then Tag.text else (nodeAt nodes i).tag)
      = Tag.ofForm truths text := by
    have htag : (nodeAt nodes i).tag = Tag.ofForm truths text := by rw [hnode, plainNode]
    rw [htag, if_neg]
    simpa using hkey
  have htext : scalarText? nodes (nodes.size + 1) i = some text := by
    rw [scalarText?, hnode]
    rfl
  rw [makeNode, hnew]
  simp only [Option.isSome_none, Bool.false_eq_true, if_false, htag, emptyCell?_ofForm, htext, plainValue]
  cases scalarValue? (Tag.ofForm truths text) text with
  | none => rfl
  | some r => cases r <;> rfl

theorem lookup_cons_of_ne {i j : Nat} (h : i ≠ j) (c : Cell) (cells : List (NodeId × Cell)) :
    ((j, c) :: cells).lookup i = cells.lookup i := by
  have hne : (i == j) = false := beq_false_of_ne h
  rw [List.lookup_cons, hne]

/-- The cells that the values of pairs get from the place `n` on. -/
def cellsFrom (n : Nat) : List (Value × Value) → List (NodeId × Cell)
  | [] => []
  | (key, value) :: rest => cellsFrom (n + 2) rest ++ [(n + 1, .leaf value), (n, .leaf key)]

/-- The entries of such pairs: a key is a value, a value its place. -/
def entriesFrom (n : Nat) : List (Value × Value) → List (Value × NodeId)
  | [] => []
  | (key, _) :: rest => (key, n + 1) :: entriesFrom (n + 2) rest

/-- Pairs are made in their order, and the first one that has no value stops the making. -/
theorem makeEntries_pairs {pairs : List (String × String)}
    (hnodes : nodes.toList.drop n = pairNodes truths pairs)
    (hkeys : ∀ p ∈ pairs, Tag.ofForm truths p.1 ≠ .value)
    (hnew : ∀ i : Nat, n ≤ i → w.cells.lookup i = none) :
    makeEntries nodes w (placesFrom n pairs)
      = (plainPairs truths pairs).map fun es =>
          (⟨cellsFrom n es ++ w.cells, w.waiting⟩, entriesFrom n es) := by
  -- what is made for a pair lies below the places of the pairs behind it
  induction pairs generalizing n w with
  | nil => rfl
  | cons p pairs ih =>
    obtain ⟨hp, hpairs⟩ := List.forall_mem_cons.mp hkeys
    obtain ⟨hkey, hlater⟩ := nodeAt_of_drop hnodes
    obtain ⟨hvalue, hmore⟩ := nodeAt_of_drop hlater
    rw [placesFrom, makeEntries, makeNode_plain (hnew n (Nat.le_refl n)) hkey fun _ => hp, plainPairs]
    cases hread : plainValue truths p.1 with
    | error f => rfl
    | ok k =>
      have hhere : ((n, Cell.leaf k) :: w.cells).lookup n = some (.leaf k) := List.lookup_cons_self
      have hnext : ((n, Cell.leaf k) :: w.cells).lookup (n + 1) = none :=
        (lookup_cons_of_ne (Nat.succ_ne_self n) ..).trans (hnew (n + 1) (Nat.le_succ n))
      have hmade : makeNode nodes false ⟨(n, .leaf k) :: w.cells, w.waiting⟩ (n + 1)
          = (plainValue truths p.2).map fun v =>
              ⟨(n + 1, .leaf v) :: (n, .leaf k) :: w.cells, w.waiting⟩ :=
        makeNode_plain hnext hvalue (by simp)
      simp only [Except.map, bind, Except.bind, hhere, hmade]
      cases hread' : plainValue truths p.2 with
      | error f => rfl
      | ok v =>
        have hnew' : ∀ i : Nat, n + 2 ≤ i →
            ((n + 1, Cell.leaf v) :: (n, .leaf k) :: w.cells).lookup i = none := by
          intro i hi
          rw [lookup_cons_of_ne (by omega), lookup_cons_of_ne (by omega)]
          exact hnew i (by omega)
        dsimp only
        rw [ih (w := ⟨(n + 1, .leaf v) :: (n, .leaf k) :: w.cells, w.waiting⟩) hmore hpairs hnew']
        cases plainPairs truths pairs with
        | error f => rfl
        | ok es => simp [Except.map, cellsFrom, entriesFrom]

/-! ## Entries of a map -/

theorem put_of_differ {key : Value} {entries : List (Value × NodeId)}
    (h : ∀ e ∈ entries, Value.sameKey e.1 key = false) (i : NodeId) :
    distinctEntries.put key i entries = entries ++ [(key, i)] := by
  induction entries with
  | nil => rfl
  | cons e entries ih =>
    obtain ⟨he, hentries⟩ := List.forall_mem_cons.mp h
    simp [distinctEntries.put, he, ih hentries]

/-- Entries of different keys are kept as they are. -/
theorem distinctEntries_of_pairwise {entries : List (Value × NodeId)}
    (h : entries.Pairwise fun a b => Value.sameKey a.1 b.1 = false) : distinctEntries entries = entries := by
  have hput : ∀ (before later : List (Value × NodeId)),
      (before ++ later).Pairwise (fun a b => Value.sameKey a.1 b.1 = false) →
      later.foldl (fun acc e => distinctEntries.put e.1 e.2 acc) before = before ++ later := by
    intro before later
    induction later generalizing before with
    | nil => simp
    | cons e later ih =>
      intro hall
      have hnew : ∀ x ∈ before, Value.sameKey x.1 e.1 = false :=
        fun x hx => (List.pairwise_append.mp hall).2.2 x hx e List.mem_cons_self
      rw [List.foldl_cons, put_of_differ hnew, ih, List.append_assoc, List.singleton_append]
      simpa using hall
  exact hput [] entries h

theorem map_fst_entriesFrom (n : Nat) (es : List (Value × Value)) :
    (entriesFrom n es).map (·.1) = es.map (·.1) := by
  induction es generalizing n with
  | nil => rfl
  | cons e es ih => simp [entriesFrom, ih]

/-- A map none of whose keys stands for other maps has its own entries only. -/
theorem mergedEntries_own {fuel : Nat} (entries : List (NodeId × NodeId))
    (hnode : (nodeAt nodes i).content = .map entries)
    (hkeys : ∀ e ∈ entries, (nodeAt nodes e.1).tag ≠ .merge) :
    mergedEntries nodes (fuel + 1) [] i = .ok entries := by
  have hown : entries.filter (fun e => decide ((nodeAt nodes e.1).tag ≠ .merge)) = entries :=
    List.filter_eq_self.mpr fun e he => decide_eq_true (hkeys e he)
  have hnone : entries.filter (fun e => decide ((nodeAt nodes e.1).tag = .merge)) = [] :=
    List.filter_eq_nil_iff.mpr fun e he => by simpa using hkeys e he
  rw [mergedEntries, hnode]
  simp only [hown, hnone, List.mapM_nil]
  rfl

/-- A key that stands for other maps has no scalar. -/
theorem mergedEntries_scalar {fuel : Nat} {entries : List (NodeId × NodeId)} {e : NodeId × NodeId}
    (hnode : (nodeAt nodes i).content = .map entries) (he : e ∈ entries)
    (hmerge : (nodeAt nodes e.1).tag = .merge)
    (hscalars : ∀ e ∈ entries, ∃ text, (nodeAt nodes e.2).content = .scalar text) :
    mergedEntries nodes (fuel + 1) [] i = .error .malformed := by
  obtain ⟨first, more, hsources⟩ : ∃ first more,
      entries.filter (fun e => decide ((nodeAt nodes e.1).tag = .merge)) = first :: more :=
    List.exists_cons_of_ne_nil fun hnil =>
      List.filter_eq_nil_iff.mp hnil e he (decide_eq_true hmerge)
  obtain ⟨text, htext⟩ := hscalars first
    (List.mem_of_mem_filter (hsources ▸ List.mem_cons_self))
  rw [mergedEntries, hnode]
  simp [hsources, htext, bind, Except.bind]

theorem map_nodeAt_placesFrom {pairs : List (String × String)}
    (hnodes : nodes.toList.drop n = pairNodes truths pairs) :
    (placesFrom n pairs).map (fun e => (nodeAt nodes e.1, nodeAt nodes e.2))
      = pairs.map fun p => (plainNode truths p.1, plainNode truths p.2) := by
  induction pairs generalizing n with
  | nil => rfl
  | cons p pairs ih =>
    obtain ⟨hkey, hlater⟩ := nodeAt_of_drop hnodes
    obtain ⟨hvalue, hmore⟩ := nodeAt_of_drop hlater
    rw [placesFrom, List.map_cons, List.map_cons, hkey, hvalue, ih hmore]

/-- Each place of an entry holds the nodes of one of the pairs. -/
theorem exists_pair_of_mem_placesFrom {pairs : List (String × String)}
    (hnodes : nodes.toList.drop n = pairNodes truths pairs) {e : NodeId × NodeId}
    (he : e ∈ placesFrom n pairs) :
    ∃ p ∈ pairs, nodeAt nodes e.1 = plainNode truths p.1 ∧ nodeAt nodes e.2 = plainNode truths p.2 := by
  have hmem : (nodeAt nodes e.1, nodeAt nodes e.2)
      ∈ (placesFrom n pairs).map fun e => (nodeAt nodes e.1, nodeAt nodes e.2) := List.mem_map_of_mem he
  rw [map_nodeAt_placesFrom hnodes] at hmem
  obtain ⟨p, hp, heq⟩ := List.mem_map.mp hmem
  exact ⟨p, hp, (Prod.mk.inj heq).1.symm, (Prod.mk.inj heq).2.symm⟩

/-- A map of pairs has its own entries only, or no entries if one of its keys stands for other maps. -/
theorem mergedEntries_pairs {fuel : Nat} {pairs : List (String × String)}
    (hnodes : nodes.toList.drop n = pairNodes truths pairs)
    (hnode : (nodeAt nodes i).content = .map (placesFrom n pairs)) :
    mergedEntries nodes (fuel + 1) [] i
      = if ∃ p ∈ pairs, Tag.ofForm truths p.1 = .merge then .error .malformed
        else .ok (placesFrom n pairs) := by
  split
  · rename_i hmerge
    obtain ⟨p, hp, hform⟩ := hmerge
    have hmem : (plainNode truths p.1, plainNode truths p.2)
        ∈ pairs.map fun p => (plainNode truths p.1, plainNode truths p.2) := List.mem_map_of_mem hp
    rw [← map_nodeAt_placesFrom hnodes] at hmem
    obtain ⟨e, he, heq⟩ := List.mem_map.mp hmem
    have htag : (nodeAt nodes e.1).tag = .merge := by
      rw [(Prod.mk.inj heq).1]
      exact hform
    refine mergedEntries_scalar hnode he htag fun e he => ?_
    obtain ⟨q, -, -, hscalar⟩ := exists_pair_of_mem_placesFrom hnodes he
    exact ⟨q.2, congrArg Node.content hscalar⟩
  · rename_i hnone
    refine mergedEntries_own _ hnode fun e he htag => ?_
    obtain ⟨p, hp, hkey, -⟩ := exists_pair_of_mem_placesFrom hnodes he
    rw [hkey] at htag
    exact hnone ⟨p, hp, htag⟩

/-! ## The value of the document -/

theorem lookup_cellsFrom_of_lt {es : List (Value × Value)} (h : i < n) : (cellsFrom n es).lookup i = none := by
  induction es generalizing n with
  | nil => rfl
  | cons e es ih =>
    rw [cellsFrom, List.lookup_append, ih (by omega), Option.none_or, lookup_cons_of_ne (by omega),
      lookup_cons_of_ne (by omega), List.lookup_nil]

theorem valueOf_map {cells : List (NodeId × Cell)} {path : List NodeId} {entries : List (Value × NodeId)}
    {fuel : Nat} (hpath : path.findIdx? (· = i) = none) (h : cells.lookup i = some (.map entries)) :
    valueOf cells (fuel + 1) path i
      = .map (entries.map fun e => (e.1, valueOf cells fuel (i :: path) e.2)) := by
  rw [valueOf, hpath]
  simp only [h]

/-- The values of entries are those of the pairs that they were made of. -/
theorem valueOf_entriesFrom {cells : List (NodeId × Cell)} {path : List NodeId} {es : List (Value × Value)}
    {fuel : Nat} (hpath : ∀ x ∈ path, x < n)
    (hcells : ∀ i : Nat, n ≤ i → cells.lookup i = (cellsFrom n es).lookup i) :
    (entriesFrom n es).map (fun e => (e.1, valueOf cells (fuel + 1) path e.2)) = es := by
  induction es generalizing n with
  | nil => rfl
  | cons e es ih =>
    obtain ⟨k, v⟩ := e
    have hhere : cells.lookup (n + 1) = some (.leaf v) := by
      rw [hcells (n + 1) (Nat.le_succ n), cellsFrom, List.lookup_append, lookup_cellsFrom_of_lt (by omega),
        Option.none_or, List.lookup_cons_self]
    have houtside : path.findIdx? (· = n + 1) = none :=
      List.findIdx?_eq_none_iff.mpr fun x hx =>
        decide_eq_false (Nat.ne_of_lt (Nat.lt_succ_of_lt (hpath x hx)))
    have hlater : ∀ i : Nat, n + 2 ≤ i → cells.lookup i = (cellsFrom (n + 2) es).lookup i := by
      intro i hi
      rw [hcells i (by omega), cellsFrom, List.lookup_append, lookup_cons_of_ne (by omega),
        lookup_cons_of_ne (by omega), List.lookup_nil, Option.or_none]
    have hvalue : valueOf cells (fuel + 1) path (n + 1) = v := by
      rw [valueOf, houtside]
      simp only [hhere]
    rw [entriesFrom, List.map_cons, hvalue, ih (fun x hx => Nat.lt_add_right 2 (hpath x hx)) hlater]

/-- To open a map is to make its entries. -/
theorem openCell_map {old : List (Value × NodeId)} (h : w.cells.lookup i = some (.map old)) :
    openCell nodes w i = (mergedEntries nodes (nodes.size + 1) [] i).bind fun entries =>
      (makeEntries nodes w entries).bind fun made =>
        .ok { made.1 with cells := (i, .map (distinctEntries made.2)) :: made.1.cells } := by
  rw [openCell, h]
  rfl

theorem openLevels_one {fuel : Nat} {cells : List (NodeId × Cell)} :
    openLevels nodes (fuel + 1) ⟨cells, [i]⟩
      = (openCell nodes ⟨cells, []⟩ i).bind (openLevels nodes fuel) := by
  rw [openLevels]
  simp only [List.foldlM_cons, List.foldlM_nil]
  cases openCell nodes ⟨cells, []⟩ i <;> rfl

/-- A key that stands for other maps is no value. -/
theorem plainPairs_of_merge {pairs : List (String × String)} {p : String × String} (hp : p ∈ pairs)
    (h : Tag.ofForm truths p.1 = .merge) : (plainPairs truths pairs).toOption = none := by
  induction pairs with
  | nil => contradiction
  | cons q pairs ih =>
    rw [plainPairs]
    -- the first such key is refused, whatever the pairs behind it are
    rcases List.mem_cons.mp hp with rfl | hmore
    · have hnone : plainValue truths p.1 = .error .malformed := by
        rw [plainValue, h]
        rfl
      rw [hnone]
      rfl
    · cases plainValue truths q.1 with
      | error f => rfl
      | ok k =>
        cases plainValue truths q.2 with
        | error f => rfl
        | ok v =>
          have hnone := ih hmore
          cases hread : plainPairs truths pairs with
          | error f => rfl
          | ok es =>
            rw [hread] at hnone
            contradiction

section Headed

variable {heading : String} {pairs : List (String × String)}

/-- The cells of a map in a map before the inner one is opened. -/
def headedCells (heading : String) : List (NodeId × Cell) :=
  [(0, .map [(.text heading, 2)]), (2, .map []), (1, .leaf (.text heading)), (0, .map [])]

theorem openCell_outer (hheading : Tag.ofForm truths heading = .text) :
    openCell (headedNodes truths heading pairs) ⟨[(0, .map [])], []⟩ 0 = .ok ⟨headedCells heading, [2]⟩ := by
  have htag : ∀ e ∈ [((1 : NodeId), (2 : NodeId))],
      (nodeAt (headedNodes truths heading pairs) e.1).tag ≠ .merge := by
    intro e he
    obtain rfl := List.mem_singleton.mp he
    change Tag.ofForm truths heading ≠ .merge
    rw [hheading]
    decide
  have hvalue : plainValue truths heading = .ok (.text heading) := by
    rw [plainValue, hheading]
    rfl
  have hkey : makeNode (headedNodes truths heading pairs) true ⟨[(0, .map [])], []⟩ 1
      = (plainValue truths heading).map fun v => ⟨[(1, .leaf v), (0, .map [])], []⟩ :=
    makeNode_plain rfl rfl (by rw [hheading]; decide)
  rw [openCell_map rfl, mergedEntries_own [(1, 2)] rfl htag]
  simp only [Except.bind, makeEntries, hkey, hvalue, Except.map, bind]
  rfl

theorem lookup_headedCells_of_le (hi : 3 ≤ i) : (headedCells heading).lookup i = none := by
  rw [headedCells, lookup_cons_of_ne (by omega), lookup_cons_of_ne (by omega), lookup_cons_of_ne (by omega),
    lookup_cons_of_ne (by omega), List.lookup_nil]

/-- The cells of a map in a map, once both are opened. -/
def openedCells (heading : String) (es : List (Value × Value)) : List (NodeId × Cell) :=
  (2, .map (distinctEntries (entriesFrom 3 es))) :: (cellsFrom 3 es ++ headedCells heading)

/-- The inner map is opened if each key and each value of the pairs has a value. -/
theorem openCell_inner (heading : String) (hkeys : ∀ p ∈ pairs, Tag.ofForm truths p.1 ≠ .value) :
    (openCell (headedNodes truths heading pairs) ⟨headedCells heading, []⟩ 2).toOption
      = (plainPairs truths pairs).toOption.map fun es => ⟨openedCells heading es, []⟩ := by
  have hnodes : (headedNodes truths heading pairs).toList.drop 3 = pairNodes truths pairs := rfl
  rw [openCell_map rfl, mergedEntries_pairs hnodes rfl]
  split
  · -- such a key has no value either
    rename_i hmerge
    obtain ⟨p, hp, hform⟩ := hmerge
    rw [plainPairs_of_merge hp hform]
    rfl
  · simp only [Except.bind]
    rw [makeEntries_pairs hnodes hkeys fun i => lookup_headedCells_of_le]
    cases plainPairs truths pairs <;> rfl

/-- The value of a map in a map is that of its opened cells. -/
theorem value_headed (hheading : Tag.ofForm truths heading = .text)
    (hkeys : ∀ p ∈ pairs, Tag.ofForm truths p.1 ≠ .value) :
    (Graph.value ⟨headedNodes truths heading pairs, some 0⟩).toOption
      = (plainPairs truths pairs).toOption.map fun es =>
          valueOf (openedCells heading es) ((headedNodes truths heading pairs).size + 1) [] 0 := by
  have hfuel : (headedNodes truths heading pairs).size + 1 = (pairNodes truths pairs).length + 1 + 1 + 1 + 1 := by
    simp [headedNodes]
  have htop : makeNode (headedNodes truths heading pairs) false ⟨[], []⟩ 0 = .ok ⟨[(0, .map [])], [0]⟩ := rfl
  rw [Graph.value]
  simp only [htop, bind, Except.bind, hfuel]
  rw [openLevels_one, openCell_outer hheading]
  simp only [Except.bind]
  rw [openLevels_one]
  -- opening the cell of the inner map reads all pairs, and fails if one of them has no value
  have hinner := openCell_inner heading hkeys
  cases hread : plainPairs truths pairs with
  | error f =>
    rw [hread] at hinner
    cases hopen : openCell (headedNodes truths heading pairs) ⟨headedCells heading, []⟩ 2 with
    | error f => rfl
    | ok w =>
      rw [hopen] at hinner
      contradiction
  | ok es =>
    rw [hread] at hinner
    cases hopen : openCell (headedNodes truths heading pairs) ⟨headedCells heading, []⟩ 2 with
    | error f =>
      rw [hopen] at hinner
      contradiction
    | ok w =>
      rw [hopen] at hinner
      obtain rfl := Option.some.inj hinner
      rfl

/-- The value of the opened cells is a map in a map, if the keys of the pairs differ. -/
theorem valueOf_openedCells (heading : String) {es : List (Value × Value)}
    (hdiffer : es.Pairwise fun a b => Value.sameKey a.1 b.1 = false) (fuel : Nat) :
    valueOf (openedCells heading es) (fuel + 3) [] 0 = .map [(.text heading, .map es)] := by
  have hdistinct : distinctEntries (entriesFrom 3 es) = entriesFrom 3 es := by
    refine distinctEntries_of_pairwise (List.pairwise_map (R := fun a b => Value.sameKey a b = false)
      (f := Prod.fst) |>.mp ?_)
    rw [map_fst_entriesFrom]
    exact List.pairwise_map.mpr hdiffer
  have houter : (openedCells heading es).lookup 0 = some (.map [(.text heading, 2)]) := by
    rw [openedCells, List.lookup_cons, List.lookup_append, lookup_cellsFrom_of_lt (by decide)]
    rfl
  have hinner : (openedCells heading es).lookup 2 = some (.map (entriesFrom 3 es)) := by
    rw [openedCells, hdistinct]
    exact List.lookup_cons_self
  have hleaves : ∀ i : Nat, 3 ≤ i → (openedCells heading es).lookup i = (cellsFrom 3 es).lookup i := by
    intro i hi
    rw [openedCells, lookup_cons_of_ne (by omega), List.lookup_append, lookup_headedCells_of_le hi,
      Option.or_none]
  rw [valueOf_map rfl houter, List.map_singleton, valueOf_map rfl hinner,
    valueOf_entriesFrom (by decide) hleaves]

/-- A heading with pairs on the lines below it is read as a map in a map, if each key and each value has
a value of its own; else it is not read. -/
theorem readText_headedPairs {width : Nat} (hheading : IsHeading heading)
    (hform : Tag.ofForm truths heading = .text) (hwidth : 0 < width) (hne : pairs ≠ [])
    (hlines : ∀ p ∈ pairs, IsPairLine p) (hkeys : ∀ p ∈ pairs, Tag.ofForm truths p.1 ≠ .value)
    (hdiffer : ∀ es, plainPairs truths pairs = .ok es →
      es.Pairwise fun a b => Value.sameKey a.1 b.1 = false) :
    (readText truths (headedPairs heading width pairs)).toOption
      = (plainPairs truths pairs).toOption.map fun es => .map [(.text heading, .map es)] := by
  have hgraph : Graph.ofTokens? truths (Token.ofText (headedPairs heading width pairs))
      = .ok ⟨headedNodes truths heading pairs, some 0⟩ := by
    rw [Token.ofText_headedPairs hheading hwidth hne hlines, Graph.ofTokens?]
    simp only [StateT.run, readDocument_headed]
  rw [readText, hgraph]
  refine (value_headed hform hkeys).trans ?_
  cases hread : plainPairs truths pairs with
  | error f => rfl
  | ok es =>
    have hvalue := valueOf_openedCells heading (hdiffer es hread) ((pairNodes truths pairs).length + 1)
    have hsize : (headedNodes truths heading pairs).size + 1 = (pairNodes truths pairs).length + 1 + 3 := by
      simp [headedNodes]
    rw [hsize]
    exact congrArg some hvalue

end Headed

end Roster.Document
