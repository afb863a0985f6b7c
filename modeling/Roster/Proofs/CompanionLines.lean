import Mathlib.Algebra.GroupWithZero.Nat
import Roster.Lineage
import Roster.Proofs.FieldListing
import Roster.Proofs.ManifestEntries
import Roster.Proofs.Splitting

/-! # The lines of a companion

A companion's text is cut into lines at every line feed and carriage return. Its field names are
escaped and its package is not written, so that neither ends a line. The qualified name of its type
stands as it is in the comment at the top and in the text that describes the class, and the name of the
companion wherever the class is named; a line end in them ends a line of the companion.

* `length_linesOf`: there is one line more than there are line ends.
* `lineEnds_render`: the line ends of a companion, counted over its parts.
* `companion_lines_iff`: when the names of a manifest leave the lines of a companion alone.
-/

namespace Roster

/-- The characters at which a text is cut into lines. -/
def isLineEnd (c : Char) : Bool := c = '\n' || c = '\r'

/-- How many line ends a text has. -/
def lineEnds (s : String) : Nat := s.toList.countP isLineEnd

/-- The lines of a text, without their ends. -/
def linesOf (s : String) : List (List Char) := s.toList.splitOnP isLineEnd

/-! ## Counting lines -/

theorem length_splitOnP {α : Type} (p : α → Bool) (xs : List α) :
    (xs.splitOnP p).length = xs.countP p + 1 := by
  induction xs with
  | nil => simp [List.splitOnP_nil]
  | cons x xs ih =>
    rw [List.splitOnP_cons_eq_if_modifyHead, List.countP_cons]
    by_cases hx : p x = true
    · simp [hx, ih]
    · simp [hx, ih]

/-- No piece holds what the pieces are cut at. -/
theorem not_of_mem_splitOnP {α : Type} {p : α → Bool} {xs piece : List α}
    (h : piece ∈ xs.splitOnP p) : ∀ x ∈ piece, p x = false := by
  induction xs generalizing piece with
  | nil =>
    rw [List.splitOnP_nil, List.mem_singleton] at h
    simp [h]
  | cons y xs ih =>
    rw [List.splitOnP_cons_eq_if_modifyHead] at h
    by_cases hy : p y = true
    · rw [if_pos hy, List.mem_cons] at h
      rcases h with rfl | h
      · simp
      · exact ih h
    · rw [if_neg hy] at h
      -- the first piece of the rest goes on to the left
      obtain ⟨first, others, hpieces⟩ := List.exists_cons_of_ne_nil (List.splitOnP_ne_nil p xs)
      rw [hpieces] at h ih
      rcases List.mem_cons.mp h with rfl | h
      · simpa [hy] using ih List.mem_cons_self
      · exact ih (List.mem_cons_of_mem _ h)

theorem length_linesOf (s : String) : (linesOf s).length = lineEnds s + 1 :=
  length_splitOnP isLineEnd s.toList

theorem lineEnds_append (s u : String) : lineEnds (s ++ u) = lineEnds s + lineEnds u := by
  rw [lineEnds, String.toList_append, List.countP_append]
  rfl

theorem lineEnds_eq_zero_iff (s : String) :
    lineEnds s = 0 ↔ ∀ c ∈ s.toList, isLineEnd c = false := by
  simp [lineEnds, List.countP_eq_zero]

/-- Each line of a companion ends once, besides the line ends in it. -/
theorem lineEnds_joinLines (lines : List String) :
    lineEnds (Rendering.joinLines lines) = lines.length + (lines.map lineEnds).sum := by
  induction lines with
  | nil => rfl
  | cons line lines ih =>
    have hend : lineEnds "\n" = 1 := rfl
    rw [Rendering.joinLines, List.foldr_cons, ← Rendering.joinLines, lineEnds_append,
      lineEnds_append, hend, ih, List.map_cons, List.sum_cons, List.length_cons]
    omega

/-! ## Literals -/

theorem isLineEnd_eq_true_iff (c : Char) : isLineEnd c = true ↔ c = '\n' ∨ c = '\r' := by
  rw [isLineEnd, Bool.or_eq_true, decide_eq_true_eq, decide_eq_true_eq]

/-- No character is escaped to a line end. -/
theorem isLineEnd_of_mem_escapeChar {c d : Char} (h : d ∈ Text.escapeChar c) :
    isLineEnd d = false := by
  have hlow := Text.le_of_mem_escapeChar h
  by_contra hend
  rcases (isLineEnd_eq_true_iff d).mp (by simpa using hend) with rfl | rfl
  · exact absurd hlow (by decide)
  · exact absurd hlow (by decide)

/-- A literal stays on its line, whatever it stands for. -/
theorem lineEnds_literal (s : String) : lineEnds (Rendering.literal .python s) = 0 := by
  rw [lineEnds_eq_zero_iff]
  intro c hc
  rw [Rendering.literal, Text.escaped, String.toList_ofList, Text.escapedChars, List.mem_append,
    List.mem_cons, List.mem_singleton] at hc
  rcases hc with (rfl | hc) | rfl
  · rfl
  · obtain ⟨d, -, hc⟩ := List.mem_flatMap.mp hc
    exact isLineEnd_of_mem_escapeChar hc
  · rfl

/-! ## Companions -/

/-- How many lines a companion has that is named without line ends. -/
def usualLines (fields : Nat) (debuggable : Bool) : Nat := 25 + fields + if debuggable then 7 else 0

theorem lineEnds_fields (a : Artifact) :
    ((Rendering.pythonParts a).fields.map lineEnds).sum = 0 := by
  rw [List.sum_eq_zero_iff_forall_eq_nat]
  intro n hn
  obtain ⟨line, hline, rfl⟩ := List.mem_map.mp hn
  obtain ⟨field, -, rfl⟩ := List.mem_map.mp hline
  have hmargin : lineEnds "        " = 0 := rfl
  have hcomma : lineEnds "," = 0 := rfl
  rw [lineEnds_append, lineEnds_append, lineEnds_literal, hmargin, hcomma]

/-- A text that is written out here has no line end if none is found in it. -/
theorem lineEnds_of_none {s : String} (h : s.toList.any isLineEnd = false) : lineEnds s = 0 := by
  rw [lineEnds_eq_zero_iff]
  simpa using h

theorem lineEnds_opening (a : Artifact) :
    ((Rendering.pythonParts a).opening.map lineEnds).sum
      = 2 * lineEnds a.sourceType + 2 * lineEnds a.name := by
  simp (disch := decide) only [Rendering.pythonParts, Rendering.header, List.map_cons,
    List.map_nil, List.sum_cons, List.sum_nil, lineEnds_append, lineEnds_of_none]
  omega

theorem lineEnds_accessor (a : Artifact) :
    ((Rendering.pythonParts a).accessor.map lineEnds).sum = 2 * lineEnds a.name := by
  simp (disch := decide) only [Rendering.pythonParts, List.map_cons, List.map_nil, List.sum_cons,
    List.sum_nil, lineEnds_append, lineEnds_of_none]
  omega

theorem lineEnds_debugging (a : Artifact) :
    ((Rendering.pythonParts a).debugging.map lineEnds).sum = lineEnds a.name := by
  simp (disch := decide) only [Rendering.pythonParts, List.map_cons, List.map_nil, List.sum_cons,
    List.sum_nil, lineEnds_append, lineEnds_literal, lineEnds_of_none]
  omega

/-- The line ends of a companion: the usual ones, and those of the names that stand in it as they are. -/
theorem lineEnds_render (a : Artifact) :
    lineEnds (Rendering.render .python a) + 1
      = usualLines a.fieldNames.size a.debuggable + 2 * lineEnds a.sourceType
        + (if a.debuggable then 5 else 4) * lineEnds a.name := by
  have hlengths : (Rendering.pythonParts a).opening.length = 16 ∧
      (Rendering.pythonParts a).fields.length = a.fieldNames.size ∧
      (Rendering.pythonParts a).accessor.length = 8 ∧
      (Rendering.pythonParts a).debugging.length = 7 ∧ (Rendering.pythonParts a).closing = [] :=
    ⟨rfl, List.length_map _, rfl, rfl, rfl⟩
  obtain ⟨hopening, hfields, haccessor, hdebugging, hclosing⟩ := hlengths
  rw [Rendering.render, Rendering.parts, lineEnds_joinLines, Rendering.Parts.lines]
  cases a.debuggable with
  | true =>
    simp only [if_pos, hclosing, List.append_nil, List.length_append, List.map_append,
      List.sum_append, lineEnds_opening, lineEnds_fields, lineEnds_accessor, lineEnds_debugging]
    rw [hopening, hfields, haccessor, hdebugging, usualLines, if_pos rfl]
    omega
  | false =>
    simp only [Bool.false_eq_true, if_false, hclosing, List.append_nil, List.length_append,
      List.map_append, List.sum_append, lineEnds_opening, lineEnds_fields, lineEnds_accessor]
    rw [hopening, hfields, haccessor, usualLines, if_neg Bool.false_ne_true]
    omega

/-- A line and what follows it are cut one after the other. -/
theorem linesOf_append_line (s u : String) : linesOf (s ++ "\n" ++ u) = linesOf s ++ linesOf u := by
  have hend : isLineEnd '\n' = true := rfl
  have hchars : (s ++ "\n" ++ u).toList = s.toList ++ '\n' :: u.toList := by simp
  rw [linesOf, hchars, List.splitOnP_append_cons _ _ hend]
  rfl

/-- A text is its own first line exactly when it has no line end. -/
theorem head?_linesOf_iff (s : String) : (linesOf s).head? = some s.toList ↔ lineEnds s = 0 := by
  rw [lineEnds_eq_zero_iff]
  constructor
  · intro hfirst
    exact not_of_mem_splitOnP (List.mem_of_head? hfirst)
  · intro hnone
    rw [linesOf, List.splitOnP_eq_singleton hnone]
    rfl

/-- The second line of a companion names its type in full exactly when that name has no line end. -/
theorem source_line_iff (a : Artifact) :
    (linesOf (Rendering.render .python a))[1]? = some ("# Source: " ++ a.sourceType).toList ↔
      lineEnds a.sourceType = 0 := by
  obtain ⟨rest, hrender⟩ : ∃ rest, Rendering.render .python a
      = ("# " ++ Rendering.header) ++ "\n" ++ (("# Source: " ++ a.sourceType) ++ "\n" ++ rest) :=
    ⟨_, rfl⟩
  have htop : linesOf ("# " ++ Rendering.header) = [("# " ++ Rendering.header).toList] :=
    List.splitOnP_eq_singleton (forall_of_all (by decide))
  have hends : lineEnds ("# Source: " ++ a.sourceType) = lineEnds a.sourceType := by
    have hword : lineEnds "# Source: " = 0 := rfl
    rw [lineEnds_append, hword, Nat.zero_add]
  obtain ⟨first, others, hlines⟩ :=
    List.exists_cons_of_ne_nil (List.splitOnP_ne_nil isLineEnd ("# Source: " ++ a.sourceType).toList)
  have hhead := head?_linesOf_iff ("# Source: " ++ a.sourceType)
  rw [hends, linesOf, hlines, List.head?_cons] at hhead
  rw [hrender, linesOf_append_line, linesOf_append_line, htop, linesOf, hlines, ← hhead]
  rfl

/-! ## The types of a manifest -/

/-- The name of a type of a manifest is made of characters of its qualified name. -/
theorem lineEnds_lastPart {name : String} (h : lineEnds name = 0) : lineEnds (lastPart name) = 0 := by
  rw [lineEnds_eq_zero_iff] at h ⊢
  intro c hc
  unfold lastPart at hc
  cases hlast : (splitText '.' name).getLast? with
  | none =>
    rw [hlast] at hc
    exact absurd hc (by simp)
  | some last =>
    rw [hlast] at hc
    exact h c (mem_of_mem_splitText (List.mem_of_getLast? hlast) hc).1

/-- The companion of a type of a manifest, cut into lines. It has the usual number of them, which its
fields and its scaffolding give, two more for each line end in the type's qualified name, and four or
five more for each one in the type's own name. So it has the usual number of lines exactly when the
qualified name has no line end, whatever its package and its fields are called; and exactly then the
comment that names the type is one line. -/
theorem companion_lines_iff {nesting : Nat} {origin : Option String} {v : Document.Value}
    {d : Discovery} (h : Manifest.ofValue nesting origin v = .ok d) {i : TypeId} {t : TypeDescriptor}
    (ht : d.graph.get? i = some t) (names : FieldNames) (debuggable : Bool) :
    let text := Rendering.render .python (Artifact.build t names debuggable)
    (linesOf text).length
        = usualLines names.size debuggable + 2 * lineEnds t.qualifiedName
          + (if debuggable then 5 else 4) * lineEnds t.simpleName ∧
      ((linesOf text).length = usualLines names.size debuggable ↔ lineEnds t.qualifiedName = 0) ∧
      ((linesOf text)[1]? = some ("# Source: " ++ t.qualifiedName).toList ↔
        lineEnds t.qualifiedName = 0) := by
  intro text
  have hsize : names.freeze.size = names.size := by
    rw [FieldNames.size, FieldNames.toList_freeze, ← FieldNames.size]
  have hname : lineEnds (Artifact.nameFor t) = lineEnds t.simpleName := by
    have hending : lineEnds Artifact.nameEnding = 0 := rfl
    rw [Artifact.nameFor, lineEnds_append, hending, Nat.add_zero]
  have hcount : (linesOf text).length
      = usualLines names.size debuggable + 2 * lineEnds t.qualifiedName
        + (if debuggable then 5 else 4) * lineEnds t.simpleName := by
    rw [length_linesOf, lineEnds_render, ← hname, ← hsize]
    rfl
  refine ⟨hcount, ?_, source_line_iff (Artifact.build t names debuggable)⟩
  rw [hcount]
  constructor
  · intro hsame
    omega
  · intro hnone
    -- the own name is a part of the qualified one
    have hown : lineEnds t.simpleName = 0 := by
      rw [Manifest.simpleName_of_ofValue h ht]
      exact lineEnds_lastPart hnone
    rw [hnone, hown, Nat.mul_zero, Nat.mul_zero, Nat.add_zero]

/-- A manifest of one type with one field. -/
def singleType (name : String) : Document.Value :=
  .map [(.text "types", .seq [.map [(.text "name", .text name),
    (.text "fields", .seq [.text "one"])]])]

/-- The entry of such a manifest. -/
def singleEntry (name package : String) : Manifest.Entry :=
  ⟨name, package, [some "one"], none, classKind, true⟩

/-- The type of such a manifest. -/
def singleDescriptor (name package : String) : TypeDescriptor :=
  (singleEntry name package).descriptor [singleEntry name package] none 0

theorem ofValue_zooCat :
    Manifest.ofValue Limits.ample.nesting none (singleType "zoo.Cat")
      = .ok (Manifest.discoveryOf [singleEntry "zoo.Cat" "zoo"] none) := by
  rfl

theorem ofValue_brokenName :
    Manifest.ofValue Limits.ample.nesting none (singleType "a\nb.X")
      = .ok (Manifest.discoveryOf [singleEntry "a\nb.X" "a\nb"] none) := by
  rfl

/-- The one field of such a type. -/
def oneField : FieldNames := ⟨["one"], true, by decide⟩

theorem companion_lines_zooCat :
    Manifest.ofValue Limits.ample.nesting none (singleType "zoo.Cat")
      = .ok (Manifest.discoveryOf [singleEntry "zoo.Cat" "zoo"] none) ∧
    (linesOf (Rendering.render .python
      (Artifact.build (singleDescriptor "zoo.Cat" "zoo") oneField true))).length = 33 :=
  ⟨ofValue_zooCat, (companion_lines_iff ofValue_zooCat (i := 0) rfl oneField true).2.1.mpr (by decide)⟩

/-- Two manifests of one type with one field each: the line end in a name makes two lines more. -/
theorem lines_added_by_name :
    ∃ d d', Manifest.ofValue Limits.ample.nesting none (singleType "zoo.Cat") = .ok d ∧
      Manifest.ofValue Limits.ample.nesting none (singleType "a\nb.X") = .ok d' ∧ d.found = [0] ∧
      d'.found = [0] ∧
      ∃ t t', d.graph.get? 0 = some t ∧ d'.graph.get? 0 = some t' ∧
      (collect d.graph .standard (some 0)).1 = .ok oneField ∧
      (collect d'.graph .standard (some 0)).1 = .ok oneField ∧
      (linesOf (Rendering.render .python (Artifact.build t oneField false))).length = 26 ∧
      (linesOf (Rendering.render .python (Artifact.build t' oneField false))).length = 28 := by
  refine ⟨_, _, ofValue_zooCat, ofValue_brokenName, rfl, rfl, _, _, rfl, rfl, rfl, rfl, ?_, ?_⟩
  · rw [length_linesOf, lineEnds_render]
    decide
  · rw [length_linesOf, lineEnds_render]
    decide

end Roster
