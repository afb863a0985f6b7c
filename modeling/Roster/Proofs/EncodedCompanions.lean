import Roster.Proofs.EscapedText
import Roster.Proofs.WrittenFiles

/-! # Companions whose texts can be encoded

A text can be encoded unless a half of a surrogate pair is in it. Literals are ASCII, so the text of a
companion can be encoded as soon as its name, its package and the name of its type can, whatever its
fields are called. Companions like these are written by `sourceEmitter` as `fileEmitter` says.

* `encodes_render`: the text of such a companion.
* `write_sourceEmitter`: one of them is handed over.
* `run_sourceEmitter`: a round of them.
-/

namespace Roster

/-! ## Texts -/

namespace Text

/-- Whether a text can be encoded. -/
def encodes (s : String) : Bool := s.toList.all fun c => !isLone c

theorem encodes_append (s u : String) : encodes (s ++ u) = (encodes s && encodes u) := by
  simp [encodes]

/-- A text that is written out can be encoded if it is found to be. -/
theorem encodes_of_all {s : String} (h : (s.toList.all fun c => !isLone c) = true) :
    encodes s = true := h

theorem fileFault?_eq_none_iff_encodes {s : String} : fileFault? s = none ↔ encodes s = true := by
  simp [fileFault?_eq_none_iff, encodes]

theorem isLone_of_lt {c : Char} (h : c.toNat < 127) : isLone c = false := by
  rw [isLone, firstLone, decide_eq_false_iff_not]
  omega

theorem isLone_of_mem_escapedChars {cs : List Char} {c : Char} (h : c ∈ escapedChars cs) :
    isLone c = false := by
  simp only [escapedChars, List.cons_append, List.mem_cons, List.mem_append, List.mem_flatMap,
    List.not_mem_nil, or_false] at h
  rcases h with rfl | ⟨d, -, hc⟩ | rfl
  · decide
  · exact isLone_of_lt (range_of_mem_escapeChar hc).2
  · decide

end Text

namespace Rendering

open Text

variable {a : Artifact}

/-- Literals can be encoded, whatever they stand for. -/
theorem encodes_literal (language : Language) (s : String) : encodes (literal language s) = true := by
  have hescaped : encodes (escaped s) = true := by
    rw [encodes, escaped, String.toList_ofList, List.all_eq_true]
    intro c hc
    rw [isLone_of_mem_escapedChars hc, Bool.not_false]
  cases language with
  | python => exact hescaped
  | java => exact hescaped
  | kotlin =>
    rw [literal, encodes, escapedDollar, String.toList_ofList, List.all_eq_true]
    intro c hc
    obtain ⟨d, hd, hc⟩ := List.mem_flatMap.mp hc
    have hd := isLone_of_mem_escapedChars hd
    split at hc
    · rcases List.mem_pair.mp hc with rfl | rfl <;> decide
    · obtain rfl := List.mem_singleton.mp hc
      rw [hd, Bool.not_false]

theorem encodes_joinLines (lines : List String) : encodes (joinLines lines) = lines.all encodes := by
  induction lines with
  | nil => decide
  | cons line lines ih =>
    have hfeed : encodes "\n" = true := by decide
    rw [joinLines, List.foldr_cons, ← joinLines, encodes_append, encodes_append, hfeed, Bool.and_true,
      ih, List.all_cons]

theorem all_encodes_commaSeparated (lines : List String) :
    (commaSeparated lines).all encodes = lines.all encodes := by
  have hcomma : encodes "," = true := by decide
  induction lines with
  | nil => rfl
  | cons line lines ih =>
    cases lines with
    | nil => rfl
    | cons next rest =>
      have hlines : commaSeparated (line :: next :: rest)
          = (line ++ ",") :: commaSeparated (next :: rest) := rfl
      rw [hlines, List.all_cons, ih, encodes_append, hcomma, Bool.and_true, ← List.all_cons]

end Rendering

/-! ## Companions -/

/-- What stands in a companion's text as it is can be encoded. -/
structure Artifact.Encodes (a : Artifact) : Prop where
  package : Text.encodes a.package = true
  name : Text.encodes a.name = true
  sourceType : Text.encodes a.sourceType = true

namespace Rendering

open Text

variable {a : Artifact}

/-- A line for each field holds a literal between two pieces of text. -/
theorem all_encodes_fields (language : Language) (names : List String) {before after : String}
    (hbefore : encodes before = true) (hafter : encodes after = true) :
    (names.map fun name => before ++ literal language name ++ after).all encodes = true := by
  rw [List.all_eq_true]
  intro line hline
  obtain ⟨name, -, rfl⟩ := List.mem_map.mp hline
  rw [encodes_append, encodes_append, hbefore, hafter, encodes_literal, Bool.and_self, Bool.and_self]

/-- The lines of each part can be encoded. -/
structure Parts.Encodes (p : Parts) : Prop where
  opening : p.opening.all encodes = true
  fields : p.fields.all encodes = true
  accessor : p.accessor.all encodes = true
  debugging : p.debugging.all encodes = true
  closing : p.closing.all encodes = true

theorem Parts.Encodes.lines {p : Parts} (h : p.Encodes) (debuggable : Bool) :
    (p.lines debuggable).all encodes = true := by
  rw [Parts.lines]
  cases debuggable with
  | false => simp [h.opening, h.fields, h.accessor, h.closing]
  | true => simp [h.opening, h.fields, h.accessor, h.debugging, h.closing]

theorem encodes_pythonParts (h : a.Encodes) : (pythonParts a).Encodes where
  opening := by
    simp (disch := decide) only [pythonParts, header, List.all_cons, List.all_nil, encodes_append,
      h.name, h.sourceType, encodes_of_all, Bool.and_true]
  fields := all_encodes_fields .python _ (by decide) (by decide)
  accessor := by
    simp (disch := decide) only [pythonParts, List.all_cons, List.all_nil, encodes_append, h.name,
      encodes_of_all, Bool.and_true]
  debugging := by
    simp (disch := decide) only [pythonParts, List.all_cons, List.all_nil, encodes_append,
      encodes_literal, h.name, encodes_of_all, Bool.and_true]
  closing := rfl

/-- The line of a package, where there is one. -/
theorem all_encodes_package {package ending : String} (h : encodes package = true)
    (hending : encodes ending = true) :
    (if package ≠ "" then ["package " ++ package ++ ending, ""] else []).all encodes = true := by
  have hword : encodes "package " = true := by decide
  have hblank : encodes "" = true := by decide
  split
  · simp only [List.all_cons, List.all_nil, encodes_append, hword, hblank, h, hending, Bool.and_self]
  · rfl

theorem encodes_javaParts (h : a.Encodes) : (javaParts a).Encodes where
  opening := by
    have hpackage := @all_encodes_package a.package ";" h.package (by decide)
    simp (disch := decide) only [javaParts, header, List.all_append, List.all_cons, List.all_nil,
      encodes_append, h.name, h.sourceType, hpackage, encodes_of_all, Bool.and_true]
  fields := by
    rw [javaParts, all_encodes_commaSeparated, List.all_eq_true]
    intro line hline
    obtain ⟨name, -, rfl⟩ := List.mem_map.mp hline
    simp (disch := decide) only [encodes_append, encodes_literal, encodes_of_all, Bool.and_true]
  accessor := by
    simp (disch := decide) only [javaParts, List.all_cons, List.all_nil, encodes_append, h.name,
      encodes_of_all, Bool.and_true]
  debugging := by
    simp (disch := decide) only [javaParts, List.all_cons, List.all_nil, encodes_append,
      encodes_literal, h.name, encodes_of_all, Bool.and_true]
  closing := by
    change ["\x7d"].all encodes = true
    decide

theorem encodes_kotlinParts (h : a.Encodes) : (kotlinParts a).Encodes where
  opening := by
    have hpackage := @all_encodes_package a.package "" h.package (by decide)
    rw [String.append_empty] at hpackage
    simp (disch := decide) only [kotlinParts, header, List.all_append, List.all_cons, List.all_nil,
      encodes_append, h.name, h.sourceType, hpackage, encodes_of_all, Bool.and_true]
  fields := all_encodes_fields .kotlin _ (by decide) (by decide)
  accessor := by
    simp (disch := decide) only [kotlinParts, List.all_cons, List.all_nil, encodes_of_all,
      Bool.and_true]
  debugging := by
    simp (disch := decide) only [kotlinParts, List.all_cons, List.all_nil, encodes_append,
      encodes_literal, h.name, encodes_of_all, Bool.and_true]
  closing := by
    change ["\x7d"].all encodes = true
    decide

/-- The text of a companion can be encoded if what stands in it as it is can. -/
theorem encodes_render (language : Language) (h : a.Encodes) : encodes (render language a) = true := by
  have hparts : (parts language a).Encodes := by
    cases language with
    | python => exact encodes_pythonParts h
    | java => exact encodes_javaParts h
    | kotlin => exact encodes_kotlinParts h
  rw [render, encodes_joinLines, hparts.lines]

end Rendering

/-! ## Emitters -/

section Emitters

variable {language : Language} {a : Artifact}

/-- A companion that can be encoded is written by either emitter. -/
theorem write_sourceEmitter (h : a.Encodes) (t : FileTree) (output : Path) :
    (sourceEmitter language).write t a output = (fileEmitter language).write t a output := by
  have hfault : Text.fileFault? (Rendering.render language a) = none :=
    Text.fileFault?_eq_none_iff_encodes.mpr (Rendering.encodes_render language h)
  have hwrite : writeLaidOut .standard language t a output = writeCompanion language t a output :=
    writeEncoded_of_none hfault
  simp only [sourceEmitter, fileEmitter, treeEmitter, hwrite]

namespace Round

/-- Companions that can be encoded are delivered by either emitter. -/
theorem emit_sourceEmitter {artifacts : List Artifact} (h : ∀ a ∈ artifacts, a.Encodes) (d : Delivery)
    (s : Emission FileTree) :
    emit (sourceEmitter language) d s artifacts = emit (fileEmitter language) d s artifacts := by
  induction artifacts generalizing s with
  | nil => rw [emit, emit]
  | cons a rest ih =>
    obtain ⟨ha, hrest⟩ := List.forall_mem_cons.mp h
    have hpath : (sourceEmitter language).relativePath a = (fileEmitter language).relativePath a := rfl
    have hnext : ∀ s : Emission FileTree, handOver (sourceEmitter language) d s a
        = handOver (fileEmitter language) d s a := by
      intro s
      simp only [handOver, write_sourceEmitter ha, hpath]
    rw [emit, emit, hnext, ih hrest]

/-- A round whose companions can be encoded comes to the same with either emitter. -/
theorem run_sourceEmitter (setup : RoundSetup) (schedule : List Nat) (g : TypeGraph) (t : FileTree)
    (d : Delivery) (h : ∀ a ∈ (inspect setup schedule t g).1.artifacts.values, a.Encodes) :
    run setup (sourceEmitter language) schedule g t d
      = run setup (fileEmitter language) schedule g t d := by
  have hemission := @emit_sourceEmitter language _ h d (.start t false)
  unfold run
  have hfiles : (sourceEmitter language).files t = t := rfl
  have hfiles' : (fileEmitter language).files t = t := rfl
  rw [hfiles, hfiles']
  simp only [hemission]

end Round

end Emitters

end Roster
