import Roster.Proofs.Accounting
import Roster.Proofs.OutputGrowth

/-! # Delivering companions once more

Companions are delivered twice to the same output directory. If it is ready for them, the second
delivery meets what the first has left: every directory is there or cannot be made, every file is
there or cannot be written, and it gets the text that it has. So each companion meets its fate again,
and nothing changes.

A companion whose text cannot be encoded is not written, but its file is emptied. So a delivery is
compared with one that puts into each file what it is left with, and reports all of that as written.

* `writeLaidOut_standard`: one companion, against what is put into its file.
* `emit_sources`: the same for a delivery.
* `emit_ready`: what a whole delivery keeps.
* `emit_texts_again`: the outcomes of a second delivery, after whatever keeps the kinds of all entries.
* `emit_twice`: a second delivery right after the first one.
-/

namespace Roster
namespace Round

open FileTree

/-- A delivery of files below an output directory that nothing interrupts. -/
def filesTo (output : Path) : Delivery := ⟨output, false, false, none⟩

/-- The emitter of companions as source files. -/
abbrev filesOf : Emitter FileTree := sourceEmitter .python

/-- What is put into the file of a companion: nothing if its text cannot be encoded. -/
def putText (a : Artifact) : String :=
  if Text.fileFault? (Rendering.render .python a) = none then Rendering.render .python a else ""

/-- What becomes of a companion when that is put into its file. -/
def fateOf (a : Artifact) (outcome : WriteOutcome) : WriteOutcome :=
  match Text.fileFault? (Rendering.render .python a) with
  | none => outcome
  | some fault => outcome.spoiledBy fault.message

/-- The emitter of what is put into files. -/
abbrev textsOf : Emitter FileTree := textEmitter .python putText

variable {output : Path} {s s' : Emission FileTree} {artifacts : List Artifact}

/-! ## One companion after the other -/

/-- A companion is told by what is put into its file. -/
theorem writeLaidOut_standard (t : FileTree) (a : Artifact) (output : Path) :
    let put := writeText t a (output / relativePath .python a) (putText a)
    writeLaidOut .standard .python t a output = (put.1, fateOf a put.2) := by
  intro put
  have hlaidOut : writeLaidOut .standard .python t a output
      = writeEncoded t a (output / relativePath .python a) (Rendering.render .python a) := rfl
  rw [hlaidOut]
  cases hfault : Text.fileFault? (Rendering.render .python a) with
  | none =>
    rw [writeEncoded_of_none hfault, fateOf, hfault]
    simp only [put, putText, hfault, if_true]
  | some fault =>
    have htext : putText a = "" := if_neg (by simp [hfault])
    rw [writeEncoded_of_some hfault, fateOf, hfault]
    simp only [put, htext]

section Trees

variable {write : Writing}

theorem outcomeOf_tree (s : Emission FileTree) (a : Artifact) :
    outcomeOf (treeEmitter .python write) (filesTo output) s a = (write s.state a output).2 := by
  simp [outcomeOf, treeEmitter, filesTo]

theorem state_handOver_tree (s : Emission FileTree) (a : Artifact) :
    (handOver (treeEmitter .python write) (filesTo output) s a).state = (write s.state a output).1 := by
  rw [state_handOver]
  simp [treeEmitter, filesTo]

/-- The next companion is always handed over. -/
theorem emit_tree_cons (hs : s.cancelled = false) (a : Artifact) (rest : List Artifact) :
    ∃ next : Emission FileTree,
      emit (treeEmitter .python write) (filesTo output) s (a :: rest)
        = emit (treeEmitter .python write) (filesTo output) next rest ∧
      outcomes (treeEmitter .python write) (filesTo output) s (a :: rest)
        = (write s.state a output).2
          :: outcomes (treeEmitter .python write) (filesTo output) next rest ∧
      next.state = (write s.state a output).1 ∧ next.cancelled = false := by
  have hgoing : (s.heed (filesTo output)).cancelled = false := by
    rw [Emission.heed, hs]
    rfl
  obtain ⟨hemit, houtcomes, -⟩ :=
    @emit_of_going FileTree (treeEmitter .python write) (filesTo output) s hgoing a rest
  rw [outcomeOf_tree, state_heed] at houtcomes
  refine ⟨_, hemit, houtcomes, ?_, ?_⟩
  · rw [state_handOver_tree, state_heed]
  · rw [cancelled_handOver, hgoing]
    rfl

end Trees

theorem emit_texts_cons (hs : s.cancelled = false) (a : Artifact) (rest : List Artifact) :
    ∃ next : Emission FileTree,
      emit textsOf (filesTo output) s (a :: rest) = emit textsOf (filesTo output) next rest ∧
      outcomes textsOf (filesTo output) s (a :: rest)
        = (writeText s.state a (output / relativePath .python a) (putText a)).2
          :: outcomes textsOf (filesTo output) next rest ∧
      next.state = (writeText s.state a (output / relativePath .python a) (putText a)).1 ∧
      next.cancelled = false :=
  emit_tree_cons hs a rest

theorem emit_files_cons (hs : s.cancelled = false) (a : Artifact) (rest : List Artifact) :
    ∃ next : Emission FileTree,
      emit filesOf (filesTo output) s (a :: rest) = emit filesOf (filesTo output) next rest ∧
      outcomes filesOf (filesTo output) s (a :: rest)
        = (writeLaidOut .standard .python s.state a output).2
          :: outcomes filesOf (filesTo output) next rest ∧
      next.state = (writeLaidOut .standard .python s.state a output).1 ∧ next.cancelled = false :=
  emit_tree_cons hs a rest

/-- A delivery leaves the files that putting texts into them leaves, and its outcomes follow from
that. -/
theorem emit_sources (hs : s.cancelled = false) (hs' : s'.cancelled = false)
    (hstate : s'.state = s.state) :
    (emit filesOf (filesTo output) s' artifacts).state
        = (emit textsOf (filesTo output) s artifacts).state ∧
      outcomes filesOf (filesTo output) s' artifacts
        = List.zipWith fateOf artifacts (outcomes textsOf (filesTo output) s artifacts) := by
  induction artifacts generalizing s s' with
  | nil => exact ⟨hstate, rfl⟩
  | cons a rest ih =>
    obtain ⟨next, hemit, houtcomes, hput, hnext⟩ := @emit_texts_cons output s hs a rest
    obtain ⟨next', hemit', houtcomes', hwritten, hnext'⟩ := @emit_files_cons output s' hs' a rest
    rw [hstate, writeLaidOut_standard] at houtcomes' hwritten
    dsimp only at houtcomes' hwritten
    obtain ⟨hrest, hmore⟩ := ih hnext hnext' (hwritten.trans hput.symm)
    rw [hemit, hemit', houtcomes, houtcomes', hmore]
    exact ⟨hrest, rfl⟩

/-! ## What is put into files -/

/-- Putting texts into files makes nothing but what is made for the output directory, and keeps it
ready. -/
theorem emit_texts_ready (hs : s.cancelled = false) (h : OutputReady s.state output)
    (hfits : ∀ a ∈ artifacts, a.Fits) :
    GrowsFor output s.state (emit textsOf (filesTo output) s artifacts).state ∧
      OutputReady (emit textsOf (filesTo output) s artifacts).state output := by
  induction artifacts generalizing s with
  | nil => exact ⟨.refl output s.state, h⟩
  | cons a rest ih =>
    obtain ⟨ha, hrest⟩ := List.forall_mem_cons.mp hfits
    obtain ⟨next, hemit, -, hstate, hnext⟩ := @emit_texts_cons output s hs a rest
    obtain ⟨hgrows, hready⟩ := h.writeText ha (putText a) (Prod.eta _).symm
    rw [← hstate] at hgrows hready
    obtain ⟨hmore, hlast⟩ := ih hnext hready hrest
    rw [hemit]
    exact ⟨hgrows.trans hmore, hlast⟩

/-- A second delivery of texts, into files that keep the kinds of all that the first has left, has the same
outcomes and rewrites the files that were written. -/
theorem emit_texts_again (hs : s.cancelled = false) (hs' : s'.cancelled = false)
    (h : OutputReady s.state output) (hfits : ∀ a ∈ artifacts, a.Fits)
    (hkinds : (emit textsOf (filesTo output) s artifacts).state.KeepsKinds s'.state) :
    outcomes textsOf (filesTo output) s' artifacts
        = outcomes textsOf (filesTo output) s artifacts ∧
      s'.state.Rewrites
        ((writtenAmong (deliveries textsOf (filesTo output) s artifacts)).map
          (placeIn .python output s'.state))
        (emit textsOf (filesTo output) s' artifacts).state := by
  induction artifacts generalizing s s' with
  | nil => exact ⟨rfl, .refl _ _⟩
  | cons a rest ih =>
    obtain ⟨ha, hrest⟩ := List.forall_mem_cons.mp hfits
    obtain ⟨next, hemit, houtcomes, hstate, hnext⟩ := @emit_texts_cons output s hs a rest
    obtain ⟨next', hemit', houtcomes', hstate', hnext'⟩ := @emit_texts_cons output s' hs' a rest
    obtain ⟨-, hready⟩ := h.writeText ha (putText a) (Prod.eta _).symm
    rw [hemit] at hkinds
    have hlater := (emit_texts_ready hnext (hstate ▸ hready) hrest).1.toKeepsKinds.trans hkinds
    -- the companion meets its fate again, and what comes after it too
    rw [hstate] at hlater
    obtain ⟨houtcome, hrewrites⟩ := writeText_again (h.climbs ha) (Prod.eta _).symm hlater
    rw [← hstate'] at hrewrites
    obtain ⟨hsame, hmore⟩ := ih hnext hnext' (hstate ▸ hready) hrest
      (hkinds.trans hrewrites.toKeepsKinds)
    refine ⟨by rw [houtcomes, houtcomes', houtcome, hsame], ?_⟩
    rw [placeIn_of_grows hrewrites.toGrows] at hmore
    have hboth := hrewrites.trans hmore
    rw [hemit', deliveries, houtcomes, List.zip_cons_cons, ← deliveries]
    generalize (writeText s.state a (output / relativePath .python a) (putText a)).2 = outcome at hboth ⊢
    cases hpath : outcome.path? with
    | none =>
      rw [hpath] at hboth
      rwa [writtenAmong_cons_of_none hpath]
    | some path =>
      rw [hpath] at hboth
      rwa [writtenAmong_cons_of_some hpath, List.map_cons]

/-- A delivery makes nothing but what is made for the output directory, and keeps it ready. -/
theorem emit_ready (hs : s.cancelled = false) (h : OutputReady s.state output)
    (hfits : ∀ a ∈ artifacts, a.Fits) :
    GrowsFor output s.state (emit filesOf (filesTo output) s artifacts).state ∧
      OutputReady (emit filesOf (filesTo output) s artifacts).state output := by
  rw [(emit_sources hs hs rfl).1]
  exact emit_texts_ready hs h hfits

/-! ## The same delivery twice -/

section Twice

variable (tree : FileTree) (h : OutputReady tree output) (hfits : ∀ a ∈ artifacts, a.Fits)

include h hfits

/-- The same texts, put into the same files once more, leave all files as they are, with the same
outcomes. -/
theorem emit_texts_twice :
    let after := (emit textsOf (filesTo output) (.start tree false) artifacts).state
    (emit textsOf (filesTo output) (.start after false) artifacts).state = after ∧
      outcomes textsOf (filesTo output) (.start after false) artifacts
        = outcomes textsOf (filesTo output) (.start tree false) artifacts := by
  intro after
  have hready := (emit_texts_ready (s := .start tree false) rfl h hfits).2
  obtain ⟨houtcomes, hrewrites⟩ := @emit_texts_again output (.start tree false) (.start after false)
    artifacts rfl rfl h hfits (KeepsKinds.refl after)
  refine ⟨?_, houtcomes⟩
  -- both deliveries settle the same files
  have hsettled : ∀ state, Settled .python putText output
      (emit textsOf (filesTo output) (.start state false) artifacts).state
      (writtenAmong (deliveries textsOf (filesTo output) (.start state false) artifacts)) := by
    intro state
    have hdone := @settled_emit .python putText (filesTo output) rfl (.start state false) []
      settled_nil artifacts
    rwa [List.nil_append] at hdone
  have hfirst := hsettled tree
  have hsecond := hsettled after
  rw [deliveries, houtcomes, ← deliveries] at hsecond
  have hlead : placeIn .python output
      (emit textsOf (filesTo output) (.start after false) artifacts).state
      = placeIn .python output after := placeIn_of_grows hrewrites.toGrows
  refine hready.sound.ext hrewrites.keys hrewrites.current hrewrites.home hrewrites.limits
    fun place => ?_
  by_cases hplace : place ∈ (writtenAmong (deliveries textsOf (filesTo output) (.start tree false)
      artifacts)).map (placeIn .python output after)
  · obtain ⟨a, ha, rfl⟩ := List.mem_map.mp hplace
    obtain ⟨b, hb⟩ := @exists_lastAt (placeIn .python output after) _ a ha
    rw [hfirst.content _ b hb]
    rw [← hlead] at hb ⊢
    exact hsecond.content _ b hb
  · exact hrewrites.elsewhere place hplace

/-- A delivery right after the same delivery leaves all files as they are, with the same outcomes. -/
theorem emit_twice :
    let after := (emit filesOf (filesTo output) (.start tree false) artifacts).state
    (emit filesOf (filesTo output) (.start after false) artifacts).state = after ∧
      deliveries filesOf (filesTo output) (.start after false) artifacts
        = deliveries filesOf (filesTo output) (.start tree false) artifacts := by
  intro after
  obtain ⟨hstate, houtcomes⟩ := @emit_sources output (.start tree false) (.start tree false) artifacts
    rfl rfl rfl
  obtain ⟨hstate', houtcomes'⟩ := @emit_sources output (.start after false) (.start after false)
    artifacts rfl rfl rfl
  obtain ⟨hkept, hsame⟩ := emit_texts_twice tree h hfits
  have hafter : after = (emit textsOf (filesTo output) (.start tree false) artifacts).state := hstate
  rw [← hafter] at hkept hsame
  exact ⟨hstate'.trans hkept, by rw [deliveries, houtcomes', hsame, ← houtcomes, ← deliveries]⟩

/-- So it reports the same. -/
theorem reports_twice (hnames : (artifacts.map (·.qualifiedName)).Nodup) :
    let first := emit filesOf (filesTo output) (.start tree false) artifacts
    let second := emit filesOf (filesTo output) (.start first.state false) artifacts
    second.written = first.written ∧ second.report.diagnostics = first.report.diagnostics := by
  intro first second
  obtain ⟨-, hdeliveries⟩ := emit_twice tree h hfits
  have hlength : (outcomes filesOf (filesTo output) (.start first.state false) artifacts).length
      = (outcomes filesOf (filesTo output) (.start tree false) artifacts).length := by
    rw [← length_deliveries, ← length_deliveries, hdeliveries]
  constructor
  · apply OrderedMap.eq_of_entries
    rw [entries_emit _ _ (by simpa using hnames), entries_emit _ _ (by simpa using hnames),
      written_start, written_start, hdeliveries]
  · rw [diagnostics_emit, diagnostics_emit, report_start, report_start, hdeliveries, hlength]

end Twice

end Round
end Roster
