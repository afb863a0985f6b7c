import Roster.CommandLine
import Roster.Proofs.AcceptedSettings
import Roster.Proofs.DryRuns
import Roster.Proofs.WorkerOrder

/-! # Listing and dry runs agree

The command that lists companions inspects; the one that generates them goes through a whole round,
dry or not. In a dry run both come to the same exit status and name the same companions in the same
order, whatever the configuration, the sources and the companions are like, as long as what they print
can be shown. A name or a field may hold line feeds of its own, and then not every line is about a
companion.

* `FaultsAre`: a condition on all faults that a computation can end with, step by step.
* `faultsAre_jobFor`: the faults that a configuration can have.
* `exitStatus_endingOf`: which of them say that the configuration cannot be used.
* `EndTogether`: how the two calls end, side by side.
* `listing_agrees_with_dry_run`: what they agree on.
-/

namespace Roster

/-! ## Faults of a configuration -/

/-- What a fault is about: something that the configuration must not say, a value that cannot be
taken, a report of the system, or the program itself, which has no answer to it. -/
inductive FaultKind where
  | configuration
  | value
  | system
  | unforeseen
  deriving DecidableEq, Repr

/-- A path that does not fit is a value that cannot be taken. -/
def FileFault.kind : FileFault → FaultKind
  | .system _ _ => .system
  | .unfit _ => .value

/-- A scalar whose text does not fit the form of its tag is not foreseen, and neither is that the machine
gives out. One that has the form and stands for nothing is a value that cannot be taken, as is a number of
too many digits. -/
def Document.Fault.kind : Document.Fault → FaultKind
  | .malformed => .configuration
  | .noCharacter | .badInteger _ _ | .badFloat _ | .calendar _ | .longNumeral _ | .longNumber => .value
  | .hugeCharacter | .emptyNumber | .badTruth _ | .badTimestamp | .hugePlace | .exhausted _ => .unforeseen

/-- What a fault in loading a configuration is about. -/
def InputFault.kind : InputFault → FaultKind
  | .config _ => .configuration
  | .unknownHome => .unforeseen
  | .file fault => fault.kind
  | .encoding _ => .value
  | .document fault => fault.kind
  | .scan _ => .unforeseen
  | .host _ => .unforeseen

/-- Whether a fault can arise before any source is read. -/
def InputFault.MayArise : InputFault → Prop
  | .scan _ => False
  | .host _ => False
  | _ => True

/-- Every fault that a computation can end with satisfies a condition. -/
def FaultsAre {ε α : Type} (P : ε → Prop) (x : Except ε α) : Prop := ∀ fault, x = .error fault → P fault

namespace FaultsAre

variable {ε ε' α β : Type} {P : ε → Prop}

theorem ok (a : α) : FaultsAre P (.ok a) := by
  intro fault h
  contradiction

theorem error {fault : ε} (h : P fault) : FaultsAre P (.error fault : Except ε α) := by
  rintro _ ⟨⟩
  exact h

theorem bind {x : Except ε α} {next : α → Except ε β} (hx : FaultsAre P x)
    (hnext : ∀ a, x = .ok a → FaultsAre P (next a)) : FaultsAre P (x >>= next) := by
  cases x with
  | error fault =>
    rintro _ ⟨⟩
    exact hx fault rfl
  | ok a => exact hnext a rfl

theorem mapError {wrap : ε' → ε} (h : ∀ fault, P (wrap fault)) (x : Except ε' α) :
    FaultsAre P (x.mapError wrap) := by
  cases x with
  | error fault => exact error (h fault)
  | ok a => exact ok a

theorem mapM {f : β → Except ε α} {items : List β} (h : ∀ b ∈ items, FaultsAre P (f b)) :
    FaultsAre P (items.mapM f) := by
  induction items with
  | nil => exact ok []
  | cons item items ih =>
    rw [List.forall_mem_cons] at h
    rw [List.mapM_cons]
    exact h.1.bind fun _ _ => (ih h.2).bind fun _ _ => ok _

end FaultsAre

section Loading

variable (t : FileTree)

theorem faultsAre_settingsPath (path : Path) :
    FaultsAre InputFault.MayArise (settingsPath t path) := by
  unfold settingsPath
  cases path.expandHome t.home with
  | none => exact .error trivial
  | some path =>
    refine .bind (.mapError (fun _ => trivial) _) fun isDirectory _ => ?_
    exact .mapError (fun _ => trivial) _

theorem faultsAre_readDocument (truths : Bool) (fileName text : String) :
    FaultsAre InputFault.MayArise (t.readDocument truths fileName text) := by
  have hdocument : ∀ fault, (InputFault.ofDocument fileName fault).MayArise := by
    intro fault
    cases fault <;> exact trivial
  unfold FileTree.readDocument
  split
  · exact .error trivial
  · exact .mapError hdocument _

theorem faultsAre_readSettingsFile (path : Path) :
    FaultsAre InputFault.MayArise (readSettingsFile t path) := by
  have hread : ∀ fault, (InputFault.ofRead fault).MayArise := by
    rintro (fault | fault) <;> exact trivial
  unfold readSettingsFile
  refine .bind (.mapError hread _) fun text _ => ?_
  split
  · exact .ok _
  · refine .bind (faultsAre_readDocument t false path.name text) fun v _ => ?_
    split <;> exact .ok _

theorem faultsAre_ofValue (nesting : Nat) (root : Path) (v : Document.Value) :
    FaultsAre InputFault.MayArise (Settings.ofValue nesting root v) := by
  intro fault h
  obtain ⟨_, rfl⟩ | ⟨_, -, rfl⟩ := Settings.fault_of_ofValue h
  · exact trivial
  · exact trivial

theorem faultsAre_loadSettings (path : Path) :
    FaultsAre InputFault.MayArise (loadSettings t path) := by
  unfold loadSettings
  refine .bind (faultsAre_settingsPath t path) fun file _ => ?_
  refine .bind (.mapError (fun _ => trivial) _) fun found _ => ?_
  split
  · exact .bind (faultsAre_readSettingsFile t file) fun v _ => faultsAre_ofValue _ _ v
  · exact .ok _

/-- Without plugins a name stands for a source of the library or for none. -/
theorem faultsAre_sourceNamed (s : Settings) (name : String) :
    FaultsAre InputFault.MayArise (sourceNamed t s [] name) := by
  unfold sourceNamed
  split
  · exact .bind (.mapError (fun _ => trivial) _) fun output _ => .ok _
  · split
    · unfold manifestSource
      split
      · exact .ok _
      · exact .error trivial
    · exact .error trivial

theorem faultsAre_jobOf (s : Settings) : FaultsAre InputFault.MayArise (CommandLine.jobOf t s) := by
  unfold CommandLine.jobOf
  refine .bind (.mapM fun name _ => faultsAre_sourceNamed t s name) fun sources _ => ?_
  split
  · exact .ok _
  · exact .error trivial

end Loading

namespace CommandLine

/-! ## Two requests -/

/-- The request to list the companions of the project at a path. -/
def listing (path : String) : Request := ⟨false, none, path, .list⟩

/-- The request to generate them, only that nothing is written. -/
def dryRun (path : String) : Request := ⟨false, none, path, .generate ⟨none, none, none, []⟩ true⟩

/-! ### Their arguments -/

open ArgumentShape

variable {κ : Type}

/-- The spelling of the option of a dry run. -/
def dryRunOption : String := "--dry-run"

/-- The arguments that ask for a list. -/
def listArguments (path? : Option String) : List String := listName :: path?.toList

/-- The arguments that ask for a dry run. -/
def dryRunArguments (path? : Option String) : List String :=
  generateName :: dryRunOption :: path?.toList

theorem marks_cons {shape : ArgumentShape κ} {arg : String} {mark : ArgumentMark κ}
    {rest : List String} {marked : List (String × ArgumentMark κ)} (hne : arg ≠ dividerText)
    (hmark : shape.markOf arg = .ok mark) (hrest : shape.marks rest = .ok marked) :
    shape.marks (arg :: rest) = .ok ((arg, mark) :: marked) := by
  rw [marks, if_neg hne, hmark, hrest]
  rfl

/-- An argument that does not begin with a dash is a word. -/
theorem marks_cons_word {shape : ArgumentShape κ} {arg : String} {rest : List String}
    {marked : List (String × ArgumentMark κ)} (h : arg.startsWith "-" = false)
    (hrest : shape.marks rest = .ok marked) :
    shape.marks (arg :: rest) = .ok ((arg, .word) :: marked) := by
  apply marks_cons _ _ hrest
  · rintro rfl
    simp [dividerText] at h
  · rw [markOf, h]
    rfl

theorem marks_path (shape : ArgumentShape κ) {path? : Option String}
    (h : ∀ path ∈ path?, path.startsWith "-" = false) :
    shape.marks path?.toList = .ok (path?.toList.map fun path => (path, .word)) := by
  cases path? with
  | none => rfl
  | some path => exact marks_cons_word (h path rfl) rfl

/-- The option of a dry run looks like an option, and the program has none that it may mean. -/
theorem dryRunOption_looks :
    (dryRunOption.startsWith "-" = true ∧ dryRunOption.length ≠ 1) ∧
      (programShape.candidates dryRunOption).isEmpty = true := by
  decide +kernel

/-- The program leaves the option of a dry run to the command. -/
theorem markOf_dryRunOption_program :
    programShape.markOf dryRunOption = .ok (.option none dryRunOption none) := by
  obtain ⟨⟨hdash, hlength⟩, hcandidates⟩ := dryRunOption_looks
  have hexact : programShape.exactMark? dryRunOption = none := rfl
  have hnumber : isNegativeNumber dryRunOption = false := rfl
  have hblank : dryRunOption.contains ' ' = false := by simp [dryRunOption]
  rw [markOf, hdash, hexact, List.isEmpty_iff.mp hcandidates, hnumber, hblank,
    decide_eq_false hlength]
  rfl

theorem markOf_dryRunOption_generate :
    ∃ purpose, (commandShape generateName).markOf dryRunOption
      = .ok (.option (some ⟨[dryRunOption], .dryRun, .nothing, purpose⟩) dryRunOption none) := by
  obtain ⟨⟨hdash, hlength⟩, -⟩ := dryRunOption_looks
  have hexact : (commandShape generateName).exactMark? dryRunOption
      = some (.option (some ⟨[dryRunOption], .dryRun, .nothing, _⟩) dryRunOption none) := rfl
  exact ⟨_, by rw [markOf, hdash, hexact, decide_eq_false hlength]; rfl⟩

section Reading

variable {path? : Option String} (h : ∀ path ∈ path?, path.startsWith "-" = false)

include h

theorem read_listArguments : Request.read (listArguments path?) = .ok (listing (path?.getD ".")) := by
  have hname : listName.startsWith "-" = false := by simp [listName]
  have hprogram : programShape.read (listArguments path?)
      = .ok ⟨[], some (listArguments path?), []⟩ := by
    rw [ArgumentShape.read, listArguments, marks_cons_word hname (marks_path programShape h)]
    cases path? <;> rfl
  have hcommand : (commandShape listName).read path?.toList = .ok ⟨[], some path?.toList, []⟩ := by
    rw [ArgumentShape.read, marks_path _ h]
    cases path? <;> rfl
  rw [Request.read, hprogram]
  show ((commandShape listName).read path?.toList).mapError _ >>= _ = _
  rw [hcommand]
  cases path? <;> rfl

theorem read_dryRunArguments :
    Request.read (dryRunArguments path?) = .ok (dryRun (path?.getD ".")) := by
  have hname : generateName.startsWith "-" = false := by simp [generateName]
  have hoption : dryRunOption ≠ dividerText := by simp [dryRunOption, dividerText]
  have hprogram : programShape.read (dryRunArguments path?)
      = .ok ⟨[], some (dryRunArguments path?), []⟩ := by
    rw [ArgumentShape.read, dryRunArguments, marks_cons_word hname
      (marks_cons hoption markOf_dryRunOption_program (marks_path programShape h))]
    cases path? <;> rfl
  obtain ⟨purpose, hmark⟩ := markOf_dryRunOption_generate
  have hcommand : (commandShape generateName).read (dryRunOption :: path?.toList)
      = .ok ⟨[(.dryRun, none)], some path?.toList, []⟩ := by
    rw [ArgumentShape.read, marks_cons hoption hmark (marks_path _ h)]
    cases path? <;> rfl
  rw [Request.read, hprogram]
  show ((commandShape generateName).read (dryRunOption :: path?.toList)).mapError _ >>= _ = _
  rw [hcommand]
  cases path? <;> rfl

end Reading

/-! ## Calls -/

/-- The exit status that a call is seen to end with. One that breaks down ends with 1. -/
def exitStatus : Except Breakdown Ending → Nat
  | .ok ending => ending.status
  | .error _ => 1

/-- What a call has put out. One that breaks down has not put out anything yet, unless it does so at a
line that cannot be shown. -/
def outputOf : Except Breakdown Ending → String
  | .ok ending => ending.output
  | .error (.unprintable output _ _) => output
  | .error _ => ""

/-- How a call ends whose configuration cannot be loaded. -/
def endingOf : Breakdown → Except Breakdown Ending
  | .input fault =>
    if isReported fault then .ok (refusal (configurationError fault.message))
    else .error (.input fault)
  | other => .error other

section Verdict

variable (generates : Bool) (ds : List Diagnostic)

/-- The command that writes says more about errors, but the status depends on the diagnostics alone. -/
theorem verdict_status :
    (verdict generates ds).1
      = if ∃ d ∈ errorsOf ds, d.code = some ConfigFault.code then 2
        else if succeeded ds then 0 else 1 := by
  unfold verdict
  cases hfind : (errorsOf ds).find? fun d => d.code = some ConfigFault.code with
  | some d =>
    have hcode : d.code = some ConfigFault.code := by simpa using List.find?_some hfind
    exact (if_pos ⟨d, List.mem_of_find?_eq_some hfind, hcode⟩).symm
  | none =>
    have hnone : ¬ ∃ d ∈ errorsOf ds, d.code = some ConfigFault.code := by
      rintro ⟨d, hd, hcode⟩
      exact List.find?_eq_none.mp hfind d hd (by simpa using hcode)
    rw [if_neg hnone]
    cases succeeded ds <;> cases generates <;> rfl

theorem verdict_eq_two_iff :
    (verdict generates ds).1 = 2 ↔ ∃ d ∈ errorsOf ds, d.code = some ConfigFault.code := by
  rw [verdict_status]
  split
  · rename_i hcode
    exact iff_of_true rfl hcode
  · rename_i hcode
    apply iff_of_false _ hcode
    split <;> decide

theorem verdict_eq_zero_iff : (verdict generates ds).1 = 0 ↔ errorsOf ds = [] := by
  rw [verdict_status, ← succeeded_iff]
  split
  · rename_i hcode
    -- an error of configuration is an error
    apply iff_of_false (by decide)
    intro hnone
    rw [(succeeded_iff ds).mp hnone] at hcode
    rcases hcode with ⟨d, hd, -⟩
    contradiction
  · split
    · rename_i hnone
      exact iff_of_true rfl hnone
    · rename_i hsome
      exact iff_of_false (by decide) hsome

end Verdict

/-! ### Configurations that cannot be loaded -/

theorem isReported_iff {fault : InputFault} (h : fault.MayArise) :
    isReported fault = true ↔ fault.kind ≠ .unforeseen := by
  cases fault with
  | config fault => simp [isReported, InputFault.kind]
  | unknownHome => simp [isReported, InputFault.kind]
  | file fault => cases fault <;> simp [isReported, InputFault.kind, FileFault.kind]
  | encoding fault => simp [isReported, InputFault.kind]
  | document fault => cases fault <;> simp [isReported, InputFault.kind, Document.Fault.kind]
  | scan fault => contradiction
  | host message => contradiction

/-- A fault of the configuration itself, and not of an option. -/
def OfConfiguration : Breakdown → Prop
  | .input fault => fault.MayArise
  | .workersWithoutValue => False
  | .optionWithoutValue => False
  | .unprintable _ _ _ => False

theorem outputOf_endingOf {b : Breakdown} (h : OfConfiguration b) : outputOf (endingOf b) = "" := by
  cases b with
  | input fault => cases h : isReported fault <;> simp [endingOf, h, outputOf, refusal]
  | workersWithoutValue => contradiction
  | optionWithoutValue => contradiction
  | unprintable output complaints fault => contradiction

/-- Without options only the configuration itself can be at fault. -/
theorem faultsAre_jobFor (t : FileTree) (path : String) :
    FaultsAre OfConfiguration (jobFor t (listing path)) := by
  have hinput {α : Type} {x : Except InputFault α} (h : FaultsAre InputFault.MayArise x) :
      FaultsAre OfConfiguration (x.mapError .input) := by
    cases x with
    | error fault => exact .error (h fault rfl)
    | ok a => exact .ok a
  have hpath : ∀ s, FaultsAre OfConfiguration (pathOf t s) := by
    intro s
    unfold pathOf
    split
    · exact .ok _
    · exact .error trivial
  unfold jobFor settingsFor
  refine .bind (.bind (hpath _) fun path _ => ?_) fun s _ => hinput (faultsAre_jobOf t s)
  refine .bind (.mapError (fun _ => trivial) _) fun found _ => ?_
  split
  · exact .error trivial
  · refine .bind (hinput (faultsAre_loadSettings t path)) fun s _ => ?_
    exact .ok _

/-- Such a fault ends a call with status 2 if it is foreseen, and never well. -/
theorem exitStatus_endingOf {b : Breakdown} (h : OfConfiguration b) :
    exitStatus (endingOf b) ≠ 0 ∧
      (exitStatus (endingOf b) = 2 ↔ ∃ fault, b = .input fault ∧ fault.kind ≠ .unforeseen) := by
  cases b with
  | workersWithoutValue => contradiction
  | optionWithoutValue => contradiction
  | unprintable output complaints fault => contradiction
  | input fault =>
    have hkind := isReported_iff h
    cases hreported : isReported fault with
    | true =>
      have hending : endingOf (.input fault) = .ok (refusal (configurationError fault.message)) :=
        if_pos hreported
      rw [hending]
      exact ⟨Nat.succ_ne_zero 1, iff_of_true rfl ⟨fault, rfl, hkind.mp hreported⟩⟩
    | false =>
      have hending : endingOf (.input fault) = .error (.input fault) :=
        if_neg (by simp [hreported])
      rw [hending]
      refine ⟨Nat.one_ne_zero, iff_of_false (Nat.ne_of_lt Nat.one_lt_two) ?_⟩
      rintro ⟨_, ⟨⟩, hforeseen⟩
      rw [hkind.mpr hforeseen] at hreported
      contradiction

/-! ### The end of a call -/

/-- Lines whose characters can all be shown are shown. -/
theorem display_of_takes {takes : Char → Bool} {lines : List String}
    (h : ∀ line ∈ lines, ∀ c ∈ line.toList, takes c = true) :
    display takes lines = (String.join lines, none) := by
  induction lines with
  | nil => rfl
  | cons line rest ih =>
    rw [List.forall_mem_cons] at h
    have hfirst : Text.encodeFault? (fun c => !takes c) 0 line.toList = none := by
      rw [Text.encodeFault?_eq_none_iff]
      simpa using h.1
    simp [display, hfirst, ih h.2]

section Calls

variable {t : FileTree} {r : Request} (takes : Char → Bool) (time : String) (schedule : List Nat)
  (sinks : LogSinks)

theorem carryOut_of_error {b : Breakdown} (h : jobFor t r = .error b) :
    carryOut takes time schedule sinks t r = (t, endingOf b) := by
  unfold carryOut
  simp only [h]
  cases b with
  | input fault => cases hreported : isReported fault <;> simp [endingOf, hreported]
  | workersWithoutValue => rfl
  | optionWithoutValue => rfl
  | unprintable output complaints fault => rfl

variable {takes}

/-- A call that asks for no log file, and whose round leaves the tree as it is, does so too. -/
theorem carryOut_of_job {job : Job} (h : jobFor t r = .ok job) (hfile : sinks.file = .none)
    (htree : (perform t job schedule r.command).1 = t)
    (hshown : ∀ line ∈ (perform t job schedule r.command).2.2.2, ∀ c ∈ line.toList, takes c = true) :
    ∃ ending, carryOut takes time schedule sinks t r = (t, .ok ending) ∧
      ending.output = String.join (perform t job schedule r.command).2.2.2 ∧
      ending.status = (verdict (generates r.command)
        (perform t job schedule r.command).2.1.diagnostics).1 := by
  unfold carryOut
  simp only [h, LogSinks.keep, hfile, htree, display_of_takes hshown]
  exact ⟨_, rfl, rfl, rfl⟩

/-- The sinks of a call without options: the console alone. -/
def consoleOnly : LogSinks := ⟨LogSinks.thresholdFor false, true, .none⟩

variable (takes)

theorem run_of_read {args : List String} (hread : Request.read args = .ok r)
    (hverbose : r.verbose = false) (hfile : r.logFile = none) :
    run takes time schedule t args = carryOut takes time schedule consoleOnly t r := by
  unfold run
  simp only [hread, hverbose, hfile]
  rfl

end Calls

/-! ### What is printed -/

/-- A companion with the name of its type and with its path. -/
structure Row where
  type : String
  companion : Artifact
  path : Path

/-- What is said of a companion in a list. -/
def Row.listed (row : Row) : String :=
  row.type ++ " -> " ++ row.companion.qualifiedName ++ ": ["
    ++ String.intercalate ", " row.companion.fieldNames.toList ++ "]"

/-- What is said of a companion in a dry run. -/
def Row.foretold (t : FileTree) (row : Row) : String :=
  "Would write " ++ row.companion.qualifiedName ++ " -> " ++ shownPath t row.path

/-- An output has one entry for each row, in order, with a line feed behind it. Without other line feeds
the entries are the lines. -/
structure Prints (rows : List Row) (entry : Row → String) (output : String) : Prop where
  entries : output = String.join (rows.map fun row => entry row ++ "\n")
  lines : (∀ row ∈ rows, '\n' ∉ (entry row).toList) → splitText '\n' output = rows.map entry ++ [""]

theorem prints (rows : List Row) (entry : Row → String) :
    Prints rows entry (String.join (rows.map fun row => entry row ++ "\n")) := by
  refine ⟨rfl, ?_⟩
  induction rows with
  | nil => exact fun _ => splitText_of_notMem List.not_mem_nil
  | cons row rows ih =>
    intro hline
    rw [List.forall_mem_cons] at hline
    have hrest := ih hline.2
    rw [List.map_cons, String.join_cons, List.map_cons, List.cons_append, ← hrest]
    exact (splitText_append '\n' (entry row) _).trans
      (congrArg (· ++ _) (splitText_of_notMem hline.1))

/-! ### The two rounds -/

section Rounds

variable (t : FileTree) (job : Job) (schedule schedule' : List Nat)

/-- What inspecting the sources of a job comes to. -/
def inspected : RoundResult := (Round.inspect job.setup [] t .empty).1

/-- The rows of that. -/
def rowsOf : List Row := (inspected t job).artifacts.entries.map fun (type, a) =>
  ⟨(inspected t job).graph.nameOf type, a, job.settings.outputRoot / relativePath job.language a⟩

theorem companions_rowsOf : (rowsOf t job).map (·.companion) = (inspected t job).artifacts.values :=
  List.map_map

/-- All that the two calls print of a job can be shown. -/
def Shown (takes : Char → Bool) : Prop :=
  ∀ row ∈ rowsOf t job, ∀ c ∈ (row.listed ++ row.foretold t ++ "\n").toList, takes c = true

/-- Inspection comes to the same in whatever order workers report. -/
theorem inspect_eq_inspected : (Round.inspect job.setup schedule t .empty).1 = inspected t job :=
  Round.inspect_again rfl [] schedule

theorem perform_list :
    (perform t job schedule .list).1 = t ∧
      (perform t job schedule .list).2.1 = inspected t job ∧
      (perform t job schedule .list).2.2.2 = (rowsOf t job).map fun row => row.listed ++ "\n" := by
  have hsame := inspect_eq_inspected t job schedule
  refine ⟨rfl, hsame, ?_⟩
  have hlines : (perform t job schedule .list).2.2.2 = listLines (inspected t job) := by
    rw [← hsame]
    rfl
  rw [hlines, listLines, rowsOf, List.map_map]
  refine List.map_congr_left fun entry _ => ?_
  simp [Row.listed, String.append_assoc]

/-- A dry run reports what inspection reports, and names a path for each companion. -/
theorem perform_dryRun (overrides : Overrides) :
    let performed := perform t job schedule (.generate overrides true)
    performed.1 = t ∧ performed.2.1.diagnostics = (inspected t job).diagnostics ∧
      performed.2.2.2 = (rowsOf t job).map fun row => row.foretold t ++ "\n" := by
  intro performed
  have hquiet : Round.Uncancelled (sourceEmitter job.language)
      ⟨job.settings.outputRoot, true, false, none⟩ := by
    constructor
    · rfl
    · intro hcancellable
      contradiction
  obtain ⟨hentries, hdiagnostics, htree⟩ :=
    Round.run_of_dryRun job.setup schedule .empty t hquiet rfl
  have hsame := inspect_eq_inspected t job schedule
  refine ⟨htree, ?_, ?_⟩
  · rw [← hsame]
    exact hdiagnostics
  · have hlines : performed.2.2.2 = writtenLines t true performed.2.1 := rfl
    have hwritten : performed.2.1.written.entries = (inspected t job).artifacts.values.map fun a =>
        (a.qualifiedName, job.settings.outputRoot / relativePath job.language a) := by
      rw [← hsame]
      exact hentries
    rw [hlines, writtenLines, hwritten, rowsOf, OrderedMap.values, List.map_map, List.map_map,
      List.map_map]
    rfl

variable {t job} {path : String} {takes : Char → Bool} (time : String)

/-- A list tells what inspection comes to. -/
theorem carryOut_listing (h : jobFor t (listing path) = .ok job) (hshown : Shown t job takes) :
    ∃ ending, carryOut takes time schedule consoleOnly t (listing path) = (t, .ok ending) ∧
      Prints (rowsOf t job) Row.listed ending.output ∧
      ending.status = (verdict false (inspected t job).diagnostics).1 := by
  obtain ⟨htree, hresult, hlines⟩ := perform_list t job schedule
  have htakes : ∀ line ∈ (perform t job schedule .list).2.2.2, ∀ c ∈ line.toList, takes c = true := by
    rw [hlines, List.forall_mem_map]
    intro row hrow c hc
    refine hshown row hrow c ?_
    rw [String.toList_append, List.mem_append] at hc ⊢
    exact hc.imp_left fun hlisted => by simp [hlisted]
  obtain ⟨ending, hend, houtput, hstatus⟩ :=
    carryOut_of_job (r := listing path) time schedule consoleOnly h rfl htree htakes
  refine ⟨ending, hend, ?_, hstatus.trans ?_⟩
  · rw [houtput]
    exact hlines ▸ prints (rowsOf t job) Row.listed
  · rw [← hresult]
    rfl

/-- So does a dry run, in entries of its own. -/
theorem carryOut_dryRun (h : jobFor t (listing path) = .ok job) (hshown : Shown t job takes) :
    ∃ ending, carryOut takes time schedule consoleOnly t (dryRun path) = (t, .ok ending) ∧
      Prints (rowsOf t job) (Row.foretold t) ending.output ∧
      ending.status = (verdict true (inspected t job).diagnostics).1 := by
  obtain ⟨htree, hdiagnostics, hlines⟩ := perform_dryRun t job schedule ⟨none, none, none, []⟩
  have htakes : ∀ line ∈ (perform t job schedule (dryRun path).command).2.2.2,
      ∀ c ∈ line.toList, takes c = true := by
    rw [dryRun, hlines, List.forall_mem_map]
    intro row hrow c hc
    refine hshown row hrow c ?_
    rw [String.toList_append, List.mem_append] at hc ⊢
    exact hc.imp_left fun hforetold => by simp [hforetold]
  obtain ⟨ending, hend, houtput, hstatus⟩ :=
    carryOut_of_job (r := dryRun path) time schedule consoleOnly h rfl htree htakes
  refine ⟨ending, hend, ?_, hstatus.trans ?_⟩
  · rw [houtput]
    exact hlines ▸ prints (rowsOf t job) (Row.foretold t)
  · rw [← hdiagnostics]
    rfl

end Rounds

/-! ## Both calls -/

/-- How a list and a dry run of one project end, told by what its configuration comes to. -/
inductive EndTogether (t : FileTree) (configured : Except Breakdown Job) :
    FileTree × Except Breakdown Ending → FileTree × Except Breakdown Ending → Prop
  | unloaded {b : Breakdown} (hloaded : configured = .error b) (hfault : OfConfiguration b) :
    EndTogether t configured (t, endingOf b) (t, endingOf b)
  | loaded {job : Job} {ending ending' : Ending} (hloaded : configured = .ok job)
    (houtput : Prints (rowsOf t job) Row.listed ending.output)
    (houtput' : Prints (rowsOf t job) (Row.foretold t) ending'.output)
    (hstatus : ending.status = (verdict false (inspected t job).diagnostics).1)
    (hstatus' : ending'.status = (verdict true (inspected t job).diagnostics).1) :
    EndTogether t configured (t, .ok ending) (t, .ok ending')

theorem endTogether (t : FileTree) {path? : Option String}
    (hpath : ∀ path ∈ path?, path.startsWith "-" = false) {takes : Char → Bool}
    (hshown : ∀ job, jobFor t (listing (path?.getD ".")) = .ok job → Shown t job takes)
    (time time' : String) (schedule schedule' : List Nat) :
    EndTogether t (jobFor t (listing (path?.getD ".")))
      (run takes time schedule t (listArguments path?))
      (run takes time' schedule' t (dryRunArguments path?)) := by
  rw [run_of_read takes time schedule (read_listArguments hpath) rfl rfl,
    run_of_read takes time' schedule' (read_dryRunArguments hpath) rfl rfl]
  cases hloaded : jobFor t (listing (path?.getD ".")) with
  | error b =>
    -- neither request has options, so both load the same
    have hdry : jobFor t (dryRun (path?.getD ".")) = .error b := hloaded
    rw [carryOut_of_error _ _ _ _ hloaded, carryOut_of_error _ _ _ _ hdry]
    exact .unloaded rfl (faultsAre_jobFor t _ b hloaded)
  | ok job =>
    have htakes := hshown job hloaded
    obtain ⟨ending, hend, houtput, hstatus⟩ := carryOut_listing schedule time hloaded htakes
    obtain ⟨ending', hend', houtput', hstatus'⟩ := carryOut_dryRun schedule' time' hloaded htakes
    rw [hend, hend']
    exact .loaded rfl houtput houtput' hstatus hstatus'

namespace EndTogether

variable {t : FileTree} {configured : Except Breakdown Job}
  {listed dry : FileTree × Except Breakdown Ending} (h : EndTogether t configured listed dry)

include h

theorem trees_eq : listed.1 = t ∧ dry.1 = t := by
  cases h with
  | unloaded => exact ⟨rfl, rfl⟩
  | loaded => exact ⟨rfl, rfl⟩

theorem exitStatus_eq : exitStatus listed.2 = exitStatus dry.2 := by
  cases h with
  | unloaded => rfl
  | loaded _ _ _ hstatus hstatus' =>
    rw [exitStatus, exitStatus, hstatus, hstatus', verdict_status, verdict_status]

theorem error_iff (b : Breakdown) : listed.2 = .error b ↔ dry.2 = .error b := by
  cases h with
  | unloaded => exact Iff.rfl
  | loaded => constructor <;> intro herror <;> contradiction

/-- The entries of the two are about the same companions. -/
theorem exists_rows :
    ∃ rows : List Row, Prints rows Row.listed (outputOf listed.2) ∧
      Prints rows (Row.foretold t) (outputOf dry.2) ∧
      ∀ job, configured = .ok job →
        rows.map (·.companion) = (inspected t job).artifacts.values := by
  cases h with
  | unloaded hloaded hfault =>
    have hnothing := outputOf_endingOf hfault
    refine ⟨[], hnothing ▸ prints [] Row.listed, hnothing ▸ prints [] (Row.foretold t), ?_⟩
    intro job hjob
    rw [hloaded] at hjob
    contradiction
  | @loaded job _ _ hloaded houtput houtput' =>
    refine ⟨rowsOf t job, houtput, houtput', fun other hother => ?_⟩
    obtain rfl := Except.ok.inj (hloaded.symm.trans hother)
    exact companions_rowsOf t job

theorem exitStatus_eq_zero_iff :
    exitStatus listed.2 = 0 ↔
      ∃ job, configured = .ok job ∧ errorsOf (inspected t job).diagnostics = [] := by
  cases h with
  | unloaded hloaded hfault =>
    apply iff_of_false (exitStatus_endingOf hfault).1
    rintro ⟨job, hjob, -⟩
    rw [hloaded] at hjob
    contradiction
  | @loaded job _ _ hloaded _ _ hstatus =>
    rw [exitStatus, hstatus, verdict_eq_zero_iff]
    constructor
    · intro hnone
      exact ⟨job, hloaded, hnone⟩
    · rintro ⟨job', hjob, hnone⟩
      obtain rfl := Except.ok.inj (hloaded.symm.trans hjob)
      exact hnone

theorem exitStatus_eq_two_iff :
    exitStatus listed.2 = 2 ↔
      (∃ fault, configured = .error (.input fault) ∧ fault.kind ≠ .unforeseen) ∨
      ∃ job, configured = .ok job ∧
        ∃ d ∈ errorsOf (inspected t job).diagnostics, d.code = some ConfigFault.code := by
  cases h with
  | unloaded hloaded hfault =>
    rw [(exitStatus_endingOf hfault).2]
    constructor
    · rintro ⟨fault, rfl, hforeseen⟩
      exact .inl ⟨fault, hloaded, hforeseen⟩
    · rintro (⟨fault, hinput, hforeseen⟩ | ⟨job, hjob, -⟩)
      · exact ⟨fault, Except.error.inj (hloaded.symm.trans hinput), hforeseen⟩
      · rw [hloaded] at hjob
        contradiction
  | @loaded job _ _ hloaded _ _ hstatus =>
    rw [exitStatus, hstatus, verdict_eq_two_iff]
    constructor
    · intro hcode
      exact .inr ⟨job, hloaded, hcode⟩
    · rintro (⟨fault, hinput, -⟩ | ⟨job', hjob, hcode⟩)
      · rw [hloaded] at hinput
        contradiction
      · obtain rfl := Except.ok.inj (hloaded.symm.trans hjob)
        exact hcode

end EndTogether

/-- A list and a dry run of one project whose output can be shown leave its tree as it is and end with
the same status, and if one breaks down so does the other. Their entries name the companions of the
round, one each in the same order; the entries are the lines of the output unless one has a line feed of
its own. The status is 0 exactly when the configuration can be loaded and the round has no error, and 2
exactly when the configuration cannot be loaded for a reason that is foreseen, or some error is one of
configuration. -/
theorem listing_agrees_with_dry_run (t : FileTree) (path? : Option String)
    (hpath : ∀ path ∈ path?, path.startsWith "-" = false) (takes : Char → Bool)
    (hshown : ∀ job, jobFor t (listing (path?.getD ".")) = .ok job → Shown t job takes)
    (time time' : String) (schedule schedule' : List Nat) :
    let listed := run takes time schedule t (listArguments path?)
    let dry := run takes time' schedule' t (dryRunArguments path?)
    let loaded := jobFor t (listing (path?.getD "."))
    listed.1 = t ∧ dry.1 = t ∧
    exitStatus listed.2 = exitStatus dry.2 ∧
    (∀ b, listed.2 = .error b ↔ dry.2 = .error b) ∧
    (∃ rows : List Row, Prints rows Row.listed (outputOf listed.2) ∧
      Prints rows (Row.foretold t) (outputOf dry.2) ∧
      ∀ job, loaded = .ok job → rows.map (·.companion) = (inspected t job).artifacts.values) ∧
    (exitStatus listed.2 = 0 ↔
      ∃ job, loaded = .ok job ∧ errorsOf (inspected t job).diagnostics = []) ∧
    (exitStatus listed.2 = 2 ↔
      (∃ fault, loaded = .error (.input fault) ∧ fault.kind ≠ .unforeseen) ∨
      ∃ job, loaded = .ok job ∧
        ∃ d ∈ errorsOf (inspected t job).diagnostics, d.code = some ConfigFault.code) := by
  intro listed dry loaded
  have htogether : EndTogether t loaded listed dry :=
    endTogether t hpath hshown time time' schedule schedule'
  obtain ⟨htree, htree'⟩ := htogether.trees_eq
  exact ⟨htree, htree', htogether.exitStatus_eq, htogether.error_iff, htogether.exists_rows,
    htogether.exitStatus_eq_zero_iff, htogether.exitStatus_eq_two_iff⟩

/-- A project at `/p` with a manifest. -/
def projectWith (manifest : String) : FileTree where
  entries := [(["p"], .directory), (["p", ".fielder.yml"], .file "manifest: m.yml\n".toUTF8),
    (["p", "m.yml"], .file manifest.toUTF8)]
  current := ["p"]
  home := []

/-- A project with a manifest of two types, one of which is no class. -/
def manifestProject : FileTree :=
  projectWith "types: [{name: q.A, fields: [x, y]}, {name: q.B, kind: interface}]\n"

theorem startsWith_project : ∀ path ∈ some "/p", path.startsWith "-" = false := by
  rintro _ ⟨⟩
  simp

/-- Both calls end with status 1 for the second type, and name the companion of the first. -/
theorem listing_of_manifestProject :
    let shows := fun _ : Char => true
    let listed := run shows "" [] manifestProject (listArguments (some "/p"))
    let dry := run shows "" [] manifestProject (dryRunArguments (some "/p"))
    (∀ path ∈ some "/p", path.startsWith "-" = false) ∧
      (∀ job, jobFor manifestProject (listing "/p") = .ok job → Shown manifestProject job shows) ∧
      listed.1 = manifestProject ∧ dry.1 = manifestProject ∧
      exitStatus listed.2 = 1 ∧ exitStatus dry.2 = 1 ∧
      outputOf listed.2 = "q.A -> q.A_Fielder: [x, y]\n" ∧
      outputOf dry.2 = "Would write q.A_Fielder -> generated/q/A_Fielder.py\n" := by
  intro shows listed dry
  have hshown : ∀ job, jobFor manifestProject (listing "/p") = .ok job →
      Shown manifestProject job shows := fun _ _ _ _ _ _ => rfl
  obtain ⟨htree, htree', hstatus, -⟩ := listing_agrees_with_dry_run manifestProject (some "/p")
    startsWith_project shows hshown "" "" [] []
  have hdry : dry = carryOut shows "" [] consoleOnly manifestProject (dryRun "/p") :=
    run_of_read shows "" [] (read_dryRunArguments startsWith_project) rfl rfl
  have hcomputed : exitStatus listed.2 = 1 ∧
      outputOf listed.2 = "q.A -> q.A_Fielder: [x, y]\n" ∧
      outputOf (carryOut shows "" [] consoleOnly manifestProject (dryRun "/p")).2
        = "Would write q.A_Fielder -> generated/q/A_Fielder.py\n" := by
    decide +kernel
  refine ⟨startsWith_project, hshown, htree, htree', hcomputed.1, hstatus.symm.trans hcomputed.1,
    hcomputed.2.1, ?_⟩
  rw [hdry]
  exact hcomputed.2.2

/-- A project with one type of one field, which is written in double quotes. -/
def fieldProject (field : String) : FileTree :=
  projectWith ("types: [\x7bname: q.A, fields: [\"" ++ field ++ "\"]\x7d]\n")

/-- A line feed in a field makes a second line of the list, which looks like that of another companion;
the dry run has no line about it. A field that cannot be shown breaks the list down, and the dry run ends
well. -/
theorem listing_disagrees :
    let shows := fun _ : Char => true
    let encodes := fun c => !Text.isLone c
    let broken := fieldProject "x]\\nz.Q -> z.Q_Fielder: [y"
    let half := fieldProject "\\ud800"
    (splitText '\n' (outputOf (run shows "" [] broken (listArguments (some "/p"))).2)
        = ["q.A -> q.A_Fielder: [x]", "z.Q -> z.Q_Fielder: [y]", ""] ∧
      splitText '\n' (outputOf (run shows "" [] broken (dryRunArguments (some "/p"))).2)
        = ["Would write q.A_Fielder -> generated/q/A_Fielder.py", ""]) ∧
    exitStatus (run encodes "" [] half (listArguments (some "/p"))).2 = 1 ∧
      exitStatus (run encodes "" [] half (dryRunArguments (some "/p"))).2 = 0 := by
  intro shows encodes broken half
  rw [run_of_read shows "" [] (read_listArguments startsWith_project) rfl rfl,
    run_of_read shows "" [] (read_dryRunArguments startsWith_project) rfl rfl,
    run_of_read encodes "" [] (read_listArguments startsWith_project) rfl rfl,
    run_of_read encodes "" [] (read_dryRunArguments startsWith_project) rfl rfl]
  refine ⟨⟨?_, ?_⟩, ?_, ?_⟩ <;> decide +kernel

end CommandLine
end Roster
