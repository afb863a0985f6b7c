import Roster.LogSinks
import Roster.Proofs.Places

/-! # Where records go after several calls

Handlers outlive the call that added them, and a call can fail when it has taken the old ones away. A
call nevertheless decides alone where records go until the next one: it leaves the logger with a
handler for each of its own sinks, whatever it found, and records change no handler.

* `openFile_spec`: a log file is opened beside what is there, and then it is a file.
* `setUp_configure`, `SetUp.record`: what a call brings about, and what a record keeps.
* `configure_keeps`: a call itself shows and writes nothing.
* `Reaches.emit`: a sink that has not been served yet.
* `run_call`: a call with the records after it is what `LogSinks` says of them together.
* `records_reach_last_sinks`: each record, after any sequence of calls and records.
-/

namespace Roster
namespace FileTree

variable {t t' : FileTree} {p : Path} {place : Place}

/-- Opening a file at its end keeps every entry, and then there is a file. -/
theorem append_empty (h : t.append p .empty = .ok t') :
    t.Extends t' ∧ ∃ content, t'.get? (t.destination p) = some (.file content) := by
  unfold append openForWriting at h
  cases hplace : t.placeOf p with
  | error fault =>
    rw [hplace] at h
    contradiction
  | ok place =>
    obtain rfl := placeOf_eq hplace
    rw [hplace] at h
    cases hentry : t.get? (t.destination p) with
    | none =>
      simp [bind, Except.bind, isDirectoryAt, hentry] at h
      have hne : t.destination p ≠ [] := by
        intro hroot
        simp [hroot, get?] at hentry
      rw [← h]
      exact ⟨extends_put _ hentry, .empty, by rw [get?_put _ _ _ _ hne, if_pos rfl]⟩
    | some entry =>
      cases entry with
      | directory => simp [bind, Except.bind, isDirectoryAt, hentry] at h
      | file content =>
        -- the file gets back what it held
        simp [bind, Except.bind, isDirectoryAt, hentry] at h
        have hget := fun other => get?_put t (t.destination p) other (.file content)
          (ne_nil_of_file hentry)
        rw [← h]
        refine ⟨⟨rfl, fun other entry hother => ?_⟩, content, by rw [hget, if_pos rfl]⟩
        rw [hget]
        split
        · rename_i heq
          rwa [heq, hentry] at hother
        · exact hother

/-! ### Adding to a file twice -/

theorem put_put (t : FileTree) (place : Place) (entry later : FileEntry) :
    (t.put place entry).put place later = t.put place later := by
  have hentries : ∀ es, putEntry place later (putEntry place entry es) = putEntry place later es := by
    intro es
    induction es with
    | nil => simp [putEntry]
    | cons e es ih =>
      by_cases he : e.1 = place
      · simp [putEntry, he]
      · simp [putEntry, he, ih]
  simp only [put, hentries]

theorem put_self {entry : FileEntry} (hplace : place ≠ []) (h : t.get? place = some entry) :
    t.put place entry = t := by
  have hentries : ∀ es : List (Place × FileEntry), es.lookup place = some entry →
      putEntry place entry es = es := by
    intro es
    induction es with
    | nil => simp
    | cons e es ih =>
      obtain ⟨first, held⟩ := e
      by_cases he : first = place
      · subst he
        intro hheld
        simp only [List.lookup_cons, beq_self_eq_true, Option.some.injEq] at hheld
        simp [putEntry, hheld]
      · intro hrest
        rw [List.lookup_cons, beq_eq_false_iff_ne.mpr (Ne.symm he)] at hrest
        rw [putEntry, if_neg he, ih hrest]
  rw [get?, List.isEmpty_eq_false_iff.mpr hplace] at h
  rw [put, hentries t.entries h]

theorem appendAt_empty (t : FileTree) (place : Place) : t.appendAt place .empty = t := by
  unfold appendAt
  split
  · rename_i old hold
    rw [ByteArray.append_empty, put_self (ne_nil_of_file hold) hold]
  · rfl

theorem appendAt_appendAt (t : FileTree) (place : Place) (content more : ByteArray) :
    (t.appendAt place content).appendAt place more = t.appendAt place (content ++ more) := by
  cases hentry : t.get? place with
  | none => simp [appendAt, hentry]
  | some entry =>
    cases entry with
    | directory => simp [appendAt, hentry]
    | file old =>
      have hheld := get?_appendAt hentry content
      rw [appendAt, hheld]
      simp only [appendAt, hentry, put_put, ByteArray.append_assoc]

end FileTree

namespace LogSinks

open FileTree

/-- The place of a log file: the one that its absolute path spells. -/
def placeFor (t : FileTree) (path : Path) : Place := t.destination (t.absolute path)

/-- What was there stays, also when it fails half way; when it succeeds, there is a file. -/
theorem openFile_spec (t : FileTree) (path : Path) :
    t.Extends (openFile t path).1 ∧ ∀ place, (openFile t path).2 = .ok place →
      place = placeFor t path ∧ ∃ content, (openFile t path).1.get? place = some (.file content) := by
  have hmade := makeDirectories_extends t path.parent
  unfold openFile
  rcases hmake : t.makeDirectories path.parent with ⟨t₁, fault | made⟩
  · rw [hmake] at hmade
    exact ⟨hmade, by simp⟩
  · rw [hmake] at hmade
    have habsolute : t₁.absolute path = t.absolute path := by
      rw [absolute, absolute, hmade.current]
    dsimp only
    split
    · -- the file was opened in the tree with the new directories, where the path leads to the same place
      rename_i happend hplace
      obtain ⟨hextends, hfile⟩ := append_empty happend
      refine ⟨hmade.trans hextends, fun place heq => ?_⟩
      obtain rfl := Except.ok.inj heq
      rw [placeOf_eq hplace]
      exact ⟨by rw [habsolute, placeFor, hmade.grows.destination], hfile⟩
    · exact ⟨hmade, by simp⟩
    · exact ⟨hmade, by simp⟩

theorem consoleText_append (sinks : LogSinks) (log more : Log) :
    sinks.consoleText (log ++ more) = sinks.consoleText log ++ sinks.consoleText more := by
  unfold consoleText
  split
  · rw [List.filter_append, List.map_append, String.join_append]
  · rfl

theorem keep_append (sinks : LogSinks) (time : String) (t : FileTree) (log more : Log) :
    sinks.keep time (sinks.keep time t log) more = sinks.keep time t (log ++ more) := by
  unfold keep
  cases sinks.file with
  | none => rfl
  | some place =>
    simp only [fileText, List.filter_append, List.map_append, String.join_append, String.toUTF8,
      String.toByteArray_append, appendAt_appendAt]

theorem keep_nil (sinks : LogSinks) (time : String) (t : FileTree) : sinks.keep time t [] = t := by
  unfold keep
  cases sinks.file with
  | none => rfl
  | some place => exact appendAt_empty t place

end LogSinks

namespace LogSession

open LogSinks

variable {s s' : LogSession} {verbose : Bool} {outlets rest : List LogOutlet} {time : String}
  {r : LogRecord}

/-! ## What a call brings about -/

/-- What comes of a call. -/
def outcome (s : LogSession) (verbose : Bool) (path : Option Path) : Except FileFault Unit :=
  (s.logger.configure s.tree verbose path).2.2

/-- Logging between a call with these sinks and the next one: each of the sinks has one handler, there
are no others, and the log file is still a file. -/
structure SetUp (verbose : Bool) (outlets : List LogOutlet) (s : LogSession) : Prop where
  logger : s.logger = ⟨thresholdFor verbose, outlets.map fun o => ⟨o, thresholdFor verbose⟩⟩
  once : outlets.Nodup
  isFile : ∀ place, .file place ∈ outlets → ∃ content, s.tree.get? place = some (.file content)

/-- A call shows nothing, and it keeps what every file holds. -/
theorem configure_keeps (s : LogSession) (verbose : Bool) (path : Option Path) :
    (s.step (.configure verbose path)).console = s.console ∧
      s.tree.Extends (s.step (.configure verbose path)).tree := by
  rw [step, Logger.configure_eq]
  unfold configure
  cases path with
  | none => exact ⟨rfl, .refl _⟩
  | some path =>
    have hextends := (openFile_spec s.tree path).1
    dsimp only
    generalize openFile s.tree path = opened at hextends ⊢
    rcases opened with ⟨t', fault | place⟩
    · exact ⟨rfl, hextends⟩
    · exact ⟨rfl, hextends⟩

/-! ## One record -/

/-- What a file takes of a line: all of it, but nothing if a half of a surrogate pair is in it, which has
no bytes. -/
def bytesOf (line : String) : ByteArray :=
  if line.toList.any Text.isLone then .empty else line.toUTF8

/-- A record is given to each of some sinks, once, and nothing else changes. The console shows the level
and the message behind the name of the program. A file takes what it can of the time, the level, the
name of the topic and the message. -/
structure Reaches (time : String) (r : LogRecord) (outlets : List LogOutlet) (s s' : LogSession) :
    Prop where
  logger : s'.logger = s.logger
  console : s'.console = if .console ∈ outlets
    then s.console ++ ("[fielder] " ++ r.level.name ++ " " ++ r.message ++ "\n") else s.console
  file : ∀ place, .file place ∈ outlets → ∃ content, s.tree.get? place = some (.file content) ∧
    s'.tree.get? place = some (.file (content ++
      bytesOf (time ++ " " ++ (r.level.name ++ " " ++ r.topic.name ++ ": " ++ r.message) ++ "\n")))
  elsewhere : ∀ place, .file place ∉ outlets → s'.tree.get? place = s.tree.get? place

theorem toUTF8_keptLine (time : String) (r : LogRecord) :
    (keptLine time r).toUTF8 = bytesOf (fileLine time r) := by
  have hlone : (fileLine time r).toList.any Text.isLone
      = (Text.fileFault? (fileLine time r)).isSome := by
    rw [Bool.eq_iff_iff, ← Bool.not_eq_false, ← Bool.not_eq_false, Option.isSome_eq_false_iff,
      Option.isNone_iff_eq_none, Text.fileFault?_eq_none_iff, List.any_eq_false]
    simp only [Bool.not_eq_true]
  rw [keptLine, bytesOf, hlone]
  split <;> rfl

theorem Reaches.nobody (s : LogSession) : Reaches time r [] s s :=
  ⟨rfl, rfl, by simp, fun _ _ => rfl⟩

/-- One sink more, which the record has not come to yet. -/
theorem Reaches.emit {o : LogOutlet} (h : Reaches time r outlets s s') (hnew : o ∉ outlets)
    (hfile : ∀ place, o = .file place → ∃ content, s.tree.get? place = some (.file content)) :
    Reaches time r (outlets ++ [o]) s (emit time r s' o) := by
  cases o with
  | console =>
    refine ⟨h.logger, ?_, fun place hplace => ?_, fun place hplace => ?_⟩
    · simp [LogSession.emit, consoleLine, h.console, hnew]
    · exact h.file place (by simpa using hplace)
    · exact h.elsewhere place (by simpa using hplace)
  | file own =>
    obtain ⟨content, hcontent⟩ := hfile own rfl
    have hown : s'.tree.get? own = some (.file content) := by rw [h.elsewhere own hnew, hcontent]
    refine ⟨h.logger, ?_, fun place hplace => ?_, fun place hplace => ?_⟩
    · simp [LogSession.emit, h.console]
    · by_cases heq : place = own
      · subst heq
        refine ⟨content, hcontent, ?_⟩
        rw [LogSession.emit, toUTF8_keptLine]
        exact FileTree.get?_appendAt hown _
      · obtain ⟨old, hold, hget⟩ := h.file place (by simpa [heq] using hplace)
        exact ⟨old, hold, by rw [LogSession.emit, FileTree.get?_appendAt_of_ne _ _ heq, hget]⟩
    · simp only [List.mem_append, List.mem_singleton, LogOutlet.file.injEq, not_or] at hplace
      rw [LogSession.emit, FileTree.get?_appendAt_of_ne _ _ hplace.2, h.elsewhere place hplace.1]

theorem Reaches.foldl_emit (h : Reaches time r outlets s s') (honce : (outlets ++ rest).Nodup)
    (hfile : ∀ place, .file place ∈ rest → ∃ content, s.tree.get? place = some (.file content)) :
    Reaches time r (outlets ++ rest) s (rest.foldl (LogSession.emit time r) s') := by
  induction rest generalizing outlets s' with
  | nil => rwa [List.append_nil]
  | cons o rest ih =>
    -- the first of the sinks that are left joins those that have been served
    rw [List.append_cons] at honce ⊢
    rw [List.foldl_cons]
    refine ih (h.emit ?_ fun place heq => hfile place (by simp [heq])) honce
      fun place hplace => hfile place (List.mem_cons_of_mem _ hplace)
    intro hmem
    exact (List.nodup_append.mp (List.nodup_append.mp honce).1).2.2 o hmem o List.mem_cons_self rfl

/-- The sinks that a record is for. -/
def heardBy (verbose : Bool) (outlets : List LogOutlet) (r : LogRecord) : List LogOutlet :=
  if r.level.atLeast (thresholdFor verbose) then outlets else []

theorem SetUp.receivers (h : SetUp verbose outlets s) (r : LogRecord) :
    s.logger.receivers r = heardBy verbose outlets r := by
  rw [h.logger, Logger.receivers_of_even rfl, heardBy]

theorem SetUp.reaches (h : SetUp verbose outlets s) (time : String) (r : LogRecord) :
    Reaches time r (heardBy verbose outlets r) s (s.step (.record time r)) := by
  rw [step, h.receivers]
  unfold heardBy
  split
  · exact (Reaches.nobody s).foldl_emit h.once h.isFile
  · exact Reaches.nobody s

theorem SetUp.record (h : SetUp verbose outlets s) (time : String) (r : LogRecord) :
    SetUp verbose outlets (s.step (.record time r)) := by
  have hreaches := h.reaches time r
  refine ⟨hreaches.logger.trans h.logger, h.once, fun place hplace => ?_⟩
  by_cases hheard : .file place ∈ heardBy verbose outlets r
  · -- a file with one line more is a file
    obtain ⟨content, -, hget⟩ := hreaches.file place hheard
    exact ⟨_, hget⟩
  · rw [hreaches.elsewhere place hheard]
    exact h.isFile place hplace

/-! ## Sequences -/

theorem run_cons (s : LogSession) (event : LogEvent) (events : List LogEvent) :
    s.run (event :: events) = (s.step event).run events := rfl

theorem step_record_of_sinks {sinks : LogSinks} (h : s.logger = sinks.logger) (time : String)
    (r : LogRecord) :
    s.step (.record time r) = { s with
      tree := sinks.keep time s.tree [r], console := s.console ++ sinks.consoleText [r] } := by
  have hreceivers : s.logger.receivers r = if sinks.accepts r then sinks.outlets else [] := by
    rw [h, Logger.receivers_of_even rfl]
    rfl
  rw [step, hreceivers]
  by_cases hheard : sinks.accepts r = true
  · obtain ⟨threshold, console, file⟩ := sinks
    cases console <;> cases file <;>
      simp [hheard, outlets, emit, keep, fileText, consoleText]
  · have hkept : sinks.keep time s.tree [r] = sinks.keep time s.tree [] := by
      simp [keep, fileText, hheard]
    simp [hheard, hkept, keep_nil, consoleText]

/-- What logging shows and keeps of records is what the sinks say of all of them together. -/
theorem run_records {sinks : LogSinks} (h : s.logger = sinks.logger) (time : String) (log : Log) :
    s.run (log.map (.record time)) = { s with
      tree := sinks.keep time s.tree log, console := s.console ++ sinks.consoleText log } := by
  induction log generalizing s with
  | nil =>
    have hnothing : sinks.consoleText [] = "" := by simp [consoleText]
    rw [keep_nil, hnothing, String.append_empty]
    rfl
  | cons r log ih =>
    have hstep := step_record_of_sinks h time r
    have hlogger : (s.step (.record time r)).logger = sinks.logger := by rw [hstep, h]
    rw [List.map_cons, run_cons, ih hlogger, hstep, keep_append, String.append_assoc,
      ← consoleText_append, List.singleton_append]

/-- A call and the records after it, made at one time. -/
theorem run_call (s : LogSession) (verbose : Bool) (path : Option Path) (time : String) (log : Log) :
    s.run (.configure verbose path :: log.map (.record time)) =
      ⟨(configure s.tree verbose path).2.1.keep time (configure s.tree verbose path).1 log,
        (configure s.tree verbose path).2.1.logger,
        s.console ++ (configure s.tree verbose path).2.1.consoleText log⟩ := by
  have hstep : s.step (.configure verbose path) = ⟨(configure s.tree verbose path).1,
      (configure s.tree verbose path).2.1.logger, s.console⟩ := by
    rw [step, Logger.configure_eq]
  rw [run_cons, hstep, run_records rfl]

end LogSession

-- the second call asks for a log file below a log file, and has taken the first one away when it fails
example : ((LogSession.start ⟨[], [], [], .ample⟩).run [.configure false (some (.parse "a.log")),
    .configure true (some (.parse "a.log/b.log"))]).logger.handlers = [⟨.console, .debug⟩] := by decide

end Roster
