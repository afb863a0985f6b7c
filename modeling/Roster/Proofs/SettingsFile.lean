import Roster.Proofs.OutputBounds
import Roster.Proofs.StableScan
import Roster.Settings

/-! # The settings file stays as it is

What is made for an output directory leaves the settings of a project as they are: the settings file
ends otherwise than a companion's file, and where it is missing, the output directory has its usual
name beside it.

* `settingsPath_eq_ok`: where the settings file of a project is.
* `outputRoot_of_loadSettings`: the output directory of settings is absolute and properly named.
* `loadSettings_kept`: the settings are read once more.
-/

namespace Roster

open FileTree

variable {t t' : FileTree} {p path expanded file : Path} {s : Settings}

/-! ## Where the settings file is -/

theorem Artifact.getLast?_fileName (a : Artifact) :
    (a.fileName .python).toList.getLast? = some 'y' := by
  have hextension : Language.python.extension.toList = [ '.', 'p', 'y'] := by decide
  rw [Artifact.fileName, String.toList_append, hextension, List.getLast?_append]
  rfl

/-- A suffix is the end of the name. -/
theorem Path.getLast?_suffix (h : p.suffix ≠ "") :
    p.name.toList.getLast? = p.suffix.toList.getLast? := by
  unfold Path.suffix at h ⊢
  dsimp only at h ⊢
  split
  · rename_i hnone
    rw [if_pos hnone] at h
    contradiction
  · rename_i hsome
    simp only [Bool.or_eq_true, not_or] at hsome
    cases hending : p.name.toList.reverse.takeWhile (· ≠ '.') with
    | nil => exact absurd (by rw [hending]; rfl) hsome.1.1
    | cons c ending =>
      have hhead : p.name.toList.reverse.head? = some c := by
        cases hchars : p.name.toList.reverse with
        | nil => simp [hchars] at hending
        | cons first rest =>
          rw [hchars, List.takeWhile_cons] at hending
          split at hending
          · rw [List.head?_cons, (List.cons.inj hending).1]
          · contradiction
      rw [String.toList_ofList, ← List.head?_reverse, hhead, List.reverse_cons, ← List.cons_append,
        List.getLast?_concat]

/-- The settings file for a path that leads to an entry. -/
def fileFor (isDirectory : Bool) (path : Path) : Path :=
  if isDirectory then path / Path.parse ConfigFault.settingsFile
  else if path.suffix = ".yml" || path.suffix = ".yaml" then path
  else path.parent / Path.parse ConfigFault.settingsFile

theorem settingsPath_eq (hhome : path.expandHome t.home = some expanded) {isDirectory : Bool}
    (h : t.isDirectory? expanded = .ok isDirectory) :
    settingsPath t path = (t.resolve (fileFor isDirectory expanded)).mapError .file := by
  unfold settingsPath fileFor
  simp only [hhome, h, Except.mapError, bind, Except.bind]

/-- What a path leads to is a directory or a file. -/
theorem isDirectory?_of_find {place : Place} {e : FileEntry} (h : t.placeOf p = .ok place)
    (hentry : t.get? place = some e) : t.isDirectory? p = .ok (e = .directory) := by
  simp [isDirectory?, find, h, hentry, bind, Except.bind]

theorem FileTree.KeepsKinds.isDirectory? (h : t.KeepsKinds t') (hexists : t.exists? p = .ok true) :
    t'.isDirectory? p = t.isDirectory? p := by
  obtain ⟨place, e, hplace, hentry⟩ := (exists?_eq_true_iff t p).mp hexists
  have hplace' := h.toGrows.placeOf hplace
  rw [isDirectory?_of_find hplace hentry]
  cases e with
  | directory => exact isDirectory?_of_find hplace' (h.directory place hentry)
  | file content =>
    obtain ⟨content', hfile⟩ := h.file place content hentry
    simpa using isDirectory?_of_find hplace' hfile

/-- Beside an absolute path, or in it, a name is seen from where the path leads. -/
theorem resolved_settingsFile (t : FileTree) (p : Path) :
    (p / Path.parse ConfigFault.settingsFile).resolved t.current
      = ⟨.slash, t.destination p ++ [".fielder.yml"]⟩ := by
  have hfile : Path.parse ConfigFault.settingsFile = ⟨.relative, [".fielder.yml"]⟩ := by decide
  rw [hfile]
  change Path.mk .slash (Path.normalise _ (p.parts ++ [".fielder.yml"])) = _
  rw [Path.normalise_append, Path.normalise_of_notMem (by decide)]
  rfl

/-- The name of a settings file that a path gives itself ends in the one way or the other. -/
theorem Path.getLast?_name_of_suffix (h : (p.suffix = ".yml" || p.suffix = ".yaml") = true) :
    p.name.toList.getLast? = some 'l' := by
  rcases (Bool.or_eq_true _ _).mp h with hyml | hyaml
  · rw [Path.getLast?_suffix (by rw [of_decide_eq_true hyml]; decide), of_decide_eq_true hyml]
    decide
  · rw [Path.getLast?_suffix (by rw [of_decide_eq_true hyaml]; decide), of_decide_eq_true hyaml]
    decide

/-- A path without names leads to the root or to the current directory. -/
theorem FileTree.Sound.parts_ne_nil (ht : t.Sound) {place : Place} {content : ByteArray}
    (hplace : t.placeOf p = .ok place) (hfile : t.get? place = some (.file content)) :
    p.parts ≠ [] := by
  intro hnil
  have hroot := ((placeOf_eq_ok_iff ..).mp hplace).2.2
  rw [hnil, FileTree.descend] at hroot
  rw [← Except.ok.inj hroot, startOf] at hfile
  split at hfile
  · cases Option.some.inj hfile
  · cases Option.some.inj (hfile.symm.trans ht.current)

/-- A path to a file leads to its last name in the directory above. -/
theorem FileTree.Sound.file_of_placeOf (ht : t.Sound) {place : Place} {content : ByteArray}
    (hplace : t.placeOf p = .ok place) (hfile : t.get? place = some (.file content)) :
    t.get? (t.destination p.parent) = some .directory ∧
      place = t.destination p.parent ++ [p.name] := by
  have hne := ht.parts_ne_nil hplace hfile
  have hname : p.name = p.parts.getLast hne := by
    rw [Path.name, List.getLastD_eq_getLast?, List.getLast?_eq_some_getLast hne, Option.getD_some]
  obtain ⟨hparent, ⟨-, hup⟩ | ⟨-, -, -, hlast⟩⟩ := parent_of_placeOf hne hplace
  · -- on the way up there are directories alone
    rw [hup, ht.dropLast hparent] at hfile
    cases Option.some.inj hfile
  · exact ⟨hparent, hname ▸ hlast⟩

/-- The settings file of a project lies in a directory that is there, and its name ends like that of
no companion's file. -/
theorem settingsPath_eq_ok (ht : t.Sound) (hhome : path.expandHome t.home = some expanded)
    (hexists : t.exists? expanded = .ok true) (h : settingsPath t path = .ok file) :
    ∃ above name, file = ⟨.slash, above ++ [name]⟩ ∧ t.get? above = some .directory ∧
      name.toList.getLast? = some 'l' := by
  obtain ⟨place, e, hplace, hentry⟩ := (exists?_eq_true_iff t expanded).mp hexists
  obtain rfl := placeOf_eq hplace
  rw [settingsPath_eq hhome (isDirectory?_of_find hplace hentry)] at h
  have hfile : file = (fileFor (e = .directory) expanded).resolved t.current := by
    unfold resolve at h
    split at h
    · contradiction
    · exact (Except.ok.inj h).symm
  rw [hfile, fileFor]
  cases e with
  | directory => exact ⟨_, _, resolved_settingsFile t expanded, hentry, by decide⟩
  | file content =>
    obtain ⟨hparent, hlast⟩ := ht.file_of_placeOf hplace hentry
    simp only [reduceCtorEq, decide_false, Bool.false_eq_true, if_false]
    split
    · -- the path of a settings file
      rename_i hsuffix
      exact ⟨_, _, congrArg (Path.mk .slash) hlast, hparent, Path.getLast?_name_of_suffix hsuffix⟩
    · exact ⟨_, _, resolved_settingsFile t expanded.parent, hparent, by decide⟩

theorem directory_of_settingsPath (ht : t.Sound) (hhome : path.expandHome t.home = some expanded)
    (hexists : t.exists? expanded = .ok true) {above : Place} {name : String}
    (h : settingsPath t path = .ok ⟨.slash, above ++ [name]⟩) :
    t.get? above = some .directory ∧ name.toList.getLast? = some 'l' := by
  obtain ⟨above', name', hsame, habove, hlast⟩ := settingsPath_eq_ok ht hhome hexists h
  obtain ⟨rfl, hname⟩ := List.append_inj' (Path.mk.inj hsame).2 rfl
  obtain rfl := List.singleton_inj.mp hname
  exact ⟨habove, hlast⟩

/-! ## What the settings say -/

/-- What comes of two steps comes of the second one. -/
theorem ok_of_mapError_eq_ok {ε ε' α : Type} {x : Except ε α} {wrap : ε → ε'} {a : α}
    (h : x.mapError wrap = .ok a) : x = .ok a := by
  cases x with
  | error fault => contradiction
  | ok a' => exact congrArg Except.ok (Except.ok.inj h)

/-- The settings of a file are for the project that they are read for, and give an output path below
it or none. -/
theorem Settings.ofValue_eq_ok {nesting : Nat} {root : Path} {v : Document.Value}
    (h : Settings.ofValue nesting root v = .ok s) :
    s.root = root ∧ (s.output = none ∨ ∃ text, s.output = some (root / Path.parse text)) := by
  unfold Settings.ofValue at h
  split at h
  · obtain ⟨sources, -, h⟩ := bind_eq_ok_iff.mp h
    obtain ⟨excludePaths, -, h⟩ := bind_eq_ok_iff.mp h
    obtain ⟨output, -, h⟩ := bind_eq_ok_iff.mp h
    obtain ⟨language, -, h⟩ := bind_eq_ok_iff.mp h
    obtain ⟨workers, -, h⟩ := bind_eq_ok_iff.mp h
    obtain ⟨discovery, -, h⟩ := bind_eq_ok_iff.mp h
    obtain ⟨manifest, -, h⟩ := bind_eq_ok_iff.mp h
    obtain ⟨options, -, h⟩ := bind_eq_ok_iff.mp h
    obtain rfl := Except.ok.inj h
    refine ⟨rfl, ?_⟩
    cases output with
    | none => exact .inl rfl
    | some text => exact .inr ⟨text, rfl⟩
  · contradiction

/-- Settings come from the settings file, or are the usual ones where it is missing. -/
theorem loadSettings_eq_ok (h : loadSettings t path = .ok s) :
    ∃ file, settingsPath t path = .ok file ∧
      (t.exists? file = .ok true ∧ (∃ v, Settings.ofValue t.limits.nesting file.parent v = .ok s) ∨
        t.exists? file = .ok false ∧ s = Settings.usual file.parent) := by
  obtain ⟨file, hfile, h⟩ := bind_eq_ok_iff.mp h
  obtain ⟨there, hthere, h⟩ := bind_eq_ok_iff.mp h
  refine ⟨file, hfile, ?_⟩
  cases there with
  | true =>
    obtain ⟨v, -, h⟩ := bind_eq_ok_iff.mp h
    exact .inl ⟨ok_of_mapError_eq_ok hthere, v, h⟩
  | false => exact .inr ⟨ok_of_mapError_eq_ok hthere, (Except.ok.inj h).symm⟩

/-- What is made for the usual output directory, right beside it, has its name. -/
theorem FileTree.MadeFor.name_eq {above : Place} {name : String} {e : FileEntry}
    (habove : ".." ∉ above)
    (h : t.MadeFor ⟨.slash, above ++ ["generated"]⟩ (above ++ [name]) e) : name = "generated" := by
  have hup : ".." ∉ above ++ ["generated"] := by simp [habove]
  have hbelow : ∀ names, above ++ [name] = above ++ ["generated"] ++ names → name = "generated" := by
    intro names hplace
    rw [List.append_assoc, List.append_cancel_left_eq] at hplace
    exact (List.cons.inj hplace).1
  generalize hat : above ++ [name] = place at h
  cases h with
  | way hway =>
    obtain ⟨front, hfront, hplace⟩ := hway
    have hhere : place = front :=
      hplace.trans (destination_of_notMem rfl fun hmem => hup (hfront.subset hmem))
    obtain ⟨rest, hrest⟩ := hfront
    rw [← hhere, ← hat, List.append_assoc, List.append_cancel_left_eq] at hrest
    exact (List.cons.inj hrest).1
  | folder hne =>
    rw [destination_of_notMem rfl hup] at hat
    exact hbelow _ hat
  | companion names a content =>
    rw [destination_of_notMem rfl hup] at hat
    exact hbelow _ hat

section Project

variable (ht : t.Sound) (hhome : path.expandHome t.home = some expanded)
  (hexists : t.exists? expanded = .ok true) (h : loadSettings t path = .ok s)

include ht hhome hexists h

/-- The project of settings is a directory that is there, and its output directory has an absolute
path of proper names. -/
theorem outputRoot_of_loadSettings :
    s.root.isAbsolute = true ∧ s.outputRoot.isAbsolute = true ∧
      ∀ name ∈ s.outputRoot.parts, Path.IsName name := by
  obtain ⟨file, hfile, hfound⟩ := loadSettings_eq_ok h
  obtain ⟨above, name, rfl, habove, -⟩ := settingsPath_eq_ok ht hhome hexists hfile
  have hparent : (Path.mk .slash (above ++ [name])).parent = ⟨.slash, above⟩ := by
    rw [Path.parent, List.dropLast_concat]
  have hroot : s.root = ⟨.slash, above⟩ := by
    rw [← hparent]
    rcases hfound with ⟨-, v, hv⟩ | ⟨-, rfl⟩
    · exact (Settings.ofValue_eq_ok hv).1
    · rfl
  have houtput : ∃ text, s.outputRoot = s.root / Path.parse text := by
    rcases hfound with ⟨-, v, hv⟩ | ⟨-, rfl⟩
    · obtain ⟨hsame, hnone | ⟨text, hsome⟩⟩ := Settings.ofValue_eq_ok hv
      · exact ⟨"generated", by rw [Settings.outputRoot, hnone, Option.getD_none]⟩
      · exact ⟨text, by rw [Settings.outputRoot, hsome, Option.getD_some, hsame]⟩
    · exact ⟨"generated", rfl⟩
  obtain ⟨text, houtput⟩ := houtput
  have habsolute : s.root.isAbsolute = true := by
    rw [hroot]
    rfl
  refine ⟨habsolute, ?_, ?_⟩
  · rw [houtput, Path.isAbsolute_join]
    exact .inl habsolute
  · intro name hname
    rw [houtput] at hname
    refine Path.isName_of_mem_join (fun part hpart => ?_) hname
    rw [hroot] at hpart
    exact (ht.isEntryName habove part hpart).toIsName

/-- Without a settings file the output directory has its usual name, beside the missing file. -/
theorem outputRoot_of_missing {above : Place} {name : String}
    (hfile : settingsPath t path = .ok ⟨.slash, above ++ [name]⟩)
    (hnone : t.get? (above ++ [name]) = none) : s.outputRoot = ⟨.slash, above ++ ["generated"]⟩ := by
  obtain ⟨file, hfile', hfound⟩ := loadSettings_eq_ok h
  obtain rfl : Path.mk .slash (above ++ [name]) = file := Except.ok.inj (hfile.symm.trans hfile')
  obtain ⟨habove, hlast⟩ := directory_of_settingsPath ht hhome hexists hfile
  rcases hfound with ⟨hthere, -⟩ | ⟨-, hs⟩
  · obtain ⟨place, e, hplace, hentry⟩ := (exists?_eq_true_iff ..).mp hthere
    have hup : ".." ∉ above ++ [name] := by
      rw [List.mem_append, List.mem_singleton]
      rintro (hmem | rfl)
      · exact (ht.isEntryName habove _ hmem).notUp rfl
      · exact absurd hlast (by decide)
    rw [placeOf_eq hplace, destination_of_notMem rfl hup, hnone] at hentry
    contradiction
  · have hgenerated : Path.parse "generated" = ⟨.relative, ["generated"]⟩ := by decide
    rw [hs, Path.parent, List.dropLast_concat]
    change Path.join ⟨.slash, above⟩ (Path.parse "generated") = _
    rw [hgenerated]
    rfl

/-- The settings file is as it was, whatever was made for the output directory. -/
theorem get?_settingsFile_kept {above : Place} {name : String}
    (hfile : settingsPath t path = .ok ⟨.slash, above ++ [name]⟩)
    (hgrows : GrowsFor s.outputRoot t t') :
    t'.get? (above ++ [name]) = t.get? (above ++ [name]) := by
  obtain ⟨habove, hlast⟩ := directory_of_settingsPath ht hhome hexists hfile
  have hcompanion : ∀ (names : List String) (a : Artifact),
      above ++ [name] ≠ t.destination s.outputRoot ++ (names ++ [a.fileName .python]) := by
    intro names a heq
    have hend := congrArg List.getLast? heq
    rw [← List.append_assoc, List.getLast?_concat, List.getLast?_concat, Option.some_inj] at hend
    rw [hend, Artifact.getLast?_fileName] at hlast
    exact absurd hlast (by decide)
  have hproper : ".." ∉ above := fun hmem => (ht.isEntryName habove _ hmem).notUp rfl
  cases hold : t.get? (above ++ [name]) with
  | some e =>
    cases e with
    | directory => exact hgrows.directory _ hold
    | file content =>
      obtain ⟨content', hnew⟩ := hgrows.file _ content hold
      rcases hgrows.entry _ _ hnew with hkept | hmade
      · rw [hnew, ← hkept, hold]
      · generalize hat : above ++ [name] = place at hmade
        cases hmade with
        | companion names a => exact absurd hat (hcompanion names a)
  | none =>
    -- only the output directory itself is new beside the missing file, and it is named otherwise
    by_contra hentry
    obtain ⟨e, he⟩ := Option.ne_none_iff_exists'.mp hentry
    rcases hgrows.entry _ e he with hkept | hmade
    · rw [hold] at hkept
      contradiction
    · rw [outputRoot_of_missing ht hhome hexists h hfile hold] at hmade
      rw [hmade.name_eq hproper] at hlast
      exact absurd hlast (by decide)

/-- The settings of a project are read once more as they were, whatever was made for its output
directory. -/
theorem loadSettings_kept (hgrows : GrowsFor s.outputRoot t t') (ht' : t'.Sound) :
    loadSettings t' path = .ok s := by
  have hpath : settingsPath t' path = settingsPath t path := by
    obtain ⟨place, e, hplace, hentry⟩ := (exists?_eq_true_iff t expanded).mp hexists
    have hdirectory := isDirectory?_of_find hplace hentry
    have hdirectory' := (hgrows.isDirectory? hexists).trans hdirectory
    rw [settingsPath_eq hhome hdirectory, settingsPath_eq (hgrows.home ▸ hhome) hdirectory',
      FileTree.resolve, FileTree.resolve, hgrows.current]
  obtain ⟨file, hfile, -⟩ := loadSettings_eq_ok h
  obtain ⟨above, name, rfl, habove, hlast⟩ := settingsPath_eq_ok ht hhome hexists hfile
  have hup : name ≠ ".." := by
    rintro rfl
    exact absurd hlast (by decide)
  have hfind := find_eq_of_get?_eq ht ht' hup habove (hgrows.directory _ habove)
    (get?_settingsFile_kept ht hhome hexists h hfile hgrows)
  rw [← h, loadSettings, loadSettings, hpath, hfile]
  simp only [bind, Except.bind, exists?_congr hfind, readSettingsFile, readText_congr hfind,
    FileTree.readDocument, hgrows.limits]

end Project

end Roster
