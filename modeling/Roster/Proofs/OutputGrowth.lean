import Mathlib.Data.List.Induction
import Roster.Proofs.CompanionPaths
import Roster.Proofs.MakingBelow

/-! # Files that grow below an output directory

Companions are written below one output directory, which may be missing at first. If it can be made,
or fails at once, then no directory below it is ever left half made. What is new after companions were
written are the directories on the way to the output directory, and directories and files of
companions below it.

* `Opens`: making the output directory does not fail half way.
* `Opens.climbs`: then making directories below it does not.
* `MadeFor`, `GrowsFor`: what may be new.
* `OutputReady.writeText`: what a companion that is written keeps, whatever becomes of it.
-/

namespace Roster
namespace FileTree

variable {t t' t'' : FileTree} {output p : Path} {place : Place} {names : List String}
  {name : String}

/-! ## Output directories that open -/

/-- Making an output directory leaves nothing behind if it fails; and nothing is at the place that its
path spells while a directory on the way is missing, which is certain for a path without a way up. -/
structure Opens (t : FileTree) (output : Path) : Prop where
  whole : ∀ t' fault, t.makeDirectories output = (t', .error fault) → t' = t
  free : t.LeadsNowhere output → t.get? (t.destination output) = none

theorem destination_of_notMem (habsolute : p.isAbsolute = true) (hup : ".." ∉ p.parts) :
    t.destination p = p.parts := by
  rw [destination, Path.resolved, if_pos habsolute]
  exact (Path.normalise_of_notMem hup).trans (List.nil_append _)

/-- An output directory opens if its own making needs no other. -/
theorem opens_of_makeDirectoryIfNew (h : t.makeDirectoryIfNew output = .ok t') : t.Opens output := by
  constructor
  · intro t₁ fault hfails
    rw [makeDirectories, makeAbove_of_ok h] at hfails
    simp at hfails
  · intro hnowhere
    obtain ⟨path, hmissing⟩ := (makeDirectoryIfNew_missing_iff t output).mpr hnowhere
    rw [h] at hmissing
    contradiction

/-- For a path without a way up it is enough that making it leaves nothing behind where it fails. -/
theorem Sound.opens (ht : t.Sound) (habsolute : output.isAbsolute = true) (hup : ".." ∉ output.parts)
    (hwhole : ∀ t' fault, t.makeDirectories output = (t', .error fault) → t' = t) :
    t.Opens output := by
  refine ⟨hwhole, fun hnowhere => ?_⟩
  obtain ⟨-, -, hdescend⟩ := (leadsNowhere_iff ..).mp hnowhere
  rw [startOf, if_pos habsolute] at hdescend
  rw [destination_of_notMem habsolute hup]
  by_contra hentry
  obtain ⟨e, he⟩ := Option.ne_none_iff_exists'.mp hentry
  have hthere := @Sound.descend t [] output.parts e ht he
  rw [hdescend] at hthere
  contradiction

theorem LeadsToDirectory.opens (h : t.LeadsToDirectory output) : t.Opens output :=
  opens_of_makeDirectoryIfNew h.makeDirectoryIfNew

theorem destination_below (habsolute : output.isAbsolute = true) (hup : ".." ∉ names) :
    t.destination (output.below names) = t.destination output ++ names := by
  have hbelow : (output.below names).isAbsolute = true := habsolute
  rw [destination, destination, Path.resolved, Path.resolved, if_pos hbelow, if_pos habsolute]
  exact (Path.normalise_append _ _ _).trans (Path.normalise_of_notMem hup)

/-- A directory below one that is there is found under its name. -/
theorem LeadsToDirectory.placeOf_below (h : t.LeadsToDirectory p)
    (hup : name ≠ "..") (hshort : name.utf8ByteSize ≤ 255)
    (hnul : (p.below [name]).parts.any Path.isUnfit = false)
    (hsize : (p.below [name]).text.utf8ByteSize ≤ 4095) :
    t.placeOf (p.below [name]) = .ok (t.destination p ++ [name]) := by
  obtain ⟨place, hplace, hdirectory⟩ := h
  obtain rfl := placeOf_eq hplace
  obtain ⟨-, -, hdescend⟩ := (placeOf_eq_ok_iff ..).mp hplace
  refine (placeOf_eq_ok_iff ..).mpr ⟨hnul, hsize, ?_⟩
  rw [startOf_below, Path.below, descend_append, hdescend]
  change t.descend (t.destination p) [name] = _
  rw [descend, hdirectory]
  simp only [if_neg hup, if_neg (Nat.not_lt.mpr hshort), descend]

/-- A directory can be made below one that is there, unless a file is in its place. -/
theorem LeadsToDirectory.makes_below (h : t.LeadsToDirectory p)
    (hname : name ≠ ".." ∧ name.utf8ByteSize ≤ 255)
    (hnul : (p.below [name]).parts.any Path.isUnfit = false)
    (hsize : (p.below [name]).text.utf8ByteSize ≤ 4095)
    (hfree : ∀ content, t.get? (t.destination p ++ [name]) ≠ some (.file content)) :
    ∃ t', t.makeDirectoryIfNew (p.below [name]) = .ok t' := by
  rw [makeDirectoryIfNew_eq, h.placeOf_below hname.1 hname.2 hnul hsize]
  dsimp only
  split
  · exact ⟨_, rfl⟩
  · exact ⟨_, rfl⟩
  · rename_i content hfile
    exact absurd hfile (hfree content)

section Opens

variable (ht : t.Sound) (habsolute : output.isAbsolute = true) (hopens : t.Opens output)

include ht habsolute hopens

/-- If a directory below an output directory is missing, the output directory can be made. -/
theorem Opens.made (h : t.LeadsNowhere (output.below names)) :
    ∃ t', t.makeDirectories output = (t', .ok ()) := by
  rcases hmade : t.makeDirectories output with ⟨t', fault | done⟩
  · obtain rfl := hopens.whole t' fault hmade
    exact absurd (isBlocked_of_makeAbove habsolute (Nat.le_refl _) hmade) (h.above habsolute)
  · exact ⟨t', rfl⟩

/-- What is missing below an output directory is not there at all. -/
theorem Opens.get?_of_leadsNowhere (h : t.LeadsNowhere (output.below names)) :
    t.get? (t.destination output ++ names) = none := by
  by_contra hentry
  obtain ⟨e, he⟩ := Option.ne_none_iff_exists'.mp hentry
  by_cases hnil : names = []
  · rw [hnil, Path.below_nil] at h
    rw [hnil, List.append_nil, hopens.free h] at he
    contradiction
  · have hdirectory := ht.above he hnil
    obtain ⟨hnul, hsize, hdescend⟩ := (leadsNowhere_iff ..).mp h
    rcases making_cases t output with ⟨t', hmade⟩ | hnowhere | hblocked
    · -- the output directory is there, and so is all that lies below it
      rw [makeDirectoryIfNew_eq] at hmade
      split at hmade
      · contradiction
      · rename_i place hplace
        obtain rfl := placeOf_eq hplace
        have hfront := ((placeOf_eq_ok_iff ..).mp hplace).2.2
        rw [startOf_below, Path.below, descend_append, hfront] at hdescend
        change t.descend (t.destination output) names = _ at hdescend
        rw [ht.descend he] at hdescend
        contradiction
    · rw [hopens.free hnowhere] at hdirectory
      contradiction
    · exact h.above habsolute hblocked

/-- The directories above one that is missing can all be made, if their names are short. -/
theorem Opens.makeAbove (hnames : ∀ name ∈ names, name ≠ ".." ∧ name.utf8ByteSize ≤ 255)
    {rest : List String} (h : t.LeadsNowhere (output.below (names ++ rest))) :
    ∃ t', t.makeAbove (output.below names) (output.parts.length + names.length) = (t', .ok ()) := by
  induction names using List.reverseRecOn generalizing rest with
  | nil =>
    rw [Path.below_nil]
    exact Opens.made ht habsolute hopens h
  | append_singleton names name ih =>
    have hup : ".." ∉ names ++ [name] := fun hmem => (hnames _ hmem).1 rfl
    rw [← Path.below_below] at h
    rcases making_cases t (output.below (names ++ [name])) with ⟨t', hmade⟩ | hnowhere | hblocked
    · exact ⟨t', makeAbove_of_ok hmade _⟩
    · obtain ⟨t₁, habove⟩ := ih (fun n hn => hnames n (List.mem_append_left _ hn)) hnowhere
      obtain ⟨path, hmissing⟩ := (makeDirectoryIfNew_missing_iff ..).mpr hnowhere
      have hdepth : output.parts.length + (names ++ [name]).length
          = output.parts.length + names.length + 1 := by
        simp [Nat.add_assoc]
      have hparent := leadsToDirectory_of_makeAbove habove
      have hfst : (t.makeAbove (output.below names) (output.parts.length + names.length)).1 = t₁ := by
        rw [habove]
      have hextends : t.Extends t₁ := hfst ▸ makeAbove_extends t _ _
      -- nothing was in the place of the directory, and only directories are new
      have hfree : ∀ content,
          t₁.get? (t₁.destination (output.below names) ++ [name]) ≠ some (.file content) := by
        intro content hfile
        rw [hextends.grows.destination, destination_below habsolute
          fun hmem => hup (List.mem_append_left _ hmem), List.append_assoc, ← hfst] at hfile
        rcases get?_makeAbove hfile with hold | ⟨hcontra, -⟩
        · rw [Opens.get?_of_leadsNowhere ht habsolute hopens hnowhere] at hold
          contradiction
        · contradiction
      obtain ⟨hnul, hsize, -⟩ := (leadsNowhere_iff ..).mp hnowhere
      rw [← Path.below_below] at hnul hsize
      obtain ⟨t₂, hlast⟩ := hparent.makes_below (hnames name (by simp)) hnul hsize hfree
      rw [Path.below_below] at hlast
      rw [hdepth, makeAbove_of_missing hmissing (Path.parent_below output names name ▸ habove), hlast]
      exact ⟨t₂, rfl⟩
    · exact absurd hblocked (h.above habsolute)

/-- Making a directory below an output directory does not fail half way, if the names of the
directories between them are short. -/
theorem Opens.climbs (hnames : ∀ name ∈ names.dropLast, name ≠ ".." ∧ name.utf8ByteSize ≤ 255) :
    t.Climbs (output.below names) := by
  intro path hmissing
  have hnowhere := (makeDirectoryIfNew_missing_iff ..).mp ⟨path, hmissing⟩
  by_cases hnil : names = []
  · -- the output directory itself
    rw [hnil, Path.below_nil] at hmissing hnowhere ⊢
    obtain ⟨t', hmade⟩ := @Opens.made t output [] ht habsolute hopens (by simpa using hnowhere)
    obtain ⟨depth, hdepth⟩ := Nat.exists_eq_succ_of_ne_zero
      (mt List.length_eq_zero_iff.mp (parts_ne_nil_of_missing hmissing))
    rw [makeDirectories, hdepth, FileTree.makeAbove, hmissing] at hmade
    rw [hdepth, Nat.succ_sub_one]
    rcases habove : t.makeAbove output.parent depth with ⟨t₁, fault | done⟩
    · simp [habove] at hmade
    · exact ⟨t₁, rfl⟩
  · have hsplit := List.dropLast_append_getLast hnil
    rw [← hsplit] at hnowhere
    obtain ⟨t', hmade⟩ := Opens.makeAbove ht habsolute hopens hnames hnowhere
    have hlength : (output.below names).parts.length - 1
        = output.parts.length + names.dropLast.length := by
      have hpos := List.length_pos_iff.mpr hnil
      rw [Path.below, List.length_append, List.length_dropLast]
      omega
    rw [Path.parent_below_of_ne_nil output hnil, hlength]
    exact ⟨t', hmade⟩

/-- An output directory goes on opening when a directory below it was made, or could not be made. -/
theorem Opens.makeDirectories
    (hnames : ∀ name ∈ names.dropLast, name ≠ ".." ∧ name.utf8ByteSize ≤ 255)
    {outcome : Except FileFault Unit}
    (h : t.makeDirectories (output.below names) = (t', outcome)) : t'.Opens output := by
  have hbelow : (output.below names).isAbsolute = true := habsolute
  cases outcome with
  | ok done => exact ((leadsToDirectory_of_makeAbove h).of_below habsolute).opens
  | error fault =>
    rcases making_cases t (output.below names) with ⟨t₁, hmade⟩ | hnowhere | hblocked
    · rw [FileTree.makeDirectories, makeAbove_of_ok hmade] at h
      simp at h
    · by_cases hnil : names = []
      · rw [hnil, Path.below_nil] at h
        exact hopens.whole t' fault h ▸ hopens
      · -- the directory above could be made, and the output directory is above that one
        obtain ⟨path, hmissing⟩ := (makeDirectoryIfNew_missing_iff ..).mpr hnowhere
        obtain ⟨t₁, habove⟩ := Opens.climbs ht habsolute hopens hnames path hmissing
        have hlength : (output.below names).parts.length
            = (output.below names).parts.length - 1 + 1 := by
          have hpos := List.length_pos_iff.mpr (parts_ne_nil_of_missing hmissing)
          omega
        rw [FileTree.makeDirectories, hlength, makeAbove_of_missing hmissing habove] at h
        rw [Path.parent_below_of_ne_nil output hnil] at habove
        have hleads := (leadsToDirectory_of_makeAbove habove).of_below habsolute
        split at h
        · simp at h
        · obtain ⟨rfl, -⟩ := Prod.mk.inj h
          exact hleads.opens
    · obtain ⟨fault', hmade, hfault⟩ := hblocked
      rw [FileTree.makeDirectories, makeAbove_of_error hmade hfault] at h
      exact (Prod.mk.inj h).1 ▸ hopens

end Opens

/-! ## What may be new -/

/-- What may be new after companions were written: directories on the way to the output directory,
directories below it, and files of companions. -/
inductive MadeFor (t : FileTree) (output : Path) : Place → FileEntry → Prop
  | way {place : Place} (hway : t.OnWay output place) : MadeFor t output place .directory
  | folder {names : List String} (hne : names ≠ []) :
      MadeFor t output (t.destination output ++ names) .directory
  | companion (names : List String) (a : Artifact) (content : ByteArray) :
      MadeFor t output (t.destination output ++ (names ++ [a.fileName .python])) (.file content)

theorem OnWay.congr (hcurrent : t'.current = t.current) (h : t'.OnWay p place) : t.OnWay p place := by
  obtain ⟨above, habove, hplace⟩ := h
  refine ⟨above, habove, ?_⟩
  rw [hplace, destination, destination, hcurrent]

theorem MadeFor.congr {e : FileEntry} (hcurrent : t'.current = t.current)
    (h : t'.MadeFor output place e) : t.MadeFor output place e := by
  have houtput : t'.destination output = t.destination output := by
    rw [destination, destination, hcurrent]
  cases h with
  | way hway => exact .way (hway.congr hcurrent)
  | folder hne => exact houtput ▸ .folder hne
  | companion names a content => exact houtput ▸ .companion names a content

/-- A tree with nothing new but what is made for an output directory. -/
structure GrowsFor (output : Path) (t t' : FileTree) : Prop extends KeepsKinds t t' where
  home : t'.home = t.home
  limits : t'.limits = t.limits
  entry : ∀ place e, t'.get? place = some e → t.get? place = some e ∨ t.MadeFor output place e

theorem GrowsFor.refl (output : Path) (t : FileTree) : GrowsFor output t t :=
  ⟨KeepsKinds.refl t, rfl, rfl, fun _ _ h => .inl h⟩

theorem GrowsFor.trans (h : GrowsFor output t t') (h' : GrowsFor output t' t'') :
    GrowsFor output t t'' := by
  constructor
  · exact h.toKeepsKinds.trans h'.toKeepsKinds
  · rw [h'.home, h.home]
  · rw [h'.limits, h.limits]
  · intro place e hentry
    rcases h'.entry place e hentry with hold | hnew
    · exact h.entry place e hold
    · exact .inr (hnew.congr h.current)

/-- Making directories below an output directory makes nothing else. -/
theorem growsFor_makeDirectories (habsolute : output.isAbsolute = true) (hup : ".." ∉ names)
    {outcome : Except FileFault Unit}
    (h : t.makeDirectories (output.below names) = (t', outcome)) : GrowsFor output t t' := by
  have hfst : (t.makeAbove (output.below names) (output.below names).parts.length).1 = t' :=
    congrArg Prod.fst h
  have hextends : t.Extends t' := hfst ▸ makeAbove_extends t _ _
  obtain ⟨hhome, hlimits⟩ := machine_makeAbove t (output.below names) (output.below names).parts.length
  refine ⟨hextends.keepsKinds, hfst ▸ hhome, hfst ▸ hlimits, ?_⟩
  intro place e hentry
  rw [← hfst] at hentry
  refine (get?_makeAbove hentry).imp_right ?_
  rintro ⟨rfl, above, habove, rfl⟩
  -- a directory on the way is on the way to the output directory, or goes on below it
  rcases List.prefix_or_prefix_of_prefix habove (List.prefix_append _ _) with hway | ⟨more, rfl⟩
  · exact .way ⟨above, hway, rfl⟩
  · have hmore := (List.prefix_append_right_inj _).mp habove
    have hplace : t.destination (output.below more) = t.destination output ++ more :=
      destination_below habsolute fun hmem => hup (hmore.subset hmem)
    rw [show (⟨(output.below names).root, output.parts ++ more⟩ : Path) = output.below more from rfl,
      hplace]
    by_cases hnil : more = []
    · rw [hnil, List.append_nil]
      exact .way ⟨output.parts, List.prefix_refl _, rfl⟩
    · exact .folder hnil

end FileTree

/-! ## Writing a companion -/

/-- A companion whose path has names without slashes, all of which but the last two have at most the
length that names may have. -/
structure Artifact.Fits (a : Artifact) : Prop where
  package : '/' ∉ a.package.toList
  name : '/' ∉ a.name.toList
  short : ∀ s ∈ a.directories.dropLast, s.utf8ByteSize ≤ 255

theorem Artifact.Fits.path_eq {a : Artifact} (ha : a.Fits) (output : Path) :
    output / relativePath .python a
      = output.below (a.directories ++ [a.fileName .python]) := by
  rw [relativePath_of_noSlash .python ha.package ha.name]
  rfl

theorem Artifact.Fits.isName {a : Artifact} (ha : a.Fits) :
    ∀ s ∈ a.directories ++ [a.fileName .python], Path.IsName s ∧ s ≠ ".." := by
  intro s hs
  rcases List.mem_append.mp hs with hdirectory | hfile
  · obtain ⟨hpart, hup⟩ := Artifact.isPart_of_mem_directories hdirectory
    refine ⟨⟨hpart, fun hslash => ?_⟩, hup⟩
    exact ha.package (mem_of_mem_splitText (List.mem_filter.mp hdirectory).1 hslash).1
  · obtain rfl := List.mem_singleton.mp hfile
    obtain ⟨hpart, hup⟩ := Artifact.isPart_fileName .python a
    refine ⟨⟨hpart, ?_⟩, hup⟩
    rw [Artifact.fileName, String.toList_append, List.mem_append, not_or]
    exact ⟨ha.name, by decide⟩

/-- An output directory in a sound tree that can be made whole. -/
structure OutputReady (t : FileTree) (output : Path) : Prop where
  sound : t.Sound
  absolute : output.isAbsolute = true
  names : ∀ name ∈ output.parts, Path.IsName name
  opens : t.Opens output

open FileTree

variable {t t' : FileTree} {output : Path} {a : Artifact}

/-- Making the directories of a companion does not fail half way. -/
theorem OutputReady.climbs (h : OutputReady t output) (ha : a.Fits) :
    t.Climbs (output / relativePath .python a).parent := by
  rw [ha.path_eq, Path.parent_below]
  refine Opens.climbs h.sound h.absolute h.opens fun name hname => ⟨?_, ha.short name hname⟩
  exact (ha.isName name (List.mem_append_left _ (List.dropLast_subset _ hname))).2

/-- Every part of the path of a companion is a proper name. -/
theorem OutputReady.isName (h : OutputReady t output) (ha : a.Fits) :
    ∀ name ∈ output.parts ++ (a.directories ++ [a.fileName .python]), Path.IsName name := by
  intro name hname
  rcases List.mem_append.mp hname with hout | hown
  · exact h.names name hout
  · exact (ha.isName name hown).1

/-- The directories of a companion are made: nothing else is new, and the output directory stays ready. -/
theorem OutputReady.makeDirectories (h : OutputReady t output) (ha : a.Fits)
    {outcome : Except FileFault Unit}
    (hmade : t.makeDirectories (output.below a.directories) = (t', outcome)) :
    GrowsFor output t t' ∧ OutputReady t' output := by
  have hup : ∀ name ∈ a.directories, name ≠ ".." := fun name hname =>
    (ha.isName name (List.mem_append_left _ hname)).2
  have hsound := h.sound.makeAbove (p := output.below a.directories) h.absolute
    (fun name hname => h.isName ha name <|
      List.append_assoc output.parts _ _ ▸ List.mem_append_left _ hname)
    (output.below a.directories).parts.length
  rw [show (t.makeAbove _ _).1 = t' from congrArg Prod.fst hmade] at hsound
  refine ⟨?_, hsound, h.absolute, h.names, ?_⟩
  · exact growsFor_makeDirectories h.absolute (fun hmem => hup _ hmem rfl) hmade
  · refine Opens.makeDirectories h.sound h.absolute h.opens (fun name hname => ⟨?_, ?_⟩) hmade
    · exact hup name (List.dropLast_subset _ hname)
    · exact ha.short name hname

/-- The file of a companion is written in a directory that is there: only the file is new. -/
theorem OutputReady.write (h : OutputReady t output) (ha : a.Fits)
    (hleads : t.LeadsToDirectory (output.below a.directories)) {content : ByteArray}
    (hwrite : t.write (output.below (a.directories ++ [a.fileName .python])) content = .ok t') :
    GrowsFor output t t' ∧ OutputReady t' output := by
  have hplace : t.destination (output.below (a.directories ++ [a.fileName .python]))
      = t.destination output ++ (a.directories ++ [a.fileName .python]) :=
    destination_below h.absolute fun hmem => (ha.isName _ hmem).2 rfl
  refine ⟨⟨write_keepsKinds hwrite, ?_, ?_, ?_⟩, ?_, h.absolute, h.names, ?_⟩
  · obtain ⟨-, -, rfl⟩ := (write_eq_ok_iff ..).mp hwrite
    rfl
  · obtain ⟨-, -, rfl⟩ := (write_eq_ok_iff ..).mp hwrite
    rfl
  · intro place e hentry
    rw [get?_write hwrite] at hentry
    split at hentry
    · rename_i hhere
      obtain rfl := Option.some.inj hentry
      rw [hhere, hplace]
      exact .inr (.companion _ a _)
    · exact .inl hentry
  · exact Sound.write (p := output.below _) h.sound h.absolute (h.isName ha) hwrite
  · -- the output directory is there by now, so it opens in every later tree
    exact ((hleads.of_below h.absolute).of_grows (write_grows hwrite)).opens

/-- Whatever becomes of a companion, nothing else is new, and the output directory stays ready for the
next one. -/
theorem OutputReady.writeText (h : OutputReady t output) (ha : a.Fits) (text : String)
    {outcome : WriteOutcome}
    (hwrite : writeText t a (output / relativePath .python a) text = (t', outcome)) :
    GrowsFor output t t' ∧ OutputReady t' output := by
  rw [writeText_eq, ha.path_eq, Path.parent_below] at hwrite
  rcases hmade : t.makeDirectories (output.below a.directories) with ⟨t₁, made⟩
  obtain ⟨hgrows, hready⟩ := h.makeDirectories ha hmade
  rw [hmade] at hwrite
  cases made with
  | error fault =>
    obtain ⟨rfl, -⟩ := Prod.mk.inj hwrite
    exact ⟨hgrows, hready⟩
  | ok done =>
    dsimp only at hwrite
    split at hwrite
    · rename_i t₂ hfile
      obtain ⟨rfl, -⟩ := Prod.mk.inj hwrite
      obtain ⟨hgrows', hready'⟩ := hready.write ha (leadsToDirectory_of_makeAbove hmade) hfile
      exact ⟨hgrows.trans hgrows', hready'⟩
    · obtain ⟨rfl, -⟩ := Prod.mk.inj hwrite
      exact ⟨hgrows, hready⟩

end Roster
