import Mathlib.Data.List.Basic
import Roster.Proofs.SoundTrees
import Roster.Proofs.WrittenFiles

/-! # Making directories and files once more

What happens when a file is written below directories that may be missing depends on which places
are directories and which are files, but not on what the files hold. So in any later tree that keeps
the kinds of all entries it happens again in the same way, with nothing left to make, unless making
the directories had failed half way: then the failure is met elsewhere.

* `KeepsKinds`: a tree that keeps what is a directory and what is a file.
* `makeDirectoryIfNew_eq`: what becomes of making one directory.
* `Climbs`: making directories never fails half way.
* `makeDirectories_again`, `write_again`, `writeText_again`: the same once more.
-/

namespace Roster
namespace FileTree

/-! ## Kinds -/

/-- A tree that keeps the directories and the files of another, whatever these hold. -/
structure KeepsKinds (t t' : FileTree) : Prop extends Grows t t' where
  file : ∀ place content, t.get? place = some (.file content) →
    ∃ content', t'.get? place = some (.file content')

variable {t t' t'' : FileTree} {p : Path} {fault : FileFault}

theorem KeepsKinds.refl (t : FileTree) : t.KeepsKinds t :=
  ⟨⟨rfl, fun _ h => h⟩, fun _ content h => ⟨content, h⟩⟩

theorem KeepsKinds.trans (h : t.KeepsKinds t') (h' : t'.KeepsKinds t'') : t.KeepsKinds t'' := by
  refine ⟨h.toGrows.trans h'.toGrows, ?_⟩
  intro place content hfile
  obtain ⟨content', hfile'⟩ := h.file place content hfile
  exact h'.file place content' hfile'

theorem Extends.keepsKinds (h : t.Extends t') : t.KeepsKinds t' :=
  ⟨h.grows, fun place content hfile => ⟨content, h.entry place _ hfile⟩⟩

theorem write_keepsKinds {content : ByteArray} (h : t.write p content = .ok t') : t.KeepsKinds t' := by
  refine ⟨write_grows h, ?_⟩
  intro place old hold
  rw [get?_write h]
  split
  · exact ⟨content, rfl⟩
  · exact ⟨old, hold⟩

/-! ## Following a path once more -/

theorem descend_append (t : FileTree) (start : Place) (xs ys : List String) :
    t.descend start (xs ++ ys) = (t.descend start xs).bind fun place => t.descend place ys := by
  induction xs generalizing start with
  | nil => rfl
  | cons x xs ih =>
    rw [List.cons_append, descend, descend]
    split
    · rfl
    · rfl
    · split
      · exact ih _
      · split
        · rfl
        · exact ih _

/-- A path that cannot be followed for another reason than a missing directory stays so. -/
theorem KeepsKinds.descend_error (h : t.KeepsKinds t') {parts : List String} {start : Place}
    {cause : SystemCause} (herror : t.descend start parts = .error cause) (hcause : cause ≠ .missing) :
    t'.descend start parts = .error cause := by
  -- on the names that are left; each place on the way keeps its kind
  induction parts generalizing start with
  | nil => contradiction
  | cons part rest ih =>
    rw [FileTree.descend] at herror ⊢
    split at herror
    · obtain rfl := Except.error.inj herror
      contradiction
    · rename_i content hfile
      obtain ⟨content', hfile'⟩ := h.file start content hfile
      rw [hfile']
      exact herror
    · rename_i hdirectory
      rw [h.directory start hdirectory]
      dsimp only
      split at herror
      · rename_i hup
        rw [if_pos hup]
        exact ih herror
      · rename_i hup
        rw [if_neg hup]
        split at herror
        · rename_i hlong
          rw [if_pos hlong]
          exact herror
        · rename_i hshort
          rw [if_neg hshort]
          exact ih herror

/-- A fault that says that something on the way is missing. -/
def IsMissing (fault : FileFault) : Prop := ∃ path, fault = .system .missing path

theorem KeepsKinds.placeOf_error (h : t.KeepsKinds t') (herror : t.placeOf p = .error fault)
    (hfault : ¬ IsMissing fault) : t'.placeOf p = .error fault := by
  unfold placeOf at herror ⊢
  split at herror
  · rename_i hnul
    rw [if_pos hnul]
    exact herror
  · rename_i hnul
    rw [if_neg hnul]
    split at herror
    · rename_i hlong
      rw [if_pos hlong]
      exact herror
    · rename_i hshort
      rw [if_neg hshort]
      have hstart : t'.startOf p = t.startOf p := by
        rw [startOf, startOf, h.current]
      cases hdescend : t.descend (t.startOf p) p.parts with
      | ok place =>
        rw [hdescend] at herror
        contradiction
      | error cause =>
        rw [hdescend] at herror
        obtain rfl := Except.error.inj herror
        have hcause : cause ≠ .missing := by
          rintro rfl
          exact hfault ⟨_, rfl⟩
        rw [hstart, h.descend_error hdescend hcause]

/-- A path leads to a directory. -/
def LeadsToDirectory (t : FileTree) (p : Path) : Prop :=
  ∃ place, t.placeOf p = .ok place ∧ t.get? place = some .directory

theorem LeadsToDirectory.of_grows (hp : t.LeadsToDirectory p) (h : t.Grows t') :
    t'.LeadsToDirectory p := by
  obtain ⟨place, hplace, hdirectory⟩ := hp
  exact ⟨place, h.placeOf hplace, h.directory place hdirectory⟩

/-- Nothing is missing on the way to something in a directory. -/
theorem LeadsToDirectory.not_isMissing (h : t.LeadsToDirectory p.parent)
    (herror : t.placeOf p = .error fault) : ¬ IsMissing fault := by
  rintro ⟨path, rfl⟩
  obtain ⟨place, hplace, hdirectory⟩ := h
  have hdescend := ((placeOf_eq_ok_iff t p.parent place).mp hplace).2.2
  unfold placeOf at herror
  split at herror
  · simp at herror
  · split at herror
    · simp at herror
    · cases hlast : p.parts.getLast? with
      | none =>
        rw [List.getLast?_eq_none_iff] at hlast
        rw [hlast] at herror
        contradiction
      | some name =>
        -- only the last name is left to look up, and it is looked up in a directory
        have hparts : p.parts = p.parts.dropLast ++ [name] :=
          (List.dropLast_append_getLast? name hlast).symm
        have hfront : t.descend (t.startOf p) p.parts.dropLast = .ok place := hdescend
        rw [hparts, descend_append, hfront] at herror
        simp only [Except.bind, descend, hdirectory] at herror
        split at herror
        · contradiction
        · rename_i cause hcause
          split at hcause
          · contradiction
          · split at hcause
            · obtain rfl := Except.error.inj hcause
              simp at herror
            · contradiction

/-! ## Making directories once more -/

/-- What becomes of making one directory: whether it is made depends on what is at its place. -/
theorem makeDirectoryIfNew_eq (t : FileTree) (p : Path) :
    t.makeDirectoryIfNew p = match t.placeOf p with
      | .error fault => .error fault
      | .ok place => match t.get? place with
        | none => .ok (t.put place .directory)
        | some .directory => .ok t
        | some (.file _) => .error (.system .exists p.text) := by
  unfold makeDirectoryIfNew makeDirectory isDirectory? find
  cases hplace : t.placeOf p with
  | error fault =>
    simp only [bind, Except.bind]
    cases fault with
    | unfit _ => rfl
    | system cause path => cases cause <;> rfl
  | ok place =>
    simp only [bind, Except.bind]
    cases hentry : t.get? place with
    | none => rfl
    | some entry => cases entry <;> rfl

/-- A directory that was made, or that was there, is there. -/
theorem leadsToDirectory_of_makeDirectoryIfNew (h : t.makeDirectoryIfNew p = .ok t') :
    t'.LeadsToDirectory p := by
  have hextends := makeDirectoryIfNew_extends h
  rw [makeDirectoryIfNew_eq] at h
  split at h
  · contradiction
  · rename_i place hplace
    refine ⟨place, hextends.grows.placeOf hplace, ?_⟩
    split at h
    · rename_i hnew
      obtain rfl := Except.ok.inj h
      have hne : place ≠ [] := by
        rintro rfl
        contradiction
      rw [get?_put t place place .directory hne, if_pos rfl]
    · rename_i hold
      obtain rfl := Except.ok.inj h
      exact hold
    · contradiction

theorem LeadsToDirectory.makeDirectoryIfNew (h : t.LeadsToDirectory p) :
    t.makeDirectoryIfNew p = .ok t := by
  obtain ⟨place, hplace, hdirectory⟩ := h
  rw [makeDirectoryIfNew_eq, hplace]
  simp only [hdirectory]

theorem KeepsKinds.makeDirectoryIfNew_error (h : t.KeepsKinds t')
    (herror : t.makeDirectoryIfNew p = .error fault) (hfault : ¬ IsMissing fault) :
    t'.makeDirectoryIfNew p = .error fault := by
  rw [makeDirectoryIfNew_eq] at herror ⊢
  split at herror
  · rename_i fault' hplace
    obtain rfl := Except.error.inj herror
    rw [h.placeOf_error hplace hfault]
  · rename_i place hplace
    rw [h.toGrows.placeOf hplace]
    split at herror
    · contradiction
    · contradiction
    · rename_i content hfile
      obtain ⟨content', hfile'⟩ := h.file place content hfile
      simp only [hfile']
      exact herror

theorem makeAbove_of_ok (h : t.makeDirectoryIfNew p = .ok t') (depth : Nat) :
    t.makeAbove p depth = (t', .ok ()) := by
  cases depth <;> rw [makeAbove, h]

theorem makeAbove_of_error (h : t.makeDirectoryIfNew p = .error fault) (hfault : ¬ IsMissing fault)
    (depth : Nat) : t.makeAbove p depth = (t, .error fault) := by
  cases depth with
  | zero => rw [makeAbove, h]
  | succ depth =>
    rw [makeAbove, h]
    split
    · contradiction
    · rename_i path heq
      exact absurd ⟨path, Except.error.inj heq⟩ hfault
    · rename_i heq
      rw [Except.error.inj heq]

/-- Where a directory above is missing it is made first. -/
theorem makeAbove_of_missing {path : String}
    (h : t.makeDirectoryIfNew p = .error (.system .missing path)) {depth : Nat}
    (habove : t.makeAbove p.parent depth = (t', .ok ())) :
    t.makeAbove p (depth + 1) = match t'.makeDirectoryIfNew p with
      | .ok t'' => (t'', .ok ())
      | .error fault => (t', .error fault) := by
  cases hmade : t'.makeDirectoryIfNew p <;> simp [makeAbove, h, habove, hmade]

theorem leadsToDirectory_of_makeAbove {depth : Nat} (h : t.makeAbove p depth = (t', .ok ())) :
    t'.LeadsToDirectory p := by
  -- whatever was made on the way, the directory itself was made last
  cases depth with
  | zero =>
    rw [makeAbove] at h
    split at h
    · rename_i hmade
      obtain ⟨rfl, -⟩ := Prod.mk.inj h
      exact leadsToDirectory_of_makeDirectoryIfNew hmade
    · simp at h
  | succ depth =>
    rw [makeAbove] at h
    split at h
    · rename_i hmade
      obtain ⟨rfl, -⟩ := Prod.mk.inj h
      exact leadsToDirectory_of_makeDirectoryIfNew hmade
    · dsimp only at h
      split at h
      · simp at h
      · split at h
        · rename_i hmade
          obtain ⟨rfl, -⟩ := Prod.mk.inj h
          exact leadsToDirectory_of_makeDirectoryIfNew hmade
        · simp at h
    · simp at h

/-- Making the directories of a path never fails half way: if one above is missing, it can be made. -/
def Climbs (t : FileTree) (p : Path) : Prop :=
  ∀ path, t.makeDirectoryIfNew p = .error (.system .missing path) →
    ∃ t', t.makeAbove p.parent (p.parts.length - 1) = (t', .ok ())

theorem parts_ne_nil_of_missing {path : String}
    (h : t.makeDirectoryIfNew p = .error (.system .missing path)) : p.parts ≠ [] := by
  intro hnil
  rw [makeDirectoryIfNew_eq] at h
  split at h
  · rename_i fault hplace
    obtain rfl := Except.error.inj h
    rw [placeOf, hnil] at hplace
    simp only [List.any_nil, Bool.false_eq_true, if_false, descend] at hplace
    split at hplace
    · simp at hplace
    · contradiction
  · split at h
    · contradiction
    · contradiction
    · simp at h

/-- Below a directory that is there, making another lacks nothing above it. -/
theorem LeadsToDirectory.not_isMissing_making (h : t.LeadsToDirectory p.parent)
    (hmade : t.makeDirectoryIfNew p = .error fault) : ¬ IsMissing fault := by
  rw [makeDirectoryIfNew_eq] at hmade
  split at hmade
  · rename_i hplace
    obtain rfl := Except.error.inj hmade
    exact h.not_isMissing hplace
  · split at hmade
    · contradiction
    · contradiction
    · obtain rfl := Except.error.inj hmade
      rintro ⟨path, hpath⟩
      simp at hpath

/-- Directories are made once more with the same outcome and nothing new. -/
theorem makeDirectories_again (hclimbs : t.Climbs p) {outcome : Except FileFault Unit}
    (h : t.makeDirectories p = (t', outcome)) (hkinds : t'.KeepsKinds t'') :
    t''.makeDirectories p = (t'', outcome) := by
  unfold makeDirectories at h ⊢
  have hextends := makeAbove_extends t p p.parts.length
  rw [h] at hextends
  cases hmade : t.makeDirectoryIfNew p with
  | ok t₁ =>
    rw [makeAbove_of_ok hmade] at h
    obtain ⟨rfl, rfl⟩ := Prod.mk.inj h
    have hthere := (leadsToDirectory_of_makeDirectoryIfNew hmade).of_grows hkinds.toGrows
    exact makeAbove_of_ok hthere.makeDirectoryIfNew _
  | error fault =>
    by_cases hfault : IsMissing fault
    · -- the directories above are there now, and the last step decides again
      obtain ⟨path, rfl⟩ := hfault
      obtain ⟨t₀, habove⟩ := hclimbs path hmade
      have hlength : p.parts.length = p.parts.length - 1 + 1 := by
        have hpos := List.length_pos_iff.mpr (parts_ne_nil_of_missing hmade)
        omega
      have hparent := leadsToDirectory_of_makeAbove habove
      rw [hlength, makeAbove_of_missing hmade habove] at h
      cases hlast : t₀.makeDirectoryIfNew p with
      | ok t₁ =>
        rw [hlast] at h
        obtain ⟨rfl, rfl⟩ := Prod.mk.inj h
        have hthere := (leadsToDirectory_of_makeDirectoryIfNew hlast).of_grows hkinds.toGrows
        exact makeAbove_of_ok hthere.makeDirectoryIfNew _
      | error fault =>
        rw [hlast] at h
        obtain ⟨rfl, rfl⟩ := Prod.mk.inj h
        have hfault := hparent.not_isMissing_making hlast
        exact makeAbove_of_error (hkinds.makeDirectoryIfNew_error hlast hfault) hfault _
    · rw [makeAbove_of_error hmade hfault] at h
      obtain ⟨rfl, rfl⟩ := Prod.mk.inj h
      exact makeAbove_of_error (hkinds.makeDirectoryIfNew_error hmade hfault) hfault _

/-! ## Writing a file once more -/

/-- A tree that differs from another in what its files hold, and only at some places. -/
structure Rewrites (places : List Place) (t t' : FileTree) : Prop extends KeepsKinds t t' where
  keys : t'.entries.map (·.1) = t.entries.map (·.1)
  home : t'.home = t.home
  limits : t'.limits = t.limits
  elsewhere : ∀ place, place ∉ places → t'.get? place = t.get? place

theorem Rewrites.refl (places : List Place) (t : FileTree) : t.Rewrites places t :=
  ⟨KeepsKinds.refl t, rfl, rfl, rfl, fun _ _ => rfl⟩

theorem Rewrites.trans {places more : List Place} (h : t.Rewrites places t')
    (h' : t'.Rewrites more t'') : t.Rewrites (places ++ more) t'' := by
  constructor
  · exact h.toKeepsKinds.trans h'.toKeepsKinds
  · rw [h'.keys, h.keys]
  · rw [h'.home, h.home]
  · rw [h'.limits, h.limits]
  · intro place hplace
    rw [List.mem_append, not_or] at hplace
    rw [h'.elsewhere place hplace.2, h.elsewhere place hplace.1]

/-- A file in the place of a file changes nothing but what it holds. -/
theorem rewrites_put {place : Place} {old : ByteArray} (h : t.get? place = some (.file old))
    (content : ByteArray) : t.Rewrites [place] (t.put place (.file content)) := by
  have hne := ne_nil_of_file h
  have hget := fun other => get?_put t place other (.file content) hne
  refine ⟨⟨⟨rfl, ?_⟩, ?_⟩, ?_, rfl, rfl, ?_⟩
  · intro other hother
    have hdifferent : other ≠ place := by
      rintro rfl
      rw [h] at hother
      simp at hother
    rw [hget, if_neg hdifferent]
    exact hother
  · intro other old' hold
    rw [hget]
    split
    · exact ⟨content, rfl⟩
    · exact ⟨old', hold⟩
  · rw [get?_of_ne_nil t hne, List.lookup_eq_some_iff] at h
    obtain ⟨before, after, hentries, -⟩ := h
    rw [keys_put, if_pos (by simp [hentries])]
  · intro other hother
    rw [hget, if_neg (by simpa using hother)]

/-- A file that was written is written again in its place. -/
theorem write_again {content : ByteArray} (h : t.write p content = .ok t')
    (hkinds : t'.KeepsKinds t'') :
    ∃ again, t''.write p content = .ok again ∧ t''.Rewrites [t''.destination p] again := by
  have hget := get?_write h (t.destination p)
  obtain ⟨hplace, -, -⟩ := (write_eq_ok_iff t t' p content).mp h
  have hgrows := (write_grows h).trans hkinds.toGrows
  rw [if_pos rfl] at hget
  obtain ⟨old, hfile⟩ := hkinds.file _ _ hget
  rw [← hgrows.destination p] at hplace hfile
  refine ⟨_, (write_eq_ok_iff ..).mpr ⟨?_, by simp [hfile], rfl⟩, rewrites_put hfile content⟩
  exact hgrows.placeOf hplace

/-- A file in a directory that cannot be written cannot be written again. -/
theorem write_error_again {content : ByteArray} (hparent : t.LeadsToDirectory p.parent)
    (h : t.write p content = .error fault) (hkinds : t.KeepsKinds t') :
    t'.write p content = .error fault := by
  unfold write openForWriting at h ⊢
  cases hplace : t.placeOf p with
  | error other =>
    rw [hplace] at h
    obtain rfl := Except.error.inj h
    rw [hkinds.placeOf_error hplace (hparent.not_isMissing hplace)]
    rfl
  | ok place =>
    rw [hplace] at h
    rw [hkinds.toGrows.placeOf hplace]
    by_cases hdirectory : t.get? place = some .directory
    · have hkept := hkinds.directory place hdirectory
      simp only [bind, Except.bind, isDirectoryAt, hdirectory, hkept] at h ⊢
      exact h
    · simp [bind, Except.bind, isDirectoryAt, hdirectory] at h

end FileTree

/-! ## Writing a companion once more -/

/-- What becomes of a companion whose file cannot be made. -/
def failedWrite (a : Artifact) : FileFault → WriteOutcome
  | .unfit fault => .crashed fault.message
  | fault => .refused (.write a.qualifiedName fault.message (some a.sourceType))

@[simp] theorem path?_failedWrite (a : Artifact) (fault : FileFault) :
    (failedWrite a fault).path? = none := by
  cases fault <;> rfl

/-- A companion is written if its directories can be made and its file in them. -/
theorem writeText_eq (t : FileTree) (a : Artifact) (target : Path) (text : String) :
    writeText t a target text = match t.makeDirectories target.parent with
      | (t, .error fault) => (t, failedWrite a fault)
      | (t, .ok ()) => match t.write target text.toUTF8 with
        | .ok t => (t, .written target)
        | .error fault => (t, failedWrite a fault) := by
  unfold writeText
  rcases t.makeDirectories target.parent with ⟨t₁, fault | made⟩
  · cases fault <;> rfl
  · dsimp only
    cases t₁.write target text.toUTF8 with
    | ok t₂ => rfl
    | error fault => cases fault <;> rfl

open FileTree in
/-- A companion meets the same fate once more, and leaves the places of all entries as they are. -/
theorem writeText_again {t t' t'' : FileTree} {a : Artifact} {target : Path} {text : String}
    {outcome : WriteOutcome} (hclimbs : t.Climbs target.parent)
    (h : writeText t a target text = (t', outcome)) (hkinds : t'.KeepsKinds t'') :
    (writeText t'' a target text).2 = outcome ∧
      t''.Rewrites (outcome.path?.toList.map fun _ => t''.destination target)
        (writeText t'' a target text).1 := by
  rw [writeText_eq] at h ⊢
  rcases hmade : t.makeDirectories target.parent with ⟨t₁, fault | done⟩
  · rw [hmade] at h
    obtain ⟨rfl, rfl⟩ := Prod.mk.inj h
    rw [makeDirectories_again hclimbs hmade hkinds, path?_failedWrite]
    exact ⟨rfl, .refl _ _⟩
  · rw [hmade] at h
    dsimp only at h
    have hparent : t₁.LeadsToDirectory target.parent := leadsToDirectory_of_makeAbove hmade
    cases hwrite : t₁.write target text.toUTF8 with
    | ok t₂ =>
      -- no directory is left to make, so only the file is written over
      rw [hwrite] at h
      obtain ⟨rfl, rfl⟩ := Prod.mk.inj h
      obtain ⟨again, hagain, hrewrites⟩ := write_again hwrite hkinds
      rw [makeDirectories_again hclimbs hmade ((write_keepsKinds hwrite).trans hkinds)]
      dsimp only
      rw [hagain]
      exact ⟨rfl, hrewrites⟩
    | error fault =>
      rw [hwrite] at h
      obtain ⟨rfl, rfl⟩ := Prod.mk.inj h
      rw [makeDirectories_again hclimbs hmade hkinds]
      dsimp only
      rw [write_error_again hparent hwrite hkinds, path?_failedWrite]
      exact ⟨rfl, .refl _ _⟩

end Roster
