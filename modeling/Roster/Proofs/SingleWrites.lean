import Mathlib.Data.List.Basic
import Roster.Proofs.MakingBelow

/-! # Writing a companion touches one file

Directories are made on the way to the file of a companion, and then the file is written. Whether this
succeeds can be told beforehand, and whatever comes of it, no other file is touched: a failure leaves
at most some of those directories behind.

* `Followable`: only a missing directory can keep a path from leading somewhere.
* `Makeable.makeAbove`: a directory that can be made is made, with all that are missing above it.
* `writeText_isSome_iff`: a text is written exactly when its file is `Writable`.
* `KeptOrMade`: what a place holds once directories were made; `WroteOnly` and `OnlyMade` say it of
  all places.
* `companion_touches_one_file`: all of this for a companion in any layout.
-/

namespace Roster
namespace FileTree

/-! ## What a path needs -/

/-- Only a missing directory can keep a path from leading somewhere: its names fit and are short enough,
and so is the path, and no file is on the way to its last name. -/
structure Followable (t : FileTree) (p : Path) : Prop where
  fits : ∀ part ∈ p.parts, Path.isUnfit part = false
  short : p.text.utf8ByteSize ≤ 4095
  names : ∀ part ∈ p.parts, part.utf8ByteSize ≤ 255
  way : ∀ place content, t.OnWay p.parent place → t.get? place ≠ some (.file content)

/-- A directory is there, or can be made as soon as those above it are there. -/
structure Makeable (t : FileTree) (p : Path) : Prop extends Followable t p where
  free : ∀ content, t.get? (t.destination p) ≠ some (.file content)

/-- A file can be written: there is no directory at its place, and none has to be made there on the
way. -/
structure Writable (t : FileTree) (p : Path) : Prop extends Followable t p where
  notDirectory : t.get? (t.destination p) ≠ some .directory
  notOnWay : ¬ t.OnWay p.parent (t.destination p)

variable {t t' : FileTree} {p q : Path} {place : Place} {fault : FileFault} {depth : Nat}

theorem fits_iff {parts : List String} :
    parts.any Path.isUnfit = false ↔ ∀ part ∈ parts, Path.isUnfit part = false := by
  simp

theorem onWay_self (t : FileTree) (p : Path) : t.OnWay p (t.destination p) :=
  ⟨p.parts, List.prefix_refl _, rfl⟩

theorem OnWay.of_parent (h : t.OnWay p.parent place) : t.OnWay p place := by
  obtain ⟨above, habove, hplace⟩ := h
  exact ⟨above, habove.trans (List.dropLast_prefix _), hplace⟩

/-- Names cannot be followed where a directory is missing, where a file is on the way to the last one,
or where one is too long. -/
theorem descend_error_cases {parts : List String} {start : Place} {cause : SystemCause}
    (h : t.descend start parts = .error cause) :
    cause = .missing ∨
      (∃ above content, above <+: parts.dropLast ∧
        t.get? (Path.normalise start above) = some (.file content)) ∨
      ∃ part ∈ parts, 255 < part.utf8ByteSize := by
  induction parts generalizing start with
  | nil => contradiction
  | cons part rest ih =>
    -- what goes wrong further down goes wrong on this path
    have hnext : t.descend (Path.normalise start [part]) rest = .error cause →
        cause = .missing ∨
          (∃ above content, above <+: (part :: rest).dropLast ∧
            t.get? (Path.normalise start above) = some (.file content)) ∨
          ∃ other ∈ part :: rest, 255 < other.utf8ByteSize := by
      intro hrest
      have hne : rest ≠ [] := by
        rintro rfl
        contradiction
      rcases ih hrest with hmissing | ⟨above, content, habove, hfile⟩ | ⟨other, hother, hlong⟩
      · exact .inl hmissing
      · refine .inr (.inl ⟨part :: above, content, ?_, hfile⟩)
        rw [List.dropLast_cons_of_ne_nil hne]
        exact List.cons_prefix_cons.mpr ⟨rfl, habove⟩
      · exact .inr (.inr ⟨other, List.mem_cons_of_mem _ hother, hlong⟩)
    rw [descend] at h
    split at h
    · exact .inl (Except.error.inj h).symm
    · rename_i content hfile
      exact .inr (.inl ⟨[], content, List.nil_prefix, hfile⟩)
    · split at h
      · rename_i hup
        exact hnext (by simpa [Path.normalise, hup] using h)
      · rename_i hup
        split at h
        · rename_i hlong
          exact .inr (.inr ⟨part, List.mem_cons_self, hlong⟩)
        · exact hnext (by simpa [Path.normalise, hup] using h)

/-- Names that can be followed are short enough. -/
theorem size_le_of_descend {parts : List String} {start : Place}
    (h : t.descend start parts = .ok place) : ∀ part ∈ parts, part.utf8ByteSize ≤ 255 := by
  induction parts generalizing start with
  | nil => simp
  | cons part rest ih =>
    rw [descend] at h
    split at h
    · contradiction
    · contradiction
    · rw [List.forall_mem_cons]
      split at h
      · rename_i hup
        exact ⟨by rw [hup]; decide, ih h⟩
      · split at h
        · contradiction
        · rename_i hshort
          exact ⟨Nat.not_lt.mp hshort, ih h⟩

/-- All places on the way to a directory are directories. -/
theorem LeadsToDirectory.of_onWay (h : t.LeadsToDirectory p) (hway : t.OnWay p place) :
    t.get? place = some .directory := by
  obtain ⟨last, hlast, hdirectory⟩ := h
  obtain ⟨above, ⟨names, hparts⟩, rfl⟩ := hway
  by_cases hne : names = []
  · rw [hne, List.append_nil] at hparts
    rw [hparts, ← placeOf_eq hlast]
    exact hdirectory
  · have hdescend := ((placeOf_eq_ok_iff ..).mp hlast).2.2
    rw [← hparts] at hdescend
    obtain ⟨middle, hmiddle, hthere, -⟩ := descend_append_eq_ok hne hdescend
    obtain rfl : middle = t.destination ⟨p.root, above⟩ := descend_eq hmiddle
    exact hthere

/-! ## Following a path that can be followed -/

/-- What is above such a path can be made. -/
theorem Followable.parent (h : t.Followable p) : t.Makeable p.parent where
  fits part hpart := h.fits part (List.dropLast_subset _ hpart)
  short := Nat.le_trans (Path.size_text_parent_le p) (Nat.max_le.mpr ⟨by decide, h.short⟩)
  names part hpart := h.names part (List.dropLast_subset _ hpart)
  way place content hway := h.way place content hway.of_parent
  free content := h.way _ content (onWay_self t p.parent)

/-- Only a missing directory keeps such a path from leading somewhere. -/
theorem Followable.isMissing (h : t.Followable p) (herror : t.placeOf p = .error fault) :
    IsMissing fault := by
  unfold placeOf at herror
  rw [fits_iff.mpr h.fits, if_neg Bool.false_ne_true, if_neg (Nat.not_lt.mpr h.short)] at herror
  cases hdescend : t.descend (t.startOf p) p.parts with
  | ok place =>
    rw [hdescend] at herror
    contradiction
  | error cause =>
    rw [hdescend] at herror
    obtain rfl := Except.error.inj herror
    rcases descend_error_cases hdescend with rfl | ⟨above, content, habove, hfile⟩ | ⟨part, hpart, hlong⟩
    · exact ⟨_, rfl⟩
    · exact absurd hfile (h.way _ content ⟨above, habove, rfl⟩)
    · exact absurd (h.names part hpart) (Nat.not_le.mpr hlong)

theorem Followable.placeOf (h : t.Followable p) (hparent : t.LeadsToDirectory p.parent) :
    t.placeOf p = .ok (t.destination p) := by
  cases hplace : t.placeOf p with
  | error fault => exact absurd (h.isMissing hplace) (hparent.not_isMissing hplace)
  | ok place => rw [placeOf_eq hplace]

/-- Making such a directory succeeds, or lacks one above. -/
theorem Makeable.isMissing_making (h : t.Makeable p)
    (herror : t.makeDirectoryIfNew p = .error fault) : IsMissing fault := by
  rw [makeDirectoryIfNew_eq] at herror
  split at herror
  · rename_i hplace
    obtain rfl := Except.error.inj herror
    exact h.isMissing hplace
  · rename_i place hplace
    obtain rfl := placeOf_eq hplace
    split at herror
    · contradiction
    · contradiction
    · rename_i content hfile
      exact absurd hfile (h.free content)

/-! ## Making directories touches no file -/

/-- What a place holds once directories on the way to a path were made: what it held before, or one
of them. -/
def KeptOrMade (t t' : FileTree) (p : Path) (place : Place) : Prop :=
  t'.get? place = t.get? place ∨
    t.get? place = none ∧ t'.get? place = some .directory ∧ t.OnWay p place

theorem KeptOrMade.file_iff (h : KeptOrMade t t' p place) (content : ByteArray) :
    t'.get? place = some (.file content) ↔ t.get? place = some (.file content) := by
  rcases h with hkept | ⟨hnew, hmade, -⟩
  · rw [hkept]
  · simp [hnew, hmade]

theorem keptOrMade_makeAbove (t : FileTree) (p : Path) (depth : Nat) (place : Place) :
    KeptOrMade t (t.makeAbove p depth).1 p place := by
  cases hold : t.get? place with
  | some e =>
    refine .inl ?_
    rw [hold]
    exact (makeAbove_extends t p depth).entry place e hold
  | none =>
    cases hnew : (t.makeAbove p depth).1.get? place with
    | none => exact .inl (hnew.trans hold.symm)
    | some e =>
      rcases get?_makeAbove hnew with hsame | ⟨rfl, hway⟩
      · rw [hold] at hsame
        contradiction
      · exact .inr ⟨hold, hnew, hway⟩

theorem destination_makeAbove (t : FileTree) (p : Path) (depth : Nat) (q : Path) :
    (t.makeAbove p depth).1.destination q = t.destination q :=
  (makeAbove_extends t p depth).grows.destination q

/-- A path that can be followed can be followed when directories were made, on any way. -/
theorem Followable.of_makeAbove (h : t.Followable p) (q : Path) (depth : Nat) :
    (t.makeAbove q depth).1.Followable p where
  fits := h.fits
  short := h.short
  names := h.names
  way := by
    rintro place content ⟨above, habove, rfl⟩ hfile
    rw [destination_makeAbove, (keptOrMade_makeAbove t q depth _).file_iff] at hfile
    exact h.way _ content ⟨above, habove, rfl⟩ hfile

theorem Makeable.of_makeAbove (h : t.Makeable p) (q : Path) (depth : Nat) :
    (t.makeAbove q depth).1.Makeable p where
  toFollowable := h.toFollowable.of_makeAbove q depth
  free content hfile := by
    rw [destination_makeAbove, (keptOrMade_makeAbove t q depth _).file_iff] at hfile
    exact h.free content hfile

/-- A directory that can be made is made, after all that are missing above it. -/
theorem Makeable.makeAbove (h : t.Makeable p) (hdepth : p.parts.length ≤ depth) :
    ∃ t', t.makeAbove p depth = (t', .ok ()) := by
  induction depth generalizing p with
  | zero =>
    cases hmade : t.makeDirectoryIfNew p with
    | ok t' => exact ⟨t', makeAbove_of_ok hmade 0⟩
    | error fault =>
      -- a path without names leads to where paths start, and lacks nothing
      obtain ⟨path, rfl⟩ := h.isMissing_making hmade
      exact absurd (List.length_eq_zero_iff.mp (Nat.le_zero.mp hdepth))
        (parts_ne_nil_of_missing hmade)
  | succ depth ih =>
    cases hmade : t.makeDirectoryIfNew p with
    | ok t' => exact ⟨t', makeAbove_of_ok hmade _⟩
    | error fault =>
      obtain ⟨path, rfl⟩ := h.isMissing_making hmade
      have hlength : p.parent.parts.length ≤ depth := by
        rw [Path.parent, List.length_dropLast]
        omega
      obtain ⟨t₁, habove⟩ := ih h.toFollowable.parent hlength
      -- now that the one above is there, making this one lacks nothing
      have hstill := h.of_makeAbove p.parent depth
      rw [habove] at hstill
      rw [makeAbove_of_missing hmade habove]
      cases hlast : t₁.makeDirectoryIfNew p with
      | ok t₂ => exact ⟨t₂, rfl⟩
      | error fault =>
        exact absurd (hstill.isMissing_making hlast)
          ((leadsToDirectory_of_makeAbove habove).not_isMissing_making hlast)

/-! ## Writing -/

/-- Directories on the way to a path are all that is new. -/
structure OnlyMade (t t' : FileTree) (p : Path) : Prop where
  current : t'.current = t.current
  home : t'.home = t.home
  limits : t'.limits = t.limits
  keeps : ∀ place, KeptOrMade t t' p place

/-- A file was written, with all directories above it; nothing else is touched. -/
structure WroteOnly (t t' : FileTree) (p : Path) (content : ByteArray) : Prop where
  current : t'.current = t.current
  home : t'.home = t.home
  limits : t'.limits = t.limits
  readable : t'.read p = .ok content
  above : ∀ place, t.OnWay p.parent place → t'.get? place = some .directory
  keeps : ∀ place, place ≠ t.destination p → KeptOrMade t t' p.parent place

theorem OnlyMade.refl (t : FileTree) (p : Path) : OnlyMade t t p := ⟨rfl, rfl, rfl, fun _ => .inl rfl⟩

theorem onlyMade_makeDirectories (t : FileTree) (p : Path) :
    OnlyMade t (t.makeDirectories p).1 p where
  current := (t.makeDirectories_extends p).current
  home := (machine_makeAbove t p _).1
  limits := (machine_makeAbove t p _).2
  keeps := keptOrMade_makeAbove t p _

/-- Once directories were made, all places on the way are directories. -/
theorem get?_onWay_of_made {t₁ : FileTree} (hmade : t.makeDirectories p = (t₁, .ok ()))
    (hway : t.OnWay p place) : t₁.get? place = some .directory := by
  have hextends := t.makeDirectories_extends p
  rw [hmade] at hextends
  obtain ⟨above, habove, rfl⟩ := hway
  refine (leadsToDirectory_of_makeAbove hmade).of_onWay ⟨above, habove, ?_⟩
  rw [hextends.grows.destination]

theorem machine_write {content : ByteArray} (h : t.write p content = .ok t') :
    t'.home = t.home ∧ t'.limits = t.limits := by
  obtain ⟨-, -, rfl⟩ := (write_eq_ok_iff ..).mp h
  exact ⟨rfl, rfl⟩

/-- A file that is written once its directories are made is all that changes beside them. -/
theorem wroteOnly_write {t₁ t₂ : FileTree} {content : ByteArray}
    (hmade : t.makeDirectories p.parent = (t₁, .ok ())) (h : t₁.write p content = .ok t₂) :
    WroteOnly t t₂ p content := by
  have honly := onlyMade_makeDirectories t p.parent
  have hdestination := (t.makeDirectories_extends p.parent).grows.destination p
  rw [hmade] at honly hdestination
  have hget := get?_write h
  have hgrows := write_grows h
  have hmachine := machine_write h
  refine ⟨hgrows.current.trans honly.current, hmachine.1.trans honly.home,
    hmachine.2.trans honly.limits, ?_, ?_, ?_⟩
  · have hplace := hgrows.placeOf ((write_eq_ok_iff ..).mp h).1
    rw [← hgrows.destination p] at hplace
    refine read_of_get? hplace ?_
    rw [hget, hgrows.destination p, if_pos rfl]
  · intro place hway
    exact hgrows.directory place (get?_onWay_of_made hmade hway)
  · intro place hne
    have hkept := honly.keeps place
    rw [← hdestination] at hne
    rw [KeptOrMade, hget, if_neg hne]
    exact hkept

/-- The file of a writable path is written once its directories are made. -/
theorem Writable.write (h : t.Writable p) (content : ByteArray) :
    ∃ t₁ t₂, t.makeDirectories p.parent = (t₁, .ok ()) ∧ t₁.write p content = .ok t₂ := by
  obtain ⟨t₁, hmade⟩ := h.toFollowable.parent.makeAbove (Nat.le_refl _)
  have hfollow := h.toFollowable.of_makeAbove p.parent p.parent.parts.length
  have hdestination := destination_makeAbove t p.parent p.parent.parts.length p
  have hkept := keptOrMade_makeAbove t p.parent p.parent.parts.length (t.destination p)
  rw [hmade] at hfollow hdestination hkept
  have hplace := hfollow.placeOf (leadsToDirectory_of_makeAbove hmade)
  refine ⟨t₁, _, hmade, (write_eq_ok_iff ..).mpr ⟨hplace, ?_, rfl⟩⟩
  rw [hdestination]
  rcases hkept with hsame | ⟨-, -, hway⟩
  · rw [hsame]
    exact h.notDirectory
  · exact absurd hway h.notOnWay

/-- A file is written in directories that were made only if it was writable. -/
theorem writable_of_write {t₁ t₂ : FileTree} {content : ByteArray}
    (hmade : t.makeDirectories p.parent = (t₁, .ok ())) (h : t₁.write p content = .ok t₂) :
    t.Writable p := by
  have hextends := t.makeDirectories_extends p.parent
  rw [hmade] at hextends
  obtain ⟨hplace, hfile, -⟩ := (write_eq_ok_iff ..).mp h
  obtain ⟨hfits, hshort, hdescend⟩ := (placeOf_eq_ok_iff ..).mp hplace
  rw [hextends.grows.destination] at hfile
  refine ⟨⟨fits_iff.mp hfits, hshort, size_le_of_descend hdescend, ?_⟩, ?_, ?_⟩
  · -- what is on the way is a directory by now, and a file would have stayed one
    intro place content' hway hold
    have hthere := get?_onWay_of_made hmade hway
    rw [hextends.entry place _ hold] at hthere
    simp at hthere
  · intro hold
    exact hfile (hextends.entry _ _ hold)
  · intro hway
    exact hfile (get?_onWay_of_made hmade hway)

end FileTree

/-! ## Companions -/

section Companions

variable {t : FileTree} {a : Artifact} {target : Path} {text : String}

open FileTree

theorem writeText_of_write {t₁ t₂ : FileTree}
    (hmade : t.makeDirectories target.parent = (t₁, .ok ()))
    (hwrite : t₁.write target text.toUTF8 = .ok t₂) :
    writeText t a target text = (t₂, .written target) := by
  rw [writeText_eq, hmade]
  dsimp only
  rw [hwrite]

/-- A text is written in directories that were made, or they are all that was made. -/
theorem writeText_ends (t : FileTree) (a : Artifact) (target : Path) (text : String) :
    (∃ t₁ t₂, t.makeDirectories target.parent = (t₁, .ok ()) ∧
      t₁.write target text.toUTF8 = .ok t₂ ∧
      writeText t a target text = (t₂, .written target)) ∨
    ∃ fault, writeText t a target text
      = ((t.makeDirectories target.parent).1, failedWrite a fault) := by
  rcases hmade : t.makeDirectories target.parent with ⟨t₁, fault | done⟩
  · exact .inr ⟨fault, by rw [writeText_eq, hmade]⟩
  · cases hwrite : t₁.write target text.toUTF8 with
    | ok t₂ => exact .inl ⟨t₁, t₂, rfl, hwrite, writeText_of_write hmade hwrite⟩
    | error fault =>
      refine .inr ⟨fault, ?_⟩
      rw [writeText_eq, hmade]
      dsimp only
      rw [hwrite]

theorem writeText_isSome_iff :
    (writeText t a target text).2.path?.isSome = true ↔ t.Writable target := by
  constructor
  · intro hwritten
    rcases writeText_ends t a target text with ⟨t₁, t₂, hmade, hwrite, -⟩ | ⟨fault, hends⟩
    · exact writable_of_write hmade hwrite
    · simp [hends] at hwritten
  · intro h
    obtain ⟨t₁, t₂, hmade, hwrite⟩ := h.write text.toUTF8
    rw [writeText_of_write hmade hwrite]
    rfl

/-- A text that is written is all that changes, beside the directories above it. -/
theorem writeText_of_some {path : Path} (h : (writeText t a target text).2.path? = some path) :
    path = target ∧ WroteOnly t (writeText t a target text).1 target text.toUTF8 := by
  rcases writeText_ends t a target text with ⟨t₁, t₂, hmade, hwrite, hends⟩ | ⟨fault, hends⟩
  · rw [hends] at h ⊢
    exact ⟨(Option.some.inj h).symm, wroteOnly_write hmade hwrite⟩
  · simp [hends] at h

/-- A text that is not written leaves at most directories behind. -/
theorem writeText_of_none (h : (writeText t a target text).2.path? = none) :
    OnlyMade t (writeText t a target text).1 target.parent := by
  rcases writeText_ends t a target text with ⟨t₁, t₂, -, -, hends⟩ | ⟨fault, hends⟩
  · rw [hends] at h
    contradiction
  · rw [hends]
    exact onlyMade_makeDirectories t target.parent

/-- Whatever comes of a text, nothing beside its file and the directories above it is touched. -/
theorem keptOrMade_writeText {place : Place} (hne : place ≠ t.destination target) :
    KeptOrMade t (writeText t a target text).1 target.parent place := by
  cases hpath : (writeText t a target text).2.path? with
  | none => exact (writeText_of_none hpath).keeps place
  | some path => exact (writeText_of_some hpath).2.keeps place hne

end Companions

/-! ### Texts that cannot be encoded -/

section Encoding

variable {t : FileTree} {a : Artifact} {target : Path} {text : String}

open FileTree

theorem writeEncoded_isSome_iff :
    (writeEncoded t a target text).2.path?.isSome = true ↔
      Text.fileFault? text = none ∧ t.Writable target := by
  cases hfault : Text.fileFault? text with
  | none => rw [writeEncoded_of_none hfault, writeText_isSome_iff, eq_self, true_and]
  | some fault => simp [writeEncoded_of_some hfault]

/-- A text that is written is one that can be encoded. -/
theorem writeEncoded_of_path {path : Path} (h : (writeEncoded t a target text).2.path? = some path) :
    path = target ∧ WroteOnly t (writeEncoded t a target text).1 target text.toUTF8 := by
  have hencodes := (writeEncoded_isSome_iff.mp (Option.isSome_of_eq_some h)).1
  rw [writeEncoded_of_none hencodes] at h ⊢
  exact writeText_of_some h

/-- Nothing is written where the file cannot be written, whatever the text. -/
theorem writeEncoded_of_not_writable (h : ¬ t.Writable target) :
    (writeEncoded t a target text).2.path? = none ∧
      OnlyMade t (writeEncoded t a target text).1 target.parent := by
  have hnone : ∀ other : String, (writeText t a target other).2.path? = none := by
    intro other
    have hwritten : (writeText t a target other).2.path?.isSome = true ↔ t.Writable target :=
      writeText_isSome_iff
    rw [← Option.not_isSome_iff_eq_none, hwritten]
    exact h
  cases hfault : Text.fileFault? text with
  | none =>
    rw [writeEncoded_of_none hfault]
    exact ⟨hnone text, writeText_of_none (hnone text)⟩
  | some fault =>
    rw [writeEncoded_of_some hfault]
    exact ⟨path?_spoiledBy .., writeText_of_none (hnone "")⟩

/-- A text that cannot be encoded leaves an empty file. -/
theorem writeEncoded_of_fault {fault : Text.EncodeFault} (hfault : Text.fileFault? text = some fault)
    (h : t.Writable target) :
    (writeEncoded t a target text).2 = .crashed fault.message ∧
      WroteOnly t (writeEncoded t a target text).1 target .empty := by
  obtain ⟨t₁, t₂, hmade, hwrite⟩ := h.write "".toUTF8
  rw [writeEncoded_of_some hfault, writeText_of_write hmade hwrite]
  exact ⟨rfl, wroteOnly_write hmade hwrite⟩

theorem keptOrMade_writeEncoded {place : Place} (hne : place ≠ t.destination target) :
    KeptOrMade t (writeEncoded t a target text).1 target.parent place := by
  cases hfault : Text.fileFault? text with
  | none =>
    rw [writeEncoded_of_none hfault]
    exact keptOrMade_writeText hne
  | some fault =>
    rw [writeEncoded_of_some hfault]
    exact keptOrMade_writeText hne

end Encoding

open FileTree in
/-- A companion is written exactly when its layout can be filled, the text can be encoded and the file
can be written. It is then at its own path below the output directory, in directories that are all there,
and reads as it was laid out. If the file cannot be written, no file is touched, and the tree stays the
same if the layout cannot be filled. If only the text cannot be encoded, the file is there and empty,
whatever it held. No other file is touched in any case: all that is new beside it are directories above
it. -/
theorem companion_touches_one_file (layout : Layout) (language : Language) (t : FileTree) (a : Artifact)
    (output : Path) :
    let target := output / relativePath language a
    let after := (writeLaidOut layout language t a output).1
    let outcome := (writeLaidOut layout language t a output).2
    (outcome.path?.isSome = true ↔
      (∃ text, layout.render language a = .ok text ∧ Text.fileFault? text = none) ∧
        t.Writable target) ∧
    (∀ path, outcome.path? = some path → path = target ∧
      ∃ text, layout.render language a = .ok text ∧ WroteOnly t after target text.toUTF8) ∧
    (∀ text fault, layout.render language a = .ok text → Text.fileFault? text = some fault →
      t.Writable target → outcome = .crashed fault.message ∧ WroteOnly t after target .empty) ∧
    (¬ t.Writable target → outcome.path? = none ∧ OnlyMade t after target.parent ∧
      ∀ place content,
        after.get? place = some (.file content) ↔ t.get? place = some (.file content)) ∧
    (∀ fault, layout.render language a = .error fault → outcome.path? = none ∧ after = t) ∧
    ∀ place, place ≠ t.destination target → ∀ content,
      after.get? place = some (.file content) ↔ t.get? place = some (.file content) := by
  intro target after outcome
  cases hrender : layout.render language a with
  | error fault =>
    have hwrite : writeLaidOut layout language t a output = (t, .crashed fault.message) := by
      rw [writeLaidOut, hrender]
    have hafter : after = t := congrArg Prod.fst hwrite
    have houtcome : outcome = .crashed fault.message := congrArg Prod.snd hwrite
    rw [hafter, houtcome]
    have hnone : (WriteOutcome.crashed fault.message).path? = none := rfl
    refine ⟨by simp [hnone], by simp [hnone], by simp, fun _ => ⟨hnone, .refl t _, fun _ _ => Iff.rfl⟩,
      fun _ _ => ⟨hnone, rfl⟩, fun _ _ _ => Iff.rfl⟩
  | ok text =>
    have hwrite : writeLaidOut layout language t a output = writeEncoded t a target text := by
      rw [writeLaidOut, hrender]
    have hafter : after = (writeEncoded t a target text).1 := congrArg Prod.fst hwrite
    have houtcome : outcome = (writeEncoded t a target text).2 := congrArg Prod.snd hwrite
    rw [hafter, houtcome]
    refine ⟨by simpa using writeEncoded_isSome_iff, ?_, ?_, ?_, by simp, ?_⟩
    · intro path hsome
      obtain ⟨rfl, honly⟩ := writeEncoded_of_path hsome
      exact ⟨rfl, text, rfl, honly⟩
    · intro other fault hother hfault hwritable
      obtain rfl := Except.ok.inj hother
      exact writeEncoded_of_fault hfault hwritable
    · intro hwritable
      obtain ⟨hnone, honly⟩ := @writeEncoded_of_not_writable t a target text hwritable
      exact ⟨hnone, honly, fun place content => (honly.keeps place).file_iff content⟩
    · intro place hne content
      exact (keptOrMade_writeEncoded hne).file_iff content

/-- An output directory with an old file in one package, and a file where another package would be. -/
def halfFull : FileTree :=
  ⟨[(["out"], .directory), (["out", "p"], .directory), (["out", "p", "old.py"], .file "old".toUTF8),
    (["out", "q"], .file "q".toUTF8)], ["out"], [], .ample⟩

/-- The companion of a type without fields in a package. -/
def inPackage (package : String) : Artifact :=
  Artifact.build ⟨package ++ ".X", "X", package, [], none, classKind, none⟩ FieldNames.empty false

/-- A layout that spells the full name of a companion. -/
def bareLayout : Layout := .custom [.value "package", .plain ".", .value "name"]

open FileTree in
/-- One companion goes into a directory that has to be made, beside an old file; another one has a file
in its way, and a third one has a layout that cannot be filled. -/
theorem halfFull_written :
    let out := Path.parse "/out"
    let write := fun (layout : Layout) (package : String) =>
      writeLaidOut layout .python halfFull (inPackage package) out
    ((write bareLayout "p.r").2.path? = some (Path.parse "/out/p/r/X_Fielder.py") ∧
      (write bareLayout "p.r").1.get? ["out", "p", "r", "X_Fielder.py"]
        = some (.file "p.r.X_Fielder".toUTF8) ∧
      (write bareLayout "p.r").1.get? ["out", "p", "old.py"] = some (.file "old".toUTF8)) ∧
    ((write bareLayout "q.r").2.path? = none ∧
      (write bareLayout "q.r").1.get? ["out", "q"] = some (.file "q".toUTF8)) ∧
    (write (.custom [.value "colour"]) "p.r").1 = halfFull := by
  intro out write
  obtain ⟨-, -, -, -, -, hothers⟩ :=
    companion_touches_one_file bareLayout .python halfFull (inPackage "p.r") out
  obtain ⟨-, -, -, -, -, hbeside⟩ :=
    companion_touches_one_file bareLayout .python halfFull (inPackage "q.r") out
  obtain ⟨-, -, -, -, hunfilled, -⟩ :=
    companion_touches_one_file (.custom [.value "colour"]) .python halfFull (inPackage "p.r") out
  refine ⟨⟨by decide +kernel, by decide +kernel, ?_⟩, ⟨by decide +kernel, ?_⟩,
    (hunfilled (.unknownValue "colour") rfl).2⟩
  · exact (hothers ["out", "p", "old.py"] (by decide +kernel) _).mpr rfl
  · exact (hbeside ["out", "q"] (by decide +kernel) _).mpr rfl

/-- The companion with the old file, of a type that is named after one half of a surrogate pair. -/
def halfNamed : Artifact :=
  ⟨"p", "old", FieldNames.empty, false, String.singleton (Text.ofCodePoint 0xD800)⟩

open FileTree in
/-- The name of that type cannot be encoded. The companion is not written, and the old file is empty
now. -/
theorem halfFull_spoiled :
    let written :=
      writeLaidOut (.custom [.value "source"]) .python halfFull halfNamed (Path.parse "/out")
    written.2.path? = none ∧
      halfFull.get? ["out", "p", "old.py"] = some (.file "old".toUTF8) ∧
      written.1.get? ["out", "p", "old.py"] = some (.file .empty) := by
  intro written
  have hfault : Text.fileFault? halfNamed.sourceType = some ⟨0xD800, 0, 1⟩ := by decide +kernel
  have hwritten : written = writeEncoded halfFull halfNamed (Path.parse "/out/p/old.py")
      halfNamed.sourceType := by
    rfl
  rw [hwritten, writeEncoded_of_some hfault]
  exact ⟨by simp, rfl, by decide +kernel⟩

end Roster
