import Mathlib.Data.List.Basic
import Mathlib.Data.List.Induction
import Roster.Proofs.RepeatedMaking

/-! # Making directories below others

Making a directory succeeds, lacks a directory above it, or fails at once; and what fails at once
fails for everything below. Whatever comes of it, what is new are directories on the way.

* `LeadsNowhere.above`: above a missing directory, nothing fails at once.
* `isBlocked_of_makeAbove`: making directories fails at once if it leaves nothing behind.
* `makeAbove_induction`: what holds after each single directory holds after all of them.
* `get?_makeAbove`: what is new after a directory was made.
* `Sound.makeAbove`, `Sound.write`: a sound tree stays sound.
-/

namespace Roster

/-! ## Longer paths -/

theorem intercalate_prefix_append (sep : List Char) (xs ys : List (List Char)) :
    List.intercalate sep xs <+: List.intercalate sep (xs ++ ys) := by
  induction xs with
  | nil => exact List.nil_prefix
  | cons x xs ih =>
    cases xs with
    | nil =>
      cases ys with
      | nil => exact List.prefix_refl _
      | cons y ys => simp [List.intercalate]
    | cons x' xs => simpa [List.intercalate, List.prefix_append_right_inj] using ih

namespace Path

/-- The path to names below another. -/
def below (p : Path) (names : List String) : Path := ⟨p.root, p.parts ++ names⟩

@[simp] theorem below_nil (p : Path) : p.below [] = p := by
  simp [below]

theorem below_below (p : Path) (xs ys : List String) : (p.below xs).below ys = p.below (xs ++ ys) := by
  simp [below]

theorem parent_below (p : Path) (names : List String) (name : String) :
    (p.below (names ++ [name])).parent = p.below names := by
  simp [below, parent, ← List.append_assoc]

theorem parent_below_of_ne_nil (p : Path) {names : List String} (hne : names ≠ []) :
    (p.below names).parent = p.below names.dropLast := by
  rw [parent, below, below, List.dropLast_append_of_ne_nil hne]

theorem size_intercalate_le (xs ys : List String) :
    (String.intercalate "/" xs).utf8ByteSize ≤ (String.intercalate "/" (xs ++ ys)).utf8ByteSize := by
  have hstart := intercalate_prefix_append "/".toList (xs.map String.toList) (ys.map String.toList)
  rw [← List.map_append, ← String.toList_intercalate, ← String.toList_intercalate] at hstart
  obtain ⟨rest, hrest⟩ := hstart
  have htext : String.intercalate "/" (xs ++ ys)
      = String.intercalate "/" xs ++ String.ofList rest := by
    apply String.toList_injective
    rw [String.toList_append, String.toList_ofList, hrest]
  rw [htext, String.utf8ByteSize_append]
  omega

/-- A path is as long as another that it leads through, or longer. -/
theorem size_text_le_below {p : Path} (h : p.isAbsolute = true) (names : List String) :
    p.text.utf8ByteSize ≤ (p.below names).text.utf8ByteSize := by
  have hroot : p.root ≠ .relative := by simpa [isAbsolute] using h
  have hnames := size_intercalate_le p.parts names
  simp only [text, below, hroot, decide_false, Bool.false_and, Bool.false_eq_true, if_false,
    String.utf8ByteSize_append]
  omega

/-- A path with one name less is no longer, unless it is a single dot. -/
theorem size_text_parent_le (p : Path) :
    p.parent.text.utf8ByteSize ≤ max 1 p.text.utf8ByteSize := by
  have hnames := size_intercalate_le p.parts.dropLast (p.parts.drop (p.parts.length - 1))
  rw [List.dropLast_eq_take, List.take_append_drop, ← List.dropLast_eq_take] at hnames
  unfold text
  by_cases hdot : (decide (p.root = .relative) && p.parts.dropLast.isEmpty) = true
  · have hsize : (".").utf8ByteSize = 1 := by decide
    rw [parent, if_pos hdot, hsize]
    exact Nat.le_max_left ..
  · have hlong : ¬ (decide (p.root = .relative) && p.parts.isEmpty) = true := by
      intro hempty
      rw [Bool.and_eq_true, List.isEmpty_iff] at hempty
      simp [hempty] at hdot
    rw [parent, if_neg hdot, if_neg hlong, String.utf8ByteSize_append, String.utf8ByteSize_append]
    exact Nat.le_trans (Nat.add_le_add_left hnames _) (Nat.le_max_right ..)

end Path

namespace FileTree

variable {t t' : FileTree} {p : Path} {place : Place} {names : List String} {name : String}

/-! ## Paths that lead nowhere -/

/-- Something is missing on the way to what a path names. -/
def LeadsNowhere (t : FileTree) (p : Path) : Prop :=
  ∃ path, t.placeOf p = .error (.system .missing path)

/-- Making a directory fails at once, for another reason than a missing directory above. -/
def IsBlocked (t : FileTree) (p : Path) : Prop :=
  ∃ fault, t.makeDirectoryIfNew p = .error fault ∧ ¬ IsMissing fault

theorem leadsNowhere_iff (t : FileTree) (p : Path) :
    t.LeadsNowhere p ↔ p.parts.any Path.isUnfit = false ∧
      p.text.utf8ByteSize ≤ 4095 ∧ t.descend (t.startOf p) p.parts = .error .missing := by
  unfold LeadsNowhere placeOf
  cases hnul : p.parts.any Path.isUnfit with
  | true => simp
  | false =>
    by_cases hlong : p.text.utf8ByteSize > 4095
    · simp [hlong, Nat.not_le.mpr hlong]
    · cases hdescend : t.descend (t.startOf p) p.parts with
      | ok found => simp [hlong]
      | error cause => simp [hlong, Nat.not_lt.mp hlong]

/-- A directory is missing above one exactly when its path leads nowhere. -/
theorem makeDirectoryIfNew_missing_iff (t : FileTree) (p : Path) :
    (∃ path, t.makeDirectoryIfNew p = .error (.system .missing path)) ↔ t.LeadsNowhere p := by
  rw [makeDirectoryIfNew_eq, LeadsNowhere]
  cases hplace : t.placeOf p with
  | error fault => simp
  | ok place =>
    dsimp only
    split <;> simp

/-- Making a directory succeeds, lacks a directory above, or fails at once. -/
theorem making_cases (t : FileTree) (p : Path) :
    (∃ t', t.makeDirectoryIfNew p = .ok t') ∨ t.LeadsNowhere p ∨ t.IsBlocked p := by
  cases hmade : t.makeDirectoryIfNew p with
  | ok t' => exact .inl ⟨t', rfl⟩
  | error fault =>
    by_cases hmissing : IsMissing fault
    · obtain ⟨path, rfl⟩ := hmissing
      exact .inr (.inl ((makeDirectoryIfNew_missing_iff t p).mp ⟨path, hmade⟩))
    · exact .inr (.inr ⟨fault, hmade, hmissing⟩)

theorem IsBlocked.not_leadsNowhere (h : t.IsBlocked p) : ¬ t.LeadsNowhere p := by
  intro hnowhere
  obtain ⟨path, hmissing⟩ := (makeDirectoryIfNew_missing_iff t p).mpr hnowhere
  obtain ⟨fault, hmade, hfault⟩ := h
  rw [hmissing] at hmade
  exact hfault ⟨path, (Except.error.inj hmade).symm⟩

theorem startOf_below (t : FileTree) (p : Path) (names : List String) :
    t.startOf (p.below names) = t.startOf p := rfl

/-- The places on a path that leads somewhere are directories. -/
theorem descend_append_eq_ok {start : Place} {xs ys : List String} (hne : ys ≠ [])
    (h : t.descend start (xs ++ ys) = .ok place) :
    ∃ middle, t.descend start xs = .ok middle ∧ t.get? middle = some .directory ∧
      t.descend middle ys = .ok place := by
  rw [descend_append] at h
  cases hmiddle : t.descend start xs with
  | error cause =>
    rw [hmiddle] at h
    contradiction
  | ok middle =>
    rw [hmiddle] at h
    change t.descend middle ys = .ok place at h
    refine ⟨middle, rfl, ?_, h⟩
    cases ys with
    | nil => contradiction
    | cons y ys =>
      rw [descend] at h
      split at h
      · contradiction
      · contradiction
      · assumption

section Absolute

variable (habsolute : p.isAbsolute = true)

include habsolute

/-- A path that leads somewhere leads through directories. -/
theorem leadsToDirectory_of_below (hne : names ≠ []) (h : t.placeOf (p.below names) = .ok place) :
    t.LeadsToDirectory p := by
  obtain ⟨hnul, hshort, hdescend⟩ := (placeOf_eq_ok_iff ..).mp h
  obtain ⟨middle, hmiddle, hdirectory, -⟩ := descend_append_eq_ok hne hdescend
  refine ⟨middle, (placeOf_eq_ok_iff ..).mpr ⟨?_, ?_, hmiddle⟩, hdirectory⟩
  · rw [Path.below, List.any_append, Bool.or_eq_false_iff] at hnul
    exact hnul.1
  · exact Nat.le_trans (Path.size_text_le_below habsolute names) hshort

theorem LeadsToDirectory.of_below (h : t.LeadsToDirectory (p.below names)) :
    t.LeadsToDirectory p := by
  by_cases hne : names = []
  · rwa [hne, Path.below_nil] at h
  · obtain ⟨place, hplace, -⟩ := h
    exact leadsToDirectory_of_below habsolute hne hplace

/-- Above a directory that is missing, each one can be made or is missing itself. -/
theorem LeadsNowhere.above (h : t.LeadsNowhere (p.below names)) : ¬ t.IsBlocked p := by
  obtain ⟨hnul, hshort, hdescend⟩ := (leadsNowhere_iff ..).mp h
  rw [startOf_below, Path.below, descend_append] at hdescend
  have hshort' := Nat.le_trans (Path.size_text_le_below habsolute names) hshort
  rw [Path.below, List.any_append, Bool.or_eq_false_iff] at hnul
  rintro hblocked
  cases hfront : t.descend (t.startOf p) p.parts with
  | error cause =>
    rw [hfront] at hdescend
    obtain rfl : cause = .missing := Except.error.inj hdescend
    exact hblocked.not_leadsNowhere ((leadsNowhere_iff ..).mpr ⟨hnul.1, hshort', hfront⟩)
  | ok place =>
    have hplace := (placeOf_eq_ok_iff ..).mpr ⟨hnul.1, hshort', hfront⟩
    obtain ⟨fault, hmade, -⟩ := hblocked
    rw [makeDirectoryIfNew_eq, hplace] at hmade
    dsimp only at hmade
    split at hmade
    · contradiction
    · contradiction
    · -- a file in the way is another reason
      rename_i content hfile
      rw [hfront] at hdescend
      change t.descend place names = _ at hdescend
      cases names with
      | nil => contradiction
      | cons name names =>
        rw [descend, hfile] at hdescend
        simp at hdescend

/-- Nothing is missing on the way to a directory if the one above it is there or fails at once. -/
theorem not_leadsNowhere_of_parent (hne : p.parts ≠ [])
    (h : t.LeadsToDirectory p.parent ∨ t.IsBlocked p.parent) : ¬ t.LeadsNowhere p := by
  intro hnowhere
  cases h with
  | inl hparent =>
    obtain ⟨path, hplace⟩ := hnowhere
    exact hparent.not_isMissing hplace ⟨path, rfl⟩
  | inr hblocked =>
    have hbelow : p = p.parent.below [p.parts.getLast hne] := by
      simp [Path.below, Path.parent, List.dropLast_append_getLast]
    rw [hbelow] at hnowhere
    exact LeadsNowhere.above (p := p.parent) habsolute hnowhere hblocked

/-- Making directories fails at once if it leaves nothing behind. -/
theorem isBlocked_of_makeAbove {fault : FileFault} {depth : Nat} (hdepth : p.parts.length ≤ depth)
    (h : t.makeAbove p depth = (t, .error fault)) : t.IsBlocked p := by
  induction depth generalizing p fault with
  | zero =>
    rcases making_cases t p with ⟨t', hmade⟩ | hnowhere | hblocked
    · rw [makeAbove_of_ok hmade] at h
      simp at h
    · obtain ⟨path, hmissing⟩ := (makeDirectoryIfNew_missing_iff t p).mpr hnowhere
      exact absurd (List.length_eq_zero_iff.mp (Nat.le_zero.mp hdepth))
        (parts_ne_nil_of_missing hmissing)
    · exact hblocked
  | succ depth ih =>
    rcases making_cases t p with ⟨t', hmade⟩ | hnowhere | hblocked
    · rw [makeAbove_of_ok hmade] at h
      simp at h
    · exfalso
      obtain ⟨path, hmissing⟩ := (makeDirectoryIfNew_missing_iff t p).mpr hnowhere
      have hne := parts_ne_nil_of_missing hmissing
      rcases habove : t.makeAbove p.parent depth with ⟨t₁, fault' | done⟩
      · rw [makeAbove, hmissing] at h
        simp only [habove] at h
        obtain ⟨rfl, -⟩ := Prod.mk.inj h
        have hshorter : p.parent.parts.length ≤ depth := by
          rw [Path.parent, List.length_dropLast]
          omega
        have hblocked := ih (p := p.parent) habsolute hshorter habove
        exact not_leadsNowhere_of_parent habsolute hne (.inr hblocked) hnowhere
      · rw [makeAbove_of_missing hmissing habove] at h
        cases hmade : t₁.makeDirectoryIfNew p with
        | ok t₂ =>
          rw [hmade] at h
          simp at h
        | error fault' =>
          -- the tree is the same as before, so the directory above was there already
          rw [hmade] at h
          obtain ⟨rfl, -⟩ := Prod.mk.inj h
          have hparent := leadsToDirectory_of_makeAbove habove
          exact not_leadsNowhere_of_parent habsolute hne (.inl hparent) hnowhere
    · exact hblocked

end Absolute

/-! ## What is new when directories are made -/

/-- Making one directory puts it at the place that its path spells, unless it is there. -/
theorem makeDirectoryIfNew_cases (h : t.makeDirectoryIfNew p = .ok t') :
    t' = t ∨ t.placeOf p = .ok (t.destination p) ∧ t.get? (t.destination p) = none ∧
      t' = t.put (t.destination p) .directory := by
  rw [makeDirectoryIfNew_eq] at h
  split at h
  · contradiction
  · rename_i place hplace
    obtain rfl := placeOf_eq hplace
    split at h
    · rename_i hnew
      exact .inr ⟨hplace, hnew, (Except.ok.inj h).symm⟩
    · exact .inl (Except.ok.inj h).symm
    · contradiction

/-- What making each single directory on a path keeps, making all of them keeps. -/
theorem makeAbove_induction {motive : FileTree → Prop} (depth : Nat)
    (hstep : ∀ above s s', above <+: p.parts → motive s →
      s.makeDirectoryIfNew ⟨p.root, above⟩ = .ok s' → motive s') (h : motive t) :
    motive (t.makeAbove p depth).1 := by
  induction depth generalizing p with
  | zero =>
    rw [makeAbove]
    split
    · rename_i hmade
      exact hstep p.parts t _ (List.prefix_refl _) h hmade
    · exact h
  | succ depth ih =>
    rw [makeAbove]
    split
    · rename_i hmade
      exact hstep p.parts t _ (List.prefix_refl _) h hmade
    · -- the directories above come first, and are on the path too
      have habove : motive (t.makeAbove p.parent depth).1 :=
        ih fun above s s' hstart => hstep above s s' (hstart.trans (List.dropLast_prefix _))
      rcases hmade : t.makeAbove p.parent depth with ⟨t₁, fault | done⟩
      · rw [hmade] at habove
        exact habove
      · rw [hmade] at habove
        dsimp only
        split
        · rename_i hlast
          exact hstep p.parts t₁ _ (List.prefix_refl _) habove hlast
        · exact habove
    · exact h

/-- A place that a path leads through, or leads to. -/
def OnWay (t : FileTree) (p : Path) (place : Place) : Prop :=
  ∃ above, above <+: p.parts ∧ place = t.destination ⟨p.root, above⟩

/-- What is new after a directory was made are directories on the way to it. -/
theorem get?_makeAbove {depth : Nat} {e : FileEntry}
    (h : (t.makeAbove p depth).1.get? place = some e) :
    t.get? place = some e ∨ e = .directory ∧ t.OnWay p place := by
  have hall : (t.makeAbove p depth).1.current = t.current ∧
      ((t.makeAbove p depth).1.get? place = some e →
        t.get? place = some e ∨ e = .directory ∧ t.OnWay p place) := by
    refine makeAbove_induction (motive := fun s => s.current = t.current ∧
      (s.get? place = some e → t.get? place = some e ∨ e = .directory ∧ t.OnWay p place))
      depth ?_ ⟨rfl, .inl⟩
    rintro above s s' hstart ⟨hcurrent, hold⟩ hmade
    rcases makeDirectoryIfNew_cases hmade with rfl | ⟨-, hnew, rfl⟩
    · exact ⟨hcurrent, hold⟩
    · refine ⟨hcurrent, fun hentry => ?_⟩
      have hne : s.destination ⟨p.root, above⟩ ≠ [] := by
        intro hroot
        rw [hroot] at hnew
        contradiction
      rw [get?_put s _ _ _ hne] at hentry
      split at hentry
      · rename_i hplace
        refine .inr ⟨(Option.some.inj hentry).symm, above, hstart, ?_⟩
        rw [hplace, destination, destination, hcurrent]
      · exact hold hentry
  exact hall.2 h

theorem machine_makeAbove (t : FileTree) (p : Path) (depth : Nat) :
    (t.makeAbove p depth).1.home = t.home ∧ (t.makeAbove p depth).1.limits = t.limits := by
  refine makeAbove_induction (motive := fun s => s.home = t.home ∧ s.limits = t.limits) depth ?_
    ⟨rfl, rfl⟩
  rintro above s s' - hmachine hmade
  rcases makeDirectoryIfNew_cases hmade with rfl | ⟨-, -, rfl⟩
  · exact hmachine
  · exact hmachine

/-! ## Making directories in sound trees -/

/-- What a path leads to lies in a directory, or above one. -/
theorem parent_of_placeOf (hne : p.parts ≠ []) (h : t.placeOf p = .ok place) :
    t.get? (t.destination p.parent) = some .directory ∧
      (p.parts.getLast hne = ".." ∧ place = (t.destination p.parent).dropLast ∨
        p.parts.getLast hne ≠ ".." ∧ (p.parts.getLast hne).utf8ByteSize ≤ 255 ∧
          '\x00' ∉ (p.parts.getLast hne).toList ∧
          place = t.destination p.parent ++ [p.parts.getLast hne]) := by
  obtain ⟨hfit, -, hdescend⟩ := (placeOf_eq_ok_iff ..).mp h
  rw [List.any_eq_false] at hfit
  have hfree : '\x00' ∉ (p.parts.getLast hne).toList := by
    intro hnul
    have hlast := hfit _ (List.getLast_mem hne)
    exact (Path.isUnfit_eq_false_iff.mp (by simpa using hlast) _ hnul).1 rfl
  rw [← List.dropLast_append_getLast hne] at hdescend
  obtain ⟨above, habove, hdirectory, hlast⟩ := descend_append_eq_ok (by simp) hdescend
  obtain rfl : above = t.destination p.parent := descend_eq habove
  refine ⟨hdirectory, ?_⟩
  rw [descend, hdirectory] at hlast
  dsimp only at hlast
  split at hlast
  · rename_i hup
    rw [descend] at hlast
    exact .inl ⟨hup, (Except.ok.inj hlast).symm⟩
  · rename_i hup
    split at hlast
    · contradiction
    · rename_i hshort
      rw [descend] at hlast
      exact .inr ⟨hup, Nat.not_lt.mp hshort, hfree, (Except.ok.inj hlast).symm⟩

theorem Sound.dropLast (ht : t.Sound) (h : t.get? place = some .directory) :
    t.get? place.dropLast = some .directory := by
  by_cases hroot : place = []
  · rw [hroot]
    rfl
  · exact ht.parents _ ((ht.get?_eq_some_iff hroot).mp h)

/-- What a path leads to, if it is no directory, has a proper name in a directory. -/
theorem Sound.exists_name (ht : t.Sound) (habsolute : p.isAbsolute = true)
    (hnames : ∀ name ∈ p.parts, Path.IsName name) (h : t.placeOf p = .ok place)
    (hentry : t.get? place ≠ some .directory) :
    ∃ above name, Path.IsEntryName name ∧ t.get? above = some .directory ∧
      place = above ++ [name] := by
  have hne : p.parts ≠ [] := by
    intro hnil
    have hplace := ((placeOf_eq_ok_iff ..).mp h).2.2
    rw [startOf, if_pos habsolute, hnil, FileTree.descend] at hplace
    rw [← Except.ok.inj hplace] at hentry
    exact hentry rfl
  obtain ⟨hdirectory, ⟨-, rfl⟩ | ⟨hup, hshort, hnul, rfl⟩⟩ := parent_of_placeOf hne h
  · exact absurd (ht.dropLast hdirectory) hentry
  · exact ⟨_, _, ⟨hnames _ (List.getLast_mem hne), hup, hshort, hnul⟩, hdirectory, rfl⟩

/-- Making directories leaves a tree sound, also when it fails half way. -/
theorem Sound.makeAbove (ht : t.Sound) (habsolute : p.isAbsolute = true)
    (hnames : ∀ name ∈ p.parts, Path.IsName name) (depth : Nat) : (t.makeAbove p depth).1.Sound := by
  refine makeAbove_induction (motive := Sound) depth ?_ ht
  intro above s s' hstart hs hmade
  rcases makeDirectoryIfNew_cases hmade with rfl | ⟨hplace, hnew, rfl⟩
  · exact hs
  · obtain ⟨directory, name, hname, hdirectory, heq⟩ :=
      Sound.exists_name (p := ⟨p.root, above⟩) hs habsolute
        (fun name hname => hnames name (hstart.subset hname)) hplace (by simp [hnew])
    rw [heq]
    exact hs.put hdirectory hname fun _ => rfl

/-- Writing a file leaves a tree sound. -/
theorem Sound.write (ht : t.Sound) (habsolute : p.isAbsolute = true)
    (hnames : ∀ name ∈ p.parts, Path.IsName name) {content : ByteArray}
    (h : t.write p content = .ok t') : t'.Sound := by
  obtain ⟨hplace, hentry, rfl⟩ := (write_eq_ok_iff ..).mp h
  obtain ⟨above, name, hname, hdirectory, heq⟩ := ht.exists_name habsolute hnames hplace hentry
  rw [heq] at hentry ⊢
  exact ht.put hdirectory hname fun hold => absurd hold hentry

end FileTree
end Roster
