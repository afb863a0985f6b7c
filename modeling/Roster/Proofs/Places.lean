import Roster.FileTree

/-! # Where paths lead while files are made

A path that leads anywhere leads to the place that its names spell, `..` taken away. A tree *grows*
when it keeps its directories, and *extends* when it keeps every entry: making directories extends a
tree, writing a file makes it grow. What a path leads to survives growth.

* `placeOf_eq`: where a path leads.
* `Grows.placeOf`: it leads there in every tree grown from this one.
* `makeDirectories_extends`: missing directories are made beside what is there, whatever comes of it.
* `write_eq_ok_iff`: writing changes one place.
-/

namespace Roster
namespace FileTree

/-- The place that a path spells. -/
def destination (t : FileTree) (p : Path) : Place := (p.resolved t.current).parts

/-! ## Growth -/

/-- A tree that keeps the directories of another, and where relative paths start. -/
structure Grows (t t' : FileTree) : Prop where
  current : t'.current = t.current
  directory : ∀ place, t.get? place = some .directory → t'.get? place = some .directory

/-- A tree that keeps every entry of another, and where relative paths start. -/
structure Extends (t t' : FileTree) : Prop where
  current : t'.current = t.current
  entry : ∀ place entry, t.get? place = some entry → t'.get? place = some entry

theorem Extends.refl (t : FileTree) : t.Extends t := ⟨rfl, fun _ _ h => h⟩

theorem Extends.trans {t t' t'' : FileTree} (h : t.Extends t') (h' : t'.Extends t'') :
    t.Extends t'' := by
  constructor
  · rw [h'.current, h.current]
  · intro place entry hentry
    exact h'.entry place entry (h.entry place entry hentry)

theorem Extends.grows {t t' : FileTree} (h : t.Extends t') : t.Grows t' :=
  ⟨h.current, fun place => h.entry place .directory⟩

theorem Grows.trans {t t' t'' : FileTree} (h : t.Grows t') (h' : t'.Grows t'') : t.Grows t'' := by
  constructor
  · rw [h'.current, h.current]
  · intro place hdirectory
    exact h'.directory place (h.directory place hdirectory)

theorem Grows.destination {t t' : FileTree} (h : t.Grows t') (p : Path) :
    t'.destination p = t.destination p := by
  rw [FileTree.destination, FileTree.destination, h.current]

/-! ## Following a path -/

theorem descend_eq {t : FileTree} {parts : List String} {start place : Place}
    (h : t.descend start parts = .ok place) : place = Path.normalise start parts := by
  induction parts generalizing start with
  | nil =>
    rw [descend] at h
    injection h with h
    exact h.symm
  | cons part rest ih =>
    rw [descend] at h
    split at h
    · contradiction
    · contradiction
    · rw [Path.normalise, List.foldl_cons]
      by_cases hup : part = ".."
      · rw [if_pos hup] at h ⊢
        exact ih h
      · rw [if_neg hup] at h ⊢
        split at h
        · contradiction
        · exact ih h

theorem Grows.descend {t t' : FileTree} (hgrows : t.Grows t') {parts : List String}
    {start place : Place} (h : t.descend start parts = .ok place) :
    t'.descend start parts = .ok place := by
  induction parts generalizing start with
  | nil => exact h
  | cons part rest ih =>
    rw [FileTree.descend] at h ⊢
    split at h
    · contradiction
    · contradiction
    · -- the only case that goes on is a directory, which the grown tree has too
      rename_i hdirectory
      rw [hgrows.directory start hdirectory]
      by_cases hup : part = ".."
      · rw [if_pos hup] at h
        simp only [if_pos hup]
        exact ih h
      · rw [if_neg hup] at h
        simp only [if_neg hup]
        split at h
        · contradiction
        · rename_i hshort
          rw [if_neg hshort]
          exact ih h

/-- A path leads to a place exactly when it holds no NUL, is short enough, and its directories lead
there. -/
theorem placeOf_eq_ok_iff (t : FileTree) (p : Path) (place : Place) :
    t.placeOf p = .ok place ↔
      p.parts.any Path.isUnfit = false ∧ p.text.utf8ByteSize ≤ 4095 ∧
        t.descend (t.startOf p) p.parts = .ok place := by
  unfold placeOf
  cases hnul : p.parts.any Path.isUnfit with
  | true => simp
  | false =>
    by_cases hlong : p.text.utf8ByteSize > 4095
    · simp [hlong, Nat.not_le.mpr hlong]
    · cases hdescend : t.descend (t.startOf p) p.parts with
      | ok found => simp [hlong, Nat.not_lt.mp hlong]
      | error cause => simp [hlong]

/-- A path leads to the place that it spells, if it leads anywhere. -/
theorem placeOf_eq {t : FileTree} {p : Path} {place : Place} (h : t.placeOf p = .ok place) :
    place = t.destination p :=
  descend_eq ((placeOf_eq_ok_iff t p place).mp h).2.2

/-- A path goes on leading to its place in a tree that has grown. -/
theorem Grows.placeOf {t t' : FileTree} (hgrows : t.Grows t') {p : Path} {place : Place}
    (h : t.placeOf p = .ok place) : t'.placeOf p = .ok place := by
  rw [placeOf_eq_ok_iff] at h ⊢
  obtain ⟨hnul, hshort, hdescend⟩ := h
  have hstart : t'.startOf p = t.startOf p := by
    rw [startOf, startOf, hgrows.current]
  refine ⟨hnul, hshort, ?_⟩
  rw [hstart]
  exact hgrows.descend hdescend

/-! ## Making directories -/

theorem extends_put {t : FileTree} {place : Place} (entry : FileEntry)
    (h : t.get? place = none) : t.Extends (t.put place entry) := by
  have hplace : place ≠ [] := by
    rintro rfl
    simp [get?] at h
  constructor
  · rfl
  · intro other old hold
    have hne : other ≠ place := by
      rintro rfl
      rw [h] at hold
      contradiction
    rw [get?_put t place other entry hplace, if_neg hne]
    exact hold

theorem makeDirectory_extends {t t' : FileTree} {p : Path} (h : t.makeDirectory p = .ok t') :
    t.Extends t' := by
  unfold makeDirectory at h
  cases hplace : t.placeOf p with
  | error fault =>
    rw [hplace] at h
    contradiction
  | ok place =>
    rw [hplace] at h
    simp only [bind, Except.bind] at h
    split at h
    · contradiction
    · rename_i hnew
      injection h with h
      rw [← h]
      exact extends_put .directory hnew

theorem makeDirectoryIfNew_extends {t t' : FileTree} {p : Path}
    (h : t.makeDirectoryIfNew p = .ok t') : t.Extends t' := by
  unfold makeDirectoryIfNew at h
  split at h
  · rename_i t₁ hmade
    injection h with h
    rw [← h]
    exact makeDirectory_extends hmade
  · contradiction
  · contradiction
  · -- the directory was there, and the tree is the old one
    split at h
    · injection h with h
      rw [← h]
      exact Extends.refl t
    · contradiction
    · contradiction

theorem makeAbove_extends (t : FileTree) (p : Path) (depth : Nat) :
    t.Extends (t.makeAbove p depth).1 := by
  induction depth generalizing t p with
  | zero =>
    unfold makeAbove
    split
    · rename_i hmade
      exact makeDirectoryIfNew_extends hmade
    · exact Extends.refl t
  | succ depth ih =>
    unfold makeAbove
    split
    · rename_i hmade
      exact makeDirectoryIfNew_extends hmade
    · -- the directory above is missing: it is made first, and stays whatever comes next
      have habove := ih t p.parent
      rcases hmade : t.makeAbove p.parent depth with ⟨t₁, above⟩
      rw [hmade] at habove
      cases above with
      | error fault => exact habove
      | ok made =>
        dsimp only
        split
        · rename_i hlast
          exact habove.trans (makeDirectoryIfNew_extends hlast)
        · exact habove
    · exact Extends.refl t

/-- Making directories keeps every entry, also when it fails half way. -/
theorem makeDirectories_extends (t : FileTree) (p : Path) : t.Extends (t.makeDirectories p).1 :=
  makeAbove_extends t p p.parts.length

/-! ## Writing a file -/

/-- Writing puts the file at the place that the path spells, which is not a directory. -/
theorem write_eq_ok_iff (t t' : FileTree) (p : Path) (content : ByteArray) :
    t.write p content = .ok t' ↔
      t.placeOf p = .ok (t.destination p) ∧ t.get? (t.destination p) ≠ some .directory ∧
        t' = t.put (t.destination p) (.file content) := by
  unfold write openForWriting
  cases hplace : t.placeOf p with
  | error fault => simp [bind, Except.bind]
  | ok place =>
    have heq := placeOf_eq hplace
    subst heq
    by_cases hdirectory : t.get? (t.destination p) = some .directory
    · simp [bind, Except.bind, isDirectoryAt, hdirectory]
    · simp [bind, Except.bind, isDirectoryAt, hdirectory, eq_comm]

theorem get?_write {t t' : FileTree} {p : Path} {content : ByteArray}
    (h : t.write p content = .ok t') (place : Place) :
    t'.get? place = if place = t.destination p then some (.file content) else t.get? place := by
  obtain ⟨-, hfile, rfl⟩ := (write_eq_ok_iff t t' p content).mp h
  have hplace : t.destination p ≠ [] := by
    intro hroot
    rw [hroot] at hfile
    exact hfile rfl
  exact get?_put t (t.destination p) place (.file content) hplace

/-- Writing a file takes no directory away. -/
theorem write_grows {t t' : FileTree} {p : Path} {content : ByteArray}
    (h : t.write p content = .ok t') : t.Grows t' := by
  have hget := get?_write h
  obtain ⟨-, hfile, rfl⟩ := (write_eq_ok_iff t t' p content).mp h
  constructor
  · rfl
  · intro place hdirectory
    have hne : place ≠ t.destination p := by
      rintro rfl
      exact hfile hdirectory
    rw [hget, if_neg hne]
    exact hdirectory

/-- A file is read where its path leads. -/
theorem read_of_get? {t : FileTree} {p : Path} {content : ByteArray}
    (hplace : t.placeOf p = .ok (t.destination p))
    (hfile : t.get? (t.destination p) = some (.file content)) : t.read p = .ok content := by
  simp [read, find, hplace, hfile, bind, Except.bind]

end FileTree
end Roster
