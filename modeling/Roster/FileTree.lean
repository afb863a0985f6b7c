import Roster.Limits
import Roster.Path
import Roster.Text.Utf8

/-! # File trees

The files and directories below one root, addressed by the list of names that leads to them. The
root itself is always a directory. Names longer than 255 bytes and paths longer than 4095 are
refused, and so is a path with a NUL or with a character that has no bytes.

* `FileTree.find`: what a path leads to, or why it leads nowhere.
* `FileTree.makeDirectories` and `FileTree.write` change the tree; `get?_put` says where.
-/

namespace Roster

/-- The list of names that leads from the root to an entry. -/
abbrev Place := List String

/-- A regular file with its content, or a directory. -/
inductive FileEntry where
  | file (content : ByteArray)
  | directory
  deriving Inhabited

/-- Whether two entries are the same. -/
def FileEntry.decEq : (a b : FileEntry) → Decidable (a = b)
  | .file x, .file y =>
    match ByteArray.decEq x y with
    | isTrue h => isTrue (congrArg FileEntry.file h)
    | isFalse h => isFalse fun he => h (FileEntry.file.inj he)
  | .file _, .directory => isFalse FileEntry.noConfusion
  | .directory, .file _ => isFalse FileEntry.noConfusion
  | .directory, .directory => isTrue rfl

instance : DecidableEq FileEntry := FileEntry.decEq

/-- What the operating system reports. -/
inductive SystemCause where
  | missing
  | exists
  | notDirectory
  | isDirectory
  | nameTooLong
  deriving DecidableEq, Repr

/-- The number of a cause. -/
def SystemCause.number : SystemCause → Nat
  | .missing => 2
  | .exists => 17
  | .notDirectory => 20
  | .isDirectory => 21
  | .nameTooLong => 36

/-- The wording of a cause. -/
def SystemCause.wording : SystemCause → String
  | .missing => "No such file or directory"
  | .exists => "File exists"
  | .notDirectory => "Not a directory"
  | .isDirectory => "Is a directory"
  | .nameTooLong => "File name too long"

/-- Why a text cannot be a path. -/
inductive PathFault where
  | nul
  | unencodable (fault : Text.EncodeFault)
  deriving DecidableEq, Repr

/-- The wording of a fault in the text of a path. -/
def PathFault.message : PathFault → String
  | .nul => "embedded null byte"
  | .unencodable fault => fault.message

/-- Why a path cannot be used: a report about a path, or its text. -/
inductive FileFault where
  | system (cause : SystemCause) (path : String)
  | unfit (fault : PathFault)
  deriving DecidableEq, Repr

/-- The wording of a fault. -/
def FileFault.message : FileFault → String
  | .system cause path =>
    "[Errno " ++ toString cause.number ++ "] " ++ cause.wording ++ ": " ++ Text.quoted path
  | .unfit fault => fault.message

namespace Path

/-- Whether a character has no bytes in a path. Among the halves of pairs those from `DC80` to `DCFF`
stand for bytes that are no UTF-8. -/
def isRefused (c : Char) : Bool :=
  Text.isLone c && !(0xDC80 ≤ Text.codePoint c && Text.codePoint c ≤ 0xDCFF)

/-- Whether a part keeps a path from being used. -/
def isUnfit (part : String) : Bool := part.toList.any fun c => c = '\x00' || isRefused c

theorem isUnfit_eq_false_iff {part : String} :
    isUnfit part = false ↔ ∀ c ∈ part.toList, c ≠ '\x00' ∧ isRefused c = false := by
  simp [isUnfit]

/-- Why a text with such a part is no path. A character without bytes is found before a NUL. -/
def faultOf (text : String) : PathFault :=
  match Text.encodeFault? isRefused 0 text.toList with
  | some fault => .unencodable fault
  | none => .nul

/-- The path up to the first part that keeps it from being used, where `..` has gone up by name. A way up
that has nothing to go up from stays, or is dropped at the root. -/
def untilUnfit (p : Path) : Path :=
  let fit := p.parts.takeWhile fun part => !isUnfit part
  let climb (names : List String) (part : String) : List String :=
    if part ≠ ".." then names ++ [part]
    else if names.getLast?.all (· = "..") && !p.isAbsolute then names ++ [".."]
    else names.dropLast
  ⟨if p.isAbsolute then .slash else .relative,
    fit.foldl climb [] ++ ((p.parts.drop fit.length).take 1)⟩

end Path

/-- A tree of files, with a working directory, a home directory and the limits of the machine. -/
structure FileTree where
  entries : List (Place × FileEntry)
  current : Place
  home : Place
  limits : Limits := .ample
  deriving Inhabited

namespace FileTree

/-! ## Entries by place -/

/-- The entry at a place; the root is a directory. -/
def get? (t : FileTree) (place : Place) : Option FileEntry :=
  if place.isEmpty then some .directory else t.entries.lookup place

/-- Puts an entry in the place of the old one, or at the end. -/
def putEntry (place : Place) (entry : FileEntry) : List (Place × FileEntry) → List (Place × FileEntry)
  | [] => [(place, entry)]
  | e :: rest => if e.1 = place then (place, entry) :: rest else e :: putEntry place entry rest

/-- Puts an entry at a place. -/
def put (t : FileTree) (place : Place) (entry : FileEntry) : FileTree :=
  { t with entries := putEntry place entry t.entries }

/-- Whether a place is a directory. -/
def isDirectoryAt (t : FileTree) (place : Place) : Bool := t.get? place = some .directory

/-- The names of the entries directly in a place. -/
def namesIn (t : FileTree) (place : Place) : List (String × FileEntry) :=
  t.entries.filterMap fun (p, e) =>
    match p.getLast? with
    | some name => if p.dropLast = place then some (name, e) else none
    | none => none

/-! ## Following paths -/

/-- Goes through directories from a place; `none` stands for the way up. -/
def descend (t : FileTree) (place : Place) : List String → Except SystemCause Place
  | [] => .ok place
  | part :: rest =>
    match t.get? place with
    | none => .error .missing
    | some (.file _) => .error .notDirectory
    | some .directory =>
      if part = ".." then t.descend place.dropLast rest
      else if part.utf8ByteSize > 255 then .error .nameTooLong
      else t.descend (place ++ [part]) rest

/-- Where a path starts. -/
def startOf (t : FileTree) (p : Path) : Place := if p.isAbsolute then [] else t.current

/-- The place that a path names; all of it but the last name has to be there. -/
def placeOf (t : FileTree) (p : Path) : Except FileFault Place :=
  if p.parts.any Path.isUnfit then .error (.unfit (Path.faultOf p.text))
  else if p.text.utf8ByteSize > 4095 then .error (.system .nameTooLong p.text)
  else
    match t.descend (t.startOf p) p.parts with
    | .ok place => .ok place
    | .error cause => .error (.system cause p.text)

/-- What a path leads to. -/
def find (t : FileTree) (p : Path) : Except FileFault (Place × FileEntry) := do
  let place ← t.placeOf p
  match t.get? place with
  | some entry => .ok (place, entry)
  | none => .error (.system .missing p.text)

/-- Whether a path leads to an entry; a path that is too long is an error. -/
def exists? (t : FileTree) (p : Path) : Except FileFault Bool :=
  match t.find p with
  | .ok _ => .ok true
  | .error (.system .nameTooLong path) => .error (.system .nameTooLong path)
  | .error _ => .ok false

/-- Whether a path leads to a directory; a path that is too long is an error. -/
def isDirectory? (t : FileTree) (p : Path) : Except FileFault Bool :=
  match t.find p with
  | .ok (_, entry) => .ok (entry = .directory)
  | .error (.system .nameTooLong path) => .error (.system .nameTooLong path)
  | .error _ => .ok false

/-- The absolute path without `..`. The system is asked about each part on the way. -/
def resolve (t : FileTree) (p : Path) : Except FileFault Path :=
  if p.parts.any Path.isUnfit then .error (.unfit (Path.faultOf p.untilUnfit.text))
  else .ok (p.resolved t.current)

/-- The absolute path in which `..` goes up by name alone; two slashes at the front stay. -/
def absolute (t : FileTree) (p : Path) : Path :=
  ⟨if p.root = .doubleSlash then .doubleSlash else .slash, (p.resolved t.current).parts⟩

/-! ## Reading and changing -/

/-- The content of a file. -/
def read (t : FileTree) (p : Path) : Except FileFault ByteArray := do
  match ← t.find p with
  | (_, .file content) => .ok content
  | (_, .directory) => .error (.system .isDirectory p.text)

/-- Makes one directory. -/
def makeDirectory (t : FileTree) (p : Path) : Except FileFault FileTree := do
  let place ← t.placeOf p
  match t.get? place with
  | some _ => .error (.system .exists p.text)
  | none => .ok (t.put place .directory)

/-- Makes one directory unless there is one. -/
def makeDirectoryIfNew (t : FileTree) (p : Path) : Except FileFault FileTree :=
  match t.makeDirectory p with
  | .ok t => .ok t
  | .error (.system .missing path) => .error (.system .missing path)
  | .error (.unfit fault) => .error (.unfit fault)
  | .error fault =>
    match t.isDirectory? p with
    | .ok true => .ok t
    | .ok false => .error fault
    | .error other => .error other

/-- Makes a directory and the missing ones above it; `depth` bounds how far up to go. The tree
keeps the directories that were made before a failure. -/
def makeAbove (t : FileTree) (p : Path) : Nat → FileTree × Except FileFault Unit
  | 0 =>
    match t.makeDirectoryIfNew p with
    | .ok t => (t, .ok ())
    | .error fault => (t, .error fault)
  | depth + 1 =>
    match t.makeDirectoryIfNew p with
    | .ok t => (t, .ok ())
    | .error (.system .missing _) =>
      let (t, above) := t.makeAbove p.parent depth
      match above with
      | .error fault => (t, .error fault)
      | .ok () =>
        match t.makeDirectoryIfNew p with
        | .ok t => (t, .ok ())
        | .error fault => (t, .error fault)
    | .error fault => (t, .error fault)

/-- Makes a directory and the missing ones above it. -/
def makeDirectories (t : FileTree) (p : Path) : FileTree × Except FileFault Unit :=
  t.makeAbove p p.parts.length

/-- Opens a file for writing: the place of a new file or of an old one. -/
def openForWriting (t : FileTree) (p : Path) : Except FileFault Place := do
  let place ← t.placeOf p
  if t.isDirectoryAt place then .error (.system .isDirectory p.text) else .ok place

/-- Replaces the content of a file, making the file if it is missing. -/
def write (t : FileTree) (p : Path) (content : ByteArray) : Except FileFault FileTree := do
  let place ← t.openForWriting p
  .ok (t.put place (.file content))

/-- Adds to the end of a file, making the file if it is missing. -/
def append (t : FileTree) (p : Path) (content : ByteArray) : Except FileFault FileTree := do
  let place ← t.openForWriting p
  match t.get? place with
  | some (.file old) => .ok (t.put place (.file (old ++ content)))
  | _ => .ok (t.put place (.file content))

/-- Adds to the end of the file at a place. -/
def appendAt (t : FileTree) (place : Place) (content : ByteArray) : FileTree :=
  match t.get? place with
  | some (.file old) => t.put place (.file (old ++ content))
  | _ => t

/-! ## Laws -/

theorem lookup_putEntry (place other : Place) (entry : FileEntry)
    (es : List (Place × FileEntry)) :
    (putEntry place entry es).lookup other
      = if other = place then some entry else es.lookup other := by
  induction es with
  | nil =>
    by_cases h : other = place
    · simp [putEntry, h]
    · simp [putEntry, List.lookup_cons, beq_eq_false_iff_ne.mpr h, h]
  | cons e es ih =>
    obtain ⟨x, v⟩ := e
    by_cases hx : x = place
    · subst hx
      by_cases h : other = x
      · simp [putEntry, h]
      · simp [putEntry, List.lookup_cons, h, beq_eq_false_iff_ne.mpr h]
    · by_cases hk : other = x
      · subst hk
        simp [putEntry, hx]
      · simp [putEntry, List.lookup_cons, hx, beq_eq_false_iff_ne.mpr hk, ih]

theorem get?_put (t : FileTree) (place other : Place) (entry : FileEntry) (h : place ≠ []) :
    (t.put place entry).get? other = if other = place then some entry else t.get? other := by
  unfold get? put
  by_cases ho : other = []
  · subst ho
    simp [Ne.symm h]
  · simp [ho, lookup_putEntry]

theorem ne_nil_of_file {t : FileTree} {place : Place} {content : ByteArray}
    (h : t.get? place = some (.file content)) : place ≠ [] := by
  rintro rfl
  simp [get?] at h

theorem get?_appendAt {t : FileTree} {place : Place} {old : ByteArray}
    (h : t.get? place = some (.file old)) (content : ByteArray) :
    (t.appendAt place content).get? place = some (.file (old ++ content)) := by
  simp [appendAt, h, get?_put _ _ _ _ (ne_nil_of_file h)]

theorem get?_appendAt_of_ne (t : FileTree) {place other : Place} (content : ByteArray)
    (h : other ≠ place) : (t.appendAt place content).get? other = t.get? other := by
  unfold appendAt
  split
  · rename_i old found
    rw [get?_put _ _ _ _ (ne_nil_of_file found), if_neg h]
  · rfl

end FileTree

/-! ## The home directory -/

namespace Path

/-- A path whose first part is a tilde starts at the home directory; the homes of others are
unknown. -/
def expandHome (p : Path) (home : Place) : Option Path :=
  match p.root, p.parts with
  | .relative, first :: rest =>
    if first = "~" then some ⟨.slash, home ++ rest⟩
    else if first.startsWith "~" then none
    else some p
  | _, _ => some p

/-- The wording for an unknown home. -/
def unknownHome : String := "Could not determine home directory."

end Path
end Roster
