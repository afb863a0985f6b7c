/-! # Wildcards

Patterns in which a star stands for any text, a question mark for any character, and brackets for
one character out of a set. A bracket without an end stands for itself; everything else does too. A
pattern matches whole texts only, and letter case counts.

* `Matches`: what a pattern means, as a relation.
* `matchesText_iff`: the matcher decides that relation.
-/

namespace Roster.Wildcard

/-- One piece of a pattern. -/
inductive Piece where
  | star
  | exactly (c : Char)
  /-- A character in one of the ranges, or in none of them. -/
  | set (negated : Bool) (ranges : List (Char × Char))
  deriving DecidableEq, Repr

/-- Any single character. -/
def Piece.any : Piece := .set true []

/-- Whether a piece that stands for one character stands for `c`. -/
def Piece.accepts : Piece → Char → Bool
  | .star, _ => false
  | .exactly d, c => c = d
  | .set negated ranges, c => negated != ranges.any fun r => r.1 ≤ c && c ≤ r.2

/-! ## Sets -/

/-- A character inside brackets, or the hyphen between the ends of a range. -/
inductive Mark where
  | letter (c : Char)
  | hyphen
  deriving DecidableEq, Repr

/-- The character of a mark on its own. -/
def Mark.char : Mark → Char
  | .letter c => c
  | .hyphen => '-'

/-- The characters up to the first hyphen after the first `skip` characters, and what follows it. -/
def cutAtHyphen : Nat → List Char → List Char × Option (List Char)
  | _, [] => ([], none)
  | skip + 1, c :: rest => let (chunk, more) := cutAtHyphen skip rest; (c :: chunk, more)
  | 0, c :: rest =>
    if c = '-' then ([], some rest)
    else let (chunk, more) := cutAtHyphen 0 rest; (c :: chunk, more)

/-- Cuts the inside of brackets at the hyphens that make ranges: the first chunk is at least `skip`
characters long, a later one at least two unless it is the last. `fuel` bounds the chunks. -/
def chunksFrom : Nat → Nat → List Char → List (List Char)
  | 0, _, cs => [cs]
  | fuel + 1, skip, cs =>
    match cutAtHyphen skip cs with
    | (chunk, none) => [chunk]
    | (chunk, some rest) => chunk :: chunksFrom fuel 2 rest

/-- A hyphen at the very end belongs to the chunk before it. -/
def closeChunks : List (List Char) → List (List Char)
  | [] => []
  | [chunk] => [chunk]
  | [chunk, []] => [chunk ++ ['-']]
  | chunk :: rest => chunk :: closeChunks rest

/-- Takes out the ranges whose ends are in the wrong order, from the last one on. -/
def dropEmptyRanges : List (List Char) → List (List Char)
  | [] => []
  | chunk :: rest =>
    match dropEmptyRanges rest with
    | [] => [chunk]
    | next :: more =>
      match chunk.getLast?, next.head? with
      | some low, some high =>
        if high < low then (chunk.dropLast ++ next.drop 1) :: more else chunk :: next :: more
      | _, _ => chunk :: next :: more

/-- Chunks with hyphens between them. -/
def joinChunks : List (List Char) → List Mark
  | [] => []
  | [chunk] => chunk.map .letter
  | chunk :: rest => chunk.map .letter ++ .hyphen :: joinChunks rest

/-- The ranges that marks stand for. -/
def rangesOf : List Mark → List (Char × Char)
  | [] => []
  | low :: .hyphen :: high :: rest => (low.char, high.char) :: rangesOf rest
  | mark :: rest => (mark.char, mark.char) :: rangesOf rest

/-- The piece for the inside of brackets. A leading exclamation mark stands for the characters that
are not in the set. -/
def setPiece (inside : List Char) : Piece :=
  let marks :=
    if inside.contains '-' then
      let skip := if inside.head? = some '!' then 2 else 1
      joinChunks (dropEmptyRanges (closeChunks (chunksFrom inside.length skip inside)))
    else inside.map .letter
  match marks with
  | .letter '!' :: rest => .set true (rangesOf rest)
  | marks => .set false (rangesOf marks)

/-- The inside of brackets and what follows them, if they are closed. A closing bracket at the
front, also after an exclamation mark, belongs to the inside. -/
def bracket? (cs : List Char) : Option (List Char × List Char) :=
  let (mark, rest) := match cs with
    | '!' :: rest => (['!'], rest)
    | cs => ([], cs)
  let (first, rest) := match rest with
    | ']' :: rest => ([']'], rest)
    | rest => ([], rest)
  let inside := rest.takeWhile (· ≠ ']')
  match rest.drop inside.length with
  | _ :: after => some (mark ++ first ++ inside, after)
  | [] => none

/-- Reads a pattern; `fuel` bounds its length. -/
def piecesFrom : Nat → List Char → List Piece
  | 0, _ => []
  | _, [] => []
  | fuel + 1, c :: rest =>
    if c = '*' then .star :: piecesFrom fuel rest
    else if c = '?' then Piece.any :: piecesFrom fuel rest
    else if c = '[' then
      match bracket? rest with
      | some (inside, after) => setPiece inside :: piecesFrom fuel after
      | none => .exactly c :: piecesFrom fuel rest
    else .exactly c :: piecesFrom fuel rest

/-- Reads a pattern. -/
def parse (pattern : String) : List Piece :=
  let cs := pattern.toList
  piecesFrom cs.length cs

/-! ## Matching -/

/-- What a list of pieces matches. -/
inductive Matches : List Piece → List Char → Prop where
  | nil : Matches [] []
  | single {p : Piece} {c : Char} {ps : List Piece} {cs : List Char}
      (h : p.accepts c = true) (rest : Matches ps cs) : Matches (p :: ps) (c :: cs)
  | starEnd {ps : List Piece} {cs : List Char} (rest : Matches ps cs) : Matches (.star :: ps) cs
  | starStep {ps : List Piece} {c : Char} {cs : List Char}
      (rest : Matches (.star :: ps) cs) : Matches (.star :: ps) (c :: cs)

/-- For each end of a text, whether it or a shorter one is in the row. -/
def anyShorter : List Bool → List Bool
  | [] => []
  | b :: rest =>
    let row := anyShorter rest
    (b || row.headD false) :: row

/-- The row of a piece: for each end of the text, the longest first, whether it is matched, given
the row of the pieces after it. -/
def rowOf (p : Piece) (cs : List Char) (row : List Bool) : List Bool :=
  match p with
  | .star => anyShorter row
  | p => List.zipWith (fun c r => p.accepts c && r) cs row.tail ++ [false]

/-- For each end of the text, the longest first, whether the pieces match it. -/
def row : List Piece → List Char → List Bool
  | [], cs => cs.map (fun _ => false) ++ [true]
  | p :: ps, cs => rowOf p cs (row ps cs)

/-- Whether pieces match a text. -/
def matchesChars (ps : List Piece) (cs : List Char) : Bool := (row ps cs).headD false

/-- Whether a pattern matches a text. -/
def matchesText (pattern text : String) : Bool := matchesChars (parse pattern) text.toList

/-! ## The matcher decides the relation -/

theorem row_length (ps : List Piece) (cs : List Char) : (row ps cs).length = cs.length + 1 := by
  induction ps with
  | nil => simp [row]
  | cons p ps ih =>
    have shorter : ∀ r : List Bool, (anyShorter r).length = r.length := by
      intro r
      induction r with
      | nil => rfl
      | cons b r ihr => simp [anyShorter, ihr]
    cases p <;> simp [row, rowOf, shorter, ih, List.length_zipWith]

theorem row_cons_tail (ps : List Piece) (c : Char) (cs : List Char) :
    (row ps (c :: cs)).tail = row ps cs := by
  induction ps with
  | nil => simp [row]
  | cons p ps ih =>
    have hlen := row_length ps (c :: cs)
    obtain ⟨b, t, ht⟩ : ∃ b t, row ps (c :: cs) = b :: t := by
      cases h : row ps (c :: cs) with
      | nil => simp [h] at hlen
      | cons b t => exact ⟨b, t, rfl⟩
    rw [ht] at ih
    simp only [List.tail_cons] at ih
    have hl := row_length ps cs
    rw [← ih] at hl
    obtain ⟨b2, t2, ht2⟩ : ∃ b2 t2, t = b2 :: t2 := by
      cases t with
      | nil => simp at hl
      | cons b2 t2 => exact ⟨b2, t2, rfl⟩
    cases p <;> simp [row, rowOf, ht, ← ih, ht2, anyShorter]

theorem matchesChars_star_nil (ps : List Piece) :
    matchesChars (.star :: ps) [] = matchesChars ps [] := by
  have h := row_length ps []
  cases hr : row ps [] with
  | nil => simp [hr] at h
  | cons b t =>
    have : t = [] := by simpa [hr] using h
    simp [matchesChars, row, rowOf, hr, this, anyShorter]

theorem matchesChars_star_cons (ps : List Piece) (c : Char) (cs : List Char) :
    matchesChars (.star :: ps) (c :: cs)
      = (matchesChars ps (c :: cs) || matchesChars (.star :: ps) cs) := by
  have h := row_cons_tail ps c cs
  cases hr : row ps (c :: cs) with
  | nil => have := row_length ps (c :: cs); simp [hr] at this
  | cons b t =>
    rw [hr] at h
    simp only [List.tail_cons] at h
    simp [matchesChars, row, rowOf, hr, ← h, anyShorter]

theorem matchesChars_single_cons (p : Piece) (hp : p ≠ .star) (ps : List Piece) (c : Char)
    (cs : List Char) :
    matchesChars (p :: ps) (c :: cs) = (p.accepts c && matchesChars ps cs) := by
  have h := row_cons_tail ps c cs
  have hl := row_length ps cs
  cases hr : row ps cs with
  | nil => simp [hr] at hl
  | cons b t => cases p <;> simp_all [matchesChars, row, rowOf]

theorem matchesChars_single_nil (p : Piece) (hp : p ≠ .star) (ps : List Piece) :
    matchesChars (p :: ps) [] = false := by
  cases p <;> simp_all [matchesChars, row, rowOf]

theorem matches_of_matchesChars (ps : List Piece) (cs : List Char)
    (h : matchesChars ps cs = true) : Matches ps cs := by
  induction ps generalizing cs with
  | nil =>
    cases cs with
    | nil => exact .nil
    | cons c cs => simp [matchesChars, row] at h
  | cons p ps ih =>
    by_cases hp : p = .star
    · subst hp
      induction cs with
      | nil => exact .starEnd (ih [] (by rwa [matchesChars_star_nil] at h))
      | cons c cs ihc =>
        rw [matchesChars_star_cons, Bool.or_eq_true] at h
        rcases h with h | h
        · exact .starEnd (ih _ h)
        · exact .starStep (ihc h)
    · cases cs with
      | nil => rw [matchesChars_single_nil p hp] at h; cases h
      | cons c cs =>
        rw [matchesChars_single_cons p hp, Bool.and_eq_true] at h
        exact .single h.1 (ih _ h.2)

theorem matchesChars_of_matches {ps : List Piece} {cs : List Char} (h : Matches ps cs) :
    matchesChars ps cs = true := by
  induction h with
  | nil => rfl
  | @single p c ps cs hp _ ih =>
    have : p ≠ .star := by rintro rfl; simp [Piece.accepts] at hp
    simp [matchesChars_single_cons p this, hp, ih]
  | @starEnd ps cs _ ih =>
    cases cs with
    | nil => rwa [matchesChars_star_nil]
    | cons c cs => simp [matchesChars_star_cons, ih]
  | starStep _ ih => simp [matchesChars_star_cons, ih]

theorem matchesText_iff (pattern text : String) :
    matchesText pattern text = true ↔ Matches (parse pattern) text.toList :=
  ⟨matches_of_matchesChars _ _, matchesChars_of_matches⟩

end Roster.Wildcard
