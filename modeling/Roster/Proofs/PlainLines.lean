import Mathlib.Data.List.Basic
import Mathlib.Data.List.Infix
import Mathlib.Data.List.TakeWhile
import Roster.Document.Token

/-! # Plain scalars on one line

A plain scalar is a text without quotes. It begins with a character that begins nothing else, and goes
on until a line's end, a comment, or a colon with a blank behind it. Blanks in front of any of these do
not belong to it.

* `IsPlain`: the texts that stand for a plain scalar in front of a character.
* `Cursor.skip_line`: where the place is after characters of one line.
* `scanPlainRuns_line`: a plain scalar is read up to its end.
* `Scan.tokenAt_plain`: where a plain scalar begins, one is read.
-/

namespace Roster.Document

/-! ## Texts of plain scalars -/

/-- The signs that begin other things than a plain scalar. -/
def isLeadSign (ch : Char) : Bool := "\t-?:,[]\x7b\x7d#&*!|>\x27\x22%@` ".toList.contains ch

/-- Whether a plain scalar may begin with the first of these characters. Three signs begin one if no
blank follows. -/
def beginsPlain : List Char → Bool
  | [] => false
  | ch :: rest =>
    !(isLeadSign ch || isBreak ch)
      || (!blankOrEnd rest.head? && (ch = '-' || (ch = '?' || ch = ':')))

/-- Characters that go on a plain scalar, with `after` behind them. -/
structure GoesOn (after : Char) (cs : List Char) : Prop where
  line : ∀ ch ∈ cs, isBreak ch = false ∧ ch ≠ '\t'
  last : cs.getLast? ≠ some ' '
  colons : ∀ blank, blankOrEnd (some blank) = true → ¬ [':', blank] <:+: cs ++ [after]
  comments : ¬ [' ', '#'] <:+: cs

/-- A text that stands for a plain scalar where `after` stands behind it. -/
structure IsPlain (after : Char) (s : String) : Prop extends GoesOn after s.toList where
  nonempty : s ≠ ""
  begins : beginsPlain (s.toList ++ [after]) = true
  permitted : ∀ ch ∈ s.toList, isPermitted ch = true

/-- What is true of characters that go on a plain scalar is true of the last ones of them. -/
theorem GoesOn.of_append {after : Char} {front cs : List Char} (h : GoesOn after (front ++ cs))
    (hne : cs ≠ []) : GoesOn after cs where
  line ch hch := h.line ch (List.mem_append_right _ hch)
  last := by
    have hlast := h.last
    rwa [List.getLast?_append_of_ne_nil _ hne] at hlast
  colons blank hblank hin := by
    refine h.colons blank hblank (hin.trans ?_)
    rw [List.append_assoc]
    exact List.infix_append_of_infix_right (List.infix_refl _)
  comments hin := h.comments (hin.trans (List.suffix_append front cs).isInfix)

/-- Characters without blanks, colons and line ends go on a plain scalar. -/
theorem GoesOn.of_notMem {after : Char} {cs : List Char} (hline : ∀ ch ∈ cs, isBreak ch = false ∧ ch ≠ '\t')
    (hspace : ' ' ∉ cs) (hcolon : ':' ∉ cs) : GoesOn after cs where
  line := hline
  last heq := hspace (List.mem_of_getLast? heq)
  colons := by
    rintro blank - ⟨front, back, heq⟩
    have hchars : cs ++ [after] = front ++ ':' :: blank :: back := by simp [← heq]
    have hfront := congrArg List.dropLast hchars
    rw [List.dropLast_concat, List.dropLast_append_of_ne_nil (List.cons_ne_nil _ _)] at hfront
    exact hcolon (hfront ▸ List.mem_append_right _ List.mem_cons_self)
  comments hin := hspace (hin.subset List.mem_cons_self)

/-- Whether a text is a word: it may begin a plain scalar and has no blanks and no colons. -/
def isWord (after : Char) (s : String) : Bool :=
  beginsPlain (s.toList ++ [after]) && s.toList.all fun ch =>
    isPermitted ch && !isBreak ch && !(['\t', ' ', ':'].contains ch)

/-- Words are plain scalars. -/
theorem IsPlain.of_isWord {after : Char} {s : String} (hne : s ≠ "") (h : isWord after s = true) :
    IsPlain after s := by
  obtain ⟨hbegins, hall⟩ := (Bool.and_eq_true _ _).mp h
  have hchars : ∀ ch ∈ s.toList, isPermitted ch = true ∧ isBreak ch = false ∧ ch ∉ ['\t', ' ', ':'] := by
    intro ch hch
    simpa [and_assoc] using List.all_eq_true.mp hall ch hch
  have hnone : ∀ sign ∈ ['\t', ' ', ':'], sign ∉ s.toList := fun sign hsign hin => (hchars sign hin).2.2 hsign
  have htab : ∀ ch ∈ s.toList, ch ≠ '\t' := fun ch hch heq => hnone '\t' (by decide) (heq ▸ hch)
  exact {
    GoesOn.of_notMem (fun ch hch => ⟨(hchars ch hch).2.1, htab ch hch⟩) (hnone ' ' (by decide))
      (hnone ':' (by decide)) with
    nonempty := hne
    begins := hbegins
    permitted := fun ch hch => (hchars ch hch).1 }

/-- A plain scalar has a first character, which is neither a blank nor the sign of a comment. -/
theorem IsPlain.exists_cons {after : Char} {s : String} (h : IsPlain after s) :
    ∃ ch rest, s.toList = ch :: rest ∧ ch ≠ ' ' ∧ ch ≠ '#' ∧ isBreak ch = false := by
  obtain ⟨ch, rest, hs⟩ : ∃ ch rest, s.toList = ch :: rest :=
    List.exists_cons_of_ne_nil fun hnil => h.nonempty (String.toList_eq_nil_iff.mp hnil)
  have hbegins := h.begins
  rw [hs, List.cons_append] at hbegins
  refine ⟨ch, rest, hs, ?_, ?_, (h.line ch (hs ▸ List.mem_cons_self)).1⟩
  · rintro rfl
    simp [beginsPlain, isLeadSign] at hbegins
  · rintro rfl
    simp [beginsPlain, isLeadSign] at hbegins

/-! ## Places on a line -/

/-- How far characters move the column: a mark of the byte order takes no room. -/
def room (cs : List Char) : Nat := cs.countP fun ch => ch.toNat ≠ 0xFEFF

@[simp] theorem room_nil : room [] = 0 := rfl

theorem room_append (cs ds : List Char) : room (cs ++ ds) = room cs + room ds := List.countP_append

theorem room_cons (ch : Char) (cs : List Char) :
    room (ch :: cs) = room cs + if ch.toNat = 0xFEFF then 0 else 1 := by
  rw [room, List.countP_cons]
  by_cases h : ch.toNat = 0xFEFF <;> simp [h, room]

theorem room_of_forall_eq {gap : List Char} (h : ∀ ch ∈ gap, ch = ' ') : room gap = gap.length := by
  refine List.countP_eq_length.mpr fun ch hch => ?_
  rw [h ch hch]
  decide

namespace Cursor

/-- Along characters of one line the place stays on it. -/
theorem skip_line {cs : List Char} (h : ∀ ch ∈ cs, isBreak ch = false) (rest : List Char)
    (line column index : Nat) :
    Cursor.skip cs.length ⟨cs ++ rest, line, column, index⟩
      = ⟨rest, line, column + room cs, index + cs.length⟩ := by
  induction cs generalizing column index with
  | nil => rfl
  | cons ch cs ih =>
    obtain ⟨hch, hcs⟩ := List.forall_mem_cons.mp h
    have hnext : Cursor.next ⟨ch :: cs ++ rest, line, column, index⟩
        = ⟨cs ++ rest, line, column + room [ch], index + 1⟩ := by
      rw [room_cons]
      by_cases hmark : ch.toNat = 0xFEFF <;> simp [next, hch, hmark]
    rw [List.length_cons, skip, hnext, ih hcs, Nat.add_assoc, ← room_append, List.singleton_append,
      Nat.add_assoc, Nat.add_comm 1]

/-- The characters of one line that satisfy a test, and the place after them. -/
theorem takeWhile_line {p : Char → Bool} {cs rest : List Char} (h : ∀ ch ∈ cs, p ch = true)
    (hrest : rest.head?.any p = false) (hline : ∀ ch ∈ cs, isBreak ch = false)
    (line column index : Nat) :
    Cursor.takeWhile p ⟨cs ++ rest, line, column, index⟩
      = (cs, ⟨rest, line, column + room cs, index + cs.length⟩) := by
  have htaken : (cs ++ rest).takeWhile p = cs := by
    rw [List.takeWhile_append_of_pos h]
    cases rest with
    | nil => simp
    | cons ch rest =>
      rw [List.head?_cons, Option.any_some] at hrest
      simp [hrest]
  rw [takeWhile]
  simp only [htaken, skip_line hline]

/-- A line feed ends the line. -/
theorem takeBreak_lineFeed (rest : List Char) (line column index : Nat) :
    takeBreak ⟨'\n' :: rest, line, column, index⟩ = (['\n'], ⟨rest, line + 1, 0, index + 1⟩) := by
  simp [takeBreak, next, isBreak]

end Cursor

/-! ## Blanks between the runs of a plain scalar -/

variable {after : Char} {rest tail gap : List Char} {line column index : Nat}

/-- Blanks within a line. -/
theorem scanPlainSpaces_gap (hgap : ∀ ch ∈ gap, ch = ' ') (hspace : rest.head? ≠ some ' ')
    (hbreak : rest.head?.any isBreak = false) :
    scanPlainSpaces ⟨gap ++ rest, line, column, index⟩
      = (gap, ⟨rest, line, column + gap.length, index + gap.length⟩, false) := by
  have hline : ∀ ch ∈ gap, isBreak ch = false := by
    intro ch hch
    rw [hgap ch hch]
    decide
  have htest : ∀ ch ∈ gap, decide (ch = ' ') = true := fun ch hch => decide_eq_true (hgap ch hch)
  have hstop : (rest.head?.any fun ch => decide (ch = ' ')) = false := by
    cases hhead : rest.head? with
    | none => rfl
    | some ch =>
      rw [Option.any_some, decide_eq_false_iff_not]
      rintro rfl
      exact hspace hhead
  rw [scanPlainSpaces, Cursor.takeWhile_line htest hstop hline, room_of_forall_eq hgap]
  simp [Cursor.peek, hbreak]

/-- Blanks in front of the next line's text. -/
theorem scanPlainBreaks_gap (hgap : ∀ ch ∈ gap, ch = ' ') (hspace : rest.head? ≠ some ' ')
    (hbreak : rest.head?.any isBreak = false) {fuel : Nat} (hfuel : gap.length < fuel) :
    scanPlainBreaks fuel ⟨gap ++ rest, line, column, index⟩
      = (some [], ⟨rest, line, column + gap.length, index + gap.length⟩) := by
  induction gap generalizing fuel column index with
  | nil =>
    obtain ⟨fuel, rfl⟩ := Nat.exists_eq_add_one_of_ne_zero (Nat.ne_of_gt hfuel)
    cases rest with
    | nil => rfl
    | cons ch rest =>
      have hch : ch ≠ ' ' := fun heq => hspace (congrArg some heq)
      simp only [List.head?_cons, Option.any_some] at hbreak
      simp [scanPlainBreaks, Cursor.peek, hch, hbreak]
  | cons ch gap ih =>
    obtain ⟨fuel, rfl⟩ := Nat.exists_eq_add_one_of_ne_zero (Nat.ne_of_gt (Nat.zero_lt_of_lt hfuel))
    obtain ⟨rfl, hmore⟩ := List.forall_mem_cons.mp hgap
    have hnext : Cursor.next ⟨' ' :: gap ++ rest, line, column, index⟩
        = ⟨gap ++ rest, line, column + 1, index + 1⟩ := by
      simp [Cursor.next, isBreak]
    have hfuel' : gap.length < fuel := by simpa using hfuel
    rw [scanPlainBreaks, hnext]
    simp only [Cursor.peek, List.cons_append, List.head?_cons, if_true]
    rw [ih hmore hfuel', List.length_cons, Nat.add_assoc, Nat.add_assoc, Nat.add_comm 1]

/-- A line's end and the blanks in front of the next line's text. -/
theorem scanPlainSpaces_lineFeed (hgap : ∀ ch ∈ gap, ch = ' ') (hne : rest ≠ [] → gap ≠ [])
    (hspace : rest.head? ≠ some ' ') (hbreak : rest.head?.any isBreak = false) :
    scanPlainSpaces ⟨'\n' :: (gap ++ rest), line, column, index⟩
      = ([' '], ⟨rest, line + 1, gap.length, index + 1 + gap.length⟩, true) := by
  have hnone : Cursor.takeWhile (fun ch => decide (ch = ' ')) ⟨'\n' :: (gap ++ rest), line, column, index⟩
      = ([], ⟨'\n' :: (gap ++ rest), line, column, index⟩) := rfl
  have hseparator : Cursor.atSeparator ⟨gap ++ rest, line + 1, 0, index + 1⟩ = false := by
    cases gap with
    | nil =>
      have hend : rest = [] := by
        by_contra hrest
        exact hne hrest rfl
      subst hend
      rfl
    | cons ch gap =>
      obtain rfl := hgap ch List.mem_cons_self
      simp [Cursor.atSeparator, Cursor.atMarker, Cursor.peekAt]
  have hlength : gap.length < (gap ++ rest).length + 1 := by
    rw [List.length_append]
    omega
  rw [scanPlainSpaces, hnone]
  simp only [Cursor.peek, List.head?_cons, Option.any_some, show isBreak '\n' = true from rfl, if_true,
    Cursor.takeBreak_lineFeed, hseparator, scanPlainBreaks_gap hgap hspace hbreak hlength]
  simp

/-! ## Runs -/

/-- A run goes on as long as no character ends it. -/
theorem plainRun_append {run rest : List Char}
    (hrun : ∀ front ch back, run = front ++ ch :: back → stopsPlain false ch (back ++ rest).head? = false)
    (hrest : plainRun false rest = 0) : plainRun false (run ++ rest) = run.length := by
  induction run with
  | nil => exact hrest
  | cons ch run ih =>
    have hch : stopsPlain false ch (run ++ rest).head? = false := hrun [] ch run rfl
    have hmore : plainRun false (run ++ rest) = run.length := by
      refine ih fun front c back heq => ?_
      exact hrun (ch :: front) c back (by rw [heq, List.cons_append])
    rw [List.cons_append, plainRun, hch, hmore, List.length_cons]
    rfl

/-- Characters that do not begin with a blank are a word, and nothing else or a gap and more. -/
theorem exists_word {cs : List Char} (hlast : cs.getLast? ≠ some ' ') :
    ∃ word gap more, cs = word ++ (gap ++ more) ∧ ' ' ∉ word ∧ (∀ ch ∈ gap, ch = ' ') ∧
      more.head? ≠ some ' ' ∧ (gap = [] ↔ more = []) := by
  have hdropped : cs.dropWhile (· ≠ ' ') = [] ∨ ∃ more, cs.dropWhile (· ≠ ' ') = ' ' :: more := by
    cases hmore : cs.dropWhile (· ≠ ' ') with
    | nil => exact .inl rfl
    | cons ch more =>
      have hhead := List.head?_dropWhile_not (· ≠ ' ') cs
      rw [hmore] at hhead
      exact .inr ⟨more, by simpa using hhead⟩
  refine ⟨cs.takeWhile (· ≠ ' '), (cs.dropWhile (· ≠ ' ')).takeWhile (· = ' '),
    (cs.dropWhile (· ≠ ' ')).dropWhile (· = ' '), ?_, ?_, ?_, ?_, ?_⟩
  · rw [List.takeWhile_append_dropWhile, List.takeWhile_append_dropWhile]
  · intro hmem
    simpa using List.mem_takeWhile_imp hmem
  · intro ch hch
    simpa using List.mem_takeWhile_imp hch
  · intro hhead
    have hnot := List.head?_dropWhile_not (· = ' ') (cs.dropWhile (· ≠ ' '))
    rw [hhead] at hnot
    simp at hnot
  · rcases hdropped with hnil | ⟨more, hmore⟩
    · rw [hnil]
      exact ⟨fun _ => rfl, fun _ => rfl⟩
    · simp only [hmore, List.takeWhile_cons, decide_true, if_true, List.dropWhile_cons, reduceCtorEq,
        false_iff]
      intro hblank
      -- the last character would be a blank
      have hall : ∀ ch ∈ ' ' :: more, ch = ' ' := by
        refine List.forall_mem_cons.mpr ⟨rfl, ?_⟩
        simpa using hblank
      refine hlast ?_
      rw [← List.takeWhile_append_dropWhile (p := (· ≠ ' ')) (l := cs), hmore,
        List.getLast?_append_of_ne_nil _ (List.cons_ne_nil _ _),
        List.getLast?_eq_some_getLast (List.cons_ne_nil _ _), hall _ (List.getLast_mem _)]

/-- Of the characters that go on a plain scalar, only blanks end a run. -/
theorem GoesOn.stopsPlain_eq_false {front back : List Char} {ch : Char}
    (h : GoesOn after (front ++ ch :: back)) (hspace : ch ≠ ' ') :
    stopsPlain false ch (back ++ after :: tail).head? = false := by
  obtain ⟨hbreak, htab⟩ := h.line ch (List.mem_append_right _ List.mem_cons_self)
  have hcolon : ch = ':' → blankOrEnd (back ++ after :: tail).head? = false := by
    rintro rfl
    obtain ⟨next, more, hnext⟩ : ∃ next more, back ++ [after] = next :: more :=
      List.exists_cons_of_ne_nil (by simp)
    have hhead : (back ++ after :: tail).head? = some next := by
      rw [← List.singleton_append, ← List.append_assoc, hnext, List.cons_append, List.head?_cons]
    have hin : [':', next] <:+: front ++ ':' :: back ++ [after] := by
      refine ⟨front, more, ?_⟩
      have hback : ':' :: back ++ [after] = ':' :: next :: more := congrArg (':' :: ·) hnext
      rw [List.append_assoc front (':' :: back), hback, List.append_assoc]
      rfl
    rw [hhead]
    exact Bool.eq_false_iff.mpr fun hblank => h.colons next hblank hin
  by_cases hch : ch = ':'
  · rw [stopsPlain, hcolon hch]
    simp [hspace, htab, hbreak]
  · simp [stopsPlain, hspace, htab, hbreak, hch]

/-- The first run of a plain scalar is its first word. -/
theorem GoesOn.plainRun_word {word more : List Char} (h : GoesOn after (word ++ (gap ++ more)))
    (hword : ' ' ∉ word) (hgap : ∀ ch ∈ gap, ch = ' ') (hends : gap = [] → more = [])
    (hrun : plainRun false (after :: tail) = 0) :
    plainRun false (word ++ (gap ++ more ++ after :: tail)) = word.length := by
  have hnone : plainRun false (gap ++ more ++ after :: tail) = 0 := by
    cases gap with
    | nil => rwa [hends rfl]
    | cons ch gap =>
      obtain rfl := hgap ch List.mem_cons_self
      rfl
  refine plainRun_append (fun front ch back heq => ?_) hnone
  have hch : ch ≠ ' ' := by
    rintro rfl
    exact hword (heq ▸ List.mem_append_right _ List.mem_cons_self)
  have hgo : GoesOn after (front ++ ch :: (back ++ (gap ++ more))) := by
    rwa [heq, List.append_assoc, List.cons_append] at h
  rw [← List.append_assoc]
  exact hgo.stopsPlain_eq_false hch

/-- Behind a gap no comment begins. -/
theorem GoesOn.head?_ne_hash {front more : List Char} (h : GoesOn after (front ++ (gap ++ more)))
    (hgap : ∀ ch ∈ gap, ch = ' ') (hne : gap ≠ []) : more.head? ≠ some '#' := by
  intro hhead
  obtain ⟨more, rfl⟩ := List.head?_eq_some_iff.mp hhead
  have hlast : gap = gap.dropLast ++ [' '] := by
    conv_lhs => rw [← List.dropLast_append_getLast hne, hgap _ (List.getLast_mem hne)]
  refine h.comments ⟨front ++ gap.dropLast, more, ?_⟩
  rw [hlast, List.dropLast_concat]
  simp

/-- One run of a plain scalar with the blanks behind it. -/
theorem scanPlainRuns_word {word rest : List Char} {indent : Int} {fuel : Nat} (hne : word ≠ [])
    (hhash : word.head? ≠ some '#') (hline : ∀ ch ∈ word, isBreak ch = false)
    (hlength : plainRun false (word ++ rest) = word.length) (spaces : List Char) (broken : Bool) :
    scanPlainRuns false indent (fuel + 1) spaces broken ⟨word ++ rest, line, column, index⟩
      = match scanPlainSpaces ⟨rest, line, column + room word, index + word.length⟩ with
        | (blanks, c, ended) =>
          if blanks.isEmpty || c.peek = some '#' || (c.column : Int) < indent then
            (spaces ++ word, c, ended)
          else
            match scanPlainRuns false indent fuel blanks ended c with
            | (more, c, broken) => (spaces ++ word ++ more, c, broken) := by
  obtain ⟨first, word, rfl⟩ := List.exists_cons_of_ne_nil hne
  have hfirst : ¬ Cursor.peek ⟨first :: word ++ rest, line, column, index⟩ = some '#' := hhash
  have htaken : (first :: word ++ rest).take (word.length + 1) = first :: word := List.take_left' rfl
  have hskip := Cursor.skip_line hline rest line column index
  rw [List.length_cons] at hlength hskip
  rw [scanPlainRuns, if_neg hfirst]
  simp only [hlength, htaken, hskip, Bool.not_false, Bool.true_and, List.length_cons]

/-- A run with nothing of the scalar behind it is the last one. -/
theorem scanPlainRuns_lastWord {word rest blanks : List Char} {indent : Int} {ended : Bool} {fuel : Nat}
    {c : Cursor} (hne : word ≠ []) (hhash : word.head? ≠ some '#')
    (hline : ∀ ch ∈ word, isBreak ch = false)
    (hlength : plainRun false (word ++ rest) = word.length)
    (hspaces : scanPlainSpaces ⟨rest, line, column + room word, index + word.length⟩ = (blanks, c, ended))
    (hend : blanks = [] ∨ (c.column : Int) < indent) (spaces : List Char) (broken : Bool) :
    scanPlainRuns false indent (fuel + 1) spaces broken ⟨word ++ rest, line, column, index⟩
      = (spaces ++ word, c, ended) := by
  have hstop : (blanks.isEmpty || c.peek = some '#' || (c.column : Int) < indent) = true := by
    rcases hend with rfl | hcolumn
    · rfl
    · simp [hcolumn]
  rw [scanPlainRuns_word hne hhash hline hlength, hspaces]
  simp only [hstop, if_true]

/-- A run with a gap and more of the scalar behind it: the gap is kept for the next run. -/
theorem scanPlainRuns_wordAndGap {word rest : List Char} {indent : Int} {fuel : Nat} (hne : word ≠ [])
    (hhash : word.head? ≠ some '#') (hline : ∀ ch ∈ word, isBreak ch = false)
    (hlength : plainRun false (word ++ (gap ++ rest)) = word.length) (hgap : ∀ ch ∈ gap, ch = ' ')
    (hwide : gap ≠ []) (hspace : rest.head? ≠ some ' ') (hnext : rest.head? ≠ some '#')
    (hbreak : rest.head?.any isBreak = false) (hindent : indent ≤ column + 1) (spaces : List Char)
    (broken : Bool) :
    scanPlainRuns false indent (fuel + 1) spaces broken ⟨word ++ (gap ++ rest), line, column, index⟩
      = match scanPlainRuns false indent fuel gap false
          ⟨rest, line, column + room word + gap.length, index + word.length + gap.length⟩ with
        | (more, c, broken) => (spaces ++ word ++ more, c, broken) := by
  have hlong : 0 < gap.length := List.length_pos_iff.mpr hwide
  have hgo : ¬ (gap.isEmpty || Cursor.peek ⟨rest, line, column + room word + gap.length,
      index + word.length + gap.length⟩ = some '#'
      || (((column + room word + gap.length : Nat) : Int) < indent)) = true := by
    simp only [Bool.or_eq_true, not_or, List.isEmpty_iff, decide_eq_true_eq]
    exact ⟨⟨hwide, hnext⟩, by omega⟩
  rw [scanPlainRuns_word hne hhash hline hlength, scanPlainSpaces_gap hgap hspace hbreak]
  simp only [if_neg hgo]

/-- What begins neither with a blank nor with the sign of a comment is read up to the last of the
characters that go on a plain scalar, if what follows them ends it. -/
theorem scanPlainRuns_line {cs blanks : List Char} {indent : Int} {ended : Bool} {fuel : Nat} {c : Cursor}
    (h : GoesOn after cs) (hne : cs ≠ []) (hspace : cs.head? ≠ some ' ') (hhash : cs.head? ≠ some '#')
    (hrun : plainRun false (after :: tail) = 0) (hfuel : cs.length < fuel)
    (hindent : indent ≤ column + 1)
    (hspaces : scanPlainSpaces ⟨after :: tail, line, column + room cs, index + cs.length⟩
      = (blanks, c, ended))
    (hend : blanks = [] ∨ (c.column : Int) < indent) (spaces : List Char) (broken : Bool) :
    scanPlainRuns false indent fuel spaces broken ⟨cs ++ after :: tail, line, column, index⟩
      = (spaces ++ cs, c, ended) := by
  -- each turn reads the first word and the gap behind it; what is left goes on a plain scalar as well
  induction fuel generalizing cs spaces broken column index with
  | zero => contradiction
  | succ fuel ih =>
    obtain ⟨word, gap, more, rfl, hword, hgap, hmore, hboth⟩ := exists_word h.last
    have hwordne : word ≠ [] := by
      rintro rfl
      cases gap with
      | nil => exact hne (hboth.mp rfl)
      | cons ch gap =>
        obtain rfl := hgap ch List.mem_cons_self
        exact hspace rfl
    have hline : ∀ ch ∈ word, isBreak ch = false :=
      fun ch hch => (h.line ch (List.mem_append_left _ hch)).1
    have hfirst : word.head? ≠ some '#' := by
      rwa [List.head?_append_of_ne_nil _ hwordne] at hhash
    have hlength := h.plainRun_word hword hgap hboth.mp hrun
    by_cases hlast : gap = []
    · -- the last word
      obtain rfl := hboth.mp hlast
      subst hlast
      simp only [List.append_nil, List.nil_append] at hspaces hlength ⊢
      exact scanPlainRuns_lastWord hwordne hfirst hline hlength hspaces hend spaces broken
    · -- a word with a gap and more behind it
      have hmorene : more ≠ [] := fun heq => hlast (hboth.mpr heq)
      have hmoreOn : GoesOn after more := by
        rw [← List.append_assoc] at h
        exact h.of_append hmorene
      have hhash' := h.head?_ne_hash hgap hlast
      have hhead : (more ++ after :: tail).head? = more.head? := List.head?_append_of_ne_nil _ hmorene
      have hbreak : (more ++ after :: tail).head?.any isBreak = false := by
        obtain ⟨ch, rest, rfl⟩ := List.exists_cons_of_ne_nil hmorene
        exact (hmoreOn.line ch List.mem_cons_self).1
      have hspaces' : scanPlainSpaces ⟨after :: tail, line,
          column + room word + gap.length + room more,
          index + word.length + gap.length + more.length⟩ = (blanks, c, ended) := by
        rw [← hspaces, room_append, room_append, room_of_forall_eq hgap, List.length_append,
          List.length_append]
        simp only [Nat.add_assoc]
      have hwide : 0 < gap.length := List.length_pos_iff.mpr hlast
      have hlength' : (word ++ (gap ++ more)).length = word.length + (gap.length + more.length) := by
        rw [List.length_append, List.length_append]
      have hrest := ih hmoreOn hmorene hmore hhash' (by omega) (by omega) hspaces' gap false
      rw [List.append_assoc] at hlength
      rw [List.append_assoc, List.append_assoc, scanPlainRuns_wordAndGap hwordne hfirst hline hlength
        hgap hlast (hhead ▸ hmore) (hhead ▸ hhash') hbreak hindent]
      simp only [hrest, List.append_assoc]

/-! ## The token of a plain scalar -/

theorem beginsPlain_append {cs : List Char} (hne : cs ≠ []) (h : beginsPlain (cs ++ [after]) = true)
    (tail : List Char) : beginsPlain (cs ++ after :: tail) = true := by
  cases cs with
  | nil => contradiction
  | cons ch cs =>
    cases cs with
    | nil => exact h
    | cons ch' cs => exact h

/-- Where a plain scalar begins, and no line of a document's own begins, one is read. -/
theorem Scan.tokenAt_plain {s : Scan} {ch : Char} {rest : List Char} (hrest : s.cursor.rest = ch :: rest)
    (hflow : s.flow = 0) (hbegins : beginsPlain (ch :: rest) = true)
    (hown : s.cursor.column = 0 → ch ≠ '-' ∧ ch ≠ '.') : s.tokenAt ch = s.plainScalar := by
  have hnext : s.cursor.peekAt 1 = rest.head? := by
    rw [Cursor.peekAt, hrest]
    cases rest <;> rfl
  have hin : s.inFlow = false := by simp [inFlow, hflow]
  have hplain : s.atPlain ch = true := by
    rw [← hbegins, atPlain, beginsPlain, hnext, hin]
    rfl
  rw [beginsPlain, Bool.or_eq_true, Bool.and_eq_true] at hbegins
  rcases hbegins with hsign | ⟨hblank, hsign⟩
  · -- none of the signs
    have hsigns : ∀ sign ∈ "-?:,[]\x7b\x7d&*!|>\x27\x22%".toList, ch ≠ sign := by
      rintro sign hmem rfl
      rw [Bool.not_eq_true', Bool.or_eq_false_iff] at hsign
      have hlead : isLeadSign ch = true :=
        List.all_eq_true.mp (show "-?:,[]\x7b\x7d&*!|>\x27\x22%".toList.all isLeadSign = true by decide)
          ch hmem
      rw [hlead] at hsign
      exact absurd hsign.1 (by decide)
    simp only [String.reduceToList, List.forall_mem_cons] at hsigns
    have hpass : s.tokenAt ch = if ch = '.' && s.cursor.column = 0 && s.cursor.atMarker '.' then
        s.separator .documentEnd else s.plainScalar := by
      simp [tokenAt, hsigns, hplain]
    rw [hpass, if_neg]
    simp only [Bool.and_eq_true, decide_eq_true_eq]
    rintro ⟨⟨hdot, hzero⟩, -⟩
    exact (hown hzero).2 hdot
  · rw [Bool.not_eq_true'] at hblank
    simp only [Bool.or_eq_true, decide_eq_true_eq] at hsign
    rcases hsign with rfl | rfl | rfl
    · have hcolumn : s.cursor.column ≠ 0 := fun hzero => (hown hzero).1 rfl
      simp [tokenAt, hcolumn, hnext, hblank, hplain]
    · simp [tokenAt, hin, hnext, hblank, hplain]
    · simp [tokenAt, hin, hnext, hblank, hplain]

end Roster.Document
