import Roster.Proofs.PlainLines

/-! # Pairs on lines

A document that is one map under a heading, each of its pairs on a line of its own: a key, a colon and a
value, all with the same indentation.

* `Scan.run_key`: a key and its colon are three tokens, or four where they open a map.
* `Scan.run_value`: the value behind the colon is one more.
* `Token.ofText_headedPairs`: the tokens of the whole document.
-/

namespace Roster.Document

namespace Scan

variable {tail gap rest : List Char} {line column index fuel : Nat} {ts : List Token}
  {indent : Int} {indents : List Int}

/-! ## What leaves the place where it is -/

/-- Blanks in front of a token are passed over. -/
theorem toNextToken_gap {s : Scan} (gap : List Char) (hs : s.cursor = ⟨gap ++ rest, line, column, index⟩)
    (hgap : ∀ ch ∈ gap, ch = ' ') (hspace : rest.head? ≠ some ' ') (hhash : rest.head? ≠ some '#')
    (hbreak : rest.head?.any isBreak = false) (n : Nat) :
    toNextToken (n + 1) s
      = { s with cursor := ⟨rest, line, column + gap.length, index + gap.length⟩ } := by
  have htest : ∀ ch ∈ gap, decide (ch = ' ') = true := fun ch hch => decide_eq_true (hgap ch hch)
  have hline : ∀ ch ∈ gap, isBreak ch = false := by
    intro ch hch
    rw [hgap ch hch]
    rfl
  have hstop : (rest.head?.any fun ch => decide (ch = ' ')) = false := by
    cases hhead : rest.head? with
    | none => rfl
    | some ch => exact decide_eq_false fun heq => hspace (hhead.trans (congrArg some heq))
  have hspaces : s.cursor.dropSpaces = ⟨rest, line, column + gap.length, index + gap.length⟩ := by
    rw [hs, Cursor.dropSpaces, Cursor.dropWhile, Cursor.takeWhile_line htest hstop hline,
      room_of_forall_eq hgap]
  have hcomment : ¬ Cursor.peek ⟨rest, line, column + gap.length, index + gap.length⟩ = some '#' := hhash
  rw [toNextToken, hspaces, Cursor.dropComment, if_neg hcomment]
  simp [Cursor.peek, hbreak]

/-- Where a token begins, nothing is passed over. -/
theorem toNextToken_here {s : Scan} (hspace : s.cursor.rest.head? ≠ some ' ')
    (hhash : s.cursor.rest.head? ≠ some '#') (hbreak : s.cursor.rest.head?.any isBreak = false) (n : Nat) :
    toNextToken (n + 1) s = s :=
  toNextToken_gap [] rfl (by simp) hspace hhash hbreak n

/-- So are a line's end and the blanks behind it; there a key may begin. -/
theorem toNextToken_lineFeed {s : Scan} (hs : s.cursor = ⟨'\n' :: (gap ++ rest), line, column, index⟩)
    (hflow : s.flow = 0) (hgap : ∀ ch ∈ gap, ch = ' ') (hspace : rest.head? ≠ some ' ')
    (hhash : rest.head? ≠ some '#') (hbreak : rest.head?.any isBreak = false) (n : Nat) :
    toNextToken (n + 2) s
      = { s with cursor := ⟨rest, line + 1, gap.length, index + 1 + gap.length⟩, allowKey := true } := by
  have hspaces : s.cursor.dropSpaces = s.cursor := by
    rw [hs]
    rfl
  have hcomment : ¬ s.cursor.peek = some '#' := by
    rw [hs]
    simp [Cursor.peek]
  have hfeed : s.cursor.peek.any isBreak = true := by
    rw [hs]
    rfl
  rw [toNextToken, hspaces, Cursor.dropComment, if_neg hcomment]
  simp only [hfeed, if_true, inFlow, hflow]
  rw [hs, Cursor.takeBreak_lineFeed]
  simp only [ne_eq, not_true_eq_false, decide_false, Bool.false_eq_true, if_false]
  rw [toNextToken_gap gap rfl hgap hspace hhash hbreak, Nat.zero_add]

/-- Nothing is closed where the place is not left of the indentation. -/
theorem unwind_of_le {s : Scan} (h : s.indent ≤ s.cursor.column) : s.unwind s.cursor.column = s := by
  rw [unwind]
  split
  · rfl
  · cases s.indents with
    | nil => rfl
    | cons outer rest =>
      rw [unwindTo, if_neg]
      omega

/-- A token is put between two parts of the sequence. -/
theorem putAt_append {s : Scan} {before later : List Token} (h : s.tokens = (before ++ later).toArray)
    (t : Token) :
    s.putAt before.length t = { s with tokens := (before ++ t :: later).toArray } := by
  simp [putAt, h]

/-! ## One step -/

/-- A step of the run at a token, once the blanks in front of it are passed over. -/
theorem run_token {s s' next : Scan} {ch : Char}
    (hskip : toNextToken (s.cursor.rest.length + 1) s = s')
    (hkeys : ∀ k ∈ s'.keys, k.line = s'.cursor.line ∧ s'.cursor.index - k.index ≤ 1024)
    (hindent : s'.indent ≤ s'.cursor.column) (hpeek : s'.cursor.peek = some ch)
    (htoken : s'.tokenAt ch = .ok next) : run (fuel + 1) s = run fuel next := by
  have hfresh : s'.dropStaleKeys = .ok s' := by
    have hstale : ∀ k ∈ s'.keys,
        (decide (k.line ≠ s'.cursor.line) || decide (s'.cursor.index - k.index > 1024)) = false := by
      intro k hk
      obtain ⟨hline, hnear⟩ := hkeys k hk
      simp [hline, hnear]
    have hkept : s'.keys.filter (fun k => !(decide (k.line ≠ s'.cursor.line)
        || decide (s'.cursor.index - k.index > 1024))) = s'.keys :=
      List.filter_eq_self.mpr fun k hk => by rw [hstale k hk]; rfl
    rw [dropStaleKeys, if_neg, hkept]
    simp only [List.any_eq_true, not_exists, not_and, Bool.and_eq_true, not_and]
    intro k hk hold
    rw [hstale k hk] at hold
    contradiction
  rw [run]
  simp only [hskip, hfresh, unwind_of_le hindent, hpeek, htoken]

/-! ## Keys and values -/

/-- A colon with a blank behind it ends a plain scalar. -/
theorem plainRun_colon (h : blankOrEnd tail.head? = true) : plainRun false (':' :: tail) = 0 := by
  simp [plainRun, stopsPlain, h]

theorem scanPlainSpaces_colon :
    scanPlainSpaces ⟨':' :: tail, line, column, index⟩ = ([], ⟨':' :: tail, line, column, index⟩, false) := by
  have hnone : ∀ ch ∈ ([] : List Char), ch = ' ' := by simp
  exact scanPlainSpaces_gap hnone (by simp) rfl

/-- The text of a key is noted as one that may be a key. -/
theorem plainScalar_key {key : String} (h : IsPlain ':' key) (htail : blankOrEnd tail.head? = true)
    (hindent : indent ≤ column) :
    plainScalar ⟨⟨key.toList ++ ':' :: tail, line, column, index⟩, ts.toArray, 0, indent, indents, true, []⟩
      = .ok ⟨⟨':' :: tail, line, column + room key.toList, index + key.toList.length⟩,
          (ts ++ [Token.scalar true key]).toArray, 0, indent, indents, false,
          [⟨0, ts.length, decide (indent = column), index, line, column⟩]⟩ := by
  obtain ⟨ch, rest, hkey, hspace, hhash, -⟩ := h.exists_cons
  have hscan : scanPlainRuns false (indent + 1) ((key.toList ++ ':' :: tail).length + 1) [] false
      ⟨key.toList ++ ':' :: tail, line, column, index⟩
        = (key.toList, ⟨':' :: tail, line, column + room key.toList, index + key.toList.length⟩, false) := by
    refine scanPlainRuns_line h.toGoesOn (by simp [hkey]) (by simp [hkey, hspace]) (by simp [hkey, hhash])
      (plainRun_colon htail) ?_ (by omega) scanPlainSpaces_colon (.inl rfl) [] false
    rw [List.length_append]
    omega
  have hin : decide ((0 : Int) ≠ 0) = false := rfl
  simp only [plainScalar, saveKey, dropKey, inFlow, bind, Except.bind, List.any_nil, Bool.false_eq_true,
    if_false, if_true, List.filter_nil, List.nil_append, hin, hscan]
  simp [taken, push]

/-- A colon with a blank behind it makes a key of what was noted, and opens a map if the key stands
right of the indentation. -/
theorem valueSign_key {key : String} {required : Bool} {column' index' : Nat} (hindent : indent ≤ column) :
    valueSign ⟨⟨':' :: tail, line, column', index'⟩, (ts ++ [Token.scalar true key]).toArray, 0, indent, indents,
        false, [⟨0, ts.length, required, index, line, column⟩]⟩
      = .ok ⟨⟨tail, line, column' + 1, index' + 1⟩,
          (ts ++ (if indent < column then [Token.blockMappingStart] else [])
            ++ [Token.key, Token.scalar true key, Token.value]).toArray, 0, column,
          if indent < column then indent :: indents else indents, false, []⟩ := by
  have hfound : [KeyPlace.mk 0 ts.length required index line column].find? (fun k => k.level = 0)
      = some ⟨0, ts.length, required, index, line, column⟩ := rfl
  have hnext : Cursor.skip 1 ⟨':' :: tail, line, column', index'⟩ = ⟨tail, line, column' + 1, index' + 1⟩ := by
    simp [Cursor.skip, Cursor.next, isBreak]
  have hkey := putAt_append (s := ⟨⟨':' :: tail, line, column', index'⟩,
    (ts ++ [Token.scalar true key]).toArray, 0, indent, indents, false, []⟩) rfl Token.key
  rw [valueSign]
  simp only [hfound, List.filter_cons, decide_not, decide_true, Bool.not_true, Bool.false_eq_true, if_false,
    List.filter_nil, hkey, inFlow]
  by_cases hopen : indent < column
  · have hmap := putAt_append (s := ⟨⟨':' :: tail, line, column', index'⟩,
      (ts ++ [Token.key, Token.scalar true key]).toArray, 0, column, indent :: indents, false, []⟩) rfl
      Token.blockMappingStart
    simp [addIndent, hopen, hmap, sign, push, hnext]
  · have hsame : indent = column := by omega
    simp [addIndent, hsame, sign, push, hnext]

/-- The text of a value, up to where the next line's text begins. -/
theorem plainScalar_value {value : String} (h : IsPlain '\n' value) (hgap : ∀ ch ∈ gap, ch = ' ')
    (hne : rest ≠ [] → gap ≠ []) (hspace : rest.head? ≠ some ' ') (hbreak : rest.head?.any isBreak = false)
    (hindent : indent ≤ column) (hnear : (gap.length : Int) ≤ indent) :
    plainScalar ⟨⟨value.toList ++ '\n' :: (gap ++ rest), line, column, index⟩, ts.toArray, 0, indent, indents,
        false, []⟩
      = .ok ⟨⟨rest, line + 1, gap.length, index + value.toList.length + 1 + gap.length⟩,
          (ts ++ [Token.scalar true value]).toArray, 0, indent, indents, true, []⟩ := by
  obtain ⟨ch, more, hvalue, hstart, hhash, -⟩ := h.exists_cons
  have hscan : scanPlainRuns false (indent + 1) ((value.toList ++ '\n' :: (gap ++ rest)).length + 1) [] false
      ⟨value.toList ++ '\n' :: (gap ++ rest), line, column, index⟩
        = (value.toList, ⟨rest, line + 1, gap.length, index + value.toList.length + 1 + gap.length⟩, true) := by
    refine scanPlainRuns_line h.toGoesOn (by simp [hvalue]) (by simp [hvalue, hstart])
      (by simp [hvalue, hhash]) rfl ?_ (by omega) (scanPlainSpaces_lineFeed hgap hne hspace hbreak)
      (.inr ?_) [] false
    · rw [List.length_append]
      omega
    · dsimp only
      omega
  have hin : decide ((0 : Int) ≠ 0) = false := rfl
  simp only [plainScalar, saveKey, inFlow, bind, Except.bind, Bool.false_eq_true, if_false, hin, hscan]
  simp [taken, push]

/-! ## Two steps for a key, one for a value -/

theorem tokenAt_colon {s : Scan} (hrest : s.cursor.rest = ':' :: tail) (htail : blankOrEnd tail.head? = true) :
    s.tokenAt ':' = s.valueSign := by
  have hnext : s.cursor.peekAt 1 = tail.head? := by
    rw [Cursor.peekAt, hrest]
    cases tail <;> rfl
  simp [tokenAt, hnext, htail]

/-- A key and its colon are read as a key, which opens a map if it stands right of the indentation. -/
theorem run_key (fuel : Nat) {s : Scan} {key : String} (hkey : IsPlain ':' key) (hshort : key.toList.length ≤ 1024)
    (htail : blankOrEnd tail.head? = true) (hindent : indent ≤ column)
    (hown : column = 0 → key.toList.head? ≠ some '-' ∧ key.toList.head? ≠ some '.')
    (hskip : toNextToken (s.cursor.rest.length + 1) s
      = ⟨⟨key.toList ++ ':' :: tail, line, column, index⟩, ts.toArray, 0, indent, indents, true, []⟩) :
    run (fuel + 2) s = run fuel
      ⟨⟨tail, line, column + room key.toList + 1, index + key.toList.length + 1⟩,
        (ts ++ (if indent < column then [Token.blockMappingStart] else [])
          ++ [Token.key, Token.scalar true key, Token.value]).toArray, 0, column,
        if indent < column then indent :: indents else indents, false, []⟩ := by
  obtain ⟨ch, rest, hchars, -, -, -⟩ := hkey.exists_cons
  have hplain := beginsPlain_append (by simp [hchars]) hkey.begins tail
  rw [hchars, List.cons_append] at hplain
  have hfirst := (tokenAt_plain (s := ⟨⟨key.toList ++ ':' :: tail, line, column, index⟩, ts.toArray, 0, indent,
    indents, true, []⟩) (by rw [hchars]; rfl) rfl hplain (by simpa [hchars] using hown)).trans
    (plainScalar_key hkey htail hindent)
  rw [run_token hskip (by simp) hindent (by simp [Cursor.peek, hchars]) hfirst]
  refine run_token (toNextToken_here (by simp) (by simp) rfl _) ?_ ?_ rfl
    ((tokenAt_colon rfl htail).trans (valueSign_key hindent))
  · intro k hk
    obtain rfl := List.mem_singleton.mp hk
    refine ⟨rfl, ?_⟩
    dsimp only
    omega
  · dsimp only
    omega

/-- The value behind a colon, up to where the next line's text begins. -/
theorem run_value (gap rest : List Char) {value : String} (hvalue : IsPlain '\n' value) (hgap : ∀ ch ∈ gap, ch = ' ')
    (hne : rest ≠ [] → gap ≠ []) (hspace : rest.head? ≠ some ' ') (hbreak : rest.head?.any isBreak = false)
    (hindent : indent ≤ column) (hnear : (gap.length : Int) ≤ indent) :
    run (fuel + 1) ⟨⟨' ' :: (value.toList ++ '\n' :: (gap ++ rest)), line, column, index⟩, ts.toArray, 0,
        indent, indents, false, []⟩
      = run fuel ⟨⟨rest, line + 1, gap.length, index + 1 + value.toList.length + 1 + gap.length⟩,
          (ts ++ [Token.scalar true value]).toArray, 0, indent, indents, true, []⟩ := by
  obtain ⟨ch, more, hchars, hstart, hhash, hline⟩ := hvalue.exists_cons
  have hplain := beginsPlain_append (by simp [hchars]) hvalue.begins (gap ++ rest)
  rw [hchars, List.cons_append] at hplain
  have hhead : (value.toList ++ '\n' :: (gap ++ rest)).head? = some ch := by simp [hchars]
  have hskip := toNextToken_gap [' '] (s := ⟨⟨' ' :: (value.toList ++ '\n' :: (gap ++ rest)), line,
    column, index⟩, ts.toArray, 0, indent, indents, false, []⟩) rfl (by simp) (by simpa [hhead] using hstart)
    (by simpa [hhead] using hhash) (by simpa [hhead] using hline)
  have htoken := (tokenAt_plain (s := ⟨⟨value.toList ++ '\n' :: (gap ++ rest), line, column + 1, index + 1⟩,
    ts.toArray, 0, indent, indents, false, []⟩) (by rw [hchars]; rfl) rfl hplain (by simp)).trans
    (plainScalar_value hvalue hgap hne hspace hbreak (by push_cast; omega) hnear)
  refine run_token (hskip _) (by simp) ?_ hhead htoken
  dsimp only
  push_cast
  omega

/-- At the end of the text both maps are closed. -/
theorem run_end {width : Nat} (hwidth : 0 < width) :
    run (fuel + 1) ⟨⟨[], line, 0, index⟩, ts.toArray, 0, width, [0, -1], true, []⟩
      = (ts ++ [Token.blockEnd, Token.blockEnd, Token.streamEnd]).toArray := by
  have hnext : toNextToken 1 ⟨⟨[], line, 0, index⟩, ts.toArray, 0, width, [0, -1], true, []⟩
      = ⟨⟨[], line, 0, index⟩, ts.toArray, 0, width, [0, -1], true, []⟩ :=
    toNextToken_here (by simp) (by simp) rfl 0
  simp [run, hnext, dropStaleKeys, unwind, inFlow, unwindTo, hwidth, push, Cursor.peek, dropKey]

end Scan

/-! ## Lines -/

/-- A pair on a line, without its indentation. -/
def pairBody (p : String × String) : List Char :=
  p.1.toList ++ ':' :: ' ' :: (p.2.toList ++ ['\n'])

/-- A pair on a line. -/
def pairLine (width : Nat) (p : String × String) : List Char := List.replicate width ' ' ++ pairBody p

/-- The lines of pairs, cut behind the colon of the first one. -/
theorem flatMap_pairLine_cons (width : Nat) (p : String × String) (pairs : List (String × String)) :
    (p :: pairs).flatMap (pairLine width)
      = List.replicate width ' ' ++ (p.1.toList ++ ':' :: ' ' ::
        (p.2.toList ++ '\n' :: pairs.flatMap (pairLine width))) := by
  simp [pairLine, pairBody]

/-- The tokens of a pair. -/
def pairTokens (p : String × String) : List Token :=
  [.key, .scalar true p.1, .value, .scalar true p.2]

/-- A key and a value that a line can hold as plain scalars; a key has to be near its colon. -/
structure IsPairLine (p : String × String) : Prop where
  key : IsPlain ':' p.1
  short : p.1.toList.length ≤ 1024
  value : IsPlain '\n' p.2

namespace Scan

/-- What follows a key of the inner map: its value, and the pairs of the lines below. -/
theorem run_pairs {width : Nat} (hwidth : 0 < width) {value : String} (hvalue : IsPlain '\n' value)
    {pairs : List (String × String)} (h : ∀ p ∈ pairs, IsPairLine p) (hcolumn : width ≤ column) :
    run (fuel + (3 * pairs.length + 2))
        ⟨⟨' ' :: (value.toList ++ '\n' :: pairs.flatMap (pairLine width)), line, column, index⟩, ts.toArray,
          0, width, [0, -1], false, []⟩
      = (ts ++ Token.scalar true value :: pairs.flatMap pairTokens
          ++ [Token.blockEnd, Token.blockEnd, Token.streamEnd]).toArray := by
  -- a turn starts behind a colon: it reads a value, and from the next line the key and its colon
  induction pairs generalizing value line column index ts with
  | nil =>
    change run (fuel + 1 + 1) _ = _
    exact (run_value [] [] hvalue (by simp) (by simp) (by simp) rfl (Int.ofNat_le.mpr hcolumn)
      (by simp)).trans (run_end hwidth)
  | cons p pairs ih =>
    obtain ⟨hp, hpairs⟩ := List.forall_mem_cons.mp h
    obtain ⟨ch, rest, hchars, hspace, hhash, hbreak⟩ := hp.key.exists_cons
    have hhead : (p.1.toList ++ ':' :: ' ' :: (p.2.toList ++ '\n' :: pairs.flatMap (pairLine width))).head?
        = some ch := by
      simp [hchars]
    have hskip := toNextToken_here (s := ⟨⟨p.1.toList ++ ':' :: ' ' :: (p.2.toList ++ '\n' ::
      pairs.flatMap (pairLine width)), line + 1, width, index + 1 + value.toList.length + 1 + width⟩,
      (ts ++ [Token.scalar true value]).toArray, 0, width, [0, -1], true, []⟩) (by simpa [hhead] using hspace)
      (by simpa [hhead] using hhash) (by simpa [hhead] using hbreak)
    have hkey := run_key (fuel + (3 * pairs.length + 2)) hp.key hp.short rfl (Int.le_refl _) (by omega)
      (hskip _)
    have hfuel : fuel + (3 * (p :: pairs).length + 2) = fuel + (3 * pairs.length + 2) + 2 + 1 := by
      rw [List.length_cons]
      omega
    simp only [Int.lt_irrefl, if_false, List.append_nil] at hkey
    rw [flatMap_pairLine_cons, hfuel, run_value (List.replicate width ' ') _ hvalue
      (fun ch hch => List.eq_of_mem_replicate hch) (by simp; omega) (by simpa [hhead] using hspace)
      (by simpa [hhead] using hbreak) (Int.ofNat_le.mpr hcolumn) (by simp), List.length_replicate, hkey,
      ih hp.value hpairs (by omega)]
    simp [pairTokens]

end Scan

/-! ## Documents -/

/-- A heading that stands at the front of a document as a key. -/
structure IsHeading (heading : String) : Prop where
  key : IsPlain ':' heading
  short : heading.toList.length ≤ 1024
  front : ∀ ch ∈ ['-', '.', Char.ofNat 0xFEFF], heading.toList.head? ≠ some ch

/-- A heading and pairs on the lines below it. -/
def headedPairs (heading : String) (width : Nat) (pairs : List (String × String)) : String :=
  String.ofList (heading.toList ++ ':' :: '\n' :: pairs.flatMap (pairLine width))

theorem isPermitted_of_mem_pairLine {width : Nat} {p : String × String} (h : IsPairLine p) :
    ∀ ch ∈ pairLine width p, isPermitted ch = true := by
  intro ch hch
  simp only [pairLine, pairBody, List.mem_append, List.mem_cons, List.not_mem_nil, or_false] at hch
  rcases hch with hgap | hkey | rfl | rfl | hvalue | rfl
  · rw [List.eq_of_mem_replicate hgap]
    rfl
  · exact h.key.permitted ch hkey
  · rfl
  · rfl
  · exact h.value.permitted ch hvalue
  · rfl

/-- A line has no carriage return. -/
theorem notMem_pairLine {width : Nat} {p : String × String} (h : IsPairLine p) : '\r' ∉ pairLine width p := by
  simp only [pairLine, pairBody, List.mem_append, List.mem_cons, List.not_mem_nil, or_false]
  rintro (hgap | hkey | hcolon | hblank | hvalue | hfeed)
  · exact absurd (List.eq_of_mem_replicate hgap) (by decide)
  · exact absurd (h.key.line '\r' hkey).1 (by decide)
  · exact absurd hcolon (by decide)
  · exact absurd hblank (by decide)
  · exact absurd (h.value.line '\r' hvalue).1 (by decide)
  · exact absurd hfeed (by decide)

theorem length_le_flatMap_pairLine (width : Nat) (pairs : List (String × String)) :
    3 * pairs.length ≤ (pairs.flatMap (pairLine width)).length := by
  induction pairs with
  | nil => simp
  | cons p pairs ih =>
    have hline : 3 ≤ (pairLine width p).length := by
      simp [pairLine, pairBody]
      omega
    rw [List.flatMap_cons, List.length_append, List.length_cons]
    omega

theorem all_isPermitted_headedPairs {heading : String} {width : Nat} {pairs : List (String × String)}
    (hheading : IsHeading heading) (h : ∀ p ∈ pairs, IsPairLine p) :
    (headedPairs heading width pairs).toList.all isPermitted = true := by
  rw [headedPairs, String.toList_ofList, List.all_eq_true]
  intro c hc
  simp only [List.mem_append, List.mem_cons, List.mem_flatMap] at hc
  rcases hc with hc | rfl | rfl | ⟨q, hq, hc⟩
  · exact hheading.key.permitted c hc
  · rfl
  · rfl
  · exact isPermitted_of_mem_pairLine (h q hq) c hc

/-- The tokens of a heading with pairs below it are those of a map in a map. -/
theorem Token.ofText_headedPairs {heading : String} {width : Nat} {pairs : List (String × String)}
    (hheading : IsHeading heading) (hwidth : 0 < width) (hne : pairs ≠ []) (h : ∀ p ∈ pairs, IsPairLine p) :
    Token.ofText (headedPairs heading width pairs)
      = [.blockMappingStart, .key, .scalar true heading, .value, .blockMappingStart]
        ++ pairs.flatMap pairTokens ++ [.blockEnd, .blockEnd, .streamEnd] := by
  obtain ⟨p, pairs, rfl⟩ := List.exists_cons_of_ne_nil hne
  obtain ⟨hp, hpairs⟩ := List.forall_mem_cons.mp h
  obtain ⟨first, more, hfirst, hfirstSpace, hfirstHash, hfirstBreak⟩ := hheading.key.exists_cons
  obtain ⟨ch, rest, hchars, hspace, hhash, hbreak⟩ := hp.key.exists_cons
  have hpermitted := @all_isPermitted_headedPairs heading width (p :: pairs) hheading h
  have hmark : ¬ Cursor.peek ⟨heading.toList ++ ':' :: '\n' :: (p :: pairs).flatMap (pairLine width), 0, 0, 0⟩
      = some (Char.ofNat 0xFEFF) := by
    have hfront := hheading.front (Char.ofNat 0xFEFF) (by decide)
    simpa [Cursor.peek, hfirst] using hfront
  have hhead : (p.1.toList ++ ':' :: ' ' :: (p.2.toList ++ '\n' :: pairs.flatMap (pairLine width))).head?
      = some ch := by
    simp [hchars]
  -- two steps for each of the first two keys, and two more to end with; the rest is the run's own
  obtain ⟨fuel, hfuel⟩ : ∃ fuel, (heading.toList ++ ':' :: '\n' :: (p :: pairs).flatMap (pairLine width)).length
      + 1 = fuel + (3 * pairs.length + 2) + 2 + 2 := by
    have hlength := length_le_flatMap_pairLine width (p :: pairs)
    refine ⟨_, (Nat.sub_add_cancel (m := 3 * pairs.length + 2 + 2 + 2) ?_).symm⟩
    simp only [List.length_append, List.length_cons, hfirst] at hlength ⊢
    omega
  rw [headedPairs, String.toList_ofList] at hpermitted
  rw [Token.ofText, headedPairs, String.toList_ofList]
  simp only [hpermitted, Bool.not_true, Bool.false_eq_true, if_false, if_neg hmark]
  rw [hfuel]
  -- the heading opens the outer map, the first key the inner one
  have hstart := Scan.toNextToken_here (s := ⟨⟨heading.toList ++ ':' :: '\n' :: (p :: pairs).flatMap
    (pairLine width), 0, 0, 0⟩, #[], 0, -1, [], true, []⟩) (by simpa [hfirst] using hfirstSpace)
    (by simpa [hfirst] using hfirstHash) (by simpa [hfirst] using hfirstBreak)
  have hfront := Scan.run_key (fuel + (3 * pairs.length + 2) + 2) hheading.key hheading.short rfl
    (by decide) (fun _ => ⟨hheading.front _ (by decide), hheading.front _ (by decide)⟩) (hstart _)
  have hskip := Scan.toNextToken_lineFeed (s := ⟨⟨'\n' :: (List.replicate width ' ' ++ (p.1.toList ++ ':' :: ' ' ::
      (p.2.toList ++ '\n' :: pairs.flatMap (pairLine width)))), 0, 0 + room heading.toList + 1,
      0 + heading.toList.length + 1⟩,
      [Token.blockMappingStart, Token.key, Token.scalar true heading, Token.value].toArray, 0, 0, [-1], false, []⟩)
    rfl rfl (fun ch hch => List.eq_of_mem_replicate hch) (by simpa [hhead] using hspace)
    (by simpa [hhead] using hhash) (by simpa [hhead] using hbreak)
  simp only [List.length_replicate] at hskip
  have hkey := Scan.run_key (fuel + (3 * pairs.length + 2)) hp.key hp.short rfl (by omega) (by omega)
    (hskip _)
  have hopen : (0 : Int) < width := by omega
  simp only [hopen, if_true] at hkey
  rw [hfront, flatMap_pairLine_cons]
  refine (congrArg Array.toList (hkey.trans (Scan.run_pairs hwidth hp.value hpairs (by omega)))).trans ?_
  simp [pairTokens]

end Roster.Document
