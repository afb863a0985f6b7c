import Roster.Proofs.LexedLines
import Roster.Proofs.ParsedExpressions
import Roster.Source.Module

/-! # Lines with known words

What lines are read as, whatever stands before them and after them: their words, without the numbers of
the lines. Lines without literals are read by computing; a literal may hold any text that no escape and
no quote breaks off.

* `Worded`: lines with their words, on whatever line they start.
* `Worded.of_linesWords?`: the words of lines that are written out.
* `Quotable`: what can stand between double quotes.
-/

namespace Roster.Source

/-! ## Lines by their words -/

/-- What ends a line that leaves brackets open or not. -/
def endOf (pending : List String) : List Lexeme := if pending.isEmpty then [.newline] else []

/-- Lines with these words, wherever they start: with the brackets and the blocks that are open before
them and after them. -/
def Worded (p : List String) (b : List (Nat × Nat)) (lines : List (List Char)) (ls : List Lexeme)
    (p' : List String) (b' : List (Nat × Nat)) : Prop :=
  ∀ line, ∃ ts, Lined ⟨line, p, b⟩ lines ts ⟨line + lines.length, p', b'⟩ ∧ Holds ts ls

namespace Worded

variable {p p' p'' q : List String} {b b' b'' c : List (Nat × Nat)} {lines more : List (List Char)}
  {ls ms marks : List Lexeme} {cs body : List Char}

theorem done : Worded p b [] [] p b := fun _ => ⟨[], .done, rfl⟩

/-- The line behind the first one and the rest. -/
theorem next (h : Worded p b lines ls p' b') (cs : List Char) (line : Nat) :
    ∃ ts, Lined ⟨line + 1, p, b⟩ lines ts ⟨line + (cs :: lines).length, p', b'⟩ ∧ Holds ts ls := by
  have hline : line + (cs :: lines).length = line + 1 + lines.length := by
    rw [List.length_cons]
    omega
  rw [hline]
  exact h (line + 1)

theorem blank (h : Worded p b lines ls p' b') : Worded p b ([] :: lines) ls p' b' := by
  intro line
  obtain ⟨ts, hlines, hts⟩ := h.next [] line
  exact ⟨ts, .blank hlines, hts⟩

theorem comment (hbody : ∀ c ∈ body, c ≠ '\n') (h : Worded p b lines ls p' b') :
    Worded p b (('#' :: body) :: lines) ls p' b' := by
  intro line
  obtain ⟨ts, hlines, hts⟩ := h.next ('#' :: body) line
  exact ⟨ts, .comment hbody hlines, hts⟩

theorem holds_mk (line : Nat) (ls : List Lexeme) : Holds (ls.map (Token.mk line)) ls := by
  rw [Holds, List.map_map]
  exact List.map_id ls

theorem words (margin : Nat) (hwords : Words '\n' cs ls)
    (hstarts : cs.head?.any (fun c => !isGap c) = true) (hls : ls ≠ [])
    (henter : entering margin ⟨0, p, b⟩ = some (marks, c)) (htrack : trackAll p ls = some q)
    (h : Worded q c lines ms p' b') :
    Worded p b ((List.replicate margin ' ' ++ cs) :: lines) (marks ++ (ls ++ (endOf q ++ ms)))
      p' b' := by
  intro line
  obtain ⟨ts, hlines, hts⟩ := h.next (List.replicate margin ' ' ++ cs) line
  have hend : Holds (endToken line q) (endOf q) := by
    unfold endToken endOf
    cases q <;> rfl
  refine ⟨_, .words margin hwords hstarts hls henter htrack hlines, ?_⟩
  exact holds_append_iff.mpr ⟨_, _, rfl, holds_mk line marks, holds_append_iff.mpr ⟨_, _, rfl,
    holds_mk line ls, holds_append_iff.mpr ⟨_, _, rfl, hend, hts⟩⟩⟩

/-- One line of words. -/
theorem line {text : String} {all : List Lexeme} (margin : Nat) (hwords : Words '\n' cs ls)
    (htext : text.toList = List.replicate margin ' ' ++ cs)
    (hstarts : cs.head?.any (fun c => !isGap c) = true) (hls : ls ≠ [])
    (henter : entering margin ⟨0, p, b⟩ = some (marks, c)) (htrack : trackAll p ls = some q)
    (hall : marks ++ (ls ++ endOf q) = all) : Worded p b [text.toList] all q c := by
  have hline := words margin hwords hstarts hls henter htrack .done
  rwa [← htext, List.append_nil, hall] at hline

theorem append (hfirst : Worded p b lines ls p' b') (hlast : Worded p' b' more ms p'' b'') :
    Worded p b (lines ++ more) (ls ++ ms) p'' b'' := by
  intro line
  obtain ⟨ts, hlines, hts⟩ := hfirst line
  obtain ⟨us, hmore, hus⟩ := hlast (line + lines.length)
  rw [List.length_append, ← Nat.add_assoc]
  exact ⟨ts ++ us, hlines.append hmore, holds_append_iff.mpr ⟨ts, us, rfl, hts, hus⟩⟩

end Worded

/-- The words of lines without literals, numbers and comments, found by computing. -/
def linesWords? (p : List String) (b : List (Nat × Nat)) :
    List String → Option (List Lexeme × List String × List (Nat × Nat))
  | [] => some ([], p, b)
  | text :: rest =>
    if text.toList = [] then linesWords? p b rest
    else
      let cs := text.toList.dropWhile (· = ' ')
      (plainWords? '\n' (cs.length + 1) cs).bind fun ls =>
        if ls = [] ∨ cs.head?.any isGap then none
        else
          (entering (text.toList.takeWhile (· = ' ')).length ⟨0, p, b⟩).bind fun r =>
            (trackAll p ls).bind fun q =>
              (linesWords? q r.2 rest).map fun s => (r.1 ++ (ls ++ (endOf q ++ s.1)), s.2)

theorem margin_eq_replicate (text : String) :
    text.toList.takeWhile (· = ' ')
      = List.replicate (text.toList.takeWhile (· = ' ')).length ' ' := by
  refine List.eq_replicate_of_mem fun c hc => ?_
  simpa using List.mem_takeWhile_imp hc

theorem Worded.of_linesWords? {p p' : List String} {b b' : List (Nat × Nat)} {lines : List String}
    {ls : List Lexeme} (h : linesWords? p b lines = some (ls, p', b')) :
    Worded p b (lines.map String.toList) ls p' b' := by
  induction lines generalizing p b ls with
  | nil =>
    obtain ⟨rfl, rfl, rfl⟩ : ls = [] ∧ p' = p ∧ b' = b := by simpa [linesWords?, eq_comm] using h
    exact .done
  | cons text lines ih =>
    rw [linesWords?] at h
    split at h
    · rename_i hblank
      rw [List.map_cons, hblank]
      exact .blank (ih h)
    · obtain ⟨ms, hwords, h⟩ := Option.bind_eq_some_iff.mp h
      split at h
      · cases h
      · rename_i hstarts
        rw [not_or] at hstarts
        obtain ⟨⟨marks, c⟩, henter, h⟩ := Option.bind_eq_some_iff.mp h
        obtain ⟨q, htrack, h⟩ := Option.bind_eq_some_iff.mp h
        obtain ⟨⟨more, p'', b''⟩, hmore, heq⟩ := Option.map_eq_some_iff.mp h
        obtain ⟨rfl, hends⟩ := Prod.mk.inj heq
        obtain ⟨rfl, rfl⟩ := Prod.mk.inj hends
        have hread := Words.of_plainWords? hwords
        -- the blanks in front are the margin, and the first word starts behind them
        have hmargin := margin_eq_replicate text
        have hfirst : (text.toList.dropWhile (· = ' ')).head?.any (fun c => !isGap c) = true := by
          cases hchars : text.toList.dropWhile (· = ' ') with
          | nil =>
            rw [hchars] at hwords
            exact absurd (Option.some.inj hwords).symm hstarts.1
          | cons c cs =>
            rw [hchars] at hstarts
            simpa using hstarts.2
        have hline := Worded.words _ hread hfirst hstarts.1 henter htrack (ih hmore)
        rw [← hmargin, List.takeWhile_append_dropWhile] at hline
        exact hline

/-- The words of a closed piece of a line. -/
theorem Words.of_text {next : Char} (text : String) (ls : List Lexeme)
    (h : plainWords? next (text.length + 1) text.toList = some ls) : Words next text.toList ls :=
  .of_plainWords? h

/-! ## Literals -/

/-- A text that can stand between double quotes as it is. -/
structure Quotable (body : List Char) : Prop where
  passes : Passes '\x22' body
  oneLine : ∀ c ∈ body, c ≠ '\n'
  head : body.head? ≠ some '\x22'
  escapes : escapesOk false body = true

namespace Quotable

variable {body : List Char}

theorem plain (h : ∀ c ∈ body, c ≠ '\\' ∧ c ≠ '\x22' ∧ c ≠ '\n') : Quotable body where
  passes := .plain h
  oneLine := fun c hc => (h c hc).2.2
  head := by
    cases body with
    | nil => simp
    | cons c body => simpa using (h c List.mem_cons_self).2.1
  escapes := by
    have hescapes := Text.escapesOk_append (fun c hc => (h c hc).1) []
    rwa [List.append_nil] at hescapes

theorem escaped (cs : List Char) : Quotable (cs.flatMap Text.escapeChar) where
  passes := .flatMap fun c _ => passes_escapeChar c
  oneLine := by
    rintro d hd rfl
    obtain ⟨c, -, hd⟩ := List.mem_flatMap.mp hd
    exact absurd (Text.le_of_mem_escapeChar hd) (by decide)
  head := by
    cases cs with
    | nil => simp
    | cons c cs =>
      obtain ⟨first, more, hchars, hfirst⟩ := escapeChar_head c
      simp [List.flatMap_cons, hchars, hfirst]
  escapes := by
    have hescapes := Text.escapesOk_escaped cs []
    rwa [List.append_nil] at hescapes

/-- A literal with words in front and behind. -/
theorem words (h : Quotable body) {front back : List Char} {ls ms : List Lexeme}
    (hfront : Words '\x22' front ls) (hback : Words '\n' back ms)
    (hnext : back.headD '\n' ≠ '\x22') :
    Words '\n' (front ++ ('\x22' :: body ++ ['\x22'] ++ back)) (ls ++ quotedLiteral body :: ms) :=
  .append hfront (.word (.literal h.passes h.oneLine h.head hnext) hback)

end Quotable

/-- Whether a word is no literal, or one without expressions whose escapes are complete. -/
def wellFormed : Lexeme → Bool
  | .literal l => !l.formatted && !l.bytes && l.plainOk
  | _ => true

theorem Quotable.wellFormed {body : List Char} (h : Quotable body) :
    Source.wellFormed (quotedLiteral body) = true := by
  simp [Source.wellFormed, quotedLiteral, StringLiteral.plainOk, h.escapes]

theorem literalParts?_of_wellFormed {ts : List Token} (h : ∀ t ∈ ts, wellFormed t.lexeme = true)
    {before : Option Bool} (hbefore : before ≠ some true) : literalParts? before ts = some [] := by
  induction ts generalizing before with
  | nil => rfl
  | cons t ts ih =>
    rw [List.forall_mem_cons] at h
    rcases t with ⟨line, l⟩
    cases l with
    | literal l =>
      have hl := h.1
      simp only [wellFormed, Bool.and_eq_true, Bool.not_eq_true'] at hl
      obtain ⟨⟨hformatted, hbytes⟩, hplain⟩ := hl
      have hlater : literalParts? (some l.bytes) ts = some [] := ih h.2 (by simp [hbytes])
      have hside : before.any (· ≠ l.bytes) = false := by
        cases before with
        | none => rfl
        | some b =>
          have hb : b = false := by simpa using hbefore
          simp [hb, hbytes]
      rw [literalParts?]
      simp only [hside, Bool.false_eq_true, if_false]
      simp [StringLiteral.parts?, hformatted, hplain, hlater]
    | _ => exact ih h.2 (by simp)

/-- Tokens whose literals hold no expressions hold none that is wrong. -/
theorem literalsOk_of_wellFormed {ts : List Token} (h : ∀ t ∈ ts, wellFormed t.lexeme = true)
    (depth : Nat) : literalsOk (depth + 1) ts = true := by
  rw [literalsOk, literalParts?_of_wellFormed h (by simp)]
  rfl

theorem Holds.all_wellFormed {ts : List Token} {ls : List Lexeme} (h : Holds ts ls)
    (hls : ls.all wellFormed = true) : ∀ t ∈ ts, wellFormed t.lexeme = true := by
  intro t ht
  rw [← h, List.all_map, List.all_eq_true] at hls
  exact hls t ht

end Roster.Source
