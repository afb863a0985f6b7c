import Mathlib.Data.List.Find
import Mathlib.Data.List.TakeWhile
import Roster.Proofs.FieldListing

/-! # Lines and their words

The tokens of a text are found line by line. A word is cut off where the character after it ends it,
whatever comes later; words and blanks make up a line; and lines, each with its margin, make up a text.
Every judgement here is about a piece of a text with what really follows it, so that pieces can be put
together without reading a word again.

* `Cut` and `Words`: one word, and the words of a piece of a line.
* `plainWords?`: the words of a piece without literals are found by computing; `Words.of_plainWords?`.
* `Lined`: whole lines, with the blocks that their margins open and close.
* `Lined.tokens?`: the tokens of a text are those of its lines.
-/

namespace Roster.Source

/-! ## Words -/

/-- A piece of a text that is one word where the character `next` follows. It runs over no end of a
line and starts neither like a blank nor like a comment. -/
structure Cut (next : Char) (w : List Char) (l : Lexeme) : Prop where
  starts : ∃ c more, w = c :: more ∧ isGap c = false ∧ c ≠ '#' ∧ c ≠ '\n' ∧ c ≠ '\\'
  reads : ∀ rest, lexeme? (w ++ next :: rest) = some (l, next :: rest)
  lines : l.lineCount = 0

/-- A text that is a name of its own: composed, if that can make a difference, and not reserved. -/
structure IsName (w : String) : Prop where
  proper : Text.isIdentifier w.toList = true
  free : w ∉ reservedWords
  composed : w.toList.all (·.toNat < 128) = true ∨ Text.composed w.toList = w.toList

/-- The word that a name is read as. -/
def named (w : String) (h : Text.isIdentifier w.toList = true := by decide) : Lexeme :=
  .name w ⟨w, h⟩

theorem isWordStart_of_isIdentifierStart {c : Char} (h : Text.isIdentifierStart c = true) :
    isWordStart c = true := by
  unfold Text.isIdentifierStart at h
  unfold isWordStart
  split at h
  · rcases Bool.or_eq_true_iff.mp h with h | h
    · simp [h]
    · simp [beq_iff_eq.mp h]
  · simp
    omega

theorem isWordPart_of_isIdentifierContinue {c : Char} (h : Text.isIdentifierContinue c = true) :
    isWordPart c = true := by
  unfold Text.isIdentifierContinue at h
  unfold isWordPart isWordStart
  split at h
  · rcases Bool.or_eq_true_iff.mp h with h | h
    · rcases Bool.or_eq_true_iff.mp h with h | h <;> simp [h]
    · simp [beq_iff_eq.mp h]
  · simp
    omega

theorem isWordPart_of_isWordStart {c : Char} (h : isWordStart c = true) : isWordPart c = true := by
  rw [isWordPart, h, Bool.true_or]

/-- An identifier starts like a word and consists of parts of a word. -/
theorem exists_of_isIdentifier {w : List Char} (h : Text.isIdentifier w = true) :
    ∃ c more, w = c :: more ∧ isWordStart c = true ∧ ∀ d ∈ w, isWordPart d = true := by
  cases w with
  | nil => exact absurd h (by decide)
  | cons c more =>
    obtain ⟨hstart, hmore⟩ := Bool.and_eq_true_iff.mp h
    have hword := isWordStart_of_isIdentifierStart hstart
    refine ⟨c, more, rfl, hword, ?_⟩
    rw [List.forall_mem_cons]
    refine ⟨isWordPart_of_isWordStart hword, ?_⟩
    intro d hd
    exact isWordPart_of_isIdentifierContinue (List.all_eq_true.mp hmore d hd)

/-- A run of parts of a word is looked up as a whole. -/
theorem word?_append {w : List Char} {next : Char} (hw : ∀ c ∈ w, isWordPart c = true)
    (hnext : isWordPart next = false) (hquote : isQuote next = false) (rest : List Char) :
    word? (w ++ next :: rest) = (nameLexeme? w).map fun l => (l, next :: rest) := by
  have htake : (w ++ next :: rest).takeWhile isWordPart = w := by
    rw [List.takeWhile_append_of_pos hw, List.takeWhile_cons_of_neg (by simp [hnext]),
      List.append_nil]
  have hdrop : (w ++ next :: rest).dropWhile isWordPart = next :: rest := by
    rw [List.dropWhile_append_of_pos hw, List.dropWhile_cons_of_neg (by simp [hnext])]
  unfold word?
  simp only [htake, hdrop, List.head?_cons, Option.any_some, hquote, Bool.false_eq_true, if_false]

/-- No character that starts a word is a blank or opens anything else. -/
theorem plain_of_isWordStart {c : Char} (h : isWordStart c = true) :
    isGap c = false ∧ c ≠ '#' ∧ c ≠ '\n' ∧ c ≠ '\\' := by
  have hne : ∀ d, isWordStart d = false → c ≠ d := by
    rintro d hd rfl
    exact absurd h (by simp [hd])
  have hgap : isGap c = false := by
    simp only [isGap, hne ' ' rfl, hne '\t' rfl, hne '\x0c' rfl, decide_false, Bool.or_false]
  exact ⟨hgap, hne _ rfl, hne _ rfl, hne _ rfl⟩

theorem lineCount_of_nameLexeme? {w : List Char} {l : Lexeme} (h : nameLexeme? w = some l) :
    l.lineCount = 0 := by
  have hname : ∀ (cs : List Char) (text : String),
      (Identifier.ofChars? cs).map (.name text) = some l → l.lineCount = 0 := by
    intro cs text hl
    obtain ⟨id, -, rfl⟩ := Option.map_eq_some_iff.mp hl
    rfl
  unfold nameLexeme? at h
  simp only at h
  split at h
  · split at h
    · obtain rfl := Option.some.inj h
      rfl
    · exact hname _ _ h
  · split at h
    · exact hname _ _ h
    · cases h

namespace Cut

variable {next : Char}

theorem word {w : List Char} {l : Lexeme} (hstart : ∃ c more, w = c :: more ∧ isWordStart c = true)
    (hw : ∀ c ∈ w, isWordPart c = true) (hnext : isWordPart next = false)
    (hquote : isQuote next = false) (hl : nameLexeme? w = some l) : Cut next w l where
  starts := by
    obtain ⟨c, more, rfl, hc⟩ := hstart
    exact ⟨c, more, rfl, plain_of_isWordStart hc⟩
  reads := by
    intro rest
    obtain ⟨c, more, rfl, hc⟩ := hstart
    rw [List.cons_append, lexeme?, if_pos hc, ← List.cons_append, word?_append hw hnext hquote, hl]
    rfl
  lines := lineCount_of_nameLexeme? hl

end Cut

theorem nameLexeme?_of_isName {w : String} (h : IsName w) :
    nameLexeme? w.toList = some (named w h.proper) := by
  have hchars : Identifier.ofChars? w.toList = some ⟨w, h.proper⟩ := by
    rw [Identifier.ofChars?, dif_pos h.proper]
    simp only [String.ofList_toList]
  unfold nameLexeme?
  simp only [String.ofList_toList]
  split
  · rw [if_neg (by simpa using h.free), hchars]
    rfl
  · rename_i hwide
    rw [if_pos h.proper, h.composed.resolve_left hwide, hchars]
    rfl

theorem Cut.name {next : Char} {w : String} (h : IsName w) (hnext : isWordPart next = false)
    (hquote : isQuote next = false) : Cut next w.toList (named w h.proper) := by
  obtain ⟨c, more, hchars, hstart, hparts⟩ := exists_of_isIdentifier h.proper
  exact .word ⟨c, more, hchars, hstart⟩ hparts hnext hquote (nameLexeme?_of_isName h)

/-! ## Signs -/

/-- A sign that no longer one can begin with where `next` follows. -/
def standsBefore (s : String) (next : Char) : Bool :=
  !signs.any fun u => (s.toList ++ [next]).isPrefixOf u.toList

/-- A prefix of a longer text is a prefix of its first part, or that part goes on into it. -/
theorem isPrefixOf_append_cons {u s : List Char} {next : Char} (h : ¬ s ++ [next] <+: u)
    (rest : List Char) : u <+: s ++ next :: rest ↔ u <+: s := by
  constructor
  · intro hu
    rcases Nat.lt_or_ge s.length u.length with hlength | hlength
    · have hwhole : s ++ [next] <+: s ++ next :: rest := ⟨rest, by simp⟩
      have hlonger : (s ++ [next]).length ≤ u.length := by simpa using Nat.succ_le_of_lt hlength
      exact absurd (List.prefix_of_prefix_length_le hwhole hu hlonger) h
    · exact List.prefix_of_prefix_length_le hu (List.prefix_append _ _) hlength
  · intro hu
    exact hu.trans (List.prefix_append _ _)

theorem sign?_append {s : String} {next : Char}
    (hfirst : signs.find? (fun u => u.toList.isPrefixOf s.toList) = some s)
    (hnext : standsBefore s next = true) (rest : List Char) :
    sign? (s.toList ++ next :: rest) = some (.fixed s, next :: rest) := by
  have hsame : ∀ u ∈ signs, u.toList.isPrefixOf (s.toList ++ next :: rest)
      = u.toList.isPrefixOf s.toList := by
    intro u hu
    have hlonger : ¬ s.toList ++ [next] <+: u.toList := by
      have hall := hnext
      simp only [standsBefore, Bool.not_eq_true', List.any_eq_false] at hall
      simpa using hall u hu
    rw [Bool.eq_iff_iff, List.isPrefixOf_iff_prefix, List.isPrefixOf_iff_prefix]
    exact isPrefixOf_append_cons hlonger rest
  have hfind : signs.find? (fun u => u.toList.isPrefixOf (s.toList ++ next :: rest)) = some s := by
    rw [← hfirst]
    exact List.find?_congr hsame
  rw [sign?, hfind, Option.map_some, ← String.length_toList, List.drop_left]

/-- Whether a character opens no word, no number and no literal, and is no blank either. -/
def opensSign (c : Char) : Bool :=
  !(isWordStart c || c.isDigit || isQuote c || isGap c || c = '#' || c = '\n' || c = '\\')

theorem Cut.sign {next : Char} {s : String}
    (hfirst : signs.find? (fun u => u.toList.isPrefixOf s.toList) = some s)
    (hopens : s.toList.head?.any opensSign = true) (hdigit : next.isDigit = false)
    (hnext : standsBefore s next = true) : Cut next s.toList (.fixed s) := by
  have hreads := sign?_append hfirst hnext
  rcases hs : s.toList with _ | ⟨c, more⟩
  · rw [hs] at hopens
    exact absurd hopens (by simp)
  rw [hs] at hopens hreads
  simp only [List.head?_cons, Option.any_some, opensSign, Bool.not_eq_true', Bool.or_eq_false_iff,
    decide_eq_false_iff_not] at hopens
  obtain ⟨⟨⟨⟨⟨⟨hword, hc⟩, hquote⟩, hgap⟩, hhash⟩, hline⟩, hback⟩ := hopens
  refine ⟨⟨c, more, rfl, hgap, hhash, hline, hback⟩, ?_, rfl⟩
  intro rest
  -- no digit follows the first character of a sign, in it or after it
  have hhead : (more ++ next :: rest).head?.any Char.isDigit = false := by
    cases more with
    | nil => simpa using hdigit
    | cons d more =>
      have hsigns : ∀ u ∈ signs, u.toList[1]?.any Char.isDigit = false := by decide +kernel
      have hd := hsigns s (List.mem_of_find?_eq_some hfirst)
      rw [hs] at hd
      simpa using hd
  rw [List.cons_append, lexeme?, hword, hc, hhead, hquote]
  simpa using hreads rest

/-! ## Literals -/

/-- A literal in double quotes; `body` is what stands between them. -/
def quotedLiteral (body : List Char) : Lexeme := .literal ⟨false, false, false, body⟩

theorem count_newline_eq_zero {body : List Char} (h : ∀ c ∈ body, c ≠ '\n') :
    (quotedLiteral body).lineCount = 0 :=
  List.count_eq_zero.mpr fun hmem => h _ hmem rfl

theorem Cut.literal {next : Char} {body : List Char} (hpass : Passes '\x22' body)
    (hline : ∀ c ∈ body, c ≠ '\n') (hhead : body.head? ≠ some '\x22') (hnext : next ≠ '\x22') :
    Cut next ('\x22' :: body ++ ['\x22']) (quotedLiteral body) where
  starts := ⟨'\x22', body ++ ['\x22'], rfl, by decide⟩
  reads := by
    intro rest
    have htext : ('\x22' :: body ++ ['\x22']) ++ next :: rest
        = '\x22' :: (body ++ '\x22' :: next :: rest) := by simp
    have hclose : untilQuote '\x22' ('\x22' :: next :: rest) = some ([], next :: rest) := by
      rw [untilQuote, if_pos rfl]
      rintro d more hc -
      exact absurd hc (by decide)
    have hbody : untilQuote '\x22' (body ++ '\x22' :: next :: rest) = some (body, next :: rest) := by
      rw [hpass, hclose, Option.map_some, List.append_nil]
    -- two quotes and no third one are an empty literal
    have htwo : ['\x22', '\x22'].isPrefixOf (body ++ '\x22' :: next :: rest) = false := by
      cases body with
      | nil => simpa [List.isPrefixOf] using Ne.symm hnext
      | cons c body =>
        have hc : '\x22' ≠ c := fun hc => hhead (by rw [hc]; rfl)
        simp [List.isPrefixOf, hc]
    rw [htext, lexeme?, if_neg (by decide), if_neg (by simp), if_pos (by decide), Source.literal?,
      literalBody?, htwo, if_neg (by simp), hbody]
    rfl
  lines := count_newline_eq_zero hline

theorem untilThreeQuotes_plain {body : List Char} (h : ∀ c ∈ body, c ≠ '\\' ∧ c ≠ '\x22')
    (rest : List Char) :
    untilThreeQuotes '\x22' (body ++ '\x22' :: '\x22' :: '\x22' :: rest) = some (body, rest) := by
  induction body with
  | nil =>
    rw [List.nil_append, untilThreeQuotes, if_pos (by simp [List.isPrefixOf])]
    · rfl
    · rintro d more hc -
      exact absurd hc (by decide)
  | cons c body ih =>
    rw [List.forall_mem_cons] at h
    obtain ⟨⟨hback, hquote⟩, hbody⟩ := h
    rw [List.cons_append, untilThreeQuotes, if_neg (by simp [List.isPrefixOf, Ne.symm hquote]),
      ih hbody]
    · rfl
    · rintro d more hc -
      exact hback hc

/-- A literal in three double quotes, as it describes a class. -/
theorem Cut.description {next : Char} {body : List Char}
    (h : ∀ c ∈ body, c ≠ '\\' ∧ c ≠ '\x22' ∧ c ≠ '\n') :
    Cut next (['\x22', '\x22', '\x22'] ++ body ++ ['\x22', '\x22', '\x22'])
      (quotedLiteral body) where
  starts := ⟨'\x22', _, rfl, by decide⟩
  reads := by
    intro rest
    have htext : (['\x22', '\x22', '\x22'] ++ body ++ ['\x22', '\x22', '\x22']) ++ next :: rest
        = '\x22' :: '\x22' :: '\x22'
          :: (body ++ '\x22' :: '\x22' :: '\x22' :: next :: rest) := by simp
    have hbody := untilThreeQuotes_plain (fun c hc => ⟨(h c hc).1, (h c hc).2.1⟩) (next :: rest)
    rw [htext, lexeme?, if_neg (by decide), if_neg (by simp), if_pos (by decide), Source.literal?,
      literalBody?, if_pos (by simp [List.isPrefixOf]), List.drop_succ_cons, List.drop_succ_cons,
      List.drop_zero, hbody]
    rfl
  lines := count_newline_eq_zero fun c hc => (h c hc).2.2

/-! ## The words of a piece of a line -/

/-- The words of a piece of a line, where `next` follows the piece. -/
inductive Words (next : Char) : List Char → List Lexeme → Prop where
  | nil : Words next [] []
  | gap {cs : List Char} {ls : List Lexeme} (h : Words next cs ls) : Words next (' ' :: cs) ls
  | word {w cs : List Char} {l : Lexeme} {ls : List Lexeme} (hw : Cut (cs.headD next) w l)
      (h : Words next cs ls) : Words next (w ++ cs) (l :: ls)

namespace Words

theorem single {next : Char} {w : List Char} {l : Lexeme} (h : Cut next w l) : Words next w [l] := by
  have hwords : Words next (w ++ []) [l] := .word h .nil
  rwa [List.append_nil] at hwords

theorem append {next : Char} {cs ds : List Char} {ls ms : List Lexeme}
    (hfirst : Words (ds.headD next) cs ls) (hlast : Words next ds ms) :
    Words next (cs ++ ds) (ls ++ ms) := by
  induction hfirst with
  | nil => exact hlast
  | gap _ ih => exact .gap ih
  | @word w cs l ls hw _ ih =>
    rw [List.append_assoc]
    refine .word ?_ ih
    -- what follows the word is in its own piece or starts the next one
    cases cs with
    | nil => exact hw
    | cons c cs => exact hw

/-- The first character of a piece that starts with no gap is that of its first word. -/
theorem starts {next : Char} {cs : List Char} {ls : List Lexeme} (h : Words next cs ls) (hls : ls ≠ [])
    (hstarts : cs.head?.any (fun c => !isGap c) = true) :
    ∃ c more, cs = c :: more ∧ isGap c = false ∧ c ≠ '#' ∧ c ≠ '\n' ∧ c ≠ '\\' := by
  cases h with
  | nil => exact absurd rfl hls
  | gap _ => exact absurd hstarts (by simp [isGap])
  | @word w cs l ls hw _ =>
    obtain ⟨c, more, rfl, hplain⟩ := hw.starts
    exact ⟨c, more ++ cs, rfl, hplain⟩

end Words

/-- The first word of a piece without literals and numbers, where `next` follows the piece, and the
rest of the piece. -/
def plainWord? (next : Char) (cs : List Char) : Option (Lexeme × List Char) :=
  if cs.head?.any isWordStart then
    let rest := cs.dropWhile isWordPart
    if isWordPart (rest.headD next) || isQuote (rest.headD next) then none
    else (nameLexeme? (cs.takeWhile isWordPart)).map fun l => (l, rest)
  else
    (signs.find? fun u => u.toList.isPrefixOf cs).bind fun s =>
      let rest := cs.drop s.length
      if cs.head?.any opensSign && !(rest.headD next).isDigit && standsBefore s (rest.headD next) then
        some (.fixed s, rest)
      else none

/-- The words of a piece without literals and numbers; `fuel` bounds its length. -/
def plainWords? (next : Char) : (fuel : Nat) → List Char → Option (List Lexeme)
  | 0, _ => none
  | _ + 1, [] => some []
  | fuel + 1, c :: cs =>
    if c = ' ' then plainWords? next fuel cs
    else
      (plainWord? next (c :: cs)).bind fun r =>
        (plainWords? next fuel r.2).map fun ls => r.1 :: ls

/-- The first sign that a text starts with is the first one that the sign itself starts with. -/
theorem find?_sign_self {cs : List Char} {s : String}
    (h : signs.find? (fun u => u.toList.isPrefixOf cs) = some s) :
    signs.find? (fun u => u.toList.isPrefixOf s.toList) = some s := by
  obtain ⟨hs, front, back, hsigns, hfront⟩ := List.find?_eq_some_iff_append.mp h
  rw [List.find?_eq_some_iff_append]
  refine ⟨by simp, front, back, hsigns, ?_⟩
  intro u hu
  have hnot := hfront u hu
  simp only [Bool.not_eq_true', Bool.eq_false_iff, ne_eq, List.isPrefixOf_iff_prefix] at hnot hs ⊢
  -- what the sign starts with, the text starts with too
  intro hbegins
  exact hnot (hbegins.trans hs)

theorem cut_of_plainWord? {next : Char} {cs rest : List Char} {l : Lexeme}
    (h : plainWord? next cs = some (l, rest)) :
    ∃ w, cs = w ++ rest ∧ Cut (rest.headD next) w l := by
  unfold plainWord? at h
  split at h
  · rename_i hstart
    simp only at h
    split at h
    · cases h
    · rename_i hends
      obtain ⟨l', hl, hpair⟩ := Option.map_eq_some_iff.mp h
      obtain ⟨rfl, rfl⟩ := Prod.mk.inj hpair
      rw [Bool.or_eq_true, not_or, Bool.not_eq_true, Bool.not_eq_true] at hends
      refine ⟨cs.takeWhile isWordPart, List.takeWhile_append_dropWhile.symm, ?_⟩
      refine .word ?_ (fun c hc => List.mem_takeWhile_imp hc) hends.1 hends.2 hl
      cases cs with
      | nil => exact absurd hstart (by simp)
      | cons c cs =>
        have hc : isWordStart c = true := by simpa using hstart
        exact ⟨c, _, List.takeWhile_cons_of_pos (isWordPart_of_isWordStart hc), hc⟩
  · obtain ⟨s, hfind, hs⟩ := Option.bind_eq_some_iff.mp h
    simp only at hs
    split at hs
    · rename_i hends
      obtain ⟨rfl, rfl⟩ := Prod.mk.inj (Option.some.inj hs)
      rw [Bool.and_eq_true, Bool.and_eq_true, Bool.not_eq_true'] at hends
      obtain ⟨⟨hopens, hdigit⟩, hnext⟩ := hends
      have hbegins : s.toList <+: cs := by simpa using List.find?_some hfind
      obtain ⟨rest, rfl⟩ := hbegins
      have hdrop : (s.toList ++ rest).drop s.length = rest := by
        rw [← String.length_toList, List.drop_left]
      rw [hdrop] at hdigit hnext ⊢
      have hfirst := find?_sign_self hfind
      refine ⟨s.toList, rfl, .sign hfirst ?_ hdigit hnext⟩
      -- no sign is empty, so the text starts as the sign does
      have hsigns : ∀ u ∈ signs, u.toList ≠ [] := by decide +kernel
      obtain ⟨c, more, hchars⟩ :=
        List.exists_cons_of_ne_nil (hsigns s (List.mem_of_find?_eq_some hfind))
      rw [hchars] at hopens ⊢
      exact hopens
    · cases hs

/-- The words that are found by computing are the words of the piece. -/
theorem Words.of_plainWords? {next : Char} {fuel : Nat} {cs : List Char} {ls : List Lexeme}
    (h : plainWords? next fuel cs = some ls) : Words next cs ls := by
  induction fuel generalizing cs ls with
  | zero => cases h
  | succ fuel ih =>
    cases cs with
    | nil =>
      obtain rfl := Option.some.inj h
      exact .nil
    | cons c cs =>
      rw [plainWords?] at h
      split at h
      · rename_i hc
        rw [hc]
        exact .gap (ih h)
      · obtain ⟨⟨l, rest⟩, hword, hrest⟩ := Option.bind_eq_some_iff.mp h
        obtain ⟨more, hmore, rfl⟩ := Option.map_eq_some_iff.mp hrest
        obtain ⟨w, hchars, hcut⟩ := cut_of_plainWord? hword
        rw [hchars]
        exact .word hcut (ih hmore)

/-! ## Lines -/

/-- The reading of a text from a place on gives these tokens, with any bound that allows two steps for
each character; a line that starts here needs one more. -/
def Lexes (fresh : Bool) (s : LexState) (cs : List Char) (ts : List Token) : Prop :=
  ∀ fuel, 2 * cs.length + (if fresh then 2 else 1) ≤ fuel → tokensFrom? fuel fresh s cs = some ts

/-- The brackets that are open after some words. -/
def trackAll (pending : List String) (ls : List Lexeme) : Option (List String) :=
  ls.foldlM track? pending

/-- The token at the end of a line, if it counts. -/
def endToken (line : Nat) (pending : List String) : List Token :=
  if pending.isEmpty then [⟨line, .newline⟩] else []

namespace Lexes

variable {s : LexState} {cs : List Char} {ts : List Token}

theorem gap (h : Lexes false s cs ts) : Lexes false s (' ' :: cs) ts := by
  intro fuel hfuel
  rw [List.length_cons] at hfuel
  obtain ⟨fuel, rfl⟩ := Nat.exists_eq_succ_of_ne_zero (n := fuel) (by omega)
  -- a blank is dropped together with those behind it and takes no step of its own
  have hsame : tokensFrom? (fuel + 1) false s (' ' :: cs) = tokensFrom? (fuel + 1) false s cs := by
    have hdrop : (' ' :: cs).dropWhile isGap = cs.dropWhile isGap := rfl
    simp only [tokensFrom?, hdrop]
  rw [Nat.succ_eq_add_one, hsame]
  exact h (fuel + 1) (by simp only [Bool.false_eq_true, if_false] at hfuel ⊢; omega)

theorem word {next : Char} {w rest : List Char} {l : Lexeme} {pending : List String}
    (hcut : Cut next w l) (htrack : track? s.pending l = some pending)
    (h : Lexes false { s with pending } (next :: rest) ts) :
    Lexes false s (w ++ next :: rest) (⟨s.line, l⟩ :: ts) := by
  intro fuel hfuel
  obtain ⟨⟨c, more, rfl, hgap, hhash, hline, hback⟩, hreads, hlines⟩ := hcut
  simp only [List.length_append, List.length_cons, Bool.false_eq_true, if_false] at hfuel
  obtain ⟨fuel, rfl⟩ := Nat.exists_eq_succ_of_ne_zero (n := fuel) (by omega)
  have hlater : tokensFrom? fuel false { s with pending } (next :: rest) = some ts := by
    refine h fuel ?_
    simp only [List.length_cons, Bool.false_eq_true, if_false]
    omega
  have hdrop : (c :: (more ++ next :: rest)).dropWhile isGap = c :: (more ++ next :: rest) :=
    List.dropWhile_cons_of_neg (by simp [hgap])
  have hread := hreads rest
  rw [List.cons_append] at hread
  rw [List.cons_append, Nat.succ_eq_add_one, tokensFrom?, hdrop]
  -- a word starts with none of the characters that the reader looks for first
  split
  · contradiction
  · rename_i heq
    exact absurd (List.cons.inj heq).1 hhash
  · rename_i heq
    exact absurd (List.cons.inj heq).1 hline
  · rename_i heq
    exact absurd (List.cons.inj heq).1 hback
  · simp only [hread, htrack, hlines, hlater, Option.bind_eq_bind, Option.bind_some, Nat.add_zero]

theorem lineEnd {pending : List String} {blocks : List (Nat × Nat)} {line : Nat}
    (h : Lexes true ⟨line + 1, pending, blocks⟩ cs ts) :
    Lexes false ⟨line, pending, blocks⟩ ('\n' :: cs) (endToken line pending ++ ts) := by
  intro fuel hfuel
  simp only [List.length_cons, Bool.false_eq_true, if_false] at hfuel
  obtain ⟨fuel, rfl⟩ := Nat.exists_eq_succ_of_ne_zero (n := fuel) (by omega)
  have hlater := h fuel (by simp only [if_true]; omega)
  have hdrop : ('\n' :: cs).dropWhile isGap = '\n' :: cs := rfl
  rw [Nat.succ_eq_add_one, tokensFrom?, hdrop]
  simp only [hlater, Option.bind_eq_bind, Option.bind_some, endToken]
  cases pending <;> rfl

end Lexes

theorem Words.lexes {cs : List Char} {ls : List Lexeme} (hwords : Words '\n' cs ls) {s : LexState}
    {pending : List String} (htrack : trackAll s.pending ls = some pending) {rest : List Char}
    {ts : List Token} (h : Lexes true ⟨s.line + 1, pending, s.blocks⟩ rest ts) :
    Lexes false s (cs ++ '\n' :: rest)
      (ls.map (Token.mk s.line) ++ (endToken s.line pending ++ ts)) := by
  induction hwords generalizing s with
  | nil =>
    obtain rfl : s.pending = pending := Option.some.inj htrack
    exact .lineEnd h
  | gap _ ih => exact .gap (ih htrack h)
  | @word w cs l ls hw _ ih =>
    rw [trackAll, List.foldlM_cons] at htrack
    obtain ⟨after, hafter, hlater⟩ := Option.bind_eq_some_iff.mp htrack
    have hrest := ih (s := { s with pending := after }) hlater h
    rw [List.append_assoc]
    cases cs with
    | nil => exact .word hw hafter hrest
    | cons c cs => exact .word hw hafter hrest

/-- What a margin of blanks opens and closes; in brackets it does neither. -/
def entering (margin : Nat) (s : LexState) : Option (List Lexeme × List (Nat × Nat)) :=
  if s.pending.isEmpty then layout? ⟨margin, margin, s.line, []⟩ s.blocks else some ([], s.blocks)

theorem margin?_replicate (margin column narrow line : Nat) {c : Char} (rest : List Char)
    (hgap : isGap c = false) (hback : c ≠ '\\') :
    margin? column narrow 0 line (List.replicate margin ' ' ++ c :: rest)
      = some ⟨column + margin, narrow + margin, line, c :: rest⟩ := by
  induction margin generalizing column narrow with
  | zero =>
    simp only [isGap, Bool.or_eq_false_iff, decide_eq_false_iff_not] at hgap
    rw [List.replicate_zero, List.nil_append, margin?]
    · rfl
    all_goals simp_all
  | succ margin ih =>
    rw [List.replicate_succ, List.cons_append, margin?, ih]
    congr 2 <;> omega

/-- A line with words in it. -/
theorem Lexes.line {s : LexState} {margin : Nat} {cs rest : List Char} {ls marks : List Lexeme}
    {blocks : List (Nat × Nat)} {pending : List String} {ts : List Token}
    (hwords : Words '\n' cs ls) (hstarts : cs.head?.any (fun c => !isGap c) = true) (hls : ls ≠ [])
    (henter : entering margin s = some (marks, blocks))
    (htrack : trackAll s.pending ls = some pending)
    (h : Lexes true ⟨s.line + 1, pending, blocks⟩ rest ts) :
    Lexes true s (List.replicate margin ' ' ++ cs ++ '\n' :: rest)
      (marks.map (Token.mk s.line)
        ++ (ls.map (Token.mk s.line) ++ (endToken s.line pending ++ ts))) := by
  have hline := hwords.lexes (s := { s with blocks }) htrack h
  obtain ⟨c, more, hchars, hgap, hhash, hend, hback⟩ := hwords.starts hls hstarts
  subst hchars
  intro fuel hfuel
  simp only [List.length_append, List.length_cons, List.length_replicate, if_true] at hfuel
  obtain ⟨fuel, rfl⟩ := Nat.exists_eq_succ_of_ne_zero (n := fuel) (by omega)
  have hmargin := margin?_replicate margin 0 0 s.line (more ++ '\n' :: rest) hgap hback
  have hlater := hline fuel (by
    simp only [List.length_append, List.length_cons, Bool.false_eq_true, if_false]
    omega)
  rw [List.append_assoc, List.cons_append, Nat.succ_eq_add_one, tokensFrom?, hmargin]
  simp only [Option.bind_eq_bind, Option.bind_some, Nat.zero_add]
  split
  · rename_i heq
    exact absurd (List.cons.inj heq).1 hhash
  · rename_i heq
    exact absurd (List.cons.inj heq).1 hend
  · rw [entering] at henter
    rw [List.cons_append] at hlater
    -- in brackets a margin means nothing
    cases hpending : s.pending.isEmpty with
    | true =>
      rw [hpending] at henter
      have hopened : layout? ⟨margin, margin, s.line, c :: (more ++ '\n' :: rest)⟩ s.blocks
          = some (marks, blocks) := henter
      simp only [if_true, hopened, Option.bind_some, hlater]
    | false =>
      rw [hpending] at henter
      obtain ⟨rfl, rfl⟩ := Prod.mk.inj (Option.some.inj henter)
      simpa using hlater

theorem Lexes.blank {s : LexState} {rest : List Char} {ts : List Token}
    (h : Lexes true { s with line := s.line + 1 } rest ts) : Lexes true s ('\n' :: rest) ts := by
  intro fuel hfuel
  simp only [List.length_cons, if_true] at hfuel
  obtain ⟨fuel, rfl⟩ := Nat.exists_eq_succ_of_ne_zero (n := fuel) (by omega)
  rw [Nat.succ_eq_add_one, tokensFrom?]
  exact h fuel (by simp only [if_true]; omega)

theorem Lexes.comment {s : LexState} {body rest : List Char} {ts : List Token}
    (hbody : ∀ c ∈ body, c ≠ '\n') (h : Lexes true { s with line := s.line + 1 } rest ts) :
    Lexes true s ('#' :: body ++ '\n' :: rest) ts := by
  intro fuel hfuel
  simp only [List.length_append, List.length_cons, if_true] at hfuel
  obtain ⟨fuel, rfl⟩ := Nat.exists_eq_succ_of_ne_zero (n := fuel) (by omega)
  have hdrop : ((body ++ '\n' :: rest).dropWhile (· ≠ '\n')).drop 1 = rest := by
    rw [List.dropWhile_append_of_pos (by simpa using hbody), List.dropWhile_cons_of_neg (by simp)]
    rfl
  have hmargin : margin? 0 0 0 s.line ('#' :: (body ++ '\n' :: rest))
      = some ⟨0, 0, s.line, '#' :: (body ++ '\n' :: rest)⟩ :=
    margin?_replicate 0 0 0 s.line (body ++ '\n' :: rest) rfl (by decide)
  have hlater := h fuel (by simp only [if_true]; omega)
  rw [Nat.succ_eq_add_one, List.cons_append, tokensFrom?, hmargin]
  simp only [Option.bind_eq_bind, Option.bind_some, hdrop]
  exact hlater

/-- The end of a text closes the open blocks. -/
theorem Lexes.finish {line : Nat} {blocks : List (Nat × Nat)} {marks : List Lexeme}
    {left : List (Nat × Nat)} (h : layout? ⟨0, 0, line, []⟩ blocks = some (marks, left)) :
    Lexes true ⟨line, [], blocks⟩ [] (marks.map (Token.mk line) ++ [⟨line, .finish⟩]) := by
  intro fuel hfuel
  simp only [List.length_nil, if_true] at hfuel
  obtain ⟨fuel, rfl⟩ := Nat.exists_eq_succ_of_ne_zero (n := fuel) (by omega)
  obtain ⟨fuel, rfl⟩ := Nat.exists_eq_succ_of_ne_zero (n := fuel) (by omega)
  rw [Nat.succ_eq_add_one, tokensFrom?]
  simp only [margin?, Option.bind_eq_bind, Option.bind_some, if_true, List.isEmpty_nil, h]
  rfl

/-! ## Whole texts -/

/-- Lines that are read one after the other: `Lined s lines ts s'` says that they start where `s` is,
give these tokens, and end where `s'` is. -/
inductive Lined : LexState → List (List Char) → List Token → LexState → Prop where
  | done {s : LexState} : Lined s [] [] s
  | blank {s s' : LexState} {lines : List (List Char)} {ts : List Token}
      (h : Lined { s with line := s.line + 1 } lines ts s') : Lined s ([] :: lines) ts s'
  | comment {s s' : LexState} {lines : List (List Char)} {ts : List Token} {body : List Char}
      (hbody : ∀ c ∈ body, c ≠ '\n') (h : Lined { s with line := s.line + 1 } lines ts s') :
      Lined s (('#' :: body) :: lines) ts s'
  | words {s s' : LexState} {lines : List (List Char)} {ts : List Token} {cs : List Char}
      {ls marks : List Lexeme} {blocks : List (Nat × Nat)} {pending : List String} (margin : Nat)
      (hwords : Words '\n' cs ls) (hstarts : cs.head?.any (fun c => !isGap c) = true) (hls : ls ≠ [])
      (henter : entering margin s = some (marks, blocks))
      (htrack : trackAll s.pending ls = some pending)
      (h : Lined ⟨s.line + 1, pending, blocks⟩ lines ts s') :
      Lined s ((List.replicate margin ' ' ++ cs) :: lines)
        (marks.map (Token.mk s.line) ++ (ls.map (Token.mk s.line) ++ (endToken s.line pending ++ ts)))
        s'

namespace Lined

theorem append {s s' s'' : LexState} {lines more : List (List Char)} {ts us : List Token}
    (hfirst : Lined s lines ts s') (hlast : Lined s' more us s'') :
    Lined s (lines ++ more) (ts ++ us) s'' := by
  induction hfirst with
  | done => exact hlast
  | blank _ ih => exact .blank (ih hlast)
  | comment hbody _ ih => exact .comment hbody (ih hlast)
  | words margin hwords hstarts hls henter htrack _ ih =>
    simp only [List.append_assoc, List.cons_append]
    exact .words margin hwords hstarts hls henter htrack (ih hlast)

theorem lexes {s s' : LexState} {lines : List (List Char)} {ts us : List Token}
    (hlines : Lined s lines ts s') {rest : List Char} (hrest : Lexes true s' rest us) :
    Lexes true s (lines.flatMap (· ++ ['\n']) ++ rest) (ts ++ us) := by
  induction hlines with
  | done => exact hrest
  | blank _ ih => exact .blank (ih hrest)
  | comment hbody _ ih =>
    rw [List.flatMap_cons, List.append_assoc, List.append_assoc]
    exact .comment hbody (ih hrest)
  | words margin hwords hstarts hls henter htrack _ ih =>
    have hline := Lexes.line hwords hstarts hls henter htrack (ih hrest)
    rw [List.flatMap_cons]
    simpa only [List.append_assoc, List.cons_append, List.nil_append] using hline

/-- The tokens of a text that is made of whole lines. -/
theorem tokens? {line : Nat} {blocks left : List (Nat × Nat)} {lines : List (List Char)}
    {ts : List Token} {marks : List Lexeme}
    (hlines : Lined ⟨1, [], [(0, 0)]⟩ lines ts ⟨line, [], blocks⟩)
    (hend : layout? ⟨0, 0, line, []⟩ blocks = some (marks, left)) :
    Source.tokens? (lines.flatMap (· ++ ['\n']))
      = some (ts ++ (marks.map (Token.mk line) ++ [⟨line, .finish⟩])) := by
  -- the last line has its end already
  have hwhole : withLastLine (lines.flatMap (· ++ ['\n'])) = lines.flatMap (· ++ ['\n']) := by
    rcases List.eq_nil_or_concat lines with rfl | ⟨front, last, rfl⟩
    · rfl
    · have hlast : ((front.concat last).flatMap (· ++ ['\n'])).getLast? = some '\n' := by
        rw [List.concat_eq_append, List.flatMap_append, List.flatMap_singleton, ← List.append_assoc,
          List.getLast?_concat]
      rw [withLastLine, hlast]
      simp
  have hread := hlines.lexes (Lexes.finish hend)
  rw [List.append_nil] at hread
  rw [Source.tokens?, hwhole]
  exact hread _ (by simp)

end Lined
end Roster.Source
