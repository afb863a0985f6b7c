import Mathlib.Data.List.Basic
import Roster.Lineage
import Roster.Manifest
import Roster.Proofs.EscapedText
import Roster.Proofs.FieldListing
import Roster.Rendering

/-! # Literals of a language that puts names in

In some languages a dollar sign inside a literal puts in the value of a name, so that one that is meant
as it is needs a backslash. Such a language knows a few escapes only: a form feed has none but its
number. The names of a companion are written with every dollar sign guarded; but a form feed is
written by a letter that is no escape there, and the name of the companion itself stands in a literal
of its description as it is.

* `guardedLiteral?`: the reader of a literal, which refuses a dollar sign that is not guarded.
* `guardedLiteral?_literal`: a text is read back as its UTF-16 units, unless it holds a form feed.
* `guardedRest?_raw_iff`: which texts may stand in a literal as they are.
* `laced_render`: where the literals of a companion stand in its text.
* `interpolated_literals_iff`: when all of them are well formed.
* `literal_broken_by_name`: two types whose companions have a literal that is not.
-/

namespace Roster.Text

open Source

/-! ## The reader -/

/-- The unit that a sign after a backslash stands for. -/
def guardedSign? (sign : Char) : Option Nat :=
  if sign = 't' then some 0x09
  else if sign = 'b' then some 0x08
  else if sign = 'n' then some 0x0A
  else if sign = 'r' then some 0x0D
  else if sign = '\x27' || sign = '\x22' || sign = '\\' || sign = '$' then some sign.toNat
  else none

/-- The characters that do not stand for themselves in a literal: its end, what starts an escape or a
name, and the ends of its line. -/
def isMarked (c : Char) : Bool := c = '\x22' || c = '\\' || c = '$' || c = '\n' || c = '\r'

/-- The units of a literal from what follows its opening quote, and what follows the literal. -/
def guardedRest? : List Char → Option (List Nat × List Char)
  | [] => none
  | '\\' :: 'u' :: rest => do
    let unit ← hexEscape? 4 0 rest
    let (units, after) ← guardedRest? (rest.drop 4)
    some (unit :: units, after)
  | '\\' :: sign :: rest => do
    let unit ← guardedSign? sign
    let (units, after) ← guardedRest? rest
    some (unit :: units, after)
  | c :: rest =>
    if c = '\x22' then some ([], rest)
    else if isMarked c then none
    else (guardedRest? rest).map fun r => (units16 c ++ r.1, r.2)
termination_by cs => cs.length
decreasing_by
  all_goals
    simp only [List.length_cons, List.length_drop]
    omega

/-- The units of a literal at the front of a text, and what follows it. Three quotes open another
kind. -/
def guardedLiteral? : List Char → Option (List Nat × List Char)
  | [] => none
  | c :: rest =>
    if c = '\x22' ∧ rest.take 2 ≠ ['\x22', '\x22'] then guardedRest? rest else none

/-- A text that is one literal and nothing else. -/
def IsGuardedLiteral (text : List Char) : Prop := ∃ units, guardedLiteral? text = some (units, [])

/-! ## What the reader makes of its pieces -/

theorem guardedRest?_close (rest : List Char) : guardedRest? ('\x22' :: rest) = some ([], rest) := by
  rw [guardedRest?]
  · rw [if_pos rfl]
  · rintro _ hback -
    exact absurd hback (by decide)
  · rintro _ _ hback -
    exact absurd hback (by decide)

theorem guardedRest?_plain {c : Char} (h : isMarked c = false) (rest : List Char) :
    guardedRest? (c :: rest) = (guardedRest? rest).map fun r => (units16 c ++ r.1, r.2) := by
  have hquote : c ≠ '\x22' := by
    rintro rfl
    exact absurd h (by decide)
  have hback : c ≠ '\\' := by
    rintro rfl
    exact absurd h (by decide)
  rw [guardedRest?]
  · rw [if_neg hquote, if_neg (by rw [h]; decide)]
  · rintro _ hslash -
    exact hback hslash
  · rintro _ _ hslash -
    exact hback hslash

/-- A run of characters that stand for themselves, up to the closing quote. -/
theorem guardedRest?_run {cs : List Char} (h : ∀ c ∈ cs, isMarked c = false) (rest : List Char) :
    guardedRest? (cs ++ '\x22' :: rest) = some (cs.flatMap units16, rest) := by
  induction cs with
  | nil => exact guardedRest?_close rest
  | cons c cs ih =>
    rw [List.forall_mem_cons] at h
    rw [List.cons_append, guardedRest?_plain h.1, ih h.2]
    rfl

theorem guardedRest?_sign {sign : Char} (hu : sign ≠ 'u') (rest : List Char) :
    guardedRest? ('\\' :: sign :: rest)
      = (guardedSign? sign).bind fun unit =>
          (guardedRest? rest).map fun r => (unit :: r.1, r.2) := by
  rw [guardedRest?]
  · cases guardedSign? sign with
    | none => rfl
    | some unit => cases guardedRest? rest <;> rfl
  · exact hu

theorem guardedRest?_unit (rest : List Char) :
    guardedRest? ('\\' :: 'u' :: rest)
      = (hexEscape? 4 0 rest).bind fun unit =>
          (guardedRest? (rest.drop 4)).map fun r => (unit :: r.1, r.2) := by
  rw [guardedRest?]
  cases hexEscape? 4 0 rest with
  | none => rfl
  | some unit => cases guardedRest? (rest.drop 4) <;> rfl

/-! ## Guarded texts -/

theorem guardDollars_append (cs ds : List Char) :
    guardDollars (cs ++ ds) = guardDollars cs ++ guardDollars ds := List.flatMap_append

theorem guardDollars_of_notMem {cs : List Char} (h : '$' ∉ cs) : guardDollars cs = cs := by
  induction cs with
  | nil => rfl
  | cons c cs ih =>
    rw [List.mem_cons, not_or] at h
    have hc : ¬ (c == '$') = true := by simpa using fun heq => h.1 heq.symm
    rw [guardDollars, List.flatMap_cons, ← guardDollars, ih h.2, if_neg hc, List.singleton_append]

theorem guardDollars_flatMap (cs : List Char) :
    guardDollars (cs.flatMap escapeChar) = cs.flatMap fun c => guardDollars (escapeChar c) :=
  List.flatMap_assoc

/-- The character that has a letter for its escape in some languages only. -/
def formFeed : Char := '\x0c'

theorem guardedSign?_of_mem :
    ∀ p ∈ shortEscapes, p.1 ≠ 'u' ∧ p.1 ≠ '$' ∧
      guardedSign? p.1 = if p.2 = formFeed then none else some p.2.toNat := by decide

theorem dollar_notMem_unitEscape (u : Nat) : '$' ∉ unitEscape u := by
  intro h
  rcases List.mem_cons.mp h with h | h
  · exact absurd h (by decide)
  rcases List.mem_cons.mp h with h | h
  · exact absurd h (by decide)
  · exact absurd (isHexDigit_of_mem_hexDigits h) (by decide)

theorem guardedRest?_unitEscape {units : List Nat} (h : ∀ u ∈ units, u < 0x10000)
    (rest : List Char) :
    guardedRest? (units.flatMap unitEscape ++ rest)
      = (guardedRest? rest).map fun r => (units ++ r.1, r.2) := by
  induction units with
  | nil => cases hrest : guardedRest? rest <;> simp [hrest]
  | cons u units ih =>
    rw [List.forall_mem_cons] at h
    have hdrop : (hexDigits 4 u ++ (units.flatMap unitEscape ++ rest)).drop 4
        = units.flatMap unitEscape ++ rest := List.drop_left' (length_hexDigits 4 u)
    rw [List.flatMap_cons, List.append_assoc, unitEscape, List.cons_append, List.cons_append,
      guardedRest?_unit, hexEscape?_hexDigits h.1, hdrop, ih h.2]
    cases guardedRest? rest <;> rfl

/-- A guarded character is read as its units; a form feed is not read at all. -/
theorem guardedRest?_escapeChar (c : Char) (rest : List Char) :
    guardedRest? (guardDollars (escapeChar c) ++ rest)
      = if c = formFeed then none
        else (guardedRest? rest).map fun r => (units16 c ++ r.1, r.2) := by
  -- a sign of its own, a plain character, or its units in hexadecimal digits
  rcases escapeChar_cases c with
    ⟨sign, hmem, hchars⟩ | ⟨hlow, hhigh, hquote, hback, hchars⟩ | hchars
  · obtain ⟨hu, hdollar, hsign⟩ := guardedSign?_of_mem _ hmem
    have hplain : '$' ∉ ['\\', sign] := by
      simpa using fun heq => hdollar heq.symm
    rw [hchars, guardDollars_of_notMem hplain, List.cons_append, List.singleton_append,
      guardedRest?_sign hu, hsign, units16_of_lt (toNat_shortEscapes_lt _ hmem)]
    split <;> rfl
  · have hfeed : c ≠ formFeed := by
      rintro rfl
      exact absurd hlow (by decide)
    rw [hchars, if_neg hfeed, units16_of_lt (by omega)]
    by_cases hdollar : c = '$'
    · subst hdollar
      exact guardedRest?_sign (by decide) rest
    · have hplain : isMarked c = false := by
        have hline : c ≠ '\n' ∧ c ≠ '\r' :=
          ⟨by rintro rfl; exact absurd hlow (by decide), by rintro rfl; exact absurd hlow (by decide)⟩
        simp [isMarked, hquote, hback, hdollar, hline]
      rw [guardDollars_of_notMem (by simpa using fun heq => hdollar heq.symm), List.singleton_append,
        guardedRest?_plain hplain, units16_of_lt (by omega)]
  · have hfeed : c ≠ formFeed := by
      rintro rfl
      exact absurd hchars (by decide)
    have hplain : '$' ∉ (units16 c).flatMap unitEscape := by
      rw [List.mem_flatMap]
      rintro ⟨u, -, hu⟩
      exact dollar_notMem_unitEscape u hu
    rw [hchars, if_neg hfeed, guardDollars_of_notMem hplain]
    exact guardedRest?_unitEscape (fun u hu => unit_lt hu) rest

/-- A guarded text up to the closing quote. -/
theorem guardedRest?_guarded (cs rest : List Char) :
    guardedRest? (guardDollars (cs.flatMap escapeChar) ++ '\x22' :: rest)
      = if formFeed ∈ cs then none else some (cs.flatMap units16, rest) := by
  rw [guardDollars_flatMap]
  induction cs with
  | nil => exact guardedRest?_close rest
  | cons c cs ih =>
    rw [List.flatMap_cons, List.append_assoc, guardedRest?_escapeChar, ih, List.flatMap_cons]
    by_cases hc : c = formFeed
    · simp [hc]
    · have hne : formFeed ≠ c := fun heq => hc heq.symm
      by_cases hcs : formFeed ∈ cs <;> simp [hc, hne, hcs]

/-- A guarded text is a literal that is read as its units, unless it holds a form feed; then it is no
literal. -/
theorem guardedLiteral?_literal (s : String) :
    guardedLiteral? (Rendering.literal .kotlin s).toList
      = if formFeed ∈ s.toList then none else some (s.toList.flatMap units16, []) := by
  have hopen : (Rendering.literal .kotlin s).toList
      = '\x22' :: (guardDollars (s.toList.flatMap escapeChar) ++ ['\x22']) := by
    have hquote : ∀ cs, guardDollars ('\x22' :: cs) = '\x22' :: guardDollars cs := fun _ => rfl
    rw [Rendering.literal, escapedDollar, String.toList_ofList, escapedChars, List.cons_append,
      hquote, guardDollars_append]
    rfl
  have htwo : (guardDollars (s.toList.flatMap escapeChar) ++ ['\x22']).take 2
      ≠ ['\x22', '\x22'] := by
    rw [guardDollars_flatMap]
    cases s.toList with
    | nil => decide
    | cons c cs =>
      -- what a character is written with does not start with a quote
      obtain ⟨first, more, hchars, hfirst⟩ := escapeChar_head c
      rw [List.flatMap_cons, hchars, guardDollars, List.flatMap_cons]
      by_cases hdollar : first = '$'
      · simp [hdollar]
      · simp [hdollar, hfirst]
  rw [hopen, guardedLiteral?, if_pos ⟨rfl, htwo⟩, guardedRest?_guarded]

/-! ## Texts that stand in a literal as they are -/

/-- Whether a text may stand inside a literal as it is: it is made of characters that stand for
themselves and of whole escapes. -/
def standsInside : List Char → Bool
  | [] => true
  | '\\' :: 'u' :: rest => (hexEscape? 4 0 rest).isSome && standsInside (rest.drop 4)
  | '\\' :: sign :: rest => (guardedSign? sign).isSome && standsInside rest
  | c :: rest => !isMarked c && standsInside rest
termination_by cs => cs.length
decreasing_by
  all_goals
    simp only [List.length_cons, List.length_drop]
    omega

theorem hexEscape?_append {mark : Char} (hmark : isHexDigit mark = false) (count value : Nat)
    (cs more : List Char) :
    hexEscape? count value (cs ++ mark :: more) = hexEscape? count value cs := by
  induction count generalizing value cs with
  | zero => rw [hexEscape?, hexEscape?]
  | succ count ih =>
    cases cs with
    | nil => simp [hexEscape?, hmark]
    | cons c cs => rw [List.cons_append, hexEscape?, hexEscape?, ih]

theorem length_of_hexEscape? {count value n : Nat} {cs : List Char}
    (h : hexEscape? count value cs = some n) : count ≤ cs.length := by
  induction count generalizing value cs with
  | zero => exact Nat.zero_le _
  | succ count ih =>
    cases cs with
    | nil => rw [hexEscape?] at h; contradiction
    | cons c cs =>
      rw [hexEscape?] at h
      split at h
      · exact Nat.succ_le_succ (ih h)
      · contradiction

theorem exists_map_iff (f : List Nat → List Nat) (read : Option (List Nat × List Char)) :
    (∃ value, (read.map fun r => (f r.1, r.2)) = some (value, [])) ↔
      ∃ value, read = some (value, []) := by
  constructor
  · rintro ⟨value, h⟩
    obtain ⟨⟨units, rest⟩, rfl, heq⟩ := Option.map_eq_some_iff.mp h
    obtain rfl : rest = [] := congrArg Prod.snd heq
    exact ⟨units, rfl⟩
  · rintro ⟨value, rfl⟩
    exact ⟨f value, rfl⟩

/-- A character that does not stand for itself, and begins no escape, is read no further: the literal
ends there or is refused. -/
theorem guardedRest?_ne_of_isMarked {c : Char} {rest : List Char} (hc : isMarked c = true)
    (hback : c ≠ '\\') (hne : rest ≠ []) (value : List Nat) :
    guardedRest? (c :: rest) ≠ some (value, []) := by
  by_cases hquote : c = '\x22'
  · subst hquote
    simp [guardedRest?_close, hne]
  · rw [guardedRest?, if_neg hquote, if_pos hc]
    · simp
    · rintro _ hslash -
      exact hback hslash
    · rintro _ _ hslash -
      exact hback hslash

/-- A text stands inside a literal as it is, in front of a mark that belongs to no escape and of what
ends the literal, exactly when it is made of characters that stand for themselves and of whole
escapes. -/
theorem guardedRest?_raw_iff {mark : Char} {more : List Char} (hhex : isHexDigit mark = false)
    (hu : mark ≠ 'u') (hsign : guardedSign? mark = none) {units : List Nat}
    (hread : guardedRest? (mark :: more) = some (units, [])) (cs : List Char) :
    (∃ value, guardedRest? (cs ++ mark :: more) = some (value, [])) ↔ standsInside cs = true := by
  induction cs using standsInside.induct with
  | case1 => simp [hread, standsInside]
  | case2 rest ih =>
    rw [List.cons_append, List.cons_append, guardedRest?_unit, hexEscape?_append hhex, standsInside,
      Bool.and_eq_true, ← ih]
    cases hunit : hexEscape? 4 0 rest with
    | none => simp
    | some unit =>
      have hdrop : (rest ++ mark :: more).drop 4 = rest.drop 4 ++ mark :: more :=
        List.drop_append_of_le_length (length_of_hexEscape? hunit)
      simp only [Option.bind_some, Option.isSome_some, true_and, hdrop, exists_map_iff]
  | case3 sign rest hsu ih =>
    rw [List.cons_append, List.cons_append, guardedRest?_sign hsu, standsInside, Bool.and_eq_true,
      ← ih]
    · cases guardedSign? sign with
      | none => simp
      | some unit => simp only [Option.bind_some, Option.isSome_some, true_and, exists_map_iff]
    · exact hsu
  | case4 c rest hunit hescape ih =>
    rw [standsInside, Bool.and_eq_true, ← ih]
    · by_cases hc : isMarked c = false
      · rw [List.cons_append, guardedRest?_plain hc, exists_map_iff, hc]
        simp
      · rw [Bool.not_eq_false] at hc
        suffices h : ∀ value, guardedRest? (c :: (rest ++ mark :: more)) ≠ some (value, []) by
          simpa [hc] using h
        intro value
        by_cases hback : c = '\\'
        · -- a backslash that nothing follows takes the mark for its sign
          subst hback
          cases rest with
          | nil => simp [guardedRest?_sign hu, hsign]
          | cons sign rest => exact absurd rfl (hescape sign rest rfl)
        · exact guardedRest?_ne_of_isMarked hc hback (by simp) value
    · exact hunit
    · exact hescape

theorem standsInside_quote (cs : List Char) : standsInside ('\x22' :: cs) = false := by
  rw [standsInside]
  · rfl
  · rintro _ hback -
    exact absurd hback (by decide)
  · rintro _ _ hback -
    exact absurd hback (by decide)

/-- A literal that starts with a text as it is. -/
theorem isGuardedLiteral_raw_iff {mark : Char} {more : List Char} (hhex : isHexDigit mark = false)
    (hu : mark ≠ 'u') (hsign : guardedSign? mark = none) {units : List Nat}
    (hread : guardedRest? (mark :: more) = some (units, [])) (cs : List Char) :
    IsGuardedLiteral ('\x22' :: (cs ++ mark :: more)) ↔ standsInside cs = true := by
  by_cases htwo : (cs ++ mark :: more).take 2 = ['\x22', '\x22']
  · -- the text itself starts with a quote, for the mark is none
    obtain ⟨rest, rfl⟩ : ∃ rest, cs = '\x22' :: rest := by
      cases cs with
      | nil =>
        obtain rfl : mark = '\x22' := (List.cons.inj htwo).1
        exact absurd hsign (by decide)
      | cons c cs => exact ⟨cs, by rw [(List.cons.inj htwo).1]⟩
    rw [standsInside_quote, IsGuardedLiteral, guardedLiteral?, if_neg (fun h => h.2 htwo)]
    simp
  · rw [IsGuardedLiteral, guardedLiteral?, if_pos ⟨rfl, htwo⟩]
    exact guardedRest?_raw_iff hhex hu hsign hread cs

end Roster.Text

namespace Roster

open Text

/-! ## The literals of a companion -/

/-- A text that is code with literals in it, one after the other: the code in front of each literal and
behind the last one has a quote only if `raw` holds. -/
inductive Laced (raw : Prop) : List (List Char) → List Char → Prop where
  | code {cs : List Char} (h : '\x22' ∈ cs → raw) : Laced raw [] cs
  | literal {text before rest : List Char} {texts : List (List Char)} (h : '\x22' ∈ before → raw)
      (hrest : Laced raw texts rest) : Laced raw (text :: texts) (before ++ text ++ rest)

variable {raw : Prop}

theorem Laced.code_append {before rest : List Char} {texts : List (List Char)}
    (h : '\x22' ∈ before → raw) (hrest : Laced raw texts rest) : Laced raw texts (before ++ rest) := by
  have hboth : ∀ more, ('\x22' ∈ more → raw) → '\x22' ∈ before ++ more → raw := by
    intro more hmore hmem
    exact (List.mem_append.mp hmem).elim h hmore
  cases hrest with
  | code hcode => exact .code (hboth _ hcode)
  | literal hcode hrest =>
    rw [← List.append_assoc, ← List.append_assoc]
    exact .literal (hboth _ hcode) hrest

theorem Laced.append {xs ys : List Char} {texts more : List (List Char)} (hx : Laced raw texts xs)
    (hy : Laced raw more ys) : Laced raw (texts ++ more) (xs ++ ys) := by
  induction hx with
  | code h => exact hy.code_append h
  | literal h _ ih =>
    rw [List.append_assoc]
    exact .literal h ih

theorem Laced.flatMap {α : Type} {items : List α} {f : α → List Char} {g : α → List (List Char)}
    (h : ∀ x ∈ items, Laced raw (g x) (f x)) : Laced raw (items.flatMap g) (items.flatMap f) := by
  induction items with
  | nil => exact .code fun hmem => absurd hmem List.not_mem_nil
  | cons x items ih =>
    rw [List.forall_mem_cons] at h
    rw [List.flatMap_cons, List.flatMap_cons]
    exact h.1.append (ih h.2)

/-- The literal of a text. -/
def literalOf (s : String) : List Char := (Rendering.literal .kotlin s).toList

/-- A text between quotes as it is. -/
def rawLiteral (s : String) : List Char := '\x22' :: s.toList ++ ['\x22']

theorem isGuardedLiteral_rawLiteral {s : String} (h : ∀ c ∈ s.toList, isMarked c = false) :
    IsGuardedLiteral (rawLiteral s) := by
  have htwo : (s.toList ++ ['\x22']).take 2 ≠ ['\x22', '\x22'] := by
    cases hchars : s.toList with
    | nil => decide
    | cons c cs =>
      rw [hchars, List.forall_mem_cons] at h
      intro heq
      rw [(List.cons.inj heq).1] at h
      exact absurd h.1 (by decide)
  refine ⟨s.toList.flatMap units16, ?_⟩
  rw [rawLiteral, List.cons_append, guardedLiteral?, if_pos ⟨rfl, htwo⟩, guardedRest?_run h]

/-- The literals of a companion's description, in their order. -/
def descriptionLiterals (a : Artifact) : List (List Char) :=
  [rawLiteral (a.name ++ "(source="), literalOf a.sourceType, rawLiteral ", fields=",
    rawLiteral ", ", rawLiteral ")"]

/-- The literals of a companion, in their order: its names, and what describes it if it is debuggable. -/
def companionLiterals (a : Artifact) : List (List Char) :=
  a.fieldNames.toList.map literalOf ++ if a.debuggable then descriptionLiterals a else []

/-- Whether a name that is written as it is has a quote. -/
def QuoteInNames (a : Artifact) : Prop :=
  '\x22' ∈ a.name.toList ∨ '\x22' ∈ a.package.toList ∨ '\x22' ∈ a.sourceType.toList

theorem laced_opening (a : Artifact) :
    Laced (QuoteInNames a) [] (Rendering.joinLines (Rendering.kotlinParts a).opening).toList := by
  refine .code fun h => ?_
  rw [Source.toList_joinLines, List.mem_flatMap] at h
  obtain ⟨line, hline, hquote⟩ := h
  replace hquote : '\x22' ∈ line.toList := by simpa using hquote
  rw [Rendering.kotlinParts] at hline
  simp only [List.mem_append, List.mem_cons, List.not_mem_nil, or_false] at hline
  have hpackage : line ∈ (if a.package ≠ "" then ["package " ++ a.package, ""] else []) →
      QuoteInNames a := by
    intro hmem
    split at hmem
    · simp only [List.mem_cons, List.not_mem_nil, or_false] at hmem
      rcases hmem with rfl | rfl
      · exact .inr (.inl (by simpa using hquote))
      · simp at hquote
    · contradiction
  -- the lines of the opening in turn; only names can bring a quote into them
  rcases hline with ((rfl | rfl) | hmem) | rfl | rfl | rfl | rfl
  · exact absurd hquote (by decide)
  · exact .inr (.inr (by simpa using hquote))
  · exact hpackage hmem
  · exact .inl (by simpa using hquote)
  · simp at hquote
  · exact absurd hquote (by decide)
  · exact absurd hquote (by decide)

theorem laced_fields (a : Artifact) :
    Laced raw (a.fieldNames.toList.map literalOf)
      (Rendering.joinLines (Rendering.kotlinParts a).fields).toList := by
  have htexts : a.fieldNames.toList.map literalOf
      = a.fieldNames.toList.flatMap fun name => [literalOf name] := List.map_eq_flatMap
  rw [Source.toList_joinLines, htexts, Rendering.kotlinParts, List.flatMap_map]
  refine .flatMap fun name _ => ?_
  have hline : ("        " ++ Rendering.literal .kotlin name ++ ",").toList ++ ['\n']
      = "        ".toList ++ literalOf name ++ [',', '\n'] := by simp [literalOf]
  rw [hline]
  exact .literal (fun h => absurd h (by decide)) (.code fun h => absurd h (by decide))

theorem laced_debugging (a : Artifact) :
    Laced raw (descriptionLiterals a)
      (Rendering.joinLines (Rendering.kotlinParts a).debugging).toList := by
  have hlines : (Rendering.joinLines (Rendering.kotlinParts a).debugging).toList
      = "\n    @JvmStatic\n    fun describe(): String = ".toList ++ rawLiteral (a.name ++ "(source=")
        ++ (" + ".toList ++ literalOf a.sourceType
          ++ (" + ".toList ++ rawLiteral ", fields="
            ++ (" + FIELDS.joinToString(".toList ++ rawLiteral ", "
              ++ (") + ".toList ++ rawLiteral ")"
                ++ "\n\n    override fun toString(): String = describe()\n".toList)))) := by
    rw [Source.toList_joinLines, Rendering.kotlinParts]
    simp [rawLiteral, literalOf]
  have hcode : ∀ {cs : List Char}, cs.all (· ≠ '\x22') = true → '\x22' ∈ cs → raw := by
    intro cs hnone hmem
    simpa using List.all_eq_true.mp hnone _ hmem
  rw [hlines]
  exact .literal (hcode (by decide)) (.literal (hcode (by decide)) (.literal (hcode (by decide))
    (.literal (hcode (by decide)) (.literal (hcode (by decide)) (.code (hcode (by decide)))))))

/-- A companion is code with its literals in it. No quote stands outside of them unless a name that is
written as it is has one. -/
theorem laced_render (a : Artifact) :
    Laced (QuoteInNames a) (companionLiterals a) (Rendering.render .kotlin a).toList := by
  have haccessor : '\x22' ∉ (Rendering.joinLines (Rendering.kotlinParts a).accessor).toList := by
    have hlines : (Rendering.kotlinParts a).accessor
        = ["    )", "", "    @JvmStatic", "    fun fields(): List<String> = FIELDS"] := rfl
    rw [hlines]
    decide
  have hclosing : Laced (QuoteInNames a) []
      (Rendering.joinLines (Rendering.kotlinParts a).closing).toList := by
    have hlines : (Rendering.kotlinParts a).closing = ["\x7d"] := rfl
    rw [hlines]
    exact .code fun h => absurd h (by decide)
  have hparts : (Rendering.render .kotlin a).toList
      = (Rendering.joinLines (Rendering.kotlinParts a).opening).toList
        ++ ((Rendering.joinLines (Rendering.kotlinParts a).fields).toList
        ++ ((Rendering.joinLines (Rendering.kotlinParts a).accessor).toList
        ++ ((Rendering.joinLines
            (if a.debuggable then (Rendering.kotlinParts a).debugging else [])).toList
        ++ (Rendering.joinLines (Rendering.kotlinParts a).closing).toList))) := by
    simp only [Rendering.render, Rendering.parts, Rendering.Parts.lines, Source.toList_joinLines,
      List.flatMap_append, List.append_assoc]
  rw [hparts, companionLiterals]
  refine (laced_opening a).append ((laced_fields a).append (.code_append (absurd · haccessor) ?_))
  cases a.debuggable with
  | true => simpa using (laced_debugging a).append hclosing
  | false => exact hclosing

/-- The first literal of a description begins with the name of the companion as it is. -/
theorem isGuardedLiteral_name_iff (name : String) :
    IsGuardedLiteral (rawLiteral (name ++ Artifact.nameEnding ++ "(source=")) ↔
      standsInside name.toList = true := by
  have hchars : rawLiteral (name ++ Artifact.nameEnding ++ "(source=")
      = '\x22' :: (name.toList ++ '_' :: ("Fielder(source=".toList ++ ['\x22'])) := by
    simp [rawLiteral, Artifact.nameEnding]
  have hplain : ∀ c ∈ "_Fielder(source=".toList, isMarked c = false := by simp [isMarked]
  have hread : guardedRest? ('_' :: ("Fielder(source=".toList ++ ['\x22'])) = some (_, []) :=
    guardedRest?_run hplain []
  rw [hchars]
  exact isGuardedLiteral_raw_iff (by decide) (by decide) (by decide) hread _

theorem isGuardedLiteral_literalOf (s : String) :
    IsGuardedLiteral (literalOf s) ↔ formFeed ∉ s.toList := by
  rw [IsGuardedLiteral, literalOf, guardedLiteral?_literal]
  by_cases hfeed : formFeed ∈ s.toList <;> simp [hfeed]

/-- The literals of the companion of a type. Each name of the companion is read back as its UTF-16 units
unless it holds a form feed. All literals are well formed, with every dollar sign guarded, exactly when
no name holds a form feed and, if the companion is debuggable, neither does the qualified name of the
type and the type's own name is made of characters that stand for themselves and of whole escapes. -/
theorem interpolated_literals_iff (t : TypeDescriptor) (names : FieldNames) (debuggable : Bool) :
    Laced (QuoteInNames (Artifact.build t names debuggable))
        (companionLiterals (Artifact.build t names debuggable))
        (Rendering.render .kotlin (Artifact.build t names debuggable)).toList ∧
      (∀ name ∈ names.toList,
        (guardedLiteral? (literalOf name) = some (name.toList.flatMap units16, []) ↔
          formFeed ∉ name.toList)) ∧
      ((∀ text ∈ companionLiterals (Artifact.build t names debuggable), IsGuardedLiteral text) ↔
        (∀ name ∈ names.toList, formFeed ∉ name.toList) ∧
          (debuggable = true → formFeed ∉ t.qualifiedName.toList ∧
            standsInside t.simpleName.toList = true)) := by
  have hdescription : (∀ text ∈ descriptionLiterals (Artifact.build t names debuggable),
      IsGuardedLiteral text) ↔ formFeed ∉ t.qualifiedName.toList ∧
        standsInside t.simpleName.toList = true := by
    have hfixed : ∀ s ∈ [", fields=", ", ", ")"], IsGuardedLiteral (rawLiteral s) := by
      have hplain : ∀ s ∈ [", fields=", ", ", ")"], s.toList.all (fun c => !isMarked c) = true := by
        decide
      intro s hs
      exact isGuardedLiteral_rawLiteral fun c hc => by simpa using List.all_eq_true.mp (hplain s hs) c hc
    simp only [List.forall_mem_cons] at hfixed
    simp only [descriptionLiterals, List.forall_mem_cons, hfixed]
    rw [Artifact.build]
    simp [Artifact.nameFor, isGuardedLiteral_name_iff, isGuardedLiteral_literalOf, and_comm]
  refine ⟨laced_render _, ?_, ?_⟩
  · intro name _
    rw [literalOf, guardedLiteral?_literal]
    by_cases hfeed : formFeed ∈ name.toList <;> simp [hfeed]
  · have hnames : (Artifact.build t names debuggable).fieldNames.toList = names.toList := by
      simp [Artifact.build]
    have hflag : (Artifact.build t names debuggable).debuggable = debuggable := rfl
    rw [companionLiterals, hnames, hflag, List.forall_mem_append, List.forall_mem_map]
    simp only [isGuardedLiteral_literalOf]
    refine and_congr_right fun _ => ?_
    cases debuggable with
    | true => simpa using hdescription
    | false => simp

/-! ## Names that are not read back -/

/-- A manifest of one type with one field. -/
def fieldedType (name field : String) : Document.Value :=
  .map [(.text "types", .seq [.map [(.text "name", .text name),
    (.text "fields", .seq [.text field])]])]

/-- Two manifests of one type with one field each. In the first companion the name of the field, which
holds a form feed, is no literal; in the second one, whose type has a dollar sign in its name, the
description puts in the value of another name. -/
theorem literal_broken_by_name :
    (∃ d t names,
      Manifest.ofValue Limits.ample.nesting none (fieldedType "zoo.Cat" "a\x0cb") = .ok d ∧ d.found = [0] ∧
      d.graph.get? 0 = some t ∧ (collect d.graph .standard (some 0)).1 = .ok names ∧
      literalOf "a\x0cb" ∈ companionLiterals (Artifact.build t names false) ∧
      guardedLiteral? (literalOf "a\x0cb") = none) ∧
    ∃ d t names,
      Manifest.ofValue Limits.ample.nesting none (fieldedType "zoo.Cat$b" "one") = .ok d ∧ d.found = [0] ∧
      d.graph.get? 0 = some t ∧ (collect d.graph .standard (some 0)).1 = .ok names ∧
      rawLiteral "Cat$b_Fielder(source=" ∈ companionLiterals (Artifact.build t names true) ∧
      ¬ IsGuardedLiteral (rawLiteral "Cat$b_Fielder(source=") := by
  constructor
  · refine ⟨_, _, ⟨["a\x0cb"], true, by decide⟩, rfl, rfl, rfl, rfl, ?_, ?_⟩
    · exact List.mem_append_left _ (List.mem_singleton.mpr rfl)
    · rw [literalOf, guardedLiteral?_literal]
      rfl
  · refine ⟨_, _, ⟨["one"], true, by decide⟩, rfl, rfl, rfl, rfl, ?_, ?_⟩
    · exact List.mem_append_right _ (List.mem_cons_self ..)
    · have hname : rawLiteral "Cat$b_Fielder(source="
          = rawLiteral ("Cat$b" ++ Artifact.nameEnding ++ "(source=") := rfl
      rw [hname, isGuardedLiteral_name_iff]
      simp [standsInside, isMarked]

end Roster
