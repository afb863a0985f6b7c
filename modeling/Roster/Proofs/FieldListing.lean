import Mathlib.Data.List.Basic
import Roster.Proofs.EscapedText
import Roster.Rendering

/-! # The names that a companion lists

The field names of a companion stand in its text as literals between brackets. Here that text is read
back: literals by the rules of the language, which takes each `\u` for one code point, literals side
by side as one, and commas between them.

* `literalValue?`, `textTuple?`: the reader.
* `literalValue?_escaped`, `textTuple?_listing`: escaped texts are read as their UTF-16 units.
* `render_eq`: where the listing of a companion stands in its text.
* `listed_names_iff`: so the names of a companion are read back exactly when all their characters lie
  in the basic plane.
-/

namespace Roster.Source

/-! ## Reading literals -/

section Reading

/-- What the character after a backslash stands for by itself; an end of line stands for nothing. -/
def shortEscape? (c : Char) : Option (List Nat) :=
  if c = '\\' || c = '\x27' || c = '\x22' then some [c.toNat]
  else if c = '\n' then some []
  else if c = 'a' then some [7]
  else if c = 'b' then some [8]
  else if c = 't' then some [9]
  else if c = 'n' then some [10]
  else if c = 'v' then some [11]
  else if c = 'f' then some [12]
  else if c = 'r' then some [13]
  else none

/-- Whether a character is an octal digit. -/
def isOctalDigit (c : Char) : Bool := '0' ≤ c && c ≤ '7'

/-- The number that octal digits write. -/
def octalValue (digits : List Char) : Nat :=
  digits.foldl (fun value c => 8 * value + (c.toNat - 48)) 0

-- the code point of a character's name
variable (named : List Char → Option Nat)

/-- The code points of an escape, from the character after its backslash on, and how many characters
after that one belong to it. A backslash before any other character stands for itself. -/
def escape? (c : Char) (rest : List Char) : Option (List Nat × Nat) :=
  match shortEscape? c with
  | some value => some (value, 0)
  | none =>
    if isOctalDigit c then
      let digits := (c :: rest.take 2).takeWhile isOctalDigit
      some ([octalValue digits], digits.length - 1)
    else if c = 'x' then (hexEscape? 2 0 rest).map fun n => ([n], 2)
    else if c = 'u' then (hexEscape? 4 0 rest).map fun n => ([n], 4)
    else if c = 'U' then
      ((hexEscape? 8 0 rest).filter (· ≤ lastCodePoint)).map fun n => ([n], 8)
    else if c = 'N' then
      match rest with
      | '\x7b' :: more =>
        let name := more.takeWhile (· ≠ '\x7d')
        if more.contains '\x7d' then (named name).map fun n => ([n], name.length + 2) else none
      | _ => none
    else some (['\\'.toNat, c.toNat], 0)

/-- The code points that the inside of a literal stands for. -/
def literalValue? : List Char → Option (List Nat)
  | [] => some []
  | '\\' :: c :: rest => do
    let (value, length) ← escape? named c rest
    let more ← literalValue? (rest.drop length)
    some (value ++ more)
  | c :: rest => (literalValue? rest).map (c.toNat :: ·)
termination_by cs => cs.length
decreasing_by
  all_goals
    simp only [List.length_cons, List.length_drop]
    omega

/-- A literal at the front of a text, and what follows it. Three quotes open another kind. -/
def textLiteral? : List Char → Option (List Nat × List Char)
  | [] => none
  | quote :: rest =>
    if !isQuote quote || rest.take 2 = [quote, quote] then none
    else do
      let (body, rest) ← untilQuote quote rest
      let value ← literalValue? named body
      some (value, rest)

/-- Whether a character does not count between brackets. -/
def isSpacing (c : Char) : Bool := isGap c || c = '\n'

/-- Drops what does not count between brackets. -/
def dropSpace (cs : List Char) : List Char := cs.dropWhile isSpacing

/-- Literals side by side, which are one text, and what follows them. -/
def textLiterals? : (fuel : Nat) → List Char → Option (List Nat × List Char)
  | 0, _ => none
  | fuel + 1, cs => do
    let (value, rest) ← textLiteral? named cs
    let rest := dropSpace rest
    if rest.head?.any isQuote then
      let (more, rest) ← textLiterals? fuel rest
      some (value ++ more, rest)
    else some (value, rest)

/-- Texts with commas between them up to a closing bracket, and what follows it; `comma` tells that
there was a comma, without which a single text is no tuple. -/
def textItems? : (fuel : Nat) → (comma : Bool) → List Char → Option (List (List Nat) × List Char)
  | 0, _, _ => none
  | fuel + 1, comma, cs =>
    match dropSpace cs with
    | ')' :: rest => some ([], rest)
    | cs => do
      let (value, rest) ← textLiterals? named cs.length cs
      match rest with
      | ',' :: rest => do
        let (values, rest) ← textItems? fuel true rest
        some (value :: values, rest)
      | ')' :: rest => if comma then some ([value], rest) else none
      | _ => none

/-- The texts of a tuple, each as its code points, and what follows the tuple. The text starts after
the opening bracket. -/
def textTuple? (cs : List Char) : Option (List (List Nat) × List Char) :=
  textItems? named (cs.length + 1) false cs

end Reading

/-! ## Escaped texts -/

variable {named : List Char → Option Nat}

theorem shortEscape?_of_mem : ∀ p ∈ Text.shortEscapes, shortEscape? p.1 = some [p.2.toNat] := by
  decide

theorem literalValue?_short {sign c : Char} (h : (sign, c) ∈ Text.shortEscapes) (rest : List Char) :
    literalValue? named ('\\' :: sign :: rest) = (literalValue? named rest).map (c.toNat :: ·) := by
  have hescape : escape? named sign rest = some ([c.toNat], 0) := by
    unfold escape?
    rw [shortEscape?_of_mem (sign, c) h]
  rw [literalValue?, hescape]
  simp only [Option.bind_eq_bind, Option.bind_some, List.drop_zero]
  cases literalValue? named rest <;> rfl

theorem literalValue?_plain {c : Char} (h : c ≠ '\\') (rest : List Char) :
    literalValue? named (c :: rest) = (literalValue? named rest).map (c.toNat :: ·) := by
  rw [literalValue?]
  rintro d more hc -
  exact h hc

theorem literalValue?_units {units : List Nat} (h : ∀ u ∈ units, u < 0x10000) (rest : List Char) :
    literalValue? named (units.flatMap Text.unitEscape ++ rest)
      = (literalValue? named rest).map (units ++ ·) := by
  induction units with
  | nil =>
    rw [List.flatMap_nil, List.nil_append]
    cases literalValue? named rest <;> rfl
  | cons u units ih =>
    rw [List.forall_mem_cons] at h
    have hread := Text.hexEscape?_hexDigits h.1 (units.flatMap Text.unitEscape ++ rest)
    have hdrop : (Text.hexDigits 4 u ++ (units.flatMap Text.unitEscape ++ rest)).drop 4
        = units.flatMap Text.unitEscape ++ rest :=
      List.drop_left' (Text.length_hexDigits 4 u)
    have hescape : escape? named 'u' (Text.hexDigits 4 u ++ (units.flatMap Text.unitEscape ++ rest))
        = some ([u], 4) := by
      simp [escape?, shortEscape?, isOctalDigit, hread]
    rw [List.flatMap_cons, List.append_assoc, Text.unitEscape, List.cons_append, List.cons_append,
      literalValue?, hescape]
    simp only [Option.bind_eq_bind, Option.bind_some, hdrop, ih h.2]
    cases literalValue? named rest <;> rfl

/-- One escaped character is read as its units. -/
theorem literalValue?_escapeChar (c : Char) (rest : List Char) :
    literalValue? named (Text.escapeChar c ++ rest)
      = (literalValue? named rest).map (Text.units16 c ++ ·) := by
  rcases Text.escapeChar_cases c with ⟨sign, hmem, hchars⟩ | ⟨-, hlt, -, hback, hchars⟩ | hchars
  · rw [hchars, Text.units16_of_lt (Text.toNat_shortEscapes_lt _ hmem)]
    exact literalValue?_short hmem rest
  · rw [hchars, Text.units16_of_lt (by omega)]
    exact literalValue?_plain hback rest
  · rw [hchars]
    exact literalValue?_units (fun u hu => Text.unit_lt hu) rest

/-- An escaped text is read as its units. -/
theorem literalValue?_escaped (cs : List Char) :
    literalValue? named (cs.flatMap Text.escapeChar) = some (cs.flatMap Text.units16) := by
  induction cs with
  | nil => rw [List.flatMap_nil, literalValue?]; rfl
  | cons c cs ih =>
    rw [List.flatMap_cons, literalValue?_escapeChar, ih, List.flatMap_cons]
    rfl

/-! ## The end of a literal -/

theorem untilQuote_guarded (quote c : Char) (rest : List Char) :
    untilQuote quote ('\\' :: c :: rest)
      = (untilQuote quote rest).map fun r => ('\\' :: c :: r.1, r.2) := by
  rw [untilQuote]

theorem untilQuote_plain {quote c : Char} (hback : c ≠ '\\') (hquote : c ≠ quote) (hline : c ≠ '\n')
    (rest : List Char) :
    untilQuote quote (c :: rest) = (untilQuote quote rest).map fun r => (c :: r.1, r.2) := by
  rw [untilQuote, if_neg hquote, if_neg hline]
  rintro d more hc -
  exact hback hc

/-- A piece inside a literal: the reading goes over it to what follows. -/
def Passes (quote : Char) (piece : List Char) : Prop :=
  ∀ rest, untilQuote quote (piece ++ rest)
    = (untilQuote quote rest).map fun r => (piece ++ r.1, r.2)

theorem Passes.nil (quote : Char) : Passes quote [] := by
  intro rest
  rw [List.nil_append]
  cases untilQuote quote rest <;> rfl

theorem Passes.append {quote : Char} {xs ys : List Char} (hx : Passes quote xs)
    (hy : Passes quote ys) : Passes quote (xs ++ ys) := by
  intro rest
  rw [List.append_assoc, hx, hy, Option.map_map]
  simp only [Function.comp_def, List.append_assoc]

theorem Passes.flatMap {α : Type} {quote : Char} {f : α → List Char} {items : List α}
    (h : ∀ x ∈ items, Passes quote (f x)) : Passes quote (items.flatMap f) := by
  induction items with
  | nil => exact .nil quote
  | cons x items ih =>
    rw [List.forall_mem_cons] at h
    rw [List.flatMap_cons]
    exact h.1.append (ih h.2)

theorem Passes.plain {quote : Char} {cs : List Char}
    (h : ∀ c ∈ cs, c ≠ '\\' ∧ c ≠ quote ∧ c ≠ '\n') : Passes quote cs := by
  induction cs with
  | nil => exact .nil quote
  | cons c cs ih =>
    rw [List.forall_mem_cons] at h
    obtain ⟨⟨hback, hquote, hline⟩, hrest⟩ := h
    intro rest
    rw [List.cons_append, untilQuote_plain hback hquote hline, ih hrest, Option.map_map]
    rfl

/-- No escaped character ends a literal in double quotes. -/
theorem passes_escapeChar (c : Char) : Passes '\x22' (Text.escapeChar c) := by
  have hguarded : ∀ sign more, Passes '\x22' more → Passes '\x22' ('\\' :: sign :: more) := by
    intro sign more hmore rest
    rw [List.cons_append, List.cons_append, untilQuote_guarded, hmore, Option.map_map]
    rfl
  rcases Text.escapeChar_cases c with ⟨sign, -, hchars⟩ | ⟨hlow, -, hquote, hback, hchars⟩ | hchars
  · rw [hchars]
    exact hguarded sign [] (.nil _)
  · rw [hchars]
    refine .plain fun d hd => ?_
    obtain rfl := List.mem_singleton.mp hd
    refine ⟨hback, hquote, ?_⟩
    rintro rfl
    exact absurd hlow (by decide)
  · rw [hchars]
    refine .flatMap fun u _ => hguarded 'u' _ (.plain fun d hd => ?_)
    have hdigit := Text.isHexDigit_of_mem_hexDigits hd
    refine ⟨?_, ?_, ?_⟩
    all_goals
      rintro rfl
      exact absurd hdigit (by decide)

theorem untilQuote_escaped (cs rest : List Char) :
    untilQuote '\x22' (cs.flatMap Text.escapeChar ++ '\x22' :: rest)
      = some (cs.flatMap Text.escapeChar, rest) := by
  have hpass : Passes '\x22' (cs.flatMap Text.escapeChar) := .flatMap fun c _ => passes_escapeChar c
  have hclose : untilQuote '\x22' ('\x22' :: rest) = some ([], rest) := by
    rw [untilQuote, if_pos rfl]
    rintro d more hc -
    exact absurd hc (by decide)
  rw [hpass, hclose, Option.map_some, List.append_nil]

/-- An escaped character does not start with a quote. -/
theorem escapeChar_head (c : Char) :
    ∃ first more, Text.escapeChar c = first :: more ∧ first ≠ '\x22' := by
  rcases Text.escapeChar_cases c with ⟨sign, -, hchars⟩ | ⟨-, -, hquote, -, hchars⟩ | hchars
  · exact ⟨_, _, hchars, by decide⟩
  · exact ⟨_, _, hchars, hquote⟩
  · have hunits : Text.units16 c ≠ [] := by
      unfold Text.units16
      split <;> simp
    obtain ⟨u, units, hcons⟩ := List.exists_cons_of_ne_nil hunits
    rw [hcons, List.flatMap_cons] at hchars
    exact ⟨_, _, hchars, by decide⟩

/-- An escaped text is a literal that is read as its units. -/
theorem textLiteral?_escaped (cs : List Char) {c : Char} (hc : c ≠ '\x22') (rest : List Char) :
    textLiteral? named (Text.escapedChars cs ++ c :: rest)
      = some (cs.flatMap Text.units16, c :: rest) := by
  have hopen : Text.escapedChars cs ++ c :: rest
      = '\x22' :: (cs.flatMap Text.escapeChar ++ '\x22' :: c :: rest) := by
    simp [Text.escapedChars]
  -- two quotes alone, as those of the empty text, do not open a literal in three quotes
  have htwo : (cs.flatMap Text.escapeChar ++ '\x22' :: c :: rest).take 2 ≠ ['\x22', '\x22'] := by
    cases cs with
    | nil => simpa using hc
    | cons first cs =>
      obtain ⟨d, more, hchars, hd⟩ := escapeChar_head first
      rw [List.flatMap_cons, hchars]
      simp [hd]
  have hquote : isQuote '\x22' = true := rfl
  rw [hopen, textLiteral?]
  simp only [hquote, htwo, Bool.not_true, decide_false, Bool.or_false, Bool.false_eq_true, if_false,
    untilQuote_escaped, literalValue?_escaped, Option.bind_eq_bind, Option.bind_some]

/-! ## Listings -/

theorem dropSpace_append {space : List Char} (h : space.all isSpacing = true) (cs : List Char) :
    dropSpace (space ++ cs) = dropSpace cs :=
  List.dropWhile_append_of_pos (List.all_eq_true.mp h)

theorem dropSpace_cons {c : Char} (h : isSpacing c = false) (cs : List Char) :
    dropSpace (c :: cs) = c :: cs :=
  List.dropWhile_cons_of_neg (Bool.not_eq_true _ ▸ h)

/-- A literal that no other one follows. -/
theorem textLiterals?_escaped (fuel : Nat) (cs : List Char) (rest : List Char) :
    textLiterals? named (fuel + 1) (Text.escapedChars cs ++ ',' :: rest)
      = some (cs.flatMap Text.units16, ',' :: rest) := by
  have hspace : dropSpace (',' :: rest) = ',' :: rest := dropSpace_cons rfl rest
  have hquote : isQuote ',' = false := rfl
  rw [textLiterals?, textLiteral?_escaped cs (by decide)]
  simp only [Option.bind_eq_bind, Option.bind_some, hspace]
  simp [hquote]

/-- Space in front does not count. -/
theorem textItems?_dropSpace {space : List Char} (h : space.all isSpacing = true)
    (fuel : Nat) (comma : Bool) (cs : List Char) :
    textItems? named fuel comma (space ++ cs) = textItems? named fuel comma cs := by
  cases fuel with
  | zero => rfl
  | succ fuel => rw [textItems?, textItems?, dropSpace_append h]

/-- One text with a comma after it. -/
theorem textItems?_cons (fuel : Nat) (comma : Bool) (cs rest : List Char) :
    textItems? named (fuel + 1) comma (Text.escapedChars cs ++ ',' :: rest)
      = (textItems? named fuel true rest).map fun r => (cs.flatMap Text.units16 :: r.1, r.2) := by
  have hopen : Text.escapedChars cs ++ ',' :: rest
      = '\x22' :: (cs.flatMap Text.escapeChar ++ '\x22' :: ',' :: rest) := by
    simp [Text.escapedChars]
  have hliteral := @textLiterals?_escaped named
    (cs.flatMap Text.escapeChar ++ '\x22' :: ',' :: rest).length cs rest
  rw [hopen] at hliteral ⊢
  rw [textItems?, dropSpace_cons rfl]
  split
  case h_1 _ heq => exact absurd (List.cons.inj heq).1 (by decide)
  rw [List.length_cons, hliteral]
  simp only [Option.bind_eq_bind, Option.bind_some]
  cases textItems? named fuel true rest <;> rfl

/-- Escaped texts, each on a line of its own with a comma after it. -/
def listing (texts : List (List Char)) : List Char :=
  texts.flatMap fun cs => "        ".toList ++ Text.escapedChars cs ++ [',', '\n']

/-- A listing up to its closing bracket is read as the units of its texts. -/
theorem textItems?_listing {fuel : Nat} (comma : Bool) {texts : List (List Char)}
    (h : texts.length < fuel) (rest : List Char) :
    textItems? named fuel comma (listing texts ++ ("    )".toList ++ rest))
      = some (texts.map (·.flatMap Text.units16), rest) := by
  induction texts generalizing fuel comma with
  | nil =>
    obtain ⟨fuel, rfl⟩ := Nat.exists_eq_succ_of_ne_zero (Nat.ne_zero_of_lt h)
    rfl
  | cons cs texts ih =>
    obtain ⟨fuel, rfl⟩ := Nat.exists_eq_succ_of_ne_zero (Nat.ne_zero_of_lt h)
    rw [List.length_cons, Nat.succ_lt_succ_iff] at h
    have hsplit : listing (cs :: texts) ++ ("    )".toList ++ rest)
        = "        ".toList ++ (Text.escapedChars cs
          ++ ',' :: (['\n'] ++ (listing texts ++ ("    )".toList ++ rest)))) := by
      simp [listing]
    rw [hsplit, textItems?_dropSpace rfl, textItems?_cons, textItems?_dropSpace rfl,
      ih true h]
    rfl

theorem length_le_listing (texts : List (List Char)) : texts.length ≤ (listing texts).length := by
  induction texts with
  | nil => exact Nat.le_refl 0
  | cons cs texts ih =>
    rw [listing, List.flatMap_cons, ← listing]
    simp only [List.length_cons, List.length_append]
    omega

/-- A listing that starts on the line after its opening bracket. -/
theorem textTuple?_listing (texts : List (List Char)) (rest : List Char) :
    textTuple? named ('\n' :: (listing texts ++ ("    )".toList ++ rest)))
      = some (texts.map (·.flatMap Text.units16), rest) := by
  have hlength := length_le_listing texts
  rw [textTuple?, ← List.singleton_append, textItems?_dropSpace rfl]
  refine textItems?_listing false ?_ rest
  simp only [List.length_append, List.length_singleton]
  omega

/-! ## The listing of a companion -/

theorem toList_joinLines (lines : List String) :
    (Rendering.joinLines lines).toList = lines.flatMap fun line => line.toList ++ ['\n'] := by
  induction lines with
  | nil => rfl
  | cons line lines ih =>
    rw [List.flatMap_cons, ← ih, Rendering.joinLines, List.foldr_cons, ← Rendering.joinLines]
    simp

/-- The text of a companion before the line that opens its listing. -/
def heading (a : Artifact) : List Char :=
  (Rendering.joinLines (Rendering.pythonParts a).opening.dropLast).toList

/-- The line that opens the listing, up to its bracket. -/
def opener : List Char := "    FIELDS: Final[Tuple[str, ...]] = (".toList

/-- The names of a companion, as characters. -/
def namesOf (a : Artifact) : List (List Char) := a.fieldNames.toList.map String.toList

theorem toList_joinLines_fields (a : Artifact) :
    (Rendering.joinLines (Rendering.pythonParts a).fields).toList = listing (namesOf a) := by
  have hline : ∀ name : String,
      ("        " ++ Rendering.literal .python name ++ ",").toList ++ ['\n']
        = "        ".toList ++ Text.escapedChars name.toList ++ [',', '\n'] := by
    simp [Rendering.literal, Text.escaped]
  rw [toList_joinLines, listing, namesOf, Rendering.pythonParts, List.flatMap_map, List.flatMap_map]
  simp only [hline]

/-- A companion's text is its heading, the listing of its names in brackets, and the rest. -/
theorem render_eq (a : Artifact) :
    ∃ rest, (Rendering.render .python a).toList
      = heading a ++ opener ++ '\n' :: (listing (namesOf a) ++ ("    )".toList ++ rest)) := by
  have hopening : (Rendering.pythonParts a).opening
      = (Rendering.pythonParts a).opening.dropLast ++ [String.ofList opener] := rfl
  obtain ⟨more, haccessor⟩ : ∃ more, (Rendering.pythonParts a).accessor = "    )" :: more := ⟨_, rfl⟩
  refine ⟨'\n' :: (Rendering.joinLines (more
    ++ (if a.debuggable then (Rendering.pythonParts a).debugging else [])
    ++ (Rendering.pythonParts a).closing)).toList, ?_⟩
  rw [Rendering.render, Rendering.Parts.lines, Rendering.parts, heading, ← toList_joinLines_fields,
    hopening, haccessor]
  simp only [toList_joinLines, List.flatMap_append, List.flatMap_cons,
    String.toList_ofList, List.dropLast_concat, List.append_assoc, List.cons_append,
    List.nil_append]

/-- What is read between the brackets of a companion are its names as UTF-16 units. These are the
code points of the names, in their order, exactly when every character lies in the basic plane. -/
theorem listed_names_iff (named : List Char → Option Nat) (a : Artifact) :
    ∃ text rest values,
      (Rendering.render .python a).toList = heading a ++ opener ++ text ∧
      textTuple? named text = some (values, rest) ∧
      (values = (namesOf a).map (·.map Char.toNat) ↔
        ∀ name ∈ a.fieldNames.toList, ∀ c ∈ name.toList, c.toNat < 0x10000) := by
  obtain ⟨rest, hrender⟩ := render_eq a
  refine ⟨_, rest, _, hrender, textTuple?_listing _ rest, ?_⟩
  rw [List.map_inj_left, namesOf, List.forall_mem_map]
  simp only [Text.flatMap_units16_eq_iff]

/-- A companion of a type with one field, whose name is a face. -/
def smiling : Artifact where
  package := ""
  name := "Mood_Fielder"
  fieldNames := ⟨["😀"], true, by decide⟩
  debuggable := false
  sourceType := "Mood"

/-- The face is read back as two surrogates. -/
theorem listed_surrogates :
    ∃ text rest, (Rendering.render .python smiling).toList = heading smiling ++ opener ++ text ∧
      textTuple? (fun _ => none) text = some ([[0xD83D, 0xDE00]], rest) ∧
      (namesOf smiling).map (·.map Char.toNat) = [[0x1F600]] := by
  obtain ⟨rest, hrender⟩ := render_eq smiling
  exact ⟨_, rest, hrender, textTuple?_listing _ rest, by decide⟩

end Roster.Source
