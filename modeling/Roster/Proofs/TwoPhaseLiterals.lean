import Mathlib.Data.List.Basic
import Roster.Proofs.EscapedText
import Roster.Rendering

/-! # Literals that are read in two phases

Some languages read a text twice. First every unit that is written by its number is put in, whether in
a literal or outside: `\u` starts such an escape if its backslash comes after an even number of
backslashes. What results is cut into literals, and only then the other escapes of a literal count. So
a unit that is put in first may end a literal, or its line.

* `sourceUnits?`: the first phase, from characters to UTF-16 units.
* `quotedUnits?`: the second one, from the units of a literal to its value.
* `codePoints`: the characters of a text that is given by its units.
* `readsInTurn_escapeChar`: what each phase makes of one escaped character.
* `literal_read_in_two_phases`: a text is read back from its literal, unit by unit.
-/

namespace Roster.Text

open Source

/-! ## The two phases -/

/-- The units of a source text, with those put in that are written by their numbers. `odd` tells
whether an odd number of backslashes comes right before. After `\` any number of `u` may stand, and
then four digits must. -/
def sourceUnits? (odd : Bool) : List Char → Option (List Nat)
  | [] => some []
  | '\\' :: rest =>
    if odd then (sourceUnits? false rest).map (0x5C :: ·)
    else if rest.head? = some 'u' then do
      let digits := rest.dropWhile (· = 'u')
      let unit ← hexEscape? 4 0 digits
      let units ← sourceUnits? false (digits.drop 4)
      some (unit :: units)
    else (sourceUnits? true rest).map (0x5C :: ·)
  | c :: rest => (sourceUnits? false rest).map (units16 c ++ ·)
termination_by cs => cs.length
decreasing_by
  all_goals simp only [List.length_cons, List.length_drop]
  all_goals
    have hshort : (rest.dropWhile (· = 'u')).length ≤ rest.length :=
      (List.dropWhile_sublist _).length_le
    omega

/-- The unit that a sign after a backslash stands for. -/
def signValue? (sign : Nat) : Option Nat :=
  if sign = 'b'.toNat then some 0x08
  else if sign = 't'.toNat then some 0x09
  else if sign = 'n'.toNat then some 0x0A
  else if sign = 'f'.toNat then some 0x0C
  else if sign = 'r'.toNat then some 0x0D
  else if sign = 0x22 ∨ sign = 0x5C then some sign
  else none

/-- The value of a literal from what follows its opening quote, and what follows the literal. It must
end in its line. -/
def quotedRest? : List Nat → Option (List Nat × List Nat)
  | [] => none
  | 0x5C :: sign :: rest => do
    let value ← signValue? sign
    let (values, rest) ← quotedRest? rest
    some (value :: values, rest)
  | u :: rest =>
    if u = 0x22 then some ([], rest)
    else if u = 0x0A ∨ u = 0x0D ∨ u = 0x5C then none
    else (quotedRest? rest).map fun r => (u :: r.1, r.2)

/-- The value of a literal at the front, and what follows it. Three quotes open another kind. -/
def quotedUnits? : List Nat → Option (List Nat × List Nat)
  | [] => none
  | u :: rest =>
    if u = 0x22 ∧ rest.take 2 ≠ [0x22, 0x22] then quotedRest? rest else none

/-- The code points of a text from its units: a high and a low surrogate together are one. -/
def codePoints : List Nat → List Nat
  | [] => []
  | [u] => [u]
  | u :: v :: rest =>
    if 0xD800 ≤ u ∧ u < 0xDC00 ∧ 0xDC00 ≤ v ∧ v < 0xE000 then
      (0x10000 + 0x400 * (u - 0xD800) + (v - 0xDC00)) :: codePoints rest
    else u :: codePoints (v :: rest)

/-! ## The first phase on its pieces -/

theorem sourceUnits?_plain {c : Char} (hc : c ≠ '\\') (odd : Bool) (rest : List Char) :
    sourceUnits? odd (c :: rest) = (sourceUnits? false rest).map (units16 c ++ ·) := by
  rw [sourceUnits?]
  exact fun h => hc h

/-- A backslash and a sign other than `u` stay as they are. -/
theorem sourceUnits?_sign {sign : Char} (hsign : sign ≠ 'u') (hbasic : sign.toNat < 0x10000)
    (rest : List Char) :
    sourceUnits? false ('\\' :: sign :: rest)
      = (sourceUnits? false rest).map ([0x5C, sign.toNat] ++ ·) := by
  have hnext : (sign :: rest).head? ≠ some 'u' := by
    rw [List.head?_cons]
    exact fun h => hsign (Option.some.inj h)
  rw [sourceUnits?, if_neg (by decide), if_neg hnext]
  by_cases hback : sign = '\\'
  · -- the second of two backslashes starts nothing
    subst hback
    rw [sourceUnits?, if_pos rfl, Option.map_map]
    rfl
  · rw [sourceUnits?_plain hback, units16_of_lt hbasic, Option.map_map]
    rfl

/-- A unit that is written by its number is put in. -/
theorem sourceUnits?_unitEscape {u : Nat} (hu : u < 0x10000) (rest : List Char) :
    sourceUnits? false (unitEscape u ++ rest) = (sourceUnits? false rest).map (u :: ·) := by
  have hdigits : ('u' :: (hexDigits 4 u ++ rest)).dropWhile (· = 'u') = hexDigits 4 u ++ rest := by
    have hfirst : hexDigit (u / 16 / 16 / 16 % 16) ≠ 'u' := by
      intro heq
      have hdigit := isHexDigit_hexDigit _ (Nat.mod_lt (u / 16 / 16 / 16) (by decide : 16 > 0))
      rw [heq] at hdigit
      exact absurd hdigit (by decide)
    rw [List.dropWhile_cons_of_pos (by decide), hexDigits_four, List.cons_append,
      List.dropWhile_cons_of_neg (by simpa using hfirst)]
  have hdrop : (hexDigits 4 u ++ rest).drop 4 = rest := List.drop_left' (length_hexDigits 4 u)
  rw [unitEscape, List.cons_append, List.cons_append, sourceUnits?, if_neg (by decide),
    if_pos List.head?_cons]
  simp only [hdigits, hexEscape?_hexDigits hu, hdrop, Option.bind_eq_bind, Option.bind_some]
  cases sourceUnits? false rest <;> rfl

/-! ## The second phase on its pieces -/

theorem signValue?_of_mem :
    ∀ p ∈ shortEscapes, signValue? p.1.toNat = some p.2.toNat := by decide

theorem quotedRest?_sign {sign value : Nat} (h : signValue? sign = some value) (rest : List Nat) :
    quotedRest? (0x5C :: sign :: rest) = (quotedRest? rest).map fun r => (value :: r.1, r.2) := by
  rw [quotedRest?, h]
  simp only [Option.bind_eq_bind, Option.bind_some]
  cases quotedRest? rest <;> rfl

theorem quotedRest?_close (rest : List Nat) : quotedRest? (0x22 :: rest) = some ([], rest) := by
  rw [quotedRest?, if_pos rfl]
  exact nofun

/-- The units that mean something inside a literal: its end, the end of the line, and what starts an
escape. -/
def specialUnits : List Nat := [0x22, 0x0A, 0x0D, 0x5C]

theorem quotedRest?_plain {u : Nat} (h : u ∉ specialUnits) (rest : List Nat) :
    quotedRest? (u :: rest) = (quotedRest? rest).map fun r => (u :: r.1, r.2) := by
  simp only [specialUnits, List.mem_cons, List.not_mem_nil, or_false, not_or] at h
  obtain ⟨hquote, hfeed, hreturn, hback⟩ := h
  rw [quotedRest?, if_neg hquote, if_neg (by omega)]
  exact fun _ _ h _ => hback h

/-! ## Both phases -/

/-- A piece of a literal of which the first phase makes some units, none of which ends the line, and
the second phase a value, whatever follows. -/
structure ReadsInTurn (piece : List Char) (units value : List Nat) : Prop where
  first : ∀ rest, sourceUnits? false (piece ++ rest) = (sourceUnits? false rest).map (units ++ ·)
  second : ∀ rest, quotedRest? (units ++ rest)
    = (quotedRest? rest).map fun r => (value ++ r.1, r.2)
  oneLine : 0x0A ∉ units ∧ 0x0D ∉ units

theorem ReadsInTurn.nil : ReadsInTurn [] [] [] where
  first rest := by
    rw [List.nil_append]
    cases sourceUnits? false rest <;> rfl
  second rest := by
    rw [List.nil_append]
    cases quotedRest? rest <;> rfl
  oneLine := ⟨List.not_mem_nil, List.not_mem_nil⟩

theorem ReadsInTurn.append {xs ys : List Char} {us vs value more : List Nat}
    (hx : ReadsInTurn xs us value) (hy : ReadsInTurn ys vs more) :
    ReadsInTurn (xs ++ ys) (us ++ vs) (value ++ more) where
  first rest := by
    rw [List.append_assoc, hx.first, hy.first, Option.map_map]
    simp only [Function.comp_def, List.append_assoc]
  second rest := by
    rw [List.append_assoc, hx.second, hy.second, Option.map_map]
    simp only [Function.comp_def, List.append_assoc]
  oneLine := by
    simp only [List.mem_append, not_or]
    exact ⟨⟨hx.oneLine.1, hy.oneLine.1⟩, hx.oneLine.2, hy.oneLine.2⟩

/-- Units that are written by their numbers stand for themselves, unless they are special. -/
theorem readsInTurn_units {units : List Nat} (h : ∀ u ∈ units, u < 0x10000 ∧ u ∉ specialUnits) :
    ReadsInTurn (units.flatMap unitEscape) units units := by
  induction units with
  | nil => exact .nil
  | cons u units ih =>
    obtain ⟨⟨hu, hspecial⟩, hunits⟩ := List.forall_mem_cons.mp h
    have hone : ReadsInTurn (unitEscape u) [u] [u] := by
      refine ⟨sourceUnits?_unitEscape hu, quotedRest?_plain hspecial, ?_⟩
      simp only [specialUnits, List.mem_cons, List.not_mem_nil, or_false, not_or] at hspecial
      simp only [List.mem_singleton]
      exact ⟨Ne.symm hspecial.2.1, Ne.symm hspecial.2.2.1⟩
    exact hone.append (ih hunits)

/-- What is special in a literal is never written by its number. -/
theorem notMem_specialUnits {c : Char} (h : escapeChar c = (units16 c).flatMap unitEscape) :
    ∀ u ∈ units16 c, u ∉ specialUnits := by
  intro u hu hspecial
  have hbasic : c.toNat < 0x10000 := by
    by_contra hbeyond
    have hsmall : ∀ s ∈ specialUnits, s < 0xD800 := by decide
    have hlarge : ∀ u ∈ units16 c, 0xD800 ≤ u := by
      rw [units16, if_neg hbeyond]
      simp only [List.mem_cons, List.not_mem_nil, or_false, forall_eq_or_imp, forall_eq]
      omega
    exact absurd (hlarge u hu) (Nat.not_le_of_lt (hsmall u hspecial))
  rw [units16_of_lt hbasic] at h hu
  obtain rfl := List.mem_singleton.mp hu
  have hshort : ∀ s ∈ specialUnits, escapeChar (Char.ofNat s) ≠ [s].flatMap unitEscape := by decide
  refine hshort c.toNat hspecial ?_
  rwa [Char.ofNat_toNat]

/-- What each phase makes of one escaped character. -/
theorem readsInTurn_escapeChar (c : Char) :
    ∃ units, ReadsInTurn (escapeChar c) units (units16 c) := by
  rcases escapeChar_cases c with
    ⟨sign, hmem, hchars⟩ | ⟨hlow, hhigh, hquote, hback, hchars⟩ | hchars
  · have hsigns : ∀ p ∈ shortEscapes, p.1 ≠ 'u' ∧ p.1.toNat < 0x10000 ∧
        0x0A ≠ p.1.toNat ∧ 0x0D ≠ p.1.toNat := by decide
    obtain ⟨hu, hbasic, hfeed, hreturn⟩ := hsigns _ hmem
    rw [hchars, units16_of_lt (toNat_shortEscapes_lt _ hmem)]
    refine ⟨[0x5C, sign.toNat], sourceUnits?_sign hu hbasic,
      quotedRest?_sign (signValue?_of_mem _ hmem), ?_⟩
    simp only [List.mem_cons, List.not_mem_nil, or_false, not_or]
    exact ⟨⟨by decide, hfeed⟩, by decide, hreturn⟩
  · have hbasic : c.toNat < 0x10000 := by omega
    have hspecial : c.toNat ∉ specialUnits := by
      simp only [specialUnits, List.mem_cons, List.not_mem_nil, or_false, not_or]
      exact ⟨fun h => hquote (char_eq_of_toNat h), by omega, by omega,
        fun h => hback (char_eq_of_toNat h)⟩
    rw [hchars, units16_of_lt hbasic]
    refine ⟨[c.toNat], fun rest => ?_, quotedRest?_plain hspecial, ?_⟩
    · rw [List.singleton_append, sourceUnits?_plain hback, units16_of_lt hbasic]
    · simp only [List.mem_singleton]
      omega
  · rw [hchars]
    exact ⟨_, readsInTurn_units fun u hu => ⟨unit_lt hu, notMem_specialUnits hchars u hu⟩⟩

/-- What each phase makes of an escaped text. -/
theorem exists_readsInTurn (cs : List Char) :
    ∃ units, ReadsInTurn (cs.flatMap escapeChar) units (cs.flatMap units16) := by
  induction cs with
  | nil => exact ⟨[], .nil⟩
  | cons c cs ih =>
    obtain ⟨first, hfirst⟩ := readsInTurn_escapeChar c
    obtain ⟨more, hmore⟩ := ih
    exact ⟨first ++ more, hfirst.append hmore⟩

/-! ## Characters -/

theorem codePoints_cons_of_not_high {u : Nat} (h : u < 0xD800 ∨ 0xDC00 ≤ u) (rest : List Nat) :
    codePoints (u :: rest) = u :: codePoints rest := by
  cases rest with
  | nil => rfl
  | cons v rest =>
    rw [codePoints, if_neg]
    omega

theorem codePoints_cons_pair {high low : Nat} (hhigh : high < 0x400) (hlow : low < 0x400)
    (rest : List Nat) :
    codePoints ((0xD800 + high) :: (0xDC00 + low) :: rest)
      = (0x10000 + 0x400 * high + low) :: codePoints rest := by
  rw [codePoints, if_pos (by omega), Nat.add_sub_cancel_left, Nat.add_sub_cancel_left]

/-- The units of a text are those of its characters, and of no other text. -/
theorem codePoints_units16 (cs : List Char) :
    codePoints (cs.flatMap units16) = cs.map Char.toNat := by
  induction cs with
  | nil => rfl
  | cons c cs ih =>
    have hvalid : c.toNat < 0xD800 ∨ 0xDFFF < c.toNat ∧ c.toNat < 0x110000 := c.valid
    rw [List.flatMap_cons, List.map_cons]
    by_cases hbasic : c.toNat < 0x10000
    · rw [units16_of_lt hbasic, List.singleton_append, codePoints_cons_of_not_high (by omega), ih]
    · have hback : 0x10000 + 0x400 * ((c.toNat - 0x10000) / 0x400) + (c.toNat - 0x10000) % 0x400
          = c.toNat := by omega
      rw [units16, if_neg hbasic, List.cons_append, List.singleton_append,
        codePoints_cons_pair (by omega) (by omega), ih, hback]

/-! ## The literal of a text -/

/-- After an opening quote the second phase reads up to the next one that is not escaped. -/
theorem quotedUnits?_of_body {body value : List Nat}
    (hbody : ∀ rest, quotedRest? (body ++ rest)
      = (quotedRest? rest).map fun r => (value ++ r.1, r.2))
    (hfirst : body.head? ≠ some 0x22) :
    quotedUnits? (0x22 :: body ++ [0x22]) = some (value, []) := by
  have htwo : (body ++ [0x22]).take 2 ≠ [0x22, 0x22] := by
    cases body with
    | nil => decide
    | cons u body =>
      rw [List.cons_append, List.take_succ_cons]
      exact fun h => hfirst (congrArg List.head? h)
  rw [List.cons_append, quotedUnits?, if_pos ⟨rfl, htwo⟩, hbody, quotedRest?_close, Option.map_some,
    List.append_nil]

/-- A quote does not come first in what the second phase goes over. -/
theorem ReadsInTurn.head?_ne {piece : List Char} {units value : List Nat}
    (h : ReadsInTurn piece units value) : units.head? ≠ some 0x22 := by
  intro hhead
  obtain ⟨rest, rfl⟩ := List.head?_eq_some_iff.mp hhead
  -- over a quote the second phase does not go: it would stop there, whatever follows
  have hstops := h.second []
  rw [List.append_nil, quotedRest?_close] at hstops
  contradiction

/-- Read in two phases, the literal of a text is one literal and nothing after it. It stays on one
line, also after the first phase, and its value are the UTF-16 units of the text, which are those of
its characters. -/
theorem literal_read_in_two_phases (s : String) :
    ∃ units, sourceUnits? false (Rendering.literal .java s).toList = some units ∧
      quotedUnits? units = some (s.toList.flatMap units16, []) ∧
      codePoints (s.toList.flatMap units16) = s.toList.map Char.toNat ∧
      (0x0A ∉ units ∧ 0x0D ∉ units) ∧
      '\n' ∉ (Rendering.literal .java s).toList ∧ '\r' ∉ (Rendering.literal .java s).toList := by
  obtain ⟨inner, hinner⟩ := exists_readsInTurn s.toList
  have hchars : (Rendering.literal .java s).toList = escapedChars s.toList := String.toList_ofList
  rw [hchars]
  refine ⟨0x22 :: inner ++ [0x22], ?_, quotedUnits?_of_body hinner.second hinner.head?_ne,
    codePoints_units16 _, ?_, notMem_escapedChars (by decide) _, notMem_escapedChars (by decide) _⟩
  · rw [escapedChars, List.cons_append, sourceUnits?_plain (by decide), hinner.first,
      sourceUnits?_plain (by decide), sourceUnits?]
    rfl
  · simp only [List.cons_append, List.mem_cons, List.mem_append, List.not_mem_nil, or_false, not_or]
    exact ⟨⟨by decide, hinner.oneLine.1, by decide⟩, by decide, hinner.oneLine.2, by decide⟩

/-- A backslash and the text of an escape stand for themselves, and a character beyond the basic plane
for its two units. -/
example :
    (sourceUnits? false (escapedChars ['\\', 'u', '0', '0', '4', '1', '\\', '😀'])).bind quotedUnits?
      = some ([0x5C, 0x75, 0x30, 0x30, 0x34, 0x31, 0x5C, 0xD83D, 0xDE00], []) := by
  decide +kernel

end Roster.Text
