import Mathlib.Data.List.Basic
import Roster.Source.Literal
import Roster.Text.Escaped

/-! # What escaped texts are made of

Each character of an escaped text is written in one of three ways: by a backslash and a letter or
sign, as it is, or as its UTF-16 units. Whoever reads such a text back needs to know these three ways
only.

* `escapeChar_cases`: the three ways.
* `hexEscape?_hexDigits`: four hexadecimal digits are read as the unit that they write.
* `range_of_mem_escapeChar`: escaped texts are printable ASCII.
* `notMem_escapedChars`: no escaped text leaves its line.
* `escapesOk_escaped`: the escapes are complete.
* `flatMap_units16_eq_iff`: the units are the code points exactly when every character lies in the
  basic plane.
-/

namespace Roster.Text

open Source

/-! ## Hexadecimal digits -/

theorem isHexDigit_hexDigit : ∀ n < 16, isHexDigit (hexDigit n) = true := by decide

theorem value_hexDigit :
    ∀ n < 16, (hexDigit n).toLower.toNat - (if (hexDigit n).isDigit then 48 else 87) = n := by
  decide

theorem hexEscape?_hexDigit {n : Nat} (h : n < 16) (count value : Nat) (rest : List Char) :
    hexEscape? (count + 1) value (hexDigit n :: rest) = hexEscape? count (16 * value + n) rest := by
  rw [hexEscape?, if_pos (isHexDigit_hexDigit n h), value_hexDigit n h]

/-- The last four digits of a number. -/
theorem hexDigits_four (n : Nat) :
    hexDigits 4 n = [hexDigit (n / 16 / 16 / 16 % 16), hexDigit (n / 16 / 16 % 16),
      hexDigit (n / 16 % 16), hexDigit (n % 16)] := rfl

/-- Four digits are read as the number that they write. -/
theorem hexEscape?_hexDigits {n : Nat} (h : n < 0x10000) (rest : List Char) :
    hexEscape? 4 0 (hexDigits 4 n ++ rest) = some n := by
  have hdigit : ∀ k, k % 16 < 16 := fun k => Nat.mod_lt k (by decide)
  rw [hexDigits_four, List.cons_append, hexEscape?_hexDigit (hdigit _), List.cons_append,
    hexEscape?_hexDigit (hdigit _), List.cons_append, hexEscape?_hexDigit (hdigit _),
    List.cons_append, hexEscape?_hexDigit (hdigit _), hexEscape?]
  congr 1
  omega

theorem length_hexDigits (width n : Nat) : (hexDigits width n).length = width := by
  induction width generalizing n with
  | zero => rfl
  | succ width ih => simp [hexDigits, ih]

theorem isHexDigit_of_mem_hexDigits {width n : Nat} {c : Char} (h : c ∈ hexDigits width n) :
    isHexDigit c = true := by
  induction width generalizing n with
  | zero => simp [hexDigits] at h
  | succ width ih =>
    rw [hexDigits, List.mem_append, List.mem_singleton] at h
    rcases h with h | rfl
    · exact ih h
    · exact isHexDigit_hexDigit _ (Nat.mod_lt n (by decide))

/-! ## UTF-16 units -/

theorem toNat_lt (c : Char) : c.toNat < 0x110000 := by
  have hvalid : c.toNat < 0xD800 ∨ 0xDFFF < c.toNat ∧ c.toNat < 0x110000 := c.valid
  omega

theorem units16_of_lt {c : Char} (h : c.toNat < 0x10000) : units16 c = [c.toNat] := if_pos h

theorem unit_lt {c : Char} {u : Nat} (h : u ∈ units16 c) : u < 0x10000 := by
  have hvalid := toNat_lt c
  unfold units16 at h
  split at h
  · rw [List.mem_singleton] at h
    omega
  · simp only [List.mem_cons, List.not_mem_nil, or_false] at h
    omega

/-- Beyond the basic plane the first unit is a surrogate, so no character has it for its code. -/
theorem head_units16_lt {c : Char} (h : ¬ c.toNat < 0x10000) :
    ∃ high low, units16 c = [high, low] ∧ high < c.toNat := by
  have hvalid := toNat_lt c
  refine ⟨_, _, if_neg h, ?_⟩
  omega

/-- The units of a text are its code points exactly when all its characters lie in the basic
plane. -/
theorem flatMap_units16_eq_iff (cs : List Char) :
    cs.flatMap units16 = cs.map Char.toNat ↔ ∀ c ∈ cs, c.toNat < 0x10000 := by
  induction cs with
  | nil => simp
  | cons c cs ih =>
    rw [List.flatMap_cons, List.map_cons, List.forall_mem_cons]
    by_cases hc : c.toNat < 0x10000
    · rw [units16_of_lt hc, List.singleton_append, List.cons.injEq]
      simp only [hc, true_and, ih]
    · obtain ⟨high, low, hunits, hlt⟩ := head_units16_lt hc
      rw [hunits, List.cons_append, List.cons.injEq]
      constructor
      · rintro ⟨heq, -⟩
        omega
      · rintro ⟨hlow, -⟩
        exact absurd hlow hc

/-! ## The three ways -/

/-- The letters and signs after a backslash, each with the character that it stands for. -/
def shortEscapes : List (Char × Char) :=
  [('\x22', '\x22'), ('\\', '\\'), ('n', '\n'), ('r', '\r'), ('t', '\t'), ('b', '\x08'),
    ('f', '\x0c')]

/-- A unit in hexadecimal. -/
def unitEscape (u : Nat) : List Char := '\\' :: 'u' :: hexDigits 4 u

theorem toNat_shortEscapes_lt : ∀ p ∈ shortEscapes, p.2.toNat < 0x10000 := by decide

theorem char_eq_of_toNat {c d : Char} (h : c.toNat = d.toNat) : c = d :=
  Char.ext (UInt32.toNat.inj h)

/-- A character is written by a short escape, as it is, or by its units. -/
theorem escapeChar_cases (c : Char) :
    (∃ sign, (sign, c) ∈ shortEscapes ∧ escapeChar c = ['\\', sign]) ∨
      (32 ≤ c.toNat ∧ c.toNat < 127 ∧ c ≠ '\x22' ∧ c ≠ '\\' ∧ escapeChar c = [c]) ∨
      escapeChar c = (units16 c).flatMap unitEscape := by
  unfold escapeChar
  -- the characters with a sign of their own come first, in the order of the definition
  by_cases hsign : c = '\x22' ∨ c = '\\'
  · refine .inl ⟨c, ?_, if_pos (by simpa using hsign)⟩
    rcases hsign with rfl | rfl <;> decide
  rw [if_neg (by simpa using hsign)]
  by_cases hn : c = '\n'
  · subst hn
    exact .inl ⟨'n', by decide, rfl⟩
  rw [if_neg (by simpa using hn)]
  by_cases hr : c = '\r'
  · subst hr
    exact .inl ⟨'r', by decide, rfl⟩
  rw [if_neg (by simpa using hr)]
  by_cases ht : c = '\t'
  · subst ht
    exact .inl ⟨'t', by decide, rfl⟩
  rw [if_neg (by simpa using ht)]
  by_cases hb : c.toNat = 8
  · obtain rfl : c = '\x08' := char_eq_of_toNat hb
    exact .inl ⟨'b', by decide, rfl⟩
  rw [if_neg (by simpa using hb)]
  by_cases hf : c.toNat = 12
  · obtain rfl : c = '\x0c' := char_eq_of_toNat hf
    exact .inl ⟨'f', by decide, rfl⟩
  rw [if_neg (by simpa using hf)]
  by_cases hplain : 32 ≤ c.toNat ∧ c.toNat < 127
  · rw [if_pos (by simpa using hplain)]
    rw [not_or] at hsign
    exact .inr (.inl ⟨hplain.1, hplain.2, hsign.1, hsign.2, rfl⟩)
  · rw [if_neg (by simpa using hplain)]
    exact .inr (.inr rfl)

theorem range_of_isHexDigit {c : Char} (h : isHexDigit c = true) : 32 ≤ c.toNat ∧ c.toNat < 127 := by
  simp only [isHexDigit, Char.isDigit, Bool.or_eq_true, Bool.and_eq_true, decide_eq_true_eq,
    Char.le_def, UInt32.le_iff_toNat_le] at h
  have hcode : c.val.toNat = c.toNat := rfl
  simp only [hcode] at h
  rcases h with (⟨hlow, hhigh⟩ | ⟨hlow, hhigh⟩) | ⟨hlow, hhigh⟩
  · exact ⟨Nat.le_trans (by decide) hlow, Nat.lt_of_le_of_lt hhigh (by decide)⟩
  · exact ⟨Nat.le_trans (by decide) hlow, Nat.lt_of_le_of_lt hhigh (by decide)⟩
  · exact ⟨Nat.le_trans (by decide) hlow, Nat.lt_of_le_of_lt hhigh (by decide)⟩

/-- Each character is escaped to printable ASCII. -/
theorem range_of_mem_escapeChar {c d : Char} (h : d ∈ escapeChar c) : 32 ≤ d.toNat ∧ d.toNat < 127 := by
  rcases escapeChar_cases c with ⟨sign, hmem, hchars⟩ | ⟨hlow, hhigh, -, -, hchars⟩ | hchars
  · have hsigns : ∀ p ∈ shortEscapes, 32 ≤ p.1.toNat ∧ p.1.toNat < 127 := by decide
    rw [hchars] at h
    rcases List.mem_cons.mp h with rfl | h
    · decide
    · obtain rfl := List.mem_singleton.mp h
      exact hsigns _ hmem
  · rw [hchars, List.mem_singleton] at h
    rw [h]
    exact ⟨hlow, hhigh⟩
  · rw [hchars, List.mem_flatMap] at h
    obtain ⟨u, -, h⟩ := h
    rcases List.mem_cons.mp h with rfl | h
    · decide
    rcases List.mem_cons.mp h with rfl | h
    · decide
    · exact range_of_isHexDigit (isHexDigit_of_mem_hexDigits h)

/-- No character is escaped to one below the blank. -/
theorem le_of_mem_escapeChar {c d : Char} (h : d ∈ escapeChar c) : 32 ≤ d.toNat :=
  (range_of_mem_escapeChar h).1

/-- Nothing that is escaped ends its line. -/
theorem notMem_escapedChars {c : Char} (hlow : c.toNat < 32) (cs : List Char) :
    c ∉ escapedChars cs := by
  intro hmem
  have hquote : (32 : Nat) ≤ '\x22'.toNat := by decide
  simp only [escapedChars, List.cons_append, List.mem_cons, List.mem_append, List.mem_flatMap,
    List.not_mem_nil, or_false] at hmem
  rcases hmem with rfl | ⟨d, -, hd⟩ | rfl
  · omega
  · exact absurd (le_of_mem_escapeChar hd) (Nat.not_le_of_lt hlow)
  · omega

/-! ## Complete escapes -/

theorem escapesOk_plain {c : Char} (hc : c ≠ '\\') (rest : List Char) :
    escapesOk false (c :: rest) = escapesOk false rest := by
  rw [escapesOk]
  rintro d more hback -
  exact hc hback

theorem escapesOk_append {cs : List Char} (h : ∀ c ∈ cs, c ≠ '\\') (rest : List Char) :
    escapesOk false (cs ++ rest) = escapesOk false rest := by
  induction cs with
  | nil => rfl
  | cons c cs ih =>
    rw [List.forall_mem_cons] at h
    rw [List.cons_append, escapesOk_plain h.1, ih h.2]

theorem escapesOk_units {units : List Nat} (h : ∀ u ∈ units, u < 0x10000) (rest : List Char) :
    escapesOk false (units.flatMap unitEscape ++ rest) = escapesOk false rest := by
  induction units with
  | nil => rfl
  | cons u units ih =>
    rw [List.forall_mem_cons] at h
    have hread := hexEscape?_hexDigits h.1 (units.flatMap unitEscape ++ rest)
    have hdigits : escapesOk false (hexDigits 4 u ++ (units.flatMap unitEscape ++ rest))
        = escapesOk false (units.flatMap unitEscape ++ rest) :=
      escapesOk_append (fun c hc => by
        rintro rfl
        exact absurd (isHexDigit_of_mem_hexDigits hc) (by decide)) _
    rw [List.flatMap_cons, List.append_assoc, unitEscape, List.cons_append, List.cons_append,
      escapesOk, hread, hdigits, ih h.2]
    rfl

theorem escapesOk_escaped (cs rest : List Char) :
    escapesOk false (cs.flatMap escapeChar ++ rest) = escapesOk false rest := by
  induction cs with
  | nil => rfl
  | cons c cs ih =>
    rw [List.flatMap_cons, List.append_assoc]
    rcases escapeChar_cases c with ⟨sign, hmem, hchars⟩ | ⟨-, -, -, hback, hchars⟩ | hchars
    · have hshort : ∀ p ∈ shortEscapes, p.1 ∉ ['x', 'u', 'U', 'N'] := by decide
      have hsign := hshort _ hmem
      simp only [List.mem_cons, List.not_mem_nil, or_false, not_or] at hsign
      obtain ⟨hx, hu, hU, hN⟩ := hsign
      rw [hchars, List.cons_append, List.singleton_append, escapesOk, if_neg hx, if_neg hu,
        if_neg hU, if_neg hN, ih]
      rfl
    · rw [hchars, List.singleton_append, escapesOk_plain hback, ih]
    · rw [hchars, escapesOk_units (fun u hu => unit_lt hu), ih]

end Roster.Text
