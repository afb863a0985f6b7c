/-! # Lone surrogates

An escape in a document can stand for one half of a surrogate pair. Such a half is no character, and yet
it stays in the text. Characters stand in for the 2048 halves here: the last ones that are for private
use. A text that holds one of these characters for itself is not told apart from one with the half, and
literals and sorted names take the characters as they are.

* `isLone`: the characters that stand in for a half.
* `codePoint`, `ofCodePoint`: the code point of a character, and the character of a code point.
-/

namespace Roster.Text

/-- The first character that stands in for a half of a pair. -/
def firstLone : Nat := 0x10F800

/-- Whether a character stands in for a half of a pair. -/
def isLone (c : Char) : Bool := firstLone ≤ c.toNat

/-- The code point that a character stands for. -/
def codePoint (c : Char) : Nat := if isLone c then c.toNat - firstLone + 0xD800 else c.toNat

/-- The character that stands for a code point. -/
def ofCodePoint (n : Nat) : Char :=
  Char.ofNat (if 0xD800 ≤ n && n < 0xE000 then n - 0xD800 + firstLone else n)

/-- Code points below those that stand in for others are told apart. -/
theorem codePoint_ofCodePoint {n : Nat} (h : n < firstLone) : codePoint (ofCodePoint n) = n := by
  have hvalid : ∀ m : Nat, m < 0xD800 ∨ 0xDFFF < m ∧ m < 0x110000 → (Char.ofNat m).toNat = m := by
    intro m hm
    rw [Char.ofNat, dif_pos hm]
    rfl
  unfold ofCodePoint codePoint isLone
  rw [firstLone] at h ⊢
  split
  · rename_i hhalf
    simp only [Bool.and_eq_true, decide_eq_true_eq] at hhalf
    rw [hvalid _ (by omega), if_pos (by simp)]
    omega
  · rename_i hhalf
    simp only [Bool.and_eq_true, decide_eq_true_eq, not_and, Nat.not_lt] at hhalf
    rw [hvalid _ (by omega), if_neg (by simp; omega)]

end Roster.Text
