import Mathlib.Data.List.Basic
import Roster.Document.Scalar
import Roster.Text.Numeral

/-! # Decimal numerals are read back

A whole number is written with a minus sign if it is negative, and with decimal digits that begin with a
zero only if it is zero. Written so, it is read as the number that it is, unless it has so many digits
that it is not written at all.

* `Text.digits?_toDigits`: decimal digits are read as their number.
* `Document.readInteger_toString`: so is a whole number with its sign.
-/

namespace Roster

namespace Text

/-! ## Digits -/

/-- A digit is none of the other characters. -/
theorem ne_of_isDigit {c d : Char} (h : c.isDigit = true) (hd : d.isDigit = false) : c ≠ d := by
  rintro rfl
  rw [h] at hd
  contradiction

theorem digitBelow?_of_isDigit {c : Char} (h : c.isDigit = true) :
    digitBelow? 10 c = some (c.toNat - 48) := by
  have hrange : 0x30 ≤ c.toNat ∧ c.toNat ≤ 0x30 + 9 := Char.isDigit_iff_toNat.mp h
  have hsmall : c.toNat - 48 < 10 := by omega
  simp [digitBelow?, decimalDigit?, decimalZeros, hrange, hsmall]

theorem digitsAfter?_of_isDigit {ds : List Char} (h : ∀ c ∈ ds, c.isDigit = true) (acc : Nat) :
    digitsAfter? 10 acc ds = some (Nat.ofDigitChars 10 ds acc) := by
  induction ds generalizing acc with
  | nil => rfl
  | cons c ds ih =>
    obtain ⟨hc, hds⟩ := List.forall_mem_cons.mp h
    rw [digitsAfter?, digitBelow?_of_isDigit hc]
    · rw [Option.bind_some, ih hds, Nat.ofDigitChars, Nat.ofDigitChars, List.foldl_cons, Nat.mul_comm]
      rfl
    · rintro _ _ rfl
      exact absurd rfl (ne_of_isDigit hc rfl)

/-- The decimal digits of a number are read as the number. -/
theorem digits?_toDigits (n : Nat) : digits? 10 (Nat.toDigits 10 n) = some n := by
  have hdigits : ∀ c ∈ Nat.toDigits 10 n, c.isDigit = true :=
    fun c hc => Nat.isDigit_of_mem_toDigits (by decide) (by decide) hc
  have hvalue := Nat.ofDigitChars_toDigits (b := 10) (n := n) (by decide) (by decide)
  cases hchars : Nat.toDigits 10 n with
  | nil => exact absurd hchars Nat.toDigits_ne_nil
  | cons c ds =>
    rw [hchars] at hdigits hvalue
    obtain ⟨hc, hds⟩ := List.forall_mem_cons.mp hdigits
    rw [digits?, digitBelow?_of_isDigit hc, Option.bind_some, digitsAfter?_of_isDigit hds, ← hvalue]
    simp [Nat.ofDigitChars]

/-- Only zero begins with a zero. -/
theorem head?_toDigits {n : Nat} (h : n ≠ 0) : (Nat.toDigits 10 n).head? ≠ some '0' := by
  induction n using Nat.strongRecOn with
  | ind n ih =>
    rw [Nat.toDigits_eq_if (by decide)]
    split
    · rename_i hsmall
      intro hzero
      have hchar := Nat.toNat_digitChar_of_lt_ten hsmall
      rw [Option.some.inj hzero] at hchar
      have hnumber : '0'.toNat = 48 := rfl
      omega
    · have hsmaller := ih (n / 10) (by omega) (by omega)
      rwa [List.head?_append_of_ne_nil _ Nat.toDigits_ne_nil]

/-- No blanks stand around digits. -/
theorem stripNumeral_of_isDigit {cs : List Char} (h : ∀ c ∈ cs, c.isDigit = true) :
    stripNumeral cs = cs := by
  have hnone : ∀ (ascii : Bool), ∀ c ∈ cs, isNumeralBlank ascii c = false := by
    intro ascii c hc
    have hrange : 0x30 ≤ c.toNat ∧ c.toNat ≤ 0x39 := Char.isDigit_iff_toNat.mp (h c hc)
    have hspace : c ≠ ' ' := ne_of_isDigit (h c hc) rfl
    refine Bool.eq_false_iff.mpr fun hblank => ?_
    cases ascii with
    | true =>
      simp only [isNumeralBlank, if_true, Bool.or_eq_true, Bool.and_eq_true, decide_eq_true_eq, hspace,
        or_false] at hblank
      omega
    | false =>
      simp only [isNumeralBlank, Bool.false_eq_true, if_false, isBlank, Bool.or_eq_true, Bool.and_eq_true,
        decide_eq_true_eq, beq_iff_eq] at hblank
      omega
  have hkept : ∀ ds : List Char, (∀ c ∈ ds, c ∈ cs) →
      ∀ ascii, ds.dropWhile (isNumeralBlank ascii) = ds := by
    intro ds hds ascii
    cases ds with
    | nil => rfl
    | cons d ds => rw [List.dropWhile_cons_of_neg (by simp [hnone ascii d (hds d List.mem_cons_self)])]
  rw [stripNumeral, hkept cs (fun _ hc => hc), hkept cs.reverse (fun _ hc => List.mem_reverse.mp hc),
    List.reverse_reverse]

/-- Without a sign, decimal digits are a whole number in base ten. -/
theorem integerIn?_toDigits (n : Nat) :
    integerIn? 10 (String.ofList (Nat.toDigits 10 n)) = some (n : Int) := by
  have hdigits : ∀ c ∈ Nat.toDigits 10 n, c.isDigit = true :=
    fun c hc => Nat.isDigit_of_mem_toDigits (by decide) (by decide) hc
  have hvalue := digits?_toDigits n
  rw [integerIn?, String.toList_ofList, stripNumeral_of_isDigit hdigits]
  cases hchars : Nat.toDigits 10 n with
  | nil => exact absurd hchars Nat.toDigits_ne_nil
  | cons c ds =>
    rw [hchars] at hdigits hvalue
    have hc := hdigits c List.mem_cons_self
    have hmark : dropBaseMark 10 (c :: ds) = c :: ds := by
      unfold dropBaseMark
      split <;> simp [baseLetter?]
    simp [ne_of_isDigit hc (d := '+') rfl, ne_of_isDigit hc (d := '-') rfl, hmark, hvalue]

/-- Decimal digits are counted as they are many. -/
theorem digitCount_toDigits (n : Nat) :
    digitCount (String.ofList (Nat.toDigits 10 n)) = (Nat.toDigits 10 n).length := by
  have hdigits : ∀ c ∈ Nat.toDigits 10 n, c.isDigit = true :=
    fun c hc => Nat.isDigit_of_mem_toDigits (by decide) (by decide) hc
  have hsign : ∀ d, d.isDigit = false → ∀ rest, Nat.toDigits 10 n ≠ d :: rest := by
    intro d hd rest hchars
    exact ne_of_isDigit (hdigits d (hchars ▸ List.mem_cons_self)) hd rfl
  have htaken : (Nat.toDigits 10 n).takeWhile (fun c => c = '_' || (digitBelow? 10 c).isSome)
      = Nat.toDigits 10 n := by
    rw [← List.append_nil (Nat.toDigits 10 n), List.takeWhile_append_of_pos, List.takeWhile_nil]
    intro c hc
    simp [digitBelow?_of_isDigit (hdigits c hc)]
  have hkept : (Nat.toDigits 10 n).filter (· ≠ '_') = Nat.toDigits 10 n :=
    List.filter_eq_self.mpr fun c hc => decide_eq_true (ne_of_isDigit (hdigits c hc) rfl)
  unfold digitCount
  rw [String.toList_ofList, stripNumeral_of_isDigit hdigits]
  split
  · exact absurd ‹_› (hsign '+' rfl _)
  · exact absurd ‹_› (hsign '-' rfl _)
  · simp only [htaken, hkept]

end Text

namespace Document

/-! ## Whole numbers -/

/-- Digits that do not begin with a zero are read in base ten. -/
theorem readInteger_of_digits {text : String} {negative : Bool} {n : Nat} (hn : n ≠ 0)
    (hlength : (Nat.toDigits 10 n).length ≤ Text.digitLimit)
    (hsign : splitSign (withoutUnderscores text) = .ok (negative, String.ofList (Nat.toDigits 10 n))) :
    readInteger text = .ok (if negative then -(n : Int) else n) := by
  have hdigits : ∀ c ∈ Nat.toDigits 10 n, c.isDigit = true :=
    fun c hc => Nat.isDigit_of_mem_toDigits (by decide) (by decide) hc
  have hzero := Text.head?_toDigits hn
  have hvalue : integerOf 10 (String.ofList (Nat.toDigits 10 n)) = .ok (n : Int) := by
    have hcount : ¬ Text.digitLimit < Text.digitCount (String.ofList (Nat.toDigits 10 n)) := by
      rw [Text.digitCount_toDigits]
      exact Nat.not_lt.mpr hlength
    simp only [integerOf, hcount, Text.integerIn?_toDigits, decide_false, Bool.and_false,
      Bool.false_eq_true, if_false]
  have hcolon : (Nat.toDigits 10 n).contains ':' = false := by
    refine Bool.eq_false_iff.mpr fun hmem => ?_
    exact Text.ne_of_isDigit (hdigits ':' (List.contains_iff_mem.mp hmem)) rfl rfl
  rw [readInteger, hsign]
  simp only [bind, Except.bind, String.toList_ofList]
  cases hchars : Nat.toDigits 10 n with
  | nil => exact absurd hchars Nat.toDigits_ne_nil
  | cons c ds =>
    rw [hchars] at hzero hcolon hvalue
    have hc : c ≠ '0' := fun heq => hzero (congrArg some heq)
    have hnot : ¬ (':' = c ∨ ':' ∈ ds) := by simpa using hcolon
    have hvalue' : integerOf 10 (String.singleton c ++ String.ofList ds) = .ok (n : Int) := by
      simpa using hvalue
    simp [hc, hnot, hvalue']

theorem withoutUnderscores_of_notMem {text : String} (h : '_' ∉ text.toList) :
    withoutUnderscores text = text := by
  have hkept : text.toList.filter (· ≠ '_') = text.toList :=
    List.filter_eq_self.mpr fun c hc => decide_eq_true fun heq => h (heq ▸ hc)
  rw [withoutUnderscores, hkept, String.ofList_toList]

/-- A whole number that can be written is read back. -/
theorem readInteger_toString {n : Int} (h : Text.isWritable n = true) :
    readInteger (toString n) = .ok n := by
  have hlength : (Nat.toDigits 10 n.natAbs).length ≤ Text.digitLimit := of_decide_eq_true h
  -- a sign stands in front of the digits of negative numbers only
  cases n with
  | ofNat m =>
    by_cases hm : m = 0
    · subst hm
      rfl
    · have htext : toString (Int.ofNat m) = String.ofList (Nat.toDigits 10 m) :=
        Nat.repr_eq_ofList_toDigits
      have hsign : splitSign (withoutUnderscores (toString (Int.ofNat m)))
          = .ok (false, String.ofList (Nat.toDigits 10 m)) := by
        rw [htext, withoutUnderscores_of_notMem (by simp), splitSign, String.toList_ofList]
        cases hchars : Nat.toDigits 10 m with
        | nil => exact absurd hchars Nat.toDigits_ne_nil
        | cons c ds =>
          have hc : c.isDigit = true :=
            Nat.isDigit_of_mem_toDigits (by decide) (by decide) (hchars ▸ List.mem_cons_self)
          simp [Text.ne_of_isDigit hc (d := '+') rfl, Text.ne_of_isDigit hc (d := '-') rfl]
      exact readInteger_of_digits hm hlength hsign
  | negSucc m =>
    have htext : toString (Int.negSucc m) = String.ofList ('-' :: Nat.toDigits 10 (m + 1)) := by
      change "-" ++ Nat.repr (m + 1) = _
      rw [Nat.repr_eq_ofList_toDigits, String.ofList_cons]
      rfl
    have hsign : splitSign (withoutUnderscores (toString (Int.negSucc m)))
        = .ok (true, String.ofList (Nat.toDigits 10 (m + 1))) := by
      rw [htext, withoutUnderscores_of_notMem (by simp), splitSign, String.toList_ofList]
      rfl
    exact readInteger_of_digits (Nat.succ_ne_zero m) hlength hsign

end Document

end Roster
