import Roster.Proofs.LexedLines
import Roster.Proofs.ParsedStatements
import Roster.Source.Module

/-! # Rows of signs

A line of signs without an operand is no module, however long the row is. A reader that takes a step
down at each sign runs out of room at a long one, before it could find that the operand is missing.

* `tokens?_rowOfSigns`: the row is read as its signs.
* `expressions_rowOfSigns`: no expression is read from it, since the signs are dropped and then an
  operand is asked for.
* `parse?_rowOfSigns`, `signExhaustion?_rowOfSigns`: it is no module, and at what length the room ends.
-/

namespace Roster.Source

open Roster.Source.Parser

/-- A line of so many signs. -/
def rowOfSigns (n : Nat) : String := String.ofList (List.replicate n '-' ++ ['\n'])

theorem notMem_rowOfSigns {c : Char} (hsign : c ≠ '-') (hend : c ≠ '\n') (n : Nat) :
    c ∉ (rowOfSigns n).toList := by
  simp [rowOfSigns, List.mem_replicate, hsign, hend]

/-- The tokens of a row of signs in front of the end of the line. -/
def signTokens (n : Nat) : List Token :=
  List.replicate n ⟨1, .fixed "-"⟩ ++ [⟨1, .newline⟩, ⟨2, .finish⟩]

theorem signTokens_succ (n : Nat) : signTokens (n + 1) = ⟨1, .fixed "-"⟩ :: signTokens n := by
  rw [signTokens, List.replicate_succ, List.cons_append, signTokens]

/-! ## Words -/

theorem words_signs (n : Nat) :
    Words '\n' (List.replicate n '-') (List.replicate n (.fixed "-")) := by
  induction n with
  | zero => exact .nil
  | succ n ih =>
    rw [List.replicate_succ, List.replicate_succ]
    refine .word (w := ['-']) ?_ ih
    -- what follows is another sign or the end of the line
    have hnext : (List.replicate n '-').headD '\n' = '\n' ∨ (List.replicate n '-').headD '\n' = '-' := by
      cases n with
      | zero => exact .inl rfl
      | succ n => exact .inr rfl
    rcases hnext with hnext | hnext
    · rw [hnext]
      exact Cut.sign (s := "-") (by decide) (by decide) (by decide) (by decide)
    · rw [hnext]
      exact Cut.sign (s := "-") (by decide) (by decide) (by decide) (by decide)

theorem trackAll_signs (n : Nat) : trackAll [] (List.replicate n (.fixed "-")) = some [] := by
  induction n with
  | zero => rfl
  | succ n ih =>
    rw [List.replicate_succ, trackAll, List.foldlM_cons]
    exact ih

theorem tokens?_rowOfSigns (n : Nat) :
    tokens? (rowOfSigns (n + 1)).toList = some (signTokens (n + 1)) := by
  have hlines : Lined ⟨1, [], [(0, 0)]⟩ [List.replicate (n + 1) '-'] _ ⟨2, [], [(0, 0)]⟩ :=
    .words 0 (words_signs (n + 1)) rfl (by simp) rfl (trackAll_signs (n + 1)) .done
  have hread := hlines.tokens? rfl
  rw [rowOfSigns, String.toList_ofList]
  simpa [signTokens, endToken] using hread

/-! ## Expressions -/

section Levels

variable {bound n : Nat} {sub : Reader}

/-- Signs are dropped up to the end of the line, if the bound allows. -/
theorem dropSigns_signTokens (bound n : Nat) (found : Bool) :
    (∃ dropped, iterate (fun _ => do if ← acceptAny frontSigns then return some true else return none)
        bound found (signTokens n) = some (dropped, signTokens 0)) ∨
      iterate (fun _ => do if ← acceptAny frontSigns then return some true else return none)
        bound found (signTokens n) = none := by
  induction n generalizing bound found with
  | zero =>
    cases bound with
    | zero => exact .inr rfl
    | succ bound => exact .inl ⟨found, iterate_stop _ (by simp [signTokens, isAny])⟩
  | succ n ih =>
    cases bound with
    | zero => exact .inr rfl
    | succ bound =>
      rw [iterate_more true (signTokens n)]
      · exact ih bound true
      · simp [signTokens_succ, isAny, frontSigns]

/-- Behind the signs an operand is missing. -/
theorem signed_signTokens : signed bound sub (signTokens n) = none := by
  rw [signed, bind_apply, dropAll]
  rcases dropSigns_signTokens bound n false with ⟨dropped, hdrop⟩ | hdrop
  · rw [hdrop]
    simp [signTokens, primary, atom, refuse]
  · rw [hdrop]
    rfl

theorem sum_signTokens : sum bound sub (signTokens n) = none := by
  rw [sum, bind_apply, signed_signTokens]
  rfl

theorem comparison_signTokens : comparison bound sub (signTokens (n + 1)) = none := by
  rw [comparison, bind_apply]
  cases bound with
  | zero => rfl
  | succ bound =>
    rw [dropAll_none ⟨_, _, signTokens_succ n, rfl⟩, Option.bind_some, bind_apply, sum_signTokens]
    rfl

theorem disjunction_signTokens : disjunction bound sub (signTokens (n + 1)) = none := by
  rw [disjunction, bind_apply, comparison_signTokens]
  rfl

theorem expressions_signTokens :
    expressions bound .expression (signTokens (n + 1)) = none := by
  cases bound with
  | zero => rfl
  | succ bound =>
    have hlambda : at? "lambda" (signTokens (n + 1)) = some (false, signTokens (n + 1)) := by
      simp [signTokens_succ]
    rw [expressions, level, expression, branch_false _ hlambda, bind_apply, disjunction_signTokens]
    rfl

end Levels

/-! ## Statements -/

theorem starExpressions_signTokens {bound n : Nat} :
    starExpressions bound (expressions bound) (signTokens (n + 1)) = none := by
  have hstar : accept "*" (signTokens (n + 1)) = some (false, signTokens (n + 1)) := by
    simp [signTokens_succ]
  rw [starExpressions, bind_apply, commaList, bind_apply, starExpression, branch_false _ hstar,
    expressions_signTokens]
  rfl

theorem simpleStatement_signTokens {bound n : Nat} :
    simpleStatement bound (signTokens (n + 1)) = none := by
  rw [simpleStatement_of_otherWord ⟨_, _, signTokens_succ n, by decide⟩, assignmentOrExpressions,
    bind_apply, get_apply, Option.bind_some, bind_apply, starExpressions_signTokens]
  rfl

theorem statements_signTokens {bound n : Nat} : statements bound (signTokens (n + 1)) = none := by
  cases bound with
  | zero => rfl
  | succ bound =>
    have hend : atBlockEnd (signTokens (n + 1)) = some (false, signTokens (n + 1)) := by
      simp [atBlockEnd, signTokens_succ]
    have hcompound : compoundStatement? (bound + 1) (statements bound) (signTokens (n + 1))
        = some (none, signTokens (n + 1)) :=
      compoundStatement?_of_startsLine ⟨_, _, signTokens_succ n, rfl⟩ _
    have hstatement : statement (bound + 1) (statements bound) (signTokens (n + 1)) = none := by
      rw [statement, bind_apply, hcompound]
      simp [line, simpleStatement_signTokens]
    rw [statements, statementsFrom, branch_false _ hend, bind_apply, hstatement]
    rfl

/-- A row of signs is no module, however long it is. -/
theorem parse?_rowOfSigns (n : Nat) : parse? (rowOfSigns (n + 1)) = none := by
  have hnul : (rowOfSigns (n + 1)).toList.contains '\x00' = false := by
    simpa using notMem_rowOfSigns (by decide) (by decide) (n + 1)
  have hnone : ofTokens? (signTokens (n + 1)) = none := by
    rw [ofTokens?, statements_signTokens]
  rw [parse?]
  simp only [hnul, Bool.false_eq_true, tokens?_rowOfSigns, Option.bind_eq_bind,
    Option.bind_some, hnone, ite_self]

/-! ## Room -/

theorem hasLongRow_signTokens (bound count n : Nat) :
    hasLongRow bound count (signTokens n) = decide (bound < count + n) := by
  induction n generalizing count with
  | zero => simp [signTokens, hasLongRow]
  | succ n ih =>
    rw [signTokens_succ, hasLongRow]
    simp [ih, Nat.add_assoc, Nat.add_comm 1]

/-- The room runs out at a row that is longer than the bound. -/
theorem signExhaustion?_rowOfSigns (n : Nat) :
    signExhaustion? (rowOfSigns (n + 1)) = if signBound < n + 1 then some .memory else none := by
  rw [signExhaustion?, tokens?_rowOfSigns]
  simp [hasLongRow_signTokens]

end Roster.Source
