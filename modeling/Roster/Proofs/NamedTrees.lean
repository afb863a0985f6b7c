import Mathlib.Data.List.Basic
import Roster.Proofs.FirstOccurrences
import Roster.Proofs.ScannedModules

/-! # The names in a tree

A tree keeps only texts of names that stood in the module, and a token for a name holds an identifier.
So whatever is read from a module, its targets are named by identifiers, and an import names a module.

* `Parser.Gives`: whatever a parser gives has a property; one rule for each way to put parsers together.
* `Expr.Named`, `Stmt.Named`: the names in a tree are identifiers.
* `expressions_named`, `statements_named`: the readers give such trees.
* `named_of_parse?`: so does reading a whole module.
* `properFields_fieldsOf`: the fields of a class are different identifiers, none kept for the language.
-/

namespace Roster.Source

/-! ## What parsers give -/

namespace Parser

/-- Whatever a parser gives has a property. -/
def Gives {α : Type} (p : Parser α) (P : α → Prop) : Prop :=
  ∀ ts a rest, p ts = some (a, rest) → P a

variable {α β : Type} {P : α → Prop} {Q : β → Prop}

theorem Gives.pure {a : α} (h : P a) : Gives (pure a) P := by
  rintro ts a' rest ⟨⟩
  exact h

theorem Gives.refuse : Gives Parser.refuse P := by
  rintro ts a rest ⟨⟩

/-- What is given in the end, from what is given first. -/
theorem Gives.bind {p : Parser α} {f : α → Parser β} (hp : Gives p P)
    (hf : ∀ a, P a → Gives (f a) Q) : Gives (p >>= f) Q := by
  intro ts b rest h
  obtain ⟨⟨a, between⟩, hfirst, hthen⟩ := Option.bind_eq_some_iff.mp h
  exact hf a (hp _ _ _ hfirst) _ _ _ hthen

/-- What is given in the end, whatever is given first. -/
theorem Gives.after {p : Parser α} {f : α → Parser β} (hf : ∀ a, Gives (f a) Q) :
    Gives (p >>= f) Q :=
  .bind (P := fun _ => True) (fun _ _ _ _ => trivial) fun a _ => hf a

theorem Gives.ite {c : Prop} [Decidable c] {p q : Parser α} (hp : Gives p P) (hq : Gives q P) :
    Gives (if c then p else q) P := by
  split
  · exact hp
  · exact hq

/-- Behind a word that is dropped if it is next. -/
theorem Gives.branch {c : Parser Bool} {p q : Parser α} (hp : Gives p P) (hq : Gives q P) :
    Gives (do if ← c then p else q) P :=
  .after fun _ => .ite hp hq

/-- Repeating a step keeps what each step keeps. -/
theorem Gives.iterate {step : α → Parser (Option α)}
    (hstep : ∀ a, P a → Gives (step a) fun next => ∀ b ∈ next, P b) (bound : Nat) {a : α}
    (ha : P a) : Gives (Parser.iterate step bound a) P := by
  induction bound generalizing a with
  | zero => exact .refuse
  | succ bound ih =>
    refine .bind (hstep a ha) fun next hnext => ?_
    cases next with
    | none => exact .pure ha
    | some b => exact ih (hnext b rfl)

theorem Gives.commaTail {starts : Parser Bool} {item : Parser α} (hitem : Gives item P)
    (bound : Nat) : Gives (Parser.commaTail starts item bound) fun found => ∀ a ∈ found.1, P a := by
  induction bound with
  | zero => exact .refuse
  | succ bound ih =>
    refine .after fun _ => .ite (.pure (by simp)) (.after fun _ => .ite (.pure (by simp)) ?_)
    refine .bind hitem fun a ha => .bind ih fun found hfound => .pure ?_
    exact List.forall_mem_cons.mpr ⟨ha, hfound⟩

theorem Gives.commaList {starts : Parser Bool} {item : Parser α} (hitem : Gives item P)
    (bound : Nat) : Gives (Parser.commaList bound starts item) fun found => ∀ a ∈ found.1, P a := by
  refine .bind hitem fun a ha => .bind (.commaTail hitem bound) fun found hfound => .pure ?_
  exact List.forall_mem_cons.mpr ⟨ha, hfound⟩

end Parser

open Roster.Source.Parser

/-! ## Trees whose names are identifiers -/

/-- A text is an identifier. -/
def IsWord (text : String) : Prop := Text.isIdentifier text.toList = true

theorem IsWord.ne_empty {text : String} (h : IsWord text) : text ≠ "" := by
  rintro rfl
  contradiction

/-- What an expression would name as a target is an identifier. -/
inductive Expr.Named : Expr → Prop
  | name {id : String} (h : IsWord id) : Named (.name id)
  | attributeOf {owner : Expr} {last : String} (h : IsWord last) : Named (.attribute owner last)
  | item (owner : Expr) : Named (.item owner)
  | call (callee : Expr) : Named (.call callee)
  | tuple {items : List Expr} (h : ∀ e ∈ items, Named e) : Named (.tuple items)
  | list {items : List Expr} (h : ∀ e ∈ items, Named e) : Named (.list items)
  | starred {inner : Expr} (h : Named inner) : Named (.starred inner)
  | other : Named .other

/-- The targets in a statement are named by identifiers, and an import names a module. -/
inductive Stmt.Named : Stmt → Prop
  | classDef {line : Nat} {name : Identifier} {bases decorators : List Expr} {body : List Stmt}
      (h : ∀ s ∈ body, Named s) : Named (.classDef line name bases decorators body)
  | functionDef {name : String} {params : List String} {body : List Stmt}
      (h : ∀ s ∈ body, Named s) : Named (.functionDef name params body)
  | assign {targets : List Expr} (h : ∀ e ∈ targets, e.Named) : Named (.assign targets)
  | annotated {target : Expr} (h : target.Named) : Named (.annotated target)
  | augmented {target : Expr} (h : target.Named) : Named (.augmented target)
  | importNames (names : List ImportedName) : Named (.importNames names)
  | importFrom {level : Nat} {module : Option String} {names : List ImportedName}
      (h : ∀ m ∈ module, m ≠ "") : Named (.importFrom level module names)
  | block {body : List Stmt} (h : ∀ s ∈ body, Named s) : Named (.block body)
  | other : Named .other

/-! ## Expressions -/

/-- All that a reader gives, at any level, is named by identifiers. -/
def Reader.GivesNamed (sub : Reader) : Prop := ∀ level, Gives (sub level) Expr.Named

theorem name_isWord : Gives name IsWord :=
  .after fun id => .pure id.proper

section Readers

variable {bound : Nat} {sub : Reader} (hsub : sub.GivesNamed)

theorem named?_named : Gives (named? sub) fun found => ∀ e ∈ found, e.Named := by
  refine .branch (.after fun _ => .after fun _ => .after fun _ => .pure ?_) (.pure (by simp))
  rintro e ⟨⟩
  exact .other

include hsub

theorem namedExpression_named : Gives (namedExpression sub) Expr.Named := by
  refine .bind named?_named fun found hfound => ?_
  cases found with
  | none => exact hsub _
  | some e => exact .pure (hfound e rfl)

theorem starNamed_named : Gives (starNamed sub) Expr.Named :=
  .branch (.bind (hsub _) fun _ he => .pure (.starred he)) (namedExpression_named hsub)

theorem starExpression_named : Gives (starExpression sub) Expr.Named :=
  .branch (.bind (hsub _) fun _ he => .pure (.starred he)) (hsub _)

theorem starExpressions_named : Gives (starExpressions bound sub) Expr.Named := by
  refine .bind (.commaList (starExpression_named hsub) bound) fun found hfound => ?_
  obtain ⟨items, comma⟩ := found
  dsimp only
  split
  · exact .pure (hfound _ (by simp))
  · exact .pure (.tuple hfound)

omit hsub in
theorem yieldExpression_named : Gives (yieldExpression bound sub) Expr.Named :=
  .after fun _ => .after fun _ => .pure .other

theorem roundTail_named : Gives (roundTail bound sub) Expr.Named := by
  refine .branch (.pure (.tuple (by simp))) (.branch ?_ ?_)
  · exact .bind yieldExpression_named fun _ he => .after fun _ => .pure he
  · refine .after fun _ => .bind (starNamed_named hsub) fun first hfirst => .branch ?_ ?_
    · refine .bind (.commaTail (starNamed_named hsub) bound) fun found hfound => .after fun _ => ?_
      exact .pure (.tuple (List.forall_mem_cons.mpr ⟨hfirst, hfound⟩))
    · refine .after fun _ => .branch ?_ ?_
      · exact .after fun _ => .after fun _ => .pure .other
      · exact .after fun _ => .pure hfirst

theorem squareTail_named : Gives (squareTail bound sub) Expr.Named := by
  refine .branch (.pure (.list (by simp))) (.after fun _ => ?_)
  refine .bind (starNamed_named hsub) fun first hfirst => .branch ?_ ?_
  · exact .after fun _ => .after fun _ => .after fun _ => .pure .other
  · refine .bind (.commaTail (starNamed_named hsub) bound) fun found hfound => .after fun _ => ?_
    exact .pure (.list (List.forall_mem_cons.mpr ⟨hfirst, hfound⟩))

omit hsub in
/-- A dictionary, a set or a comprehension leaves nothing to assign to. -/
theorem braceTail_named : Gives (braceTail bound sub) Expr.Named := by
  have hentries : Gives (entriesTail bound sub) Expr.Named :=
    .after fun _ => .after fun _ => .pure .other
  have hitems : Gives (itemsTail bound sub) Expr.Named :=
    .after fun _ => .after fun _ => .pure .other
  have hclauses : Gives (comprehensionTail bound sub) Expr.Named :=
    .after fun _ => .after fun _ => .pure .other
  refine .branch (.pure .other) (.branch (.after fun _ => hentries) (.branch (.after fun _ => hitems) ?_))
  refine .after fun found => ?_
  cases found with
  | some _ => exact .branch hclauses hitems
  | none =>
    refine .after fun _ => .branch ?_ (.branch hclauses hitems)
    exact .after fun _ => .branch hclauses hentries

theorem atom_named : Gives (atom bound sub) Expr.Named := by
  refine .after fun next => ?_
  split
  · rename_i id
    exact .after fun _ => .pure (.name id.proper)
  · exact .after fun _ => .pure .other
  · exact .after fun _ => .pure .other
  · exact .after fun _ => roundTail_named hsub
  · exact .after fun _ => squareTail_named hsub
  · exact .after fun _ => braceTail_named
  · exact .after fun _ => .after fun _ => .pure .other
  · exact .refuse

omit hsub in
theorem trailer?_named (e : Expr) : Gives (trailer? bound sub e) fun next => ∀ e ∈ next, e.Named := by
  refine .branch ?_ (.branch ?_ (.branch ?_ (.pure (by simp))))
  · refine .bind name_isWord fun last hlast => .pure ?_
    rintro e' ⟨⟩
    exact .attributeOf hlast
  · refine .after fun _ => .pure ?_
    rintro e' ⟨⟩
    exact .call e
  · refine .after fun _ => .after fun _ => .pure ?_
    rintro e' ⟨⟩
    exact .item e

theorem primary_named : Gives (primary bound sub) Expr.Named :=
  .bind (atom_named hsub) fun _ he => .iterate (fun e _ => trailer?_named e) bound he

theorem signed_named : Gives (signed bound sub) Expr.Named := by
  refine .after fun signs => .after fun waits => .bind (primary_named hsub) fun e he => .pure ?_
  split
  · exact .other
  · exact he

omit hsub in
/-- Joining operands leaves nothing to assign to. -/
theorem joined_named {operator : Parser Bool} {operand : Parser Expr} {e : Expr} (he : e.Named) :
    Gives (iterate (fun _ => do
        if ← operator then
          let _ ← operand
          return some .other
        else return none) bound e) Expr.Named := by
  refine .iterate (fun _ _ => .branch (.after fun _ => .pure ?_) (.pure (by simp))) bound he
  rintro e' ⟨⟩
  exact .other

theorem sum_named : Gives (sum bound sub) Expr.Named :=
  .bind (signed_named hsub) fun _ he => joined_named he

theorem comparison_named : Gives (comparison bound sub) Expr.Named := by
  refine .after fun negated => .bind (sum_named hsub) fun _ hfirst => ?_
  refine .bind (joined_named hfirst) fun e he => .pure ?_
  split
  · exact .other
  · exact he

theorem disjunction_named : Gives (disjunction bound sub) Expr.Named :=
  .bind (comparison_named hsub) fun _ he => joined_named he

theorem expression_named : Gives (expression bound sub) Expr.Named := by
  refine .branch ?_ (.bind (disjunction_named hsub) fun e he => .branch ?_ (.pure he))
  · exact .after fun _ => .after fun _ => .after fun _ => .pure .other
  · exact .after fun _ => .after fun _ => .after fun _ => .pure .other

theorem level_named : (level bound sub).GivesNamed
  | .expression => expression_named hsub
  | .disjunction => disjunction_named hsub
  | .sum => sum_named hsub
  | .primary => primary_named hsub

end Readers

theorem expressions_named (bound : Nat) : (expressions bound).GivesNamed := by
  induction bound with
  | zero => exact fun _ => .refuse
  | succ bound ih => exact level_named ih

/-! ## Statements -/

/-- All statements of a list are named by identifiers. -/
def AllNamed (body : List Stmt) : Prop := ∀ s ∈ body, s.Named

theorem AllNamed.nil : AllNamed [] := by
  intro s hs
  contradiction

theorem AllNamed.cons {s : Stmt} {rest : List Stmt} (hs : s.Named) (hrest : AllNamed rest) :
    AllNamed (s :: rest) := List.forall_mem_cons.mpr ⟨hs, hrest⟩

theorem AllNamed.append {body rest : List Stmt} (hbody : AllNamed body) (hrest : AllNamed rest) :
    AllNamed (body ++ rest) := List.forall_mem_append.mpr ⟨hbody, hrest⟩

section Simple

variable (bound : Nat)

theorem readExpressions_named : Gives (starExpressions bound (expressions bound)) Expr.Named :=
  starExpressions_named (expressions_named bound)

theorem assignmentTail_named (steps : Nat) :
    Gives (assignmentTail bound steps) fun targets => ∀ e ∈ targets, e.Named := by
  induction steps with
  | zero => exact .refuse
  | succ steps ih =>
    refine .branch (.after fun _ => .pure (by simp)) ?_
    refine .bind (readExpressions_named bound) fun e he => .branch ?_ (.pure (by simp))
    refine .after fun _ => .bind ih fun targets htargets => .pure ?_
    exact List.forall_mem_cons.mpr ⟨he, htargets⟩

theorem assignmentOrExpressions_named : Gives (assignmentOrExpressions bound) Stmt.Named := by
  refine .after fun _ => .bind (readExpressions_named bound) fun e he => .branch ?_ (.branch ?_
    (.branch ?_ (.pure .other)))
  · refine .after fun _ => .after fun _ => .branch ?_ ?_
    · exact .after fun _ => .pure (.annotated he)
    · exact .pure (.annotated he)
  · exact .after fun _ => .after fun _ => .pure (.augmented he)
  · refine .after fun _ => .bind (assignmentTail_named bound bound) fun targets htargets => .pure ?_
    exact .assign (List.forall_mem_cons.mpr ⟨he, htargets⟩)

theorem dottedName_ne_empty : Gives (dottedName bound) (· ≠ "") := by
  refine .bind name_isWord fun first hfirst => .iterate (fun text _ => ?_) bound hfirst.ne_empty
  refine .branch (.bind name_isWord fun last hlast => .pure ?_) (.pure (by simp))
  rintro longer ⟨⟩ hempty
  exact hlast.ne_empty (String.append_eq_empty_iff.mp hempty).2

/-- An import names the module that it takes names from, or none. -/
theorem importFrom_named : Gives (importFrom bound) Stmt.Named := by
  refine .after fun level => .after fun atImport => .ite ?_ ?_
  · refine .bind (.pure (P := (· = none)) rfl) fun module hmodule => ?_
    exact .after fun _ => .after fun _ => .pure (.importFrom (by simp [hmodule]))
  · refine .bind (dottedName_ne_empty bound) fun text htext => ?_
    refine .bind (.pure (P := (· = some text)) rfl) fun module hmodule => ?_
    exact .after fun _ => .after fun _ => .pure (.importFrom (by simpa [hmodule] using htext))

theorem simpleStatement_named : Gives (simpleStatement bound) Stmt.Named := by
  have hother : ∀ {α : Type} (p : Parser α), Gives (do let _ ← p; return Stmt.other) Stmt.Named :=
    fun p => .after fun _ => .pure .other
  refine .branch (.pure .other) (.branch ?_ (.branch ?_ (.branch (importFrom_named bound) (.branch ?_
    (.branch ?_ (.branch ?_ (.branch ?_ (.branch ?_ (assignmentOrExpressions_named bound)))))))))
  · exact .branch (.after fun _ => .pure .other) (.pure .other)
  · exact .after fun _ => .after fun _ => .pure (.importNames _)
  · refine .branch (.after fun _ => .branch ?_ ?_) ?_
    · exact .after fun _ => .pure .other
    · exact .pure .other
    · exact .pure .other
  · exact .after fun _ => .pure .other
  · exact .after fun _ => .pure .other
  · refine .after fun _ => .branch ?_ ?_
    · exact .after fun _ => .pure .other
    · exact .pure .other
  · exact .after fun _ => .pure .other

theorem lineTail_named (steps : Nat) : Gives (lineTail bound steps) AllNamed := by
  induction steps with
  | zero => exact .refuse
  | succ steps ih =>
    refine .branch (.branch (.pure .nil) ?_) (.after fun _ => .pure .nil)
    exact .bind (simpleStatement_named bound) fun _ hs => .bind ih fun _ hrest =>
      .pure (.cons hs hrest)

theorem line_named : Gives (line bound) AllNamed :=
  .bind (simpleStatement_named bound) fun _ hs => .bind (lineTail_named bound bound) fun _ hrest =>
    .pure (.cons hs hrest)

end Simple

section Blocks

variable {bound : Nat} {block : BlockReader} (hblock : Gives block AllNamed)

include hblock

theorem suite_named : Gives (suite bound block) AllNamed := by
  refine .after fun _ => .branch ?_ (line_named bound)
  exact .after fun _ => .bind hblock fun _ hbody => .after fun _ => .pure hbody

theorem elseSuite_named : Gives (elseSuite bound block) AllNamed :=
  .branch (suite_named hblock) (.pure .nil)

theorem classDefinition_named (decorators : List Expr) :
    Gives (classDefinition bound block decorators) Stmt.Named := by
  refine .after fun _ => .after fun _ => .after fun name => .branch ?_ ?_
  · exact .after fun _ => .bind (suite_named hblock) fun _ hbody => .pure (.classDef hbody)
  · exact .after fun _ => .bind (suite_named hblock) fun _ hbody => .pure (.classDef hbody)

theorem functionDefinition_named : Gives (functionDefinition bound block) Stmt.Named := by
  refine .after fun _ => .after fun name => .after fun _ => .after fun params => .branch ?_ ?_
  · exact .after fun _ => .bind (suite_named hblock) fun _ hbody => .pure (.functionDef hbody)
  · exact .bind (suite_named hblock) fun _ hbody => .pure (.functionDef hbody)

theorem ifTail_named (steps : Nat) : Gives (ifTail bound block steps) AllNamed := by
  induction steps with
  | zero => exact .refuse
  | succ steps ih =>
    refine .after fun _ => .bind (suite_named hblock) fun body hbody => .branch ?_ ?_
    · exact .bind ih fun _ hrest => .pure (hbody.append hrest)
    · exact .bind (elseSuite_named hblock) fun _ hrest => .pure (hbody.append hrest)

theorem whileTail_named : Gives (whileTail bound block) AllNamed :=
  .after fun _ => .bind (suite_named hblock) fun _ hbody =>
    .bind (elseSuite_named hblock) fun _ hrest => .pure (hbody.append hrest)

theorem forTail_named : Gives (forTail bound block) AllNamed :=
  .after fun _ => .after fun _ => .after fun _ => .bind (suite_named hblock) fun _ hbody =>
    .bind (elseSuite_named hblock) fun _ hrest => .pure (hbody.append hrest)

theorem withTail_named : Gives (withTail bound block) AllNamed := by
  refine .after fun inBrackets => ?_
  cases inBrackets with
  | some _ => exact suite_named hblock
  | none => exact .after fun _ => suite_named hblock

theorem exceptBlock_named (group : Bool) : Gives (exceptBlock bound block group) AllNamed := by
  have htype : ∀ atColon : Bool, Gives (if group || !atColon then do
        let _ ← expressions bound .expression
        if ← accept "as" then
          let _ ← name
        suite bound block
      else suite bound block) AllNamed := by
    refine fun _ => .ite (.after fun _ => .branch (.after fun _ => ?_) ?_) (suite_named hblock)
    · exact suite_named hblock
    · exact suite_named hblock
  refine .after fun _ => .ite ?_ ?_
  · exact .after fun _ => .after htype
  · exact .after htype

theorem tryTail_named : Gives (tryTail bound block) AllNamed := by
  have hcaught : ∀ (group : Bool) (handled : List Stmt), AllNamed handled → Gives (do
      if ← at? "except" then return some (handled ++ (← exceptBlock bound block group))
      else return none) fun next => ∀ more ∈ next, AllNamed more := by
    intro group handled hhandled
    refine .branch (.bind (exceptBlock_named hblock group) fun more hmore => .pure ?_)
      (.pure (by simp))
    rintro all ⟨⟩
    exact hhandled.append hmore
  refine .bind (suite_named hblock) fun body hbody => .branch ?_ ?_
  · exact .bind (suite_named hblock) fun _ hlast => .pure (hbody.append hlast)
  · refine .after fun _ => .after fun _ => .after fun _ => ?_
    refine .bind (.iterate (hcaught _) bound .nil) fun handled hhandled => ?_
    refine .bind (elseSuite_named hblock) fun otherwise hotherwise => .branch ?_ ?_
    · exact .bind (suite_named hblock) fun _ hlast =>
        .pure (((hbody.append hhandled).append hotherwise).append hlast)
    · exact .pure (((hbody.append hhandled).append hotherwise).append .nil)

theorem caseBlock_named : Gives (caseBlock bound block) AllNamed := by
  refine .after fun _ => .after fun _ => .after fun _ => .after fun _ => .branch ?_ ?_
  · exact .after fun _ => suite_named hblock
  · exact suite_named hblock

theorem caseBlocks_named : Gives (caseBlocks bound block) AllNamed := by
  refine .bind (caseBlock_named hblock) fun first hfirst => ?_
  refine .iterate (fun body hbody => ?_) bound hfirst
  refine .branch (.pure (by simp)) (.bind (caseBlock_named hblock) fun more hmore => .pure ?_)
  rintro all ⟨⟩
  exact hbody.append hmore

theorem asyncTail_named : Gives (asyncTail bound block) Stmt.Named := by
  refine .branch (functionDefinition_named hblock) (.branch ?_ (.after fun _ => ?_))
  · exact .bind (forTail_named hblock) fun _ hbody => .pure (.block hbody)
  · exact .bind (withTail_named hblock) fun _ hbody => .pure (.block hbody)

theorem decorated_named : Gives (decorated bound block) Stmt.Named :=
  .after fun found => .branch (classDefinition_named hblock found)
    (.after fun _ => functionDefinition_named hblock)

theorem compoundStatement?_named :
    Gives (compoundStatement? bound block) fun found => ∀ s ∈ found, s.Named := by
  -- a statement is given as it is, and a body becomes a statement
  have hgiven : ∀ {p : Parser Stmt}, Gives p Stmt.Named →
      Gives (do return some (← p)) fun found => ∀ s ∈ found, s.Named := by
    intro p hp
    refine .bind hp fun s hs => .pure ?_
    rintro s' ⟨⟩
    exact hs
  have hbody : ∀ {p : Parser (List Stmt)}, Gives p AllNamed →
      Gives (do return some (Stmt.block (← p))) fun found => ∀ s ∈ found, s.Named := by
    intro p hp
    refine .bind hp fun body hbody => .pure ?_
    rintro s ⟨⟩
    exact .block hbody
  refine .branch (hgiven (decorated_named hblock)) (.branch (hgiven (classDefinition_named hblock []))
    (.branch (hgiven (functionDefinition_named hblock)) (.branch (hgiven (asyncTail_named hblock))
    (.branch (hbody (ifTail_named hblock bound)) (.branch (hbody (withTail_named hblock))
    (.branch (hbody (forTail_named hblock)) (.branch (hbody (tryTail_named hblock))
    (.branch (hbody (whileTail_named hblock)) (.branch (.after fun head => ?_)
      (.pure (by simp)))))))))))
  cases head with
  | some _ => exact hbody (caseBlocks_named hblock)
  | none => exact .pure (by simp)

theorem statement_named : Gives (statement bound block) AllNamed := by
  refine .bind (compoundStatement?_named hblock) fun found hfound => ?_
  cases found with
  | some s => exact .pure (.cons (hfound s rfl) .nil)
  | none => exact line_named bound

theorem statementsFrom_named (steps : Nat) : Gives (statementsFrom bound block steps) AllNamed := by
  induction steps with
  | zero => exact .refuse
  | succ steps ih =>
    refine .branch (.pure .nil) (.bind (statement_named hblock) fun found hfound => ?_)
    exact .bind ih fun _ hrest => .pure (hfound.append hrest)

end Blocks

theorem statements_named (bound : Nat) : Gives (statements bound) AllNamed := by
  induction bound with
  | zero => exact .refuse
  | succ bound ih => exact statementsFrom_named ih _

/-! ## Modules -/

/-- The statements of a module are named by identifiers. -/
theorem named_of_parse? {text : String} {body : List Stmt} (h : parse? text = some body) :
    AllNamed body := by
  unfold parse? at h
  dsimp only at h
  split at h
  · contradiction
  · obtain ⟨tokens, -, h⟩ := Option.bind_eq_some_iff.mp h
    split at h
    · unfold ofTokens? at h
      split at h
      · rename_i hread
        obtain rfl := Option.some.inj h
        exact statements_named _ _ _ _ hread
      · contradiction
    · contradiction

/-! ## Classes -/

theorem targetNamesAll_eq (es : List Expr) : targetNamesAll es = es.flatMap Expr.targetNames := by
  induction es with
  | nil => rfl
  | cons e es ih => rw [targetNamesAll, ih, List.flatMap_cons]

theorem attributesOfAll_eq (owner : String) (es : List Expr) :
    attributesOfAll owner es = es.flatMap (Expr.attributesOf owner) := by
  induction es with
  | nil => rfl
  | cons e es ih => rw [attributesOfAll, ih, List.flatMap_cons]

theorem targetsAll_eq (body : List Stmt) : targetsAll body = body.flatMap Stmt.targets := by
  induction body with
  | nil => rfl
  | cons s body ih => rw [targetsAll, ih, List.flatMap_cons]

/-- A plain name among the targets is an identifier. -/
theorem Expr.Named.isWord_of_mem_targetNames {e : Expr} (h : e.Named) :
    ∀ n ∈ e.targetNames, IsWord n := by
  have hall : ∀ {items : List Expr}, (∀ e ∈ items, ∀ n ∈ e.targetNames, IsWord n) →
      ∀ n ∈ targetNamesAll items, IsWord n := by
    intro items hitems n hn
    rw [targetNamesAll_eq, List.mem_flatMap] at hn
    obtain ⟨e, he, hn⟩ := hn
    exact hitems e he n hn
  induction h with
  | name h => simpa [targetNames] using h
  | tuple _ ih => exact hall ih
  | list _ ih => exact hall ih
  | starred _ ih => exact ih
  | attributeOf | item | call | other => simp [targetNames]

/-- An attribute among the targets is an identifier. -/
theorem Expr.Named.isWord_of_mem_attributesOf {e : Expr} (h : e.Named) (owner : String) :
    ∀ n ∈ e.attributesOf owner, IsWord n := by
  have hall : ∀ {items : List Expr}, (∀ e ∈ items, ∀ n ∈ e.attributesOf owner, IsWord n) →
      ∀ n ∈ attributesOfAll owner items, IsWord n := by
    intro items hitems n hn
    rw [attributesOfAll_eq, List.mem_flatMap] at hn
    obtain ⟨e, he, hn⟩ := hn
    exact hitems e he n hn
  induction h with
  | @attributeOf before last h =>
    intro n hn
    cases before <;> simp_all [attributesOf]
  | tuple _ ih => exact hall ih
  | list _ ih => exact hall ih
  | starred _ ih => exact ih
  | name | item | call | other => simp [attributesOf]

/-- The targets in a statement are named by identifiers. -/
theorem Stmt.Named.of_mem_targets {s : Stmt} (h : s.Named) : ∀ e ∈ s.targets, e.Named := by
  induction h with
  | assign h => exact h
  | annotated h => simpa [targets] using h
  | augmented h => simpa [targets] using h
  | @block body _ ih =>
    intro e he
    rw [targets, targetsAll_eq, List.mem_flatMap] at he
    obtain ⟨s, hs, he⟩ := he
    exact ih s hs e he
  | classDef | functionDef | importNames | importFrom | other => simp [targets]

/-- The names that a statement declares in a class are identifiers. -/
theorem Stmt.Named.isWord_of_mem_declaredNames {s : Stmt} (h : s.Named) :
    ∀ n ∈ declaredNames s, IsWord n := by
  intro n hn
  cases h with
  | assign h =>
    rw [declaredNames, targetNamesAll_eq, List.mem_flatMap] at hn
    obtain ⟨e, he, hn⟩ := hn
    exact (h e he).isWord_of_mem_targetNames n hn
  | @annotated target h =>
    cases h with
    | @name id h =>
      obtain rfl := List.mem_singleton.mp hn
      exact h
    | attributeOf | item | call | tuple | list | starred | other => simp [declaredNames] at hn
  | @functionDef name params body h =>
    cases params with
    | nil => simp [declaredNames] at hn
    | cons self params =>
      -- an initializer declares the attributes of its first parameter
      rw [declaredNames] at hn
      split at hn
      · obtain ⟨e, he, hn⟩ := List.mem_flatMap.mp hn
        rw [targetsAll_eq, List.mem_flatMap] at he
        obtain ⟨s, hs, he⟩ := he
        exact ((h s hs).of_mem_targets e he).isWord_of_mem_attributesOf self n hn
      · contradiction
  | classDef | augmented | importNames | importFrom | block | other => simp [declaredNames] at hn

/-- What a class declares: different identifiers, none of which is kept for the language. -/
structure ProperFields (fields : List String) : Prop where
  nodup : fields.Nodup
  words : ∀ name ∈ fields, IsWord name
  free : ∀ name ∈ fields, isReservedName name = false

theorem properFields_fieldsOf {body : List Stmt} (h : AllNamed body) :
    ProperFields (fieldsOf body) where
  nodup := nodup_eraseDups _
  words := by
    intro name hname
    rw [fieldsOf, List.mem_eraseDups, List.mem_filter, List.mem_flatMap] at hname
    obtain ⟨⟨s, hs, hname⟩, -⟩ := hname
    exact (h s hs).isWord_of_mem_declaredNames name hname
  free := by
    intro name hname
    rw [fieldsOf, List.mem_eraseDups, List.mem_filter] at hname
    simpa using hname.2

mutual

theorem properFields_of_mem_classesOf {file : SourceFile} {imports : ImportTable} {outer : String}
    {s : Stmt} (hs : s.Named) {c : ClassDeclaration} (h : c ∈ classesOf file imports outer s) :
    ProperFields c.fields := by
  cases s with
  | classDef line name bases decorators body =>
    obtain ⟨hbody⟩ := hs
    rw [classesOf, List.mem_cons] at h
    rcases h with rfl | h
    · exact properFields_fieldsOf hbody
    · exact properFields_of_mem_classesOfAll hbody h
  | _ => simp [classesOf] at h

theorem properFields_of_mem_classesOfAll {file : SourceFile} {imports : ImportTable}
    {outer : String} {body : List Stmt} (hbody : AllNamed body) {c : ClassDeclaration}
    (h : c ∈ classesOfAll file imports outer body) : ProperFields c.fields := by
  cases body with
  | nil => simp [classesOfAll] at h
  | cons s rest =>
    obtain ⟨hs, hrest⟩ := List.forall_mem_cons.mp hbody
    rw [classesOfAll, List.mem_append] at h
    rcases h with h | h
    · exact properFields_of_mem_classesOf hs h
    · exact properFields_of_mem_classesOfAll hrest h

end

end Roster.Source
