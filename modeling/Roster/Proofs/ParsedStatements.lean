import Roster.Proofs.ParsedExpressions
import Roster.Source.Statement

/-! # Reading statements back

Rules for reading the tokens of statements, on top of those for expressions: one for each kind of
statement, one for a line, one for a block.

* `Simple`: words that are read as a statement without a block.
* `Statement`, `Block`: words that are read as statements where more statements may follow.
* `statement_of_class`: a class with a decorator, with the line that it stands on.
-/

namespace Roster.Source

open Roster.Source.Parser

/-! ## Statements without blocks -/

/-- Words that are read as a statement without a block where the end of the line follows. -/
def Simple (n : Nat) (ls : List Lexeme) (s : Stmt) : Prop :=
  ∀ (bound : Nat) (ts rest : List Token), n ≤ bound → Holds ts ls → Heads (· = .newline) rest →
    simpleStatement bound (ts ++ rest) = some (s, rest)

section Lines

variable {n bound : Nat} {ls ms us : List Lexeme} {e f g : Expr} {ts rest : List Token}

/-- The end of a line ends an expression and has no comma. -/
theorem Heads.ends_of_newline (h : Heads (· = .newline) rest) :
    Heads (fun l => endsExpression l && !isAny [","] l) rest := by
  obtain ⟨t, us, rfl, ht⟩ := h
  have hline : t.lexeme = .newline := by simpa using ht
  exact ⟨t, us, rfl, by rw [hline]; rfl⟩

theorem Heads.ends_of_cons (line : Nat) (ts : List Token) {s : String} (hs : s ∈ [":", "="]) :
    Heads (fun l => endsExpression l && !isAny [","] l) (⟨line, .fixed s⟩ :: ts) := by
  refine ⟨_, _, rfl, ?_⟩
  simp only [List.mem_cons, List.not_mem_nil, or_false] at hs
  rcases hs with rfl | rfl <;> rfl

theorem Heads.newline_ne (h : Heads (· = .newline) rest) (s : String) :
    accept s rest = some (false, rest) := by
  obtain ⟨t, us, rfl, ht⟩ := h
  have hline : t.lexeme = .newline := by simpa using ht
  simp [hline]

theorem Heads.newline_none (h : Heads (· = .newline) rest) (ss : List String) :
    acceptAny ss rest = some (false, rest) := by
  obtain ⟨t, us, rfl, ht⟩ := h
  have hline : t.lexeme = .newline := by simpa using ht
  simp [hline, isAny]

/-- The words that begin a statement that is no assignment and no expression. -/
def lineWords : List String :=
  ["pass", "break", "continue", "return", "import", "from", "raise", "del", "yield", "assert", "global",
    "nonlocal"]

/-- A line that starts with none of these words is an assignment or an expression. -/
theorem simpleStatement_of_otherWord (h : Heads (fun l => !isAny lineWords l) ts) :
    simpleStatement bound ts = assignmentOrExpressions bound ts := by
  obtain ⟨t, us, rfl, ht⟩ := h
  have hany : ∀ ss : List String, (∀ s ∈ ss, s ∈ lineWords) → isAny ss t.lexeme = false := by
    intro ss hss
    cases hlexeme : t.lexeme with
    | fixed s =>
      rw [hlexeme] at ht
      simp only [isAny, List.contains_eq_mem, Bool.not_eq_true', decide_eq_false_iff_not] at ht ⊢
      exact fun hmem => ht (hss s hmem)
    | _ => rfl
  have hanyWord : ∀ ss : List String, (∀ s ∈ ss, s ∈ lineWords) →
      acceptAny ss (t :: us) = some (false, t :: us) := by
    intro ss hss
    simp [hany ss hss]
  have hne : ∀ s : String, s ∈ lineWords → t.lexeme ≠ .fixed s := fun s hs =>
    ne_fixed_of_isAny (hany [s] (by simpa using hs))
  have hword : ∀ s : String, s ∈ lineWords → accept s (t :: us) = some (false, t :: us) := by
    intro s hs
    simp [hne s hs]
  have hyield : at? "yield" (t :: us) = some (false, t :: us) := by
    simp [hne "yield" (by decide)]
  -- every kind of statement but the last has a word of its own in front
  unfold simpleStatement
  rw [branch_false _ (hanyWord _ (by decide)), branch_false _ (hword _ (by decide)),
    branch_false _ (hword _ (by decide)), branch_false _ (hword _ (by decide)),
    branch_false _ (hword _ (by decide)), branch_false _ (hword _ (by decide)), branch_false _ hyield,
    branch_false _ (hword _ (by decide)), branch_false _ (hanyWord _ (by decide))]

/-- A line that starts like an operand is an assignment or an expression. -/
theorem simpleStatement_of_startsValue (h : Heads startsValue ts) :
    simpleStatement bound ts = assignmentOrExpressions bound ts := by
  obtain ⟨t, us, rfl, ht⟩ := h
  have hother : isAny lineWords t.lexeme = false := isAny_of_startsValue ht (by decide)
  exact simpleStatement_of_otherWord ⟨t, us, rfl, by simp [hother]⟩

namespace Simple

/-- An expression of its own. -/
theorem expression (h : Phrase n ls e) (hbegins : begins ls = true) : Simple (n + 1) ls .other := by
  intro bound ts rest hbound hts hrest
  have hread := starExpressions_of_phrase bound h hbegins (by omega) (by omega) hts
    hrest.ends_of_newline
  rw [simpleStatement_of_startsValue (heads_of_begins hts hbegins rest)]
  simp [assignmentOrExpressions, hread, hrest.newline_ne, hrest.newline_none]

/-- A value for one target. -/
theorem assign (h : Phrase n ls e) (hbegins : begins ls = true) (htarget : e.isTarget true = true)
    (hf : Phrase n ms f) (hvalue : begins ms = true) :
    Simple (n + 1) (ls ++ .fixed "=" :: ms) (.assign [e]) := by
  intro bound ts rest hbound hts hrest
  obtain ⟨bound, rfl⟩ := Nat.exists_eq_succ_of_ne_zero (n := bound) (by omega)
  obtain ⟨xs, ys, rfl, hxs, hys⟩ := holds_append_iff.mp hts
  obtain ⟨line, zs, rfl, hzs⟩ := holds_cons_iff.mp hys
  have hread := starExpressions_of_phrase (bound + 1) h hbegins (by omega) (by omega) hxs
    (Heads.ends_of_cons line (zs ++ rest) (s := "=") (by simp))
  have hright := starExpressions_of_phrase (bound + 1) hf hvalue (by omega) (by omega) hzs
    hrest.ends_of_newline
  obtain ⟨t, us, heq, ht⟩ := heads_of_begins hzs hvalue rest
  have hyield : at? "yield" (zs ++ rest) = some (false, zs ++ rest) := by
    have hne : t.lexeme ≠ .fixed "yield" := ne_of_startsValue ht (by decide)
    rw [heq, at?_cons]
    simp [hne]
  rw [List.append_assoc, simpleStatement_of_startsValue (heads_of_begins hxs hbegins _)]
  simp [assignmentOrExpressions, hread, isAny, augmentingSigns, htarget, assignmentTail, hyield,
    hright, hrest.newline_ne]

/-- A name with an annotation and a value. -/
theorem annotated {written : String} {id : Identifier} (hf : Phrase n ms f) (hg : Phrase n us g)
    (hvalue : begins us = true) :
    Simple (n + 1) (.name written id :: .fixed ":" :: (ms ++ .fixed "=" :: us))
      (.annotated (.name id.text)) := by
  intro bound ts rest hbound hts hrest
  obtain ⟨i, ws, rfl, hws⟩ := holds_cons_iff.mp hts
  obtain ⟨j, xs, rfl, hxs⟩ := holds_cons_iff.mp hws
  obtain ⟨ys, zs, rfl, hys, hzs⟩ := holds_append_iff.mp hxs
  obtain ⟨k, as, rfl, has⟩ := holds_cons_iff.mp hzs
  have hname : Holds [⟨i, .name written id⟩] [.name written id] := rfl
  have htarget := starExpressions_of_phrase (n := 1) bound (.of_operand (.name written id) rfl) rfl
    (by omega) (by omega) hname
    (Heads.ends_of_cons j (ys ++ ⟨k, .fixed "="⟩ :: (as ++ rest)) (s := ":") (by simp))
  have hannotation := hf bound ys (⟨k, .fixed "="⟩ :: (as ++ rest)) (by omega) hys ⟨_, _, rfl, rfl⟩
  have hright := starExpressions_of_phrase bound hg hvalue (by omega) (by omega) has
    hrest.ends_of_newline
  obtain ⟨t, bs, heq, ht⟩ := heads_of_begins has hvalue rest
  have hyield : at? "yield" (as ++ rest) = some (false, as ++ rest) := by
    have hne : t.lexeme ≠ .fixed "yield" := ne_of_startsValue ht (by decide)
    rw [heq, at?_cons]
    simp [hne]
  have hstart : Heads startsValue (⟨i, .name written id⟩ :: ⟨j, .fixed ":"⟩
      :: (ys ++ ⟨k, .fixed "="⟩ :: (as ++ rest))) := ⟨_, _, rfl, rfl⟩
  rw [List.singleton_append] at htarget
  simp only [List.cons_append, List.append_assoc]
  rw [simpleStatement_of_startsValue hstart]
  simp [assignmentOrExpressions, htarget, Expr.isSingleTarget, annotatesWhole, hannotation,
    yieldOrExpressions, hyield, hright]

/-- A value that is given back. -/
theorem returned (h : Phrase n ls e) (hbegins : begins ls = true) :
    Simple (n + 1) (.fixed "return" :: ls) .other := by
  intro bound ts rest hbound hts hrest
  obtain ⟨i, us, rfl, hus⟩ := holds_cons_iff.mp hts
  have hread := starExpressions_of_phrase bound h hbegins (by omega) (by omega) hus
    hrest.ends_of_newline
  have hstarts := startsItem_of_startsValue (heads_of_begins hus hbegins rest)
  unfold simpleStatement
  rw [branch_false (⟨i, .fixed "return"⟩ :: (us ++ rest)) (by simp [isAny]),
    branch_true (us ++ rest) (by simp)]
  simp [hstarts, hread]

/-- A failure that is raised. -/
theorem raised (h : Phrase n ls e) (hbegins : begins ls = true) :
    Simple (n + 1) (.fixed "raise" :: ls) .other := by
  intro bound ts rest hbound hts hrest
  obtain ⟨i, us, rfl, hus⟩ := holds_cons_iff.mp hts
  obtain ⟨t, ws, rfl, ht⟩ := hrest
  have hline : t.lexeme = .newline := by simpa using ht
  have hread := h bound us (t :: ws) (by omega) hus ⟨_, _, rfl, by rw [hline]; rfl⟩
  have hstarts := startsItem_of_startsValue (heads_of_begins hus hbegins (t :: ws))
  have hskip : ∀ s, s ≠ "raise" → accept s (⟨i, .fixed "raise"⟩ :: (us ++ t :: ws))
      = some (false, ⟨i, .fixed "raise"⟩ :: (us ++ t :: ws)) := by
    intro s hs
    simp [Ne.symm hs]
  unfold simpleStatement
  rw [branch_false (⟨i, .fixed "raise"⟩ :: (us ++ t :: ws)) (by simp [isAny]),
    branch_false _ (hskip _ (by decide)), branch_false _ (hskip _ (by decide)),
    branch_false _ (hskip _ (by decide)), branch_true (us ++ t :: ws) (by simp)]
  simp [hstarts, hread, hline]

end Simple

/-! ## Imports -/

/-- A name as it is written and as it is meant. -/
abbrev Written := String × Identifier

/-- The names behind the first one in an import. -/
def moreNames (names : List Written) : List Lexeme :=
  names.flatMap fun w => [.fixed ",", .name w.1 w.2]

/-- Names that are imported under their own names. -/
def importedAs (names : List Written) : List ImportedName := names.map fun w => ⟨w.2.text, none⟩

theorem accept_as_of_moreNames {names : List Written} (hts : Holds ts (moreNames names))
    (hrest : Heads (· = .newline) rest) : accept "as" (ts ++ rest) = some (false, ts ++ rest) := by
  cases names with
  | nil =>
    obtain rfl := holds_nil_iff.mp hts
    exact hrest.newline_ne "as"
  | cons w names =>
    rw [moreNames, List.flatMap_cons, List.cons_append] at hts
    obtain ⟨i, us, rfl, -⟩ := holds_cons_iff.mp hts
    simp

theorem aliased_name (i : Nat) (w : Written) (has : accept "as" rest = some (false, rest)) :
    aliased Parser.name (⟨i, .name w.1 w.2⟩ :: rest) = some (⟨w.2.text, none⟩, rest) := by
  simp [aliased, has]

/-- The names of an import up to the end of the line. -/
theorem iterate_moreNames {names : List Written} (hts : Holds ts (moreNames names))
    (hrest : Heads (· = .newline) rest) (found : List ImportedName) {bound : Nat}
    (hbound : names.length < bound) :
    iterate (fun found => do
        if ← accept "," then return some (found ++ [← aliased Parser.name])
        else return none) bound found (ts ++ rest)
      = some (found ++ importedAs names, rest) := by
  induction names generalizing ts found bound with
  | nil =>
    obtain rfl := holds_nil_iff.mp hts
    obtain ⟨bound, rfl⟩ := Nat.exists_eq_succ_of_ne_zero (Nat.ne_zero_of_lt hbound)
    rw [importedAs, List.map_nil, List.append_nil, List.nil_append]
    exact iterate_stop _ (by simp [hrest.newline_ne])
  | cons w names ih =>
    obtain ⟨bound, rfl⟩ := Nat.exists_eq_succ_of_ne_zero (Nat.ne_zero_of_lt hbound)
    rw [moreNames, List.flatMap_cons] at hts
    obtain ⟨us, vs, rfl, hus, hvs⟩ := holds_append_iff.mp hts
    obtain ⟨i, ws, rfl, hws⟩ := holds_cons_iff.mp hus
    obtain ⟨j, xs, rfl, hxs⟩ := holds_cons_iff.mp hws
    obtain rfl := holds_nil_iff.mp hxs
    have hname := aliased_name j w (accept_as_of_moreNames hvs hrest)
    rw [iterate_more (found ++ [⟨w.2.text, none⟩]) (vs ++ rest)]
    · rw [ih hvs _ (by simpa using hbound)]
      simp [importedAs]
    · simp [hname]

/-- The names behind the word `import`, of which there is one at least. -/
theorem importedNames_moreNames {names : List Written} (i : Nat) (first : Written)
    (hts : Holds ts (moreNames names)) (hrest : Heads (· = .newline) rest) {bound : Nat}
    (hbound : names.length < bound) :
    importedNames bound (⟨i, .name first.1 first.2⟩ :: (ts ++ rest))
      = some (importedAs (first :: names), rest) := by
  have hfirst := aliased_name i first (accept_as_of_moreNames hts hrest)
  have hmore := iterate_moreNames hts hrest [⟨first.2.text, none⟩] hbound
  have hskip : ∀ s, accept s (⟨i, .name first.1 first.2⟩ :: (ts ++ rest))
      = some (false, ⟨i, .name first.1 first.2⟩ :: (ts ++ rest)) := by
    intro s
    simp
  unfold importedNames
  rw [branch_false _ (hskip _), branch_false _ (hskip _), bind_apply, hfirst, Option.bind_some, hmore]
  rfl

/-- A name without dots behind it. -/
theorem dottedName_name (i : Nat) (w : Written) {bound : Nat}
    (hdot : accept "." rest = some (false, rest)) :
    dottedName (bound + 1) (⟨i, .name w.1 w.2⟩ :: rest) = some (w.2.text, rest) := by
  unfold dottedName
  rw [bind_apply, name_cons, Option.bind_some]
  exact iterate_stop _ (by simp [hdot])

/-- Names that are imported from a module with a plain name. -/
theorem Simple.importFrom (source first : Written) (names : List Written)
    (hlength : names.length < n) :
    Simple n (.fixed "from" :: .name source.1 source.2 :: .fixed "import" :: .name first.1 first.2
      :: moreNames names)
      (.importFrom 0 (some source.2.text) (importedAs (first :: names))) := by
  intro bound ts rest hbound hts hrest
  obtain ⟨bound, rfl⟩ := Nat.exists_eq_succ_of_ne_zero (n := bound) (by omega)
  obtain ⟨i, us, rfl, hus⟩ := holds_cons_iff.mp hts
  obtain ⟨j, vs, rfl, hvs⟩ := holds_cons_iff.mp hus
  obtain ⟨k, ws, rfl, hws⟩ := holds_cons_iff.mp hvs
  obtain ⟨l, xs, rfl, hxs⟩ := holds_cons_iff.mp hws
  have himported := importedNames_moreNames l first hxs hrest (Nat.lt_of_lt_of_le hlength hbound)
  simp only [List.cons_append]
  -- the tokens from the names on, and from the module on
  generalize (⟨l, .name first.1 first.2⟩ : Token) :: (xs ++ rest) = names' at himported
  have hdotted : dottedName (bound + 1) (⟨j, .name source.1 source.2⟩ :: ⟨k, .fixed "import"⟩ :: names')
      = some (source.2.text, ⟨k, .fixed "import"⟩ :: names') := dottedName_name j source (by simp)
  generalize hmodule : (⟨j, .name source.1 source.2⟩ : Token) :: ⟨k, .fixed "import"⟩ :: names'
    = module' at hdotted
  have hdots : leadingDots (bound + 1) module' = some (0, module') := by
    rw [← hmodule]
    exact iterate_stop _ (by simp)
  have hat : ∀ s, at? s module' = some (false, module') := by
    intro s
    rw [← hmodule]
    simp
  have hskip : ∀ s, s ≠ "from" →
      accept s (⟨i, .fixed "from"⟩ :: module') = some (false, ⟨i, .fixed "from"⟩ :: module') := by
    intro s hs
    simp [Ne.symm hs]
  unfold simpleStatement
  rw [branch_false (⟨i, .fixed "from"⟩ :: module') (by simp [isAny]),
    branch_false _ (hskip _ (by decide)), branch_false _ (hskip _ (by decide)),
    branch_true module' (by simp)]
  simp [Source.importFrom, hdots, hat, hdotted, himported]

end Lines

/-! ## Blocks -/

/-- The words that open a statement with blocks. -/
def blockWords : List String := ["@", "class", "def", "async", "if", "with", "for", "try", "while"]

/-- Whether a word opens a statement without blocks, whatever follows it. -/
def startsLine : Lexeme → Bool
  | .fixed s => !blockWords.contains s
  | .name written _ => written ≠ "match"
  | .literal _ => true
  | _ => false

/-- Whether a word stands at the end of a block. -/
def endsBlock (l : Lexeme) : Bool := l = .dedent || l = .finish

/-- Words that are read as statements, whatever follows. -/
structure Statement (n : Nat) (ls : List Lexeme) (ss : List Stmt) : Prop where
  opens : ls.head?.any (fun l => !endsBlock l) = true
  reads : ∀ (bound : Nat) (ts rest : List Token), n ≤ bound → Holds ts ls →
    statement (bound + 1) (statements bound) (ts ++ rest) = some (ss, rest)

/-- Words that are read as statements in front of others of the same block. The bound has to be at
least `n`, and of the steps at most `n` are used up. -/
def Block (n : Nat) (ls : List Lexeme) (ss : List Stmt) : Prop :=
  ∀ (bound steps : Nat) (ts rest : List Token), n ≤ bound → n ≤ steps → Holds ts ls →
    ∃ left, steps ≤ left + n ∧ statementsFrom (bound + 1) (statements bound) steps (ts ++ rest)
      = (statementsFrom (bound + 1) (statements bound) left rest).map fun r => (ss ++ r.1, r.2)

section Blocks

variable {n bound : Nat} {ls ms us : List Lexeme} {s : Stmt} {ss body : List Stmt} {e : Expr}
  {ts rest : List Token}

theorem compoundStatement?_of_startsLine (h : Heads startsLine ts) (block : BlockReader) :
    compoundStatement? bound block ts = some (none, ts) := by
  obtain ⟨⟨i, l⟩, us, rfl, hl⟩ := h
  have hne : ∀ s ∈ blockWords, l ≠ .fixed s := by
    rintro s hs rfl
    simp [startsLine, hs] at hl
  -- none of the words that open a block stands in front, so no branch is taken
  have hat : ∀ s ∈ blockWords, at? s (⟨i, l⟩ :: us) = some (false, ⟨i, l⟩ :: us) := by
    intro s hs
    simp [hne s hs]
  have haccept : ∀ s ∈ blockWords, accept s (⟨i, l⟩ :: us) = some (false, ⟨i, l⟩ :: us) := by
    intro s hs
    simp [hne s hs]
  have hmatch : atWritten "match" (⟨i, l⟩ :: us) = some (false, ⟨i, l⟩ :: us) := by
    cases l with
    | name written id =>
      have hwritten : written ≠ "match" := by simpa [startsLine] using hl
      simp [atWritten, hwritten]
    | _ => simp [atWritten]
  unfold compoundStatement?
  rw [branch_false _ (hat _ (by decide)), branch_false _ (hat _ (by decide)),
    branch_false _ (hat _ (by decide)), branch_false _ (haccept _ (by decide)),
    branch_false _ (haccept _ (by decide)), branch_false _ (haccept _ (by decide)),
    branch_false _ (haccept _ (by decide)), branch_false _ (haccept _ (by decide)),
    branch_false _ (haccept _ (by decide)), branch_false _ hmatch]
  rfl

/-- A line with one statement. -/
theorem Statement.line (h : Simple n ls s) (hstarts : ls.head?.any startsLine = true) :
    Statement n (ls ++ [.newline]) [s] where
  opens := by
    cases ls with
    | nil => cases hstarts
    | cons l ls =>
      cases l with
      | fixed _ => rfl
      | name _ _ => rfl
      | literal _ => rfl
      | _ => cases hstarts
  reads := by
    intro bound ts rest hbound hts
    obtain ⟨us, vs, rfl, hus, hvs⟩ := holds_append_iff.mp hts
    obtain ⟨i, ws, rfl, hws⟩ := holds_cons_iff.mp hvs
    obtain rfl := holds_nil_iff.mp hws
    have hhead : Heads startsLine (us ++ ⟨i, .newline⟩ :: rest) := by
      cases ls with
      | nil => cases hstarts
      | cons l ls => exact .of_holds hus (by simpa using hstarts) _
    have hline := h (bound + 1) us (⟨i, .newline⟩ :: rest) (by omega) hus ⟨_, _, rfl, by simp⟩
    rw [List.append_assoc, List.singleton_append, statement, bind_apply,
      compoundStatement?_of_startsLine hhead, Option.bind_some]
    simp [Source.line, hline, lineTail]

/-- A statement, and those behind it. -/
theorem statementsFrom_more {sub : BlockReader} (steps : Nat)
    (hopens : Heads (fun l => !endsBlock l) ts)
    (h : statement bound sub ts = some (ss, rest)) :
    statementsFrom bound sub (steps + 1) ts
      = (statementsFrom bound sub steps rest).map fun r => (ss ++ r.1, r.2) := by
  obtain ⟨t, us, rfl, ht⟩ := hopens
  have hend : atBlockEnd (t :: us) = some (false, t :: us) := by
    simp only [endsBlock, Bool.not_eq_true', Bool.or_eq_false_iff, decide_eq_false_iff_not] at ht
    simp [atBlockEnd, ht.1, ht.2]
  rw [statementsFrom, branch_false _ hend, bind_apply, h, Option.bind_some, bind_apply]
  cases statementsFrom bound sub steps rest <;> rfl

namespace Block

theorem nil : Block n [] [] := by
  intro bound steps ts rest _ _ hts
  obtain rfl := holds_nil_iff.mp hts
  refine ⟨steps, by omega, ?_⟩
  cases hread : statementsFrom (bound + 1) (statements bound) steps rest <;> simp [hread]

theorem cons (h : Statement n ls ss) (hmore : Block n ms body) :
    Block (n + 1) (ls ++ ms) (ss ++ body) := by
  intro bound steps ts rest hbound hsteps hts
  -- the statement takes one step
  obtain ⟨steps, rfl⟩ := Nat.exists_eq_succ_of_ne_zero (n := steps) (by omega)
  obtain ⟨us, vs, rfl, hus, hvs⟩ := holds_append_iff.mp hts
  obtain ⟨left, hleft, hlater⟩ := hmore bound steps vs rest (by omega) (by omega) hvs
  have hread := h.reads bound us (vs ++ rest) (by omega) hus
  have hopens : Heads (fun l => !endsBlock l) (us ++ (vs ++ rest)) := by
    have hfirst := h.opens
    cases ls with
    | nil => cases hfirst
    | cons l ls => exact .of_holds hus (by simpa using hfirst) _
  refine ⟨left, by omega, ?_⟩
  rw [List.append_assoc, statementsFrom_more steps hopens hread, hlater, Option.map_map]
  simp only [Function.comp_def, List.append_assoc]

theorem single (h : Statement n ls ss) : Block (n + 1) ls ss := by
  have hblock := cons h .nil
  rwa [List.append_nil, List.append_nil] at hblock

end Block

theorem statementsFrom_end (steps : Nat) (sub : BlockReader) (hrest : Heads endsBlock rest) :
    statementsFrom bound sub (steps + 1) rest = some ([], rest) := by
  obtain ⟨t, us, rfl, ht⟩ := hrest
  have hend : atBlockEnd (t :: us) = some (true, t :: us) := by
    rcases Bool.or_eq_true_iff.mp ht with h | h
    · simp [atBlockEnd, of_decide_eq_true h]
    · simp [atBlockEnd, of_decide_eq_true h]
  rw [statementsFrom, branch_true _ hend]
  rfl

/-- A whole block. -/
theorem statements_of_block (h : Block n ls ss) (hbound : n < bound) (hts : Holds ts ls)
    (hrest : Heads endsBlock rest) : statements bound (ts ++ rest) = some (ss, rest) := by
  obtain ⟨bound, rfl⟩ := Nat.exists_eq_succ_of_ne_zero (Nat.ne_zero_of_lt hbound)
  obtain ⟨left, hleft, hread⟩ := h bound (bound + 1) ts rest (by omega) (by omega) hts
  obtain ⟨left, rfl⟩ := Nat.exists_eq_succ_of_ne_zero (n := left) (by omega)
  rw [statements, hread, statementsFrom_end left _ hrest]
  simp

/-- The words of a block on lines of its own. -/
def onLines (ls : List Lexeme) : List Lexeme :=
  .fixed ":" :: .newline :: .indent :: (ls ++ [.dedent])

theorem suite_of_block (bound : Nat) (rest : List Token) {deeper : Nat} (h : Block n ls ss)
    (hbound : n < deeper) (hts : Holds ts (onLines ls)) :
    suite bound (statements deeper) (ts ++ rest) = some (ss, rest) := by
  obtain ⟨i, us, rfl, hus⟩ := holds_cons_iff.mp hts
  obtain ⟨j, vs, rfl, hvs⟩ := holds_cons_iff.mp hus
  obtain ⟨k, ws, rfl, hws⟩ := holds_cons_iff.mp hvs
  obtain ⟨xs, ys, rfl, hxs, hys⟩ := holds_append_iff.mp hws
  obtain ⟨l, zs, rfl, hzs⟩ := holds_cons_iff.mp hys
  obtain rfl := holds_nil_iff.mp hzs
  have hend : Heads endsBlock (⟨l, .dedent⟩ :: rest) := ⟨_, _, rfl, rfl⟩
  have hread := statements_of_block h hbound hxs hend
  simp [suite, hread]

/-! ## Functions -/

/-- Words that are read as parameters up to the bracket that closes them. -/
def Parameters (n : Nat) (ls : List Lexeme) (names : List String) : Prop :=
  ∀ (bound : Nat) (ts rest : List Token), n ≤ bound → Holds ts ls →
    parameters (typeHint bound) (starTypeHint bound) (defaultValue (expressions bound)) ")" bound
      (ts ++ rest) = some (names, rest)

namespace Parameters

/-- No parameter stands where something other than a name follows. -/
theorem placeParameter?_none (hint value : Parser Unit) (close : String) (i : Nat) {s : String}
    (hs : s ≠ "/") (stage : ParameterStage) :
    placeParameter? hint value close stage (⟨i, .fixed s⟩ :: rest)
      = some (none, ⟨i, .fixed s⟩ :: rest) := by
  simp [placeParameter?, hs]

theorem none : Parameters (n + 1) [.fixed ")"] [] := by
  intro bound ts rest hbound hts
  obtain ⟨bound, rfl⟩ := Nat.exists_eq_succ_of_ne_zero (n := bound) (by omega)
  obtain ⟨i, us, rfl, hus⟩ := holds_cons_iff.mp hts
  obtain rfl := holds_nil_iff.mp hus
  have hstop : iterate (placeParameter? (typeHint (bound + 1))
      (defaultValue (expressions (bound + 1))) ")") (bound + 1) ⟨[], false, false⟩
      (⟨i, .fixed ")"⟩ :: rest) = some (⟨[], false, false⟩, ⟨i, .fixed ")"⟩ :: rest) :=
    iterate_stop _ (placeParameter?_none _ _ _ i (by decide) _)
  simp [parameters, hstop, isAny]

/-- One parameter without annotation and default. -/
theorem placeParameter?_name {l : Token} (i : Nat) (w : Written)
    (hl : l.lexeme = .fixed ")" ∨ l.lexeme = .fixed ",") :
    placeParameter? (typeHint bound) (defaultValue (expressions bound)) ")" ⟨[], false, false⟩
        (⟨i, .name w.1 w.2⟩ :: l :: rest)
      = some (some ⟨[w.2.text], false, false⟩,
          if l.lexeme = .fixed "," then rest else l :: rest) := by
  rcases hl with hl | hl <;>
    simp [placeParameter?, typeHint, defaultValue, parameterEnd, hl]

theorem one (w : Written) : Parameters (n + 2) [.name w.1 w.2, .fixed ")"] [w.2.text] := by
  intro bound ts rest hbound hts
  obtain ⟨bound, rfl⟩ := Nat.exists_eq_add_of_le' (m := 2) (n := bound) (by omega)
  obtain ⟨i, us, rfl, hus⟩ := holds_cons_iff.mp hts
  obtain ⟨j, vs, rfl, hvs⟩ := holds_cons_iff.mp hus
  obtain rfl := holds_nil_iff.mp hvs
  have hread : iterate (placeParameter? (typeHint (bound + 2))
      (defaultValue (expressions (bound + 2))) ")") (bound + 2) ⟨[], false, false⟩
      (⟨i, .name w.1 w.2⟩ :: ⟨j, .fixed ")"⟩ :: rest)
      = some (⟨[w.2.text], false, false⟩, ⟨j, .fixed ")"⟩ :: rest) := by
    rw [iterate_more _ _ (placeParameter?_name i w (.inl rfl))]
    exact iterate_stop _ (placeParameter?_none _ _ _ j (by decide) _)
  simp [parameters, hread, isAny]

/-- The parameter that takes all further values with their names, the last one of all. -/
theorem starParameters_named {hint starHint value : Parser Unit} (i j k : Nat) (v : Written)
    (hhint : hint ts = some ((), ⟨k, .fixed ")"⟩ :: rest)) :
    starParameters hint starHint value ")" (bound + 1) (⟨i, .fixed "**"⟩ :: ⟨j, .name v.1 v.2⟩ :: ts)
      = some ((), ⟨k, .fixed ")"⟩ :: rest) := by
  generalize hlast : (⟨i, .fixed "**"⟩ : Token) :: ⟨j, .name v.1 v.2⟩ :: ts = last
  have hnamed : namedParameters hint value ")" (bound + 1) false last
      = some ((), ⟨k, .fixed ")"⟩ :: rest) := by
    have hstop : ∀ step : Bool → Parser (Option Bool), step false last = some (Option.none, last) →
        iterate step (bound + 1) false last = some (false, last) := fun _ => iterate_stop last
    unfold namedParameters
    rw [bind_apply, hstop _ (by rw [← hlast]; simp)]
    simp [← hlast, hhint, parameterEnd]
  unfold starParameters
  rw [branch_false last (by rw [← hlast]; simp), hnamed]

/-- A parameter, and behind it one that takes all further values with their names. -/
theorem oneAndNamed (w v : Written) (h : Phrase n ls e) :
    Parameters (n + 2) (.name w.1 w.2 :: .fixed "," :: .fixed "**" :: .name v.1 v.2 :: .fixed ":"
      :: (ls ++ [.fixed ")"])) [w.2.text] := by
  intro bound ts rest hbound hts
  obtain ⟨bound, rfl⟩ := Nat.exists_eq_add_of_le' hbound
  obtain ⟨i, us, rfl, hus⟩ := holds_cons_iff.mp hts
  obtain ⟨j, vs, rfl, hvs⟩ := holds_cons_iff.mp hus
  obtain ⟨k, ws, rfl, hws⟩ := holds_cons_iff.mp hvs
  obtain ⟨l, xs, rfl, hxs⟩ := holds_cons_iff.mp hws
  obtain ⟨o, ys, rfl, hys⟩ := holds_cons_iff.mp hxs
  obtain ⟨zs, as, rfl, hzs, has⟩ := holds_append_iff.mp hys
  obtain ⟨q, bs, rfl, hbs⟩ := holds_cons_iff.mp has
  obtain rfl := holds_nil_iff.mp hbs
  generalize hdeep : bound + (n + 2) = deep
  have hhint := h deep zs (⟨q, .fixed ")"⟩ :: rest) (by omega) hzs ⟨_, _, rfl, rfl⟩
  obtain ⟨deeper, rfl⟩ := Nat.exists_eq_add_of_le' (m := 2) (n := deep) (by omega)
  -- the tokens from the stars on
  generalize hlast : (⟨k, .fixed "**"⟩ : Token) :: ⟨l, .name v.1 v.2⟩ :: ⟨o, .fixed ":"⟩
    :: (zs ++ ⟨q, .fixed ")"⟩ :: rest) = last
  have hread : iterate (placeParameter? (typeHint (deeper + 2))
      (defaultValue (expressions (deeper + 2))) ")") (deeper + 2) ⟨[], false, false⟩
      (⟨i, .name w.1 w.2⟩ :: ⟨j, .fixed ","⟩ :: last)
      = some (⟨[w.2.text], false, false⟩, last) := by
    rw [iterate_more _ _ (placeParameter?_name i w (.inr rfl)), if_pos rfl, ← hlast]
    exact iterate_stop _ (placeParameter?_none _ _ _ k (by decide) _)
  have hstar : starParameters (typeHint (deeper + 2)) (starTypeHint (deeper + 2))
      (defaultValue (expressions (deeper + 2))) ")" (deeper + 2) last
      = some ((), ⟨q, .fixed ")"⟩ :: rest) := by
    rw [← hlast]
    exact starParameters_named k l q v (by simp [typeHint, hhint])
  have hsigns : atAny ["*", "**"] last = some (true, last) := by
    rw [← hlast]
    simp [isAny]
  simp [hlast, parameters, hread, hsigns, hstar]

end Parameters

/-- The words of a function with a result and a block. -/
def functionWords (w : Written) (ps rs bs : List Lexeme) : List Lexeme :=
  .fixed "def" :: .name w.1 w.2 :: .fixed "(" :: (ps ++ .fixed "->" :: (rs ++ onLines bs))

theorem functionDefinition_of_block (rest : List Token) {w : Written} {ps rs bs : List Lexeme}
    {names : List String} {deeper : Nat} (hparams : Parameters n ps names) (hresult : Phrase n rs e)
    (hbody : Block n bs body) (hbound : n ≤ bound) (hdeeper : n < deeper)
    (hts : Holds ts (functionWords w ps rs bs)) :
    functionDefinition bound (statements deeper) (ts ++ rest)
      = some (.functionDef w.2.text names body, rest) := by
  obtain ⟨i, us, rfl, hus⟩ := holds_cons_iff.mp hts
  obtain ⟨j, vs, rfl, hvs⟩ := holds_cons_iff.mp hus
  obtain ⟨k, ws, rfl, hws⟩ := holds_cons_iff.mp hvs
  obtain ⟨xs, ys, rfl, hxs, hys⟩ := holds_append_iff.mp hws
  obtain ⟨l, zs, rfl, hzs⟩ := holds_cons_iff.mp hys
  obtain ⟨as, cs, rfl, has, hcs⟩ := holds_append_iff.mp hzs
  have hread := hparams bound xs (⟨l, .fixed "->"⟩ :: (as ++ (cs ++ rest))) hbound hxs
  have hgiven := hresult bound as (cs ++ rest) hbound has (.of_holds hcs rfl rest)
  have hsuite := suite_of_block bound rest hbody hdeeper hcs
  simp [functionDefinition, hread, hgiven, hsuite]

theorem Statement.function {w : Written} {ps rs bs : List Lexeme} {names : List String}
    (hparams : Parameters n ps names) (hresult : Phrase n rs e) (hbody : Block n bs body) :
    Statement (n + 1) (functionWords w ps rs bs) [.functionDef w.2.text names body] where
  opens := rfl
  reads := by
    intro bound ts rest hbound hts
    have hread := functionDefinition_of_block rest hparams hresult hbody (Nat.le_succ_of_le
      (Nat.le_of_succ_le hbound)) hbound hts
    have hskip : ∀ s, s ≠ "def" → at? s (ts ++ rest) = some (false, ts ++ rest) := by
      obtain ⟨i, us, rfl, -⟩ := holds_cons_iff.mp hts
      intro s hs
      simp [Ne.symm hs]
    have hdef : at? "def" (ts ++ rest) = some (true, ts ++ rest) := by
      obtain ⟨i, us, rfl, -⟩ := holds_cons_iff.mp hts
      simp
    have hcompound : compoundStatement? (bound + 1) (statements bound) (ts ++ rest)
        = some (some (.functionDef w.2.text names body), rest) := by
      unfold compoundStatement?
      rw [branch_false _ (hskip _ (by decide)), branch_false _ (hskip _ (by decide)),
        branch_true _ hdef, bind_apply, hread]
      rfl
    rw [statement, bind_apply, hcompound]
    rfl

/-- One decorator on a line of its own, where no other one follows. -/
theorem decorators_of_phrase (bound : Nat) {ds : List Lexeme} (h : Phrase n ds e)
    (hbegins : begins ds = true) (hbound : n ≤ bound) (hmany : 2 ≤ bound)
    (hts : Holds ts (.fixed "@" :: (ds ++ [.newline])))
    (hrest : Heads (· ≠ .fixed "@") rest) :
    decorators bound (ts ++ rest) = some ([e], rest) := by
  obtain ⟨bound, rfl⟩ := Nat.exists_eq_add_of_le' hmany
  obtain ⟨i, us, rfl, hus⟩ := holds_cons_iff.mp hts
  obtain ⟨vs, ws, rfl, hvs, hws⟩ := holds_append_iff.mp hus
  obtain ⟨j, xs, rfl, hxs⟩ := holds_cons_iff.mp hws
  obtain rfl := holds_nil_iff.mp hxs
  obtain ⟨t, ys, rfl, ht⟩ := hrest
  have hsign : t.lexeme ≠ .fixed "@" := of_decide_eq_true ht
  have hends : Heads endsExpression (⟨j, .newline⟩ :: t :: ys) := ⟨_, _, rfl, rfl⟩
  have hread := h _ vs (⟨j, .newline⟩ :: t :: ys) hbound hvs hends
  have hnamed := named?_of_begins (expressions (bound + 2)) hvs hbegins hends
  have hvalue : namedExpression (expressions (bound + 2)) (vs ++ ⟨j, .newline⟩ :: t :: ys)
      = some (e, ⟨j, .newline⟩ :: t :: ys) := by
    simp [namedExpression, hnamed, hread]
  unfold decorators
  rw [iterate_more [e] (t :: ys)]
  · exact iterate_stop _ (by simp [hsign])
  · simp [hvalue]

theorem statement_of_decorated {deeper : Nat} (i : Nat)
    (h : decorated bound (statements deeper) (⟨i, .fixed "@"⟩ :: ts) = some (s, rest)) :
    statement bound (statements deeper) (⟨i, .fixed "@"⟩ :: ts) = some ([s], rest) := by
  have hcompound : compoundStatement? bound (statements deeper) (⟨i, .fixed "@"⟩ :: ts)
      = some (some s, rest) := by
    unfold compoundStatement?
    rw [branch_true (⟨i, .fixed "@"⟩ :: ts) (by simp), bind_apply, h]
    rfl
  rw [statement, bind_apply, hcompound]
  rfl

/-- A function with a decorator. -/
theorem Statement.decorated {w : Written} {ds ps rs bs : List Lexeme} {names : List String}
    (hdecorator : Phrase n ds e) (hbegins : begins ds = true) (hparams : Parameters n ps names)
    {f : Expr} (hresult : Phrase n rs f) (hbody : Block n bs body) :
    Statement (n + 1) (.fixed "@" :: (ds ++ .newline :: functionWords w ps rs bs))
      [.functionDef w.2.text names body] where
  opens := rfl
  reads := by
    intro bound ts rest hbound hts
    rw [← List.singleton_append (l := functionWords w ps rs bs), ← List.append_assoc,
      ← List.cons_append] at hts
    -- the first line is the decorator's, the others are those of the function
    obtain ⟨us, vs, rfl, hus, hvs⟩ := holds_append_iff.mp hts
    have hfunction := functionDefinition_of_block rest hparams hresult hbody (Nat.le_succ_of_le
      (Nat.le_of_succ_le hbound)) hbound hvs
    have hnext : Heads (· ≠ .fixed "@") (vs ++ rest) := .of_holds hvs (by simp) rest
    have hfound := decorators_of_phrase (bound + 1) hdecorator hbegins (by omega) (by omega)
      hus hnext
    have hskip : ∀ s, s ≠ "def" → at? s (vs ++ rest) = some (false, vs ++ rest)
        ∧ accept s (vs ++ rest) = some (false, vs ++ rest) := by
      obtain ⟨i, ws, rfl, -⟩ := holds_cons_iff.mp hvs
      intro s hs
      simp [Ne.symm hs]
    have hread : Source.decorated (bound + 1) (statements bound) (us ++ (vs ++ rest))
        = some (.functionDef w.2.text names body, rest) := by
      unfold Source.decorated
      rw [bind_apply, hfound, Option.bind_some, branch_false _ (hskip _ (by decide)).1, bind_apply,
        (hskip _ (by decide)).2, Option.bind_some, hfunction]
    obtain ⟨i, ws, rfl, -⟩ := holds_cons_iff.mp hus
    rw [List.append_assoc]
    exact statement_of_decorated i hread

/-! ## Classes -/

/-- A class without bases and with a decorator. It stands on the line of its first word. -/
theorem statement_of_class (line line' : Nat) (w : Written) (rest : List Token) {us : List Token}
    {ds bs : List Lexeme} (hdecorator : Phrase n ds e) (hbegins : begins ds = true)
    (hbody : Block n bs body) (hbound : n + 1 ≤ bound)
    (hts : Holds ts (.fixed "@" :: (ds ++ [.newline]))) (hus : Holds us (onLines bs)) :
    statement (bound + 1) (statements bound)
        (ts ++ ⟨line, .fixed "class"⟩ :: ⟨line', .name w.1 w.2⟩ :: (us ++ rest))
      = some ([.classDef line w.2 [] [e] body], rest) := by
  have hnext : Heads (· ≠ .fixed "@")
      (⟨line, .fixed "class"⟩ :: ⟨line', .name w.1 w.2⟩ :: (us ++ rest)) := ⟨_, _, rfl, by simp⟩
  have hfound := decorators_of_phrase (bound + 1) hdecorator hbegins (by omega) (by omega) hts hnext
  have hsuite := suite_of_block (bound + 1) rest hbody hbound hus
  have hcolon : accept "(" (us ++ rest) = some (false, us ++ rest) := by
    obtain ⟨i, vs, rfl, -⟩ := holds_cons_iff.mp hus
    simp
  have hclass : classDefinition (bound + 1) (statements bound) [e]
      (⟨line, .fixed "class"⟩ :: ⟨line', .name w.1 w.2⟩ :: (us ++ rest))
      = some (.classDef line w.2 [] [e] body, rest) := by
    simp [classDefinition, hcolon, hsuite]
  have hread : decorated (bound + 1) (statements bound)
      (ts ++ ⟨line, .fixed "class"⟩ :: ⟨line', .name w.1 w.2⟩ :: (us ++ rest))
      = some (.classDef line w.2 [] [e] body, rest) := by
    unfold decorated
    rw [bind_apply, hfound, Option.bind_some,
      branch_true (⟨line, .fixed "class"⟩ :: ⟨line', .name w.1 w.2⟩ :: (us ++ rest)) (by simp),
      hclass]
  obtain ⟨i, ws, rfl, -⟩ := holds_cons_iff.mp hts
  exact statement_of_decorated i hread

end Blocks

end Roster.Source
