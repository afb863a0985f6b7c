import Roster.Source.Expression

/-! # Reading expressions back

Rules for reading tokens, one for each way in which an expression is put together. A rule speaks of the
words alone, so that it holds on whatever lines they stand.

* `Operand`, `Phrase`: words that are read as an operand, and as an expression.
* `Items`: what follows the first item of a list.
-/

namespace Roster.Source

/-! ## Steps -/

namespace Parser

section Steps

variable {α β : Type} (s : String) (t : Token) (ts : List Token)

@[simp] theorem bind_apply (p : Parser α) (f : α → Parser β) :
    (p >>= f) ts = (p ts).bind fun r => f r.1 r.2 := by rfl

@[simp] theorem map_apply (p : Parser α) (f : α → β) :
    (f <$> p) ts = (p ts).map fun r => (f r.1, r.2) := by
  change (p ts).bind (fun r => some (f r.1, r.2)) = _
  cases p ts <;> rfl

@[simp] theorem pure_apply (a : α) : (pure a : Parser α) ts = some (a, ts) := by rfl

@[simp] theorem require_true : require true ts = some ((), ts) := by rfl

@[simp] theorem get_apply : (get : Parser (List Token)) ts = some (ts, ts) := by rfl

@[simp] theorem advance_cons : advance (t :: ts) = some ((), ts) := by rfl

@[simp] theorem peek_apply : peek ts = some (ts.head?.map (·.lexeme), ts) := by rfl

@[simp] theorem peekSecond_apply : peekSecond ts = some (ts[1]?.map (·.lexeme), ts) := by rfl

@[simp] theorem atLexeme_cons (l : Lexeme) :
    atLexeme l (t :: ts) = some (decide (t.lexeme = l), t :: ts) := by
  simp [atLexeme]

@[simp] theorem acceptLexeme_cons (l : Lexeme) :
    acceptLexeme l (t :: ts) = some (if t.lexeme = l then (true, ts) else (false, t :: ts)) := by
  by_cases h : t.lexeme = l <;> simp [acceptLexeme, h]

@[simp] theorem expectLexeme_cons (line : Nat) (l : Lexeme) :
    expectLexeme l (⟨line, l⟩ :: ts) = some ((), ts) := by
  simp [expectLexeme]

@[simp] theorem at?_cons : at? s (t :: ts) = some (decide (t.lexeme = .fixed s), t :: ts) :=
  atLexeme_cons t ts _

@[simp] theorem accept_cons :
    accept s (t :: ts) = some (if t.lexeme = .fixed s then (true, ts) else (false, t :: ts)) :=
  acceptLexeme_cons t ts _

@[simp] theorem expect_cons (line : Nat) : expect s (⟨line, .fixed s⟩ :: ts) = some ((), ts) :=
  expectLexeme_cons ts line _

/-- Whether a word is one of some reserved words and signs. -/
def isAny (ss : List String) : Lexeme → Bool
  | .fixed s => ss.contains s
  | _ => false

@[simp] theorem atAny_cons (ss : List String) :
    atAny ss (t :: ts) = some (isAny ss t.lexeme, t :: ts) := by
  rcases t with ⟨line, l⟩
  cases l <;> simp [atAny, isAny]

@[simp] theorem acceptAny_cons (ss : List String) :
    acceptAny ss (t :: ts) = some (if isAny ss t.lexeme then (true, ts) else (false, t :: ts)) := by
  cases h : isAny ss t.lexeme <;> simp [acceptAny, h]

@[simp] theorem identifier_cons (line : Nat) (written : String) (id : Identifier) :
    identifier (⟨line, .name written id⟩ :: ts) = some (id, ts) := by
  simp [identifier]

@[simp] theorem name_cons (line : Nat) (written : String) (id : Identifier) :
    name (⟨line, .name written id⟩ :: ts) = some (id.text, ts) := by
  simp [name]

end Steps

/-- A way that is not taken. -/
theorem branch_false {α : Type} {b : Parser Bool} {p q : Parser α} {ts : List Token}
    (us : List Token) (h : b ts = some (false, us)) :
    (b >>= fun c => if c = true then p else q) ts = q us := by
  rw [bind_apply, h]
  rfl

/-- A way that is taken. -/
theorem branch_true {α : Type} {b : Parser Bool} {p q : Parser α} {ts : List Token}
    (us : List Token) (h : b ts = some (true, us)) :
    (b >>= fun c => if c = true then p else q) ts = p us := by
  rw [bind_apply, h]
  rfl

theorem iterate_more {α : Type} {step : α → Parser (Option α)} {bound : Nat} {a : α}
    {ts : List Token} (b : α) (us : List Token) (h : step a ts = some (some b, us)) :
    iterate step (bound + 1) a ts = iterate step bound b us := by
  simp [iterate, h]

theorem iterate_stop {α : Type} {step : α → Parser (Option α)} {bound : Nat} {a : α}
    {ts : List Token} (us : List Token) (h : step a ts = some (none, us)) :
    iterate step (bound + 1) a ts = some (a, us) := by
  simp [iterate, h]

end Parser

open Roster.Source.Parser

/-! ## Words on lines -/

/-- Tokens that hold these words, on whatever lines. -/
def Holds (ts : List Token) (ls : List Lexeme) : Prop := ts.map (·.lexeme) = ls

@[simp] theorem holds_nil_iff {ts : List Token} : Holds ts [] ↔ ts = [] := List.map_eq_nil_iff

theorem holds_cons_iff {ts : List Token} {l : Lexeme} {ls : List Lexeme} :
    Holds ts (l :: ls) ↔ ∃ line us, ts = ⟨line, l⟩ :: us ∧ Holds us ls := by
  unfold Holds
  rw [List.map_eq_cons_iff]
  constructor
  · rintro ⟨t, us, rfl, rfl, hus⟩
    exact ⟨t.line, us, rfl, hus⟩
  · rintro ⟨line, us, rfl, hus⟩
    exact ⟨⟨line, l⟩, us, rfl, rfl, hus⟩

theorem holds_append_iff {ts : List Token} {ls ms : List Lexeme} :
    Holds ts (ls ++ ms) ↔ ∃ us vs, ts = us ++ vs ∧ Holds us ls ∧ Holds vs ms :=
  List.map_eq_append_iff

theorem Holds.length {ts : List Token} {ls : List Lexeme} (h : Holds ts ls) :
    ts.length = ls.length := by
  rw [← h, List.length_map]

/-- The words that can follow an expression. -/
def endWords : List String := [")", "]", ",", ":", "="]

/-- The fixed words that can start an operand without a sign. -/
def valueWords : List String := ["(", "[", "None", "..."]

/-- Whether a word can start an operand that has no sign in front. -/
def startsValue : Lexeme → Bool
  | .name _ _ => true
  | .literal _ => true
  | l => isAny valueWords l

/-- Whether a word can follow an expression and is no part of it. -/
def endsExpression : Lexeme → Bool
  | .newline => true
  | l => isAny endWords l

/-- Whether words start like an operand and give no name to a value or an argument. -/
def begins : List Lexeme → Bool
  | [] => false
  | first :: more => startsValue first && !more.head?.any (isAny ["=", ":="])

/-- Tokens whose first word meets a condition. -/
def Heads (p : Lexeme → Bool) (ts : List Token) : Prop := ∃ t us, ts = t :: us ∧ p t.lexeme = true

/-- Words that are none of some words are not read as these. -/
theorem isAny_of_disjoint {l : Lexeme} {ss words : List String} (hs : isAny words l = true)
    (hdisjoint : ∀ s ∈ ss, s ∉ words) : isAny ss l = false := by
  cases l with
  | fixed s =>
    simp only [isAny, List.contains_eq_mem, decide_eq_true_eq, decide_eq_false_iff_not] at hs ⊢
    exact fun hmem => hdisjoint s hmem hs
  | _ => rfl

theorem isAny_of_endsExpression {l : Lexeme} (h : endsExpression l = true) {ss : List String}
    (hss : ∀ s ∈ ss, s ∉ endWords) : isAny ss l = false := by
  cases l with
  | fixed s => exact isAny_of_disjoint h hss
  | _ => rfl

theorem isAny_of_startsValue {l : Lexeme} (h : startsValue l = true) {ss : List String}
    (hss : ∀ s ∈ ss, s ∉ valueWords) : isAny ss l = false := by
  cases l with
  | fixed s => exact isAny_of_disjoint h hss
  | _ => rfl

theorem ne_fixed_of_isAny {l : Lexeme} {s : String} (h : isAny [s] l = false) : l ≠ .fixed s := by
  rintro rfl
  simp [isAny] at h

/-- A word that can follow an expression continues none. -/
theorem ne_of_endsExpression {l : Lexeme} (h : endsExpression l = true) {s : String}
    (hs : s ∉ endWords) : l ≠ .fixed s :=
  ne_fixed_of_isAny (isAny_of_endsExpression h (by simpa using hs))

theorem ne_of_startsValue {l : Lexeme} (h : startsValue l = true) {s : String}
    (hs : s ∉ valueWords) : l ≠ .fixed s :=
  ne_fixed_of_isAny (isAny_of_startsValue h (by simpa using hs))

/-! ## From operands to expressions -/

section Levels

variable {bound : Nat} {sub : Reader} {ts rest : List Token} {e : Expr}

theorem dropAll_none {words : List String} (h : Heads (fun l => !isAny words l) ts) :
    dropAll (bound + 1) words ts = some (false, ts) := by
  obtain ⟨t, us, rfl, ht⟩ := h
  have hnone : isAny words t.lexeme = false := by simpa using ht
  exact iterate_stop _ (by simp [hnone])

/-- An operand without signs in front. -/
theorem signed_of_primary (hstart : Heads startsValue ts)
    (h : primary (bound + 1) sub ts = some (e, rest)) :
    signed (bound + 1) sub ts = some (e, rest) := by
  obtain ⟨t, us, rfl, ht⟩ := hstart
  have hsigns : isAny frontSigns t.lexeme = false := isAny_of_startsValue ht (by decide)
  have hawait : t.lexeme ≠ .fixed "await" := ne_of_startsValue ht (by decide)
  have hdrop : dropAll (bound + 1) frontSigns (t :: us) = some (false, t :: us) :=
    dropAll_none ⟨t, us, rfl, by simp [hsigns]⟩
  simp [signed, hdrop, hawait, h]

/-- An operand that nothing is joined to. -/
theorem sum_of_primary (hstart : Heads startsValue ts)
    (h : primary (bound + 1) sub ts = some (e, rest)) (hends : Heads endsExpression rest) :
    sum (bound + 1) sub ts = some (e, rest) := by
  obtain ⟨t, us, rfl, ht⟩ := hends
  have hjoins : isAny joiningSigns t.lexeme = false := isAny_of_endsExpression ht (by decide)
  simp only [sum, bind_apply, signed_of_primary hstart h, Option.bind_some]
  exact iterate_stop _ (by simp [hjoins])

/-- Two operands that are joined. -/
theorem sum_of_joined {sign : String} (hsign : sign ∈ joiningSigns) {line : Nat}
    {more : List Token} {f : Expr} (hstart : Heads startsValue ts) (hmore : Heads startsValue more)
    (h : primary (bound + 2) sub ts = some (e, ⟨line, .fixed sign⟩ :: more))
    (hf : primary (bound + 2) sub more = some (f, rest)) (hends : Heads endsExpression rest) :
    sum (bound + 2) sub ts = some (.other, rest) := by
  obtain ⟨t, us, rfl, ht⟩ := hends
  have hjoins : isAny joiningSigns t.lexeme = false := isAny_of_endsExpression ht (by decide)
  have hsigns : isAny joiningSigns (.fixed sign) = true := by simpa [isAny] using hsign
  simp only [sum, bind_apply, signed_of_primary hstart h, Option.bind_some]
  rw [iterate_more .other (t :: us)]
  · exact iterate_stop _ (by simp [hjoins])
  · simp [hsigns, signed_of_primary hmore hf]

theorem acceptComparison_none (hends : Heads endsExpression rest) :
    acceptComparison rest = some (false, rest) := by
  obtain ⟨t, us, rfl, ht⟩ := hends
  have hsigns : isAny comparisonSigns t.lexeme = false := isAny_of_endsExpression ht (by decide)
  have hnot : t.lexeme ≠ .fixed "not" := ne_of_endsExpression ht (by decide)
  have his : t.lexeme ≠ .fixed "is" := ne_of_endsExpression ht (by decide)
  simp [acceptComparison, hsigns, hnot, his]

theorem comparison_of_sum (hstart : Heads startsValue ts)
    (h : sum (bound + 1) sub ts = some (e, rest)) (hends : Heads endsExpression rest) :
    comparison (bound + 1) sub ts = some (e, rest) := by
  obtain ⟨t, us, rfl, ht⟩ := hstart
  have hnot : isAny ["not"] t.lexeme = false := isAny_of_startsValue ht (by decide)
  have hdrop : dropAll (bound + 1) ["not"] (t :: us) = some (false, t :: us) :=
    dropAll_none ⟨t, us, rfl, by simp [hnot]⟩
  simp only [comparison, bind_apply, hdrop, h, Option.bind_some]
  rw [iterate_stop rest (by simp [acceptComparison_none hends])]
  rfl

theorem disjunction_of_sum (hstart : Heads startsValue ts)
    (h : sum (bound + 1) sub ts = some (e, rest)) (hends : Heads endsExpression rest) :
    disjunction (bound + 1) sub ts = some (e, rest) := by
  have hcomparison := comparison_of_sum hstart h hends
  obtain ⟨t, us, rfl, ht⟩ := hends
  have hwords : isAny ["and", "or"] t.lexeme = false := isAny_of_endsExpression ht (by decide)
  simp only [disjunction, bind_apply, hcomparison, Option.bind_some]
  exact iterate_stop _ (by simp [hwords])

theorem expression_of_sum (hstart : Heads startsValue ts)
    (h : sum (bound + 1) sub ts = some (e, rest)) (hends : Heads endsExpression rest) :
    expression (bound + 1) sub ts = some (e, rest) := by
  have hdisjunction := disjunction_of_sum hstart h hends
  obtain ⟨t, us, rfl, ht⟩ := hends
  obtain ⟨t', us', rfl, ht'⟩ := hstart
  have hlambda : t'.lexeme ≠ .fixed "lambda" := ne_of_startsValue ht' (by decide)
  have hif : t.lexeme ≠ .fixed "if" := ne_of_endsExpression ht (by decide)
  simp [expression, hlambda, hdisjunction, hif]

end Levels

/-! ## Operands -/

/-- Words that are read as an operand, whatever is attached to it afterwards. The bound has to be at
least `n`, and of the steps for what is attached at most `n` are used up. -/
def Operand (n : Nat) (ls : List Lexeme) (e : Expr) : Prop :=
  ∀ (bound : Nat) (ts rest : List Token), n ≤ bound → Holds ts ls →
    (∀ l, rest.head?.map (·.lexeme) ≠ some (.literal l)) →
    ∃ steps, bound ≤ steps + n ∧ primary (bound + 1) (expressions bound) (ts ++ rest)
      = iterate (trailer? (bound + 1) (expressions bound)) (steps + 1) e rest

/-- Words that are read as an expression where something follows that ends one. -/
def Phrase (n : Nat) (ls : List Lexeme) (e : Expr) : Prop :=
  ∀ (bound : Nat) (ts rest : List Token), n ≤ bound → Holds ts ls → Heads endsExpression rest →
    expressions bound .expression (ts ++ rest) = some (e, rest)

theorem Heads.head?_ne {p : Lexeme → Bool} {ts : List Token} (h : Heads p ts) {l : Lexeme}
    (hl : p l = false) : ts.head?.map (·.lexeme) ≠ some l := by
  obtain ⟨t, us, rfl, ht⟩ := h
  intro heq
  have hfirst : t.lexeme = l := Option.some.inj heq
  rw [hfirst, hl] at ht
  cases ht

theorem Heads.of_holds {p : Lexeme → Bool} {ts : List Token} {l : Lexeme} {ls : List Lexeme}
    (h : Holds ts (l :: ls)) (hl : p l = true) (rest : List Token) : Heads p (ts ++ rest) := by
  obtain ⟨line, us, rfl, -⟩ := holds_cons_iff.mp h
  exact ⟨_, _, rfl, hl⟩

/-- Words that start like an operand do so whatever follows them. -/
theorem heads_of_begins {ts : List Token} {ls : List Lexeme} (h : Holds ts ls)
    (hbegins : begins ls = true) (rest : List Token) : Heads startsValue (ts ++ rest) := by
  cases ls with
  | nil => cases hbegins
  | cons first more =>
    refine .of_holds h ?_ rest
    rw [begins, Bool.and_eq_true] at hbegins
    exact hbegins.1

theorem literalRun_single {bound : Nat} {line : Nat} {l : StringLiteral} {rest : List Token}
    (hrest : ∀ l, rest.head?.map (·.lexeme) ≠ some (.literal l)) :
    literalRun (bound + 2) (⟨line, .literal l⟩ :: rest) = some ((), rest) := by
  unfold literalRun
  rw [iterate_more () rest (by simp)]
  refine iterate_stop _ ?_
  simp only [bind_apply, peek_apply, Option.bind_some]
  rfl

namespace Operand

variable {n : Nat} {ls ms : List Lexeme} {e f : Expr}

theorem name (written : String) (id : Identifier) :
    Operand n [.name written id] (.name id.text) := by
  intro bound ts rest _ hts _
  obtain ⟨line, us, rfl, hus⟩ := holds_cons_iff.mp hts
  obtain rfl := holds_nil_iff.mp hus
  exact ⟨bound, by omega, by simp [primary, atom]⟩

theorem constant {s : String} (hs : s ∈ constants) : Operand n [.fixed s] .other := by
  intro bound ts rest _ hts _
  obtain ⟨line, us, rfl, hus⟩ := holds_cons_iff.mp hts
  obtain rfl := holds_nil_iff.mp hus
  refine ⟨bound, by omega, ?_⟩
  simp only [constants, List.mem_cons, List.not_mem_nil, or_false] at hs
  rcases hs with rfl | rfl | rfl | rfl <;> simp [primary, atom, constants]

theorem literal (l : StringLiteral) : Operand (n + 1) [.literal l] .other := by
  intro bound ts rest hbound hts hrest
  obtain ⟨line, us, rfl, hus⟩ := holds_cons_iff.mp hts
  obtain rfl := holds_nil_iff.mp hus
  obtain ⟨bound, rfl⟩ := Nat.exists_eq_succ_of_ne_zero (n := bound) (by omega)
  have hrun : literalRun (bound + 2) (⟨line, .literal l⟩ :: rest) = some ((), rest) :=
    literalRun_single hrest
  exact ⟨bound + 1, by omega, by simp [primary, atom, hrun]⟩

/-- One thing more that is attached to an operand. -/
theorem attach {trail : List Lexeme} {first : Lexeme} (h : Operand n ls e)
    (htrail : trail.head? = some first) (hfirst : ∀ l, first ≠ .literal l)
    (hread : ∀ (bound : Nat) (ts rest : List Token), n < bound → Holds ts trail →
      trailer? (bound + 1) (expressions bound) e (ts ++ rest) = some (some f, rest)) :
    Operand (n + 1) (ls ++ trail) f := by
  intro bound ts rest hbound hts hrest
  obtain ⟨us, vs, rfl, hus, hvs⟩ := holds_append_iff.mp hts
  -- a literal right behind the operand might go on with its last literal
  have hliteral : ∀ l, (vs ++ rest).head?.map (·.lexeme) ≠ some (.literal l) := by
    intro l
    cases trail with
    | nil => cases htrail
    | cons first' trail =>
      obtain rfl := Option.some.inj htrail
      obtain ⟨line, ws, rfl, -⟩ := holds_cons_iff.mp hvs
      intro heq
      exact hfirst l (Option.some.inj heq)
  obtain ⟨steps, hsteps, hprimary⟩ := h bound us (vs ++ rest) (by omega) hus hliteral
  obtain ⟨steps, rfl⟩ := Nat.exists_eq_succ_of_ne_zero (n := steps) (by omega)
  refine ⟨steps, by omega, ?_⟩
  rw [List.append_assoc, hprimary]
  exact iterate_more f rest (hread bound vs rest hbound hvs)

theorem member (h : Operand n ls e) (written : String) (id : Identifier) :
    Operand (n + 1) (ls ++ [.fixed ".", .name written id]) (.attribute e id.text) := by
  refine h.attach rfl (by simp) ?_
  intro bound ts rest _ hts
  obtain ⟨line, us, rfl, hus⟩ := holds_cons_iff.mp hts
  obtain ⟨line', vs, rfl, hvs⟩ := holds_cons_iff.mp hus
  obtain rfl := holds_nil_iff.mp hvs
  simp [trailer?]

theorem call (h : Operand n ls e) :
    Operand (n + 1) (ls ++ [.fixed "(", .fixed ")"]) (.call e) := by
  refine h.attach rfl (by simp) ?_
  intro bound ts rest _ hts
  obtain ⟨line, us, rfl, hus⟩ := holds_cons_iff.mp hts
  obtain ⟨line', vs, rfl, hvs⟩ := holds_cons_iff.mp hus
  obtain rfl := holds_nil_iff.mp hvs
  simp [trailer?, callTail]

/-- An operand to which nothing more is attached. -/
theorem primary_eq (h : Operand n ls e) (bound : Nat) {ts rest : List Token} (hbound : n ≤ bound)
    (hts : Holds ts ls)
    (hrest : Heads (fun l => endsExpression l || isAny joiningSigns l) rest) :
    primary (bound + 1) (expressions bound) (ts ++ rest) = some (e, rest) := by
  obtain ⟨steps, -, hread⟩ := h bound ts rest hbound hts (fun l => hrest.head?_ne rfl)
  obtain ⟨t, us, rfl, ht⟩ := hrest
  -- the three words that attach something are not among those that can follow
  have hnone : ∀ s ∈ [".", "(", "["], t.lexeme ≠ .fixed s := by
    rintro s hs heq
    rw [heq] at ht
    simp only [List.mem_cons, List.not_mem_nil, or_false] at hs
    rcases hs with rfl | rfl | rfl <;> exact absurd ht (by decide)
  rw [hread]
  refine iterate_stop _ ?_
  simp [trailer?, hnone "." (by simp), hnone "(" (by simp), hnone "[" (by simp)]

end Operand

namespace Phrase

variable {n : Nat} {ls ms : List Lexeme} {e f : Expr}

theorem of_operand (h : Operand n ls e) (hbegins : begins ls = true) : Phrase (n + 1) ls e := by
  intro bound ts rest hbound hts hrest
  obtain ⟨bound, rfl⟩ := Nat.exists_eq_succ_of_ne_zero (n := bound) (by omega)
  have hstart := heads_of_begins hts hbegins rest
  have hends : Heads (fun l => endsExpression l || isAny joiningSigns l) rest := by
    obtain ⟨t, us, rfl, ht⟩ := hrest
    exact ⟨t, us, rfl, by simp [ht]⟩
  exact expression_of_sum hstart
    (sum_of_primary hstart (h.primary_eq bound (by omega) hts hends) hrest) hrest

/-- Two operands with a sign between that joins them. -/
theorem joined {sign : String} (hsign : sign ∈ joiningSigns) (h : Operand n ls e)
    (hf : Operand n ms f) (hls : begins ls = true) (hms : begins ms = true) :
    Phrase (n + 2) (ls ++ .fixed sign :: ms) .other := by
  intro bound ts rest hbound hts hrest
  obtain ⟨bound, rfl⟩ := Nat.exists_eq_add_of_le hbound
  have hsum : n + 2 + bound = bound + n + 1 + 1 := by omega
  obtain ⟨us, vs, rfl, hus, hvs⟩ := holds_append_iff.mp hts
  obtain ⟨line, ws, rfl, hws⟩ := holds_cons_iff.mp hvs
  have hstart := heads_of_begins hus hls (⟨line, .fixed sign⟩ :: ws ++ rest)
  have hmore := heads_of_begins hws hms rest
  have hjoins : isAny joiningSigns (.fixed sign) = true := by simpa [isAny] using hsign
  have hsigned : Heads (fun l => endsExpression l || isAny joiningSigns l)
      (⟨line, .fixed sign⟩ :: ws ++ rest) := ⟨_, _, rfl, by simp [hjoins]⟩
  have hleft := h.primary_eq (bound + n + 1) (by omega) hus hsigned
  have hends : Heads (fun l => endsExpression l || isAny joiningSigns l) rest := by
    obtain ⟨t, us, rfl, ht⟩ := hrest
    exact ⟨t, us, rfl, by simp [ht]⟩
  have hright := hf.primary_eq (bound + n + 1) (by omega) hws hends
  rw [hsum, List.append_assoc]
  exact expression_of_sum hstart (sum_of_joined hsign hstart hmore hleft hright hrest) hrest

end Phrase

/-! ## Items -/

section Items

variable {n : Nat} {ls ms : List Lexeme} {e : Expr} {ts rest : List Token}

/-- No name is given to a value where words begin like an expression. -/
theorem atNameThen_of_begins {s : String} (hs : s ∈ ["=", ":="]) (hts : Holds ts ls)
    (hbegins : begins ls = true) (hrest : rest.head?.map (·.lexeme) ≠ some (.fixed s)) :
    atNameThen s (ts ++ rest) = some (false, ts ++ rest) := by
  cases ls with
  | nil => cases hbegins
  | cons first more =>
    obtain ⟨line, us, rfl, hus⟩ := holds_cons_iff.mp hts
    -- the second word is among the words themselves, or the first one after them
    have hsecond : (us ++ rest).head?.map (·.lexeme) ≠ some (.fixed s) := by
      cases more with
      | nil =>
        obtain rfl := holds_nil_iff.mp hus
        exact hrest
      | cons second more =>
        obtain ⟨line', vs, rfl, -⟩ := holds_cons_iff.mp hus
        intro heq
        obtain rfl : second = .fixed s := Option.some.inj heq
        rw [begins, Bool.and_eq_true] at hbegins
        simp [isAny, hs] at hbegins
    have hpeek : (⟨line, first⟩ :: (us ++ rest) : List Token)[1]? = (us ++ rest).head? := by
      rw [List.getElem?_cons_succ, List.head?_eq_getElem?]
    simp only [atNameThen, List.cons_append, bind_apply, peek_apply, peekSecond_apply,
      Option.bind_some, hpeek, List.head?_cons, Option.map_some]
    generalize (us ++ rest).head?.map (·.lexeme) = second at hsecond
    -- only a name can be given a value, and only by the word behind it
    cases first with
    | name written id =>
      rcases second with _ | (_ | text | _ | _ | _ | _ | _ | _)
      case some.fixed =>
        have hne : s ≠ text := fun heq => hsecond (by rw [heq])
        simp [hne]
      all_goals rfl
    | _ => rfl

theorem named?_of_begins (sub : Reader) (hts : Holds ts ls) (hbegins : begins ls = true)
    (hrest : Heads endsExpression rest) :
    named? sub (ts ++ rest) = some (none, ts ++ rest) := by
  have hname := atNameThen_of_begins (s := ":=") (by simp) hts hbegins (hrest.head?_ne rfl)
  simp [named?, hname]

/-- A reader of the items of a list: it knows where an item starts, and it reads words that begin like
an expression as that expression. -/
structure ReadsItems {α : Type} (n : Nat) (starts : Parser Bool) (item : Parser α)
    (give : Expr → α) : Prop where
  starts_of : ∀ {ts}, Heads startsValue ts → starts ts = some (true, ts)
  stops_at : ∀ {ts}, Heads (isAny [")", "]"]) ts → starts ts = some (false, ts)
  reads : ∀ {ls e}, Phrase n ls e → begins ls = true → ∀ {ts rest}, Holds ts ls →
    Heads (isAny [",", ")", "]"]) rest → item (ts ++ rest) = some (give e, rest)

theorem ends_of_isAny {words : List String} (hwords : ∀ s ∈ words, s ∈ endWords)
    (h : Heads (isAny words) ts) : Heads endsExpression ts := by
  obtain ⟨t, us, rfl, ht⟩ := h
  refine ⟨t, us, rfl, ?_⟩
  rcases t with ⟨line, l⟩
  cases l with
  | fixed s =>
    simp only [isAny, List.contains_eq_mem, decide_eq_true_eq] at ht
    simpa [endsExpression, isAny] using hwords s ht
  | _ => cases ht

theorem startsItem_of_startsValue (h : Heads startsValue ts) : startsItem ts = some (true, ts) := by
  obtain ⟨⟨line, l⟩, us, rfl, ht⟩ := h
  cases l with
  | fixed s =>
    have hs : s ∈ valueWords := by simpa [startsValue, isAny] using ht
    have hmem : ∀ u ∈ valueWords, u ∈ expressionStarts := by decide
    simp [startsItem, hmem s hs]
  | name written id => simp [startsItem]
  | literal l => simp [startsItem]
  | _ => cases ht

theorem startsItem_of_closes (h : Heads (isAny [")", "]"]) ts) :
    startsItem ts = some (false, ts) := by
  obtain ⟨⟨line, l⟩, us, rfl, ht⟩ := h
  cases l with
  | fixed s =>
    have hs : s ∈ [")", "]"] := by simpa [isAny] using ht
    have hnot : ∀ u ∈ [")", "]"], u ∉ expressionStarts := by decide
    simp [startsItem, hnot s hs]
  | _ => cases ht

theorem readsItems_starNamed {bound : Nat} (hbound : n ≤ bound) :
    ReadsItems n startsItem (starNamed (expressions bound)) id where
  starts_of := startsItem_of_startsValue
  stops_at := startsItem_of_closes
  reads := by
    intro ls e h hbegins ts rest hts hrest
    have hends := ends_of_isAny (by decide) hrest
    have hnamed := named?_of_begins (expressions bound) hts hbegins hends
    have hread := h bound ts rest hbound hts hends
    obtain ⟨t, us, heq, ht⟩ := heads_of_begins hts hbegins rest
    have hstar : t.lexeme ≠ .fixed "*" := ne_of_startsValue ht (by decide)
    have haccept : accept "*" (ts ++ rest) = some (false, ts ++ rest) := by
      rw [heq, accept_cons, if_neg hstar]
    simp [starNamed, namedExpression, haccept, hnamed, hread]

theorem readsItems_slice {bound : Nat} (hbound : n ≤ bound) :
    ReadsItems n startsSlice (slice (expressions bound)) (fun _ => ()) where
  starts_of := by
    intro ts h
    have hstarts := startsItem_of_startsValue h
    obtain ⟨t, us, rfl, ht⟩ := h
    have hcolon : t.lexeme ≠ .fixed ":" := ne_of_startsValue ht (by decide)
    simp [startsSlice, hcolon, hstarts]
  stops_at := by
    intro ts h
    have hstops := startsItem_of_closes h
    obtain ⟨t, us, rfl, ht⟩ := h
    have hcolon : t.lexeme ≠ .fixed ":" := ne_fixed_of_isAny (isAny_of_disjoint ht (by decide))
    simp [startsSlice, hcolon, hstops]
  reads := by
    intro ls e h hbegins ts rest hts hrest
    -- an item of a slice ends at a comma or the bracket, and no colon stands in it
    have hends := ends_of_isAny (by decide) hrest
    have hnamed := named?_of_begins (expressions bound) hts hbegins hends
    have hread := h bound ts rest hbound hts hends
    obtain ⟨t, us, heq, ht⟩ := heads_of_begins hts hbegins rest
    obtain ⟨t', us', rfl, ht'⟩ := hrest
    have hstar : t.lexeme ≠ .fixed "*" := ne_of_startsValue ht (by decide)
    have hcolon : t.lexeme ≠ .fixed ":" := ne_of_startsValue ht (by decide)
    have hcolon' : t'.lexeme ≠ .fixed ":" := ne_fixed_of_isAny (isAny_of_disjoint ht' (by decide))
    have haccept : ∀ s, t.lexeme ≠ .fixed s →
        accept s (ts ++ t' :: us') = some (false, ts ++ t' :: us') := by
      intro s hs
      rw [heq, accept_cons, if_neg hs]
    simp [slice, haccept "*" hstar, haccept ":" hcolon, hnamed, hread, hcolon']

/-- The words behind the first item of a list: each item has a comma in front, and one more comma may
stand behind the last. -/
inductive Items (n : Nat) : List Lexeme → List Expr → Prop where
  | nil : Items n [] []
  | comma : Items n [.fixed ","] []
  | more {ls ms : List Lexeme} {e : Expr} {es : List Expr} (h : Phrase n ls e)
      (hbegins : begins ls = true) (hmore : Items n ms es) :
      Items n (.fixed "," :: (ls ++ ms)) (e :: es)

theorem Items.heads {es : List Expr} (h : Items n ls es) (hts : Holds ts ls)
    (hrest : Heads (isAny [")", "]"]) rest) : Heads (isAny [",", ")", "]"]) (ts ++ rest) := by
  cases h with
  | nil =>
    obtain rfl := holds_nil_iff.mp hts
    obtain ⟨t, us, rfl, ht⟩ := hrest
    refine ⟨t, us, rfl, ?_⟩
    rcases t with ⟨line, l⟩
    cases l with
    | fixed s =>
      simp only [isAny, List.contains_eq_mem, decide_eq_true_eq] at ht ⊢
      exact List.mem_cons_of_mem _ ht
    | _ => cases ht
  | comma => exact .of_holds hts rfl rest
  | more _ _ _ => exact .of_holds hts rfl rest

theorem Items.commaTail {α : Type} {starts : Parser Bool} {item : Parser α} {give : Expr → α}
    (hitems : ReadsItems n starts item give) {es : List Expr} (h : Items n ls es) (bound : Nat)
    (hbound : es.length < bound) (hts : Holds ts ls) (hrest : Heads (isAny [")", "]"]) rest) :
    ∃ comma, Parser.commaTail starts item bound (ts ++ rest)
      = some ((es.map give, comma), rest) := by
  induction h generalizing bound ts with
  | nil =>
    obtain ⟨bound, rfl⟩ := Nat.exists_eq_succ_of_ne_zero (Nat.ne_zero_of_lt hbound)
    obtain rfl := holds_nil_iff.mp hts
    obtain ⟨t, us, rfl, ht⟩ := hrest
    have hcomma : t.lexeme ≠ .fixed "," := ne_fixed_of_isAny (isAny_of_disjoint ht (by decide))
    exact ⟨false, by simp [Parser.commaTail, hcomma]⟩
  | comma =>
    obtain ⟨bound, rfl⟩ := Nat.exists_eq_succ_of_ne_zero (Nat.ne_zero_of_lt hbound)
    obtain ⟨line, us, rfl, hus⟩ := holds_cons_iff.mp hts
    obtain rfl := holds_nil_iff.mp hus
    exact ⟨true, by simp [Parser.commaTail, hitems.stops_at hrest]⟩
  | @more ls ms e es hphrase hbegins hmore ih =>
    obtain ⟨bound, rfl⟩ := Nat.exists_eq_succ_of_ne_zero (Nat.ne_zero_of_lt hbound)
    obtain ⟨line, us, rfl, hus⟩ := holds_cons_iff.mp hts
    obtain ⟨vs, ws, rfl, hvs, hws⟩ := holds_append_iff.mp hus
    obtain ⟨comma, hlater⟩ := ih bound (by simpa using hbound) hws
    have hread := hitems.reads hphrase hbegins hvs (hmore.heads hws hrest)
    have hstarts := hitems.starts_of (heads_of_begins hvs hbegins (ws ++ rest))
    refine ⟨true, ?_⟩
    simp [Parser.commaTail, hstarts, hread, hlater]

end Items

namespace Operand

variable {n : Nat} {ls ms us : List Lexeme} {e f : Expr} {es : List Expr}

/-- Brackets around nothing. -/
theorem unit : Operand n [.fixed "(", .fixed ")"] (.tuple []) := by
  intro bound ts rest _ hts _
  obtain ⟨line, us, rfl, hus⟩ := holds_cons_iff.mp hts
  obtain ⟨line', vs, rfl, hvs⟩ := holds_cons_iff.mp hus
  obtain rfl := holds_nil_iff.mp hvs
  exact ⟨bound, by omega, by simp [primary, atom, roundTail]⟩

/-- Items in brackets with a comma between or behind them. -/
theorem tuple (h : Phrase n ls e) (hbegins : begins ls = true) (hitems : Items n ms es)
    (hms : ms ≠ []) (hlength : es.length ≤ n) :
    Operand n (.fixed "(" :: (ls ++ (ms ++ [.fixed ")"]))) (.tuple (e :: es)) := by
  intro bound ts rest hbound hts _
  obtain ⟨line, us, rfl, hus⟩ := holds_cons_iff.mp hts
  obtain ⟨vs, ws, rfl, hvs, hws⟩ := holds_append_iff.mp hus
  obtain ⟨xs, ys, rfl, hxs, hys⟩ := holds_append_iff.mp hws
  obtain ⟨line', zs, rfl, hzs⟩ := holds_cons_iff.mp hys
  obtain rfl := holds_nil_iff.mp hzs
  have hclose : Heads (isAny [")", "]"]) (⟨line', .fixed ")"⟩ :: rest) := ⟨_, _, rfl, rfl⟩
  obtain ⟨comma, htail⟩ := hitems.commaTail (readsItems_starNamed hbound) (bound + 1)
    (by omega) hxs hclose
  have hfirst := (readsItems_starNamed hbound).reads h hbegins hvs (hitems.heads hxs hclose)
  -- the word behind the first item is a comma
  obtain ⟨line'', as, hcomma⟩ : ∃ line as, xs = ⟨line, .fixed ","⟩ :: as := by
    cases hitems with
    | nil => exact absurd rfl hms
    | comma =>
      obtain ⟨line, as, rfl, -⟩ := holds_cons_iff.mp hxs
      exact ⟨line, as, rfl⟩
    | more _ _ _ =>
      obtain ⟨line, as, rfl, -⟩ := holds_cons_iff.mp hxs
      exact ⟨line, as, rfl⟩
  obtain ⟨t, bs, heq, ht⟩ := heads_of_begins hvs hbegins (xs ++ ⟨line', .fixed ")"⟩ :: rest)
  have hround : t.lexeme ≠ .fixed ")" := ne_of_startsValue ht (by decide)
  have hyield : t.lexeme ≠ .fixed "yield" := ne_of_startsValue ht (by decide)
  have haccept : accept ")" (vs ++ (xs ++ ⟨line', .fixed ")"⟩ :: rest))
      = some (false, vs ++ (xs ++ ⟨line', .fixed ")"⟩ :: rest)) := by
    rw [heq, accept_cons, if_neg hround]
  have hat : ∀ s, at? s (vs ++ (xs ++ ⟨line', .fixed ")"⟩ :: rest))
      = some (decide (t.lexeme = .fixed s), vs ++ (xs ++ ⟨line', .fixed ")"⟩ :: rest)) := by
    intro s
    rw [heq, at?_cons]
  have hat' : at? "," (xs ++ ⟨line', .fixed ")"⟩ :: rest)
      = some (true, xs ++ ⟨line', .fixed ")"⟩ :: rest) := by
    rw [hcomma]
    simp
  refine ⟨bound, by omega, ?_⟩
  simp [primary, atom, roundTail, haccept, hat, hyield, hfirst, hat', htail]

/-- A list of one item. -/
theorem list (h : Phrase n ls e) (hbegins : begins ls = true) :
    Operand n (.fixed "[" :: (ls ++ [.fixed "]"])) (.list [e]) := by
  intro bound ts rest hbound hts _
  obtain ⟨line, us, rfl, hus⟩ := holds_cons_iff.mp hts
  obtain ⟨vs, ws, rfl, hvs, hws⟩ := holds_append_iff.mp hus
  obtain ⟨line', xs, rfl, hxs⟩ := holds_cons_iff.mp hws
  obtain rfl := holds_nil_iff.mp hxs
  have hclose : Heads (isAny [",", ")", "]"]) (⟨line', .fixed "]"⟩ :: rest) := ⟨_, _, rfl, rfl⟩
  have hfirst := (readsItems_starNamed hbound).reads h hbegins hvs hclose
  obtain ⟨t, bs, heq, ht⟩ := heads_of_begins hvs hbegins (⟨line', .fixed "]"⟩ :: rest)
  have hsquare : t.lexeme ≠ .fixed "]" := ne_of_startsValue ht (by decide)
  have hstar : t.lexeme ≠ .fixed "*" := ne_of_startsValue ht (by decide)
  have haccept : accept "]" (vs ++ ⟨line', .fixed "]"⟩ :: rest)
      = some (false, vs ++ ⟨line', .fixed "]"⟩ :: rest) := by
    rw [heq, accept_cons, if_neg hsquare]
  have hat : at? "*" (vs ++ ⟨line', .fixed "]"⟩ :: rest)
      = some (false, vs ++ ⟨line', .fixed "]"⟩ :: rest) := by
    rw [heq, at?_cons]
    simp [hstar]
  refine ⟨bound, by omega, ?_⟩
  simp [primary, atom, squareTail, haccept, hat, hfirst, atClause, Parser.commaTail]

/-- A call with one argument. -/
theorem callWith (h : Operand n ls e) (hf : Phrase n ms f) (hbegins : begins ms = true) :
    Operand (n + 1) (ls ++ .fixed "(" :: (ms ++ [.fixed ")"])) (.call e) := by
  refine h.attach rfl (by simp) ?_
  intro bound ts rest hbound hts
  obtain ⟨line, us, rfl, hus⟩ := holds_cons_iff.mp hts
  obtain ⟨vs, ws, rfl, hvs, hws⟩ := holds_append_iff.mp hus
  obtain ⟨line', xs, rfl, hxs⟩ := holds_cons_iff.mp hws
  obtain rfl := holds_nil_iff.mp hxs
  have hclose : Heads endsExpression (⟨line', .fixed ")"⟩ :: rest) := ⟨_, _, rfl, rfl⟩
  have hread := hf bound vs (⟨line', .fixed ")"⟩ :: rest) (by omega) hvs hclose
  have hnamed := named?_of_begins (expressions bound) hvs hbegins hclose
  have hround : (⟨line', .fixed ")"⟩ :: rest).head?.map (·.lexeme) ≠ some (.fixed "=") := by simp
  have hkeyword := atNameThen_of_begins (by simp) hvs hbegins hround
  obtain ⟨t, bs, heq, ht⟩ := heads_of_begins hvs hbegins (⟨line', .fixed ")"⟩ :: rest)
  have haccept : ∀ s, s ∉ valueWords → accept s (vs ++ ⟨line', .fixed ")"⟩ :: rest)
      = some (false, vs ++ ⟨line', .fixed ")"⟩ :: rest) := by
    intro s hs
    rw [heq, accept_cons, if_neg (ne_of_startsValue ht hs)]
  -- the argument stands without stars and without a name
  have hargument : argument (expressions bound) ⟨.plain, []⟩ (vs ++ ⟨line', .fixed ")"⟩ :: rest)
      = some (⟨.plain, [f]⟩, ⟨line', .fixed ")"⟩ :: rest) := by
    simp [argument, haccept "**" (by decide), haccept "*" (by decide), hkeyword, namedExpression,
      hnamed, hread]
  have htail : argumentsTail (bound + 1) (expressions bound) ⟨.plain, [f]⟩
      (⟨line', .fixed ")"⟩ :: rest) = some ([f], rest) := by
    simp only [argumentsTail, bind_apply]
    rw [iterate_stop (⟨line', .fixed ")"⟩ :: rest) (by simp)]
    simp
  have hcall : callTail (bound + 1) (expressions bound) (vs ++ ⟨line', .fixed ")"⟩ :: rest)
      = some ((), rest) := by
    cases f <;> simp [callTail, haccept ")" (by decide), hargument, htail, atClause]
  simp [trailer?, hcall]

/-- Items that are taken of an operand. -/
theorem items (h : Operand n ls e) (hf : Phrase n us f) (hbegins : begins us = true)
    (hitems : Items n ms es) (hlength : es.length ≤ n) :
    Operand (n + 1) (ls ++ .fixed "[" :: (us ++ (ms ++ [.fixed "]"]))) (.item e) := by
  refine h.attach rfl (by simp) ?_
  intro bound ts rest hbound hts
  obtain ⟨line, vs, rfl, hvs⟩ := holds_cons_iff.mp hts
  obtain ⟨ws, xs, rfl, hws, hxs⟩ := holds_append_iff.mp hvs
  obtain ⟨ys, zs, rfl, hys, hzs⟩ := holds_append_iff.mp hxs
  obtain ⟨line', as, rfl, has⟩ := holds_cons_iff.mp hzs
  obtain rfl := holds_nil_iff.mp has
  have hslice := readsItems_slice (Nat.le_of_succ_le hbound)
  have hclose : Heads (isAny [")", "]"]) (⟨line', .fixed "]"⟩ :: rest) := ⟨_, _, rfl, rfl⟩
  have hfirst := hslice.reads hf hbegins hws (hitems.heads hys hclose)
  obtain ⟨comma, htail⟩ := hitems.commaTail hslice (bound + 1) (by omega) hys hclose
  simp [trailer?, commaList, hfirst, htail]

end Operand

/-! ## Expressions of a statement -/

/-- An expression of its own, without a comma after it. -/
theorem starExpressions_of_phrase {n : Nat} (bound : Nat) {ls : List Lexeme} {e : Expr}
    {ts rest : List Token} (h : Phrase n ls e) (hbegins : begins ls = true) (hbound : n ≤ bound)
    (hpositive : 0 < bound) (hts : Holds ts ls)
    (hrest : Heads (fun l => endsExpression l && !isAny [","] l) rest) :
    starExpressions bound (expressions bound) (ts ++ rest) = some (e, rest) := by
  obtain ⟨bound, rfl⟩ := Nat.exists_eq_succ_of_ne_zero (Nat.ne_zero_of_lt hpositive)
  obtain ⟨t, us, heq, ht⟩ := heads_of_begins hts hbegins rest
  obtain ⟨t', us', rfl, ht'⟩ := hrest
  rw [Bool.and_eq_true, Bool.not_eq_true'] at ht'
  have hread := h _ ts (t' :: us') hbound hts ⟨_, _, rfl, ht'.1⟩
  have hcomma : t'.lexeme ≠ .fixed "," := ne_fixed_of_isAny ht'.2
  have hstar : t.lexeme ≠ .fixed "*" := ne_of_startsValue ht (by decide)
  have haccept : accept "*" (ts ++ t' :: us') = some (false, ts ++ t' :: us') := by
    rw [heq, accept_cons, if_neg hstar]
  simp [starExpressions, commaList, starExpression, haccept, hread, Parser.commaTail, hcomma]

end Roster.Source
