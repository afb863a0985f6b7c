import Mathlib.Data.List.Basic
import Roster.Ignore
import Roster.Proofs.Splitting

/-! # Anchored rules of one component

A rule that starts with a slash and has no other one, but for one at its end, is meant for what lies
directly below the root. Its wildcard is tried on whole paths, though, and a star, a question mark or a
set stands for a slash as for any other character. So such a rule also reaches deeper paths: those that
its pattern can be laid over so that a wildcard comes to stand on the first slash.

* `Wildcard.matches_append_cons_iff`: how a pattern matches a text with a given character in it.
* `Wildcard.matches_of_confined`: a pattern of which only stars at its end can stand for a slash.
* `anchored_matches_iff`: which paths an anchored rule of one component matches, and for which
  patterns all of them have a first component that the pattern matches.
-/

namespace Roster

namespace Wildcard

/-! ## Patterns over a character -/

/-- A pattern is laid over `first`, a character and `rest`: one of its pieces stands for the character,
the pieces before it match what comes before, and the pieces after it what comes after. A star may
stand for more on both sides. -/
inductive Crosses (c : Char) : List Piece → List Char → List Char → Prop where
  | single (before : List Piece) {after : List Piece} {p : Piece} {first rest : List Char}
      (hp : p.accepts c = true) (hbefore : Matches before first) (hafter : Matches after rest) :
      Crosses c (before ++ p :: after) first rest
  | star (before : List Piece) {after : List Piece} {first rest : List Char}
      (hbefore : Matches (before ++ [.star]) first) (hafter : Matches (.star :: after) rest) :
      Crosses c (before ++ .star :: after) first rest

variable {c : Char} {ps qs : List Piece} {p : Piece} {cs ds first rest : List Char}

theorem Matches.append (h : Matches ps cs) (h' : Matches qs ds) :
    Matches (ps ++ qs) (cs ++ ds) := by
  induction h with
  | nil => exact h'
  | single hp _ ih => exact .single hp ih
  | starEnd _ ih => exact .starEnd ih
  | starStep _ ih => exact .starStep ih

/-- A star in front may stand for more. -/
theorem Matches.star_before (cs : List Char) (h : Matches (.star :: qs) ds) :
    Matches (.star :: qs) (cs ++ ds) := by
  induction cs with
  | nil => exact h
  | cons c cs ih => exact .starStep ih

/-- What a star has begun it may go on with. -/
theorem Matches.star_append (h : Matches (ps ++ [.star]) cs) (h' : Matches (.star :: qs) ds) :
    Matches (ps ++ .star :: qs) (cs ++ ds) := by
  generalize hpieces : ps ++ [Piece.star] = pieces at h
  -- on how the first pattern matches; the star is the last piece of it
  induction h generalizing ps with
  | nil => simp at hpieces
  | @single p e pieces es hp hes ih =>
    cases ps with
    | nil =>
      obtain ⟨rfl, -⟩ := List.cons.inj hpieces
      cases hp
    | cons q ps =>
      obtain ⟨rfl, htail⟩ := List.cons.inj hpieces
      exact .single hp (ih htail)
  | @starEnd pieces es hes ih =>
    cases ps with
    | nil =>
      -- the star is the last piece of the first pattern, and goes on with the second text
      exact h'.star_before es
    | cons q ps =>
      obtain ⟨rfl, htail⟩ := List.cons.inj hpieces
      exact .starEnd (ih htail)
  | @starStep pieces e es hes ih =>
    have hgoes := ih hpieces
    cases ps with
    | nil => exact .starStep hgoes
    | cons q ps =>
      obtain ⟨rfl, -⟩ := List.cons.inj hpieces
      exact .starStep hgoes

theorem Crosses.cons (h : Crosses c ps first rest) {d : Char} (hp : p.accepts d = true) :
    Crosses c (p :: ps) (d :: first) rest := by
  cases h with
  | single before hq hbefore hafter => exact .single (p :: before) hq (.single hp hbefore) hafter
  | star before hbefore hafter => exact .star (p :: before) (.single hp hbefore) hafter

theorem Crosses.starEnd (h : Crosses c ps first rest) : Crosses c (.star :: ps) first rest := by
  cases h with
  | single before hq hbefore hafter =>
    exact .single (.star :: before) hq (.starEnd hbefore) hafter
  | star before hbefore hafter => exact .star (.star :: before) (.starEnd hbefore) hafter

theorem Crosses.starStep (h : Crosses c (.star :: ps) first rest) (d : Char) :
    Crosses c (.star :: ps) (d :: first) rest := by
  generalize hpieces : Piece.star :: ps = pieces at h
  cases h with
  | single before hq hbefore hafter =>
    cases before with
    | nil =>
      obtain ⟨rfl, -⟩ := List.cons.inj hpieces
      cases hq
    | cons b before =>
      obtain ⟨rfl, -⟩ := List.cons.inj hpieces
      exact .single (.star :: before) hq (.starStep hbefore) hafter
  | star before hbefore hafter =>
    cases before with
    | nil => exact .star [] (.starStep hbefore) hafter
    | cons b before =>
      obtain ⟨rfl, -⟩ := List.cons.inj hpieces
      exact .star (.star :: before) (.starStep hbefore) hafter

/-- A text with a character in it is matched exactly by the patterns of which a piece can stand for
that character. -/
theorem matches_append_cons_iff :
    Matches ps (first ++ c :: rest) ↔ Crosses c ps first rest := by
  constructor
  · intro h
    generalize htext : first ++ c :: rest = text at h
    -- on how the pattern matches the text; the character is its first one, or further on
    induction h generalizing first with
    | nil => simp at htext
    | single hp hrest ih =>
      cases first with
      | nil =>
        obtain ⟨rfl, rfl⟩ := List.cons.inj htext
        exact .single [] hp .nil hrest
      | cons d first =>
        obtain ⟨rfl, htail⟩ := List.cons.inj htext
        exact (ih htail).cons hp
    | starEnd _ ih => exact (ih htext).starEnd
    | starStep hrest ih =>
      cases first with
      | nil =>
        obtain ⟨rfl, rfl⟩ := List.cons.inj htext
        exact .star [] (.starEnd .nil) hrest
      | cons d first =>
        obtain ⟨rfl, htail⟩ := List.cons.inj htext
        exact (ih htail).starStep d
  · intro h
    cases h with
    | single before hp hbefore hafter => exact hbefore.append (.single hp hafter)
    | star before hbefore hafter => exact hbefore.star_append (.starStep hafter)

/-! ## Patterns that stay in front of a character -/

/-- No piece of the pattern stands for the character, but for stars at its end. -/
def Confined (c : Char) (ps : List Piece) : Prop :=
  ∃ letters stars, ps = letters ++ List.replicate stars .star ∧
    ∀ p ∈ letters, p ≠ .star ∧ p.accepts c = false

theorem matches_stars (n : Nat) (cs : List Char) : Matches (List.replicate (n + 1) .star) cs := by
  induction cs with
  | nil =>
    induction n with
    | zero => exact .starEnd .nil
    | succ n ih => exact .starEnd ih
  | cons c cs ih => exact .starStep ih

/-- A text that a confined pattern matches may be cut off at any such character. -/
theorem matches_of_confined (hconfined : Confined c ps) (h : Matches ps (first ++ c :: rest)) :
    Matches ps first := by
  obtain ⟨letters, stars, rfl, hletters⟩ := hconfined
  -- the letters match one character each, and none of them stands for `c`
  induction letters generalizing first with
  | nil =>
    cases stars with
    | zero =>
      generalize htext : first ++ c :: rest = text at h
      cases h
      simp at htext
    | succ stars => exact matches_stars stars first
  | cons p letters ih =>
    rw [List.forall_mem_cons] at hletters
    obtain ⟨⟨hstar, hslash⟩, hletters⟩ := hletters
    generalize htext : first ++ c :: rest = text at h
    cases h with
    | @single _ d _ _ hp hrest =>
      cases first with
      | nil =>
        obtain ⟨rfl, -⟩ := List.cons.inj htext
        rw [hslash] at hp
        cases hp
      | cons e first =>
        obtain ⟨rfl, rfl⟩ := List.cons.inj htext
        exact .single hp (ih hletters hrest)
    | starEnd => exact absurd rfl hstar
    | starStep => exact absurd rfl hstar

end Wildcard

/-! ## Anchored rules -/

/-- The first component of a path. -/
def firstComponent (path : String) : String := (splitText '/' path).headD ""

theorem firstComponent_of_notMem {path : String} (h : '/' ∉ path.toList) :
    firstComponent path = path := by
  rw [firstComponent, splitText_of_notMem h, List.headD_cons]

theorem firstComponent_append {first : String} (h : '/' ∉ first.toList) (rest : String) :
    firstComponent (first ++ "/" ++ rest) = first := by
  have hslash : ("/" : String) = String.singleton '/' := rfl
  rw [firstComponent, hslash, splitText_append, splitText_of_notMem h, List.singleton_append,
    List.headD_cons]

/-- A path has no more than one first component and one rest. -/
theorem append_slash_inj {first rest first' rest' : String} (hfirst : '/' ∉ first.toList)
    (hfirst' : '/' ∉ first'.toList) (h : first ++ "/" ++ rest = first' ++ "/" ++ rest') :
    first = first' ∧ rest = rest' := by
  have heq := congrArg firstComponent h
  rw [firstComponent_append hfirst, firstComponent_append hfirst'] at heq
  subst heq
  exact ⟨rfl, String.append_right_inj _ |>.mp h⟩

/-- A path has one component, or a first one and a rest. -/
theorem component_cases (path : String) :
    '/' ∉ path.toList ∨ ∃ first rest, path = first ++ "/" ++ rest ∧ '/' ∉ first.toList := by
  by_cases h : '/' ∈ path.toList
  · obtain ⟨first, rest, hpath, hfirst⟩ := List.eq_append_cons_of_mem h
    refine .inr ⟨String.ofList first, String.ofList rest, ?_, by rwa [String.toList_ofList]⟩
    apply String.toList_injective
    simp [hpath]
  · exact .inl h

namespace IgnoreRule

theorem withoutFinalSlash_append (s : String) : withoutFinalSlash (s ++ "/") = (s, true) := by
  simp [withoutFinalSlash]

theorem withoutFinalSlash_of_getLast? {s : String} (h : s.toList.getLast? ≠ some '/') :
    withoutFinalSlash s = (s, false) := by
  unfold withoutFinalSlash
  split
  · rename_i rest hreverse
    rw [← List.head?_reverse, hreverse] at h
    exact absurd List.head?_cons h
  · rfl

theorem withoutFirstSlash_append (s : String) : withoutFirstSlash ("/" ++ s) = (s, true) := by
  simp [withoutFirstSlash]

end IgnoreRule

variable {text body ending : String}

/-- The rule of a slash, a text without slashes, and maybe another slash. A slash alone, or two, are a
rule that matches nothing. -/
theorem ofPattern?_anchored (htext : Text.trimmed text = "/" ++ body ++ ending)
    (hending : ending = "" ∨ ending = "/") (hbody : '/' ∉ body.toList) (negated : Bool) :
    ∃ rule, IgnoreRule.ofPattern? text negated = some rule ∧ rule.pattern = body ∧
      (body ≠ "" → rule.anchored = true ∧ rule.directoryOnly = decide (ending = "/")) := by
  have hne : Text.trimmed text ≠ "" := by
    rw [htext]
    intro hempty
    have hlist := congrArg String.toList hempty
    simp at hlist
  by_cases hnone : body = ""
  · subst hnone
    rw [IgnoreRule.ofPattern?, if_neg hne, htext]
    rcases hending with rfl | rfl
    · exact ⟨_, rfl, rfl, fun h => absurd rfl h⟩
    · exact ⟨_, rfl, rfl, fun h => absurd rfl h⟩
  · have hlast : IgnoreRule.withoutFinalSlash ("/" ++ body ++ ending)
        = ("/" ++ body, decide (ending = "/")) := by
      rcases hending with rfl | rfl
      · have hchars : body.toList ≠ [] := by simpa using hnone
        rw [String.append_empty]
        refine IgnoreRule.withoutFinalSlash_of_getLast? fun hslash => hbody ?_
        rw [String.toList_append, List.getLast?_append_of_ne_nil _ hchars] at hslash
        exact List.mem_of_getLast? hslash
      · exact IgnoreRule.withoutFinalSlash_append _
    refine ⟨⟨body, decide (ending = "/"), true, negated, body.contains '/'⟩, ?_, rfl,
      fun _ => ⟨rfl, rfl⟩⟩
    rw [IgnoreRule.ofPattern?, if_neg hne, htext]
    simp only [hlast, IgnoreRule.withoutFirstSlash_append]

/-- An anchored rule tries its wildcard on the whole path; a rule for directories also takes its pattern
as it is written for the first component. -/
theorem matchesPath_anchored_iff {rule : IgnoreRule} (hne : rule.pattern ≠ "")
    (hanchored : rule.anchored = true) (path : String) (isDirectory : Bool) :
    rule.matchesPath path isDirectory = true ↔
      (rule.directoryOnly = true → isDirectory = true) ∧
        (Wildcard.matchesText rule.pattern path = true ∨
          rule.directoryOnly = true ∧ (rule.pattern ++ "/").toList <+: path.toList) := by
  unfold IgnoreRule.matchesPath
  cases rule.directoryOnly <;> cases isDirectory <;>
    simp [hne, hanchored, List.isPrefixOf_iff_prefix]

/-- A wildcard on a path of several components. -/
theorem matchesText_append_slash_iff (pattern first rest : String) :
    Wildcard.matchesText pattern (first ++ "/" ++ rest) = true ↔
      Wildcard.Crosses '/' (Wildcard.parse pattern) first.toList rest.toList := by
  have hchars : (first ++ "/" ++ rest).toList = first.toList ++ '/' :: rest.toList := by simp
  rw [Wildcard.matchesText_iff, hchars, Wildcard.matches_append_cons_iff]

theorem starts_slashed_iff {first : String} (hbody : '/' ∉ body.toList) (hfirst : '/' ∉ first.toList)
    (rest : String) : (body ++ "/").toList <+: (first ++ "/" ++ rest).toList ↔ first = body := by
  constructor
  · rintro ⟨more, hmore⟩
    have hpath : body ++ "/" ++ String.ofList more = first ++ "/" ++ rest :=
      String.toList_injective (by rw [String.toList_append, String.toList_ofList, hmore])
    exact (append_slash_inj hbody hfirst hpath).1.symm
  · rintro rfl
    have hchars : (first ++ "/" ++ rest).toList = (first ++ "/").toList ++ rest.toList :=
      String.toList_append
    rw [hchars]
    exact List.prefix_append _ _

theorem not_starts_slashed {path : String} (h : '/' ∉ path.toList) :
    ¬ (body ++ "/").toList <+: path.toList := by
  intro hstarts
  refine h (hstarts.subset ?_)
  rw [String.toList_append]
  exact List.mem_append_right _ List.mem_cons_self

/-- What an anchored rule of one component matches. A path of one component it matches by its wildcard;
a longer one where the wildcard can be laid over it so that one of its pieces stands for the first
slash, or, if the rule is for directories, where the first component is written like the pattern.

So the first component of each path that the rule matches is one that the pattern matches, provided
that no piece of the pattern but a star at its end stands for a slash and that, in a rule for
directories, the pattern matches itself. -/
theorem anchored_matches_iff (htext : Text.trimmed text = "/" ++ body ++ ending)
    (hending : ending = "" ∨ ending = "/") (hbody : '/' ∉ body.toList) (negated : Bool) :
    ∃ rule, IgnoreRule.ofPattern? text negated = some rule ∧
      (∀ path isDirectory, rule.matchesPath path isDirectory = true ↔
        body ≠ "" ∧ (ending = "/" → isDirectory = true) ∧
          ('/' ∉ path.toList ∧ Wildcard.matchesText body path = true ∨
            ∃ first rest, path = first ++ "/" ++ rest ∧ '/' ∉ first.toList ∧
              (Wildcard.Crosses '/' (Wildcard.parse body) first.toList rest.toList ∨
                ending = "/" ∧ first = body))) ∧
      (Wildcard.Confined '/' (Wildcard.parse body) →
        (ending = "/" → Wildcard.matchesText body body = true) →
        ∀ path isDirectory, rule.matchesPath path isDirectory = true →
          Wildcard.matchesText body (firstComponent path) = true) := by
  obtain ⟨rule, hrule, rfl, hflags⟩ := ofPattern?_anchored htext hending hbody negated
  have hexact : ∀ path isDirectory, rule.matchesPath path isDirectory = true ↔
      rule.pattern ≠ "" ∧ (ending = "/" → isDirectory = true) ∧
        ('/' ∉ path.toList ∧ Wildcard.matchesText rule.pattern path = true ∨
          ∃ first rest, path = first ++ "/" ++ rest ∧ '/' ∉ first.toList ∧
            (Wildcard.Crosses '/' (Wildcard.parse rule.pattern) first.toList rest.toList ∨
              ending = "/" ∧ first = rule.pattern)) := by
    intro path isDirectory
    by_cases hne : rule.pattern = ""
    · simp [IgnoreRule.matchesPath, hne]
    obtain ⟨hanchored, hdirectory⟩ := hflags hne
    rw [matchesPath_anchored_iff hne hanchored, hdirectory, decide_eq_true_eq]
    simp only [ne_eq, hne, not_false_eq_true, true_and]
    refine and_congr_right fun _ => ?_
    rcases component_cases path with hone | ⟨first, rest, rfl, hfirst⟩
    · constructor
      · rintro (hwild | ⟨-, hstarts⟩)
        · exact .inl ⟨hone, hwild⟩
        · exact absurd hstarts (not_starts_slashed hone)
      · rintro (⟨-, hwild⟩ | ⟨first, rest, rfl, -, -⟩)
        · exact .inl hwild
        · simp at hone
    · rw [matchesText_append_slash_iff, starts_slashed_iff hbody hfirst]
      constructor
      · intro h
        exact .inr ⟨first, rest, rfl, hfirst, h⟩
      · rintro (⟨hone, -⟩ | ⟨first', rest', hpath, hfirst', h⟩)
        · simp at hone
        · obtain ⟨rfl, rfl⟩ := append_slash_inj hfirst hfirst' hpath
          exact h
  refine ⟨rule, hrule, hexact, ?_⟩
  intro hconfined hself path isDirectory hmatches
  obtain ⟨-, -, ⟨hone, hwild⟩ | ⟨first, rest, rfl, hfirst, hcross | ⟨hslash, rfl⟩⟩⟩ :=
    (hexact path isDirectory).mp hmatches
  · rwa [firstComponent_of_notMem hone]
  · rw [firstComponent_append hfirst, Wildcard.matchesText_iff]
    exact Wildcard.matches_of_confined hconfined (Wildcard.matches_append_cons_iff.mpr hcross)
  · rw [firstComponent_append hfirst]
    exact hself hslash

theorem anchored_matches_gen :
    ∃ rule, IgnoreRule.ofPattern? "/gen*/" false = some rule ∧
      rule.matchesPath "gen1/x" true = true ∧
      Wildcard.matchesText "gen*" (firstComponent "gen1/x") = true := by
  have htext : Text.trimmed "/gen*/" = "/" ++ "gen*" ++ "/" := by decide
  obtain ⟨rule, hrule, hexact, hfirst⟩ :=
    anchored_matches_iff htext (.inr rfl) (by decide) false
  have hconfined : Wildcard.Confined '/' (Wildcard.parse "gen*") :=
    ⟨[.exactly 'g', .exactly 'e', .exactly 'n'], 1, by decide, by decide⟩
  have hcross : Wildcard.Crosses '/' (Wildcard.parse "gen*") "gen1".toList "x".toList :=
    Wildcard.matches_append_cons_iff.mp (Wildcard.matches_of_matchesChars _ _ (by decide))
  have hmatches : rule.matchesPath "gen1/x" true = true :=
    (hexact _ _).mpr ⟨by decide, fun _ => rfl, .inr ⟨"gen1", "x", by decide, by decide, .inl hcross⟩⟩
  exact ⟨rule, hrule, hmatches, hfirst hconfined (fun _ => by decide) _ _ hmatches⟩

/-- A star reaches over the slash, so a rule for the modules directly below the root ignores those of
all packages; and a rule for directories ignores what lies below a directory that is written like its
pattern but that the pattern does not match. -/
theorem anchored_rule_reaches_below :
    ∃ modules directories, IgnoreRule.ofPattern? "/*.py" false = some modules ∧
      modules.matchesPath "pkg/mod.py" false = true ∧
      Wildcard.matchesText "*.py" (firstComponent "pkg/mod.py") = false ∧
      IgnoreRule.ofPattern? "/[a]/" false = some directories ∧
      directories.matchesPath "[a]/b" true = true ∧
      Wildcard.matchesText "[a]" (firstComponent "[a]/b") = false := by
  refine ⟨_, _, rfl, ?_, by decide, rfl, ?_, by decide⟩
  · decide
  · decide

end Roster
