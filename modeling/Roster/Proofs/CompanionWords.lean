import Roster.Proofs.ParsedStatements
import Roster.Proofs.Splitting
import Roster.Proofs.WordedLines
import Roster.Rendering

/-! # The words of a companion

The lines of a companion are read as fixed words, with the companion's name, its type's name and its
field names in between. Whichever field names there are, each is one literal.

* `FromIdentifiers`: companions whose names are identifiers.
* `openingWords`, `classWords`: the words in front of the class, and those of its statements.
* `worded_front`, `worded_body`: the lines have these words.
-/

namespace Roster.Source

/-! ## The words of a companion -/

/-- A name as it is written in a companion, and what it means. -/
def written (w : String) (h : Text.isIdentifier w.toList = true := by decide) : Written := (w, ⟨w, h⟩)

/-- The type of a tuple of texts. -/
def namesType : List Lexeme :=
  [named "Tuple", .fixed "[", named "str", .fixed ",", .fixed "...", .fixed "]"]

section Words

-- the companion's name, what its class is said to be, the escaped names and the escaped source
variable (x : Written) (about : List Char) (bodies : List (List Char)) (source : List Char)

/-- The lines in front of the class's own. -/
def openingWords : List Lexeme :=
  [.fixed "from", named "__future__", .fixed "import", named "annotations", .newline]
    ++ ([.fixed "from", named "typing", .fixed "import", named "Final", .fixed ",", named "Tuple",
      .fixed ",", named "final", .newline]
    ++ [named "__all__", .fixed "=", .fixed "[", quotedLiteral x.1.toList, .fixed "]", .newline])

/-- Literals with a comma behind each. -/
def listingWords : List Lexeme := bodies.flatMap fun body => [quotedLiteral body, .fixed ","]

/-- The statement that lists the names. -/
def namesWords : List Lexeme :=
  named "FIELDS" :: .fixed ":" :: ((named "Final" :: .fixed "[" :: (namesType ++ [.fixed "]"]))
    ++ .fixed "=" :: .fixed "(" :: (listingWords bodies ++ [.fixed ")"]))

/-- The function that refuses classes below the companion. -/
def refusalWords : List Lexeme :=
  functionWords (written "__init_subclass__")
    [named "cls", .fixed ",", .fixed "**", named "kwargs", .fixed ":", named "object", .fixed ")"]
    [.fixed "None"]
    [.fixed "raise", named "TypeError", .fixed "(",
      quotedLiteral (x.1.toList ++ " cannot be subclassed".toList), .fixed ")", .newline]

/-- The function that gives the names. -/
def accessorWords : List Lexeme :=
  .fixed "@" :: named "staticmethod" :: .newline
    :: functionWords (written "fields") [.fixed ")"] namesType
      [.fixed "return", .name x.1 x.2, .fixed ".", named "FIELDS", .newline]

/-- The function that describes the companion. -/
def describeWords : List Lexeme :=
  .fixed "@" :: named "classmethod" :: .newline
    :: functionWords (written "describe") [named "cls", .fixed ")"] [named "str"]
      [.fixed "return", quotedLiteral (x.1.toList ++ "(source=%s, fields=[%s])".toList), .fixed "%",
        .fixed "(", quotedLiteral source, .fixed ",", quotedLiteral ", ".toList, .fixed ".",
        named "join", .fixed "(", named "cls", .fixed ".", named "FIELDS", .fixed ")", .fixed ")",
        .newline]

/-- The function that shows the companion by its description. -/
def showWords : List Lexeme :=
  functionWords (written "__repr__") [named "self", .fixed ")"] [named "str"]
    [.fixed "return", named "type", .fixed "(", named "self", .fixed ")", .fixed ".",
      named "describe", .fixed "(", .fixed ")", .newline]

/-- The statements of the class. -/
def classWords (debuggable : Bool) : List Lexeme :=
  [quotedLiteral about, .newline]
    ++ ([named "__slots__", .fixed "=", .fixed "(", .fixed ")", .newline]
    ++ ((namesWords bodies ++ [.newline])
    ++ (refusalWords x
    ++ (accessorWords x
    ++ (if debuggable then describeWords x source ++ showWords else [])))))

end Words

/-! ## The lines have these words -/

/-- A companion of a type whose full name is made of identifiers; its own name is one in composed form,
with the ending that all companions have. -/
structure FromIdentifiers (a : Artifact) : Prop where
  proper : Text.isIdentifier a.name.toList = true
  composed : Text.composed a.name.toList = a.name.toList
  ending : Artifact.nameEnding.toList <:+ a.name.toList
  source : ∃ parts : List String, a.sourceType = String.intercalate "." parts ∧
    ∀ part ∈ parts, Text.isIdentifier part.toList = true

namespace FromIdentifiers

variable {a : Artifact}

/-- The name of a companion is not reserved, as no reserved word has its ending. -/
theorem isName (h : FromIdentifiers a) : IsName a.name where
  proper := h.proper
  free := by
    intro hmem
    have hnone : ∀ w ∈ reservedWords, ¬ Artifact.nameEnding.toList <:+ w.toList := by decide
    exact hnone _ hmem h.ending
  composed := .inr h.composed

/-- The name of a companion as it is written and as it is read. -/
def written (h : FromIdentifiers a) : Written := (a.name, ⟨a.name, h.proper⟩)

@[simp] theorem written_fst (h : FromIdentifiers a) : h.written.1 = a.name := rfl

theorem le_of_isWordPart {c : Char} (h : isWordPart c = true) : 32 ≤ c.toNat := by
  by_contra hlow
  have hnone : ∀ n < 32, isWordPart (Char.ofNat n) = false := by decide
  rw [← Char.ofNat_toNat c, hnone _ (by omega)] at h
  cases h

theorem isWordPart_of_mem_name (h : FromIdentifiers a) {c : Char} (hc : c ∈ a.name.toList) :
    isWordPart c = true := by
  obtain ⟨-, -, -, -, hparts⟩ := exists_of_isIdentifier h.proper
  exact hparts c hc

theorem isWordPart_of_mem_source (h : FromIdentifiers a) {c : Char} (hc : c ∈ a.sourceType.toList) :
    isWordPart c = true ∨ c = '.' := by
  obtain ⟨parts, hsource, hproper⟩ := h.source
  by_contra hplain
  rw [not_or] at hplain
  rw [hsource] at hc
  refine notMem_intercalate (by simpa using hplain.2) (fun part hpart hmem => ?_) hc
  obtain ⟨-, -, -, -, hparts⟩ := exists_of_isIdentifier (hproper part hpart)
  exact hplain.1 (hparts c hmem)

/-- What stands in a literal as it is: no character of a name has to be escaped. -/
theorem plain_of_isWordPart {c : Char} (h : isWordPart c = true) :
    c ≠ '\\' ∧ c ≠ '\x22' ∧ c ≠ '\n' := by
  refine ⟨?_, ?_, ?_⟩
  all_goals
    rintro rfl
    exact absurd h (by decide)

theorem plain_name (h : FromIdentifiers a) :
    ∀ c ∈ a.name.toList, c ≠ '\\' ∧ c ≠ '\x22' ∧ c ≠ '\n' :=
  fun _ hc => plain_of_isWordPart (h.isWordPart_of_mem_name hc)

theorem plain_source (h : FromIdentifiers a) :
    ∀ c ∈ a.sourceType.toList, c ≠ '\\' ∧ c ≠ '\x22' ∧ c ≠ '\n' := by
  intro c hc
  rcases h.isWordPart_of_mem_source hc with hc | rfl
  · exact plain_of_isWordPart hc
  · decide

/-- The name may stand in a literal, with other such text behind it. -/
theorem quotable_name (h : FromIdentifiers a) {more : List Char}
    (hmore : ∀ c ∈ more, c ≠ '\\' ∧ c ≠ '\x22' ∧ c ≠ '\n') : Quotable (a.name.toList ++ more) :=
  .plain (List.forall_mem_append.mpr ⟨h.plain_name, hmore⟩)

theorem quotable_refusal (h : FromIdentifiers a) :
    Quotable (a.name.toList ++ " cannot be subclassed".toList) :=
  h.quotable_name (forall_of_all (by decide))

theorem quotable_description (h : FromIdentifiers a) :
    Quotable (a.name.toList ++ "(source=%s, fields=[%s])".toList) :=
  h.quotable_name (forall_of_all (by decide))

end FromIdentifiers

/-- What the class of a companion is said to be. -/
def aboutOf (a : Artifact) : List Char :=
  "Field names declared on ".toList ++ a.sourceType.toList ++ " and its ancestors.".toList

/-- The literals of a companion's names, without their quotes. -/
def bodiesOf (a : Artifact) : List (List Char) :=
  a.fieldNames.toList.map fun name => name.toList.flatMap Text.escapeChar

section Lines

variable {a : Artifact}

theorem FromIdentifiers.plain_about (h : FromIdentifiers a) :
    ∀ c ∈ aboutOf a, c ≠ '\\' ∧ c ≠ '\x22' ∧ c ≠ '\n' :=
  List.forall_mem_append.mpr
    ⟨List.forall_mem_append.mpr ⟨forall_of_all (by decide), h.plain_source⟩,
      forall_of_all (by decide)⟩

theorem worded_all (h : FromIdentifiers a) :
    Worded [] [(0, 0)] [("__all__ = [\"" ++ a.name ++ "\"]").toList]
      [named "__all__", .fixed "=", .fixed "[", quotedLiteral a.name.toList, .fixed "]", .newline]
      [] [(0, 0)] := by
  have hfront : Words '\x22' "__all__ = [".toList [named "__all__", .fixed "=", .fixed "["] :=
    .of_text _ _ (by decide +kernel)
  have hback : Words '\n' "]".toList [.fixed "]"] := .of_text _ _ (by decide +kernel)
  have hwords := (Quotable.plain h.plain_name).words hfront hback (by decide)
  exact .line 0 hwords (by simp) (by simp [isGap]) (by simp) rfl rfl rfl

/-- A word, a blank, and the companion's name with something behind it. -/
theorem words_name (h : FromIdentifiers a) {front back : List Char} {ls ms : List Lexeme}
    (hfront : Words ' ' front ls) (hback : Words '\n' back ms)
    (hnext : isWordPart (back.headD '\n') = false) (hquote : isQuote (back.headD '\n') = false) :
    Words '\n' (front ++ (' ' :: (a.name.toList ++ back)))
      (ls ++ .name h.written.1 h.written.2 :: ms) :=
  .append hfront (.gap (.word (.name h.isName hnext hquote) hback))

theorem words_class (h : FromIdentifiers a) :
    Words '\n' ("class".toList ++ (' ' :: (a.name.toList ++ ":".toList)))
      [.fixed "class", .name h.written.1 h.written.2, .fixed ":"] := by
  have hfront : Words ' ' "class".toList [.fixed "class"] := .of_text _ _ (by decide +kernel)
  have hback : Words '\n' ":".toList [.fixed ":"] := .of_text _ _ (by decide +kernel)
  exact words_name h hfront hback (by decide) (by decide)

theorem worded_about (h : FromIdentifiers a) :
    Worded [] [(0, 0)]
      [("    \"\"\"Field names declared on " ++ a.sourceType ++ " and its ancestors.\"\"\"").toList]
      [.indent, quotedLiteral (aboutOf a), .newline] [] [(4, 4), (0, 0)] := by
  have hwords : Words '\n' _ [quotedLiteral (aboutOf a)] := .single (.description h.plain_about)
  have habout : aboutOf a = "Field names declared on ".toList ++ a.sourceType.toList
      ++ " and its ancestors.".toList := rfl
  exact .line 4 hwords (by rw [habout]; simp) (by simp [isGap]) (by simp) rfl rfl rfl

/-- The lines of the names, between the brackets. -/
theorem worded_listing (names : List String) (b : List (Nat × Nat)) :
    Worded [")"] b
      ((names.map fun f => "        " ++ Rendering.literal .python f ++ ",").map String.toList)
      (listingWords (names.map fun name => name.toList.flatMap Text.escapeChar)) [")"] b := by
  induction names with
  | nil => exact .done
  | cons name names ih =>
    have hback : Words '\n' ",".toList [.fixed ","] := .of_text _ _ (by decide +kernel)
    have hwords := (Quotable.escaped name.toList).words .nil hback (by decide)
    have hline : Worded [")"] b [("        " ++ Rendering.literal .python name ++ ",").toList]
        [quotedLiteral (name.toList.flatMap Text.escapeChar), .fixed ","] [")"] b :=
      .line 8 hwords (by simp [Rendering.literal, Text.escaped, Text.escapedChars])
        (by simp [isGap]) (by simp) rfl rfl rfl
    exact hline.append ih

theorem worded_refusal (h : FromIdentifiers a) :
    Worded [] [(4, 4), (0, 0)]
      [("        raise TypeError(\"" ++ a.name ++ " cannot be subclassed\")").toList]
      [.indent, .fixed "raise", named "TypeError", .fixed "(",
        quotedLiteral (a.name.toList ++ " cannot be subclassed".toList), .fixed ")", .newline]
      [] [(8, 8), (4, 4), (0, 0)] := by
  have hfront : Words '\x22' "raise TypeError(".toList
      [.fixed "raise", named "TypeError", .fixed "("] := .of_text _ _ (by decide +kernel)
  have hback : Words '\n' ")".toList [.fixed ")"] := .of_text _ _ (by decide +kernel)
  have hwords := h.quotable_refusal.words hfront hback (by decide)
  exact .line 8 hwords (by simp) (by simp [isGap]) (by simp) rfl rfl rfl

theorem worded_given (h : FromIdentifiers a) :
    Worded [] [(4, 4), (0, 0)] [("        return " ++ a.name ++ ".FIELDS").toList]
      [.indent, .fixed "return", .name h.written.1 h.written.2, .fixed ".", named "FIELDS", .newline]
      [] [(8, 8), (4, 4), (0, 0)] := by
  have hfront : Words ' ' "return".toList [.fixed "return"] := .of_text _ _ (by decide +kernel)
  have hback : Words '\n' ".FIELDS".toList [.fixed ".", named "FIELDS"] :=
    .of_text _ _ (by decide +kernel)
  have hwords := words_name h hfront hback (by decide) (by decide)
  exact .line 8 hwords (by simp) (by simp [isGap]) (by simp) rfl rfl rfl

theorem worded_described (h : FromIdentifiers a) :
    Worded [] [(4, 4), (0, 0)]
      [("        return \"" ++ a.name ++ "(source=%s, fields=[%s])\" % ("
        ++ Rendering.literal .python a.sourceType ++ ", \", \".join(cls.FIELDS))").toList]
      [.indent, .fixed "return", quotedLiteral (a.name.toList ++ "(source=%s, fields=[%s])".toList),
        .fixed "%", .fixed "(", quotedLiteral (a.sourceType.toList.flatMap Text.escapeChar),
        .fixed ",", quotedLiteral ", ".toList, .fixed ".", named "join", .fixed "(", named "cls",
        .fixed ".", named "FIELDS", .fixed ")", .fixed ")", .newline]
      [] [(8, 8), (4, 4), (0, 0)] := by
  have hcomma : Quotable ", ".toList := .plain (forall_of_all (by decide))
  have hlast : Words '\n' ".join(cls.FIELDS))".toList [.fixed ".", named "join", .fixed "(",
      named "cls", .fixed ".", named "FIELDS", .fixed ")", .fixed ")"] :=
    .of_text _ _ (by decide +kernel)
  have hjoined := hcomma.words (.of_text ", " [.fixed ","] (by decide +kernel)) hlast (by decide)
  have hvalues := (Quotable.escaped a.sourceType.toList).words
    (.of_text " % (" [.fixed "%", .fixed "("] (by decide +kernel)) hjoined (by simp)
  have hreturn : Words '\x22' "return ".toList [.fixed "return"] := .of_text _ _ (by decide +kernel)
  have hwords := h.quotable_description.words hreturn hvalues (by simp)
  exact .line 8 hwords (by simp [Rendering.literal, Text.escaped, Text.escapedChars])
    (by simp [isGap]) (by simp) rfl rfl rfl

theorem worded_signature :
    Worded [")"] [(4, 4), (0, 0)]
      (["    )", "", "    def __init_subclass__(cls, **kwargs: object) -> None:"].map String.toList)
      [.fixed ")", .newline, .fixed "def", named "__init_subclass__", .fixed "(", named "cls",
        .fixed ",", .fixed "**", named "kwargs", .fixed ":", named "object", .fixed ")", .fixed "->",
        .fixed "None", .fixed ":", .newline] [] [(4, 4), (0, 0)] :=
  .of_linesWords? (by decide +kernel)

theorem worded_slots :
    Worded [] [(4, 4), (0, 0)]
      (["", "    __slots__ = ()", "", "    FIELDS: Final[Tuple[str, ...]] = ("].map String.toList)
      ([named "__slots__", .fixed "=", .fixed "(", .fixed ")", .newline, named "FIELDS", .fixed ":",
        named "Final", .fixed "["] ++ (namesType ++ [.fixed "]", .fixed "=", .fixed "("]))
      [")"] [(4, 4), (0, 0)] :=
  .of_linesWords? (by decide +kernel)

theorem worded_static :
    Worded [] [(8, 8), (4, 4), (0, 0)]
      (["", "    @staticmethod", "    def fields() -> Tuple[str, ...]:"].map String.toList)
      ([.dedent, .fixed "@", named "staticmethod", .newline, .fixed "def", named "fields", .fixed "(",
        .fixed ")", .fixed "->"] ++ (namesType ++ [.fixed ":", .newline])) [] [(4, 4), (0, 0)] :=
  .of_linesWords? (by decide +kernel)

theorem worded_describe :
    Worded [] [(8, 8), (4, 4), (0, 0)]
      (["", "    @classmethod", "    def describe(cls) -> str:"].map String.toList)
      [.dedent, .fixed "@", named "classmethod", .newline, .fixed "def", named "describe", .fixed "(",
        named "cls", .fixed ")", .fixed "->", named "str", .fixed ":", .newline] [] [(4, 4), (0, 0)] :=
  .of_linesWords? (by decide +kernel)

theorem worded_show :
    Worded [] [(8, 8), (4, 4), (0, 0)]
      (["", "    def __repr__(self) -> str:", "        return type(self).describe()"].map String.toList)
      [.dedent, .fixed "def", named "__repr__", .fixed "(", named "self", .fixed ")", .fixed "->",
        named "str", .fixed ":", .newline, .indent, .fixed "return", named "type", .fixed "(",
        named "self", .fixed ")", .fixed ".", named "describe", .fixed "(", .fixed ")", .newline]
      [] [(8, 8), (4, 4), (0, 0)] :=
  .of_linesWords? (by decide +kernel)

/-- The lines of the class behind its first one. -/
def bodyLines (a : Artifact) : List String :=
  (Rendering.pythonParts a).opening.drop 11 ++ ((Rendering.pythonParts a).fields
    ++ ((Rendering.pythonParts a).accessor
    ++ (if a.debuggable then (Rendering.pythonParts a).debugging else [])))

/-- The words of the class. The end of its last block is the end of the text. -/
theorem worded_body (h : FromIdentifiers a) :
    ∃ ls, Worded [] [(0, 0)] ((bodyLines a).map String.toList) ls [] [(8, 8), (4, 4), (0, 0)] ∧
      ls ++ [.dedent] = .indent :: classWords h.written (aboutOf a) (bodiesOf a)
        (a.sourceType.toList.flatMap Text.escapeChar) a.debuggable := by
  have hopening : Worded [] [(0, 0)] (((Rendering.pythonParts a).opening.drop 11).map String.toList)
      _ [")"] [(4, 4), (0, 0)] := (worded_about h).append worded_slots
  have hfields : Worded [")"] [(4, 4), (0, 0)] ((Rendering.pythonParts a).fields.map String.toList)
      (listingWords (bodiesOf a)) [")"] [(4, 4), (0, 0)] := worded_listing _ _
  have haccessor : Worded [")"] [(4, 4), (0, 0)]
      ((Rendering.pythonParts a).accessor.map String.toList) _ [] [(8, 8), (4, 4), (0, 0)] :=
    worded_signature.append ((worded_refusal h).append (worded_static.append (worded_given h)))
  have hdebugging : Worded [] [(8, 8), (4, 4), (0, 0)]
      ((Rendering.pythonParts a).debugging.map String.toList) _ [] [(8, 8), (4, 4), (0, 0)] :=
    worded_describe.append ((worded_described h).append worded_show)
  rw [bodyLines, List.map_append, List.map_append, List.map_append]
  cases a.debuggable with
  | false =>
    refine ⟨_, hopening.append (hfields.append (haccessor.append .done)), ?_⟩
    simp [classWords, namesWords, refusalWords, accessorWords, functionWords, onLines, written, named]
  | true =>
    refine ⟨_, hopening.append (hfields.append (haccessor.append hdebugging)), ?_⟩
    simp [classWords, namesWords, refusalWords, accessorWords, functionWords, onLines, written, named,
      describeWords, showWords]

/-- The lines in front of the class. -/
def frontLines (a : Artifact) : List String := (Rendering.pythonParts a).opening.take 10

/-- The words in front of the class, up to its decorator. -/
theorem worded_front (h : FromIdentifiers a) :
    Worded [] [(0, 0)] ((frontLines a).map String.toList)
      (openingWords h.written ++ [.fixed "@", named "final", .newline]) [] [(0, 0)] := by
  have himports : Worded [] [(0, 0)]
      (["from __future__ import annotations", "", "from typing import Final, Tuple, final", ""].map
        String.toList)
      [.fixed "from", named "__future__", .fixed "import", named "annotations", .newline,
        .fixed "from", named "typing", .fixed "import", named "Final", .fixed ",", named "Tuple",
        .fixed ",", named "final", .newline] [] [(0, 0)] :=
    .of_linesWords? (by decide +kernel)
  have hdecorator : Worded [] [(0, 0)] (["", "", "@final"].map String.toList)
      [.fixed "@", named "final", .newline] [] [(0, 0)] :=
    .of_linesWords? (by decide +kernel)
  have hsource : ∀ c ∈ " Source: ".toList ++ a.sourceType.toList, c ≠ '\n' :=
    List.forall_mem_append.mpr
      ⟨forall_of_all (by decide), fun c hc => (h.plain_source c hc).2.2⟩
  have hheader : ∀ c ∈ " Generated code from fielder. Do not modify!".toList, c ≠ '\n' :=
    forall_of_all (by decide)
  have hlines : (frontLines a).map String.toList
      = ('#' :: " Generated code from fielder. Do not modify!".toList)
        :: ('#' :: (" Source: ".toList ++ a.sourceType.toList))
        :: (["from __future__ import annotations", "", "from typing import Final, Tuple, final", ""].map
            String.toList
          ++ ([("__all__ = [\"" ++ a.name ++ "\"]").toList]
          ++ ["", "", "@final"].map String.toList)) := by
    simp [frontLines, Rendering.pythonParts, Rendering.header]
  -- the two comments leave no words
  rw [hlines]
  exact .comment hheader (.comment hsource (himports.append ((worded_all h).append hdecorator)))

end Lines

end Roster.Source
