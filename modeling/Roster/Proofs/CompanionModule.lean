import Roster.ClassIndex
import Roster.Proofs.CompanionWords

/-! # A companion is a module

The text of a companion is the text of a module again, and what the module declares is one class.

* `block_opening`, `block_class`: the words of a companion are statements.
* `exists_tokens`: its text has these words.
* `parse?_render`: its text is a module.
* `companion_declares_itself`: the module declares the companion and nothing else.
-/

namespace Roster.Source

open Roster.Source.Parser

/-! ## The words are statements -/

section Statements

-- any bound from a certain number on will do, and `n` is what it has beyond that number
variable {n : Nat} (x : Written) (about : List Char) (bodies : List (List Char))
  (source : List Char)

theorem phrase_name (w : Written) : Phrase (n + 1) [.name w.1 w.2] (.name w.2.text) :=
  .of_operand (.name w.1 w.2) rfl

theorem phrase_literal (body : List Char) : Phrase (n + 2) [quotedLiteral body] .other :=
  .of_operand (.literal _) rfl

theorem phrase_namesType : Phrase (n + 4) namesType (.item (.name "Tuple")) := by
  have helement : Phrase (n + 2) [named "str"] (.name "str") := phrase_name (written "str")
  have hmore : Phrase (n + 2) [.fixed "..."] .other :=
    .of_operand (.constant (by simp [constants])) rfl
  exact .of_operand (.items (.name _ _) helement rfl (.more hmore rfl .nil) (by simp)) rfl

/-- What stands before the class: two imports, and the names that the module gives away. -/
theorem block_opening : Block (n + 7) (openingWords x)
    [.importFrom 0 (some "__future__") [⟨"annotations", none⟩],
      .importFrom 0 (some "typing") [⟨"Final", none⟩, ⟨"Tuple", none⟩, ⟨"final", none⟩],
      .assign [.name "__all__"]] := by
  have hfuture : Statement (n + 6) [.fixed "from", named "__future__", .fixed "import",
      named "annotations", .newline] [.importFrom 0 (some "__future__") [⟨"annotations", none⟩]] :=
    .line (.importFrom (written "__future__") (written "annotations") [] (by simp)) rfl
  have htyping : Statement (n + 5) [.fixed "from", named "typing", .fixed "import", named "Final",
      .fixed ",", named "Tuple", .fixed ",", named "final", .newline]
      [.importFrom 0 (some "typing") [⟨"Final", none⟩, ⟨"Tuple", none⟩, ⟨"final", none⟩]] :=
    .line (.importFrom (written "typing") (written "Final") [written "Tuple", written "final"]
      (by simp)) rfl
  have hvalue : Phrase (n + 3) (.fixed "[" :: ([quotedLiteral x.1.toList] ++ [.fixed "]"]))
      (.list [.other]) :=
    .of_operand (.list (phrase_literal _) rfl) rfl
  have hall : Statement (n + 4) [named "__all__", .fixed "=", .fixed "[", quotedLiteral x.1.toList,
      .fixed "]", .newline] [.assign [.name "__all__"]] :=
    .line (.assign (phrase_name (written "__all__")) rfl rfl hvalue rfl) rfl
  exact .cons hfuture (.cons htyping (.single hall))

/-- The literals behind the first one of a listing. -/
theorem items_listing :
    Items (n + 2) (.fixed "," :: listingWords bodies) (bodies.map fun _ => .other) := by
  induction bodies with
  | nil => exact .comma
  | cons body bodies ih =>
    have hitems : Items (n + 2)
        (.fixed "," :: ([quotedLiteral body] ++ .fixed "," :: listingWords bodies))
        (.other :: bodies.map fun _ => .other) := .more (phrase_literal body) rfl ih
    exact hitems

/-- The names are a tuple, whichever they are. -/
theorem phrase_listing : Phrase (n + bodies.length + 3)
    (.fixed "(" :: (listingWords bodies ++ [.fixed ")"])) (.tuple (bodies.map fun _ => .other)) := by
  cases bodies with
  | nil => exact .of_operand .unit rfl
  | cons body bodies =>
    have hfirst : Phrase (n + bodies.length + 3) [quotedLiteral body] .other := phrase_literal body
    have hlength : (bodies.map fun _ => Expr.other).length ≤ n + bodies.length + 3 := by
      rw [List.length_map]
      omega
    have htuple := Operand.tuple hfirst rfl (items_listing bodies) (by simp) hlength
    exact .of_operand htuple rfl

theorem begins_listing : begins (.fixed "(" :: (listingWords bodies ++ [.fixed ")"])) = true := by
  cases bodies <;> rfl

theorem statement_names : Statement (n + bodies.length + 7) (namesWords bodies ++ [.newline])
    [.annotated (.name "FIELDS")] := by
  have htype : Phrase (n + bodies.length + 6)
      (named "Final" :: .fixed "[" :: (namesType ++ [.fixed "]"])) (.item (.name "Final")) :=
    .of_operand (.items (.name _ _) phrase_namesType rfl .nil (Nat.zero_le _)) rfl
  have hnames : Phrase (n + 3 + bodies.length + 3)
      (.fixed "(" :: (listingWords bodies ++ [.fixed ")"])) (.tuple (bodies.map fun _ => .other)) :=
    phrase_listing bodies
  rw [Nat.add_right_comm n] at hnames
  exact .line (.annotated htype hnames (begins_listing bodies)) rfl

theorem statement_refusal : Statement (n + 7) (refusalWords x)
    [.functionDef "__init_subclass__" ["cls"] [.other]] := by
  have hparams : Parameters (n + 6) [named "cls", .fixed ",", .fixed "**", named "kwargs",
      .fixed ":", named "object", .fixed ")"] ["cls"] :=
    .oneAndNamed (written "cls") (written "kwargs") (phrase_name (written "object"))
  have hraised : Phrase (n + 4) ([named "TypeError"] ++ .fixed "("
      :: ([quotedLiteral (x.1.toList ++ " cannot be subclassed".toList)] ++ [.fixed ")"]))
      (.call (.name "TypeError")) :=
    .of_operand (.callWith (.name _ _) (phrase_literal _) rfl) rfl
  have hbody := Block.single (.line (.raised hraised rfl) rfl)
  exact .function hparams (.of_operand (.constant (by simp [constants])) rfl) hbody

theorem statement_accessor : Statement (n + 5) (accessorWords x)
    [.functionDef "fields" [] [.other]] := by
  have hgiven : Phrase (n + 2) ([.name x.1 x.2] ++ [.fixed ".", named "FIELDS"])
      (.attribute (.name x.2.text) "FIELDS") :=
    .of_operand (.member (.name _ _) _ _) rfl
  have hbody := Block.single (.line (.returned hgiven rfl) rfl)
  exact .decorated (phrase_name (written "staticmethod")) rfl .none phrase_namesType hbody

theorem statement_describe : Statement (n + 9) (describeWords x source)
    [.functionDef "describe" ["cls"] [.other]] := by
  have hnames : Phrase (n + 2) ([named "cls"] ++ [.fixed ".", named "FIELDS"])
      (.attribute (.name "cls") "FIELDS") :=
    .of_operand (.member (.name _ _) _ _) rfl
  have hjoined : Phrase (n + 4) (([quotedLiteral ", ".toList] ++ [.fixed ".", named "join"])
      ++ .fixed "(" :: (([named "cls"] ++ [.fixed ".", named "FIELDS"]) ++ [.fixed ")"]))
      (.call (.attribute .other "join")) :=
    .of_operand (.callWith (.member (.literal _) _ _) hnames rfl) rfl
  have hvalues := Operand.tuple (phrase_literal source) rfl (.more hjoined rfl .nil) (by simp)
    (by simp)
  have hsign : "%" ∈ joiningSigns := by simp [joiningSigns]
  have htext := Phrase.joined hsign
    (.literal ⟨false, false, false, x.1.toList ++ "(source=%s, fields=[%s])".toList⟩)
    hvalues rfl rfl
  have hbody := Block.single (.line (.returned htext rfl) rfl)
  exact .decorated (phrase_name (written "classmethod")) rfl (.one (written "cls"))
    (phrase_name (written "str")) hbody

theorem statement_show : Statement (n + 8) showWords [.functionDef "__repr__" ["self"] [.other]] := by
  have hclass : Operand (n + 2) ([named "type"] ++ .fixed "(" :: ([named "self"] ++ [.fixed ")"]))
      (.call (.name "type")) :=
    .callWith (.name _ _) (phrase_name (written "self")) rfl
  have hdescribed : Phrase (n + 5)
      ((([named "type"] ++ .fixed "(" :: ([named "self"] ++ [.fixed ")"]))
        ++ [.fixed ".", named "describe"]) ++ [.fixed "(", .fixed ")"])
      (.call (.attribute (.call (.name "type")) "describe")) :=
    .of_operand (.call (.member hclass _ _)) rfl
  have hbody := Block.single (.line (.returned hdescribed rfl) rfl)
  exact .function (.one (written "self")) (phrase_name (written "str")) hbody

/-- The class of a companion as it is read. -/
def classBody (debuggable : Bool) : List Stmt :=
  [.other, .assign [.name "__slots__"], .annotated (.name "FIELDS"),
    .functionDef "__init_subclass__" ["cls"] [.other], .functionDef "fields" [] [.other]]
    ++ (if debuggable then [.functionDef "describe" ["cls"] [.other],
      .functionDef "__repr__" ["self"] [.other]] else [])

theorem block_class (debuggable : Bool) :
    Block (bodies.length + 16) (classWords x about bodies source debuggable)
      (classBody debuggable) := by
  have habout : Statement (bodies.length + 15) [quotedLiteral about, .newline] [.other] :=
    .line (.expression (phrase_literal about) rfl) rfl
  have hslots : Statement (bodies.length + 14)
      [named "__slots__", .fixed "=", .fixed "(", .fixed ")", .newline]
      [.assign [.name "__slots__"]] :=
    .line (.assign (phrase_name (written "__slots__")) rfl rfl (.of_operand .unit rfl) rfl) rfl
  have hnames : Statement (bodies.length + 13) (namesWords bodies ++ [.newline])
      [.annotated (.name "FIELDS")] := by
    have hread := statement_names (n := 6) bodies
    rwa [Nat.add_comm 6] at hread
  have hdebugging : Block (bodies.length + 11)
      (if debuggable then describeWords x source ++ showWords else [])
      (if debuggable then [.functionDef "describe" ["cls"] [.other],
        .functionDef "__repr__" ["self"] [.other]] else []) := by
    cases debuggable with
    | false => exact .nil
    | true => exact .cons (statement_describe x source) (.single statement_show)
  have hfunctions := Block.cons (statement_refusal x) (.cons (statement_accessor x) hdebugging)
  have hbody := Block.cons habout (.cons hslots (.cons hnames hfunctions))
  exact hbody

end Statements

section Text

variable {a : Artifact}

/-! ## The text as a whole -/

/-- Whether a text has no character below the blank. -/
def printable (s : String) : Bool := s.toList.all (32 ≤ ·.toNat)

theorem printable_append (s u : String) : printable (s ++ u) = (printable s && printable u) := by
  simp [printable]

/-- A text that is written out here is printable if it is found to be. -/
theorem printable_of_all {s : String} (h : s.toList.all (32 ≤ ·.toNat) = true) :
    printable s = true := h

theorem printable_literal (s : String) : printable (Rendering.literal .python s) = true := by
  rw [printable, Rendering.literal, Text.escaped, String.toList_ofList, List.all_eq_true]
  -- a character is one of the two quotes or comes from an escape
  intro c hc
  rw [Text.escapedChars, List.mem_append, List.mem_cons, List.mem_singleton] at hc
  rcases hc with (rfl | hc) | rfl
  · rfl
  · obtain ⟨d, -, hc⟩ := List.mem_flatMap.mp hc
    simpa using Text.le_of_mem_escapeChar hc
  · rfl

theorem printable_lines (h : FromIdentifiers a) :
    ((Rendering.pythonParts a).lines a.debuggable).all printable = true := by
  have hname : printable a.name = true := by
    rw [printable, List.all_eq_true]
    intro c hc
    simpa using FromIdentifiers.le_of_isWordPart (h.isWordPart_of_mem_name hc)
  have hsource : printable a.sourceType = true := by
    rw [printable, List.all_eq_true]
    intro c hc
    rcases h.isWordPart_of_mem_source hc with hc | rfl
    · simpa using FromIdentifiers.le_of_isWordPart hc
    · rfl
  have hopening : (Rendering.pythonParts a).opening.all printable = true := by
    simp (disch := decide) only [Rendering.pythonParts, Rendering.header, List.all_cons,
      List.all_nil, printable_append, hname, hsource, printable_of_all, Bool.and_true]
  have haccessor : (Rendering.pythonParts a).accessor.all printable = true := by
    simp (disch := decide) only [Rendering.pythonParts, List.all_cons, List.all_nil,
      printable_append, hname, printable_of_all, Bool.and_true]
  have hdebugging : (Rendering.pythonParts a).debugging.all printable = true := by
    simp (disch := decide) only [Rendering.pythonParts, List.all_cons, List.all_nil,
      printable_append, printable_literal, hname, printable_of_all, Bool.and_true]
  have hfields : (Rendering.pythonParts a).fields.all printable = true := by
    rw [List.all_eq_true]
    intro line hline
    obtain ⟨name, -, rfl⟩ := List.mem_map.mp hline
    simp (disch := decide) only [printable_append, printable_literal, printable_of_all,
      Bool.and_true]
  have hclosing : (Rendering.pythonParts a).closing = [] := rfl
  rw [Rendering.Parts.lines, hclosing]
  -- the lines for debugging stand in some companions only
  cases a.debuggable with
  | false => simp [hopening, hfields, haccessor]
  | true => simp [hopening, hfields, haccessor, hdebugging]

/-- No character of a companion's text lies below the blank, but for the line feeds. -/
theorem mem_render (h : FromIdentifiers a) {c : Char}
    (hc : c ∈ (Rendering.render .python a).toList) : c = '\n' ∨ 32 ≤ c.toNat := by
  rw [Rendering.render, toList_joinLines] at hc
  obtain ⟨line, hline, hc⟩ := List.mem_flatMap.mp hc
  rcases List.mem_append.mp hc with hc | hc
  · have hprintable := List.all_eq_true.mp (printable_lines h) line hline
    exact .inr (by simpa using List.all_eq_true.mp hprintable c hc)
  · exact .inl (List.mem_singleton.mp hc)

/-- A companion's text is read as it was written. -/
theorem readText_render (h : FromIdentifiers a) {t : FileTree} {path : Path}
    (hread : t.read path = .ok (Rendering.render .python a).toUTF8) :
    t.readText path = .ok (Rendering.render .python a) := by
  have hreturn : '\r' ∉ (Rendering.render .python a).toList := by
    intro hmem
    rcases mem_render h hmem with heq | hle
    · exact absurd heq (by decide)
    · exact absurd hle (by decide)
  rw [FileTree.readText, hread]
  simp only [Text.decodeUtf8_toUTF8, Text.unifyLineEnds_of_notMem hreturn, String.ofList_toList]

/-! ## Tokens -/

theorem lines_eq (a : Artifact) :
    (Rendering.pythonParts a).lines a.debuggable
      = frontLines a ++ ("class " ++ a.name ++ ":") :: bodyLines a := by
  rw [Rendering.Parts.lines]
  simp [frontLines, bodyLines, Rendering.pythonParts]

/-- The tokens of a companion. The class stands on line 11, whatever it is called. -/
theorem exists_tokens (h : FromIdentifiers a) :
    ∃ ts us line, tokens? (Rendering.render .python a).toList
        = some (ts ++ ⟨11, .fixed "class"⟩ :: ⟨11, .name h.written.1 h.written.2⟩
          :: (us ++ [⟨line, .finish⟩])) ∧
      Holds ts (openingWords h.written ++ [.fixed "@", named "final", .newline]) ∧
      Holds us (onLines (classWords h.written (aboutOf a) (bodiesOf a)
        (a.sourceType.toList.flatMap Text.escapeChar) a.debuggable)) := by
  obtain ⟨ts, hfront, hts⟩ := worded_front h 1
  obtain ⟨ls, hbody, hls⟩ := worded_body h
  obtain ⟨us, hlines, hus⟩ := hbody 12
  -- the line of the class is put between the lines in front of it and those of its block
  have hclass := Lined.words (s := ⟨11, [], [(0, 0)]⟩) 0 (words_class h) (by simp [isGap]) (by simp)
    rfl rfl hlines
  generalize hlast : 12 + ((bodyLines a).map String.toList).length = last at hclass
  -- the end of the text closes the last function and the class
  have hend : layout? ⟨0, 0, last, []⟩ [(8, 8), (4, 4), (0, 0)]
      = some ([.dedent, .dedent], [(0, 0)]) := rfl
  have htokens := Lined.tokens? (hfront.append hclass) hend
  have htext : (Rendering.render .python a).toList
      = ((frontLines a).map String.toList ++ (List.replicate 0 ' '
          ++ ("class".toList ++ (' ' :: (a.name.toList ++ ":".toList))))
        :: (bodyLines a).map String.toList).flatMap (· ++ ['\n']) := by
    rw [Rendering.render, toList_joinLines, Rendering.parts, lines_eq]
    simp [List.flatMap_map]
  have hwords : onLines (classWords h.written (aboutOf a) (bodiesOf a)
      (a.sourceType.toList.flatMap Text.escapeChar) a.debuggable)
      = [.fixed ":", .newline] ++ (ls ++ [.dedent, .dedent]) := by
    rw [onLines, ← List.cons_append, ← hls]
    simp
  refine ⟨ts, [⟨11, .fixed ":"⟩, ⟨11, .newline⟩] ++ (us ++ [⟨last, .dedent⟩, ⟨last, .dedent⟩]), last,
    ?_, hts, ?_⟩
  · rw [htext, htokens]
    simp [endToken]
  · rw [hwords]
    exact holds_append_iff.mpr ⟨_, _, rfl, rfl, holds_append_iff.mpr ⟨_, _, rfl, hus, rfl⟩⟩

/-- No literal of a companion is broken. -/
theorem wellFormed_listing (names : List String) :
    (listingWords (names.map fun name => name.toList.flatMap Text.escapeChar)).all wellFormed
      = true := by
  induction names with
  | nil => rfl
  | cons name names ih =>
    have hname := (Quotable.escaped name.toList).wellFormed
    have hcomma : wellFormed (.fixed ",") = true := rfl
    rw [List.map_cons, listingWords, List.flatMap_cons, ← listingWords, List.all_append, ih]
    simp only [List.all_cons, List.all_nil, hname, hcomma, Bool.and_true]

theorem wellFormed_class (h : FromIdentifiers a) :
    (onLines (classWords h.written (aboutOf a) (bodiesOf a)
      (a.sourceType.toList.flatMap Text.escapeChar) a.debuggable)).all wellFormed = true := by
  have hlisting : (listingWords (bodiesOf a)).all wellFormed = true := wellFormed_listing _
  have habout : wellFormed (quotedLiteral (aboutOf a)) = true :=
    (Quotable.plain h.plain_about).wellFormed
  have hsource := (Quotable.escaped a.sourceType.toList).wellFormed
  have hrefusal := h.quotable_refusal.wellFormed
  have hdescribed := h.quotable_description.wellFormed
  have hcomma : wellFormed (quotedLiteral ", ".toList) = true := rfl
  have hnamed : ∀ w id, wellFormed (.name w id) = true := fun _ _ => rfl
  have hfixed : ∀ s, wellFormed (.fixed s) = true := fun _ => rfl
  cases a.debuggable <;>
    simp only [onLines, classWords, namesWords, refusalWords, accessorWords, describeWords,
      showWords, functionWords, namesType, named, List.all_append, List.all_cons, List.all_nil,
      hlisting, habout, hsource, hrefusal, hdescribed, hcomma, hnamed, hfixed,
      FromIdentifiers.written_fst, if_true, Bool.false_eq_true, if_false, Bool.and_true]
  all_goals rfl

/-- What the module of a companion is read as. -/
def moduleBody (h : FromIdentifiers a) : List Stmt :=
  [.importFrom 0 (some "__future__") [⟨"annotations", none⟩],
    .importFrom 0 (some "typing") [⟨"Final", none⟩, ⟨"Tuple", none⟩, ⟨"final", none⟩],
    .assign [.name "__all__"],
    .classDef 11 h.written.2 [] [.name "final"] (classBody a.debuggable)]

theorem length_listing (bodies : List (List Char)) :
    (listingWords bodies).length = 2 * bodies.length := by
  induction bodies with
  | nil => rfl
  | cons body bodies ih =>
    rw [listingWords, List.flatMap_cons, ← listingWords, List.length_append, ih, List.length_cons]
    simp only [List.length_cons, List.length_nil]
    omega

/-- The tokens of a companion are more than the steps that its statements take. -/
theorem length_words_ge (x : Written) (about : List Char) (bodies : List (List Char))
    (source : List Char) (debuggable : Bool) :
    bodies.length + 17 ≤ (onLines (classWords x about bodies source debuggable)).length := by
  have hnames : (namesWords bodies).length = 2 * bodies.length + 14 := by
    simp [namesWords, namesType, length_listing]
  simp only [onLines, classWords, List.length_cons, List.length_append, List.length_nil, hnames]
  omega

theorem ofTokens?_companion (h : FromIdentifiers a) {ts us : List Token} {line : Nat}
    (hts : Holds ts (openingWords h.written ++ [.fixed "@", named "final", .newline]))
    (hus : Holds us (onLines (classWords h.written (aboutOf a) (bodiesOf a)
      (a.sourceType.toList.flatMap Text.escapeChar) a.debuggable))) :
    ofTokens? (ts ++ ⟨11, .fixed "class"⟩ :: ⟨11, .name h.written.1 h.written.2⟩
      :: (us ++ [⟨line, .finish⟩])) = some (moduleBody h) := by
  have hlength := length_words_ge h.written (aboutOf a) (bodiesOf a)
    (a.sourceType.toList.flatMap Text.escapeChar) a.debuggable
  rw [← hus.length] at hlength
  -- the line of the decorator belongs to the class
  obtain ⟨vs, ws, rfl, hvs, hws⟩ := holds_append_iff.mp hts
  obtain ⟨bound, hbound⟩ : ∃ bound, (vs ++ ws ++ ⟨11, .fixed "class"⟩
      :: ⟨11, .name h.written.1 h.written.2⟩
      :: (us ++ [⟨line, .finish⟩] : List Token)).length = bound :=
    ⟨_, rfl⟩
  have hmany : (bodiesOf a).length + 17 ≤ bound := by
    rw [← hbound]
    simp only [List.length_append, List.length_cons]
    omega
  have hfinal : Phrase ((bodiesOf a).length + 16) [named "final"] (.name "final") :=
    phrase_name (written "final")
  have hclass := statement_of_class 11 11 h.written [⟨line, .finish⟩] hfinal rfl
    (block_class h.written (aboutOf a) (bodiesOf a) (a.sourceType.toList.flatMap Text.escapeChar)
      a.debuggable) hmany hws hus
  obtain ⟨left, hleft, hopening⟩ := block_opening (n := 0) h.written bound (bound + 1) vs
    (ws ++ ⟨11, .fixed "class"⟩ :: ⟨11, .name h.written.1 h.written.2⟩
      :: (us ++ [⟨line, .finish⟩])) (by omega) (by omega) hvs
  obtain ⟨left, rfl⟩ := Nat.exists_eq_add_of_le' (m := 2) (n := left) (by omega)
  have hopens : Heads (fun l => !endsBlock l) (ws ++ ⟨11, .fixed "class"⟩
      :: ⟨11, .name h.written.1 h.written.2⟩ :: (us ++ [⟨line, .finish⟩])) := .of_holds hws rfl _
  -- nothing stands behind the class
  have hrest : statementsFrom (bound + 1) (statements bound) (left + 1) [⟨line, .finish⟩]
      = some ([], [⟨line, .finish⟩]) := statementsFrom_end left _ ⟨_, _, rfl, rfl⟩
  rw [ofTokens?, hbound, statements, List.append_assoc, hopening,
    statementsFrom_more (left + 1) hopens hclass, hrest]
  rfl

theorem wellFormed_opening (h : FromIdentifiers a) :
    (openingWords h.written ++ [.fixed "@", named "final", .newline]).all wellFormed = true := by
  have hname : wellFormed (quotedLiteral a.name.toList) = true :=
    (Quotable.plain h.plain_name).wellFormed
  have hnamed : ∀ w id, wellFormed (.name w id) = true := fun _ _ => rfl
  have hfixed : ∀ s, wellFormed (.fixed s) = true := fun _ => rfl
  simp only [openingWords, named, List.all_append, List.all_cons, List.all_nil, hname, hnamed,
    hfixed, FromIdentifiers.written_fst, Bool.and_true]
  rfl

/-- The text of a companion is a module. -/
theorem parse?_render (h : FromIdentifiers a) :
    parse? (Rendering.render .python a) = some (moduleBody h) := by
  obtain ⟨ts, us, line, htokens, hts, hus⟩ := exists_tokens h
  have hzero : (Rendering.render .python a).toList.contains '\x00' = false := by
    rw [Bool.eq_false_iff]
    intro hcontains
    rcases mem_render h (by simpa using hcontains) with heq | hle
    · exact absurd heq (by decide)
    · exact absurd hle (by decide)
  have hwell : ∀ t ∈ ts ++ ⟨11, .fixed "class"⟩ :: ⟨11, .name h.written.1 h.written.2⟩
      :: (us ++ [⟨line, .finish⟩]), wellFormed t.lexeme = true := by
    refine List.forall_mem_append.mpr ⟨hts.all_wellFormed (wellFormed_opening h), ?_⟩
    rw [List.forall_mem_cons, List.forall_mem_cons, List.forall_mem_append]
    exact ⟨rfl, rfl, hus.all_wellFormed (wellFormed_class h), by simp [wellFormed]⟩
  rw [parse?]
  simp only [hzero, Bool.false_eq_true, if_false, htokens, Option.bind_eq_bind, Option.bind_some,
    literalsOk_of_wellFormed hwell, if_true, ofTokens?_companion h hts hus]

/-- The names that the imports of a companion bind. -/
def companionImports : ImportTable :=
  .ofList [("annotations", "__future__.annotations"), ("Final", "typing.Final"),
    ("Tuple", "typing.Tuple"), ("final", "typing.final")]

theorem fieldsOf_classBody (debuggable : Bool) : fieldsOf (classBody debuggable) = ["FIELDS"] := by
  cases debuggable <;> decide +kernel

theorem classesOfAll_classBody (file : SourceFile) (imports : ImportTable) (outer : String)
    (debuggable : Bool) : classesOfAll file imports outer (classBody debuggable) = [] := by
  cases debuggable <;> rfl

/-- A companion's text as a file of a source tree: it is read as a module, and declares the companion
and nothing else, as a class without bases and marks whose only field is the list of names. -/
theorem companion_declares_itself (h : FromIdentifiers a) {t : FileTree} {file : SourceFile}
    (hread : t.read file.path = .ok (Rendering.render .python a).toUTF8) :
    ClassIndex.declarationsIn? t file = some ⟨companionImports,
      [{ module := file.module
         path := a.name
         name := a.name
         bases := []
         fields := ["FIELDS"]
         marked := false
         interface := false
         origin := file.relativePath ++ ":11" }]⟩ := by
  have himports : importsOf file.module (isPackage file) (moduleBody h) = companionImports := rfl
  have hmark : [Expr.name "final"].any (isMark companionImports) = false := by decide +kernel
  rw [ClassIndex.declarationsIn?, readText_render h hread]
  simp only [declarations?, parse?_render h, Option.bind_eq_bind, Option.bind_some, himports]
  simp [moduleBody, classesOfAll, classesOf, classesOfAll_classBody, fieldsOf_classBody, hmark]
  constructor
  · rfl
  · rw [String.append_assoc]
    rfl

/-- A companion with field names that no name of the language could be. -/
def oddFields : Artifact where
  package := "shapes"
  name := "Box_Fielder"
  fieldNames := ⟨["class", "a\"b\\", "x\ny", "\x7bz\x7d"], true, by decide⟩
  debuggable := true
  sourceType := "shapes.Box"

/-- The file of that companion. -/
def oddFile : SourceFile := ⟨["gen", "Box_Fielder.py"], "Box_Fielder.py", "Box_Fielder"⟩

/-- A tree with that file. -/
def oddTree : FileTree where
  entries := [(["gen"], .directory),
    (["gen", "Box_Fielder.py"], .file (Rendering.render .python oddFields).toUTF8)]
  current := []
  home := []

theorem fromIdentifiers_oddFields : FromIdentifiers oddFields where
  proper := by decide +kernel
  composed := by decide +kernel
  ending := by decide +kernel
  source := ⟨["shapes", "Box"], by decide +kernel, by decide +kernel⟩

theorem read_oddFile : oddTree.read oddFile.path = .ok (Rendering.render .python oddFields).toUTF8 :=
  rfl

/-- Its module declares it, whatever its field names look like. -/
theorem oddFields_declared :
    ClassIndex.declarationsIn? oddTree oddFile = some ⟨companionImports,
      [{ module := "Box_Fielder"
         path := "Box_Fielder"
         name := "Box_Fielder"
         bases := []
         fields := ["FIELDS"]
         marked := false
         interface := false
         origin := "Box_Fielder.py:11" }]⟩ :=
  companion_declares_itself fromIdentifiers_oddFields read_oddFile

end Text

end Roster.Source
