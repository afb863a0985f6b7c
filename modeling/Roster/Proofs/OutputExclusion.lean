import Roster.Proofs.ScannedTree
import Roster.Proofs.Splitting
import Roster.TypeSource

/-! # Leaving the output directory out of the scan

A project's modules are scanned without what an earlier round has written: for each source root that
the output directory lies below, there is a rule with the path that leads from the root to it. The
rule is a wildcard, and it is a rule for every root. So it leaves out the directories of that path
below any root, and what else the wildcard matches; and it misses the output directory where signs in
the path are read as a wildcard.

* `Wildcard.matches_plain_iff`: a pattern without wildcard signs matches itself only.
* `matchesPath_outputPattern_iff`: which directories the rule of an output path leaves out.
* `omitted_iff_shut`: which modules below a root are left out beside those of the other rules.
-/

namespace Roster

/-! ## Patterns without brackets -/

namespace Wildcard

/-- The piece that a character stands for outside of brackets. -/
def pieceOf (c : Char) : Piece := if c = '*' then .star else if c = '?' then Piece.any else .exactly c

theorem piecesFrom_eq_map {cs : List Char} (h : '[' ∉ cs) {fuel : Nat} (hfuel : cs.length ≤ fuel) :
    piecesFrom fuel cs = cs.map pieceOf := by
  induction cs generalizing fuel with
  | nil => cases fuel <;> rfl
  | cons c rest ih =>
    obtain ⟨fuel, rfl⟩ : ∃ n, fuel = n + 1 := ⟨fuel - 1, by simp at hfuel; omega⟩
    rw [List.mem_cons, not_or] at h
    have hrest := ih h.2 (Nat.le_of_succ_le_succ hfuel)
    rw [piecesFrom, hrest, if_neg (fun hc : c = '[' => h.1 hc.symm), List.map_cons, pieceOf]
    split
    · rfl
    · split <;> rfl

theorem parse_eq_map {pattern : String} (h : '[' ∉ pattern.toList) :
    parse pattern = pattern.toList.map pieceOf :=
  piecesFrom_eq_map h (Nat.le_refl _)

/-- A pattern without brackets matches itself. -/
theorem matches_self {pattern : String} (h : '[' ∉ pattern.toList) :
    Matches (parse pattern) pattern.toList := by
  rw [parse_eq_map h]
  clear h
  induction pattern.toList with
  | nil => exact .nil
  | cons c rest ih =>
    rw [List.map_cons, pieceOf]
    split
    · exact .starStep (.starEnd ih)
    · split
      · exact .single rfl ih
      · exact .single (by simp [Piece.accepts]) ih

/-- A sign that is not read as itself in a pattern. -/
def IsSign (c : Char) : Prop := c = '*' ∨ c = '?' ∨ c = '['

instance : DecidablePred IsSign := fun c => inferInstanceAs (Decidable (c = '*' ∨ c = '?' ∨ c = '['))

theorem parse_eq_map_exactly {pattern : String} (h : ∀ c ∈ pattern.toList, ¬ IsSign c) :
    parse pattern = pattern.toList.map .exactly := by
  rw [parse_eq_map fun hmem => h _ hmem (.inr (.inr rfl))]
  apply List.map_congr_left
  intro c hc
  obtain ⟨hstar, hany, -⟩ : c ≠ '*' ∧ c ≠ '?' ∧ c ≠ '[' := by
    simpa [IsSign] using h c hc
  rw [pieceOf, if_neg hstar, if_neg hany]

/-- Characters that stand for themselves match one text only. -/
theorem matches_exactly_iff (ds cs : List Char) : Matches (ds.map .exactly) cs ↔ cs = ds := by
  induction ds generalizing cs with
  | nil =>
    constructor
    · rintro ⟨⟩
      rfl
    · rintro rfl
      exact .nil
  | cons d rest ih =>
    constructor
    · rintro ⟨⟩
      rename_i hd hrest
      rw [(ih _).mp hrest]
      simpa [Piece.accepts] using hd
    · rintro rfl
      exact .single (by simp [Piece.accepts]) ((ih rest).mpr rfl)

/-- A pattern without wildcard signs matches itself only. -/
theorem matches_plain_iff {pattern : String} (h : ∀ c ∈ pattern.toList, ¬ IsSign c)
    (cs : List Char) : Matches (parse pattern) cs ↔ cs = pattern.toList := by
  rw [parse_eq_map_exactly h]
  exact matches_exactly_iff pattern.toList cs

end Wildcard

/-! ## The rule of an output path -/

/-- The rule that leaves out the directory of a path below a root. -/
def outputPattern (names : List String) : IgnoreRule :=
  ⟨Path.joined names, true, true, false, (Path.joined names).contains '/'⟩

theorem trimmed_slashed (s : String) : Text.trimmed ("/" ++ s ++ "/") = "/" ++ s ++ "/" := by
  have hslash : Text.isBlank '/' = false := by decide
  apply String.toList_injective
  simp only [Text.trimmed, Text.stripBlanks, String.toList_ofList, String.toList_append,
    show "/".toList = ['/'] from rfl, List.cons_append,
    List.dropWhile_cons, hslash, List.reverse_cons, List.reverse_append, List.reverse_nil,
    List.nil_append, Bool.false_eq_true, if_false, List.reverse_reverse]

/-- A path between slashes is the rule of the directory that it leads to. -/
theorem ofPattern?_slashed (names : List String) :
    IgnoreRule.ofPattern? ("/" ++ Path.joined names ++ "/") false = some (outputPattern names) := by
  have hne : ("/" ++ Path.joined names ++ "/" : String) ≠ "" := by
    intro h
    have hlist := congrArg String.toList h
    simp at hlist
  have hlast : IgnoreRule.withoutFinalSlash ("/" ++ Path.joined names ++ "/")
      = ("/" ++ Path.joined names, true) := by
    simp [IgnoreRule.withoutFinalSlash]
  have hfirst : IgnoreRule.withoutFirstSlash ("/" ++ Path.joined names)
      = (Path.joined names, true) := by
    simp [IgnoreRule.withoutFirstSlash]
  rw [IgnoreRule.ofPattern?, trimmed_slashed]
  simp only [hne, if_false, hlast, hfirst]
  rfl

/-- What the rule of an output path leaves out: a directory that its wildcard matches, and one that
lies below the path. -/
theorem matchesPath_outputPattern_iff {ps ds : List String} (hps : ps ≠ []) (hds : ds ≠ [])
    (hp : ∀ name ∈ ps, Path.IsName name) (hd : ∀ name ∈ ds, Path.IsName name) :
    (outputPattern ps).matchesPath (Path.joined ds) true = true ↔
      Wildcard.Matches (Wildcard.parse (Path.joined ps)) (Path.joined ds).toList ∨
        ps <+: ds ∧ ps ≠ ds := by
  have hempty : Path.joined ps ≠ "" := Path.joined_ne_empty hps hp
  rw [← Wildcard.matchesText_iff, ← Path.joined_prefix_iff hps hds hp hd]
  simp [IgnoreRule.matchesPath, outputPattern, hempty]

/-! ## What the rules of all roots leave out -/

/-- The output directory lies strictly below a root, at the end of names. -/
def OutputBelow (t : FileTree) (output root : Path) (names : List String) : Prop :=
  names ≠ [] ∧ ∃ base, t.resolve root = .ok base ∧ output.relativeTo? base = some names

theorem relativeTo?_eq_some_iff (p base : Path) (names : List String) :
    p.relativeTo? base = some names ↔ p.root = base.root ∧ p.parts = base.parts ++ names := by
  unfold Path.relativeTo?
  by_cases hroot : p.root = base.root
  · by_cases hbase : base.parts <+: p.parts
    · obtain ⟨rest, hrest⟩ := hbase
      simp [hroot, ← hrest]
    · have hparts : p.parts ≠ base.parts ++ names := fun h => hbase ⟨names, h.symm⟩
      simp [hroot, hbase, hparts]
  · simp [hroot]

theorem OutputBelow.isName {t : FileTree} {output root : Path} {names : List String}
    (h : OutputBelow t output root names) (houtput : ∀ name ∈ output.parts, Path.IsName name) :
    ∀ name ∈ names, Path.IsName name := by
  obtain ⟨-, base, -, hrelative⟩ := h
  obtain ⟨-, hparts⟩ := (relativeTo?_eq_some_iff ..).mp hrelative
  intro name hname
  exact houtput name (hparts ▸ List.mem_append_right _ hname)

theorem outputRule?_eq_some_iff (t : FileTree) (output root : Path) (pattern : String) :
    outputRule? t output root = some pattern ↔
      ∃ names, OutputBelow t output root names ∧ pattern = "/" ++ Path.joined names ++ "/" := by
  unfold outputRule? OutputBelow
  cases hresolve : t.resolve root with
  | error fault => simp
  | ok base =>
    cases hrelative : output.relativeTo? base with
    | none => simp [hrelative]
    | some names =>
      cases names with
      | nil => simp [hrelative]
      | cons name names => simp [hrelative, Path.joined, eq_comm]

/-- The rules for the output directory, one for each root that it lies strictly below. -/
theorem mem_outputRules_iff (t : FileTree) (output : Path) (roots : List Path) (rule : IgnoreRule) :
    rule ∈ excludeRules (roots.filterMap (outputRule? t output)) ↔
      ∃ root ∈ roots, ∃ names, OutputBelow t output root names ∧ rule = outputPattern names := by
  unfold excludeRules
  simp only [List.mem_filterMap, outputRule?_eq_some_iff]
  constructor
  · rintro ⟨pattern, ⟨root, hroot, names, hbelow, rfl⟩, hrule⟩
    rw [ofPattern?_slashed] at hrule
    exact ⟨root, hroot, names, hbelow, (Option.some.inj hrule).symm⟩
  · rintro ⟨root, hroot, names, hbelow, rfl⟩
    exact ⟨_, ⟨root, hroot, names, hbelow, rfl⟩, ofPattern?_slashed names⟩

theorem shutsFolders_outputRules (t : FileTree) (output : Path) (roots : List Path) :
    ∀ rule ∈ excludeRules (roots.filterMap (outputRule? t output)),
      rule.negated = false ∧ rule.directoryOnly = true := by
  intro rule hrule
  obtain ⟨root, -, names, -, rfl⟩ := (mem_outputRules_iff ..).mp hrule
  exact ⟨rfl, rfl⟩

/-- A module lies below a directory that the rule of an output path leaves out. -/
def ShutOut (ps names : List String) : Prop :=
  ∃ above, above ≠ [] ∧ above <+: names ∧ above ≠ names ∧
    (Wildcard.Matches (Wildcard.parse (Path.joined ps)) (Path.joined above).toList ∨
      ps <+: above ∧ ps ≠ above)

/-- A path without wildcard signs leaves out what lies below it. -/
theorem shutOut_plain_iff {ps names : List String} (hne : ps ≠ [])
    (hps : ∀ name ∈ ps, Path.IsName name) (hnames : ∀ name ∈ names, Path.IsName name)
    (hplain : ∀ c ∈ (Path.joined ps).toList, ¬ Wildcard.IsSign c) :
    ShutOut ps names ↔ ps <+: names ∧ ps ≠ names := by
  constructor
  · rintro ⟨above, habove, hstart, hshorter, hmatch | ⟨hbelow, -⟩⟩
    · rw [Wildcard.matches_plain_iff hplain, String.toList_inj] at hmatch
      have hall : ∀ name ∈ above, Path.IsName name := fun name hname =>
        hnames name (hstart.subset hname)
      obtain rfl := (Path.joined_inj habove hne hall hps).mp hmatch
      exact ⟨hstart, hshorter⟩
    · refine ⟨hbelow.trans hstart, ?_⟩
      rintro rfl
      exact hshorter (hstart.eq_of_length (Nat.le_antisymm hstart.length_le hbelow.length_le))
  · rintro ⟨hstart, hshorter⟩
    exact ⟨ps, hne, hstart, hshorter, .inl ((Wildcard.matches_plain_iff hplain _).mpr rfl)⟩

/-- Modules pass the rules for the output directory when none of these shuts them out. -/
theorem passes_outputRules_iff {t : FileTree} {output : Path} {roots : List Path}
    {names : List String} (houtput : ∀ name ∈ output.parts, Path.IsName name)
    (hnames : ∀ name ∈ names, Path.IsName name) :
    Passes (excludeRules (roots.filterMap (outputRule? t output))) "" names ↔
      ¬ ∃ root ∈ roots, ∃ ps, OutputBelow t output root ps ∧ ShutOut ps names := by
  have hmatches : ∀ root ps, OutputBelow t output root ps → ∀ above, above ≠ [] → above <+: names →
      ((outputPattern ps).matchesPath (namedPath "" above) true = true ↔
        Wildcard.Matches (Wildcard.parse (Path.joined ps)) (Path.joined above).toList ∨
          ps <+: above ∧ ps ≠ above) := by
    intro root ps hbelow above habove hstart
    have hall : ∀ name ∈ above, Path.IsName name := fun name hname =>
      hnames name (hstart.subset hname)
    rw [namedPath_eq_joined hall]
    exact matchesPath_outputPattern_iff hbelow.1 habove (hbelow.isName houtput) hall
  constructor
  · rintro hpasses ⟨root, hroot, ps, hbelow, above, habove, hstart, hshorter, hshut⟩
    have hopen := hpasses above habove hstart hshorter (outputPattern ps)
      ((mem_outputRules_iff ..).mpr ⟨root, hroot, ps, hbelow, rfl⟩)
    rw [(hmatches root ps hbelow above habove hstart).mpr hshut] at hopen
    contradiction
  · intro hnone above habove hstart hshorter rule hrule
    obtain ⟨root, hroot, ps, hbelow, rfl⟩ := (mem_outputRules_iff ..).mp hrule
    by_contra hshut
    rw [Bool.not_eq_false, hmatches root ps hbelow above habove hstart] at hshut
    exact hnone ⟨root, hroot, ps, hbelow, above, habove, hstart, hshorter, hshut⟩

/-- The modules of a project are scanned under the usual rules and those for the output directory. -/
theorem excludeRules_of_modulesSource {t : FileTree} {s : Settings} {roots : List Path}
    {patterns : List String} (h : modulesSource t s = .ok (.modules roots patterns)) {output : Path}
    (houtput : t.resolve s.outputRoot = .ok output) :
    roots = (s.sources.map fun source => s.root / Path.parse source) ∧
      excludeRules patterns = excludeRules s.excludePaths
        ++ excludeRules (roots.filterMap (outputRule? t output)) := by
  simp only [modulesSource, houtput, Except.mapError, bind, Except.bind] at h
  obtain ⟨rfl, rfl⟩ := TypeSource.modules.inj (Except.ok.inj h)
  exact ⟨rfl, List.filterMap_append⟩

/-- A module that the usual rules let through is left out when, and only when, a directory above it
is shut by the rule of the output directory's path below some source root: below whatever root that
path, read as a wildcard, leads to a directory. If the path has no wildcard signs and there is one
such root only, these are the modules below the output directory. -/
theorem omitted_iff_shut {t : FileTree} {s : Settings} {roots : List Path} {patterns : List String}
    (hsource : modulesSource t s = .ok (.modules roots patterns)) {output : Path}
    (hresolve : t.resolve s.outputRoot = .ok output) (ht : t.Named)
    (houtput : ∀ name ∈ output.parts, Path.IsName name) {root : Path} (hroot : root ∈ roots)
    {found : List SourceFile} (hfound : scan t (excludeRules s.excludePaths) root = .ok found)
    {f : SourceFile} (hf : f ∈ found) :
    ∃ kept, scan t (excludeRules patterns) root = .ok kept ∧
      (f ∉ kept ↔ ∃ other ∈ roots, ∃ ps, OutputBelow t output other ps ∧
        ShutOut ps (splitText '/' f.relativePath)) ∧
      (root.expandHome t.home = some root →
        (∀ other ∈ roots, ∀ ps, OutputBelow t output other ps →
          t.resolve other = t.resolve root ∧ ∀ c ∈ (Path.joined ps).toList, ¬ Wildcard.IsSign c) →
        (f ∉ kept ↔ (∃ ps, OutputBelow t output root ps) ∧
          output.parts <+: f.place ∧ output.parts ≠ f.place)) := by
  obtain ⟨top, rules, hscans⟩ := exists_scansFrom hfound
  obtain ⟨names, hlength, hreaches, rfl⟩ := (hscans.mem_iff hfound f).mp hf
  have hnames : ∀ name ∈ names, Path.IsName name := hreaches.isName ht
  have hsplit : splitText '/' (moduleAt top.parts names).relativePath = names := by
    rw [moduleAt, namedPath_eq_joined hnames, Path.splitText_joined hreaches.ne_nil hnames]
  obtain ⟨kept, hkept⟩ : ∃ kept, scan t (excludeRules patterns) root = .ok kept :=
    ⟨_, hscans.scan_eq _⟩
  -- the rules for the output directory come last, and only shut directories
  have hshut : moduleAt top.parts names ∉ kept ↔ ∃ other ∈ roots, ∃ ps,
      OutputBelow t output other ps ∧ ShutOut ps names := by
    have hmem : moduleAt top.parts names ∈ kept ↔
        Passes (excludeRules (roots.filterMap (outputRule? t output))) "" names := by
      rw [hscans.mem_moduleAt_iff hkept, (excludeRules_of_modulesSource hsource hresolve).2,
        ← List.append_assoc, reaches_append_iff (shutsFolders_outputRules t output roots)]
      exact ⟨fun h => h.2.2, fun h => ⟨hlength, hreaches, h⟩⟩
    rw [hmem, passes_outputRules_iff houtput hnames, not_not]
  refine ⟨kept, hkept, ?_, ?_⟩
  · rw [hsplit]
    exact hshut
  · intro hhome hplain
    have htop : t.resolve root = .ok top := by
      obtain ⟨expanded, hexpanded, htop⟩ := hscans.resolved
      rw [hhome] at hexpanded
      rwa [Option.some.inj hexpanded]
    have hunder : ∀ ps, OutputBelow t output root ps →
        (ShutOut ps names ↔ output.parts <+: top.parts ++ names ∧
          output.parts ≠ top.parts ++ names) := by
      intro ps hbelow
      have hplainBelow := (hplain root hroot ps hbelow).2
      have hproper := hbelow.isName houtput
      obtain ⟨hne, base, hbase, hrelative⟩ := hbelow
      obtain rfl : top = base := Except.ok.inj (htop.symm.trans hbase)
      rw [shutOut_plain_iff hne hproper hnames hplainBelow,
        ((relativeTo?_eq_some_iff ..).mp hrelative).2, List.prefix_append_right_inj,
        ne_eq, ne_eq, List.append_cancel_left_eq]
    rw [hshut]
    constructor
    · rintro ⟨other, hother, ps, hbelow, hout⟩
      have hroots : OutputBelow t output root ps := by
        have hsame := (hplain other hother ps hbelow).1
        obtain ⟨hne, base, hbase, hrelative⟩ := hbelow
        exact ⟨hne, base, hsame ▸ hbase, hrelative⟩
      exact ⟨⟨ps, hroots⟩, (hunder ps hroots).mp hout⟩
    · rintro ⟨⟨ps, hbelow⟩, hunderOutput⟩
      exact ⟨root, hroot, ps, hbelow, (hunder ps hbelow).mpr hunderOutput⟩

/-! ## A site with two source roots -/

/-- A tree of two directories, one of them with a module in a folder. -/
def siteWith (folder : String) : FileTree where
  entries := [(["a"], .directory), (["a", folder], .directory),
    (["a", folder, "x.py"], .file "".toUTF8), (["b"], .directory)]
  current := []
  home := []

/-- The settings of such a site. -/
def siteSettings (sources : List String) (output : String) : Settings :=
  { Settings.usual (Path.parse "/") with sources, output := some (Path.parse output) }

theorem reaches_siteWith {folder : String} (h : folder ∉ skippedDirectories) :
    Reaches (siteWith folder) [] ["a"] "" [folder, "x.py"] := by
  have hending : "x.py".endsWith ".py" = true := by decide +kernel
  refine .folder ?_ h rfl (.file (e := .file "".toUTF8) ?_ (by decide) hending rfl)
  · simp [siteWith, FileTree.namesIn]
  · simp [siteWith, FileTree.namesIn]

/-- The module in the output directory is left out. -/
theorem omitted_in_site :
    ∃ kept, scan (siteWith "gen") (excludeRules ["/gen/"]) (Path.parse "/a") = .ok kept ∧
      moduleAt ["a"] ["gen", "x.py"] ∉ kept := by
  have hscans : ScansFrom (siteWith "gen") (Path.parse "/a") (Path.parse "/a") [] :=
    ⟨⟨_, rfl, rfl⟩, rfl, rfl, rfl⟩
  have hfound := hscans.scan_eq (excludeRules (siteSettings ["a"] "/a/gen").excludePaths)
  have hmem := (hscans.mem_moduleAt_iff hfound ["gen", "x.py"]).mpr
    ⟨by decide, reaches_siteWith (by decide)⟩
  have hsource : modulesSource (siteWith "gen") (siteSettings ["a"] "/a/gen")
      = .ok (.modules [Path.parse "/a"] ["/gen/"]) := rfl
  have hresolve : (siteWith "gen").resolve (siteSettings ["a"] "/a/gen").outputRoot
      = .ok (Path.parse "/a/gen") := rfl
  obtain ⟨kept, hkept, -, hunder⟩ := omitted_iff_shut hsource hresolve (by decide)
    (fun name => Path.isName_of_mem_parse) List.mem_cons_self hfound hmem
  refine ⟨kept, hkept, (hunder rfl ?_).mpr ⟨⟨["gen"], by decide, _, rfl, rfl⟩, by decide, by decide⟩⟩
  rintro other hother ps ⟨-, base, hbase, hrelative⟩
  obtain rfl := List.mem_singleton.mp hother
  obtain rfl := Except.ok.inj hbase
  obtain rfl : ["gen"] = ps := Option.some.inj hrelative
  exact ⟨rfl, forall_of_all (by decide)⟩

/-- The module in an output directory whose name has brackets is scanned, while a module in a
directory that bears the output directory's name below another root is left out. -/
theorem scanned_in_output_omitted_beside :
    (∃ kept, modulesSource (siteWith "gen[1]") (siteSettings ["a"] "/a/gen[1]")
        = .ok (.modules [Path.parse "/a"] ["/gen[1]/"]) ∧
      scan (siteWith "gen[1]") (excludeRules ["/gen[1]/"]) (Path.parse "/a") = .ok kept ∧
      OutputBelow (siteWith "gen[1]") (Path.parse "/a/gen[1]") (Path.parse "/a") ["gen[1]"] ∧
      (Path.parse "/a/gen[1]").parts <+: (moduleAt ["a"] ["gen[1]", "x.py"]).place ∧
      moduleAt ["a"] ["gen[1]", "x.py"] ∈ kept) ∧
    ∃ found kept, modulesSource (siteWith "gen") (siteSettings ["a", "b"] "/b/gen")
        = .ok (.modules [Path.parse "/a", Path.parse "/b"] ["/gen/"]) ∧
      scan (siteWith "gen") (excludeRules []) (Path.parse "/a") = .ok found ∧
      scan (siteWith "gen") (excludeRules ["/gen/"]) (Path.parse "/a") = .ok kept ∧
      (¬ ∃ names, OutputBelow (siteWith "gen") (Path.parse "/b/gen") (Path.parse "/a") names) ∧
      moduleAt ["a"] ["gen", "x.py"] ∈ found ∧ moduleAt ["a"] ["gen", "x.py"] ∉ kept := by
  constructor
  · have hscans : ScansFrom (siteWith "gen[1]") (Path.parse "/a") (Path.parse "/a") [] :=
      ⟨⟨_, rfl, rfl⟩, rfl, rfl, rfl⟩
    have hkept := hscans.scan_eq (excludeRules ["/gen[1]/"])
    have hpasses : Passes (excludeRules ["/gen[1]/"]) "" ["gen[1]", "x.py"] := by
      rw [passes_cons_iff _ _ _ (by decide)]
      exact ⟨by decide, passes_singleton _ _ _⟩
    refine ⟨_, rfl, hkept, ⟨by decide, _, rfl, rfl⟩, by decide, ?_⟩
    refine (hscans.mem_moduleAt_iff hkept _).mpr ⟨by decide, ?_⟩
    exact (reaches_append_iff (by decide) _ [] _ _ _).mpr ⟨reaches_siteWith (by decide), hpasses⟩
  · have hscans : ScansFrom (siteWith "gen") (Path.parse "/a") (Path.parse "/a") [] :=
      ⟨⟨_, rfl, rfl⟩, rfl, rfl, rfl⟩
    have hfound := hscans.scan_eq (excludeRules [])
    have hkept := hscans.scan_eq (excludeRules ["/gen/"])
    refine ⟨_, _, rfl, hfound, hkept, ?_, ?_, ?_⟩
    · rintro ⟨names, -, base, hbase, hrelative⟩
      obtain rfl := Except.ok.inj hbase
      contradiction
    · exact (hscans.mem_moduleAt_iff hfound _).mpr ⟨by decide, reaches_siteWith (by decide)⟩
    · intro hmem
      obtain ⟨-, hreaches⟩ := (hscans.mem_moduleAt_iff hkept ["gen", "x.py"]).mp hmem
      have hpasses := ((reaches_append_iff (by decide) _ [] _ _ _).mp hreaches).2
      have hopen := ((passes_cons_iff _ _ _ (by decide)).mp hpasses).1
      have hrule : outputPattern ["gen"] ∈ excludeRules ["/gen/"] :=
        List.mem_filterMap.mpr ⟨_, List.mem_cons_self, ofPattern?_slashed ["gen"]⟩
      exact absurd (hopen _ hrule) (by decide)

end Roster
