import Roster.Lineage
import Roster.Proofs.CompanionPaths
import Roster.Proofs.ManifestEntries

/-! # Companions and the bounds of the output directory

The path of a companion is joined from texts: the directories of its package, then its file name. A
text that starts with a slash restarts the path at the root, so that the output directory in front of
it is forgotten. Nothing else leads out: a directory of a package has no dot, and the types of a
manifest have none in their own names, so that no part is a way up.

* `Path.isAbsolute_ofTexts_iff`: a path of several texts is absolute when one of them is.
* `Path.ofTexts_of_relative`: otherwise it has the parts of all of them.
* `noDot_lastPart`: the own name of a type of a manifest has no dot.
* `companion_below_output_iff`: the companions of a manifest's types that stay below the output.
-/

namespace Roster

/-! ## Paths of texts that may start with a slash -/

namespace Path

/-- Whether a text starts a path of its own at the root. -/
def StartsAtRoot (s : String) : Prop := s.toList.head? = some '/'

instance : DecidablePred StartsAtRoot := fun s => inferInstanceAs (Decidable (s.toList.head? = _))

theorem isAbsolute_parse_iff (s : String) : (parse s).isAbsolute = true ↔ StartsAtRoot s := by
  have hroot : ∀ cs : List Char, rootOf cs ≠ .relative ↔ cs.head? = some '/' := by
    intro cs
    cases cs with
    | nil => simp [rootOf]
    | cons c rest =>
      by_cases hc : c = '/'
      · have hlength : ((c :: rest).takeWhile (· = '/')).length
            = (rest.takeWhile (· = '/')).length + 1 := by
          rw [List.takeWhile_cons_of_pos (by simpa using hc), List.length_cons]
        rw [rootOf, hlength]
        constructor
        · intro _
          simp [hc]
        · intro _
          split <;> simp_all
      · simp [rootOf, hc]
  rw [isAbsolute, parse, decide_eq_true_eq]
  exact hroot s.toList

theorem isAbsolute_join (p q : Path) :
    (p / q).isAbsolute = true ↔ p.isAbsolute = true ∨ q.isAbsolute = true := by
  change (join p q).isAbsolute = true ↔ _
  unfold join
  split
  · rename_i hq
    simp [hq]
  · rename_i hq
    simp only [hq, Bool.false_eq_true, or_false]
    rfl

/-- A path of several texts is absolute exactly when one of them starts at the root. -/
theorem isAbsolute_ofTexts_iff (pieces : List String) :
    (ofTexts pieces).isAbsolute = true ↔ ∃ s ∈ pieces, StartsAtRoot s := by
  have hfold : ∀ p : Path, (pieces.foldl (fun p s => p / parse s) p).isAbsolute = true ↔
      p.isAbsolute = true ∨ ∃ s ∈ pieces, StartsAtRoot s := by
    induction pieces with
    | nil => simp
    | cons s rest ih =>
      intro p
      rw [List.foldl_cons, ih, isAbsolute_join, isAbsolute_parse_iff, or_assoc]
      simp only [List.mem_cons, exists_eq_or_imp]
  have hhere : here.isAbsolute = false := rfl
  rw [ofTexts, hfold, hhere]
  simp

/-- Without a text that starts at the root, a path has the parts of all texts in order. -/
theorem ofTexts_of_relative {pieces : List String} (h : ¬ ∃ s ∈ pieces, StartsAtRoot s) :
    ofTexts pieces = ⟨.relative, pieces.flatMap fun s => (parse s).parts⟩ := by
  have hfold : ∀ parts : List String, pieces.foldl (fun p s => p / parse s) ⟨.relative, parts⟩
      = ⟨.relative, parts ++ pieces.flatMap fun s => (parse s).parts⟩ := by
    induction pieces with
    | nil => simp
    | cons s rest ih =>
      intro parts
      simp only [List.mem_cons, exists_eq_or_imp, not_or] at h
      rw [← isAbsolute_parse_iff] at h
      have hjoin : (⟨.relative, parts⟩ : Path) / parse s = ⟨.relative, parts ++ (parse s).parts⟩ := by
        change join _ _ = _
        rw [join, if_neg h.1]
      rw [List.foldl_cons, hjoin, ih h.2, List.flatMap_cons, List.append_assoc]
  exact hfold []

/-- An absolute path is not seen from anywhere else. -/
theorem join_of_isAbsolute {q : Path} (h : q.isAbsolute = true) (p : Path) : p / q = q :=
  if_pos h

/-- A path lies strictly below another: it leads through it to at least one name more. -/
def StrictlyBelow (current : List String) (p root : Path) : Prop :=
  ∃ names, names ≠ [] ∧ (p.resolved current).parts = (root.resolved current).parts ++ names

theorem not_strictlyBelow_self (current : List String) (p : Path) : ¬ StrictlyBelow current p p := by
  rintro ⟨names, hne, hparts⟩
  exact hne (List.self_eq_append_right.mp hparts)

/-- Names without a way up lead below whatever stands in front of them. -/
theorem strictlyBelow_join {names : List String} (hne : names ≠ []) (hup : ".." ∉ names)
    (current : List String) (output : Path) :
    StrictlyBelow current (output / ⟨.relative, names⟩) output := by
  refine ⟨names, hne, ?_⟩
  change normalise (if output.isAbsolute then [] else current) (output.parts ++ names)
    = normalise (if output.isAbsolute then [] else current) output.parts ++ names
  rw [normalise_append, normalise_of_notMem hup]

end Path

/-! ## The parts of a companion's path -/

/-- A text without dots has no part that is a way up. -/
theorem notMem_parts_parse_of_noDot {s : String} (h : '.' ∉ s.toList) :
    ".." ∉ (Path.parse s).parts := by
  intro hmem
  obtain ⟨hpiece, -⟩ := List.mem_filter.mp hmem
  exact h (mem_of_mem_splitText hpiece (show '.' ∈ "..".toList by decide)).1

/-- An ending without slashes goes to the last piece of a text. -/
theorem splitText_slash_append {s ending : String} (h : '/' ∉ ending.toList) :
    ∃ front last, splitText '/' s = front ++ [last] ∧
      splitText '/' (s ++ ending) = front ++ [last ++ ending] := by
  have hending : splitChars '/' ending.toList = [ending.toList] := by
    rw [splitChars_eq_splitOn, List.splitOn_eq_singleton h]
  obtain ⟨front, last, hsplit, hlonger⟩ := splitChars_append hending s.toList
  refine ⟨front.map String.ofList, String.ofList last, ?_, ?_⟩
  · rw [splitText, hsplit, List.map_append, List.map_singleton]
  · rw [splitText, String.toList_append, hlonger, List.map_append, List.map_singleton,
      String.ofList_append, String.ofList_toList]

namespace Artifact

/-- A companion is rooted when a directory of its package, or its name, starts with a slash. -/
def Rooted (a : Artifact) : Prop := ∃ s ∈ a.directories ++ [a.name], Path.StartsAtRoot s

instance : DecidablePred Rooted := fun a =>
  inferInstanceAs (Decidable (∃ s ∈ a.directories ++ [a.name], Path.StartsAtRoot s))

theorem startsAtRoot_fileName_iff (language : Language) (a : Artifact) :
    Path.StartsAtRoot (a.fileName language) ↔ Path.StartsAtRoot a.name := by
  rw [Path.StartsAtRoot, Path.StartsAtRoot, fileName, String.toList_append]
  cases a.name.toList with
  | nil => cases language <;> decide
  | cons c rest => rfl

/-- The path of a companion is absolute exactly when the companion is rooted. -/
theorem isAbsolute_relativePath_iff (language : Language) (a : Artifact) :
    (relativePath language a).isAbsolute = true ↔ a.Rooted := by
  have htexts : relativePath language a
      = Path.ofTexts (a.directories ++ [a.fileName language]) := rfl
  rw [htexts, Path.isAbsolute_ofTexts_iff, Rooted]
  simp [or_and_right, exists_or, startsAtRoot_fileName_iff]

/-- The path of any other companion is relative and goes nowhere up, if its name has no dot. -/
theorem relativePath_of_not_rooted (language : Language) {a : Artifact} (h : ¬ a.Rooted)
    (hname : '.' ∉ a.name.toList) :
    ∃ names, names ≠ [] ∧ ".." ∉ names ∧ relativePath language a = ⟨.relative, names⟩ := by
  have hrelative : ¬ ∃ s ∈ a.directories ++ [a.fileName language], Path.StartsAtRoot s :=
    fun hroot => h ((a.isAbsolute_relativePath_iff language).mp
      ((Path.isAbsolute_ofTexts_iff _).mpr hroot))
  have hending : '/' ∉ language.extension.toList := by cases language <;> decide
  obtain ⟨front, last, hsplit, hfile⟩ := splitText_slash_append hending (s := a.name)
  have hlast : Path.isPart (last ++ language.extension) = true ∧
      last ++ language.extension ≠ ".." :=
    isPart_fileName language { a with name := last }
  have hparts : (Path.parse (a.fileName language)).parts
      = front.filter Path.isPart ++ [last ++ language.extension] := by
    rw [Path.parse, fileName, hfile, List.filter_append, List.filter_cons_of_pos hlast.1,
      List.filter_nil]
  have hnames : (a.directories ++ [a.fileName language]).flatMap (fun s => (Path.parse s).parts)
      = a.directories.flatMap (fun s => (Path.parse s).parts)
        ++ (front.filter Path.isPart ++ [last ++ language.extension]) := by
    rw [List.flatMap_append, List.flatMap_singleton, hparts]
  refine ⟨_, ?_, ?_, (Path.ofTexts_of_relative hrelative).trans (congrArg _ hnames)⟩
  · simp
  · rw [List.mem_append, List.mem_append, List.mem_singleton, not_or, not_or]
    refine ⟨?_, ?_, hlast.2.symm⟩
    · -- a directory is a piece between dots
      intro hmem
      obtain ⟨s, hs, hpart⟩ := List.mem_flatMap.mp hmem
      have hdot : '.' ∉ s.toList := fun hc =>
        (mem_of_mem_splitText (List.mem_filter.mp hs).1 hc).2 rfl
      exact notMem_parts_parse_of_noDot hdot hpart
    · intro hmem
      have hpiece : ".." ∈ splitText '/' a.name := by
        rw [hsplit]
        exact List.mem_append_left _ (List.mem_filter.mp hmem).1
      exact hname (mem_of_mem_splitText hpiece (show '.' ∈ "..".toList by decide)).1

end Artifact

/-! ## The types of a manifest -/

theorem noDot_lastPart (name : String) : '.' ∉ (lastPart name).toList := by
  unfold lastPart
  cases hlast : (splitText '.' name).getLast? with
  | none => decide
  | some last =>
    intro hc
    exact (mem_of_mem_splitText (List.mem_of_getLast? hlast) hc).2 rfl

/-- The companion of a type of a manifest stays strictly below every output directory exactly when
no directory of its package and not its name starts with a slash: it is then written under names
that go nowhere up. Otherwise it is written at a place of its own, whatever the output directory is. -/
theorem companion_below_output_iff {nesting : Nat} {origin : Option String} {v : Document.Value}
    {d : Discovery} (h : Manifest.ofValue nesting origin v = .ok d) {i : TypeId} {t : TypeDescriptor}
    (ht : d.graph.get? i = some t) (names : FieldNames) (debuggable : Bool) (language : Language) :
    let a := Artifact.build t names debuggable
    ((∀ current output, Path.StrictlyBelow current (output / relativePath language a) output) ↔
      ¬ a.Rooted) ∧
    (¬ a.Rooted → ∃ below, below ≠ [] ∧ ".." ∉ below ∧
      relativePath language a = ⟨.relative, below⟩) ∧
    (a.Rooted → ∀ output, output / relativePath language a = relativePath language a) := by
  intro a
  have hname : '.' ∉ a.name.toList := by
    change '.' ∉ (t.simpleName ++ Artifact.nameEnding).toList
    rw [Manifest.simpleName_of_ofValue h ht, String.toList_append, List.mem_append, not_or]
    exact ⟨noDot_lastPart _, by decide⟩
  have haway : a.Rooted → ∀ output, output / relativePath language a = relativePath language a := by
    intro hrooted output
    exact Path.join_of_isAbsolute ((a.isAbsolute_relativePath_iff language).mpr hrooted) output
  refine ⟨⟨?_, ?_⟩, fun hfree => a.relativePath_of_not_rooted language hfree hname, haway⟩
  · -- a place of its own does not lie below itself
    intro hbelow hrooted
    have hself := hbelow [] (relativePath language a)
    rw [haway hrooted] at hself
    exact Path.not_strictlyBelow_self [] _ hself
  · intro hfree current output
    obtain ⟨below, hne, hup, hpath⟩ := a.relativePath_of_not_rooted language hfree hname
    rw [hpath]
    exact Path.strictlyBelow_join hne hup current output

/-- A manifest of one type in a package. -/
def packagedType (package : String) : Document.Value :=
  .map [(.text "types", .seq [.map [(.text "name", .text "X"), (.text "package", .text package),
    (.text "fields", .seq [.text "one"])]])]

/-- The type of such a manifest. -/
def packagedEntry (package : String) : Manifest.Entry :=
  ⟨"X", package, [some "one"], none, classKind, true⟩

theorem ofValue_packagedType (package : String) :
    Manifest.ofValue Limits.ample.nesting none (packagedType package)
      = .ok (Manifest.discoveryOf [packagedEntry package] none) := by
  rfl

theorem companion_below_output_ab :
    let t := (packagedEntry "a.b").descriptor [packagedEntry "a.b"] none 0
    Manifest.ofValue Limits.ample.nesting none (packagedType "a.b")
      = .ok (Manifest.discoveryOf [packagedEntry "a.b"] none) ∧
    ∀ current output, Path.StrictlyBelow current
      (output / relativePath .python (Artifact.build t FieldNames.empty false)) output :=
  ⟨rfl, (companion_below_output_iff (ofValue_packagedType "a.b") (i := 0) rfl FieldNames.empty false
    .python).1.mpr (by decide)⟩

/-- A package that starts with a slash: the type is found and its fields are collected, and its
companion is written outside the output directory. -/
theorem companion_outside_output :
    ∃ d t names,
      Manifest.ofValue Limits.ample.nesting none (packagedType "/srv") = .ok d ∧ d.found = [0] ∧
      d.graph.get? 0 = some t ∧ (collect d.graph .standard (some 0)).1 = .ok names ∧
      Path.parse "out" / relativePath .python (Artifact.build t names false)
        = Path.parse "/srv/X_Fielder.py" ∧
      ¬ Path.StrictlyBelow [] (Path.parse "/srv/X_Fielder.py") (Path.parse "out") := by
  refine ⟨_, (packagedEntry "/srv").descriptor [packagedEntry "/srv"] none 0, _,
    ofValue_packagedType "/srv", rfl, rfl, rfl, by decide, ?_⟩
  rintro ⟨names, -, hparts⟩
  have hsrv : ((Path.parse "/srv/X_Fielder.py").resolved []).parts = ["srv", "X_Fielder.py"] := by
    decide
  have hout : ((Path.parse "out").resolved []).parts = ["out"] := by decide
  rw [hsrv, hout] at hparts
  simp at hparts

end Roster
