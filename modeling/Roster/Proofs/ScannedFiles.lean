import Roster.Proofs.StableScan

/-! # Which files a scan finds

A scan walks a tree and leaves directories out as it goes. What it finds can be said without the walk:
the files whose names end as modules do, that are not ignored, and above which no directory is skipped
or ignored. A path is ignored if the last of the rules that match it is not a negated one; as the
directories above a file are asked first, a negated rule that matches the file does not bring it back.

* `ignored_eq_true_iff`: the last rule that matches decides.
* `reaches_iff_leftIn`: what a scan reaches, said of the names alone.
* `Reordered.scan_eq`: the order in which a file system lists its entries does not matter.
* `scan_finds_left_in`: the files of a scan, and their order.
-/

namespace Roster

/-! ## The last rule that matches -/

/-- There are rules that match the path, and the last of them is not negated. -/
def LastMatchIgnores (rules : List IgnoreRule) (path : String) (isDirectory : Bool) : Prop :=
  ∃ before rule after, rules = before ++ rule :: after ∧ rule.negated = false ∧
    rule.matchesPath path isDirectory = true ∧
    ∀ later ∈ after, later.matchesPath path isDirectory = false

/-- An item of a list is the last one or stands before the last one. -/
theorem append_singleton_eq_iff {α : Type} {xs before after : List α} {x y : α} :
    xs ++ [x] = before ++ y :: after ↔
      (after = [] ∧ before = xs ∧ y = x) ∨
        ∃ front, after = front ++ [x] ∧ xs = before ++ y :: front := by
  constructor
  · intro h
    rcases List.eq_nil_or_concat' after with rfl | ⟨front, last, rfl⟩
    · obtain ⟨hxs, hlast⟩ := List.append_inj' h rfl
      exact .inl ⟨rfl, hxs.symm, (List.cons.inj hlast).1.symm⟩
    · rw [← List.cons_append, ← List.append_assoc] at h
      obtain ⟨hxs, hlast⟩ := List.append_inj' h rfl
      exact .inr ⟨front, by rw [(List.cons.inj hlast).1], hxs⟩
  · rintro (⟨rfl, rfl, rfl⟩ | ⟨front, rfl, rfl⟩)
    · rfl
    · simp

/-- A rule at the end decides if it matches. -/
theorem lastMatchIgnores_append_match {rules : List IgnoreRule} {rule : IgnoreRule} {path : String}
    {isDirectory : Bool} (h : rule.matchesPath path isDirectory = true) :
    LastMatchIgnores (rules ++ [rule]) path isDirectory ↔ rule.negated = false := by
  constructor
  · rintro ⟨before, other, after, hrules, hnegated, -, hlater⟩
    rcases append_singleton_eq_iff.mp hrules with ⟨-, -, rfl⟩ | ⟨front, rfl, -⟩
    · exact hnegated
    · rw [hlater rule (by simp)] at h
      contradiction
  · intro hnegated
    exact ⟨rules, rule, [], rfl, hnegated, h, by simp⟩

/-- A rule at the end that does not match leaves the matter as it was. -/
theorem lastMatchIgnores_append_other {rules : List IgnoreRule} {rule : IgnoreRule} {path : String}
    {isDirectory : Bool} (h : rule.matchesPath path isDirectory = false) :
    LastMatchIgnores (rules ++ [rule]) path isDirectory ↔
      LastMatchIgnores rules path isDirectory := by
  constructor
  · rintro ⟨before, other, after, hrules, hnegated, hmatch, hlater⟩
    rcases append_singleton_eq_iff.mp hrules with ⟨-, -, rfl⟩ | ⟨front, rfl, hfront⟩
    · rw [hmatch] at h
      contradiction
    · exact ⟨before, other, front, hfront, hnegated, hmatch,
        fun later hmem => hlater later (List.mem_append_left _ hmem)⟩
  · rintro ⟨before, other, after, rfl, hnegated, hmatch, hlater⟩
    refine ⟨before, other, after ++ [rule], by simp, hnegated, hmatch, fun later hmem => ?_⟩
    rcases List.mem_append.mp hmem with hold | hnew
    · exact hlater later hold
    · rwa [List.mem_singleton.mp hnew]

theorem ignored_eq_true_iff (rules : List IgnoreRule) (path : String) (isDirectory : Bool) :
    ignored rules path isDirectory = true ↔ LastMatchIgnores rules path isDirectory := by
  -- rules are asked from the front, and each one that matches overrules those before it
  induction rules using List.reverseRecOn with
  | nil => simp [ignored, LastMatchIgnores]
  | append_singleton rules rule ih =>
    cases hmatch : rule.matchesPath path isDirectory with
    | true =>
      rw [ignored_append_match _ _ _ _ hmatch, lastMatchIgnores_append_match hmatch]
      cases rule.negated <;> simp
    | false =>
      rw [ignored_append_other _ _ _ _ hmatch, lastMatchIgnores_append_other hmatch]
      exact ih

theorem ignored_eq_false_iff (rules : List IgnoreRule) (path : String) (isDirectory : Bool) :
    ignored rules path isDirectory = false ↔ ¬ LastMatchIgnores rules path isDirectory := by
  rw [← ignored_eq_true_iff, Bool.not_eq_true]

instance (rules : List IgnoreRule) (path : String) (isDirectory : Bool) :
    Decidable (LastMatchIgnores rules path isDirectory) :=
  decidable_of_iff _ (ignored_eq_true_iff rules path isDirectory)

/-! ## What is left in -/

/-- Names below a directory lead to the file of a module that the rules leave in. -/
structure LeftIn (t : FileTree) (rules : List IgnoreRule) (top : Place) (names : List String) :
    Prop where
  file : ∃ content, t.get? (top ++ names) = some (.file content)
  ending : ∃ name, names.getLast? = some name ∧ name.endsWith ".py" = true
  entered : ∀ name ∈ names.dropLast, name ∉ skippedDirectories
  above : AllAbove (fun above => ¬ LastMatchIgnores rules (Path.joined above) true) names
  kept : ¬ LastMatchIgnores rules (Path.joined names) false

section Reaches

variable {t : FileTree} (ht : t.Sound) (rules : List IgnoreRule) (place : Place) (directory name : String)

include ht

theorem reaches_singleton_iff :
    Reaches t rules place directory [name] ↔
      (∃ content, t.get? (place ++ [name]) = some (.file content)) ∧ name.endsWith ".py" = true ∧
        ignored rules (entryPath directory name) false = false := by
  constructor
  · intro h
    have hfile := h.get? ht
    cases h with
    | file _ _ hending hkept => exact ⟨hfile, hending, hkept⟩
    | folder _ _ _ rest => exact absurd rfl rest.ne_nil
  · rintro ⟨⟨content, hfile⟩, hending, hkept⟩
    exact .file (ht.mem_namesIn_iff.mpr hfile) (by simp) hending hkept

theorem reaches_cons_iff {names : List String} (h : names ≠ []) :
    Reaches t rules place directory (name :: names) ↔
      name ∉ skippedDirectories ∧ ignored rules (entryPath directory name) true = false ∧
        Reaches t rules (place ++ [name]) (entryPath directory name) names := by
  constructor
  · intro hreaches
    cases hreaches with
    | file => exact absurd rfl h
    | folder _ hopen hkept rest => exact ⟨hopen, hkept, rest⟩
  · rintro ⟨hopen, hkept, rest⟩
    obtain ⟨content, hfile⟩ := rest.get? ht
    exact .folder (ht.mem_namesIn_iff.mpr (ht.above hfile h)) hopen hkept rest

omit name in
/-- What a scan reaches from a directory, said of the names alone. -/
theorem reaches_iff (names : List String) :
    Reaches t rules place directory names ↔
      (∃ content, t.get? (place ++ names) = some (.file content)) ∧
        (∃ name, names.getLast? = some name ∧ name.endsWith ".py" = true) ∧
        (∀ name ∈ names.dropLast, name ∉ skippedDirectories) ∧
        AllAbove (fun above => ignored rules (namedPath directory above) true = false) names ∧
        ignored rules (namedPath directory names) false = false := by
  induction names generalizing place directory with
  | nil =>
    constructor
    · intro h
      exact absurd rfl h.ne_nil
    · rintro ⟨-, ⟨name, hlast, -⟩, -⟩
      contradiction
  | cons name names ih =>
    by_cases hnil : names = []
    · subst hnil
      rw [reaches_singleton_iff ht]
      constructor
      · rintro ⟨hfile, hending, hkept⟩
        exact ⟨hfile, ⟨name, rfl, hending⟩, by simp, allAbove_singleton _ name, hkept⟩
      · rintro ⟨hfile, ⟨last, hlast, hending⟩, -, -, hkept⟩
        obtain rfl : name = last := Option.some.inj hlast
        exact ⟨hfile, hending, hkept⟩
    · -- the first name is a directory on the way, and stands above all the others
      have hplace : place ++ name :: names = place ++ [name] ++ names := by simp
      rw [reaches_cons_iff ht rules place directory name hnil, ih, allAbove_cons_iff _ _ hnil, hplace,
        List.getLast?_cons_of_ne_nil hnil, List.dropLast_cons_of_ne_nil hnil, List.forall_mem_cons]
      change _ ↔ _ ∧ _ ∧ (_ ∧ _) ∧ (ignored rules (entryPath directory name) true = false ∧ AllAbove
        (fun above => ignored rules (namedPath (entryPath directory name) above) true = false) names)
        ∧ ignored rules (namedPath (entryPath directory name) names) false = false
      tauto

omit rules directory name in
/-- The path to an entry, and to a directory above it, has its names joined by slashes. -/
theorem namedPath_above {names above : List String} {e : FileEntry}
    (h : t.get? (place ++ names) = some e) (hstart : above <+: names) :
    namedPath "" above = Path.joined above :=
  namedPath_eq_joined fun name hname =>
    (ht.isEntryName h name (List.mem_append_right _ (hstart.subset hname))).toIsName

omit directory name in
theorem reaches_iff_leftIn (names : List String) :
    Reaches t rules place "" names ↔ LeftIn t rules place names := by
  have hsame : (∃ content, t.get? (place ++ names) = some (.file content)) →
      ∀ isDirectory above, above <+: names →
        (ignored rules (namedPath "" above) isDirectory = false ↔
          ¬ LastMatchIgnores rules (Path.joined above) isDirectory) := by
    rintro ⟨content, hfile⟩ isDirectory above hstart
    rw [namedPath_above ht place hfile hstart, ignored_eq_false_iff]
  rw [reaches_iff ht]
  constructor
  · rintro ⟨hfile, hending, hentered, habove, hkept⟩
    refine ⟨hfile, hending, hentered, fun above hne hstart hshorter => ?_, ?_⟩
    · exact (hsame hfile true above hstart).mp (habove above hne hstart hshorter)
    · exact (hsame hfile false names (List.prefix_refl _)).mp hkept
  · rintro ⟨hfile, hending, hentered, habove, hkept⟩
    refine ⟨hfile, hending, hentered, fun above hne hstart hshorter => ?_, ?_⟩
    · exact (hsame hfile true above hstart).mpr (habove above hne hstart hshorter)
    · exact (hsame hfile false names (List.prefix_refl _)).mpr hkept

end Reaches

/-! ## The order of enumeration -/

namespace FileTree

variable {t t' : FileTree}

/-- The same tree, its entries listed in another order. -/
structure Reordered (t t' : FileTree) : Prop where
  entries : t'.entries.Perm t.entries
  current : t'.current = t.current
  home : t'.home = t.home

theorem Reordered.get?_eq (h : Reordered t t') (ht : t.Sound) (place : Place) :
    t'.get? place = t.get? place := by
  by_cases hnil : place = []
  · subst hnil
    rfl
  · have hkeys : (t'.entries.map (·.1)).Nodup := (h.entries.map _).nodup_iff.mpr ht.keys
    refine Option.ext fun e => ?_
    rw [get?_eq_some_iff_mem hkeys hnil, ht.get?_eq_some_iff hnil, h.entries.mem_iff]

theorem Reordered.sound (h : Reordered t t') (ht : t.Sound) : t'.Sound := by
  have hget := h.get?_eq ht
  constructor
  · exact (h.entries.map _).nodup_iff.mpr ht.keys
  · exact fun e he => ht.rooted e (h.entries.mem_iff.mp he)
  · exact fun e he => ht.names e (h.entries.mem_iff.mp he)
  · intro e he
    rw [hget]
    exact ht.parents e (h.entries.mem_iff.mp he)
  · rw [hget, h.current]
    exact ht.current
  · rw [h.home]
    exact ht.home

theorem descend_congr (h : ∀ place, t'.get? place = t.get? place) (place : Place)
    (parts : List String) : t'.descend place parts = t.descend place parts := by
  induction parts generalizing place with
  | nil => rfl
  | cons part parts ih => simp only [descend, h, ih]

/-- What can be read is there. -/
theorem exists?_of_readText {p : Path} {text : String} (h : t.readText p = .ok text) :
    t.exists? p = .ok true := by
  unfold readText read at h
  unfold exists?
  cases hfind : t.find p with
  | error fault => simp [hfind, bind, Except.bind] at h
  | ok found => rfl

/-- A path leads to the same entry, whatever the order of the entries. -/
theorem Reordered.find_eq (h : Reordered t t') (ht : t.Sound) (p : Path) : t'.find p = t.find p := by
  simp only [find, placeOf, startOf, h.current, h.get?_eq ht, descend_congr (h.get?_eq ht)]

end FileTree

open FileTree

section Scan

variable {t t' : FileTree} {root top : Path} {rules extra : List IgnoreRule}

theorem ScansFrom.reordered (h : ScansFrom t root top rules) (ht : t.Sound)
    (hreordered : Reordered t t') : ScansFrom t' root top rules := by
  have hfind := hreordered.find_eq ht
  obtain ⟨expanded, hexpanded, hresolve⟩ := h.resolved
  constructor
  · refine ⟨expanded, ?_, ?_⟩
    · rw [hreordered.home]
      exact hexpanded
    · rw [FileTree.resolve, hreordered.current]
      exact hresolve
  · rw [exists?_congr (hfind top)]
    exact h.there
  · rw [isDirectory?, hfind top]
    exact h.directory
  · rw [ignoreFileRules, exists?_congr (hfind _), readText_congr (hfind _)]
    exact h.ignoreFile

/-- The order in which entries are listed does not show in a scan. -/
theorem ScansFrom.scan_reordered (h : ScansFrom t root top rules) (ht : t.Sound)
    (hreordered : Reordered t t') : scan t' extra root = scan t extra root := by
  have hreaches : ∀ names, Reaches t' (rules ++ extra) top.parts "" names ↔
      Reaches t (rules ++ extra) top.parts "" names := by
    intro names
    rw [reaches_iff (hreordered.sound ht), reaches_iff ht]
    simp only [hreordered.get?_eq ht]
  rw [(h.reordered ht hreordered).scan_eq, h.scan_eq,
    modulesBelow_eq_of_reaches_iff ht (hreordered.sound ht) hreaches]

/-- The modules below a root are the files that are left in. -/
theorem ScansFrom.mem_iff_leftIn (h : ScansFrom t root top rules) (ht : t.Sound)
    {files : List SourceFile} (hscan : scan t extra root = .ok files) (f : SourceFile) :
    f ∈ files ↔ ∃ names,
      f = ⟨top.parts ++ names, Path.joined names, moduleName (Path.joined names)⟩ ∧
      LeftIn t (rules ++ extra) top.parts names := by
  have hmodule : ∀ names, LeftIn t (rules ++ extra) top.parts names → moduleAt top.parts names
      = ⟨top.parts ++ names, Path.joined names, moduleName (Path.joined names)⟩ := by
    intro names hleft
    obtain ⟨content, hfile⟩ := hleft.file
    rw [moduleAt, namedPath_above ht _ hfile (List.prefix_refl names)]
  rw [h.mem_iff hscan]
  constructor
  · rintro ⟨names, -, hreaches, rfl⟩
    have hleft := (reaches_iff_leftIn ht _ _ names).mp hreaches
    exact ⟨names, hmodule names hleft, hleft⟩
  · rintro ⟨names, rfl, hleft⟩
    have hreaches := (reaches_iff_leftIn ht _ _ names).mpr hleft
    exact ⟨names, hreaches.length_le ht, hreaches, (hmodule names hleft).symm⟩

/-- The modules below a root come in order. -/
theorem ScansFrom.pairwise_before (h : ScansFrom t root top rules) (ht : t.Sound)
    {files : List SourceFile} (hscan : scan t extra root = .ok files) :
    files.Pairwise fun f g => ∃ xs ys, f.place = top.parts ++ xs ∧ g.place = top.parts ++ ys ∧
      Before xs ys := by
  obtain rfl : _ = files := Except.ok.inj ((h.scan_eq extra).symm.trans hscan)
  rw [List.pairwise_map]
  exact modulesBelow_pairwise ht _ _ top.parts ""

end Scan

/-! ## The files of a scan -/

/-- The text of the ignore file in a directory; a missing file is as good as an empty one. -/
inductive IgnoreText (t : FileTree) (top : Path) : String → Prop
  | missing (h : t.exists? (top / Path.parse ".gitignore") = .ok false) : IgnoreText t top ""
  | written {text : String} (h : t.readText (top / Path.parse ".gitignore") = .ok text) :
      IgnoreText t top text

theorem IgnoreText.ignoreFileRules_eq {t : FileTree} {top : Path} {text : String}
    (h : IgnoreText t top text) :
    ignoreFileRules t (top / Path.parse ".gitignore") = .ok (IgnoreRule.ofText text) := by
  cases h with
  | missing h =>
    rw [ignoreFileRules, h]
    rfl
  | written h =>
    rw [ignoreFileRules, exists?_of_readText h, h]

/-- The files that a scan finds below a directory. They are the modules that no rule and no name of a
directory leaves out, each once, a directory's own files before its subdirectories and both sorted; the
order in which the file system lists them does not matter. What lies below an ignored directory is not
found, whatever the rules say of it. -/
theorem scan_finds_left_in {t : FileTree} {root expanded top : Path} {text : String} (ht : t.Sound)
    (hhome : root.expandHome t.home = some expanded) (hresolve : t.resolve expanded = .ok top)
    (hdirectory : t.isDirectory? top = .ok true) (hignore : IgnoreText t top text)
    (patterns : List String) :
    ∃ files, scan t (excludeRules patterns) root = .ok files ∧
      (∀ f, f ∈ files ↔ ∃ names,
        f = ⟨top.parts ++ names, Path.joined names, moduleName (Path.joined names)⟩ ∧
        LeftIn t (IgnoreRule.ofText text ++ excludeRules patterns) top.parts names) ∧
      (files.map (·.place)).Nodup ∧
      files.Pairwise (fun f g => ∃ xs ys, f.place = top.parts ++ xs ∧ g.place = top.parts ++ ys ∧
        Before xs ys) ∧
      (∀ t', Reordered t t' → scan t' (excludeRules patterns) root = .ok files) ∧
      ∀ above below, above ≠ [] → below ≠ [] →
        LastMatchIgnores (IgnoreRule.ofText text ++ excludeRules patterns) (Path.joined above) true →
        ∀ f ∈ files, f.place ≠ top.parts ++ above ++ below := by
  have hthere : t.exists? top = .ok true := by
    obtain ⟨place, hplace, hentry⟩ := (isDirectory?_eq_true_iff t top).mp hdirectory
    exact (exists?_eq_true_iff t top).mpr ⟨place, _, hplace, hentry⟩
  have hscans : ScansFrom t root top (IgnoreRule.ofText text) :=
    ⟨⟨expanded, hhome, hresolve⟩, hthere, hdirectory, hignore.ignoreFileRules_eq⟩
  have hscan := hscans.scan_eq (excludeRules patterns)
  have hmem := hscans.mem_iff_leftIn ht hscan
  have hordered := hscans.pairwise_before ht hscan
  refine ⟨_, hscan, hmem, ?_, hordered, ?_, ?_⟩
  · -- an order that is never both ways leaves no room for repetitions
    rw [List.Nodup, List.pairwise_map]
    refine hordered.imp ?_
    rintro f g ⟨xs, ys, hf, hg, hbefore⟩ hsame
    obtain rfl : xs = ys := List.append_cancel_left (hf.symm.trans (hsame.trans hg))
    exact hbefore.asymm hbefore
  · intro t' hreordered
    rw [hscans.scan_reordered ht hreordered]
    exact hscan
  · intro above below habove hbelow hignores f hf hplace
    obtain ⟨names, rfl, hleft⟩ := (hmem f).mp hf
    rw [List.append_assoc] at hplace
    obtain rfl : names = above ++ below := List.append_cancel_left hplace
    exact hleft.above above habove (List.prefix_append _ _) (by simpa using hbelow) hignores

/-- A tree whose ignore file asks for one of the files in an ignored directory back. -/
def regretfulSite : FileTree where
  entries := [(["a"], .directory), (["a", ".gitignore"], .file "/gen/\n!/gen/x.py\n".toUTF8),
    (["a", "gen"], .directory), (["a", "gen", "x.py"], .file "".toUTF8),
    (["a", "m.py"], .file "".toUTF8)]
  current := []
  home := []

/-- The file that is asked back stays out, although the last rule that matches it is the negated one. -/
theorem scan_regretfulSite :
    ¬ LastMatchIgnores (IgnoreRule.ofText "/gen/\n!/gen/x.py\n" ++ excludeRules ["/*_old.py"])
        "gen/x.py" false ∧
      ∃ files, scan regretfulSite (excludeRules ["/*_old.py"]) (Path.parse "/a") = .ok files ∧
        ⟨["a", "m.py"], "m.py", "m"⟩ ∈ files ∧ ∀ f ∈ files, f.place ≠ ["a", "gen", "x.py"] := by
  have hread : regretfulSite.readText (Path.parse "/a" / Path.parse ".gitignore")
      = .ok "/gen/\n!/gen/x.py\n" := by decide +kernel
  have hhome : (Path.parse "/a").expandHome regretfulSite.home = some (Path.parse "/a") := rfl
  obtain ⟨files, hscan, hmem, -, -, -, hshut⟩ := scan_finds_left_in (t := regretfulSite) (by decide)
    hhome rfl (by decide) (.written hread) ["/*_old.py"]
  refine ⟨by decide +kernel, files, hscan, (hmem _).mpr ⟨["m.py"], rfl, ?_⟩,
    hshut ["gen"] ["x.py"] (by simp) (by simp) (by decide +kernel)⟩
  refine ⟨⟨_, rfl⟩, ⟨_, rfl, by decide +kernel⟩, by simp, allAbove_singleton _ _, by decide +kernel⟩

end Roster
