import Mathlib.Data.List.Basic
import Roster.Proofs.DiscoveredClasses
import Roster.Proofs.SkippedModules
import Roster.Proofs.TextOrder

/-! # First definitions

Of several classes with one key the first is kept. Here it is told where a class is defined: its place
is that of a root, of a file among those that the root's scan gives, of a statement of the module, and
of a statement in every body that the class is nested in. So a class comes before those in its body.
What is discovered are the marked ones among the classes that are not defined before, in order, and
every class that is defined again is reported.

* `ClassAt`, `DefinedAt`: where classes are defined.
* `OrderedMap.addNew_eraseDups`, `OrderedMap.lists_firstOf`: a map that keeps the first value.
* `lists_classesOf`, `ClassIndex.lists_defined`: what is read from a statement and below roots.
* `discovered?_eraseDups`: a root that is listed again adds nothing.
* `map_get?_found`, `ClassIndex.filter_addFiles_snd`: what is found, and what is reported.
* `discovers_first_definitions`: what is discovered.
-/

namespace Roster

/-! ## Maps that keep the first value -/

namespace OrderedMap

variable {α β ι γ : Type} [DecidableEq α]

theorem insertNew_of_mem {m : OrderedMap α β} {a : α} (h : a ∈ m.keys) (b : β) :
    m.insertNew a b = m := by
  simp [insertNew, contains, h]

/-- A value under a new key comes last. -/
theorem values_insertNew_of_notMem {m : OrderedMap α β} {a : α} (h : a ∉ m.keys) (b : β) :
    (m.insertNew a b).values = m.values ++ [b] := by
  have hinsert : m.insertNew a b = m.insert a b := by simp [insertNew, contains, h]
  rw [hinsert, values, entries_insert_of_notMem b h, List.map_append, List.map_singleton, values]

variable (key : ι → α) (value : ι → β)

/-- Adds items under their keys, each unless its key is there. -/
def addNew (m : OrderedMap α β) (items : List ι) : OrderedMap α β :=
  items.foldl (fun m x => m.insertNew (key x) (value x)) m

theorem addNew_append (m : OrderedMap α β) (xs ys : List ι) :
    m.addNew key value (xs ++ ys) = (m.addNew key value xs).addNew key value ys :=
  List.foldl_append

theorem mem_keys_addNew (m : OrderedMap α β) (items : List ι) (k : α) :
    k ∈ (m.addNew key value items).keys ↔ k ∈ m.keys ∨ ∃ x ∈ items, key x = k := by
  have hget := get?_foldl_insertNew key value items m k
  rw [← addNew] at hget
  rw [mem_keys_iff, mem_keys_iff, ← Option.isSome_iff_exists, ← Option.isSome_iff_exists, hget]
  simp [List.find?_isSome]

theorem addNew_concat (m : OrderedMap α β) (items : List ι) (x : ι) :
    m.addNew key value (items ++ [x])
      = (m.addNew key value items).insertNew (key x) (value x) :=
  addNew_append key value m items [x]

/-- Items whose keys are all there add nothing. -/
theorem addNew_of_known {m : OrderedMap α β} {items : List ι} (h : ∀ x ∈ items, key x ∈ m.keys) :
    m.addNew key value items = m := by
  induction items with
  | nil => rfl
  | cons x items ih =>
    obtain ⟨hx, hitems⟩ := List.forall_mem_cons.mp h
    rw [addNew, List.foldl_cons, insertNew_of_mem hx]
    exact ih hitems

/-- Items that come again from the same source add nothing. -/
theorem addNew_eraseDups [DecidableEq γ] (m : OrderedMap α β) (f : γ → List ι) (sources : List γ) :
    m.addNew key value (sources.eraseDups.flatMap f) = m.addNew key value (sources.flatMap f) := by
  -- from the end, where a source that comes again brings only keys that are there
  induction sources using List.reverseRecOn with
  | nil => rfl
  | append_singleton sources s ih =>
    by_cases hs : s ∈ sources
    · have hknown : ∀ x ∈ f s, key x ∈ (m.addNew key value (sources.flatMap f)).keys := fun x hx =>
        (mem_keys_addNew ..).mpr (.inr ⟨x, List.mem_flatMap_of_mem hs hx, rfl⟩)
      rw [eraseDups_append_of_mem hs, ih, List.flatMap_append, List.flatMap_singleton, addNew_append,
        addNew_of_known key value hknown]
    · rw [eraseDups_append_of_notMem hs, List.flatMap_append, List.flatMap_append, addNew_append,
        addNew_append, ih]

/-- The values that are kept of a list, the first under each key. -/
def firstOf (key : β → α) (items : List β) : List β :=
  ((empty : OrderedMap α β).addNew key (fun b => b) items).values

/-- Values are kept where their keys do not come before. -/
theorem lists_firstOf {key : β → α} {At : Position → β → Prop} {items : List β} (h : Lists At items) :
    Lists (FirstAt (fun b a => key b = key a) At) (firstOf key items) := by
  have hknown : ∀ (l : List β) (a : β),
      key a ∈ ((empty : OrderedMap α β).addNew key (fun b => b) l).keys ↔ ∃ b ∈ l, key b = key a := by
    simp [mem_keys_addNew]
  have hcounts : Lists (Counts (fun b a => key b = key a) False At) (firstOf key items) := by
    refine h.of_snoc rfl ?_ ?_
    · intro l a hnew
      rw [← hknown, iff_false] at hnew
      rw [firstOf, addNew_concat, values_insertNew_of_notMem hnew, firstOf]
    · intro l a hold
      rw [← hknown, iff_false, not_not] at hold
      rw [firstOf, addNew_concat, insertNew_of_mem hold, firstOf]
  exact hcounts.congr firstAt_iff

end OrderedMap

/-! ## Where classes are defined -/

namespace Source

/-- The class that a statement defines, as its module declares it. -/
def declaredClass (file : SourceFile) (imports : ImportTable) (outer : String) (line : Nat)
    (name : Identifier) (bases decorators : List Expr) (body : List Stmt) : ClassDeclaration where
  module := file.module
  path := outer ++ name.text
  name := name.text
  bases := bases.filterMap Expr.dottedName?
  fields := fieldsOf body
  marked := decorators.any (isMark imports)
  interface := (bases.filterMap Expr.dottedName?).any fun b =>
    interfaceBases.contains (imports.resolve b)
  origin := file.relativePath ++ ":" ++ toString line

/-- A statement defines a class at a position: itself, or in its body, whose classes bear its name in
front of theirs. -/
inductive ClassAt (file : SourceFile) (imports : ImportTable) :
    String → Stmt → Position → ClassDeclaration → Prop
  | itself {outer : String} {line : Nat} {name : Identifier} {bases decorators : List Expr}
      {body : List Stmt} : ClassAt file imports outer (.classDef line name bases decorators body) []
        (declaredClass file imports outer line name bases decorators body)
  | nested {outer : String} {line : Nat} {name : Identifier} {bases decorators : List Expr}
      {body : List Stmt} {i : Nat} {s : Stmt} {p : Position} {c : ClassDeclaration}
      (item : body[i]? = some s) (inside : ClassAt file imports (outer ++ name.text ++ ".") s p c) :
      ClassAt file imports outer (.classDef line name bases decorators body) (i :: p) c

theorem classesOfAll_eq (file : SourceFile) (imports : ImportTable) (outer : String)
    (body : List Stmt) :
    classesOfAll file imports outer body = body.flatMap (classesOf file imports outer) := by
  induction body with
  | nil => rfl
  | cons s body ih => rw [classesOfAll, ih, List.flatMap_cons]

/-- The classes of a statement are those that it defines somewhere, in order. -/
theorem lists_classesOf (file : SourceFile) (imports : ImportTable) (outer : String) (s : Stmt) :
    Lists (ClassAt file imports outer s) (classesOf file imports outer s) := by
  match s with
  | .classDef line name bases decorators body =>
    have hbody : Lists (Among (ClassAt file imports (outer ++ name.text ++ ".")) body)
        (classesOfAll file imports (outer ++ name.text ++ ".") body) := by
      rw [classesOfAll_eq]
      exact .flatMap fun s _ => lists_classesOf file imports _ s
    -- the class itself stands in front of whatever its body holds
    have hinner : ∀ a, ¬ Among (ClassAt file imports (outer ++ name.text ++ ".")) body [] a := by
      rintro a ⟨⟩
    have hall := hbody.cons hinner (declaredClass file imports outer line name bases decorators body)
    refine hall.congr fun p c => ?_
    constructor
    · rintro (⟨rfl, rfl⟩ | ⟨item, hinside⟩)
      · exact .itself
      · exact .nested item hinside
    · intro h
      cases h with
      | itself => exact .inl ⟨rfl, rfl⟩
      | nested item hinside => exact .inr ⟨item, hinside⟩
  | .functionDef .. | .assign _ | .annotated _ | .augmented _ | .importNames _ | .importFrom ..
  | .block _ | .other =>
    refine .nil fun p c h => ?_
    cases h

end Source

open Source

/-- A file defines a class at a position: a statement of its module does. -/
inductive FileAt (t : FileTree) (file : SourceFile) : Position → ClassDeclaration → Prop
  | module {text : String} {body : List Stmt} {p : Position} {c : ClassDeclaration}
      (read : t.readText file.path = .ok text) (parsed : parse? text = some body)
      (here : Among (ClassAt file (importsOf file.module (isPackage file) body) "") body p c) :
      FileAt t file p c

/-- Below a root a class is defined at a position: a file that its scan gives defines it. -/
inductive RootAt (t : FileTree) (rules : List IgnoreRule) (root : Path) :
    Position → ClassDeclaration → Prop
  | scanned {files : List SourceFile} {p : Position} {c : ClassDeclaration}
      (found : scan t rules root = .ok files) (here : Among (FileAt t) files p c) :
      RootAt t rules root p c

/-- Below some roots a class is defined at a position: below one of them it is. -/
def DefinedAt (t : FileTree) (rules : List IgnoreRule) (roots : List Path) :
    Position → ClassDeclaration → Prop :=
  Among (RootAt t rules) roots

/-- One class has the key of another. -/
def SameKey (b a : ClassDeclaration) : Prop := b.key = a.key

/-- A class is defined at a position, and none with its key before that. -/
def FirstDefinedAt (t : FileTree) (rules : List IgnoreRule) (roots : List Path) :
    Position → ClassDeclaration → Prop :=
  FirstAt SameKey (DefinedAt t rules roots)

/-- A class is defined at a position, and one with its key is before that. -/
def RedefinedAt (t : FileTree) (rules : List IgnoreRule) (roots : List Path) (p : Position)
    (c : ClassDeclaration) : Prop :=
  DefinedAt t rules roots p c ∧ Known SameKey (DefinedAt t rules roots) p c

namespace ClassIndex

/-- The classes of a file, none if it holds no module. -/
def classesIn (t : FileTree) (file : SourceFile) : List ClassDeclaration :=
  ((declarationsIn? t file).map (·.classes)).getD []

/-- The files below a root, none if it cannot be scanned. -/
def filesBelow (t : FileTree) (rules : List IgnoreRule) (root : Path) : List SourceFile :=
  (scan t rules root).toOption.getD []

theorem lists_classesIn (t : FileTree) (file : SourceFile) :
    Lists (FileAt t file) (classesIn t file) := by
  cases hdeclared : declarationsIn? t file with
  | none =>
    rw [classesIn, hdeclared]
    refine .nil ?_
    rintro p c ⟨hread, hparse, -⟩
    have hsome := declarationsIn?_eq_some_iff.mpr ⟨_, _, hread, hparse, rfl⟩
    rw [hdeclared] at hsome
    contradiction
  | some d =>
    obtain ⟨text, body, hread, hparse, rfl⟩ := declarationsIn?_eq_some_iff.mp hdeclared
    rw [classesIn, hdeclared, Option.map_some, Option.getD_some, classesOfAll_eq]
    refine (Lists.flatMap fun s _ => lists_classesOf file _ "" s).congr fun p c => ?_
    constructor
    · exact .module hread hparse
    · rintro ⟨hread', hparse', hhere⟩
      obtain rfl := Except.ok.inj (hread'.symm.trans hread)
      obtain rfl := Option.some.inj (hparse'.symm.trans hparse)
      exact hhere

theorem lists_classesBelow (t : FileTree) (rules : List IgnoreRule) (root : Path) :
    Lists (RootAt t rules root) ((filesBelow t rules root).flatMap (classesIn t)) := by
  cases hscan : scan t rules root with
  | error fault =>
    rw [filesBelow, hscan]
    refine .nil ?_
    rintro p c ⟨hfound, -⟩
    rw [hscan] at hfound
    contradiction
  | ok files =>
    rw [filesBelow, hscan]
    refine (Lists.flatMap fun file _ => lists_classesIn t file).congr fun p c => ?_
    constructor
    · exact .scanned hscan
    · rintro ⟨hfound, hhere⟩
      obtain rfl := Except.ok.inj (hfound.symm.trans hscan)
      exact hhere

/-- The classes below some roots are those that are defined somewhere, in order. -/
theorem lists_defined (t : FileTree) (rules : List IgnoreRule) (roots : List Path) :
    Lists (DefinedAt t rules roots)
      ((roots.flatMap (filesBelow t rules)).flatMap (classesIn t)) := by
  rw [List.flatMap_assoc]
  exact .flatMap fun root _ => lists_classesBelow t rules root

/-! ## Roots -/

/-- Roots are scanned if each of them is. -/
theorem scannedFiles?_eq_ok_iff {t : FileTree} {rules : List IgnoreRule} {roots : List Path}
    {files : List SourceFile} :
    scannedFiles? t rules roots = .ok files ↔
      (∀ root ∈ roots, ∃ found, scan t rules root = .ok found) ∧
        files = roots.flatMap (filesBelow t rules) := by
  induction roots generalizing files with
  | nil => simp [scannedFiles?, eq_comm]
  | cons root roots ih =>
    have hbelow : ∀ {found}, scan t rules root = .ok found → found = filesBelow t rules root := by
      intro found hscan
      rw [filesBelow, hscan]
      rfl
    rw [scannedFiles?_cons_eq_ok_iff, List.forall_mem_cons, List.flatMap_cons]
    constructor
    · rintro ⟨first, rest, hscan, hrest, rfl⟩
      obtain ⟨hall, rfl⟩ := ih.mp hrest
      exact ⟨⟨⟨first, hscan⟩, hall⟩, congrArg (· ++ _) (hbelow hscan)⟩
    · rintro ⟨⟨⟨first, hscan⟩, hall⟩, rfl⟩
      exact ⟨first, _, hscan, ih.mpr ⟨hall, rfl⟩, congrArg (· ++ _) (hbelow hscan)⟩

theorem flatMap_classes_readModules (t : FileTree) (files : List SourceFile) :
    (readModules t files).flatMap (·.2.classes) = files.flatMap (classesIn t) := by
  induction files with
  | nil => rfl
  | cons file files ih =>
    rw [readModules, List.filterMap_cons, List.flatMap_cons, classesIn]
    cases declarationsIn? t file with
    | none => exact ih
    | some d => exact congrArg (d.classes ++ ·) ih

theorem readModules_flatMap {γ : Type} (t : FileTree) (f : γ → List SourceFile) (sources : List γ) :
    readModules t (sources.flatMap f) = sources.flatMap fun s => readModules t (f s) := by
  rw [readModules, List.filterMap_flatMap]
  rfl

theorem values_indexOf (t : FileTree) (files : List SourceFile) :
    (indexOf t files).classes.values
      = OrderedMap.firstOf ClassDeclaration.key (files.flatMap (classesIn t)) := by
  rw [indexOf, addFiles_fst, flatMap_classes_readModules]
  rfl

theorem indexOf_eraseDups (t : FileTree) (f : Path → List SourceFile) (roots : List Path) :
    indexOf t (roots.eraseDups.flatMap f) = indexOf t (roots.flatMap f) := by
  have hclasses := OrderedMap.addNew_eraseDups ClassDeclaration.key (fun c => c) .empty
    (fun root => (f root).flatMap (classesIn t)) roots
  have himports := OrderedMap.addNew_eraseDups (fun e : SourceFile × Declarations => e.1.module)
    (fun e => e.2.imports) .empty (fun root => readModules t (f root)) roots
  rw [← List.flatMap_assoc, ← List.flatMap_assoc] at hclasses
  rw [← readModules_flatMap, ← readModules_flatMap] at himports
  rw [indexOf, indexOf, addFiles_fst, addFiles_fst, flatMap_classes_readModules,
    flatMap_classes_readModules]
  exact congrArg₂ ClassIndex.mk hclasses himports

end ClassIndex

open ClassIndex

/-- Roots that are listed again add nothing. -/
theorem discovered?_eraseDups (t : FileTree) (rules : List IgnoreRule) (roots : List Path) :
    discovered? t rules roots.eraseDups = discovered? t rules roots := by
  have hsame : ∀ files : Path → List SourceFile, TakesIn t (roots.eraseDups.flatMap files) ↔
      TakesIn t (roots.flatMap files) := by
    simp [TakesIn, List.mem_flatMap, List.mem_eraseDups]
  ext found
  simp only [discovered?_eq_some_iff, scannedFiles?_eq_ok_iff, List.mem_eraseDups]
  constructor
  · rintro ⟨files, ⟨hall, rfl⟩, htaken, rfl⟩
    exact ⟨_, ⟨hall, rfl⟩, (hsame _).mp htaken, by rw [indexOf_eraseDups]⟩
  · rintro ⟨files, ⟨hall, rfl⟩, htaken, rfl⟩
    exact ⟨_, ⟨hall, rfl⟩, (hsame _).mpr htaken, by rw [indexOf_eraseDups]⟩

/-! ## What is found -/

/-- Classes that bear their keys are different by name. -/
theorem ClassIndex.Keyed.nodup_names {index : ClassIndex} (hkeyed : index.Keyed) :
    (index.classes.values.map fun c => (index.descriptor c).qualifiedName).Nodup := by
  have hkeys : (index.classes.values.map fun c => (index.descriptor c).qualifiedName)
      = index.classes.keys := by
    rw [OrderedMap.values, List.map_map, OrderedMap.keys]
    exact List.map_congr_left fun e he => hkeyed _ _ (OrderedMap.get?_of_mem he)
  rw [hkeys]
  exact index.classes.keys_nodup

/-- What is found are the types of the marked classes, in order. -/
theorem map_get?_found (index : ClassIndex) :
    index.toDiscovery.found.map index.toDiscovery.graph.get?
      = (index.classes.values.filter (·.marked)).map fun c => some (index.descriptor c) := by
  -- a place and the class at it come from one entry of the numbered classes
  have hvalues : index.classes.values.filter (·.marked)
      = (index.classes.values.zipIdx.filter fun e => e.1.marked).map (·.1) := by
    conv_lhs => rw [← List.zipIdx_map_fst 0 index.classes.values, List.filter_map]
    rfl
  have hfound : index.toDiscovery.found
      = (index.classes.values.zipIdx.filter fun e => e.1.marked).map (·.2) := rfl
  rw [hvalues, hfound, List.map_map, List.map_map]
  refine List.map_congr_left fun e he => ?_
  have hentry := List.mem_zipIdx_iff_getElem?.mp (List.mem_of_mem_filter he)
  simp only [Function.comp_apply, get?_toDiscovery, hentry, Option.map_some]

/-! ## What is reported -/

/-- What is reported of a class whose key is there. -/
def duplicate (c : ClassDeclaration) : LogRecord :=
  ⟨.warning, .sourceCode, "Duplicate class " ++ c.key ++ " at " ++ c.origin
    ++ "; keeping the first definition"⟩

/-- Whether a record is a warning of a class whose key is there. -/
def reportsDuplicate (r : LogRecord) : Bool :=
  r.level = .warning && "Duplicate class ".toList.isPrefixOf r.message.toList

theorem reportsDuplicate_duplicate (c : ClassDeclaration) :
    reportsDuplicate (duplicate c) = true := by
  simp [reportsDuplicate, duplicate]

theorem reportsDuplicate_skipped (file : SourceFile) : reportsDuplicate (skipped file) = false := by
  simp [reportsDuplicate, skipped, List.isPrefixOf]

namespace ClassIndex

/-- The classes whose keys are there when they are added. -/
def dropped (known : OrderedMap String ClassDeclaration) :
    List ClassDeclaration → List ClassDeclaration
  | [] => []
  | c :: rest =>
    (if known.contains c.key then [c] else []) ++ dropped (known.insertNew c.key c) rest

theorem dropped_append (known : OrderedMap String ClassDeclaration) (xs ys : List ClassDeclaration) :
    dropped known (xs ++ ys) = dropped known xs
      ++ dropped (known.addNew ClassDeclaration.key (fun c => c) xs) ys := by
  induction xs generalizing known with
  | nil => rfl
  | cons c xs ih =>
    rw [List.cons_append, dropped, dropped, ih, List.append_assoc]
    rfl

theorem addClass_snd (index : ClassIndex) (c : ClassDeclaration) :
    (index.addClass c).2 = (if index.classes.contains c.key then [c] else []).map duplicate := by
  unfold addClass
  split <;> rfl

/-- Each class that is dropped is reported. -/
theorem addClasses_snd (index : ClassIndex) (cs : List ClassDeclaration) :
    (index.addClasses cs).2 = (dropped index.classes cs).map duplicate := by
  induction cs generalizing index with
  | nil => rfl
  | cons c cs ih =>
    rw [addClasses, dropped, List.map_append, ← addClass_snd]
    simp only [ih, addClass_fst]

theorem filter_addClasses_snd (index : ClassIndex) (cs : List ClassDeclaration) :
    (index.addClasses cs).2.filter reportsDuplicate = (index.addClasses cs).2 := by
  rw [addClasses_snd, List.filter_eq_self]
  intro r hr
  obtain ⟨c, -, rfl⟩ := List.mem_map.mp hr
  exact reportsDuplicate_duplicate c

/-- Of all that is reported of files, the warnings of classes are those of the classes that are
dropped. -/
theorem filter_addFiles_snd (t : FileTree) (index : ClassIndex) (files : List SourceFile) :
    (index.addFiles t files).2.filter reportsDuplicate
      = (dropped index.classes (files.flatMap (classesIn t))).map duplicate := by
  -- for any index, since the keys that are there grow from file to file
  induction files generalizing index with
  | nil => rfl
  | cons file files ih =>
    rw [addFiles, List.flatMap_cons, classesIn]
    cases declarationsIn? t file with
    | none =>
      simp only [List.filter_append, ih, Option.map_none, Option.getD_none, List.nil_append]
      rw [List.filter_cons_of_neg (by simp [reportsDuplicate_skipped]), List.filter_nil,
        List.nil_append]
    | some d =>
      simp only [List.filter_append, ih, Option.map_some, Option.getD_some, addModule]
      rw [filter_addClasses_snd, addClasses_snd, addClasses_fst, dropped_append, List.map_append]
      rfl

/-- Ancestors are not reported as warnings. -/
theorem filter_toDiscovery_log (index : ClassIndex) :
    index.toDiscovery.log.filter reportsDuplicate = [] := by
  rw [List.filter_eq_nil_iff]
  intro r hr
  have hlevel : r.level = .debug := by
    rcases List.mem_append.mp hr with hancestor | hlast
    · obtain ⟨c, -, rfl⟩ := List.mem_map.mp hancestor
      rw [ancestorRecord]
      split <;> rfl
    · rw [List.mem_singleton.mp hlast]
  simp [reportsDuplicate, hlevel]

/-- Classes are dropped where their keys come before, in order. -/
theorem lists_dropped {At : Position → ClassDeclaration → Prop} {cs : List ClassDeclaration}
    (h : Lists At cs) :
    Lists (fun p c => At p c ∧ Known SameKey At p c) (dropped .empty cs) := by
  have hknown : ∀ (l : List ClassDeclaration) (a : ClassDeclaration),
      (OrderedMap.empty.addNew ClassDeclaration.key (fun c => c) l).contains a.key = true ↔
        ∃ b ∈ l, SameKey b a := by
    simp [OrderedMap.contains, OrderedMap.mem_keys_addNew, SameKey]
  have hcounts : Lists (Counts SameKey True At) (dropped .empty cs) := by
    refine h.of_snoc rfl ?_ ?_
    · intro l a hold
      rw [← hknown, iff_true] at hold
      rw [dropped_append, dropped, if_pos hold, dropped, List.append_nil]
    · intro l a hnew
      rw [← hknown, iff_true] at hnew
      rw [dropped_append, dropped, if_neg hnew, dropped, List.append_nil, List.append_nil]
  exact hcounts.congr fun p c => by rw [Counts, iff_true]

end ClassIndex

/-! ## What is discovered -/

/-- Discovery gives the types of the marked classes among those that are not defined before, in the
order of roots, of files and of the text, and no two of them have one name. Every class that is
defined again is reported once, in that order. It makes no difference how often a root is listed
again. -/
theorem discovers_first_definitions {t : FileTree} {rules : List IgnoreRule} {roots : List Path}
    {d : Discovery} (h : discoverClasses t rules roots = .ok d) :
    (∃ found : List ClassDeclaration,
      Lists (fun p c => FirstDefinedAt t rules roots p c ∧ c.marked = true) found ∧
      d.found.map d.graph.get?
        = found.map (fun c => some ((keptClasses t rules roots).descriptor c)) ∧
      (found.map fun c => ((keptClasses t rules roots).descriptor c).qualifiedName).Nodup) ∧
    (∃ again : List ClassDeclaration, Lists (RedefinedAt t rules roots) again ∧
      d.log.filter reportsDuplicate = again.map duplicate) ∧
    discovered? t rules roots.eraseDups = some (d.graph, d.found) := by
  obtain ⟨files, hscanned, htaken, hd⟩ := discoverClasses_eq_ok_iff.mp h
  have hkept : keptClasses t rules roots = indexOf t files := by
    rw [keptClasses, addRoots_empty hscanned htaken]
  obtain ⟨-, hfiles⟩ := scannedFiles?_eq_ok_iff.mp hscanned
  have hdefined : Lists (DefinedAt t rules roots) (files.flatMap (classesIn t)) := by
    rw [hfiles]
    exact lists_defined t rules roots
  refine ⟨⟨(keptClasses t rules roots).classes.values.filter (·.marked), ?_, ?_, ?_⟩,
    ⟨_, lists_dropped hdefined, ?_⟩, ?_⟩
  · rw [hkept, values_indexOf]
    exact (OrderedMap.lists_firstOf hdefined).filter _
  · rw [hd, hkept]
    exact map_get?_found _
  · exact (keyed_keptClasses h).nodup_names.sublist (List.filter_sublist.map _)
  · rw [hd, List.filter_append, filter_addFiles_snd, filter_toDiscovery_log, List.append_nil]
    rfl
  · rw [discovered?_eraseDups, discovered?_eq_some_iff]
    exact ⟨files, hscanned, htaken, by rw [hd]⟩

/-- Two directories with a module of one name each; one of its classes is in both, marked only in the
second. -/
def twinSite : FileTree where
  entries := [(["src"], .directory), (["src", "m.py"], .file
      "class A:\n @fieldable\n class B: 1\n".toUTF8),
    (["lib"], .directory), (["lib", "m.py"], .file
      "@fieldable\nclass A: 1\n@fieldable\nclass C: 1\n".toUTF8)]
  current := []
  home := []

/-- Both directories, the first of them twice. -/
def twinRoots : List Path := [⟨.slash, ["src"]⟩, ⟨.slash, ["lib"]⟩, ⟨.slash, ["src"]⟩]

theorem discoverClasses_twinSite :
    ((discoverClasses twinSite [] twinRoots).toOption.map fun d =>
      ((d.found.map d.graph.get?).map (Option.map (·.qualifiedName)),
        (d.log.filter reportsDuplicate).length)) = some ([some "m.A.B", some "m.C"], 3) := by
  decide +kernel

/-- The class that is marked only where it is defined again is not found, and three classes are
dropped: that one, and those of the first directory when it comes again. -/
theorem first_definitions_twinSite :
    ∃ d, discoverClasses twinSite [] twinRoots = .ok d ∧
      (∃ found : List ClassDeclaration,
        Lists (fun p c => FirstDefinedAt twinSite [] twinRoots p c ∧ c.marked = true) found ∧
        found.map (·.key) = ["m.A.B", "m.C"]) ∧
      (∃ again : List ClassDeclaration, Lists (RedefinedAt twinSite [] twinRoots) again ∧
        again.length = 3 ∧ d.log.filter reportsDuplicate = again.map duplicate) ∧
      discovered? twinSite [] [⟨.slash, ["src"]⟩, ⟨.slash, ["lib"]⟩] = some (d.graph, d.found) := by
  have hdata := discoverClasses_twinSite
  cases hrun : discoverClasses twinSite [] twinRoots with
  | error broken => simp [hrun, Except.toOption] at hdata
  | ok d =>
    rw [hrun] at hdata
    obtain ⟨hnames, hcount⟩ := Prod.mk.inj (Option.some.inj hdata)
    obtain ⟨⟨found, hfound, htypes, -⟩, ⟨again, hagain, hlog⟩, hroots⟩ :=
      discovers_first_definitions hrun
    have honce : twinRoots.eraseDups = [⟨.slash, ["src"]⟩, ⟨.slash, ["lib"]⟩] := by decide
    rw [honce] at hroots
    refine ⟨d, rfl, ⟨found, hfound, ?_⟩, ⟨again, hagain, ?_, hlog⟩, hroots⟩
    · have hkeys : (found.map (·.key)).map some
          = (["m.A.B", "m.C"] : List String).map some := by
        rw [htypes, List.map_map] at hnames
        rw [List.map_map]
        exact hnames
      exact List.map_injective_iff.mpr (Option.some_injective _) hkeys
    · rw [hlog, List.length_map] at hcount
      exact hcount

end Roster
