import Mathlib.Data.List.Basic
import Roster.Proofs.ScannedModules
import Roster.Proofs.Splitting

/-! # Where the bases of a class lead

A base is looked up under three names: inside the module of the class, as the imports of the module
have it, and as it stands. The second is what the base means if its first part is imported.

* `lookup?_eq_none_of_not_covers`: a name of which the tree has nothing leads nowhere.
* `lookup?_inside`: inside its module, an imported base leads where its import leads.
* `link?_eq_or`: so a base links to what its import leads to, and failing that to what it leads to as
  it stands.
* `link?_eq_of_not_captured`: the latter counts only if the tree has something of its own there.
* `linked_through_import`: the same for the classes of a file below scanned roots.
-/

namespace Roster
namespace ClassIndex

open Source

/-! ## Searching from the highest place -/

theorem downwards_succ {n : Nat} (h : 0 < n) :
    ((List.range (n + 1)).drop 1).reverse = n :: ((List.range n).drop 1).reverse := by
  have hlength : 1 ≤ (List.range n).length := by rwa [List.length_range]
  rw [List.range_succ, List.drop_append_of_le_length hlength, List.reverse_append,
    List.reverse_singleton, List.singleton_append]

/-- Searching downwards from `n`, the first answer is the one at the highest place. -/
theorem findSome?_downwards {α : Type} {f : Nat → Option α} {n m : Nat} {a : α} (hpos : 0 < m)
    (hlt : m < n) (hat : f m = some a) (habove : ∀ i, m < i → i < n → f i = none) :
    ((List.range n).drop 1).reverse.findSome? f = some a := by
  induction n with
  | zero => omega
  | succ n ih =>
    rw [downwards_succ (by omega), List.findSome?_cons]
    by_cases hm : m = n
    · rw [← hm, hat]
    · rw [habove n (by omega) (by omega)]
      exact ih (by omega) fun i hi hin => habove i hi (by omega)

theorem findSome?_downwards_eq_none {α : Type} {f : Nat → Option α} {n : Nat}
    (h : ∀ i, 0 < i → i < n → f i = none) :
    ((List.range n).drop 1).reverse.findSome? f = none := by
  induction n with
  | zero => rfl
  | succ n ih =>
    by_cases hn : n = 0
    · rw [hn]
      rfl
    · rw [downwards_succ (by omega), List.findSome?_cons, h n (by omega) (by omega)]
      exact ih fun i hi hin => h i hi (by omega)

/-! ## Names of which the tree has something -/

/-- Whether the tree has something under a base inside `outer`: a class, or a module that is named
by the first parts of the base and whose imports bind the next part. -/
def Covers (index : ClassIndex) (outer base : String) : Prop :=
  index.classes.contains (qualify outer base) = true ∨
    ∃ k < (splitText '.' base).length, 0 < k ∧ (splitText '.' base)[k]?.any fun name =>
      (index.importsOf (qualify outer (String.intercalate "." ((splitText '.' base).take k)))).contains
        name

instance (index : ClassIndex) (outer base : String) : Decidable (index.Covers outer base) :=
  inferInstanceAs (Decidable (_ ∨ _))

variable {index : ClassIndex} {outer base : String}

theorem get?_classes_of_not_covers (h : ¬ index.Covers outer base) :
    index.classes.get? (qualify outer base) = none := by
  rw [OrderedMap.get?_eq_none_iff]
  intro hmem
  exact h (.inl (decide_eq_true hmem))

/-- No module inside `outer` that the first parts of the base name binds the next part. -/
theorem get?_imports_of_not_covers (h : ¬ index.Covers outer base) {k : Nat} (hk : 0 < k)
    {name : String} (hname : (splitText '.' base)[k]? = some name) :
    (index.importsOf
      (qualify outer (String.intercalate "." ((splitText '.' base).take k)))).get? name = none := by
  rw [OrderedMap.get?_eq_none_iff]
  intro hmem
  refine h (.inr ⟨k, (List.getElem?_eq_some_iff.mp hname).1, hk, ?_⟩)
  rw [hname, Option.any_some]
  exact decide_eq_true hmem

theorem redirectAt?_eq_none {parts : List String} {i : Nat}
    (h : ∀ name, parts[i]? = some name →
      (index.importsOf (String.intercalate "." (parts.take i))).get? name = none) :
    index.redirectAt? parts i = none := by
  unfold redirectAt?
  cases hname : parts[i]? with
  | none => rfl
  | some name =>
    simp only [Option.bind_eq_bind, Option.bind_some, h name hname, Option.bind_none]

/-- A name of which the tree has nothing leads nowhere. -/
theorem lookup?_eq_none_of_not_covers (h : ¬ index.Covers "" base) (hops : Nat) :
    index.lookup? hops base = none := by
  cases hops with
  | zero => rfl
  | succ hops =>
    have hclass : index.classes.get? base = none := get?_classes_of_not_covers h
    have hredirect : index.redirect? base = none :=
      findSome?_downwards_eq_none fun i hi _ =>
        redirectAt?_eq_none fun name hname => get?_imports_of_not_covers h hi hname
    rw [lookup?, hclass, hredirect]

/-- More steps lead no less far. -/
theorem lookup?_succ {hops : Nat} {name : String} {c : ClassDeclaration}
    (h : index.lookup? hops name = some c) : index.lookup? (hops + 1) name = some c := by
  induction hops generalizing name with
  | zero => contradiction
  | succ hops ih =>
    rw [lookup?] at h ⊢
    cases hclass : index.classes.get? name with
    | some found => rwa [hclass] at h
    | none =>
      rw [hclass] at h
      cases hredirect : index.redirect? name with
      | none =>
        rw [hredirect] at h
        contradiction
      | some next =>
        rw [hredirect] at h
        simp only at h ⊢
        split at h
        · contradiction
        · rename_i hnext
          rw [if_neg hnext]
          exact ih h

/-! ## Imported bases -/

/-- A base that imports bind: its first part stands for `target`, and none of its parts is empty. -/
structure Binds (imports : ImportTable) (base target : String) : Prop where
  bound : imports.get? (splitHead base).1 = some target
  target_ne : target ≠ ""
  parts : "" ∉ splitText '.' base

theorem splitHead_eq {head : String} {rest : List String} (h : splitText '.' base = head :: rest) :
    splitHead base = (head, String.intercalate "." rest) := by
  rw [splitHead, h]

/-- What an imported base means: the target of its first part, and the other parts after it. -/
theorem Binds.resolve_eq {imports : ImportTable} {base target : String}
    (h : Binds imports base target) :
    imports.resolve base = String.intercalate "." (target :: (splitText '.' base).drop 1) := by
  obtain ⟨head, rest, hsplit⟩ := List.exists_cons_of_ne_nil (splitText_ne_nil '.' base)
  have hbound := h.bound
  rw [splitHead_eq hsplit] at hbound
  have hrest : "" ∉ rest := fun hmem => h.parts (hsplit ▸ List.mem_cons_of_mem head hmem)
  rw [ImportTable.resolve, splitHead_eq hsplit, hsplit, List.drop_one, List.tail_cons]
  simp only [hbound, Option.getD_some]
  cases rest with
  | nil => rfl
  | cons next rest =>
    rw [if_neg (intercalate_ne_empty (List.cons_ne_nil _ _) hrest), String.intercalate_cons_cons]

section Inside

variable {module target : String}

/-- The parts of a name inside a module are those of the module and then its own. -/
theorem splitText_qualify (h : module ≠ "") (name : String) :
    splitText '.' (qualify module name) = splitText '.' module ++ splitText '.' name := by
  rw [qualify, if_neg h]
  exact splitText_append '.' module name

/-- Parts after those of a module name something inside it. -/
theorem intercalate_inside (h : module ≠ "") {pieces : List String} (hne : pieces ≠ []) :
    String.intercalate "." (splitText '.' module ++ pieces)
      = qualify module (String.intercalate "." pieces) := by
  rw [String.intercalate_append_of_ne_nil (splitText_ne_nil '.' module) hne, qualify, if_neg h]
  congr 2
  exact intercalate_splitText '.' module

/-- Inside its module, an imported base is passed on to what it means. -/
theorem redirect?_inside (hmodule : module ≠ "") (hbinds : Binds (index.importsOf module) base target)
    (hfree : ¬ index.Covers module base) :
    index.redirect? (qualify module base) = some ((index.importsOf module).resolve base) := by
  have hpos : 0 < (splitText '.' module).length :=
    List.length_pos_of_ne_nil (splitText_ne_nil '.' module)
  obtain ⟨head, rest, hsplit⟩ := List.exists_cons_of_ne_nil (splitText_ne_nil '.' base)
  have hbound := hbinds.bound
  rw [splitHead_eq hsplit] at hbound
  rw [redirect?, splitText_qualify hmodule]
  refine findSome?_downwards hpos ?_ ?_ ?_
  · rw [List.length_append, hsplit, List.length_cons]
    omega
  -- at the end of the module its own imports decide
  · have hfirst : (splitText '.' module ++ splitText '.' base)[(splitText '.' module).length]?
        = some head := by
      rw [List.getElem?_append_right (Nat.le_refl _), hsplit, Nat.sub_self, List.getElem?_cons_zero]
    have hmod : String.intercalate "." (splitText '.' module) = module :=
      intercalate_splitText '.' module
    rw [redirectAt?, hfirst, List.take_left, hmod, hbinds.resolve_eq, List.drop_length_add_append]
    simp only [Option.bind_eq_bind, Option.bind_some, hbound, if_neg hbinds.target_ne]
  -- behind it there is nothing
  · intro i hi _
    obtain ⟨k, rfl⟩ := Nat.exists_eq_add_of_le (Nat.le_of_lt hi)
    have hk : 0 < k := by omega
    refine redirectAt?_eq_none fun name hname => ?_
    rw [List.getElem?_append_right (Nat.le_of_lt hi), Nat.add_sub_cancel_left] at hname
    have htake : (splitText '.' base).take k ≠ [] := by
      rw [hsplit, List.take_cons hk]
      exact List.cons_ne_nil _ _
    rw [List.take_length_add_append, intercalate_inside hmodule htake]
    exact get?_imports_of_not_covers hfree hk hname

/-- Inside its module, an imported base leads only where it leads by what it means. -/
theorem lookup?_inside (hbinds : Binds (index.importsOf module) base target)
    (hfree : ¬ index.Covers module base) {hops : Nat} {c : ClassDeclaration}
    (h : index.lookup? hops (qualify module base) = some c) :
    index.lookup? hops ((index.importsOf module).resolve base) = some c := by
  by_cases hmodule : module = ""
  · subst hmodule
    have hbase : qualify "" base = base := rfl
    rw [hbase, lookup?_eq_none_of_not_covers hfree] at h
    contradiction
  · cases hops with
    | zero => contradiction
    | succ hops =>
      rw [lookup?, get?_classes_of_not_covers hfree, redirect?_inside hmodule hbinds hfree] at h
      simp only at h
      split at h
      · contradiction
      · exact lookup?_succ h

end Inside

/-! ## Links -/

/-- The class that a name leads to, if it is not the class that asks. -/
def other? (index : ClassIndex) (c : ClassDeclaration) (name : String) : Option ClassDeclaration :=
  (index.lookup? hopBound name).filter fun found => found.key ≠ c.key

/-- The class that a base links another to: the first one that one of its names leads to. -/
def link? (index : ClassIndex) (c : ClassDeclaration) (base : String) : Option ClassDeclaration :=
  (index.candidates c base).findSome? (index.other? c)

theorem other?_eq_some_iff {c a : ClassDeclaration} {name : String} :
    index.other? c name = some a ↔ index.lookup? hopBound name = some a ∧ a.key ≠ c.key := by
  rw [other?, Option.filter_eq_some_iff, decide_eq_true_eq]

theorem other?_of_not_covers {name : String} (h : ¬ index.Covers "" name) (c : ClassDeclaration) :
    index.other? c name = none := by
  rw [other?, lookup?_eq_none_of_not_covers h, Option.filter_none]

/-- The ancestor of a class comes from the first base that links it to a class. -/
theorem ancestor?_eq (index : ClassIndex) (c : ClassDeclaration) :
    index.ancestor? c = c.bases.findSome? (index.link? c) := by
  unfold ancestor?
  induction c.bases with
  | nil => rfl
  | cons base bases ih =>
    rw [List.flatMap_cons, List.findSome?_append, ih, List.findSome?_cons, link?]
    unfold other?
    cases (index.candidates c base).findSome? _ <;> rfl

/-- A class has an ancestor through a base: the first of its bases that links it to a class. -/
def LinkedThrough (index : ClassIndex) (c : ClassDeclaration) (base : String)
    (ancestor : ClassDeclaration) : Prop :=
  index.ancestor? c = some ancestor ∧
    c.bases.find? (fun b => (index.link? c b).isSome) = some base

theorem LinkedThrough.link?_eq {c a : ClassDeclaration} (h : index.LinkedThrough c base a) :
    index.link? c base = some a := by
  obtain ⟨hancestor, hbase⟩ := h
  rw [ancestor?_eq] at hancestor
  generalize c.bases = bases at hancestor hbase
  induction bases with
  | nil => contradiction
  | cons b bases ih =>
    rw [List.findSome?_cons] at hancestor
    rw [List.find?_cons] at hbase
    cases hlink : index.link? c b with
    | none =>
      simp only [hlink, Option.isSome_none] at hancestor hbase
      exact ih hancestor hbase
    | some found =>
      simp only [hlink, Option.isSome_some] at hancestor hbase
      rw [← Option.some.inj hbase, hlink, hancestor]

/-- Whether the tree has something of its own under a name of a base, other than what the base
means. -/
def Captures (index : ClassIndex) (outer base meaning : String) : Prop :=
  qualify outer base ≠ meaning ∧ index.Covers outer base

instance (index : ClassIndex) (outer base meaning : String) :
    Decidable (index.Captures outer base meaning) :=
  inferInstanceAs (Decidable (_ ∧ _))

/-- A base that is not captured inside its module links to what it means, and if that is nothing, to
what it leads to as it stands. -/
theorem link?_eq_or {c : ClassDeclaration} {target : String}
    (hbinds : Binds (index.importsOf c.module) base target)
    (hinside : ¬ index.Captures c.module base ((index.importsOf c.module).resolve base)) :
    index.link? c base
      = (index.other? c ((index.importsOf c.module).resolve base)).or (index.other? c base) := by
  rw [Captures, not_and] at hinside
  have hfirst : ∀ a, index.other? c (qualify c.module base) = some a →
      index.other? c ((index.importsOf c.module).resolve base) = some a := by
    intro a ha
    by_cases hsame : qualify c.module base = (index.importsOf c.module).resolve base
    · rwa [← hsame]
    · rw [other?_eq_some_iff] at ha ⊢
      exact ⟨lookup?_inside hbinds (hinside hsame) ha.1, ha.2⟩
  rw [link?, candidates, List.findSome?_cons]
  cases hname : index.other? c (qualify c.module base) with
  | some a => rw [hfirst a hname, Option.some_or]
  | none =>
    simp only [List.findSome?_cons, List.findSome?_nil]
    cases index.other? c ((index.importsOf c.module).resolve base) with
    | some a => rfl
    | none => cases index.other? c base <;> rfl

/-- A base that is not captured either as it stands links to what it means. -/
theorem link?_eq_of_not_captured {c : ClassDeclaration} {target : String}
    (hbinds : Binds (index.importsOf c.module) base target)
    (hinside : ¬ index.Captures c.module base ((index.importsOf c.module).resolve base))
    (hbare : ¬ index.Captures "" base ((index.importsOf c.module).resolve base)) :
    index.link? c base = index.other? c ((index.importsOf c.module).resolve base) := by
  rw [link?_eq_or hbinds hinside]
  by_cases hsame : base = (index.importsOf c.module).resolve base
  · rw [← hsame, Option.or_self]
  · have hcovers : ¬ index.Covers "" base := fun hcovers => hbare ⟨hsame, hcovers⟩
    rw [other?_of_not_covers hcovers, Option.or_none]

/-- Of the files below scanned roots, take the first one of its name of a module, a class in it, and a
base of which the imports of the file bind the first part. Unless the base is captured inside the
module, it links the class to what the base means, and failing that to what its bare name leads to.
If that name is not captured either, the class has no ancestor through the base but the one that the
base means, and none if the tree has nothing of it. -/
theorem linked_through_import {t : FileTree} {rules : List IgnoreRule} {roots : List Path}
    {files : List SourceFile} {index : ClassIndex} {log : Log}
    (hscan : empty.addRoots t rules roots = (index, log, none))
    (hfiles : scannedFiles? t rules roots = .ok files)
    {file : SourceFile} {d : Declarations}
    (hfirst : (readModules t files).find? (fun e => e.1.module = file.module) = some (file, d))
    {c : ClassDeclaration} (hc : c ∈ d.classes) {base target : String}
    (hbinds : Binds d.imports base target)
    (hinside : ¬ index.Captures c.module base (d.imports.resolve base)) :
    index.link? c base = (index.other? c (d.imports.resolve base)).or (index.other? c base) ∧
      (¬ index.Captures "" base (d.imports.resolve base) →
        (∀ a, index.LinkedThrough c base a →
          index.lookup? hopBound (d.imports.resolve base) = some a) ∧
        (¬ index.Covers "" (d.imports.resolve base) → ∀ a, ¬ index.LinkedThrough c base a)) := by
  obtain rfl : indexOf t files = index := by
    rw [addRoots_empty hfiles (takesIn_of_addRoots hscan hfiles)] at hscan
    exact (Prod.mk.inj hscan).1
  have hmodule : c.module = file.module :=
    module_eq_of_mem_classes (List.mem_of_find?_eq_some hfirst) hc
  have himports : (indexOf t files).importsOf c.module = d.imports := by
    rw [importsOf, get?_imports_indexOf, hmodule, hfirst]
    rfl
  rw [← himports] at hbinds hinside ⊢
  refine ⟨link?_eq_or hbinds hinside, fun hbare => ?_⟩
  have hlink := link?_eq_of_not_captured hbinds hinside hbare
  refine ⟨fun a ha => ?_, fun houtside a ha => ?_⟩
  · rw [ha.link?_eq] at hlink
    exact (other?_eq_some_iff.mp hlink.symm).1
  · rw [ha.link?_eq, other?_of_not_covers houtside] at hlink
    contradiction

/-! ## Two modules side by side -/

/-- A tree of a module with a class and a module with another class that may be its base. -/
def twoModules (app : String) : FileTree where
  entries := [(["src"], .directory), (["src", "app.py"], .file app.toUTF8),
    (["src", "shapes.py"], .file "class Box:\n    b: int\n".toUTF8)]
  current := []
  home := []

def appFile : SourceFile := ⟨["src", "app.py"], "app.py", "app"⟩

def shapesFile : SourceFile := ⟨["src", "shapes.py"], "shapes.py", "shapes"⟩

/-- The class that may be a base. -/
def box : ClassDeclaration := ⟨"shapes", "Box", "Box", [], ["b"], false, false, "shapes.py:1"⟩

/-- A marked class with one base. -/
def crate (base : String) : ClassDeclaration :=
  ⟨"app", "Crate", "Crate", [base], [], true, false, "app.py:3"⟩

theorem modulesBelow_twoModules (app : String) :
    modulesBelow (twoModules app) [] 4 ["src"] ""
      = [(["src", "app.py"], "app.py"), (["src", "shapes.py"], "shapes.py")] := by
  have hkept : ["app.py", "shapes.py"].filter (fun name =>
      name.endsWith ".py" && !ignored [] (entryPath "" name) false) = ["app.py", "shapes.py"] := by
    decide +kernel
  rw [modulesBelow_of_pairwise ["app.py", "shapes.py"] [] rfl rfl (by decide) .nil, hkept]
  rfl

theorem scannedFiles?_twoModules (app : String) :
    scannedFiles? (twoModules app) [] [Path.parse "/src"] = .ok [appFile, shapesFile] := by
  have hroot : (Path.parse "/src").expandHome (twoModules app).home = some ⟨.slash, ["src"]⟩ := rfl
  have hresolve : (twoModules app).resolve ⟨.slash, ["src"]⟩ = .ok ⟨.slash, ["src"]⟩ := rfl
  have hexists : (twoModules app).exists? ⟨.slash, ["src"]⟩ = .ok true := rfl
  have hdirectory : (twoModules app).isDirectory? ⟨.slash, ["src"]⟩ = .ok true := rfl
  have hrules : ignoreFileRules (twoModules app) (⟨.slash, ["src"]⟩ / Path.parse ".gitignore")
      = .ok [] := rfl
  have hbelow := modulesBelow_twoModules app
  rw [scannedFiles?, scannedFiles?, scan_of_directory hroot hresolve hexists hdirectory hrules]
  simp only [List.append_nil]
  rw [show (twoModules app).entries.length + 1 = 4 from rfl, hbelow]
  rfl

/-- The imports of a module that takes the class from the module beside. -/
def boxImports : ImportTable := .ofList [("Box", "shapes.Box")]

/-- The base is imported from the module beside. -/
def boxed : FileTree := twoModules "from shapes import Box\n@fieldable\nclass Crate(Box): pass\n"

theorem readModules_boxed :
    readModules boxed [appFile, shapesFile]
      = [(appFile, ⟨boxImports, [crate "Box"]⟩), (shapesFile, ⟨.empty, [box]⟩)] := by
  decide +kernel

/-- The base is linked to the class that its import leads to. -/
theorem linked_to_box :
    (indexOf boxed [appFile, shapesFile]).LinkedThrough (crate "Box") "Box" box ∧
      (indexOf boxed [appFile, shapesFile]).lookup? hopBound (boxImports.resolve "Box") = some box := by
  have hscanned : scannedFiles? boxed [] [Path.parse "/src"] = .ok [appFile, shapesFile] :=
    scannedFiles?_twoModules _
  have hfirst : (readModules boxed [appFile, shapesFile]).find? (fun e => e.1.module = appFile.module)
      = some (appFile, ⟨boxImports, [crate "Box"]⟩) := by
    rw [readModules_boxed]
    rfl
  have hfree : ¬ (indexOf boxed [appFile, shapesFile]).Captures "app" "Box"
      (boxImports.resolve "Box") ∧
      ¬ (indexOf boxed [appFile, shapesFile]).Captures "" "Box" (boxImports.resolve "Box") := by
    rw [indexOf, addFiles_fst, readModules_boxed]
    exact ⟨by decide, by decide⟩
  have hlinked : (indexOf boxed [appFile, shapesFile]).LinkedThrough (crate "Box") "Box" box := by
    rw [indexOf, addFiles_fst, readModules_boxed]
    exact ⟨by decide, by decide⟩
  have hbinds : Binds boxImports "Box" "shapes.Box" := ⟨rfl, by decide, by decide⟩
  have htaken : TakesIn boxed [appFile, shapesFile] := takesIn_of_unlimited (fun _ => rfl) _
  obtain ⟨-, hlink⟩ := linked_through_import (addRoots_empty hscanned htaken) hscanned hfirst
    List.mem_cons_self hbinds hfree.1
  exact ⟨hlinked, (hlink hfree.2).1 box hlinked⟩

/-- The imports of a module that takes a module from elsewhere. -/
def vendorImports : ImportTable := .ofList [("shapes", "vendor.shapes")]

/-- The base is imported from elsewhere, out of a module whose name one beside bears too. -/
def vendored : FileTree :=
  twoModules "from vendor import shapes\n@fieldable\nclass Crate(shapes.Box): pass\n"

theorem readModules_vendored :
    readModules vendored [appFile, shapesFile]
      = [(appFile, ⟨vendorImports, [crate "shapes.Box"]⟩), (shapesFile, ⟨.empty, [box]⟩)] := by
  decide +kernel

/-- The tree has nothing of what the base means, and its module has no class of that name; yet the
base is linked to the class beside. -/
theorem linked_across_import :
    scannedFiles? vendored [] [Path.parse "/src"] = .ok [appFile, shapesFile] ∧
      (appFile, ⟨vendorImports, [crate "shapes.Box"]⟩)
        ∈ readModules vendored [appFile, shapesFile] ∧
      Binds vendorImports "shapes.Box" "vendor.shapes" ∧
      (indexOf vendored [appFile, shapesFile]).classes.get? "app.shapes.Box" = none ∧
      ¬ (indexOf vendored [appFile, shapesFile]).Covers "" (vendorImports.resolve "shapes.Box") ∧
      (indexOf vendored [appFile, shapesFile]).LinkedThrough (crate "shapes.Box") "shapes.Box" box := by
  refine ⟨scannedFiles?_twoModules _, ?_, ⟨rfl, by decide, by decide⟩, ?_⟩
  · rw [readModules_vendored]
    exact List.mem_cons_self
  · rw [indexOf, addFiles_fst, readModules_vendored]
    exact ⟨by decide, by decide, by decide, by decide⟩

end ClassIndex
end Roster
