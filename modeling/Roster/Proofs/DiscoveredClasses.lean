import Mathlib.Data.List.Basic
import Roster.Proofs.AncestorChains
import Roster.Proofs.BaseLinks
import Roster.Proofs.DiscoveredCompanions
import Roster.Proofs.NamedTrees

/-! # What collecting makes of discovered classes

Discovery gives every class that it keeps a place in a graph. A pointer leads to another class that was
kept, whatever the bases are, and a class declares different identifiers. So collecting from a class
that was discovered never meets a field without a name: it fails for an interface, and for a class whose
chain is closed or longer than the bound, and for no other.

* `pointer_spec`: where the pointer of a class leads.
* `properFields_of_mem_values`: what a class declares.
* `Walked.closed_iff`: which chains a walk complains of.
* `discovered_classes_collect`: the pointers and the fields of what is discovered, and what collecting
  gives.
-/

namespace Roster
namespace ClassIndex

open Source

variable {index : ClassIndex}

/-! ## Pointers -/

/-- Whatever a name leads to is a class that was kept. -/
theorem get?_of_lookup? {hops : Nat} {dotted : String} {c : ClassDeclaration}
    (h : index.lookup? hops dotted = some c) : ∃ key, index.classes.get? key = some c := by
  induction hops generalizing dotted with
  | zero => contradiction
  | succ hops ih =>
    rw [lookup?] at h
    split at h
    · rename_i found hfound
      obtain rfl := Option.some.inj h
      exact ⟨dotted, hfound⟩
    · split at h
      · contradiction
      · split at h
        · contradiction
        · exact ih h

/-- The ancestor of a class is another class that was kept. -/
theorem ancestor?_spec {c a : ClassDeclaration} (h : index.ancestor? c = some a) :
    a.key ≠ c.key ∧ ∃ key, index.classes.get? key = some a := by
  rw [ancestor?] at h
  obtain ⟨name, -, hname⟩ := List.exists_of_findSome?_eq_some h
  obtain ⟨hlookup, hother⟩ := other?_eq_some_iff.mp hname
  exact ⟨hother, get?_of_lookup? hlookup⟩

/-- The classes of an index bear the keys that they are kept under. -/
def Keyed (index : ClassIndex) : Prop :=
  ∀ key c, index.classes.get? key = some c → c.key = key

/-- The class at a place is known by its key. -/
theorem Keyed.get?_key (hkeyed : index.Keyed) {i : TypeId} {c : ClassDeclaration}
    (h : index.classes.values[i]? = some c) : index.classes.get? c.key = some c := by
  obtain ⟨e, he, rfl⟩ := List.mem_map.mp (List.mem_of_getElem? h)
  have hget := OrderedMap.get?_of_mem he
  rwa [hkeyed _ _ hget]

/-- A class is found at the place of its key. -/
theorem getElem?_of_placeOf? {a : TypeId} {c : ClassDeclaration}
    (hkept : index.classes.get? c.key = some c) (h : index.placeOf? c.key = some a) :
    index.classes.values[a]? = some c := by
  rw [placeOf?, List.findIdx?_eq_some_iff_getElem] at h
  obtain ⟨hlt, hkey, -⟩ := h
  rw [OrderedMap.keys, List.length_map] at hlt
  simp only [OrderedMap.keys, List.getElem_map, decide_eq_true_eq] at hkey
  have hget := OrderedMap.get?_of_mem (List.getElem_mem hlt)
  rw [hkey, hkept] at hget
  rw [OrderedMap.values, List.getElem?_map, List.getElem?_eq_getElem hlt, Option.map_some,
    ← Option.some.inj hget]

/-- The pointer of a class leads to another place, and to a class that was kept. -/
theorem Keyed.pointer_spec (hkeyed : index.Keyed) {i a : TypeId} {c : ClassDeclaration}
    (hat : index.classes.values[i]? = some c) (h : (index.descriptor c).ancestor = some a) :
    a ≠ i ∧ ∃ above, index.classes.values[a]? = some above := by
  obtain ⟨above, hancestor, hplace⟩ := Option.bind_eq_some_iff.mp h
  obtain ⟨hother, key, hget⟩ := ancestor?_spec hancestor
  have hfound := getElem?_of_placeOf? (hkeyed _ _ hget ▸ hget) hplace
  refine ⟨?_, above, hfound⟩
  rintro rfl
  rw [hat] at hfound
  exact hother (congrArg ClassDeclaration.key (Option.some.inj hfound)).symm

/-! ## The graph -/

/-- The types of a discovery are those of the classes that were kept, in order. -/
theorem get?_toDiscovery (index : ClassIndex) (i : TypeId) :
    index.toDiscovery.graph.get? i = (index.classes.values[i]?).map index.descriptor := by
  simp [toDiscovery, TypeGraph.ofList, TypeGraph.get?]

/-- What is found are places of classes. -/
theorem exists_getElem?_of_mem_found {i : TypeId} (h : i ∈ index.toDiscovery.found) :
    ∃ c, index.classes.values[i]? = some c ∧ c.marked = true := by
  obtain ⟨⟨c, j⟩, hmem, rfl⟩ := List.mem_map.mp h
  obtain ⟨hentry, hmarked⟩ := List.mem_filter.mp hmem
  exact ⟨c, List.mem_zipIdx_iff_getElem?.mp hentry, hmarked⟩

/-- A class of an index declares different identifiers. -/
theorem properFields_of_mem_values {t : FileTree} {files : List SourceFile} {c : ClassDeclaration}
    (h : c ∈ (indexOf t files).classes.values) : ProperFields c.fields := by
  obtain ⟨file, -, d, hread, hc⟩ := exists_module_of_mem_values h
  obtain ⟨text, body, -, hparse, rfl⟩ :=
    declarationsIn?_eq_some_iff.mp (declarationsIn?_of_mem_readModules hread)
  exact properFields_of_mem_classesOfAll (named_of_parse? hparse) hc

end ClassIndex

/-! ## Chains -/

namespace TypeGraph

/-- The chain of a type comes back to a type. -/
def Loops (g : TypeGraph) (i : TypeId) : Prop :=
  ∃ earlier later a, earlier < later ∧ g.above? earlier i = some a ∧ g.above? later i = some a

/-- The chain of a type has more types than a bound. -/
def Exceeds (g : TypeGraph) (i : TypeId) (bound : WalkBound) : Prop := g.above? bound.depth i ≠ none

/-- Above the end of a chain there is nothing. -/
theorem above?_eq_none_of_le {g : TypeGraph} {i : TypeId} {steps more : Nat} (hle : steps ≤ more)
    (h : g.above? steps i = none) : g.above? more i = none := by
  induction hle with
  | refl => exact h
  | step _ ih => rw [above?_succ, ih, Option.bind_none]

end TypeGraph

open TypeGraph

/-- A walk complains of the chains that are closed or too long. -/
theorem Walked.closed_iff {g : TypeGraph} {bound : WalkBound} {i : TypeId} {t : TypeDescriptor}
    {last : Nat} (h : Walked g bound i t last) :
    g.above? last i ≠ none ↔ g.Loops i ∨ g.Exceeds i bound := by
  constructor
  · intro hclosed
    rcases h.first.1 with hended | ⟨hearlier, hthen, hnow⟩ | hfull
    · exact absurd hended hclosed
    · exact .inl ⟨_, _, _, hearlier, hthen, hnow⟩
    · rw [hfull] at hclosed
      exact .inr hclosed
  · rintro (⟨earlier, later, a, hearlier, hthen, hnow⟩ | hexceeds) hended
    · -- the walk stops where a type comes back at the latest, and there the chain goes on
      have hle := h.first.2 (.repeats hearlier hthen hnow)
      rw [above?_eq_none_of_le hle hended] at hnow
      contradiction
    · exact hexceeds (above?_eq_none_of_le (h.first.2 (.full rfl)) hended)

/-- Nothing is collected from a type that is no class. -/
theorem collect_of_other_kind {g : TypeGraph} {i : TypeId} {t : TypeDescriptor}
    (ht : g.get? i = some t) (hkind : t.kind ≠ classKind) (bound : WalkBound) :
    (collect g bound (some i)).1 = .error (.notConcrete t.qualifiedName t.kind) := by
  simp [collect, walk, ht, hkind, gather]

/-- Where all fields have usable names, a class fails to be collected from only by its chain. -/
theorem collect_of_usable {g : TypeGraph} {i : TypeId} {t : TypeDescriptor} (ht : g.get? i = some t)
    (hkind : t.kind = classKind) (husable : ∀ j, ∀ field ∈ g.declaredFields j, Usable field)
    (bound : WalkBound) :
    ((g.Loops i ∨ g.Exceeds i bound) ∧
        ∃ chain, (collect g bound (some i)).1 = .error (.cyclic t.qualifiedName chain)) ∨
      (¬ (g.Loops i ∨ g.Exceeds i bound) ∧ ∃ names, (collect g bound (some i)).1 = .ok names) := by
  obtain ⟨last, hwalked⟩ := exists_walked ht hkind bound
  have hgood : UsableBelow g i last := fun _ _ a _ => husable a
  rw [← hwalked.closed_iff]
  by_cases hended : g.above? last i = none
  · exact .inr ⟨not_not.mpr hended, hwalked.collect_of_ended hgood hended⟩
  · obtain ⟨chain, -, hcollect⟩ := hwalked.collect_of_closed hgood hended
    exact .inl ⟨hended, _, hcollect⟩

/-! ## What is discovered -/

/-- All classes that are kept below some roots. -/
def keptClasses (t : FileTree) (rules : List IgnoreRule) (roots : List Path) : ClassIndex :=
  (ClassIndex.empty.addRoots t rules roots).1

/-- A type is that of a class that was kept. -/
def IsKept (kept : ClassIndex) (type : TypeDescriptor) : Prop :=
  ∃ c, kept.classes.get? c.key = some c ∧ type = kept.descriptor c

/-- What is discovered is the graph of the classes that are kept. -/
theorem discoverClasses_eq_ok {t : FileTree} {rules : List IgnoreRule} {roots : List Path}
    {d : Discovery} (h : discoverClasses t rules roots = .ok d) :
    ∃ files, keptClasses t rules roots = ClassIndex.indexOf t files ∧
      d.graph = (keptClasses t rules roots).toDiscovery.graph ∧
      d.found = (keptClasses t rules roots).toDiscovery.found := by
  obtain ⟨files, hfiles, htaken, rfl⟩ := ClassIndex.discoverClasses_eq_ok_iff.mp h
  rw [keptClasses, ClassIndex.addRoots_empty hfiles htaken]
  exact ⟨files, rfl, rfl, rfl⟩

/-- A type that is discovered is that of a class that was kept, at the place of that class. -/
theorem exists_class_of_get? {t : FileTree} {rules : List IgnoreRule} {roots : List Path}
    {d : Discovery} (h : discoverClasses t rules roots = .ok d) {i : TypeId} {type : TypeDescriptor}
    (hget : d.graph.get? i = some type) :
    ∃ c, (keptClasses t rules roots).classes.values[i]? = some c ∧
      type = (keptClasses t rules roots).descriptor c ∧ Source.ProperFields c.fields := by
  obtain ⟨files, hkept, hgraph, -⟩ := discoverClasses_eq_ok h
  rw [hgraph, ClassIndex.get?_toDiscovery, Option.map_eq_some_iff] at hget
  obtain ⟨c, hc, rfl⟩ := hget
  refine ⟨c, hc, rfl, ?_⟩
  rw [hkept] at hc
  exact ClassIndex.properFields_of_mem_values (List.mem_of_getElem? hc)

theorem keyed_keptClasses {t : FileTree} {rules : List IgnoreRule} {roots : List Path}
    {d : Discovery} (h : discoverClasses t rules roots = .ok d) :
    (keptClasses t rules roots).Keyed := by
  obtain ⟨files, hkept, -⟩ := discoverClasses_eq_ok h
  rw [hkept]
  exact fun key c hget => ClassIndex.key_of_get?_classes hget

/-- All fields that are discovered have usable names. -/
theorem usable_of_discoverClasses {t : FileTree} {rules : List IgnoreRule} {roots : List Path}
    {d : Discovery} (h : discoverClasses t rules roots = .ok d) (j : TypeId) :
    ∀ field ∈ d.graph.declaredFields j, Usable field := by
  intro field hfield
  rw [TypeGraph.declaredFields] at hfield
  cases hget : d.graph.get? j with
  | none => simp [hget] at hfield
  | some type =>
    obtain ⟨c, -, rfl, hproper⟩ := exists_class_of_get? h hget
    rw [hget] at hfield
    obtain ⟨name, hname, rfl⟩ := List.mem_map.mp hfield
    exact ⟨name, rfl, (hproper.words name hname).ne_empty⟩

/-- In what is discovered, every type is that of a class that was kept and declares different names,
none of them empty and none kept for the language; its pointer leads to another type of a class that
was kept. Collecting from a class that was found tells of no field without a name. It complains of the
kind exactly of interfaces, and of the chain exactly of classes whose chain is closed or exceeds the
bound, and gives names for all others. -/
theorem discovered_classes_collect {t : FileTree} {rules : List IgnoreRule} {roots : List Path}
    {d : Discovery} (h : discoverClasses t rules roots = .ok d) :
    (∀ i type, d.graph.get? i = some type →
      IsKept (keptClasses t rules roots) type ∧
      (∀ a, type.ancestor = some a → a ≠ i ∧
        ∃ above, d.graph.get? a = some above ∧ IsKept (keptClasses t rules roots) above) ∧
      ∃ names : List String, type.declaredFields = names.map some ∧ names.Nodup ∧
        ∀ name ∈ names, name ≠ "" ∧ Source.isReservedName name = false) ∧
    ∀ i ∈ d.found, ∃ type, d.graph.get? i = some type ∧ ∀ bound : WalkBound,
      (∀ f, (collect d.graph bound (some i)).1 = .error f → f.code ≠ "malformed-field") ∧
      ((∃ f, (collect d.graph bound (some i)).1 = .error f ∧ f.code = "invalid-type") ↔
        type.kind = interfaceKind) ∧
      ((∃ f, (collect d.graph bound (some i)).1 = .error f ∧ f.code = "cyclic-hierarchy") ↔
        type.kind = classKind ∧ (d.graph.Loops i ∨ d.graph.Exceeds i bound)) ∧
      ((∃ names, (collect d.graph bound (some i)).1 = .ok names) ↔
        type.kind = classKind ∧ ¬ (d.graph.Loops i ∨ d.graph.Exceeds i bound)) := by
  have hkeyed := keyed_keptClasses h
  refine ⟨fun i type hget => ?_, fun i hi => ?_⟩
  · obtain ⟨c, hc, rfl, hproper⟩ := exists_class_of_get? h hget
    refine ⟨⟨c, hkeyed.get?_key hc, rfl⟩, fun a ha => ?_, c.fields, rfl, hproper.nodup, ?_⟩
    · obtain ⟨hother, above, habove⟩ := hkeyed.pointer_spec hc ha
      refine ⟨hother, _, ?_, above, hkeyed.get?_key habove, rfl⟩
      obtain ⟨files, -, hgraph, -⟩ := discoverClasses_eq_ok h
      rw [hgraph, ClassIndex.get?_toDiscovery, habove, Option.map_some]
    · exact fun name hname => ⟨(hproper.words name hname).ne_empty, hproper.free name hname⟩
  · obtain ⟨files, -, hgraph, hfound⟩ := discoverClasses_eq_ok h
    rw [hfound] at hi
    obtain ⟨c, hc, -⟩ := ClassIndex.exists_getElem?_of_mem_found hi
    have hget : d.graph.get? i = some ((keptClasses t rules roots).descriptor c) := by
      rw [hgraph, ClassIndex.get?_toDiscovery, hc, Option.map_some]
    refine ⟨_, hget, fun bound => ?_⟩
    have hdiffer : interfaceKind ≠ classKind := by decide
    cases hinterface : c.interface with
    | true =>
      have hkind : ((keptClasses t rules roots).descriptor c).kind = interfaceKind := by
        simp [ClassIndex.descriptor, hinterface]
      have hcollect := collect_of_other_kind hget (hkind ▸ hdiffer) bound
      simp [hcollect, hkind, hdiffer, Failure.code]
    | false =>
      have hkind : ((keptClasses t rules roots).descriptor c).kind = classKind := by
        simp [ClassIndex.descriptor, hinterface]
      rcases collect_of_usable hget hkind (usable_of_discoverClasses h) bound with
        ⟨hchain, chain, hcollect⟩ | ⟨hchain, names, hcollect⟩
      · simp [hcollect, hkind, hdiffer.symm, hchain, Failure.code]
      · simp [hcollect, hkind, hdiffer.symm, hchain, Failure.code]

/-- A module with two classes above each other, an interface, and a class on its own. -/
def knottedSite : FileTree where
  entries := [(["src"], .directory), (["src", "m.py"], .file
    "@fieldable\nclass A(B): x: int\nclass B(A): pass\n@fieldable\nclass P(Protocol): pass\n@fieldable\nclass C: y = 1\n".toUTF8)]
  current := []
  home := []

/-- The types of its classes. -/
def knottedTypes : List TypeDescriptor :=
  [⟨"m.A", "A", "m", [some "x"], some 1, classKind, some "m.py:2"⟩,
    ⟨"m.B", "B", "m", [], some 0, classKind, some "m.py:3"⟩,
    ⟨"m.P", "P", "m", [], none, interfaceKind, some "m.py:5"⟩,
    ⟨"m.C", "C", "m", [some "y"], none, classKind, some "m.py:7"⟩]

theorem discoverClasses_knottedSite :
    ((discoverClasses knottedSite [] [⟨.slash, ["src"]⟩]).toOption.map fun d =>
      (d.graph.types.toList, d.found)) = some (knottedTypes, [0, 2, 3]) := by
  decide +kernel

/-- The three classes that are found end in three ways. -/
theorem collect_knottedSite :
    ∃ d, discoverClasses knottedSite [] [⟨.slash, ["src"]⟩] = .ok d ∧ d.found = [0, 2, 3] ∧
      (∃ f, (collect d.graph .standard (some 0)).1 = .error f ∧ f.code = "cyclic-hierarchy") ∧
      (∃ f, (collect d.graph .standard (some 2)).1 = .error f ∧ f.code = "invalid-type") ∧
      ∃ names, (collect d.graph .standard (some 3)).1 = .ok names := by
  have hdata := discoverClasses_knottedSite
  cases hrun : discoverClasses knottedSite [] [⟨.slash, ["src"]⟩] with
  | error broken => simp [hrun, Except.toOption] at hdata
  | ok d =>
    rw [hrun] at hdata
    obtain ⟨htypes, hfound⟩ := Prod.mk.inj (Option.some.inj hdata)
    have hgraph : d.graph = .ofList knottedTypes := by
      rw [← htypes, TypeGraph.ofList, Array.toArray_toList]
    have hclosed : d.graph.Loops 0 := ⟨0, 2, 0, by decide, by rw [hgraph]; rfl, by rw [hgraph]; rfl⟩
    have hends : d.graph.above? 1 3 = none := by
      rw [hgraph]
      rfl
    have hopen : ¬ (d.graph.Loops 3 ∨ d.graph.Exceeds 3 .standard) := by
      rintro (⟨earlier, later, a, hearlier, -, hlater⟩ | hexceeds)
      · rw [above?_eq_none_of_le (Nat.succ_le_of_lt (Nat.zero_lt_of_lt hearlier)) hends] at hlater
        contradiction
      · exact hexceeds (above?_eq_none_of_le WalkBound.standard.positive hends)
    obtain ⟨-, hcollect⟩ := discovered_classes_collect hrun
    rw [hfound] at hcollect
    obtain ⟨first, hfirst, hloops⟩ := hcollect 0 (by decide)
    obtain ⟨third, hthird, hkind⟩ := hcollect 2 (by decide)
    obtain ⟨fourth, hfourth, hgives⟩ := hcollect 3 (by decide)
    rw [hgraph] at hfirst hthird hfourth
    obtain rfl := Option.some.inj hfirst
    obtain rfl := Option.some.inj hthird
    obtain rfl := Option.some.inj hfourth
    exact ⟨d, rfl, hfound, (hloops .standard).2.2.1.mpr ⟨rfl, .inl hclosed⟩,
      (hkind .standard).2.1.mpr rfl, (hgives .standard).2.2.2.mpr ⟨rfl, hopen⟩⟩

end Roster
