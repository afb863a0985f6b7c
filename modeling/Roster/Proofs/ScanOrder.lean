import Mathlib.Data.List.Nodup
import Mathlib.Data.List.Perm.Basic
import Roster.Proofs.ScannedTree
import Roster.Proofs.SoundTrees

/-! # The order of a scan

The modules below a directory come in an order of their own: the files of a directory before its
subdirectories, both by name. The order is strict, so two scans that find the same modules find the
same list of them.

* `Before`: the order, on the names that lead to the modules.
* `modulesBelow_pairwise`: a scan of a sound tree keeps to it.
* `modulesBelow_eq_of_reaches_iff`: what is reached tells the scan.
-/

namespace Roster

/-- One chain of names is scanned before another. -/
inductive Before : List String → List String → Prop
  | files {a b : String} (hle : a ≤ b) (hne : a ≠ b) : Before [a] [b]
  | fileFirst {a b : String} {ys : List String} (hys : ys ≠ []) : Before [a] (b :: ys)
  | folders {a b : String} {xs ys : List String} (hle : a ≤ b) (hne : a ≠ b) (hxs : xs ≠ [])
      (hys : ys ≠ []) : Before (a :: xs) (b :: ys)
  | inside {a : String} {xs ys : List String} (rest : Before xs ys) : Before (a :: xs) (a :: ys)

theorem Before.asymm {xs ys : List String} (h : Before xs ys) : ¬ Before ys xs := by
  induction h with
  | files hle hne =>
    rintro (⟨hle', -⟩ | hys | ⟨-, -, hxs, -⟩ | hrest)
    · exact hne (String.le_antisymm hle hle')
    · exact hys rfl
    · exact hxs rfl
    · cases hrest
  | fileFirst hys =>
    rintro (- | - | ⟨-, -, -, hxs⟩ | hrest)
    · exact hys rfl
    · exact hys rfl
    · exact hxs rfl
    · cases hrest
  | folders hle hne hxs hys =>
    rintro (- | - | ⟨hle', -, -, -⟩ | -)
    · exact hxs rfl
    · exact hys rfl
    · exact hne (String.le_antisymm hle hle')
    · exact hne rfl
  | inside rest ih =>
    rintro (⟨-, hne⟩ | - | ⟨-, hne, -, -⟩ | hrest)
    · exact hne rfl
    · cases rest
    · exact hne rfl
    · exact ih hrest

/-- Lists in a strict order with the same members are the same. -/
theorem eq_of_pairwise_of_mem_iff {α : Type} {R : α → α → Prop} {xs ys : List α}
    (hasymm : ∀ a b, R a b → ¬ R b a) (hxs : xs.Pairwise R) (hys : ys.Pairwise R)
    (h : ∀ a, a ∈ xs ↔ a ∈ ys) : xs = ys := by
  have hnodup : ∀ {zs : List α}, zs.Pairwise R → zs.Nodup := by
    intro zs hzs
    refine hzs.imp ?_
    rintro a b hab rfl
    exact hasymm a a hab hab
  have hperm := (List.perm_ext_iff_of_nodup (hnodup hxs) (hnodup hys)).mpr h
  exact hperm.eq_of_pairwise (fun a b _ _ hab hba => absurd hba (hasymm a b hab)) hxs hys

/-! ## The names in a directory -/

theorem nodup_namesIn {t : FileTree} (ht : t.Sound) (place : Place) :
    ((t.namesIn place).map (·.1)).Nodup := by
  have hkeys : (t.namesIn place).map (·.1)
      = (t.entries.map (·.1)).filterMap fun p => if p.dropLast = place then p.getLast? else none := by
    rw [FileTree.namesIn, List.map_filterMap, List.filterMap_map]
    refine List.filterMap_congr fun x _ => ?_
    cases hlast : x.1.getLast? with
    | none => simp [hlast]
    | some name =>
      by_cases hplace : x.1.dropLast = place
      · simp [hlast, hplace]
      · simp [hlast, hplace]
  rw [hkeys]
  refine ht.keys.filterMap ?_
  intro p q name hp hq
  -- a place is told by the place above it and by its name
  rw [Option.mem_def, Option.ite_none_right_eq_some] at hp hq
  rw [← List.dropLast_append_getLast? _ hp.2, ← List.dropLast_append_getLast? _ hq.2, hp.1, hq.1]

/-- Different names in order of each other. -/
theorem sortedNames_pairwise {names : List String} (h : names.Nodup) :
    (sortedNames names).Pairwise fun a b => a ≤ b ∧ a ≠ b := by
  have hsorted := @List.pairwise_mergeSort String (fun a b => decide (a ≤ b))
    (fun a b c hab hbc => by simpa using String.le_trans (by simpa using hab) (by simpa using hbc))
    (fun a b => by simpa using String.le_total a b) names
  have hnodup : (sortedNames names).Nodup := (List.mergeSort_perm names _).nodup_iff.mpr h
  exact (hsorted.imp fun hle => of_decide_eq_true hle).and hnodup

/-- Some of the names in a directory, in order. -/
theorem pairwise_namesIn {t : FileTree} (ht : t.Sound) (place : Place)
    (kind : String × FileEntry → Bool) (test : String → Bool) :
    ((sortedNames (((t.namesIn place).filter kind).map (·.1))).filter test).Pairwise
      fun a b => a ≤ b ∧ a ≠ b := by
  have hsome : ((t.namesIn place).filter kind).Sublist (t.namesIn place) := List.filter_sublist
  exact (sortedNames_pairwise ((nodup_namesIn ht place).sublist (hsome.map _))).filter test

/-! ## The modules below a directory -/

/-- Of two modules below a place, the chain of names to one comes before the chain to the other. -/
def FoundBefore (place : Place) (x y : Place × String) : Prop :=
  ∃ xs ys, x.1 = place ++ xs ∧ y.1 = place ++ ys ∧ Before xs ys

theorem FoundBefore.asymm {place : Place} {x y : Place × String} (h : FoundBefore place x y) :
    ¬ FoundBefore place y x := by
  obtain ⟨xs, ys, hx, hy, hbefore⟩ := h
  rintro ⟨ys', xs', hy', hx', hafter⟩
  obtain rfl := List.append_cancel_left (hx.symm.trans hx')
  obtain rfl := List.append_cancel_left (hy.symm.trans hy')
  exact hbefore.asymm hafter

/-- The modules below a directory come in order. -/
theorem modulesBelow_pairwise {t : FileTree} (ht : t.Sound) (rules : List IgnoreRule) (depth : Nat)
    (place : Place) (directory : String) :
    (modulesBelow t rules depth place directory).Pairwise (FoundBefore place) := by
  induction depth generalizing place directory with
  | zero => exact .nil
  | succ depth ih =>
    -- what is found below a subdirectory has the subdirectory's name in front
    have hinside : ∀ name, ∀ x ∈ modulesBelow t rules depth (place ++ [name])
        (entryPath directory name), ∃ xs, xs ≠ [] ∧ x.1 = place ++ name :: xs := by
      intro name x hx
      obtain ⟨names, -, hreaches, rfl⟩ := (mem_modulesBelow_iff ..).mp hx
      exact ⟨names, hreaches.ne_nil, by simp⟩
    rw [modulesBelow, List.pairwise_append]
    refine ⟨?_, ?_, ?_⟩
    · rw [List.pairwise_map]
      refine (pairwise_namesIn ht place _ _).imp ?_
      rintro a b ⟨hle, hne⟩
      exact ⟨[a], [b], rfl, rfl, .files hle hne⟩
    · rw [List.pairwise_flatMap]
      constructor
      · intro name _
        refine (ih (place ++ [name]) (entryPath directory name)).imp ?_
        rintro x y ⟨xs, ys, hx, hy, hbefore⟩
        refine ⟨name :: xs, name :: ys, ?_, ?_, .inside hbefore⟩
        · rw [hx, List.append_assoc, List.singleton_append]
        · rw [hy, List.append_assoc, List.singleton_append]
      · refine (pairwise_namesIn ht place _ _).imp ?_
        rintro a b ⟨hle, hne⟩ x hx y hy
        obtain ⟨xs, hxs, hxplace⟩ := hinside a x hx
        obtain ⟨ys, hys, hyplace⟩ := hinside b y hy
        exact ⟨a :: xs, b :: ys, hxplace, hyplace, .folders hle hne hxs hys⟩
    · intro x hx y hy
      obtain ⟨a, -, rfl⟩ := List.mem_map.mp hx
      obtain ⟨b, -, hbelow⟩ := List.mem_flatMap.mp hy
      obtain ⟨ys, hys, hplace⟩ := hinside b y hbelow
      exact ⟨[a], b :: ys, rfl, hplace, .fileFirst hys⟩

/-- What is reached lies no deeper than a sound tree has entries. -/
theorem Reaches.get? {t : FileTree} (ht : t.Sound) {rules : List IgnoreRule} {place : Place}
    {directory : String} {names : List String} (h : Reaches t rules place directory names) :
    ∃ content, t.get? (place ++ names) = some (.file content) := by
  induction h with
  | @file place directory name e hentry hfile _ _ =>
    cases e with
    | file content => exact ⟨content, ht.mem_namesIn_iff.mp hentry⟩
    | directory => contradiction
  | folder _ _ _ _ ih =>
    obtain ⟨content, hcontent⟩ := ih
    exact ⟨content, by simpa using hcontent⟩

theorem Reaches.length_le {t : FileTree} (ht : t.Sound) {rules : List IgnoreRule} {place : Place}
    {directory : String} {names : List String} (h : Reaches t rules place directory names) :
    names.length ≤ t.entries.length + 1 := by
  obtain ⟨content, hcontent⟩ := h.get? ht
  have hlength := ht.length_le hcontent
  rw [List.length_append] at hlength
  omega

/-- A module below a root is at the end of names of the tree. -/
theorem exists_names_of_mem_scan {t : FileTree} (ht : t.Sound) {extra : List IgnoreRule} {root : Path}
    {files : List SourceFile} (h : scan t extra root = .ok files) {f : SourceFile} (hf : f ∈ files) :
    ∃ top names, names ≠ [] ∧ (∀ name ∈ names, Path.IsEntryName name) ∧ f = moduleAt top names := by
  obtain ⟨top, own, hscans⟩ := exists_scansFrom h
  obtain ⟨names, -, hreaches, rfl⟩ := (hscans.mem_iff h f).mp hf
  obtain ⟨content, hfile⟩ := hreaches.get? ht
  exact ⟨top.parts, names, hreaches.ne_nil, fun name hname =>
    ht.isEntryName hfile name (List.mem_append_right _ hname), rfl⟩

section Trees

variable {t t' : FileTree} (ht : t.Sound) (ht' : t'.Sound) {rules : List IgnoreRule} {place : Place}
  {directory : String}

include ht ht'

/-- A scan that reaches some of what another reaches, with the same rules and from the same directory,
finds these modules in the same order, in whatever trees. -/
theorem modulesBelow_eq_filter (kept : Place × String → Bool)
    (h : ∀ names, Reaches t' rules place directory names ↔
      Reaches t rules place directory names ∧
        kept (place ++ names, namedPath directory names) = true) :
    modulesBelow t' rules (t'.entries.length + 1) place directory
      = (modulesBelow t rules (t.entries.length + 1) place directory).filter kept := by
  refine eq_of_pairwise_of_mem_iff (fun x y hxy => hxy.asymm)
    (modulesBelow_pairwise ht' rules _ place directory)
    ((modulesBelow_pairwise ht rules _ place directory).filter kept) fun found => ?_
  rw [List.mem_filter, mem_modulesBelow_iff, mem_modulesBelow_iff]
  constructor
  · rintro ⟨names, -, hreaches, rfl⟩
    obtain ⟨hsame, hkept⟩ := (h names).mp hreaches
    exact ⟨⟨names, hsame.length_le ht, hsame, rfl⟩, hkept⟩
  · rintro ⟨⟨names, -, hreaches, rfl⟩, hkept⟩
    have hsame := (h names).mpr ⟨hreaches, hkept⟩
    exact ⟨names, hsame.length_le ht', hsame, rfl⟩

/-- Two scans that reach the same find the same modules in the same order. -/
theorem modulesBelow_eq_of_reaches_iff
    (h : ∀ names, Reaches t' rules place directory names ↔ Reaches t rules place directory names) :
    modulesBelow t' rules (t'.entries.length + 1) place directory
      = modulesBelow t rules (t.entries.length + 1) place directory := by
  have hfilter := modulesBelow_eq_filter ht ht' (fun _ => true) fun names =>
    (h names).trans (and_iff_left rfl).symm
  rwa [List.filter_true] at hfilter

end Trees

end Roster
