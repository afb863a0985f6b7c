import Mathlib.Data.List.ReduceOption
import Roster.Lineage
import Roster.Proofs.FirstOccurrences

/-! # What collecting gives

The chain of a type is the list of types from it up to the last one above it; pointers that form a
loop have no chain. Collecting follows the pointers one by one under a bound and checks the fields
as it meets them. It succeeds exactly when there is a chain, it fits the bound, and every field on
it has a usable name.

* `climb_eq_top_iff`: the walk ends above a last type exactly on chains that fit and do not repeat.
* `gather_eq_none_iff`, `gather_names`: the fields of a list of types, all usable or not.
* `collect_eq_ok_iff`: both together.
* `collect_succeeds_iff`: when collecting succeeds, and the names that it gives.
-/

namespace Roster

/-- The types from a type up to the last one above it. -/
inductive TypeGraph.Ascends (g : TypeGraph) : TypeId → List TypeId → Prop where
  | last {i : TypeId} (h : g.ancestor? i = none) : Ascends g i [i]
  | step {i j : TypeId} {chain : List TypeId} (h : g.ancestor? i = some j)
      (above : Ascends g j chain) : Ascends g i (i :: chain)

/-- A declared field is usable when it is a text that is not empty. -/
def Usable (field : Option String) : Prop := ∃ name, field = some name ∧ name ≠ ""

/-! ## Chains -/

namespace TypeGraph

variable {g : TypeGraph} {i above : TypeId} {visited : List TypeId}

/-- The chain of a type without a pointer is the type alone. -/
theorem ascends_iff_of_none (h : g.ancestor? i = none) : g.Ascends i visited ↔ visited = [i] := by
  constructor
  · intro hascends
    cases hascends with
    | last _ => rfl
    | step hstep _ => simp [h] at hstep
  · rintro rfl
    exact .last h

/-- The chain of a type with a pointer is the type and then the chain that the pointer leads to. -/
theorem ascends_iff_of_some (h : g.ancestor? i = some above) :
    g.Ascends i visited ↔ ∃ chain, visited = i :: chain ∧ g.Ascends above chain := by
  constructor
  · intro hascends
    cases hascends with
    | last hlast => simp [h] at hlast
    | @step _ j chain hstep hrest =>
      obtain rfl : above = j := by simpa [h] using hstep
      exact ⟨chain, rfl, hrest⟩
  · rintro ⟨chain, rfl, hchain⟩
    exact .step h hchain

/-- A chain begins with its own type. -/
theorem Ascends.exists_cons (h : g.Ascends i visited) : ∃ chain, visited = i :: chain := by
  cases h with
  | last _ => exact ⟨[], rfl⟩
  | step _ _ => exact ⟨_, rfl⟩

/-- A type has one chain at most. -/
theorem Ascends.unique {other : List TypeId} (h : g.Ascends i visited) (h' : g.Ascends i other) :
    visited = other := by
  induction h generalizing other with
  | last hnone => exact ((ascends_iff_of_none hnone).mp h').symm
  | step hsome _ ih =>
    obtain ⟨chain, rfl, hchain⟩ := (ascends_iff_of_some hsome).mp h'
    rw [ih hchain]

end TypeGraph

/-! ## The walk -/

theorem climb_eq_top_iff (g : TypeGraph) (room : Nat) {seen : List TypeId} (hseen : seen.Nodup)
    (i : TypeId) (visited : List TypeId) :
    climb g room seen i = (visited, .top) ↔
      g.Ascends i visited ∧ visited.length ≤ room ∧ (seen ++ visited).Nodup := by
  induction room generalizing seen i visited with
  | zero =>
    constructor
    · intro h
      simp [climb] at h
    · rintro ⟨hascends, hlength, -⟩
      -- a chain has at least one type, so it does not fit into no room
      obtain ⟨chain, rfl⟩ := hascends.exists_cons
      simp at hlength
  | succ room ih =>
    unfold climb
    by_cases hi : i ∈ seen
    · rw [if_pos hi]
      constructor
      · intro h
        simp at h
      · rintro ⟨hascends, -, hnodup⟩
        obtain ⟨chain, rfl⟩ := hascends.exists_cons
        exact absurd rfl ((List.nodup_append.mp hnodup).2.2 i hi i List.mem_cons_self)
    · rw [if_neg hi]
      have hgrown : (seen ++ [i]).Nodup := nodup_snoc hseen hi
      cases habove : g.ancestor? i with
      | none =>
        rw [TypeGraph.ascends_iff_of_none habove]
        constructor
        · intro h
          obtain rfl : [i] = visited := by simpa using h
          exact ⟨rfl, by simp, hgrown⟩
        · rintro ⟨rfl, -, -⟩
          rfl
      | some above =>
        -- the walk above this type has seen one type more and has one step less
        rw [TypeGraph.ascends_iff_of_some habove]
        constructor
        · intro h
          simp only [Prod.mk.injEq] at h
          obtain ⟨rfl, htop⟩ := h
          obtain ⟨hchain, hroom, hnodup⟩ := (ih hgrown above _).mp (Prod.ext rfl htop)
          exact ⟨⟨_, rfl, hchain⟩, by simpa using hroom, by simpa [List.append_assoc] using hnodup⟩
        · rintro ⟨⟨chain, rfl, hchain⟩, hlength, hnodup⟩
          have hclimb := (ih hgrown above chain).mpr
            ⟨hchain, by simpa using hlength, by simpa [List.append_assoc] using hnodup⟩
          simp [hclimb]

/-- A walk from a class ends without failure exactly when its chain fits the bound. -/
theorem walk_failure_eq_none_iff {g : TypeGraph} {i : TypeId} {t : TypeDescriptor}
    (ht : g.get? i = some t) (hkind : t.kind = classKind) (bound : WalkBound)
    (visited : List TypeId) :
    walk g bound (some i) = ⟨visited, none⟩ ↔
      g.Ascends i visited ∧ visited.length ≤ bound.depth ∧ visited.Nodup := by
  have hclimb := climb_eq_top_iff g bound.depth List.nodup_nil i visited
  rw [List.nil_append] at hclimb
  rw [← hclimb]
  simp only [walk, Option.bind_some, ht, Option.map_some, hkind, ne_eq, not_true_eq_false, if_false]
  rcases hway : climb g bound.depth [] i with ⟨way, ending⟩
  cases ending <;> simp

/-! ## The fields -/

theorem usableName?_eq_some_iff (field : Option String) (name : String) :
    usableName? field = some name ↔ field = some name ∧ name ≠ "" := by
  simp [usableName?, Option.filter_eq_some_iff]

theorem usableName?_eq_none_iff (field : Option String) :
    usableName? field = none ↔ ¬ Usable field := by
  rw [Option.eq_none_iff_forall_not_mem]
  simp only [Option.mem_def, usableName?_eq_some_iff, Usable, not_exists]

instance (field : Option String) : Decidable (Usable field) :=
  match hname : usableName? field with
  | some name => .isTrue ⟨name, (usableName?_eq_some_iff field name).mp hname⟩
  | none => .isFalse ((usableName?_eq_none_iff field).mp hname)

/-- The fields of one type are gathered without complaint exactly when all are usable. -/
theorem gatherFields_eq_none_iff (typeName : String) (acc : Gathered) (index : Nat)
    (fields : List (Option String)) :
    (gatherFields typeName acc index fields).2 = none ↔ ∀ field ∈ fields, Usable field := by
  induction fields generalizing acc index with
  | nil => simp [gatherFields]
  | cons field rest ih =>
    unfold gatherFields
    cases hname : usableName? field with
    | none =>
      have hbad := (usableName?_eq_none_iff field).mp hname
      simp [hbad]
    | some name =>
      have hgood : Usable field := ⟨name, (usableName?_eq_some_iff field name).mp hname⟩
      rw [List.forall_mem_cons, and_iff_right hgood]
      dsimp only
      split
      · exact ih acc (index + 1)
      · exact ih _ (index + 1)

/-- The fields of one type are pushed one after the other. -/
theorem gatherFields_names (typeName : String) (acc : Gathered) (index : Nat)
    {fields : List (Option String)} (h : ∀ field ∈ fields, Usable field) :
    (gatherFields typeName acc index fields).1.names
      = fields.reduceOption.foldl FieldNames.push acc.names := by
  induction fields generalizing acc index with
  | nil => rfl
  | cons field rest ih =>
    rw [List.forall_mem_cons] at h
    obtain ⟨⟨name, rfl, hname⟩, hrest⟩ := h
    have husable := (usableName?_eq_some_iff (some name) name).mpr ⟨rfl, hname⟩
    simp only [gatherFields, husable, List.reduceOption_cons_of_some, List.foldl_cons]
    split
    · rename_i hknown
      have hsame : acc.names.push name = acc.names := by
        have hmem : name ∈ acc.names.toList := by simpa [FieldNames.contains] using hknown
        simp [FieldNames.push, hmem]
      rw [ih acc _ hrest, hsame]
    · rw [ih _ _ hrest]

/-- The fields of visited types are gathered without complaint exactly when all are usable. -/
theorem gather_eq_none_iff (g : TypeGraph) (acc : Gathered) (visited : List TypeId) :
    (gather g acc visited).2 = none ↔
      ∀ j ∈ visited, ∀ field ∈ g.declaredFields j, Usable field := by
  induction visited generalizing acc with
  | nil => simp [gather]
  | cons i rest ih =>
    have hfields := gatherFields_eq_none_iff (g.nameOf i) acc 0 (g.declaredFields i)
    unfold gather
    rcases hgot : gatherFields (g.nameOf i) acc 0 (g.declaredFields i) with ⟨acc', bad⟩
    rw [hgot] at hfields
    rw [List.forall_mem_cons, ← hfields]
    cases bad with
    | none => simp [ih]
    | some index => simp

/-- The fields of visited types are pushed in the order of the visits. -/
theorem gather_names (g : TypeGraph) (acc : Gathered) (visited : List TypeId)
    (h : ∀ j ∈ visited, ∀ field ∈ g.declaredFields j, Usable field) :
    (gather g acc visited).1.names
      = (visited.flatMap g.declaredFields).reduceOption.foldl FieldNames.push acc.names := by
  induction visited generalizing acc with
  | nil => rfl
  | cons i rest ih =>
    rw [List.forall_mem_cons] at h
    have hnone := (gatherFields_eq_none_iff (g.nameOf i) acc 0 (g.declaredFields i)).mpr h.1
    have hnames := gatherFields_names (g.nameOf i) acc 0 h.1
    unfold gather
    rcases hgot : gatherFields (g.nameOf i) acc 0 (g.declaredFields i) with ⟨acc', bad⟩
    rw [hgot] at hnone hnames
    obtain rfl : bad = none := hnone
    simp only at hnames
    rw [List.flatMap_cons, List.reduceOption_append, List.foldl_append, ← hnames, ih _ h.2]

/-! ## Collecting -/

/-- What collecting from a class gives: the fields of its chain, if there is one that fits the bound
and all of them are usable. -/
theorem collect_eq_ok_iff {g : TypeGraph} {i : TypeId} {t : TypeDescriptor}
    (ht : g.get? i = some t) (hkind : t.kind = classKind) (bound : WalkBound)
    (names : FieldNames) :
    (collect g bound (some i)).1 = .ok names ↔
      ∃ chain, g.Ascends i chain ∧ chain.length ≤ bound.depth ∧ chain.Nodup ∧
        (∀ j ∈ chain, ∀ field ∈ g.declaredFields j, Usable field) ∧
        names = (FieldNames.ofList (chain.flatMap g.declaredFields).reduceOption).freeze := by
  have hwalk := walk_failure_eq_none_iff ht hkind bound
  rcases hway : walk g bound (some i) with ⟨visited, failure⟩
  simp only [hway, Walk.mk.injEq] at hwalk
  have hbad := gather_eq_none_iff g ⟨FieldNames.empty, []⟩ visited
  have hnames := gather_names g ⟨FieldNames.empty, []⟩ visited
  unfold collect
  simp only [hway]
  rcases hgot : gather g ⟨FieldNames.empty, []⟩ visited with ⟨acc, bad⟩
  rw [hgot] at hbad hnames
  -- the walk and what is gathered on it may fail, and each one fails the collection
  constructor
  · intro h
    cases bad with
    | some place => simp at h
    | none =>
      cases failure with
      | some failure => simp at h
      | none =>
        obtain ⟨hasc, hlen, hnd⟩ := (hwalk visited).mp ⟨rfl, rfl⟩
        have husable := hbad.mp rfl
        refine ⟨visited, hasc, hlen, hnd, husable, ?_⟩
        simp only [Except.ok.injEq] at h
        rw [← h, hnames husable, FieldNames.ofList]
  · rintro ⟨chain, hasc, hlen, hnd, husable, rfl⟩
    obtain ⟨rfl, rfl⟩ := (hwalk chain).mpr ⟨hasc, hlen, hnd⟩
    obtain rfl : bad = none := hbad.mpr husable
    simp only at hnames
    simp only [hnames husable, FieldNames.ofList]

/-- Nothing can be collected from a type that is missing. -/
theorem collect_missing {g : TypeGraph} {type : Option TypeId} (h : type.bind g.get? = none)
    (bound : WalkBound) : (collect g bound type).1 = .error .missingType := by
  have htarget : (type.bind fun i => (g.get? i).map fun t => (i, t)) = none := by
    cases type with
    | none => rfl
    | some i =>
      have hi : g.get? i = none := by simpa using h
      simp [hi]
  simp [collect, walk, htarget, gather]

/-- A walk fails on account of the type that it starts from. -/
theorem sourceType_of_walk_failure {g : TypeGraph} {i : TypeId} {t : TypeDescriptor}
    (ht : g.get? i = some t) {bound : WalkBound} {f : Failure}
    (h : (walk g bound (some i)).failure = some f) : f.sourceType = some t.qualifiedName := by
  simp only [walk, Option.bind_some, ht, Option.map_some] at h
  split at h
  · obtain rfl := Option.some.inj h
    rfl
  · split at h
    · simp at h
    · obtain rfl := Option.some.inj h
      rfl

/-- Whatever goes wrong with a type is put down to the type. -/
theorem sourceType_of_collect_error {g : TypeGraph} {bound : WalkBound} {type : Option TypeId}
    {f : Failure} (h : (collect g bound type).1 = .error f) :
    f.sourceType = (type.bind g.get?).map (·.qualifiedName) := by
  cases hfound : type.bind g.get? with
  | none =>
    rw [collect_missing hfound] at h
    obtain rfl := Except.error.inj h
    rfl
  | some t =>
    obtain ⟨i, rfl, ht⟩ := Option.bind_eq_some_iff.mp hfound
    have hname : g.nameOf i = t.qualifiedName := by simp [TypeGraph.nameOf, ht]
    unfold collect at h
    dsimp only at h
    split at h
    · -- a field without a usable name
      obtain rfl := Except.error.inj h
      simp [Failure.sourceType, hname]
    · split at h
      · rename_i failure hfailure
        obtain rfl := Except.error.inj h
        exact sourceType_of_walk_failure ht hfailure
      · simp at h

/-- Usable fields are their names. -/
theorem map_some_reduceOption {fields : List (Option String)} (h : ∀ field ∈ fields, Usable field) :
    fields.reduceOption.map some = fields := by
  induction fields with
  | nil => rfl
  | cons field rest ih =>
    rw [List.forall_mem_cons] at h
    obtain ⟨⟨name, rfl, -⟩, hrest⟩ := h
    rw [List.reduceOption_cons_of_some, List.map_cons, ih hrest]

/-- Collecting from a class succeeds exactly when its chain ends within the bound, no type comes
twice, and every field declared on it has a usable name. The names are then frozen, and are the
declared fields from the lowest type up, each at its first place only. -/
theorem collect_succeeds_iff (g : TypeGraph) (bound : WalkBound) (i : TypeId) (t : TypeDescriptor)
    (ht : g.get? i = some t) (hkind : t.kind = classKind) :
    ((∃ names, (collect g bound (some i)).1 = .ok names) ↔
      ∃ chain, g.Ascends i chain ∧ chain.length ≤ bound.depth ∧ chain.Nodup ∧
        ∀ j ∈ chain, ∀ field ∈ g.declaredFields j, Usable field) ∧
    ∀ names chain, (collect g bound (some i)).1 = .ok names → g.Ascends i chain →
      names.frozen = true ∧
      names.toList.map some = (chain.flatMap g.declaredFields).eraseDups := by
  have hcollect := collect_eq_ok_iff ht hkind bound
  constructor
  · constructor
    · rintro ⟨names, h⟩
      obtain ⟨chain, hasc, hlen, hnd, husable, -⟩ := (hcollect names).mp h
      exact ⟨chain, hasc, hlen, hnd, husable⟩
    · rintro ⟨chain, hasc, hlen, hnd, husable⟩
      exact ⟨_, (hcollect _).mpr ⟨chain, hasc, hlen, hnd, husable, rfl⟩⟩
  · intro names chain h hasc
    obtain ⟨other, hother, -, -, husable, rfl⟩ := (hcollect names).mp h
    obtain rfl := hasc.unique hother
    refine ⟨rfl, ?_⟩
    have hall : ∀ field ∈ chain.flatMap g.declaredFields, Usable field := by
      intro field hfield
      obtain ⟨j, hj, hmem⟩ := List.mem_flatMap.mp hfield
      exact husable j hj field hmem
    rw [FieldNames.toList_freeze, FieldNames.toList_ofList,
      ← eraseDups_map (fun _ _ => Option.some.inj), map_some_reduceOption hall]

/-- A type that declares a name twice, below one that declares another of its names once more. -/
def dogBelowAnimal : TypeGraph := TypeGraph.ofList [
  ⟨"zoo.Dog", "Dog", "zoo", [some "breed", some "name", some "breed"], some 1, classKind, none⟩,
  ⟨"zoo.Animal", "Animal", "zoo", [some "name", some "age"], none, classKind, none⟩]

/-- Two types fill a bound of two. -/
theorem collect_dogBelowAnimal :
    ∃ names, (collect dogBelowAnimal ⟨2, by decide⟩ (some 0)).1 = .ok names ∧
      names.frozen = true ∧ names.toList.map some = [some "breed", some "name", some "age"] := by
  obtain ⟨hiff, hnames⟩ := collect_succeeds_iff dogBelowAnimal ⟨2, by decide⟩ 0 _ rfl rfl
  have hasc : dogBelowAnimal.Ascends 0 [0, 1] := .step rfl (.last rfl)
  obtain ⟨names, hok⟩ := hiff.mpr ⟨[0, 1], hasc, by decide, by decide, by decide⟩
  exact ⟨names, hok, hnames names [0, 1] hok hasc⟩

end Roster
