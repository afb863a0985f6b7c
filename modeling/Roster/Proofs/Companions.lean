import Mathlib.Data.List.Basic
import Mathlib.Data.List.Nodup
import Roster.Proofs.Collisions
import Roster.Proofs.Lineage

/-! # Which types get companions

Processing a list of types has two filters: the fields of a type must be there to collect, and the
companion's qualified name must be its own. A type that passes both *stands*. Whether it does depends
on the list alone, not on the workers or their order.

* `keys_process`, `get?_process`: the types that stand get their companions, in order.
* `errorsOf_process_perm`: each of the others gets one error, about itself.
* `process_accounts_for_every_type`: both together, for a list of different types.
-/

namespace Roster
namespace Round

section Statement

variable (setup : RoundSetup) (g : TypeGraph)

/-- The companion that a type would get by itself. -/
def ownCompanion? (type : Option TypeId) : Option Artifact :=
  match (collect g setup.bound type).1 with
  | .ok names => (type.bind g.get?).map fun t => Artifact.build t names setup.debuggable
  | .error _ => none

/-- The type and the companion that it would get by itself. -/
def ownPair? (type : Option TypeId) : Option (TypeId × Artifact) :=
  type.bind fun i => (ownCompanion? setup g type).map fun a => (i, a)

/-- The companions that types would get, each by itself. -/
def ownCompanions (types : List (Option TypeId)) : List Artifact :=
  types.filterMap (ownCompanion? setup g)

/-- The qualified name of the companion that a type would get by itself. -/
def ownName? (type : Option TypeId) : Option String :=
  (ownCompanion? setup g type).map (·.qualifiedName)

/-- A type stands among others when it would get a companion and none of the others would get one of
the same qualified name. -/
def Stands (types : List (Option TypeId)) (type : Option TypeId) : Prop :=
  (ownName? setup g type).isSome ∧
    ∀ other ∈ types, other ≠ type → ownName? setup g other ≠ ownName? setup g type

instance (types : List (Option TypeId)) : DecidablePred (Stands setup g types) :=
  fun _ => inferInstanceAs (Decidable (_ ∧ _))

/-- Why a type that does not stand gets no companion: its fields cannot be collected, or others share
the qualified name. -/
def reason (types : List (Option TypeId)) (type : Option TypeId) : Failure :=
  match (collect g setup.bound type).1 with
  | .error f => f
  | .ok _ =>
    let name := (ownName? setup g type).getD ""
    .collision name
      ((havingKey Artifact.qualifiedName (ownCompanions setup g types) name).map (·.sourceType))

/-- The error about a type that does not stand. -/
def complaint (types : List (Option TypeId)) (type : Option TypeId) : Diagnostic :=
  .error (nameOf? g type) (reason setup g types type).message (some (reason setup g types type).code)

end Statement

variable {setup : RoundSetup} {g : TypeGraph}

/-! ## One type -/

theorem ownCompanion?_eq_some_iff {type : Option TypeId} {a : Artifact} :
    ownCompanion? setup g type = some a ↔
      ∃ t names, type.bind g.get? = some t ∧ (collect g setup.bound type).1 = .ok names ∧
        a = Artifact.build t names setup.debuggable := by
  unfold ownCompanion?
  cases hcollect : (collect g setup.bound type).1 with
  | error f => simp
  | ok names =>
    simp only [Option.map_eq_some_iff, Except.ok.injEq]
    constructor
    · rintro ⟨t, ht, rfl⟩
      exact ⟨t, names, ht, rfl, rfl⟩
    · rintro ⟨t, _, ht, rfl, rfl⟩
      exact ⟨t, ht, rfl⟩

/-- A type would get a companion as soon as its fields can be collected. -/
theorem ownCompanion?_of_collect {type : Option TypeId} {names : FieldNames}
    (h : (collect g setup.bound type).1 = .ok names) : ∃ a, ownCompanion? setup g type = some a := by
  cases hfound : type.bind g.get? with
  | none =>
    rw [collect_missing hfound] at h
    simp at h
  | some t => exact ⟨_, ownCompanion?_eq_some_iff.mpr ⟨t, names, hfound, h, rfl⟩⟩

theorem ownCompanion?_of_error {type : Option TypeId} {f : Failure}
    (h : (collect g setup.bound type).1 = .error f) : ownCompanion? setup g type = none := by
  simp [ownCompanion?, h]

theorem sourceType_of_ownCompanion? {type : Option TypeId} {a : Artifact}
    (h : ownCompanion? setup g type = some a) : nameOf? g type = some a.sourceType := by
  obtain ⟨t, names, ht, -, rfl⟩ := ownCompanion?_eq_some_iff.mp h
  simp [nameOf?, ht, Artifact.build]

/-- What comes of one type: its own companion. -/
theorem made_processType (type : Option TypeId) :
    (processType setup g type).1.made = ownPair? setup g type := by
  unfold processType ownPair? ownCompanion?
  rcases collect g setup.bound type with ⟨(f | names), log⟩
  · cases type <;> rfl
  · cases type with
    | none => rfl
    | some i => cases hget : g.get? i <;> simp [companion?, hget]

theorem blamed_eq {type : Option TypeId} {f : Failure}
    (h : (collect g setup.bound type).1 = .error f) : blamed g type f = nameOf? g type := by
  have hsource : f.sourceType = nameOf? g type := sourceType_of_collect_error h
  unfold blamed
  split
  · rename_i name hname
    rw [← hsource]
    exact (Option.filter_eq_some_iff.mp hname).1.symm
  · rfl

/-- The error that comes of one type by itself, if its fields cannot be collected. -/
def ownError? (setup : RoundSetup) (g : TypeGraph) (type : Option TypeId) : Option Diagnostic :=
  match (collect g setup.bound type).1 with
  | .error f => some (.error (nameOf? g type) f.message (some f.code))
  | .ok _ => none

theorem errorsOf_processType (type : Option TypeId) :
    errorsOf (processType setup g type).1.diagnostics = (ownError? setup g type).toList := by
  have hblamed := @blamed_eq setup g type
  unfold processType ownError?
  rcases hgot : collect g setup.bound type with ⟨(f | names), log⟩
  · rw [hgot] at hblamed
    simp [Report.failure, hblamed rfl]
  · simp

/-! ## Rivals -/

theorem ownPair?_eq_some_iff {type : Option TypeId} {i : TypeId} {a : Artifact} :
    ownPair? setup g type = some (i, a) ↔ type = some i ∧ ownCompanion? setup g type = some a := by
  unfold ownPair?
  cases type <;> simp [and_comm]

theorem map_snd_ownPair? (type : Option TypeId) :
    (ownPair? setup g type).map (·.2) = ownCompanion? setup g type := by
  cases type with
  | none =>
    have hmissing := @collect_missing g none rfl setup.bound
    simp [ownPair?, ownCompanion?, hmissing]
  | some i => simp [ownPair?, Function.comp_def]

/-- As many companions have a name as there are types whose own companions have it. -/
theorem length_havingKey_ownCompanions (types : List (Option TypeId)) (name : String) :
    (havingKey Artifact.qualifiedName (ownCompanions setup g types) name).length
      = (types.filter fun type => ownName? setup g type = some name).length := by
  induction types with
  | nil => rfl
  | cons type rest ih =>
    simp only [havingKey, ownCompanions] at ih
    cases hown : ownCompanion? setup g type with
    | none => simp [havingKey, ownCompanions, ownName?, hown, ih]
    | some a =>
      by_cases hname : a.qualifiedName = name <;>
        simp [havingKey, ownCompanions, ownName?, hown, hname, ih]

/-- The name of a type's own companion is shared exactly when another type's companion has it. -/
theorem shared_iff {types : List (Option TypeId)} (h : types.Nodup) {type : Option TypeId}
    (hmem : type ∈ types) {a : Artifact} (hown : ownCompanion? setup g type = some a) :
    Shared Artifact.qualifiedName (ownCompanions setup g types) a.qualifiedName ↔
      ∃ other ∈ types, other ≠ type ∧ ownName? setup g other = some a.qualifiedName := by
  have hself : ownName? setup g type = some a.qualifiedName := by simp [ownName?, hown]
  have hin : type ∈ types.filter fun t => ownName? setup g t = some a.qualifiedName := by
    simp [hmem, hself]
  have hnodup := h.filter fun t => decide (ownName? setup g t = some a.qualifiedName)
  rw [Shared, length_havingKey_ownCompanions]
  constructor
  · intro hlen
    -- more than one companion of the name, and the types differ: one of them is another type
    have hne : types.filter (fun t => ownName? setup g t = some a.qualifiedName) ≠ [type] := by
      intro hone
      rw [hone] at hlen
      simp at hlen
    rcases (hnodup.ne_singleton_iff type).mp hne with hnil | ⟨other, hother, hdiff⟩
    · rw [hnil] at hin
      simp at hin
    · rw [List.mem_filter, decide_eq_true_eq] at hother
      exact ⟨other, hother.1, hdiff, hother.2⟩
  · rintro ⟨other, hother, hdiff, hname⟩
    have hin' : other ∈ types.filter fun t => ownName? setup g t = some a.qualifiedName := by
      simp [hother, hname]
    -- if the name were not shared, both types would be the only one that has it
    by_contra hlen
    have hle : (types.filter fun t => ownName? setup g t = some a.qualifiedName).length ≤ 1 := by
      omega
    obtain ⟨x, hx⟩ := List.length_eq_one_iff.mp (Nat.le_antisymm hle (List.length_pos_of_mem hin))
    rw [hx, List.mem_singleton] at hin hin'
    exact hdiff (hin'.trans hin.symm)

/-- A type with a companion of its own stands exactly when the name is not shared. -/
theorem stands_iff_not_shared {types : List (Option TypeId)} (h : types.Nodup)
    {type : Option TypeId} (hmem : type ∈ types) {a : Artifact}
    (hown : ownCompanion? setup g type = some a) :
    Stands setup g types type ↔
      ¬ Shared Artifact.qualifiedName (ownCompanions setup g types) a.qualifiedName := by
  have hself : ownName? setup g type = some a.qualifiedName := by simp [ownName?, hown]
  rw [shared_iff h hmem hown]
  simp only [Stands, hself, Option.isSome_some, true_and, not_exists, not_and]

theorem not_stands_of_error {types : List (Option TypeId)} {type : Option TypeId} {f : Failure}
    (h : (collect g setup.bound type).1 = .error f) : ¬ Stands setup g types type := by
  simp [Stands, ownName?, ownCompanion?_of_error h]

/-! ## The companions of a list -/

/-- The companions of a list before names are compared. -/
theorem entries_made {types : List (Option TypeId)} (h : types.Nodup) :
    (OrderedMap.ofList (types.filterMap (ownPair? setup g))).entries
      = types.filterMap (ownPair? setup g) := by
  apply OrderedMap.entries_ofList
  rw [List.map_filterMap]
  apply h.filterMap
  intro type other i hi hi'
  simp only [Option.mem_def, Option.map_eq_some_iff, Prod.exists, exists_and_right,
    exists_eq_right] at hi hi'
  obtain ⟨a, ha⟩ := hi
  obtain ⟨b, hb⟩ := hi'
  rw [(ownPair?_eq_some_iff.mp ha).1, (ownPair?_eq_some_iff.mp hb).1]

theorem values_made {types : List (Option TypeId)} (h : types.Nodup) :
    (OrderedMap.ofList (types.filterMap (ownPair? setup g))).values
      = ownCompanions setup g types := by
  rw [OrderedMap.values, entries_made h, List.map_filterMap, ownCompanions]
  simp only [map_snd_ownPair?]

theorem entries_process (schedule : List Nat) {types : List (Option TypeId)} (h : types.Nodup) :
    (process setup schedule g types).1.entries
      = (types.filterMap (ownPair? setup g)).filter fun e =>
          ¬ Shared Artifact.qualifiedName (ownCompanions setup g types) e.2.qualifiedName := by
  have hmade : ((types.map (processType setup g)).map (·.1)).filterMap (·.made)
      = types.filterMap (ownPair? setup g) := by
    simp only [List.filterMap_map, Function.comp_def, made_processType]
  simp only [process, runTasks, hmade, withoutCollisions, OrderedMap.filter, values_made h,
    entries_made h]
  apply List.filter_congr
  intro e _
  have hany := any_collisions_iff Artifact.qualifiedName (ownCompanions setup g types)
    e.2.qualifiedName
  rw [Bool.eq_iff_iff]
  simp [← hany]

/-- The types that stand, in order, are those that get companions. -/
theorem keys_process (schedule : List Nat) {types : List (Option TypeId)} (h : types.Nodup) :
    (process setup schedule g types).1.keys.map some = types.filter (Stands setup g types) := by
  rw [OrderedMap.keys, entries_process schedule h, List.map_map, List.filter_filterMap,
    List.map_filterMap, ← List.filterMap_eq_filter]
  apply List.filterMap_congr
  intro type hmem
  cases hpair : ownPair? setup g type with
  | none =>
    have hnone : ¬ Stands setup g types type := by
      have hown : ownCompanion? setup g type = none := by
        rw [← map_snd_ownPair?, hpair, Option.map_none]
      simp [Stands, ownName?, hown]
    simp [Option.guard, hnone]
  | some e =>
    obtain ⟨rfl, hown⟩ := ownPair?_eq_some_iff.mp hpair
    have hstands := stands_iff_not_shared h hmem hown
    by_cases hs : Stands setup g types (some e.1)
    · simp [Option.guard, Option.filter, hs, hstands.mp hs]
    · have hshared := not_not.mp (mt hstands.mpr hs)
      simp [Option.guard, Option.filter, hs, hshared]

/-- A type that stands gets its own companion. -/
theorem get?_process (schedule : List Nat) {types : List (Option TypeId)} (h : types.Nodup)
    {i : TypeId} {a : Artifact} (hget : (process setup schedule g types).1.get? i = some a) :
    ownCompanion? setup g (some i) = some a := by
  rw [OrderedMap.get?_eq_some_iff, entries_process schedule h, List.mem_filter,
    List.mem_filterMap] at hget
  obtain ⟨⟨type, -, hpair⟩, -⟩ := hget
  obtain ⟨rfl, hown⟩ := ownPair?_eq_some_iff.mp hpair
  exact hown

/-- The companions of a list have different qualified names. -/
theorem nodup_names_process (schedule : List Nat) {types : List (Option TypeId)} (h : types.Nodup) :
    ((process setup schedule g types).1.values.map (·.qualifiedName)).Nodup := by
  have hvalues : (process setup schedule g types).1.values
      = (ownCompanions setup g types).filter fun a =>
          ¬ Shared Artifact.qualifiedName (ownCompanions setup g types) a.qualifiedName := by
    rw [OrderedMap.values, entries_process schedule h, ← values_made h, OrderedMap.values,
      entries_made h, List.filter_map]
    rfl
  rw [hvalues]
  exact nodup_keys_of_not_shared Artifact.qualifiedName (ownCompanions setup g types)

/-! ## The errors of a list -/

/-- Two lists of answers, no item having both, are one list of answers out of order. -/
theorem filterMap_append_perm {α β : Type} {p q : α → Option β} {l : List α}
    (h : ∀ x ∈ l, p x = none ∨ q x = none) :
    (l.filterMap p ++ l.filterMap q).Perm (l.filterMap fun x => (p x).or (q x)) := by
  induction l with
  | nil => simp
  | cons x l ih =>
    rw [List.forall_mem_cons] at h
    have hrest := ih h.2
    cases hp : p x with
    | none =>
      cases hq : q x with
      | none => simpa [List.filterMap_cons, hp, hq] using hrest
      | some b =>
        simp only [List.filterMap_cons, hp, hq, Option.none_or]
        exact List.perm_middle.trans (hrest.cons b)
    | some b =>
      have hq : q x = none := by simpa [hp] using h.1
      simpa [List.filterMap_cons, hp, hq] using hrest

/-- The error about a companion whose name others share. -/
def collisionError (artifacts : List Artifact) (a : Artifact) : Diagnostic :=
  let f := Failure.collision a.qualifiedName
    ((havingKey Artifact.qualifiedName artifacts a.qualifiedName).map (·.sourceType))
  .error (some a.sourceType) f.message (some f.code)

/-- The reports of all collisions hold one error for each member. -/
theorem diagnostics_collisions (artifacts : List Artifact) :
    (collisions Artifact.qualifiedName artifacts).flatMap (fun m => (collisionReport m).diagnostics)
      = (collisions Artifact.qualifiedName artifacts).flatten.map (collisionError artifacts) := by
  rw [List.map_flatten, ← List.flatMap_def]
  apply List.flatMap_congr
  intro members hmembers
  obtain ⟨name, -, rfl⟩ := mem_collisions_iff.mp hmembers
  rw [collisionReport, Report.diagnostics_foldl, Report.diagnostics_none, List.nil_append,
    List.map_eq_flatMap (f := collisionError artifacts)]
  apply List.flatMap_congr
  intro a ha
  obtain rfl := (mem_havingKey.mp ha).2
  rfl

/-- What is reported of a list: on each type, then on each collision. -/
theorem diagnostics_process (schedule : List Nat) {types : List (Option TypeId)} (h : types.Nodup) :
    (process setup schedule g types).2.diagnostics
      = types.flatMap (fun type => (processType setup g type).1.diagnostics)
        ++ (collisions Artifact.qualifiedName (ownCompanions setup g types)).flatten.map
          (collisionError (ownCompanions setup g types)) := by
  have hmade : ((types.map (processType setup g)).map (·.1)).filterMap (·.made)
      = types.filterMap (ownPair? setup g) := by
    simp only [List.filterMap_map, Function.comp_def, made_processType]
  simp only [process, runTasks, hmade, values_made h, Report.diagnostics_foldl,
    diagnostics_collisions, List.flatMap_map]

theorem errorsOf_collisionErrors (artifacts members : List Artifact) :
    errorsOf (members.map (collisionError artifacts)) = members.map (collisionError artifacts) := by
  rw [errorsOf, List.filter_eq_self]
  intro d hd
  obtain ⟨a, -, rfl⟩ := List.mem_map.mp hd
  rfl

/-- The error about a type is its own one, or that of its companion. -/
theorem or_collisionError {types : List (Option TypeId)} (h : types.Nodup) {type : Option TypeId}
    (hmem : type ∈ types) :
    (ownError? setup g type).or
        (((ownCompanion? setup g type).filter fun a =>
          Shared Artifact.qualifiedName (ownCompanions setup g types) a.qualifiedName).map
            (collisionError (ownCompanions setup g types)))
      = if Stands setup g types type then none else some (complaint setup g types type) := by
  cases hcollect : (collect g setup.bound type).1 with
  | error f =>
    rw [if_neg (not_stands_of_error hcollect)]
    simp [ownError?, complaint, reason, hcollect]
  | ok names =>
    obtain ⟨a, hown⟩ := ownCompanion?_of_collect hcollect
    have hstands := stands_iff_not_shared h hmem hown
    have hnone : ownError? setup g type = none := by simp [ownError?, hcollect]
    rw [hnone, Option.none_or, hown]
    by_cases hs : Stands setup g types type
    · simp [hs, hstands.mp hs]
    · have hshared := not_not.mp (mt hstands.mpr hs)
      simp [hs, hshared, complaint, reason, hcollect, ownName?, hown, collisionError,
        sourceType_of_ownCompanion? hown]

/-- The errors are one for each type that does not stand. -/
theorem errorsOf_process_perm (schedule : List Nat) {types : List (Option TypeId)}
    (h : types.Nodup) :
    (errorsOf (process setup schedule g types).2.diagnostics).Perm
      ((types.filter fun type => ¬ Stands setup g types type).map (complaint setup g types)) := by
  have hown : errorsOf (types.flatMap fun type => (processType setup g type).1.diagnostics)
      = types.filterMap (ownError? setup g) := by
    rw [errorsOf, List.filter_flatMap, List.filterMap_eq_flatMap_toList]
    apply List.flatMap_congr
    intro type _
    exact errorsOf_processType type
  have hshared := (flatten_collisions_perm Artifact.qualifiedName (ownCompanions setup g types)).map
    (collisionError (ownCompanions setup g types))
  rw [ownCompanions, List.filter_filterMap, List.map_filterMap] at hshared
  rw [diagnostics_process schedule h, errorsOf_append, errorsOf_collisionErrors, hown]
  refine (hshared.append_left _).trans ?_
  refine (filterMap_append_perm ?_).trans (List.Perm.of_eq ?_)
  · intro type _
    cases hcollect : (collect g setup.bound type).1 with
    | error f => exact .inr (by simp [ownCompanion?_of_error hcollect])
    | ok names => exact .inl (by simp [ownError?, hcollect])
  · rw [← List.filterMap_eq_map, List.filterMap_filter]
    apply List.filterMap_congr
    intro type hmem
    rw [← ownCompanions, or_collisionError h hmem]
    by_cases hs : Stands setup g types type <;> simp [hs]

/-- A companion or an error for each type. -/
theorem length_errorsOf_process (schedule : List Nat) {types : List (Option TypeId)}
    (h : types.Nodup) :
    (errorsOf (process setup schedule g types).2.diagnostics).length
      + (process setup schedule g types).1.size = types.length := by
  have hkeys := congrArg List.length (@keys_process setup g schedule types h)
  rw [List.length_map, OrderedMap.length_keys] at hkeys
  have hsplit := List.length_eq_length_filter_add (l := types) fun type => Stands setup g types type
  simp only [← decide_not] at hsplit
  rw [(errorsOf_process_perm schedule h).length_eq, hkeys, List.length_map]
  omega

/-! ## The whole account -/

/-- Of a list of different types exactly those that stand get companions, in the order of the list
and each the one built from its own fields; each of the others gets one error, about itself. -/
theorem process_accounts_for_every_type (setup : RoundSetup) (schedule : List Nat) (g : TypeGraph)
    (types : List (Option TypeId)) (h : types.Nodup) :
    (process setup schedule g types).1.keys.map some = types.filter (Stands setup g types) ∧
    (∀ i a, (process setup schedule g types).1.get? i = some a →
      ∃ t names, g.get? i = some t ∧ (collect g setup.bound (some i)).1 = .ok names ∧
        a = Artifact.build t names setup.debuggable) ∧
    (errorsOf (process setup schedule g types).2.diagnostics).Perm
      ((types.filter fun type => ¬ Stands setup g types type).map (complaint setup g types)) ∧
    (∀ type, (complaint setup g types type).sourceType = nameOf? g type) ∧
    (errorsOf (process setup schedule g types).2.diagnostics).length
      + (process setup schedule g types).1.size = types.length := by
  refine ⟨keys_process schedule h, ?_, errorsOf_process_perm schedule h, fun _ => rfl,
    length_errorsOf_process schedule h⟩
  intro i a hget
  exact ownCompanion?_eq_some_iff.mp (get?_process schedule h hget)

/-- One type that stands among a malformed, a cyclic and an abstract one and two of one name. -/
def mixedTypes : TypeGraph := TypeGraph.ofList [
  ⟨"p.A", "A", "p", [some "x"], none, classKind, none⟩,
  ⟨"p.B", "B", "p", [none], none, classKind, none⟩,
  ⟨"p.C", "C", "p", [], some 2, classKind, none⟩,
  ⟨"p.I", "I", "p", [], none, interfaceKind, none⟩,
  ⟨"q.D", "D", "p", [], none, classKind, none⟩,
  ⟨"r.D", "D", "p", [], none, classKind, none⟩]

/-- The types of the mixed graph and a missing one. -/
theorem process_mixedTypes :
    (process ⟨[], .standard, true, 1⟩ [] mixedTypes
        [some 0, none, some 1, some 2, some 3, some 4, some 5]).1.keys.map some = [some 0] ∧
      (errorsOf (process ⟨[], .standard, true, 1⟩ [] mixedTypes
        [some 0, none, some 1, some 2, some 3, some 4, some 5]).2.diagnostics).length = 6 := by
  obtain ⟨hkeys, -, -, -, hlength⟩ := process_accounts_for_every_type ⟨[], .standard, true, 1⟩ []
    mixedTypes [some 0, none, some 1, some 2, some 3, some 4, some 5] (by decide)
  have hstands : [some 0, none, some 1, some 2, some 3, some 4, some 5].filter
      (Stands ⟨[], .standard, true, 1⟩ mixedTypes
        [some 0, none, some 1, some 2, some 3, some 4, some 5]) = [some 0] := by
    decide +kernel
  rw [hstands] at hkeys
  have hsize := congrArg List.length hkeys
  rw [List.length_map, OrderedMap.length_keys] at hsize
  refine ⟨hkeys, ?_⟩
  rw [hsize] at hlength
  simpa using hlength

end Round
end Roster
