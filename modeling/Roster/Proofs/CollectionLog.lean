import Mathlib.Data.List.Chain
import Mathlib.Data.List.Forall2
import Mathlib.Data.List.TakeWhile
import Roster.Proofs.AncestorChains

/-! # What collecting logs

Collecting goes up a chain and gathers names at the same time, and it tells both: a name when it is
put into the set, a step when the fields of a type have all been looked at. A field without a usable
name ends it at once, so that the type with that field is not gone past, and what has been told until
then is what has been done until then.

* `gather_names_usablePart`: the names are those of the fields before the first unusable one.
* `Tells.next`, `Tells.gather`: each name is told once, with the first type that declares it.
* `filter_gather`: the steps are those from types that were gone past.
* `collection_logged`: all three for any graph and any type, whether collecting succeeds or fails.
-/

namespace Roster

/-! ## Records -/

/-- Whether the message of a record begins with some words. -/
def LogRecord.begins (words : String) (r : LogRecord) : Bool :=
  words.toList.isPrefixOf r.message.toList

/-- What is logged of a new name. -/
def nameAdded (name typeName : String) : LogRecord :=
  ⟨.debug, .collection, "Adding field " ++ name ++ " from " ++ typeName⟩

/-- What is logged of a step to the type above. -/
def ancestorFound (above below : String) : LogRecord :=
  ⟨.debug, .collection, "Found ancestor " ++ above ++ " of " ++ below⟩

/-- What is logged above a last type. -/
def topReached (typeName : String) : LogRecord :=
  ⟨.debug, .collection, "No ancestor above " ++ typeName⟩

/-- The records of new names. -/
def additions (log : Log) : Log := log.filter (·.begins "Adding field ")

/-- The records of steps to a type above. -/
def stepsUp (log : Log) : Log := log.filter (·.begins "Found ancestor ")

/-- The records of steps above a last type. -/
def topsReached (log : Log) : Log := log.filter (·.begins "No ancestor above ")

theorem begins_nameAdded (name typeName : String) :
    (nameAdded name typeName).begins "Adding field " = true ∧
      (nameAdded name typeName).begins "Found ancestor " = false ∧
      (nameAdded name typeName).begins "No ancestor above " = false := by
  simp [LogRecord.begins, nameAdded, List.isPrefixOf]

theorem begins_ancestorFound (above below : String) :
    (ancestorFound above below).begins "Adding field " = false ∧
      (ancestorFound above below).begins "Found ancestor " = true ∧
      (ancestorFound above below).begins "No ancestor above " = false := by
  simp [LogRecord.begins, ancestorFound, List.isPrefixOf]

theorem begins_topReached (typeName : String) :
    (topReached typeName).begins "Adding field " = false ∧
      (topReached typeName).begins "Found ancestor " = false ∧
      (topReached typeName).begins "No ancestor above " = true := by
  simp [LogRecord.begins, topReached, List.isPrefixOf]

/-- The step above a type is to another type or to none. -/
theorem stepRecord_eq (g : TypeGraph) (i : TypeId) :
    stepRecord g i = (g.ancestor? i).elim (topReached (g.nameOf i))
      fun above => ancestorFound (g.nameOf above) (g.nameOf i) := by
  unfold stepRecord
  cases g.ancestor? i <;> rfl

theorem additions_map_nameAdded (names : List String) (typeName : String) :
    additions (names.map (nameAdded · typeName)) = names.map (nameAdded · typeName) := by
  rw [additions, List.filter_eq_self]
  intro r hr
  obtain ⟨name, -, rfl⟩ := List.mem_map.mp hr
  exact (begins_nameAdded name typeName).1

theorem stepRecord_not_addition (g : TypeGraph) (i : TypeId) :
    (stepRecord g i).begins "Adding field " = false := by
  rw [stepRecord_eq]
  cases g.ancestor? i with
  | none => exact (begins_topReached _).1
  | some above => exact (begins_ancestorFound _ _).1

/-- Of some steps, those to a type above. -/
theorem stepsUp_map_stepRecord (g : TypeGraph) (past : List TypeId) :
    stepsUp (past.map (stepRecord g)) = past.filterMap fun a =>
      (g.ancestor? a).map fun above => ancestorFound (g.nameOf above) (g.nameOf a) := by
  induction past with
  | nil => rfl
  | cons i past ih =>
    rw [List.map_cons, stepRecord_eq, List.filterMap_cons, ← ih]
    cases g.ancestor? i with
    | none => exact List.filter_cons_of_neg (by simp [begins_topReached])
    | some above => exact List.filter_cons_of_pos (begins_ancestorFound _ _).2.1

/-- Of some steps, those above a last type. -/
theorem topsReached_map_stepRecord (g : TypeGraph) (past : List TypeId) :
    topsReached (past.map (stepRecord g))
      = (past.filter (g.ancestor? · = none)).map fun a => topReached (g.nameOf a) := by
  induction past with
  | nil => rfl
  | cons i past ih =>
    rw [List.map_cons, stepRecord_eq]
    cases habove : g.ancestor? i with
    | none =>
      rw [List.filter_cons_of_pos (by simpa using habove), List.map_cons, ← ih]
      exact List.filter_cons_of_pos (begins_topReached _).2.2
    | some above =>
      rw [List.filter_cons_of_neg (by simp [habove]), ← ih]
      exact List.filter_cons_of_neg (by simp [begins_ancestorFound])

/-! ## The fields of one type -/

/-- Gathering the fields of a type puts some new names at the end, all of which it declares, and logs
one record for each. -/
theorem gatherFields_new (typeName : String) (acc : Gathered) (index : Nat)
    (fields : List (Option String)) :
    ∃ new : List String,
      (gatherFields typeName acc index fields).1.names.toList = acc.names.toList ++ new ∧
      (gatherFields typeName acc index fields).1.log
        = acc.log ++ new.map (nameAdded · typeName) ∧
      ∀ name ∈ new, some name ∈ fields := by
  induction fields generalizing acc index with
  | nil => exact ⟨[], by simp [gatherFields]⟩
  | cons field rest ih =>
    unfold gatherFields
    cases hname : usableName? field with
    | none => exact ⟨[], by simp⟩
    | some name =>
      obtain ⟨rfl, -⟩ := (usableName?_eq_some_iff field name).mp hname
      -- a name that is known already adds neither to the names nor to the log
      by_cases hknown : acc.names.contains name = true
      · obtain ⟨new, hnames, hlog, hdeclared⟩ := ih acc (index + 1)
        simp only [hknown, if_true]
        exact ⟨new, hnames, hlog, fun n hn => List.mem_cons_of_mem _ (hdeclared n hn)⟩
      · obtain ⟨new, hnames, hlog, hdeclared⟩ := ih
          ⟨acc.names.push name, acc.log ++ [nameAdded name typeName]⟩ (index + 1)
        have hfresh : name ∉ acc.names.toList := by simpa [FieldNames.contains] using hknown
        rw [FieldNames.toList_push, if_neg hfresh] at hnames
        simp only [hknown]
        refine ⟨name :: new, ?_, ?_, ?_⟩
        · exact hnames.trans (by simp)
        · exact hlog.trans (by simp)
        · rw [List.forall_mem_cons]
          exact ⟨List.mem_cons_self, fun n hn => List.mem_cons_of_mem _ (hdeclared n hn)⟩

/-- The fields before the first one without a usable name. -/
def usablePart (fields : List (Option String)) : List (Option String) :=
  fields.takeWhile fun field => Usable field

theorem usablePart_append_of_usable {fields : List (Option String)}
    (h : ∀ field ∈ fields, Usable field) (more : List (Option String)) :
    usablePart (fields ++ more) = fields ++ usablePart more :=
  List.takeWhile_append_of_pos (by simpa using h)

theorem usablePart_append_of_not {fields : List (Option String)}
    (h : ¬ ∀ field ∈ fields, Usable field) (more : List (Option String)) :
    usablePart (fields ++ more) = usablePart fields := by
  have hshort : (usablePart fields).length ≠ fields.length := by
    intro hlength
    have hself : usablePart fields = fields :=
      (List.takeWhile_prefix _).eq_of_length hlength
    rw [usablePart, List.takeWhile_eq_self_iff] at hself
    exact h (by simpa using hself)
  unfold usablePart at hshort ⊢
  rw [List.takeWhile_append, if_neg hshort]

/-- The names of the fields before the first unusable one are pushed. -/
theorem gatherFields_names_usablePart (typeName : String) (acc : Gathered) (index : Nat)
    (fields : List (Option String)) :
    (gatherFields typeName acc index fields).1.names
      = (usablePart fields).reduceOption.foldl FieldNames.push acc.names := by
  induction fields generalizing acc index with
  | nil => rfl
  | cons field rest ih =>
    unfold gatherFields usablePart
    cases hname : usableName? field with
    | none =>
      have hbad := (usableName?_eq_none_iff field).mp hname
      simp [hbad]
    | some name =>
      have husable : Usable field := ⟨name, (usableName?_eq_some_iff field name).mp hname⟩
      obtain ⟨rfl, -⟩ := (usableName?_eq_some_iff field name).mp hname
      rw [List.takeWhile_cons_of_pos (by simpa using husable), List.reduceOption_cons_of_some,
        List.foldl_cons]
      by_cases hknown : acc.names.contains name = true
      · -- pushing a name that is known changes nothing, as the gathering leaves it out
        have hmem : name ∈ acc.names.toList := by simpa [FieldNames.contains] using hknown
        have hsame : acc.names.push name = acc.names := by simp [FieldNames.push, hmem]
        simp only [hknown, if_true, hsame]
        exact ih acc (index + 1)
      · simp only [hknown]
        exact ih _ (index + 1)

/-! ## The fields of a chain -/

/-- All fields that a type declares have usable names. -/
def AllUsable (g : TypeGraph) (j : TypeId) : Prop := ∀ field ∈ g.declaredFields j, Usable field

instance (g : TypeGraph) (j : TypeId) : Decidable (AllUsable g j) :=
  inferInstanceAs (Decidable (∀ field ∈ g.declaredFields j, Usable field))

/-- The types that are gone past: those before the first with a field that has no usable name. -/
def passed (g : TypeGraph) (visited : List TypeId) : List TypeId :=
  visited.takeWhile fun j => AllUsable g j

section Gathering

variable {g : TypeGraph} {i : TypeId}

theorem passed_cons_of_usable (h : AllUsable g i) (rest : List TypeId) :
    passed g (i :: rest) = i :: passed g rest :=
  List.takeWhile_cons_of_pos (by simpa using h)

theorem passed_cons_of_not (h : ¬ AllUsable g i) (rest : List TypeId) : passed g (i :: rest) = [] :=
  List.takeWhile_cons_of_neg (by simpa using h)

/-- A type with usable fields is gone past, and the step above it is logged. -/
theorem gather_cons_of_usable (h : AllUsable g i) (acc : Gathered) (rest : List TypeId) :
    gather g acc (i :: rest) =
      gather g ⟨(gatherFields (g.nameOf i) acc 0 (g.declaredFields i)).1.names,
        (gatherFields (g.nameOf i) acc 0 (g.declaredFields i)).1.log ++ [stepRecord g i]⟩ rest := by
  have hnone := (gatherFields_eq_none_iff (g.nameOf i) acc 0 (g.declaredFields i)).mpr h
  rw [gather]
  rcases hgot : gatherFields (g.nameOf i) acc 0 (g.declaredFields i) with ⟨acc', bad⟩
  rw [hgot] at hnone
  obtain rfl : bad = none := hnone
  rfl

/-- A type with a field that has no usable name is the last one that is looked at. -/
theorem gather_cons_of_not (h : ¬ AllUsable g i) (acc : Gathered) (rest : List TypeId) :
    (gather g acc (i :: rest)).1 = (gatherFields (g.nameOf i) acc 0 (g.declaredFields i)).1 := by
  have hsome := mt (gatherFields_eq_none_iff (g.nameOf i) acc 0 (g.declaredFields i)).mp h
  rw [gather]
  rcases hgot : gatherFields (g.nameOf i) acc 0 (g.declaredFields i) with ⟨acc', bad⟩
  rw [hgot] at hsome
  obtain ⟨index, rfl⟩ := Option.ne_none_iff_exists'.mp hsome
  rfl

/-- The names of the fields before the first unusable one of a chain are pushed. -/
theorem gather_names_usablePart (acc : Gathered) (visited : List TypeId) :
    (gather g acc visited).1.names
      = (usablePart (visited.flatMap g.declaredFields)).reduceOption.foldl FieldNames.push
          acc.names := by
  induction visited generalizing acc with
  | nil => rfl
  | cons i rest ih =>
    rw [List.flatMap_cons]
    by_cases husable : AllUsable g i
    · rw [gather_cons_of_usable husable, ih, usablePart_append_of_usable husable,
        List.reduceOption_append, List.foldl_append, gatherFields_names _ _ _ husable]
    · rw [gather_cons_of_not husable, usablePart_append_of_not husable,
        gatherFields_names_usablePart]

/-- Apart from the new names, the steps above the types that are gone past are logged. -/
theorem filter_gather {p : LogRecord → Bool}
    (hp : ∀ name typeName, p (nameAdded name typeName) = false) (acc : Gathered)
    (visited : List TypeId) :
    (gather g acc visited).1.log.filter p
      = acc.log.filter p ++ ((passed g visited).map (stepRecord g)).filter p := by
  have hnames : ∀ (new : List String) (typeName : String),
      (new.map (nameAdded · typeName)).filter p = [] := by
    intro new typeName
    rw [List.filter_eq_nil_iff]
    intro r hr
    obtain ⟨name, -, rfl⟩ := List.mem_map.mp hr
    simp [hp]
  induction visited generalizing acc with
  | nil => simp [gather, passed]
  | cons i rest ih =>
    obtain ⟨new, -, hlog, -⟩ := gatherFields_new (g.nameOf i) acc 0 (g.declaredFields i)
    by_cases husable : AllUsable g i
    · rw [gather_cons_of_usable husable, ih, passed_cons_of_usable husable, hlog]
      have hcons : (i :: passed g rest).map (stepRecord g)
          = [stepRecord g i] ++ (passed g rest).map (stepRecord g) := rfl
      simp only [hcons, List.filter_append, hnames, List.nil_append, List.append_assoc]
    · rw [gather_cons_of_not husable, passed_cons_of_not husable, hlog, List.filter_append, hnames]
      rfl

end Gathering

/-! ## Who declares a name -/

/-- The first of some types that declares a name. -/
def FirstDeclares (g : TypeGraph) (visited : List TypeId) (name : String) (j : TypeId) : Prop :=
  visited.find? (fun a => some name ∈ g.declaredFields a) = some j

/-- A record tells a name with the first of some types that declares it. -/
def TellsName (g : TypeGraph) (visited : List TypeId) (name : String) (r : LogRecord) : Prop :=
  ∃ j, FirstDeclares g visited name j ∧ r = nameAdded name (g.nameOf j)

/-- Each name of a set is told once, in order, and the set has all names that are declared on the
types that were gone past. -/
structure Tells (g : TypeGraph) (visited past : List TypeId) (acc : Gathered) : Prop where
  told : List.Forall₂ (TellsName g visited) acc.names.toList (additions acc.log)
  known : ∀ a ∈ past, ∀ name, some name ∈ g.declaredFields a → name ∈ acc.names.toList

section Telling

variable {g : TypeGraph} {past above : List TypeId} {i : TypeId} {acc : Gathered}

/-- A name that is not declared on the types below is first declared here. -/
theorem firstDeclares_of_new {name : String}
    (hpast : ∀ a ∈ past, some name ∉ g.declaredFields a) (hhere : some name ∈ g.declaredFields i) :
    FirstDeclares g (past ++ i :: above) name i := by
  have hnone : past.find? (fun a => some name ∈ g.declaredFields a) = none := by
    rw [List.find?_eq_none]
    simpa using hpast
  rw [FirstDeclares, List.find?_append, hnone, Option.none_or,
    List.find?_cons_of_pos (by simpa using hhere)]

/-- The fields of the next type are told as well. -/
theorem Tells.told_gatherFields (h : Tells g (past ++ i :: above) past acc) :
    List.Forall₂ (TellsName g (past ++ i :: above))
      (gatherFields (g.nameOf i) acc 0 (g.declaredFields i)).1.names.toList
      (additions (gatherFields (g.nameOf i) acc 0 (g.declaredFields i)).1.log) := by
  obtain ⟨new, hnames, hlog, hdeclared⟩ :=
    gatherFields_new (g.nameOf i) acc 0 (g.declaredFields i)
  -- a name that was new is not declared below, since the names declared there were in the set
  have hfresh : ∀ name ∈ new, name ∉ acc.names.toList := by
    have hnodup := (gatherFields (g.nameOf i) acc 0 (g.declaredFields i)).1.names.nodup
    rw [hnames] at hnodup
    intro name hnew hold
    exact (List.nodup_append.mp hnodup).2.2 name hold name hnew rfl
  rw [hnames, hlog, additions, List.filter_append]
  refine List.rel_append h.told ?_
  rw [← additions, additions_map_nameAdded, List.forall₂_map_right_iff, List.forall₂_same]
  intro name hnew
  refine ⟨i, firstDeclares_of_new ?_ (hdeclared name hnew), rfl⟩
  intro a ha hbelow
  exact hfresh name hnew (h.known a ha name hbelow)

/-- A type that is gone past is told in full. -/
theorem Tells.next (h : Tells g (past ++ i :: above) past acc) (husable : AllUsable g i) :
    Tells g (past ++ i :: above) (past ++ [i])
      ⟨(gatherFields (g.nameOf i) acc 0 (g.declaredFields i)).1.names,
        (gatherFields (g.nameOf i) acc 0 (g.declaredFields i)).1.log ++ [stepRecord g i]⟩ where
  told := by
    have hstep : additions [stepRecord g i] = [] :=
      List.filter_cons_of_neg (by simp [stepRecord_not_addition])
    rw [additions, List.filter_append, ← additions, ← additions, hstep, List.append_nil]
    exact h.told_gatherFields
  known := by
    intro a ha name hname
    dsimp only
    rw [gatherFields_names _ _ _ husable, FieldNames.toList_foldl_push, List.mem_eraseDups,
      List.mem_append]
    rcases List.mem_append.mp ha with hbelow | hhere
    · exact .inl (h.known a hbelow name hname)
    · rw [List.mem_singleton.mp hhere] at hname
      exact .inr (List.reduceOption_mem_iff.mpr hname)

/-- All fields that are gathered are told. -/
theorem Tells.gather {visited : List TypeId} (hvisited : past ++ above = visited)
    (h : Tells g visited past acc) :
    List.Forall₂ (TellsName g visited) (Roster.gather g acc above).1.names.toList
      (additions (Roster.gather g acc above).1.log) := by
  induction above generalizing past acc with
  | nil => exact h.told
  | cons i above ih =>
    subst hvisited
    by_cases husable : AllUsable g i
    · rw [gather_cons_of_usable husable]
      exact ih (by simp) (h.next husable)
    · rw [gather_cons_of_not husable]
      exact h.told_gatherFields

end Telling

/-! ## The walk -/

/-- A walk that visits types goes up from the type that it was asked for, and one without failure ends
above a last type. -/
theorem walk_cases (g : TypeGraph) (bound : WalkBound) (target : Option TypeId) :
    ((walk g bound target).visited = [] ∧ (walk g bound target).failure ≠ none) ∨
      ∃ i, target = some i ∧ (walk g bound target).visited = (climb g bound.depth [] i).1 ∧
        ((walk g bound target).failure = none → (climb g bound.depth [] i).2 = .top) := by
  unfold walk
  split
  · exact .inl ⟨rfl, by simp⟩
  · rename_i i t hfound
    obtain rfl : target = some i := by
      obtain ⟨j, rfl, hj⟩ := Option.bind_eq_some_iff.mp hfound
      obtain ⟨_, -, hpair⟩ := Option.map_eq_some_iff.mp hj
      rw [(Prod.mk.inj hpair).1]
    split
    · exact .inl ⟨rfl, by simp⟩
    · refine .inr ⟨i, rfl, ?_⟩
      split
      · rename_i hway
        exact ⟨by rw [hway], fun _ => by rw [hway]⟩
      · rename_i hway
        exact ⟨by rw [hway], fun h => by simp at h⟩

theorem head?_climb {g : TypeGraph} {room : Nat} {seen : List TypeId} {i a : TypeId}
    (h : (climb g room seen i).1.head? = some a) : i = a := by
  unfold climb at h
  split at h
  · contradiction
  · split at h
    · contradiction
    · split at h
      · exact Option.some.inj h
      · exact Option.some.inj h

/-- Each type that is visited is right above the one before it. -/
theorem isChain_climb (g : TypeGraph) (room : Nat) (seen : List TypeId) (i : TypeId) :
    (climb g room seen i).1.IsChain fun a b => g.ancestor? a = some b := by
  induction room generalizing seen i with
  | zero => exact .nil
  | succ room ih =>
    unfold climb
    split
    · exact .nil
    · split
      · exact .singleton i
      · rename_i above habove
        refine List.isChain_cons.mpr ⟨fun b hb => ?_, ih (seen ++ [i]) above⟩
        rw [habove, head?_climb hb]

/-- At most one type of a chain has none above it. -/
theorem filter_top_of_isChain {g : TypeGraph} {chain : List TypeId}
    (h : chain.IsChain fun a b => g.ancestor? a = some b) {a : TypeId} (ha : a ∈ chain)
    (hnone : g.ancestor? a = none) : chain.filter (g.ancestor? · = none) = [a] := by
  induction chain with
  | nil => contradiction
  | cons i rest ih =>
    cases rest with
    | nil =>
      obtain rfl := List.mem_singleton.mp ha
      exact List.filter_cons_of_pos (by simpa using hnone)
    | cons j rest =>
      rw [List.isChain_cons_cons] at h
      rcases List.mem_cons.mp ha with rfl | hrest
      · rw [hnone] at h
        simp at h
      · rw [List.filter_cons_of_neg (by simp [h.1]), ih h.2 hrest]

theorem TypeGraph.Ascends.exists_top {g : TypeGraph} {i : TypeId} {chain : List TypeId}
    (h : g.Ascends i chain) : ∃ a ∈ chain, g.ancestor? a = none := by
  induction h with
  | last hnone => exact ⟨_, List.mem_singleton_self _, hnone⟩
  | step _ _ ih =>
    obtain ⟨a, ha, hnone⟩ := ih
    exact ⟨a, List.mem_cons_of_mem _ ha, hnone⟩

/-! ## Collecting -/

/-- The names that have been put into the set when collecting ends, well or not. -/
def namesPut (g : TypeGraph) (bound : WalkBound) (target : Option TypeId) : FieldNames :=
  (gather g ⟨FieldNames.empty, []⟩ (walk g bound target).visited).1.names

/-- What is logged of types that were visited and of names that were put into the set. -/
structure Logged (g : TypeGraph) (visited : List TypeId) (names : List String) (log : Log) :
    Prop where
  /-- Each name is told once, in order, with the first type that declares it. -/
  names : List.Forall₂ (TellsName g visited) names (additions log)
  /-- Steps up are told from exactly the types that were gone past and have a type above. -/
  steps : stepsUp log = (passed g visited).filterMap fun a =>
    (g.ancestor? a).map fun above => ancestorFound (g.nameOf above) (g.nameOf a)
  /-- If a last type was gone past, that is told once. -/
  top : ∀ a ∈ passed g visited, g.ancestor? a = none → topsReached log = [topReached (g.nameOf a)]
  /-- Otherwise it is never told. -/
  noTop : (∀ a ∈ passed g visited, g.ancestor? a ≠ none) → topsReached log = []

section Collecting

variable (g : TypeGraph) (bound : WalkBound) (target : Option TypeId)

theorem snd_collect : (collect g bound target).2
    = (gather g ⟨FieldNames.empty, []⟩ (walk g bound target).visited).1.log := by
  unfold collect
  dsimp only
  split
  · rename_i hgot
    rw [hgot]
  · rename_i hgot
    rw [hgot]
    split <;> rfl

variable {g bound target}

/-- Collecting that succeeds has gone past all types of a walk that ends well. -/
theorem collect_eq_ok {names : FieldNames} (h : (collect g bound target).1 = .ok names) :
    names = (namesPut g bound target).freeze ∧ (walk g bound target).failure = none ∧
      passed g (walk g bound target).visited = (walk g bound target).visited := by
  have hbad := gather_eq_none_iff g ⟨FieldNames.empty, []⟩ (walk g bound target).visited
  unfold namesPut
  unfold collect at h
  dsimp only at h
  split at h
  · contradiction
  · rename_i hgot
    rw [hgot] at hbad ⊢
    split at h
    · contradiction
    · rename_i hfailure
      refine ⟨(Except.ok.inj h).symm, hfailure, List.takeWhile_eq_self_iff.mpr fun j hj => ?_⟩
      exact decide_eq_true (hbad.mp rfl j hj)

variable (g bound target)

theorem isChain_walk :
    (walk g bound target).visited.IsChain fun a b => g.ancestor? a = some b := by
  rcases walk_cases g bound target with ⟨hnone, -⟩ | ⟨i, -, hvisited, -⟩
  · rw [hnone]
    exact .nil
  · rw [hvisited]
    exact isChain_climb ..

theorem head?_walk (a : TypeId) (h : (walk g bound target).visited.head? = some a) :
    target = some a := by
  rcases walk_cases g bound target with ⟨hnone, -⟩ | ⟨i, rfl, hvisited, -⟩
  · rw [hnone] at h
    contradiction
  · rw [hvisited] at h
    rw [head?_climb h]

theorem logged_collect : Logged g (walk g bound target).visited (namesPut g bound target).toList
    (collect g bound target).2 := by
  have htops : topsReached (collect g bound target).2
      = ((passed g (walk g bound target).visited).filter (g.ancestor? · = none)).map
          fun a => topReached (g.nameOf a) := by
    rw [snd_collect, topsReached, filter_gather fun _ _ => (begins_nameAdded _ _).2.2]
    exact topsReached_map_stepRecord ..
  have hstart : Tells g (walk g bound target).visited [] ⟨FieldNames.empty, []⟩ :=
    ⟨.nil, fun a ha => absurd ha List.not_mem_nil⟩
  have hchain : (passed g (walk g bound target).visited).IsChain fun a b => g.ancestor? a = some b := by
    have hwalk := isChain_walk g bound target
    rw [← List.takeWhile_append_dropWhile (p := fun j => AllUsable g j)
      (l := (walk g bound target).visited)] at hwalk
    exact hwalk.left_of_append
  refine ⟨?_, ?_, fun a ha hnone => ?_, fun hall => ?_⟩
  · rw [snd_collect]
    exact hstart.gather rfl
  · rw [snd_collect, stepsUp, filter_gather fun _ _ => (begins_nameAdded _ _).2.1]
    exact stepsUp_map_stepRecord ..
  · rw [htops, filter_top_of_isChain hchain ha hnone, List.map_singleton]
  · rw [htops, List.map_eq_nil_iff, List.filter_eq_nil_iff]
    simpa using hall

end Collecting

/-- Whether collecting succeeds or fails, its log tells what it did. The walk goes up from the type
that was asked for, one type after the other. The names in the set at the end are those of the fields
before the first unusable one, each at its first place, and if collecting succeeds they are the result.
Each of them is told once, in order, with the first type on the walk that declares it. A step up is
told from exactly the types that were gone past, in order. That there is no type above is told once if
a last type was gone past, as it is whenever collecting succeeds, and never otherwise. -/
theorem collection_logged (g : TypeGraph) (bound : WalkBound) (target : Option TypeId) :
    ((∀ a, (walk g bound target).visited.head? = some a → target = some a) ∧
      (walk g bound target).visited.IsChain fun a b => g.ancestor? a = some b) ∧
    (namesPut g bound target).toList
      = (usablePart ((walk g bound target).visited.flatMap g.declaredFields)).reduceOption.eraseDups ∧
    Logged g (walk g bound target).visited (namesPut g bound target).toList
      (collect g bound target).2 ∧
    ∀ names, (collect g bound target).1 = .ok names →
      names.toList = (namesPut g bound target).toList ∧
        ∃ a ∈ passed g (walk g bound target).visited, g.ancestor? a = none := by
  refine ⟨⟨head?_walk g bound target, isChain_walk g bound target⟩, ?_,
    logged_collect g bound target, fun names h => ?_⟩
  · rw [namesPut, gather_names_usablePart, FieldNames.toList_foldl_push]
    rfl
  · obtain ⟨rfl, hfailure, hpassed⟩ := collect_eq_ok h
    refine ⟨rfl, ?_⟩
    rw [hpassed]
    rcases walk_cases g bound target with ⟨-, hfails⟩ | ⟨i, -, hvisited, htop⟩
    · contradiction
    · have hclimb := (climb_eq_top_iff g bound.depth List.nodup_nil i _).mp
        (Prod.ext rfl (htop hfailure))
      rw [hvisited]
      exact hclimb.1.exists_top

-- the chain is closed, but a field without a name ends the walk first: no step from the second type
example : (collect (TypeGraph.ofList [
      ⟨"zoo.Dog", "Dog", "zoo", [some "breed"], some 1, classKind, none⟩,
      ⟨"zoo.Animal", "Animal", "zoo", [some "name", none], some 0, classKind, none⟩])
    ⟨5, by decide⟩ (some 0)).2.map (·.message)
    = ["Adding field breed from zoo.Dog", "Found ancestor zoo.Animal of zoo.Dog",
      "Adding field name from zoo.Animal"] := by
  decide

end Roster
