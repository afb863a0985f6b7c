import Mathlib.Order.Bounds.Basic
import Roster.Proofs.Lineage

/-! # Where a walk stops

The chain of a type is followed step by step, whether it ends or goes on for ever. A walk stops at the
first step at which there is no type any more, a type comes back, or the bound is used up; it has then
visited exactly the types below that step. The fields of a type are looked at before the next step is
taken, so a field without a usable name is told even if the chain turns out to be closed above it.

* `StopsAt`: what stops a walk after some steps.
* `climb_spec`: one step after the other, the walk keeps to the chain.
* `gather_eq_some`: the first field that has no usable name ends the gathering.
* `collect_fails_at_first_fault`: what is visited, and which failure is told.
-/

namespace Roster

namespace TypeGraph

/-- A reason to stop a walk after some steps. -/
inductive StopsAt (g : TypeGraph) (i : TypeId) (bound steps : Nat) : Prop
  | ended (h : g.above? steps i = none)
  | repeats {earlier : Nat} {a : TypeId} (hearlier : earlier < steps)
      (hthen : g.above? earlier i = some a) (hnow : g.above? steps i = some a)
  | full (h : steps = bound)

end TypeGraph

open TypeGraph

/-! ## The walk -/

/-- A walk that has come to an end: it has visited the chain up to the first step with a reason to
stop, and a chain that it complains of has that step too. -/
structure Climbed (g : TypeGraph) (i : TypeId) (bound steps : Nat) (visited : List TypeId)
    (ending : WalkEnd) : Prop where
  first : IsLeast {n | g.StopsAt i bound n} steps
  visited : visited.map some = (List.range steps).map (g.above? · i)
  top_iff : ending = .top ↔ g.above? steps i = none
  chain : ∀ {chain}, ending = .cyclic chain →
    chain.map some = (List.range (steps + 1)).map (g.above? · i)

/-- One more type on a list that follows the chain. -/
theorem map_some_snoc {g : TypeGraph} {start i : TypeId} {seen : List TypeId} {steps : Nat}
    (hseen : seen.map some = (List.range steps).map (g.above? · start))
    (hat : g.above? steps start = some i) :
    (seen ++ [i]).map some = (List.range (steps + 1)).map (g.above? · start) := by
  rw [List.map_append, hseen, List.range_succ, List.map_append, List.map_singleton,
    List.map_singleton, hat]

/-- The first step with a reason to stop. -/
theorem isLeast_stopsAt {g : TypeGraph} {start : TypeId} {bound steps : Nat}
    (hgoes : ∀ n < steps, ¬ g.StopsAt start bound n) (hstops : g.StopsAt start bound steps) :
    IsLeast {n | g.StopsAt start bound n} steps :=
  ⟨hstops, fun n hn => Nat.le_of_not_lt fun hlt => hgoes n hlt hn⟩

/-- A walk that stops at a type complains of the chain up to it. -/
theorem Climbed.of_stopsAt {g : TypeGraph} {start i : TypeId} {bound steps : Nat}
    {seen : List TypeId} (hseen : seen.map some = (List.range steps).map (g.above? · start))
    (hat : g.above? steps start = some i) (hgoes : ∀ n < steps, ¬ g.StopsAt start bound n)
    (hstops : g.StopsAt start bound steps) :
    Climbed g start bound steps (seen ++ []) (.cyclic (seen ++ [i])) where
  first := isLeast_stopsAt hgoes hstops
  visited := by rw [List.append_nil, hseen]
  top_iff := by simp [hat]
  chain := by
    rintro chain ⟨rfl⟩
    exact map_some_snoc hseen hat

/-- A walk that has gone some steps without a reason to stop keeps to the chain until there is one. -/
theorem climb_spec {g : TypeGraph} {start : TypeId} {bound : Nat} (room : Nat) {seen : List TypeId}
    {i : TypeId} {steps : Nat} (hroom : steps + room = bound)
    (hseen : seen.map some = (List.range steps).map (g.above? · start))
    (hat : g.above? steps start = some i) (hgoes : ∀ n < steps, ¬ g.StopsAt start bound n) :
    ∃ last, Climbed g start bound last (seen ++ (climb g room seen i).1) (climb g room seen i).2 := by
  -- on the steps that the bound still allows; what was seen is the climb so far
  induction room generalizing seen i steps with
  | zero => exact ⟨steps, .of_stopsAt hseen hat hgoes (.full hroom)⟩
  | succ room ih =>
    have hback : i ∈ seen ↔ ∃ n < steps, g.above? n start = some i := by
      have hmem : some i ∈ seen.map some ↔ i ∈ seen := by simp
      rw [← hmem, hseen, List.mem_map]
      simp
    unfold climb
    by_cases hi : i ∈ seen
    · rw [if_pos hi]
      obtain ⟨n, hn, hthen⟩ := hback.mp hi
      exact ⟨steps, .of_stopsAt hseen hat hgoes (.repeats hn hthen hat)⟩
    · rw [if_neg hi]
      have hstep : g.above? (steps + 1) start = g.ancestor? i := by
        rw [above?_succ, hat, Option.bind_some]
      -- none of the reasons to stop holds at this step either
      have hgoeson : ∀ n < steps + 1, ¬ g.StopsAt start bound n := by
        intro n hn
        rcases Nat.lt_succ_iff_lt_or_eq.mp hn with hlt | rfl
        · exact hgoes n hlt
        · rintro (hended | ⟨hearlier, hthen, hnow⟩ | hfull)
          · simp [hat] at hended
          · obtain rfl := Option.some.inj (hat.symm.trans hnow)
            exact hi (hback.mpr ⟨_, hearlier, hthen⟩)
          · omega
      cases habove : g.ancestor? i with
      | none =>
        rw [habove] at hstep
        exact ⟨steps + 1, isLeast_stopsAt hgoeson (.ended hstep), map_some_snoc hseen hat,
          by simp [hstep], by simp⟩
      | some above =>
        have hrest := ih (by omega) (map_some_snoc hseen hat) (hstep.trans habove) hgoeson
        rwa [List.append_assoc] at hrest

/-- What a walk from a class comes to: it visits the chain up to the first step with a reason to stop,
and complains if there is a type at that step, of the chain that far. -/
structure Walked (g : TypeGraph) (bound : WalkBound) (i : TypeId) (t : TypeDescriptor) (last : Nat) :
    Prop where
  first : IsLeast {n | g.StopsAt i bound.depth n} last
  visited : (walk g bound (some i)).visited.map some = (List.range last).map (g.above? · i)
  ended : g.above? last i = none → (walk g bound (some i)).failure = none
  closed : g.above? last i ≠ none → ∃ chain : List TypeId,
    chain.map some = (List.range (last + 1)).map (g.above? · i) ∧
      (walk g bound (some i)).failure = some (.cyclic t.qualifiedName (chain.map g.nameOf))

theorem exists_walked {g : TypeGraph} {i : TypeId} {t : TypeDescriptor} (ht : g.get? i = some t)
    (hkind : t.kind = classKind) (bound : WalkBound) : ∃ last, Walked g bound i t last := by
  have hseen : ([] : List TypeId).map some = (List.range 0).map (g.above? · i) := rfl
  obtain ⟨last, hclimbed⟩ := climb_spec bound.depth (Nat.zero_add _) hseen rfl
    fun n hn => absurd hn (Nat.not_lt_zero n)
  rw [List.nil_append] at hclimbed
  rcases hway : climb g bound.depth [] i with ⟨visited, - | chain⟩
  · have hwalk : walk g bound (some i) = ⟨visited, none⟩ := by
      simp [walk, ht, hkind, hway]
    rw [hway] at hclimbed
    have hend := hclimbed.top_iff.mp rfl
    exact ⟨last, hclimbed.first, by rw [hwalk]; exact hclimbed.visited, fun _ => by rw [hwalk],
      fun h => absurd hend h⟩
  · have hwalk : walk g bound (some i)
        = ⟨visited, some (.cyclic t.qualifiedName (chain.map g.nameOf))⟩ := by
      simp [walk, ht, hkind, hway]
    rw [hway] at hclimbed
    have hend : g.above? last i ≠ none := fun h => by simpa using hclimbed.top_iff.mpr h
    exact ⟨last, hclimbed.first, by rw [hwalk]; exact hclimbed.visited, fun h => absurd h hend,
      fun _ => ⟨chain, hclimbed.chain rfl, by rw [hwalk]⟩⟩

/-! ## The fields -/

/-- The first of some fields that has no usable name, by its number. -/
structure UnusableAt (fields : List (Option String)) (index : Nat) : Prop where
  unusable : ∃ field, fields[index]? = some field ∧ ¬ Usable field
  before : ∀ field ∈ fields.take index, Usable field

/-- Gathering the fields of one type ends at the first one that has no usable name. -/
theorem gatherFields_eq_some {typeName : String} {acc : Gathered} {first last : Nat}
    {fields : List (Option String)} (h : (gatherFields typeName acc first fields).2 = some last) :
    ∃ index, last = first + index ∧ UnusableAt fields index := by
  induction fields generalizing acc first with
  | nil => simp [gatherFields] at h
  | cons field rest ih =>
    unfold gatherFields at h
    cases hname : usableName? field with
    | none =>
      rw [hname] at h
      obtain rfl := Option.some.inj h
      exact ⟨0, rfl, ⟨field, rfl, (usableName?_eq_none_iff field).mp hname⟩, by simp⟩
    | some name =>
      have hgood : Usable field := ⟨name, (usableName?_eq_some_iff field name).mp hname⟩
      -- whether the name is new makes no difference to what comes behind it
      obtain ⟨acc', hrest⟩ : ∃ acc', (gatherFields typeName acc' (first + 1) rest).2 = some last := by
        rw [hname] at h
        dsimp only at h
        split at h
        · exact ⟨_, h⟩
        · exact ⟨_, h⟩
      obtain ⟨index, rfl, hat, hbefore⟩ := ih hrest
      refine ⟨index + 1, by omega, ⟨hat, ?_⟩⟩
      rw [List.take_succ_cons, List.forall_mem_cons]
      exact ⟨hgood, hbefore⟩

/-- Gathering the fields of visited types ends at the first one that has no usable name. -/
theorem gather_eq_some {g : TypeGraph} {acc : Gathered} {visited : List TypeId} {j : TypeId}
    {index : Nat} (h : (gather g acc visited).2 = some (j, index)) :
    ∃ below above, visited = below ++ j :: above ∧ UnusableAt (g.declaredFields j) index ∧
      ∀ a ∈ below, ∀ field ∈ g.declaredFields a, Usable field := by
  induction visited generalizing acc with
  | nil => simp [gather] at h
  | cons i rest ih =>
    unfold gather at h
    rcases hgot : gatherFields (g.nameOf i) acc 0 (g.declaredFields i) with ⟨acc', - | last⟩
    · rw [hgot] at h
      obtain ⟨below, above, rfl, hat, hbelow⟩ := ih h
      refine ⟨i :: below, above, rfl, hat, ?_⟩
      rw [List.forall_mem_cons]
      exact ⟨(gatherFields_eq_none_iff ..).mp (congrArg Prod.snd hgot), hbelow⟩
    · rw [hgot] at h
      obtain ⟨rfl, rfl⟩ := Prod.mk.inj (Option.some.inj h)
      obtain ⟨found, rfl, hat⟩ := gatherFields_eq_some (congrArg Prod.snd hgot)
      rw [Nat.zero_add]
      exact ⟨[], rest, rfl, hat, by simp⟩

/-! ## Collecting -/

/-- All fields that are declared on the first types of a chain have usable names. -/
def UsableBelow (g : TypeGraph) (i : TypeId) (last : Nat) : Prop :=
  ∀ n < last, ∀ a, g.above? n i = some a → ∀ field ∈ g.declaredFields a, Usable field

/-- The first field without a usable name on the first types of a chain: the steps to the type that
declares it, the type, and the number of the field. -/
structure FirstUnusable (g : TypeGraph) (i : TypeId) (last steps : Nat) (j : TypeId) (index : Nat) :
    Prop where
  within : steps < last
  type : g.above? steps i = some j
  field : UnusableAt (g.declaredFields j) index
  below : UsableBelow g i steps

section Walks

variable {g : TypeGraph} {bound : WalkBound} {i : TypeId} {t : TypeDescriptor} {last : Nat}

/-- A list that follows the chain, step by step. -/
theorem Walked.above?_eq (h : Walked g bound i t last) {n : Nat} (hn : n < last) :
    g.above? n i = (walk g bound (some i)).visited[n]? := by
  have hlength : (walk g bound (some i)).visited.length = last := by
    simpa using congrArg List.length h.visited
  have hat := congrArg (·[n]?) h.visited
  simp only [List.getElem?_map, List.getElem?_range hn, Option.map_some] at hat
  rw [List.getElem?_eq_getElem (hlength ▸ hn), Option.map_some] at hat
  rw [List.getElem?_eq_getElem (hlength ▸ hn), Option.some.inj hat]

theorem Walked.mem_visited_iff (h : Walked g bound i t last) (a : TypeId) :
    a ∈ (walk g bound (some i)).visited ↔ ∃ n < last, g.above? n i = some a := by
  have hmem : some a ∈ (walk g bound (some i)).visited.map some ↔
      a ∈ (walk g bound (some i)).visited := by simp
  rw [← hmem, h.visited, List.mem_map]
  simp

theorem Walked.usableBelow_iff (h : Walked g bound i t last) (acc : Gathered) :
    UsableBelow g i last ↔ (gather g acc (walk g bound (some i)).visited).2 = none := by
  rw [gather_eq_none_iff]
  constructor
  · intro hall a ha
    obtain ⟨n, hn, hat⟩ := (h.mem_visited_iff a).mp ha
    exact hall n hn a hat
  · intro hall n hn a hat
    exact hall a ((h.mem_visited_iff a).mpr ⟨n, hn, hat⟩)

/-- If there is a field without a usable name, the first one is told. -/
theorem Walked.collect_of_unusable (h : Walked g bound i t last) (ht : g.get? i = some t)
    (hbad : ¬ UsableBelow g i last) :
    ∃ steps j index, FirstUnusable g i last steps j index ∧
      (collect g bound (some i)).1 = .error (.malformedField t.qualifiedName (g.nameOf j) index) := by
  rw [h.usableBelow_iff ⟨FieldNames.empty, []⟩] at hbad
  obtain ⟨⟨j, index⟩, hfound⟩ := Option.ne_none_iff_exists'.mp hbad
  obtain ⟨below, above, hsplit, hfield, hbelow⟩ := gather_eq_some hfound
  have hlength : below.length + (above.length + 1) = last := by
    simpa [hsplit] using congrArg List.length h.visited
  refine ⟨below.length, j, index, ⟨by omega, ?_, hfield, ?_⟩, ?_⟩
  · rw [h.above?_eq (by omega), hsplit]
    simp
  · intro n hn a hat
    rw [h.above?_eq (by omega), hsplit, List.getElem?_append_left hn] at hat
    exact hbelow a (List.mem_of_getElem? hat)
  · rcases hgot : gather g ⟨FieldNames.empty, []⟩ (walk g bound (some i)).visited with ⟨acc, bad⟩
    rw [hgot] at hfound
    obtain rfl : bad = some (j, index) := hfound
    have hname : g.nameOf i = t.qualifiedName := by simp [nameOf, ht]
    simp [collect, hgot, hname]

/-- Without such a field, collecting fails as the walk does. -/
theorem Walked.fst_collect (h : Walked g bound i t last) (hgood : UsableBelow g i last) :
    ∃ names, (collect g bound (some i)).1
      = (walk g bound (some i)).failure.elim (.ok names) .error := by
  rcases hgot : gather g ⟨FieldNames.empty, []⟩ (walk g bound (some i)).visited with ⟨acc, bad⟩
  obtain rfl : bad = none := by
    have hnone := (h.usableBelow_iff ⟨FieldNames.empty, []⟩).mp hgood
    rwa [hgot] at hnone
  refine ⟨acc.names.freeze, ?_⟩
  simp only [collect, hgot]
  cases (walk g bound (some i)).failure <;> rfl

theorem Walked.collect_of_ended (h : Walked g bound i t last) (hgood : UsableBelow g i last)
    (hended : g.above? last i = none) : ∃ names, (collect g bound (some i)).1 = .ok names := by
  obtain ⟨names, hcollect⟩ := h.fst_collect hgood
  rw [h.ended hended] at hcollect
  exact ⟨names, hcollect⟩

theorem Walked.collect_of_closed (h : Walked g bound i t last) (hgood : UsableBelow g i last)
    (hclosed : g.above? last i ≠ none) :
    ∃ chain : List TypeId, chain.map some = (List.range (last + 1)).map (g.above? · i) ∧
      (collect g bound (some i)).1 = .error (.cyclic t.qualifiedName (chain.map g.nameOf)) := by
  obtain ⟨chain, hchain, hfailure⟩ := h.closed hclosed
  obtain ⟨names, hcollect⟩ := h.fst_collect hgood
  rw [hfailure] at hcollect
  exact ⟨chain, hchain, hcollect⟩

end Walks

/-- A walk from a class visits its chain up to the first step at which the chain has ended, a type
comes back or the bound is used up, and so no more types than the bound. Collecting fails exactly if
one of these types declares a field without a usable name, or there is a type at that step. It tells
the first such field if there is one, and otherwise the chain up to and with that step. -/
theorem collect_fails_at_first_fault (g : TypeGraph) (bound : WalkBound) (i : TypeId)
    (t : TypeDescriptor) (ht : g.get? i = some t) (hkind : t.kind = classKind) :
    ∃ last, IsLeast {n | g.StopsAt i bound.depth n} last ∧ last ≤ bound.depth ∧
      (walk g bound (some i)).visited.map some = (List.range last).map (g.above? · i) ∧
      ((walk g bound (some i)).failure = none ↔ g.above? last i = none) ∧
      ((∃ f, (collect g bound (some i)).1 = .error f) ↔
        ¬ UsableBelow g i last ∨ g.above? last i ≠ none) ∧
      ∀ f, (collect g bound (some i)).1 = .error f →
        (¬ UsableBelow g i last → ∃ steps j index, FirstUnusable g i last steps j index ∧
          f = .malformedField t.qualifiedName (g.nameOf j) index) ∧
        (UsableBelow g i last → ∃ chain : List TypeId,
          chain.map some = (List.range (last + 1)).map (g.above? · i) ∧
            f = .cyclic t.qualifiedName (chain.map g.nameOf)) := by
  obtain ⟨last, hwalked⟩ := exists_walked ht hkind bound
  have hfails : (∃ f, (collect g bound (some i)).1 = .error f) ↔
      ¬ UsableBelow g i last ∨ g.above? last i ≠ none := by
    constructor
    · rintro ⟨f, hf⟩
      by_contra hneither
      rw [not_or, not_not, not_not] at hneither
      obtain ⟨names, hok⟩ := hwalked.collect_of_ended hneither.1 hneither.2
      simp [hok] at hf
    · intro hfault
      by_cases hgood : UsableBelow g i last
      · obtain ⟨chain, -, hf⟩ :=
          hwalked.collect_of_closed hgood (hfault.resolve_left (not_not.mpr hgood))
        exact ⟨_, hf⟩
      · obtain ⟨_, _, _, -, hf⟩ := hwalked.collect_of_unusable ht hgood
        exact ⟨_, hf⟩
  refine ⟨last, hwalked.first, hwalked.first.2 (.full rfl), hwalked.visited,
    ⟨fun hnone => ?_, hwalked.ended⟩, hfails, fun f hf => ⟨fun hbad => ?_, fun hgood => ?_⟩⟩
  · by_contra hsome
    obtain ⟨chain, -, hfailure⟩ := hwalked.closed hsome
    rw [hnone] at hfailure
    contradiction
  · obtain ⟨steps, j, index, hfirst, hcollect⟩ := hwalked.collect_of_unusable ht hbad
    rw [hf] at hcollect
    exact ⟨steps, j, index, hfirst, Except.error.inj hcollect⟩
  · have hclosed := (hfails.mp ⟨f, hf⟩).resolve_left (not_not.mpr hgood)
    obtain ⟨chain, hchain, hcollect⟩ := hwalked.collect_of_closed hgood hclosed
    rw [hf] at hcollect
    exact ⟨chain, hchain, Except.error.inj hcollect⟩

/-- Two types above each other, the second with a field that has no name behind one that has. -/
def closedPair : TypeGraph := TypeGraph.ofList [
  ⟨"zoo.Dog", "Dog", "zoo", [some "breed"], some 1, classKind, none⟩,
  ⟨"zoo.Animal", "Animal", "zoo", [some "name", some ""], some 0, classKind, none⟩]

theorem isLeast_stopsAt_closedPair : IsLeast {n | closedPair.StopsAt 0 5 n} 2 := by
  refine ⟨.repeats (a := 0) Nat.two_pos rfl rfl, fun n hstops => ?_⟩
  by_contra hlt
  obtain rfl | rfl : n = 0 ∨ n = 1 := by omega
  · rcases hstops with hended | ⟨hearlier, -, -⟩ | hfull
    · contradiction
    · contradiction
    · contradiction
  · rcases hstops with hended | ⟨hearlier, hthen, hnow⟩ | hfull
    · contradiction
    · obtain rfl := Nat.lt_one_iff.mp hearlier
      rw [← hthen] at hnow
      contradiction
    · contradiction

/-- The field is told, although the chain is closed above it. -/
theorem collect_closedPair :
    ∃ steps j index, FirstUnusable closedPair 0 2 steps j index ∧
      (collect closedPair ⟨5, by decide⟩ (some 0)).1
        = .error (.malformedField "zoo.Dog" (closedPair.nameOf j) index) := by
  obtain ⟨last, hfirst, -, -, -, hfails, hfault⟩ :=
    collect_fails_at_first_fault closedPair ⟨5, by decide⟩ 0 _ rfl rfl
  obtain rfl := hfirst.unique isLeast_stopsAt_closedPair
  have hbad : ¬ UsableBelow closedPair 0 2 := by
    intro hall
    obtain ⟨name, hname, hne⟩ := hall 1 (by decide) 1 rfl (some "") (by decide)
    exact hne (Option.some.inj hname).symm
  obtain ⟨f, hf⟩ := hfails.mpr (.inl hbad)
  obtain ⟨steps, j, index, hat, rfl⟩ := (hfault f hf).1 hbad
  exact ⟨steps, j, index, hat, hf⟩

end Roster
