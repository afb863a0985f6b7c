import Mathlib.Data.List.FinRange
import Mathlib.Data.List.Sort
import Roster.Proofs.Collisions

/-! # Collisions by position

One companion may stand several times in a list, so what collides is said of positions. Those of shared
names are put into groups: all of one name together, in a group in ascending order, and the groups in the
order of their first members. Only one list of groups is like that, and the collisions are what stands
there.

* `collisions_map`: items are grouped by their keys alone, whatever else they are.
* `pairwise_startsBefore`: groups of a sorted list come in the order of their first members.
* `NameGroups.unique`: there is only one way to group the positions.
* `collisions_at_positions`: the collisions of any list of companions.
-/

namespace Roster

variable {α β : Type}

/-! ## Items and their keys -/

theorem havingKey_map (key : β → String) (f : α → β) (items : List α) (k : String) :
    havingKey key (items.map f) k = (havingKey (fun item => key (f item)) items k).map f := by
  rw [havingKey, List.filter_map]
  rfl

theorem shared_map_iff (key : β → String) (f : α → β) (items : List α) (k : String) :
    Shared key (items.map f) k ↔ Shared (fun item => key (f item)) items k := by
  rw [Shared, Shared, havingKey_map, List.length_map]

/-- Items of the same keys collide in the same way. -/
theorem collisions_map (key : β → String) (f : α → β) (items : List α) :
    collisions key (items.map f)
      = (collisions (fun item => key (f item)) items).map (List.map f) := by
  rw [collisions_eq, collisions_eq, List.map_map, List.map_map]
  have hkeys : (items.map (key ∘ f)).eraseDups.filter (Shared key (items.map f))
      = (items.map (key ∘ f)).eraseDups.filter (Shared (fun item => key (f item)) items) := by
    apply List.filter_congr
    intro k _
    exact decide_eq_decide.mpr (shared_map_iff key f items k)
  rw [hkeys]
  apply List.map_congr_left
  intro k _
  exact havingKey_map key f items k

/-- Two different items of one key make it shared. -/
theorem shared_of_ne {key : α → String} {items : List α} {x y : α} (hx : x ∈ items) (hy : y ∈ items)
    (hne : x ≠ y) (hkey : key x = key y) : Shared key items (key y) := by
  have hinx : x ∈ havingKey key items (key y) := mem_havingKey.mpr ⟨hx, hkey⟩
  have hiny : y ∈ havingKey key items (key y) := mem_havingKey.mpr ⟨hy, rfl⟩
  by_contra hfew
  -- otherwise there is one item of the key, and both are this item
  have hpos : 0 < (havingKey key items (key y)).length := List.length_pos_of_mem hinx
  have hone : (havingKey key items (key y)).length = 1 := by
    rw [Shared] at hfew
    omega
  obtain ⟨only, honly⟩ := List.length_eq_one_iff.mp hone
  rw [honly, List.mem_singleton] at hinx hiny
  exact hne (hinx.trans hiny.symm)

/-- Two different items collide exactly when they have one key. -/
theorem exists_collision_iff {key : α → String} {items : List α} {x y : α} (hx : x ∈ items)
    (hy : y ∈ items) (hne : x ≠ y) :
    (∃ group ∈ collisions key items, x ∈ group ∧ y ∈ group) ↔ key x = key y := by
  constructor
  · intro h
    rcases h with ⟨group, hgroup, hinx, hiny⟩
    obtain ⟨k, -, rfl⟩ := mem_collisions_iff.mp hgroup
    rw [(mem_havingKey.mp hinx).2, (mem_havingKey.mp hiny).2]
  · intro hkey
    exact ⟨_, mem_collisions_iff.mpr ⟨key y, shared_of_ne hx hy hne hkey, rfl⟩,
      mem_havingKey.mpr ⟨hx, hkey⟩, mem_havingKey.mpr ⟨hy, rfl⟩⟩

/-- Collisions that have an item in common are the same. -/
theorem eq_of_mem_collisions {key : α → String} {items group other : List α} {x : α}
    (hgroup : group ∈ collisions key items) (hother : other ∈ collisions key items) (hx : x ∈ group)
    (hx' : x ∈ other) : group = other := by
  obtain ⟨k, -, rfl⟩ := mem_collisions_iff.mp hgroup
  obtain ⟨l, -, rfl⟩ := mem_collisions_iff.mp hother
  rw [← (mem_havingKey.mp hx).2, (mem_havingKey.mp hx').2]

/-! ## Groups of a sorted list -/

section Order

variable {key : α → String} {items : List α}

theorem exists_head?_havingKey {k : String} (hk : k ∈ items.map key) :
    ∃ x ∈ items, (havingKey key items k).head? = some x := by
  obtain ⟨item, hitem, rfl⟩ := List.mem_map.mp hk
  have hin : item ∈ havingKey key items (key item) := mem_havingKey.mpr ⟨hitem, rfl⟩
  cases hgroup : havingKey key items (key item) with
  | nil =>
    rw [hgroup] at hin
    contradiction
  | cons x rest =>
    have hx : x ∈ havingKey key items (key item) := hgroup ▸ List.mem_cons_self
    exact ⟨x, (mem_havingKey.mp hx).1, rfl⟩

/-- The first item of a key stays the first when more items come. -/
theorem head?_havingKey_append {k : String} {x : α} (h : (havingKey key items k).head? = some x)
    (more : List α) : (havingKey key (items ++ more) k).head? = some x := by
  rw [havingKey, List.filter_append]
  exact List.mem_head?_append_of_mem_head? h

theorem head?_havingKey_new {item : α} (hnew : key item ∉ items.map key) :
    (havingKey key (items ++ [item]) (key item)).head? = some item := by
  have hnobody : items.filter (fun x => key x = key item) = [] := by
    rw [List.filter_eq_nil_iff]
    intro x hx hsame
    exact hnew (of_decide_eq_true hsame ▸ List.mem_map_of_mem hx)
  rw [havingKey, List.filter_append, hnobody]
  simp

variable [Preorder α]

/-- The first member of one group comes before the first of another. -/
def StartsBefore (group later : List α) : Prop :=
  ∃ x y, group.head? = some x ∧ later.head? = some y ∧ x < y

theorem StartsBefore.irrefl (group : List α) : ¬ StartsBefore group group := by
  intro h
  rcases h with ⟨x, y, hx, hy, hlt⟩
  obtain rfl : x = y := Option.some.inj (hx.symm.trans hy)
  exact lt_irrefl x hlt

theorem StartsBefore.asymm {group later : List α} (h : StartsBefore group later) :
    ¬ StartsBefore later group := by
  intro h'
  rcases h with ⟨x, y, hx, hy, hlt⟩
  rcases h' with ⟨y', x', hy', hx', hlt'⟩
  obtain rfl : x = x' := Option.some.inj (hx.symm.trans hx')
  obtain rfl : y = y' := Option.some.inj (hy.symm.trans hy')
  exact lt_asymm hlt hlt'

instance : Std.Irrefl (StartsBefore (α := α)) := ⟨StartsBefore.irrefl⟩

instance : Std.Antisymm (StartsBefore (α := α)) := ⟨fun _ _ h h' => absurd h' h.asymm⟩

/-- The groups of a sorted list come in the order of their first members. -/
theorem pairwise_startsBefore (h : items.Pairwise (· < ·)) :
    (groupsOf key items).Pairwise StartsBefore := by
  rw [groupsOf_eq, List.pairwise_map]
  -- one more item joins a group behind its first member, or opens a group behind all others
  induction items using List.reverseRecOn with
  | nil => exact .nil
  | append_singleton items item ih =>
    obtain ⟨hitems, -, hlast⟩ := List.pairwise_append.mp h
    have hold : (items.map key).eraseDups.Pairwise fun k l =>
        StartsBefore (havingKey key (items ++ [item]) k) (havingKey key (items ++ [item]) l) := by
      refine (ih hitems).imp ?_
      intro k l hstarts
      rcases hstarts with ⟨x, y, hx, hy, hlt⟩
      exact ⟨x, y, head?_havingKey_append hx _, head?_havingKey_append hy _, hlt⟩
    rw [List.map_append, List.map_singleton]
    by_cases hknown : key item ∈ items.map key
    · rw [eraseDups_append_of_mem hknown]
      exact hold
    · rw [eraseDups_append_of_notMem hknown, List.pairwise_append]
      refine ⟨hold, List.pairwise_singleton _ _, ?_⟩
      intro k hk l hl
      obtain rfl := List.mem_singleton.mp hl
      obtain ⟨x, hx, hhead⟩ := exists_head?_havingKey (List.mem_eraseDups.mp hk)
      exact ⟨x, item, head?_havingKey_append hhead _, head?_havingKey_new hknown,
        hlast x hx item (List.mem_singleton_self item)⟩

end Order

/-! ## Positions in groups -/

/-- The positions of names that stand several times, in groups. -/
structure NameGroups {n : Nat} (name : Fin n → String) (groups : List (List (Fin n))) : Prop where
  /-- Two positions are in one group exactly when they have one name. -/
  together : ∀ i j, i ≠ j → ((∃ group ∈ groups, i ∈ group ∧ j ∈ group) ↔ name i = name j)
  /-- No group has a single member. -/
  several : ∀ group ∈ groups, 2 ≤ group.length
  /-- A position whose name stands elsewhere too is in one group and in no other. -/
  once : ∀ i, (∃ j, j ≠ i ∧ name j = name i) → ∃! place : Fin groups.length, i ∈ groups[place]
  /-- Members of a group are in order. -/
  ascending : ∀ group ∈ groups, group.Pairwise (· < ·)
  /-- Groups are in the order of their first members. -/
  byFirst : groups.Pairwise StartsBefore

section Positions

variable {n : Nat} {name : Fin n → String} {groups others : List (List (Fin n))}

/-- The collisions among all positions are their groups. -/
theorem nameGroups_collisions (name : Fin n → String) :
    NameGroups name (collisions name (List.finRange n)) := by
  have hsorted : (List.finRange n).Pairwise (· < ·) := (List.sortedLT_finRange n).pairwise
  have hbyFirst : (collisions name (List.finRange n)).Pairwise StartsBefore :=
    (pairwise_startsBefore hsorted).filter _
  have htogether : ∀ i j, i ≠ j →
      ((∃ group ∈ collisions name (List.finRange n), i ∈ group ∧ j ∈ group) ↔ name i = name j) := by
    intro i j hne
    exact exists_collision_iff (List.mem_finRange i) (List.mem_finRange j) hne
  refine ⟨htogether, ?_, ?_, ?_, hbyFirst⟩
  · intro group hgroup
    obtain ⟨k, hshared, rfl⟩ := mem_collisions_iff.mp hgroup
    exact hshared
  · intro i hpartner
    rcases hpartner with ⟨j, hne, hname⟩
    obtain ⟨group, hgroup, -, hi⟩ := (htogether j i hne).mpr hname
    obtain ⟨place, hplace, rfl⟩ := List.getElem_of_mem hgroup
    refine ⟨⟨place, hplace⟩, hi, ?_⟩
    intro other hother
    -- a group that comes before another is not the same, so equal groups have one place
    have hsame : (collisions name (List.finRange n))[other.val]
        = (collisions name (List.finRange n))[place] :=
      eq_of_mem_collisions (List.getElem_mem other.isLt) hgroup hother hi
    exact Fin.ext (hbyFirst.nodup.getElem_inj_iff.mp hsame)
  · intro group hgroup
    obtain ⟨k, -, rfl⟩ := mem_collisions_iff.mp hgroup
    exact hsorted.filter _

example : collisions (fun i : Fin 5 => ["b", "a", "a", "c", "b"][i]) (List.finRange 5)
    = [[0, 4], [1, 2]] := by
  decide

namespace NameGroups

/-- A member of a group is not alone in it. -/
theorem exists_partner (h : NameGroups name groups) {group : List (Fin n)} (hgroup : group ∈ groups) :
    ∃ i ∈ group, ∃ j ∈ group, j ≠ i := by
  have hlength := h.several group hgroup
  have hascending := h.ascending group hgroup
  -- in ascending order the second member is another position than the first
  rcases group with _ | ⟨i, _ | ⟨j, rest⟩⟩
  · simp at hlength
  · simp at hlength
  · have hlt : i < j := (List.pairwise_cons.mp hascending).1 j List.mem_cons_self
    exact ⟨i, List.mem_cons_self, j, by simp, ne_of_gt hlt⟩

/-- A group holds all positions of a name. -/
theorem exists_mem_iff (h : NameGroups name groups) {group : List (Fin n)} (hgroup : group ∈ groups) :
    ∃ i j, j ≠ i ∧ name j = name i ∧ ∀ m, m ∈ group ↔ name m = name i := by
  obtain ⟨i, hi, j, hj, hne⟩ := h.exists_partner hgroup
  have hname : name j = name i := (h.together j i hne).mp ⟨group, hgroup, hj, hi⟩
  refine ⟨i, j, hne, hname, ?_⟩
  intro m
  by_cases hsame : m = i
  · rw [hsame]
    exact ⟨fun _ => rfl, fun _ => hi⟩
  · constructor
    · intro hm
      exact (h.together m i hsame).mp ⟨group, hgroup, hm, hi⟩
    · intro hm
      -- some group holds both, and there is only one that holds the first
      obtain ⟨other, hother, hmem, hi'⟩ := (h.together m i hsame).mpr hm
      obtain ⟨place, hplace, rfl⟩ := List.getElem_of_mem hgroup
      obtain ⟨place', hplace', rfl⟩ := List.getElem_of_mem hother
      have hplaces : (⟨place, hplace⟩ : Fin groups.length) = ⟨place', hplace'⟩ :=
        (h.once i ⟨j, hne, hname⟩).unique hi hi'
      obtain rfl : place = place' := congrArg Fin.val hplaces
      exact hmem

theorem mem_of_mem (h : NameGroups name groups) (h' : NameGroups name others) {group : List (Fin n)}
    (hgroup : group ∈ groups) : group ∈ others := by
  obtain ⟨i, j, hne, hname, hmem⟩ := h.exists_mem_iff hgroup
  obtain ⟨other, hother, hj, hi⟩ := (h'.together j i hne).mpr hname
  -- the group that holds the same two positions there holds the same positions altogether
  obtain ⟨i', j', -, -, hmem'⟩ := h'.exists_mem_iff hother
  have hsame : group = other := by
    apply (h.ascending group hgroup).eq_of_mem_iff (h'.ascending other hother)
    intro m
    rw [hmem, hmem', (hmem' i).mp hi]
  rw [hsame]
  exact hother

/-- There is only one way to put the positions into groups. -/
theorem unique (h : NameGroups name groups) (h' : NameGroups name others) : groups = others := by
  apply h.byFirst.eq_of_mem_iff h'.byFirst
  intro group
  exact ⟨h.mem_of_mem h', h'.mem_of_mem h⟩

end NameGroups

end Positions

/-! ## Companions -/

/-- The companions that collide are those at the positions of shared qualified names: positions are
together exactly when the names are equal, no group has a single member, every position of a shared name
is in exactly one group, members are in the order of the list, and groups in the order of their first
members. No other groups of positions are like that. -/
theorem collisions_at_positions (artifacts : List Artifact) :
    ∃ groups : List (List (Fin artifacts.length)),
      NameGroups (fun i => artifacts[i].qualifiedName) groups ∧
      (∀ others, NameGroups (fun i => artifacts[i].qualifiedName) others → others = groups) ∧
      collisions Artifact.qualifiedName artifacts = groups.map (List.map fun i => artifacts[i]) := by
  have hgroups := nameGroups_collisions fun i : Fin artifacts.length => artifacts[i].qualifiedName
  refine ⟨_, hgroups, ?_, ?_⟩
  · intro others hothers
    exact hothers.unique hgroups
  · have hitems : (List.finRange artifacts.length).map (fun i => artifacts[i]) = artifacts :=
      List.map_getElem_finRange artifacts
    rw [← collisions_map, hitems]

end Roster
