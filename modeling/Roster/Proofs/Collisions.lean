import Mathlib.Data.List.Basic
import Mathlib.Data.List.Induction
import Mathlib.Data.List.Nodup
import Roster.Proofs.FirstOccurrences

/-! # Groups and collisions

Grouping goes through the items once and keeps a map from keys to the items seen so far. What comes
out can be said without the map: a group for each key, in the order of the first items that have it,
and in a group all the items of the key, in order.

* `groupsOf_eq`: the groups.
* `any_collisions_iff`: a key is in a collision exactly when several items share it.
* `flatten_collisions_perm`: the members of all collisions are the items that share their key.
-/

namespace Roster

variable {α : Type}

/-- The items of one key. -/
def havingKey (key : α → String) (items : List α) (k : String) : List α :=
  items.filter fun item => key item = k

/-- Whether several items have a key. -/
def Shared (key : α → String) (items : List α) (k : String) : Prop :=
  1 < (havingKey key items k).length

instance (key : α → String) (items : List α) : DecidablePred (Shared key items) :=
  fun k => inferInstanceAs (Decidable (1 < (havingKey key items k).length))

theorem mem_havingKey {key : α → String} {items : List α} {k : String} {item : α} :
    item ∈ havingKey key items k ↔ item ∈ items ∧ key item = k := by
  simp [havingKey]

/-! ## Groups -/

/-- The map of groups after the items in `seen`. -/
structure Grouped (key : α → String) (groups : OrderedMap String (List α)) (seen : List α) :
    Prop where
  keys : groups.keys = (seen.map key).eraseDups
  get? : ∀ k ∈ seen.map key, groups.get? k = some (havingKey key seen k)

theorem Grouped.empty (key : α → String) : Grouped key OrderedMap.empty [] where
  keys := rfl
  get? := by simp

/-- Under a key that no item has had there is no group, and nobody to be in it. -/
theorem Grouped.getD_get? {key : α → String} {groups : OrderedMap String (List α)} {seen : List α}
    (h : Grouped key groups seen) (k : String) :
    (groups.get? k).getD [] = havingKey key seen k := by
  by_cases hseen : k ∈ seen.map key
  · rw [h.get? _ hseen, Option.getD_some]
  · have hout : k ∉ groups.keys := by
      rw [h.keys, List.mem_eraseDups]
      exact hseen
    have hnone : groups.get? k = none := by
      rw [Option.eq_none_iff_forall_not_mem]
      intro found hfound
      exact hout ((groups.mem_keys_iff _).mpr ⟨found, hfound⟩)
    have hnobody : havingKey key seen k = [] := by
      rw [List.eq_nil_iff_forall_not_mem]
      intro x hx
      obtain ⟨hmem, hkey⟩ := mem_havingKey.mp hx
      exact hseen (hkey ▸ List.mem_map_of_mem hmem)
    rw [hnone, hnobody, Option.getD_none]

/-- One more item keeps the groups right. -/
theorem Grouped.joinGroup {key : α → String} {groups : OrderedMap String (List α)} {seen : List α}
    (h : Grouped key groups seen) (item : α) :
    Grouped key (joinGroup groups (key item) item) (seen ++ [item]) where
  keys := by
    rw [List.map_append, List.map_singleton]
    exact OrderedMap.keys_insert_of_firsts h.keys _ _
  get? := by
    intro k hk
    rw [Roster.joinGroup, OrderedMap.get?_insert, h.getD_get?]
    by_cases hsame : k = key item
    · simp [hsame, havingKey]
    · have hk' : k ∈ seen.map key := by
        rw [List.map_append, List.mem_append] at hk
        rcases hk with hk | hk
        · exact hk
        · exact absurd (by simpa using hk) hsame
      rw [if_neg hsame, h.get? k hk']
      simp [havingKey, Ne.symm hsame]

theorem grouped_foldl (key : α → String) (items : List α) :
    Grouped key (items.foldl (fun groups item => joinGroup groups (key item) item) .empty) items := by
  induction items using List.reverseRecOn with
  | nil => exact .empty key
  | append_singleton items item ih =>
    rw [List.foldl_append]
    exact ih.joinGroup item

/-- The values of a map are those of the keys, one after the other. -/
theorem OrderedMap.values_eq_filterMap_keys {κ β : Type} [DecidableEq κ] (m : OrderedMap κ β) :
    m.values = m.keys.filterMap m.get? := by
  rw [OrderedMap.keys, List.filterMap_map, OrderedMap.values, ← List.filterMap_eq_map]
  exact List.filterMap_congr fun e he => (OrderedMap.get?_of_mem he).symm

/-- There is one group for each key, in the order of the first items; it holds the items of the
key. -/
theorem groupsOf_eq (key : α → String) (items : List α) :
    groupsOf key items = (items.map key).eraseDups.map (havingKey key items) := by
  have h := grouped_foldl key items
  rw [groupsOf, OrderedMap.values_eq_filterMap_keys, h.keys,
    ← List.filterMap_eq_map (f := havingKey key items)]
  apply List.filterMap_congr
  intro k hk
  exact h.get? k (List.mem_eraseDups.mp hk)

/-! ## Collisions -/

/-- There is one collision for each shared key. -/
theorem collisions_eq (key : α → String) (items : List α) :
    collisions key items
      = ((items.map key).eraseDups.filter (Shared key items)).map (havingKey key items) := by
  rw [collisions, groupsOf_eq, List.filter_map]
  rfl

theorem mem_collisions_iff {key : α → String} {items members : List α} :
    members ∈ collisions key items ↔ ∃ k, Shared key items k ∧ members = havingKey key items k := by
  rw [collisions_eq]
  simp only [List.mem_map, List.mem_filter, List.mem_eraseDups, decide_eq_true_eq]
  constructor
  · rintro ⟨k, ⟨-, hk⟩, rfl⟩
    exact ⟨k, hk, rfl⟩
  · rintro ⟨k, hk, rfl⟩
    -- a shared key has an item, which puts it among the keys
    obtain ⟨item, hitem⟩ := List.exists_mem_of_length_pos (Nat.lt_of_succ_lt hk)
    obtain ⟨hmem, hkey⟩ := mem_havingKey.mp hitem
    exact ⟨k, ⟨⟨item, hmem, hkey⟩, hk⟩, rfl⟩

/-- A key is in a collision exactly when it is shared. -/
theorem any_collisions_iff (key : α → String) (items : List α) (k : String) :
    (collisions key items).any (fun members => members.any fun member => key member = k) = true ↔
      Shared key items k := by
  simp only [List.any_eq_true, decide_eq_true_eq]
  constructor
  · rintro ⟨members, hmembers, member, hmember, rfl⟩
    obtain ⟨k, hk, rfl⟩ := mem_collisions_iff.mp hmembers
    rwa [(mem_havingKey.mp hmember).2]
  · intro hk
    obtain ⟨item, hitem⟩ := List.exists_mem_of_length_pos (Nat.lt_of_succ_lt hk)
    exact ⟨_, mem_collisions_iff.mpr ⟨k, hk, rfl⟩, item, hitem, (mem_havingKey.mp hitem).2⟩

/-- The keys that are not shared are different. -/
theorem nodup_keys_of_not_shared (key : α → String) (items : List α) :
    ((items.filter fun item => ¬ Shared key items (key item)).map key).Nodup := by
  rw [List.nodup_iff_count_le_one]
  intro k
  have hcount : ((items.filter fun item => ¬ Shared key items (key item)).map key).count k
      = (havingKey key (items.filter fun item => ¬ Shared key items (key item)) k).length := by
    rw [List.count, List.countP_map, List.countP_eq_length_filter, havingKey]
    congr 1
  rw [hcount]
  by_contra hmany
  have hle : (havingKey key (items.filter fun item => ¬ Shared key items (key item)) k).length
      ≤ (havingKey key items k).length :=
    (List.filter_sublist.filter _).length_le
  have hshared : Shared key items k := Nat.lt_of_lt_of_le (Nat.lt_of_not_le hmany) hle
  -- so none of the items that are left has this key
  obtain ⟨item, hitem⟩ := List.exists_mem_of_length_pos (Nat.lt_of_succ_lt (Nat.lt_of_not_le hmany))
  obtain ⟨hmem, rfl⟩ := mem_havingKey.mp hitem
  exact absurd hshared (by simpa using (List.mem_filter.mp hmem).2)

/-- Taking the items of several keys, key by key, changes only their order. -/
theorem flatMap_havingKey_perm (key : α → String) (items : List α) {ks : List String}
    (h : ks.Nodup) :
    (ks.flatMap (havingKey key items)).Perm (items.filter fun item => key item ∈ ks) := by
  induction ks with
  | nil => simp
  | cons k ks ih =>
    rw [List.nodup_cons] at h
    have hfirst : (items.filter fun item => key item ∈ k :: ks).filter (fun item => key item = k)
        = havingKey key items k := by
      rw [List.filter_filter, havingKey]
      apply List.filter_congr
      intro item _
      by_cases hk : key item = k <;> simp [hk]
    have hrest : (items.filter fun item => key item ∈ k :: ks).filter (fun item => !key item = k)
        = items.filter fun item => key item ∈ ks := by
      rw [List.filter_filter]
      apply List.filter_congr
      intro item _
      by_cases hk : key item = k
      · simp [hk, h.1]
      · simp [hk]
    -- those with the first key come first, and those with the other keys are left
    have hsplit := List.filter_append_perm (fun item => decide (key item = k))
      (items.filter fun item => key item ∈ k :: ks)
    rw [hfirst, hrest] at hsplit
    rw [List.flatMap_cons]
    exact ((ih h.2).append_left _).trans hsplit

/-- The members of all collisions are the items whose keys are shared. -/
theorem flatten_collisions_perm (key : α → String) (items : List α) :
    (collisions key items).flatten.Perm (items.filter fun item => Shared key items (key item)) := by
  have hperm := flatMap_havingKey_perm key items
    ((nodup_eraseDups (items.map key)).filter (Shared key items))
  have hsame : (items.filter fun item => key item ∈
      (items.map key).eraseDups.filter (Shared key items))
      = items.filter fun item => Shared key items (key item) := by
    apply List.filter_congr
    intro item hitem
    have hmem : key item ∈ (items.map key).eraseDups :=
      List.mem_eraseDups.mpr (List.mem_map_of_mem hitem)
    simp [List.mem_filter, hmem]
  rw [hsame] at hperm
  rwa [collisions_eq, ← List.flatMap_def]

end Roster
