import Mathlib.Data.List.Basic
import Mathlib.Data.List.Induction
import Roster.FieldNames
import Roster.Round

/-! # First occurrences

Names, types and group keys are gathered the same way: a new item goes to the end, a known one
changes nothing. Whatever is gathered like this is the list of the first occurrences of everything
that came in.

* `eraseDups_append_of_mem`, `eraseDups_append_of_notMem`: one more item, in general.
* `FieldNames.toList_foldl_push`: the names of a set.
* `Round.foldl_addType`: the types of a round.
* `OrderedMap.keys_insert_of_firsts`: the keys of a map.
-/

namespace Roster

section Lists

variable {α : Type} [BEq α] [LawfulBEq α]

theorem nodup_eraseDups (l : List α) : l.eraseDups.Nodup := by
  match l with
  | [] => simp
  | a :: as =>
    have hshort : (as.filter fun b => !b == a).length < as.length + 1 :=
      Nat.lt_succ_of_le (List.length_filter_le _ _)
    rw [List.eraseDups_cons, List.nodup_cons]
    refine ⟨?_, nodup_eraseDups _⟩
    intro ha
    have hmem := List.mem_eraseDups.mp ha
    simp at hmem
termination_by l.length

theorem eraseDups_of_nodup {l : List α} (h : l.Nodup) : l.eraseDups = l := by
  induction l with
  | nil => rfl
  | cons a as ih =>
    rw [List.nodup_cons] at h
    have hkeep : (as.filter fun b => !b == a) = as := by
      rw [List.filter_eq_self]
      intro b hb
      have hne : b ≠ a := by
        rintro rfl
        exact h.1 hb
      simp [hne]
    rw [List.eraseDups_cons, hkeep, ih h.2]

/-- One more item leaves the first occurrences alone when it is known. -/
theorem eraseDups_append_of_mem {l : List α} {a : α} (h : a ∈ l) :
    (l ++ [a]).eraseDups = l.eraseDups := by
  rw [List.eraseDups_append]
  simp [List.removeAll, h]

/-- One more item comes last when it is new. -/
theorem eraseDups_append_of_notMem {l : List α} {a : α} (h : a ∉ l) :
    (l ++ [a]).eraseDups = l.eraseDups ++ [a] := by
  rw [List.eraseDups_append]
  simp [List.removeAll, h, List.eraseDups_cons]

/-- Dropping repetitions early makes no difference. -/
theorem eraseDups_eraseDups_append (l r : List α) :
    (l.eraseDups ++ r).eraseDups = (l ++ r).eraseDups := by
  have hsame : r.removeAll l.eraseDups = r.removeAll l := by
    simp only [List.removeAll, List.elem_eq_contains]
    congr 1
    funext b
    simp [List.contains_eq_mem, List.mem_eraseDups]
  rw [List.eraseDups_append, List.eraseDups_append, hsame,
    eraseDups_of_nodup (nodup_eraseDups l)]

/-- Renaming items by an injective function keeps which of them are first. -/
theorem eraseDups_map {β : Type} [BEq β] [LawfulBEq β] {f : α → β} (hf : Function.Injective f)
    (l : List α) : (l.map f).eraseDups = l.eraseDups.map f := by
  induction l using List.reverseRecOn with
  | nil => rfl
  | append_singleton l a ih =>
    rw [List.map_append, List.map_singleton]
    by_cases h : a ∈ l
    · rw [eraseDups_append_of_mem (List.mem_map_of_mem h), eraseDups_append_of_mem h, ih]
    · have hnew : f a ∉ l.map f := by
        rw [List.mem_map_of_injective hf]
        exact h
      rw [eraseDups_append_of_notMem hnew, eraseDups_append_of_notMem h, ih, List.map_append,
        List.map_singleton]

end Lists

/-! ## Names -/

namespace FieldNames

theorem toList_push_eq (s : FieldNames) (name : String) :
    (s.push name).toList = (s.toList ++ [name]).eraseDups := by
  rw [toList_push]
  split
  · rename_i h
    rw [eraseDups_append_of_mem h, eraseDups_of_nodup s.nodup]
  · rename_i h
    rw [eraseDups_append_of_notMem h, eraseDups_of_nodup s.nodup]

/-- Pushing names one by one keeps the first occurrence of each. -/
theorem toList_foldl_push (names : List String) (s : FieldNames) :
    (names.foldl push s).toList = (s.toList ++ names).eraseDups := by
  induction names generalizing s with
  | nil => simp [eraseDups_of_nodup s.nodup]
  | cons name names ih =>
    rw [List.foldl_cons, ih, toList_push_eq, eraseDups_eraseDups_append, List.append_assoc,
      List.singleton_append]

theorem toList_ofList (names : List String) : (ofList names).toList = names.eraseDups :=
  toList_foldl_push names empty

end FieldNames

/-! ## Types -/

namespace Round

theorem addType_eq {types : List (Option TypeId)} (h : types.Nodup) (type : Option TypeId) :
    addType types type = (types ++ [type]).eraseDups := by
  unfold addType
  split
  · rename_i hmem
    rw [eraseDups_append_of_mem hmem, eraseDups_of_nodup h]
  · rename_i hmem
    rw [eraseDups_append_of_notMem hmem, eraseDups_of_nodup h]

/-- Adding types one by one keeps the first occurrence of each. -/
theorem foldl_addType {types : List (Option TypeId)} (h : types.Nodup)
    (found : List (Option TypeId)) :
    found.foldl addType types = (types ++ found).eraseDups := by
  induction found generalizing types with
  | nil => simp [eraseDups_of_nodup h]
  | cons type found ih =>
    rw [List.foldl_cons, addType_eq h, ih (nodup_eraseDups _), eraseDups_eraseDups_append,
      List.append_assoc, List.singleton_append]

end Round

/-! ## Keys -/

namespace OrderedMap

variable {α β : Type} [DecidableEq α]

/-- Inserting under a key adds the key to those that came in. -/
theorem keys_insert_of_firsts {m : OrderedMap α β} {seen : List α} (h : m.keys = seen.eraseDups)
    (a : α) (b : β) : (m.insert a b).keys = (seen ++ [a]).eraseDups := by
  rw [keys_insert, h]
  split
  · rename_i hmem
    rw [eraseDups_append_of_mem (List.mem_eraseDups.mp hmem)]
  · rename_i hmem
    rw [eraseDups_append_of_notMem fun hin => hmem (List.mem_eraseDups.mpr hin)]

end OrderedMap
end Roster
