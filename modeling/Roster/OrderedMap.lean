/-! # Maps in insertion order

A finite map whose keys keep the place of their first insertion. A later value for a known key
replaces the earlier one in that place.

* `get?_insert`: what a key holds after an insertion.
* `keys_insert`: a new key goes to the end, a known one stays where it is.
* `get?_eq_some_iff`, `entries_ofList`: what the entries are.
* `get?_ofList_last`: of several values put in, the last is kept.
* `get?_foldl_insertNew`: of several values for a new key, the first is kept.
-/

namespace Roster

/-- A new item at the end keeps a list free of repetitions. -/
theorem nodup_snoc {α : Type} {items : List α} {a : α} (h : items.Nodup) (ha : a ∉ items) :
    (items ++ [a]).Nodup := by
  rw [List.nodup_append]
  refine ⟨h, by simp, ?_⟩
  intro x hx y hy
  rw [List.mem_singleton] at hy
  rintro rfl
  exact ha (hy ▸ hx)

/-- A map from keys to values, its entries in order of first insertion. -/
structure OrderedMap (α β : Type) [DecidableEq α] where
  entries : List (α × β)
  nodup : (entries.map (·.1)).Nodup

namespace OrderedMap

variable {α β : Type} [DecidableEq α]

/-- The map without entries. -/
def empty : OrderedMap α β := ⟨[], by simp⟩

instance : Inhabited (OrderedMap α β) := ⟨empty⟩

/-- Maps of the same entries are the same. -/
theorem eq_of_entries : {m n : OrderedMap α β} → m.entries = n.entries → m = n
  | ⟨_, _⟩, ⟨_, _⟩, rfl => rfl

instance [DecidableEq β] : DecidableEq (OrderedMap α β) := fun m n =>
  decidable_of_iff (m.entries = n.entries) ⟨eq_of_entries, congrArg entries⟩

/-- The keys in order of first insertion. -/
def keys (m : OrderedMap α β) : List α := m.entries.map (·.1)

/-- The values in the order of their keys. -/
def values (m : OrderedMap α β) : List β := m.entries.map (·.2)

/-- The value of a key. -/
def get? (m : OrderedMap α β) (a : α) : Option β := m.entries.lookup a

/-- Whether a key has a value. -/
def contains (m : OrderedMap α β) (a : α) : Bool := decide (a ∈ m.keys)

/-- How many keys there are. -/
def size (m : OrderedMap α β) : Nat := m.entries.length

/-- Puts a value in the place of the old one, or at the end. -/
def putEntry (a : α) (b : β) : List (α × β) → List (α × β)
  | [] => [(a, b)]
  | (k, v) :: rest => if k = a then (a, b) :: rest else (k, v) :: putEntry a b rest

theorem map_fst_putEntry (a : α) (b : β) (es : List (α × β)) :
    (putEntry a b es).map (·.1)
      = if a ∈ es.map (·.1) then es.map (·.1) else es.map (·.1) ++ [a] := by
  induction es with
  | nil => simp [putEntry]
  | cons e es ih =>
    obtain ⟨k, v⟩ := e
    by_cases h : k = a
    · simp [putEntry, h]
    · have h' : ¬ a = k := fun e => h e.symm
      simp only [putEntry, h, if_false, List.map_cons, ih, List.mem_cons, h', false_or]
      split <;> simp

/-- Gives a key a value. -/
def insert (m : OrderedMap α β) (a : α) (b : β) : OrderedMap α β where
  entries := putEntry a b m.entries
  nodup := by
    rw [map_fst_putEntry]
    split
    · exact m.nodup
    · rename_i h
      exact nodup_snoc m.nodup h

/-- Gives a key a value unless it has one. -/
def insertNew (m : OrderedMap α β) (a : α) (b : β) : OrderedMap α β :=
  if m.contains a then m else m.insert a b

/-- Takes a key out. -/
def erase (m : OrderedMap α β) (a : α) : OrderedMap α β where
  entries := m.entries.filter fun e => e.1 ≠ a
  nodup := m.nodup.sublist (List.Sublist.map _ List.filter_sublist)

/-- The map of a list of entries, the last value of a key winning. -/
def ofList (es : List (α × β)) : OrderedMap α β :=
  es.foldl (fun m e => m.insert e.1 e.2) empty

/-- The entries that satisfy a test. -/
def filter (m : OrderedMap α β) (p : α → β → Bool) : OrderedMap α β where
  entries := m.entries.filter fun e => p e.1 e.2
  nodup := m.nodup.sublist (List.Sublist.map _ List.filter_sublist)

/-! ## What the operations do to keys and values -/

theorem lookup_putEntry (a k : α) (b : β) (es : List (α × β)) :
    (putEntry a b es).lookup k = if k = a then some b else es.lookup k := by
  induction es with
  | nil =>
    by_cases h : k = a
    · simp [putEntry, h]
    · simp [putEntry, List.lookup_cons, beq_eq_false_iff_ne.mpr h, h]
  | cons e es ih =>
    obtain ⟨x, v⟩ := e
    by_cases hx : x = a
    · subst hx
      by_cases h : k = x
      · simp [putEntry, h]
      · simp [putEntry, List.lookup_cons, h, beq_eq_false_iff_ne.mpr h]
    · by_cases hk : k = x
      · subst hk
        simp [putEntry, hx]
      · simp [putEntry, List.lookup_cons, hx, beq_eq_false_iff_ne.mpr hk, ih]

@[simp] theorem keys_empty : (empty : OrderedMap α β).keys = [] := rfl

@[simp] theorem entries_empty : (empty : OrderedMap α β).entries = [] := rfl

@[simp] theorem get?_empty (a : α) : (empty : OrderedMap α β).get? a = none := rfl

theorem get?_insert (m : OrderedMap α β) (a k : α) (b : β) :
    (m.insert a b).get? k = if k = a then some b else m.get? k :=
  lookup_putEntry a k b m.entries

theorem keys_insert (m : OrderedMap α β) (a : α) (b : β) :
    (m.insert a b).keys = if a ∈ m.keys then m.keys else m.keys ++ [a] :=
  map_fst_putEntry a b m.entries

theorem length_keys (m : OrderedMap α β) : m.keys.length = m.size := by
  rw [keys, List.length_map, size]

theorem length_values (m : OrderedMap α β) : m.values.length = m.size := by
  rw [values, List.length_map, size]

theorem keys_nodup (m : OrderedMap α β) : m.keys.Nodup := m.nodup

/-! ## Entries -/

theorem putEntry_of_notMem {a : α} (b : β) {es : List (α × β)} (h : a ∉ es.map (·.1)) :
    putEntry a b es = es ++ [(a, b)] := by
  induction es with
  | nil => rfl
  | cons e es ih =>
    rw [List.map_cons, List.mem_cons, not_or] at h
    have hne : e.1 ≠ a := fun he => h.1 he.symm
    simp [putEntry, hne, ih h.2]

/-- A new key comes last. -/
theorem entries_insert_of_notMem {m : OrderedMap α β} {a : α} (b : β) (h : a ∉ m.keys) :
    (m.insert a b).entries = m.entries ++ [(a, b)] :=
  putEntry_of_notMem b h

theorem entries_foldl_insert (es : List (α × β)) (m : OrderedMap α β)
    (h : (m.keys ++ es.map (·.1)).Nodup) :
    (es.foldl (fun m e => m.insert e.1 e.2) m).entries = m.entries ++ es := by
  induction es generalizing m with
  | nil => simp
  | cons e es ih =>
    rw [List.map_cons] at h
    have hnew : e.1 ∉ m.keys := by
      intro hmem
      exact (List.nodup_append.mp h).2.2 e.1 hmem e.1 List.mem_cons_self rfl
    have hkeys : (m.insert e.1 e.2).keys = m.keys ++ [e.1] := by
      rw [keys_insert, if_neg hnew]
    rw [List.foldl_cons, ih (m.insert e.1 e.2) (by simpa [hkeys] using h),
      entries_insert_of_notMem e.2 hnew, List.append_assoc, List.singleton_append]

/-- Entries of different keys are kept as they are. -/
theorem entries_ofList {es : List (α × β)} (h : (es.map (·.1)).Nodup) : (ofList es).entries = es :=
  entries_foldl_insert es empty h

theorem get?_foldl_insert_of_notMem {key : α} {es : List (α × β)} (h : ∀ e ∈ es, e.1 ≠ key)
    (m : OrderedMap α β) :
    (es.foldl (fun m e => m.insert e.1 e.2) m).get? key = m.get? key := by
  induction es generalizing m with
  | nil => rfl
  | cons e es ih =>
    obtain ⟨he, hes⟩ := List.forall_mem_cons.mp h
    rw [List.foldl_cons, ih hes, get?_insert, if_neg he.symm]

/-- The last value of a key counts. -/
theorem get?_ofList_last {key : α} {later : List (α × β)} (h : ∀ e ∈ later, e.1 ≠ key)
    (earlier : List (α × β)) (value : β) :
    (ofList (earlier ++ (key, value) :: later)).get? key = some value := by
  rw [ofList, List.foldl_append, List.foldl_cons, get?_foldl_insert_of_notMem h, get?_insert,
    if_pos rfl]

theorem lookup_eq_some_iff_mem {es : List (α × β)} (h : (es.map (·.1)).Nodup) (a : α) (b : β) :
    es.lookup a = some b ↔ (a, b) ∈ es := by
  induction es with
  | nil => simp
  | cons e es ih =>
    obtain ⟨k, v⟩ := e
    rw [List.map_cons, List.nodup_cons] at h
    by_cases hk : a = k
    · subst hk
      have hout : (a, b) ∉ es := by
        intro hmem
        exact h.1 (List.mem_map.mpr ⟨(a, b), hmem, rfl⟩)
      simp [hout, eq_comm]
    · simp [List.lookup_cons, beq_eq_false_iff_ne.mpr hk, hk, ih h.2]

theorem get?_eq_some_iff (m : OrderedMap α β) (a : α) (b : β) :
    m.get? a = some b ↔ (a, b) ∈ m.entries :=
  lookup_eq_some_iff_mem m.nodup a b

theorem mem_keys_iff (m : OrderedMap α β) (a : α) : a ∈ m.keys ↔ ∃ b, m.get? a = some b := by
  simp [keys, get?_eq_some_iff]

theorem get?_of_mem {m : OrderedMap α β} {e : α × β} (h : e ∈ m.entries) :
    m.get? e.1 = some e.2 :=
  (m.get?_eq_some_iff e.1 e.2).mpr h

/-! ## New keys -/

theorem get?_eq_none_iff (m : OrderedMap α β) (a : α) : m.get? a = none ↔ a ∉ m.keys := by
  simp [mem_keys_iff, Option.eq_none_iff_forall_ne_some]

/-- A key that has a value keeps it. -/
theorem get?_insertNew (m : OrderedMap α β) (a k : α) (b : β) :
    (m.insertNew a b).get? k = (m.get? k).or (if k = a then some b else none) := by
  by_cases ha : a ∈ m.keys
  · obtain ⟨old, hold⟩ := (m.mem_keys_iff a).mp ha
    have hsame : m.insertNew a b = m := by simp [insertNew, contains, ha]
    rw [hsame]
    split
    · rename_i hk
      rw [hk, hold, Option.some_or]
    · rw [Option.or_none]
  · have hinsert : m.insertNew a b = m.insert a b := by simp [insertNew, contains, ha]
    rw [hinsert, get?_insert]
    split
    · rename_i hk
      rw [hk, (m.get?_eq_none_iff a).mpr ha, Option.none_or]
    · rw [Option.or_none]

/-- Of several items for one key the first counts, and it counts only if the key is new. -/
theorem get?_foldl_insertNew {ι : Type} (key : ι → α) (value : ι → β) (items : List ι)
    (m : OrderedMap α β) (k : α) :
    (items.foldl (fun m x => m.insertNew (key x) (value x)) m).get? k
      = (m.get? k).or ((items.find? fun x => key x = k).map value) := by
  induction items generalizing m with
  | nil => simp
  | cons x items ih =>
    rw [List.foldl_cons, ih, get?_insertNew, Option.or_assoc]
    by_cases hx : key x = k
    · simp [hx]
    · have hx' : ¬ k = key x := fun heq => hx heq.symm
      simp [hx, hx']

end OrderedMap
end Roster
