import Mathlib.Data.List.Basic
import Mathlib.Data.List.Induction
import Mathlib.Data.List.Nodup
import Mathlib.Data.List.Perm.Subperm
import Roster.OrderedMap
import Roster.Proofs.Places
import Roster.Proofs.Splitting

/-! # Trees as file systems have them

In a sound tree every entry lies in a directory, bears a name that a file system allows, and is the only
one at its place. So all that is known of a tree is what it has at which place, every place that is
there can be reached, and making a directory or a file in a directory leaves the tree sound.

* `Sound`: what a file system guarantees.
* `Sound.above`, `Sound.descend`: the way to an entry leads through directories.
* `Sound.put`: a new entry in a directory leaves the tree sound.
* `Sound.ext`: trees with the same entries, told by their places, are the same.
-/

namespace Roster

/-- A name that an entry of a file system can bear. -/
structure Path.IsEntryName (name : String) : Prop extends IsName name where
  notUp : name ≠ ".."
  short : name.utf8ByteSize ≤ 255
  noNul : '\x00' ∉ name.toList

instance : DecidablePred Path.IsEntryName := fun name =>
  decidable_of_iff (Path.IsName name ∧ name ≠ ".." ∧ name.utf8ByteSize ≤ 255 ∧ '\x00' ∉ name.toList)
    ⟨fun ⟨hname, hup, hshort, hnul⟩ => ⟨hname, hup, hshort, hnul⟩,
      fun h => ⟨h.toIsName, h.notUp, h.short, h.noNul⟩⟩

namespace FileTree

/-- A tree as a file system has it. -/
structure Sound (t : FileTree) : Prop where
  keys : (t.entries.map (·.1)).Nodup
  rooted : ∀ e ∈ t.entries, e.1 ≠ []
  names : ∀ e ∈ t.entries, ∀ name ∈ e.1, Path.IsEntryName name
  parents : ∀ e ∈ t.entries, t.get? e.1.dropLast = some .directory
  current : t.get? t.current = some .directory
  home : ∀ name ∈ t.home, Path.IsEntryName name

instance : DecidablePred Sound := fun t =>
  decidable_of_iff ((t.entries.map (·.1)).Nodup ∧ (∀ e ∈ t.entries, e.1 ≠ []) ∧
      (∀ e ∈ t.entries, ∀ name ∈ e.1, Path.IsEntryName name) ∧
      (∀ e ∈ t.entries, t.get? e.1.dropLast = some .directory) ∧
      t.get? t.current = some .directory ∧ ∀ name ∈ t.home, Path.IsEntryName name)
    ⟨fun ⟨hkeys, hrooted, hnames, hparents, hcurrent, hhome⟩ =>
        ⟨hkeys, hrooted, hnames, hparents, hcurrent, hhome⟩,
      fun h => ⟨h.keys, h.rooted, h.names, h.parents, h.current, h.home⟩⟩

variable {t t' : FileTree} {place : Place} {name : String} {names : List String} {e : FileEntry}

/-! ## Entries and places -/

theorem get?_of_ne_nil (t : FileTree) (h : place ≠ []) : t.get? place = t.entries.lookup place := by
  rw [get?, if_neg (by simpa using h)]

theorem get?_eq_some_iff_mem (hkeys : (t.entries.map (·.1)).Nodup) (h : place ≠ []) :
    t.get? place = some e ↔ (place, e) ∈ t.entries := by
  rw [get?_of_ne_nil t h, List.lookup_eq_some_iff]
  constructor
  · rintro ⟨before, after, hentries, -⟩
    simp [hentries]
  · intro hmem
    obtain ⟨before, after, hentries⟩ := List.append_of_mem hmem
    refine ⟨before, after, hentries, fun x hx => ?_⟩
    rw [hentries, List.map_append, List.nodup_append] at hkeys
    simpa using (hkeys.2.2 _ (List.mem_map_of_mem hx) place (by simp)).symm

theorem Sound.get?_eq_some_iff (ht : t.Sound) (h : place ≠ []) :
    t.get? place = some e ↔ (place, e) ∈ t.entries := get?_eq_some_iff_mem ht.keys h

theorem Sound.mem_namesIn_iff (ht : t.Sound) :
    (name, e) ∈ t.namesIn place ↔ t.get? (place ++ [name]) = some e := by
  rw [ht.get?_eq_some_iff (by simp), namesIn, List.mem_filterMap]
  constructor
  · rintro ⟨⟨p, e'⟩, hp, hlast⟩
    dsimp only at hlast
    split at hlast
    · rename_i last hname
      split at hlast
      · rename_i hfront
        obtain ⟨rfl, rfl⟩ := Prod.mk.inj (Option.some.inj hlast)
        rwa [← hfront, List.dropLast_append_getLast? _ hname]
      · contradiction
    · contradiction
  · intro hmem
    exact ⟨_, hmem, by simp⟩

/-! ## The way to an entry -/

/-- What lies in a place lies in a directory. -/
theorem Sound.parent (ht : t.Sound) (h : t.get? (place ++ [name]) = some e) :
    t.get? place = some .directory := by
  have hparent := ht.parents _ ((ht.get?_eq_some_iff (by simp)).mp h)
  rwa [List.dropLast_concat] at hparent

/-- Above an entry there are directories. -/
theorem Sound.above (ht : t.Sound) (h : t.get? (place ++ names) = some e) (hne : names ≠ []) :
    t.get? place = some .directory := by
  induction names using List.reverseRecOn generalizing e with
  | nil => contradiction
  | append_singleton names name ih =>
    rw [← List.append_assoc] at h
    have hparent := ht.parent h
    by_cases hnil : names = []
    · rwa [hnil, List.append_nil] at hparent
    · exact ih hparent hnil

theorem Sound.isEntryName (ht : t.Sound) (h : t.get? place = some e) :
    ∀ name ∈ place, Path.IsEntryName name := by
  by_cases hnil : place = []
  · simp [hnil]
  · exact ht.names _ ((ht.get?_eq_some_iff hnil).mp h)

/-- The names of an entry lead to it. -/
theorem Sound.descend (ht : t.Sound) (h : t.get? (place ++ names) = some e) :
    t.descend place names = .ok (place ++ names) := by
  induction names generalizing place with
  | nil => rw [FileTree.descend, List.append_nil]
  | cons name names ih =>
    have hname := ht.isEntryName h name (by simp)
    rw [FileTree.descend, ht.above h (by simp)]
    simp only [if_neg hname.notUp, if_neg (Nat.not_lt.mpr hname.short)]
    rw [ih (by simpa using h), List.append_assoc, List.singleton_append]

/-- A place lies no deeper than the tree has entries. -/
theorem Sound.length_le (ht : t.Sound) (h : t.get? place = some e) :
    place.length ≤ t.entries.length := by
  -- the places on the way are different entries
  have hnodup : ((List.range place.length).map fun i => place.take (i + 1)).Nodup := by
    refine List.Nodup.map_on ?_ List.nodup_range
    intro i hi j hj hsame
    have hlength := congrArg List.length hsame
    rw [List.mem_range] at hi hj
    simp only [List.length_take] at hlength
    omega
  have hsubset : ((List.range place.length).map fun i => place.take (i + 1))
      ⊆ t.entries.map (·.1) := by
    intro above habove
    obtain ⟨i, hi, rfl⟩ := List.mem_map.mp habove
    rw [List.mem_range] at hi
    have hne : place.take (i + 1) ≠ [] := by
      rw [ne_eq, List.take_eq_nil_iff]
      rintro (hzero | rfl)
      · omega
      · simp at hi
    obtain ⟨e', he'⟩ : ∃ e', t.get? (place.take (i + 1)) = some e' := by
      by_cases hall : place.drop (i + 1) = []
      · rw [List.drop_eq_nil_iff] at hall
        rw [List.take_of_length_le hall]
        exact ⟨e, h⟩
      · rw [← List.take_append_drop (i + 1) place] at h
        exact ⟨_, ht.above h hall⟩
    exact List.mem_map.mpr ⟨_, (ht.get?_eq_some_iff hne).mp he', rfl⟩
  have hlength := (hnodup.subperm hsubset).length_le
  rwa [List.length_map, List.length_range, List.length_map] at hlength

/-! ## New entries -/

theorem putEntry_eq (place : Place) (e : FileEntry) (es : List (Place × FileEntry)) :
    putEntry place e es = OrderedMap.putEntry place e es := by
  induction es with
  | nil => rfl
  | cons first es ih => rw [putEntry, OrderedMap.putEntry, ih]

/-- Putting an entry adds its place at the end unless it is there. -/
theorem keys_put (t : FileTree) (place : Place) (e : FileEntry) :
    (t.put place e).entries.map (·.1)
      = if place ∈ t.entries.map (·.1) then t.entries.map (·.1)
        else t.entries.map (·.1) ++ [place] := by
  simp only [put, putEntry_eq, OrderedMap.map_fst_putEntry]
  congr

theorem mem_entries_put {x : Place × FileEntry} (h : x ∈ (t.put place e).entries) :
    x = (place, e) ∨ x ∈ t.entries := by
  change x ∈ putEntry place e t.entries at h
  generalize t.entries = es at h ⊢
  induction es with
  | nil => exact .inl (List.mem_singleton.mp h)
  | cons first es ih =>
    rw [putEntry] at h
    split at h
    · exact (List.mem_cons.mp h).imp_right (List.mem_cons_of_mem _)
    · rcases List.mem_cons.mp h with rfl | hrest
      · exact .inr List.mem_cons_self
      · exact (ih hrest).imp_right (List.mem_cons_of_mem _)

/-- An entry in a directory leaves a tree sound, unless a file takes the place of a directory. -/
theorem Sound.put (ht : t.Sound) (hparent : t.get? place = some .directory)
    (hname : Path.IsEntryName name)
    (hkeeps : t.get? (place ++ [name]) = some .directory → e = .directory) :
    (t.put (place ++ [name]) e).Sound := by
  have hne : place ++ [name] ≠ [] := by simp
  -- a directory stays one, for no file is put in its place
  have hdirectory : ∀ p, t.get? p = some .directory →
      (t.put (place ++ [name]) e).get? p = some .directory := by
    intro p hp
    rw [get?_put t _ p e hne]
    split
    · rename_i hsame
      rw [hkeeps (hsame ▸ hp)]
    · exact hp
  constructor
  · rw [keys_put]
    split
    · exact ht.keys
    · rename_i hnew
      exact nodup_snoc ht.keys hnew
  · intro x hx
    rcases mem_entries_put hx with rfl | hold
    · exact hne
    · exact ht.rooted x hold
  · intro x hx n hn
    rcases mem_entries_put hx with rfl | hold
    · rcases List.mem_append.mp hn with habove | hlast
      · exact ht.isEntryName hparent n habove
      · rwa [List.mem_singleton.mp hlast]
    · exact ht.names x hold n hn
  · intro x hx
    rcases mem_entries_put hx with rfl | hold
    · rw [List.dropLast_concat]
      exact hdirectory place hparent
    · exact hdirectory _ (ht.parents x hold)
  · exact hdirectory _ ht.current
  · exact ht.home

/-! ## Equal trees -/

attribute [ext] FileTree

/-- Entries are told by their places. -/
theorem entries_eq_map_keys {t : FileTree} (hkeys : (t.entries.map (·.1)).Nodup)
    (hrooted : [] ∉ t.entries.map (·.1)) :
    t.entries = (t.entries.map (·.1)).map fun place => (place, (t.get? place).getD .directory) := by
  rw [List.map_map]
  refine (List.map_id _).symm.trans (List.map_congr_left fun x hx => ?_)
  have hne : x.1 ≠ [] := by
    intro hnil
    exact hrooted (hnil ▸ List.mem_map_of_mem hx)
  simp [(get?_eq_some_iff_mem hkeys hne).mpr hx]

/-- Trees with the same places in the same order and the same content are the same. -/
theorem Sound.ext (ht : t.Sound) (hkeys : t'.entries.map (·.1) = t.entries.map (·.1))
    (hcurrent : t'.current = t.current) (hhome : t'.home = t.home) (hlimits : t'.limits = t.limits)
    (hget : ∀ place, t'.get? place = t.get? place) : t' = t := by
  have hrooted : [] ∉ t.entries.map (·.1) := by
    intro hmem
    obtain ⟨x, hx, hnil⟩ := List.mem_map.mp hmem
    exact ht.rooted x hx hnil
  have hsame : t'.entries = t.entries := by
    rw [entries_eq_map_keys (hkeys ▸ ht.keys) (hkeys ▸ hrooted), entries_eq_map_keys ht.keys hrooted,
      hkeys]
    simp only [hget]
  exact FileTree.ext hsame hcurrent hhome hlimits

end FileTree
end Roster
