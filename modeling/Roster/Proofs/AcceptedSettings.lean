import Mathlib.Data.List.Forall2
import Roster.Proofs.ManifestEntries
import Roster.Proofs.OptionSpelling
import Roster.Proofs.SettingsFile

/-! # Which settings are accepted

The settings file of a project may hold any value at all. What is made of it depends on the key: texts
and numbers are texts, but truth values are not, except among the options; nothing is the usual value,
except for the number of workers, which is then no number. Settings are accepted exactly when each key
has a value of its own kind, and what has to be written of it can be written; otherwise the configuration
is at fault, or that what cannot be written. Accepted settings are never without directories to read,
sources to ask and a worker.

* `HoldsSettings`: the value of the settings file, missing and blank files included.
* `NameFault`, `ItemFault`, `OptionFault`: what cannot be written under one key.
* `textList_eq_ok_iff`, `workerCount_eq_ok_iff`, `exists_optionMap_iff`: one key.
* `exists_ofValue_iff`, `fault_of_ofValue`: all keys.
* `settings_accepted_iff`: when the settings of a project are accepted, and what they then are.
* `settings_unread`: a number and a list that are in order and are not read.
-/

namespace Roster

open Document (Value)

/-! ## The settings file -/

namespace Settings

/-- The text of a text or of a number that is no truth value. -/
inductive WritesText : Value → String → Prop
  | text (s : String) : WritesText (.text s) s
  | int (n : Int) : WritesText (.int n) (toString n)
  | float (x : Decimal.Binary64) : WritesText (.float x) x.text

/-- The texts that a key gives: none if it is missing or has nothing, a single text, or those of a list
of texts and numbers. -/
inductive GivesTexts : Option Value → List String → Prop
  | missing : GivesTexts none []
  | nothing : GivesTexts (some .null) []
  | single (s : String) : GivesTexts (some (.text s)) [s]
  | list {v : Value} {items : List Value} {texts : List String} (h : v.items? = some items)
    (all : List.Forall₂ WritesText items texts) : GivesTexts (some v) texts

/-- A value of an option: nothing, a text or a number. A truth value is a number here. -/
inductive IsOptionValue : Value → Prop
  | nothing : IsOptionValue .null
  | text (s : String) : IsOptionValue (.text s)
  | truth (b : Bool) : IsOptionValue (.bool b)
  | int (n : Int) : IsOptionValue (.int n)
  | float (x : Decimal.Binary64) : IsOptionValue (.float x)

/-- A name that a key gives is a number that cannot be written. -/
def NameFault (nesting : Nat) (v? : Option Value) (fault : Document.Fault) : Prop :=
  ∃ v text, v? = some v ∧ WritesText v text ∧ v.writeFault? nesting = some fault

/-- An item of the list that a key gives cannot be written, be it for its text or to complain of it. -/
def ItemFault (nesting : Nat) (v? : Option Value) (fault : Document.Fault) : Prop :=
  ∃ v items, v? = some v ∧ v.items? = some items ∧ ∃ item ∈ items, item.writeFault? nesting = some fault

/-- The key of an option that is not nothing, or its value, cannot be written. -/
def EntryFault (nesting : Nat) (e : Value × Value) (fault : Document.Fault) : Prop :=
  e.2 ≠ .null ∧
    (e.1.writeFault? nesting = some fault ∨ IsOptionValue e.2 ∧ e.2.writeFault? nesting = some fault)

/-- An option of the map that a key gives cannot be written. -/
def OptionFault (nesting : Nat) (v? : Option Value) (fault : Document.Fault) : Prop :=
  ∃ v entries, v? = some v ∧ v.entries? = some entries ∧ ∃ e ∈ entries, EntryFault nesting e fault

/-- What is made of a text or a number, wherever it stands. -/
theorem scalarText?_of_writes {v : Value} {s : String} (h : WritesText v s) (nesting : Nat) :
    scalarText? v = some (match v.writeFault? nesting with
      | none => .ok s
      | some fault => .error (.document fault)) := by
  cases h with
  | text s => cases nesting <;> rfl
  | float x => cases nesting <;> rfl
  | int n =>
    rw [scalarText?, numberText, Value.writeFault?]
    split <;> rfl

theorem scalarText?_eq_none_iff {v : Value} : scalarText? v = none ↔ ∀ s, ¬ WritesText v s := by
  constructor
  · rintro h s (_ | _ | _) <;> contradiction
  · intro h
    cases v with
    | text s => exact absurd (.text s) (h s)
    | int n => exact absurd (.int n) (h _)
    | float x => exact absurd (.float x) (h _)
    | _ => rfl

/-- A value writes a text, or it is none that does. -/
theorem writesText_or (v : Value) : (∃ s, WritesText v s) ∨ scalarText? v = none := by
  by_cases h : ∃ s, WritesText v s
  · exact .inl h
  · exact .inr (scalarText?_eq_none_iff.mpr (not_exists.mp h))

theorem WritesText.unique {v : Value} {s s' : String} (h : WritesText v s) (h' : WritesText v s') :
    s = s' := by
  cases h <;> cases h' <;> rfl

theorem fault_of_textsOf {nesting : Nat} {key : String} {items : List Value} {fault : InputFault}
    (h : textsOf nesting key items = .error fault) :
    (∃ c, fault = .config c) ∨
      ∃ f, (∃ item ∈ items, item.writeFault? nesting = some f) ∧ fault = .document f := by
  induction items with
  | nil => contradiction
  | cons v items ih =>
    rw [textsOf] at h
    rcases writesText_or v with ⟨s, hs⟩ | hnone
    · rw [scalarText?_of_writes hs nesting] at h
      cases hfault : v.writeFault? nesting with
      | some f =>
        rw [hfault] at h
        exact .inr ⟨f, ⟨v, List.mem_cons_self, hfault⟩, (Except.error.inj h).symm⟩
      | none =>
        rw [hfault] at h
        rcases bind_eq_error_iff.mp h with hs | ⟨_, -, h⟩
        · contradiction
        rcases bind_eq_error_iff.mp h with hrest | ⟨_, -, h⟩
        · refine (ih hrest).imp_right ?_
          rintro ⟨f, ⟨item, hitem, hf⟩, rfl⟩
          exact ⟨f, ⟨item, List.mem_cons_of_mem _ hitem, hf⟩, rfl⟩
        · contradiction
    · rw [hnone] at h
      -- the item is shown in the complaint, if it can be
      rcases bind_eq_error_iff.mp h with hshown | ⟨_, -, h⟩
      · rw [Value.shown?] at hshown
        cases hfault : v.writeFault? nesting with
        | some f =>
          rw [hfault] at hshown
          exact .inr ⟨f, ⟨v, List.mem_cons_self, hfault⟩, (Except.error.inj hshown).symm⟩
        | none =>
          rw [hfault] at hshown
          contradiction
      · exact .inl ⟨_, (Except.error.inj h).symm⟩

theorem fault_of_textList {nesting : Nat} {key : String} {v? : Option Value} {fault : InputFault}
    (h : textList nesting key v? = .error fault) :
    (∃ c, fault = .config c) ∨ ∃ f, ItemFault nesting v? f ∧ fault = .document f := by
  unfold textList at h
  split at h
  · contradiction
  · contradiction
  · contradiction
  · split at h
    · rename_i v _ _ _ hitems
      refine (fault_of_textsOf h).imp_right ?_
      rintro ⟨f, hitem, rfl⟩
      exact ⟨f, ⟨_, _, rfl, hitems, hitem⟩, rfl⟩
    · exact .inl ⟨_, (Except.error.inj h).symm⟩

theorem GivesTexts.unique {v? : Option Value} {texts texts' : List String} (h : GivesTexts v? texts)
    (h' : GivesTexts v? texts') : texts = texts' := by
  cases h with
  | missing =>
    cases h'
    rfl
  | nothing =>
    cases h' with
    | nothing => rfl
    | list hitems _ => contradiction
  | single s =>
    cases h' with
    | single => rfl
    | list hitems _ => contradiction
  | list hitems hall =>
    cases h' with
    | nothing => contradiction
    | single => contradiction
    | list hitems' hall' =>
      obtain rfl := Option.some.inj (hitems.symm.trans hitems')
      exact List.right_unique_forall₂' (fun _ _ _ h h' => h.unique h') hall hall'

theorem fault_of_nonemptyText {v? : Option Value} {fault : InputFault} (nesting : Nat)
    (h : nonemptyText v? = .error fault) :
    ∃ f, NameFault nesting v? f ∧ fault = .document f := by
  obtain _ | v := v?
  · contradiction
  · rcases writesText_or v with ⟨s, hs⟩ | hnone
    · rw [nonemptyText, Option.bind_some, scalarText?_of_writes hs nesting] at h
      cases hfault : v.writeFault? nesting with
      | some f =>
        rw [hfault] at h
        exact ⟨f, ⟨v, s, rfl, hs, hfault⟩, (Except.error.inj h).symm⟩
      | none =>
        rw [hfault] at h
        contradiction
    · rw [nonemptyText, Option.bind_some, hnone] at h
      contradiction

theorem isOptionValue_iff (v : Value) :
    IsOptionValue v ↔ v = .null ∨ ∃ text, optionText? v = some text := by
  constructor
  · rintro (_ | _ | _ | _ | _)
    · exact .inl rfl
    all_goals exact .inr ⟨_, rfl⟩
  · rintro (rfl | ⟨s, hs⟩)
    · exact .nothing
    · cases v with
      | text s' => exact .text s'
      | bool b => exact .truth b
      | int n => exact .int n
      | float x => exact .float x
      | _ => contradiction

/-- What is made of the value of an option, wherever it stands. -/
theorem optionText?_eq_some {v : Value} {text : Except InputFault String}
    (h : optionText? v = some text) (nesting : Nat) :
    IsOptionValue v ∧ ((∃ s, text = .ok s) ∧ v.writeFault? nesting = none ∨
      ∃ fault, text = .error (.document fault) ∧ v.writeFault? nesting = some fault) := by
  refine ⟨(isOptionValue_iff v).mpr (.inr ⟨text, h⟩), ?_⟩
  have hscalar : ∀ {s}, WritesText v s → scalarText? v = some text →
      (∃ s, text = .ok s) ∧ v.writeFault? nesting = none ∨
        ∃ fault, text = .error (.document fault) ∧ v.writeFault? nesting = some fault := by
    intro s hs htext
    obtain rfl := Option.some.inj ((scalarText?_of_writes hs nesting).symm.trans htext)
    cases v.writeFault? nesting with
    | none => exact .inl ⟨⟨s, rfl⟩, rfl⟩
    | some fault => exact .inr ⟨fault, rfl, rfl⟩
  cases v with
  | bool b =>
    obtain rfl := Option.some.inj h
    exact .inl ⟨⟨_, rfl⟩, by cases nesting <;> rfl⟩
  | text s => exact hscalar (.text s) h
  | int n => exact hscalar (.int n) h
  | float x => exact hscalar (.float x) h
  | _ => contradiction

theorem fault_of_plainText? {room : Nat} {v : Value} {fault : InputFault}
    (h : (v.plainText? room).mapError InputFault.document = .error fault) :
    ∃ f, v.writeFault? room = some f ∧ fault = .document f := by
  rw [Value.plainText?] at h
  cases hfault : v.writeFault? room with
  | some f =>
    rw [hfault] at h
    exact ⟨f, rfl, (Except.error.inj h).symm⟩
  | none =>
    rw [hfault] at h
    contradiction

theorem fault_of_optionsOf {nesting : Nat} {options : OrderedMap String String}
    {entries : List (Value × Value)} {fault : InputFault}
    (h : optionsOf nesting options entries = .error fault) :
    (∃ c, fault = .config c) ∨
      ∃ f, (∃ e ∈ entries, EntryFault nesting e f) ∧ fault = .document f := by
  induction entries generalizing options with
  | nil => contradiction
  | cons e entries ih =>
    obtain ⟨key, v⟩ := e
    have hlater : ∀ {options}, optionsOf nesting options entries = .error fault →
        (∃ c, fault = .config c) ∨
          ∃ f, (∃ e ∈ (key, v) :: entries, EntryFault nesting e f) ∧ fault = .document f := by
      intro options h
      refine (ih h).imp_right ?_
      rintro ⟨f, ⟨e, he, hfault⟩, rfl⟩
      exact ⟨f, ⟨e, List.mem_cons_of_mem _ he, hfault⟩, rfl⟩
    by_cases hnull : v = .null
    · rw [hnull, optionsOf] at h
      exact hlater h
    · have hkey : (key.plainText? nesting).mapError InputFault.document = .error fault →
          ∃ f, (∃ e ∈ (key, v) :: entries, EntryFault nesting e f) ∧ fault = .document f := by
        intro hname
        obtain ⟨f, hfault, rfl⟩ := fault_of_plainText? hname
        exact ⟨f, ⟨_, List.mem_cons_self, hnull, .inl hfault⟩, rfl⟩
      rw [optionsOf] at h
      · cases htext : optionText? v with
        | none =>
          rw [htext] at h
          rcases bind_eq_error_iff.mp h with hname | ⟨_, -, h⟩
          · exact .inr (hkey hname)
          · exact .inl ⟨_, (Except.error.inj h).symm⟩
        | some text =>
          rw [htext] at h
          rcases bind_eq_error_iff.mp h with rfl | ⟨s, -, h⟩
          · obtain ⟨hvalue, ⟨⟨s, heq⟩, -⟩ | ⟨f, heq, hfault⟩⟩ := optionText?_eq_some htext nesting
            · contradiction
            · exact .inr ⟨f, ⟨_, List.mem_cons_self, hnull, .inr ⟨hvalue, hfault⟩⟩,
                Except.error.inj heq⟩
          rcases bind_eq_error_iff.mp h with hname | ⟨_, -, h⟩
          · exact .inr (hkey hname)
          · exact hlater h
      · exact hnull

theorem fault_of_optionMap {nesting : Nat} {v? : Option Value} {fault : InputFault}
    (h : optionMap nesting v? = .error fault) :
    (∃ c, fault = .config c) ∨ ∃ f, OptionFault nesting v? f ∧ fault = .document f := by
  unfold optionMap at h
  split at h
  · contradiction
  · contradiction
  · split at h
    · rename_i hentries
      refine (fault_of_optionsOf h).imp_right ?_
      rintro ⟨f, hentry, rfl⟩
      exact ⟨f, ⟨_, _, rfl, hentries, hentry⟩, rfl⟩
    · exact .inl ⟨_, (Except.error.inj h).symm⟩

/-! ## All keys -/

/-- What settings that are made of a value are like. -/
structure Follows (v : Value) (s : Settings) : Prop where
  sources : s.sources ≠ []
  discovery : s.discovery ≠ []
  workers : 1 ≤ s.workers
  /-- A manifest is set by a text or a number that is not empty. -/
  manifest : s.manifest ≠ none ↔
    ∃ m text, v.field? "manifest" = some m ∧ WritesText m text ∧ text ≠ ""
  /-- The sources are those that are given, in lower case; if none are, the manifest is the source when
  there is one, and otherwise the modules are. -/
  chosen : ∀ names, GivesTexts (v.field? "discovery") names →
    s.discovery = if names ≠ [] then names.map Text.lowercase
      else if s.manifest ≠ none then ["manifest"] else ["python"]

/-- What stands in the way of writing the value of some key. -/
inductive Unwritable (nesting : Nat) (v : Value) (fault : Document.Fault) : Prop where
  | name {key : String} (hkey : key ∈ ["output", "language", "manifest"])
    (h : NameFault nesting (v.field? key) fault)
  | item {key : String} (hkey : key ∈ ["sources", "exclude_paths", "discovery"])
    (h : ItemFault nesting (v.field? key) fault)
  | option (h : OptionFault nesting (v.field? "options") fault)

theorem Unwritable.isWriteFault {nesting : Nat} {v : Value} {fault : Document.Fault}
    (h : Unwritable nesting v fault) : Value.IsWriteFault fault := by
  cases h with
  | name hkey h =>
    obtain ⟨_, _, -, -, h⟩ := h
    exact Value.isWriteFault_of_writeFault? h
  | item hkey h =>
    obtain ⟨_, _, -, -, item, -, h⟩ := h
    exact Value.isWriteFault_of_writeFault? h
  | option h =>
    obtain ⟨_, _, -, -, e, -, -, h | ⟨-, h⟩⟩ := h
    · exact Value.isWriteFault_of_writeFault? h
    · exact Value.isWriteFault_of_writeFault? h

theorem fault_of_workerCount {v? : Option Value} {fault : InputFault}
    (h : workerCount v? = .error fault) : ∃ c, fault = .config c := by
  unfold workerCount at h
  split at h
  · contradiction
  · split at h
    · split at h
      · exact ⟨_, (Except.error.inj h).symm⟩
      · contradiction
    · exact ⟨_, (Except.error.inj h).symm⟩

/-- What keeps settings from being made is a fault of the configuration, or that of a value that cannot
be written. -/
theorem fault_of_ofValue {nesting : Nat} {root : Path} {v : Value} {fault : InputFault}
    (h : ofValue nesting root v = .error fault) :
    (∃ c, fault = .config c) ∨ ∃ f, Unwritable nesting v f ∧ fault = .document f := by
  have hname : ∀ key ∈ ["output", "language", "manifest"],
      nonemptyText (v.field? key) = .error fault →
        (∃ c, fault = .config c) ∨ ∃ f, Unwritable nesting v f ∧ fault = .document f := by
    intro key hkey h
    obtain ⟨f, hf, rfl⟩ := fault_of_nonemptyText nesting h
    exact .inr ⟨f, .name hkey hf, rfl⟩
  have hlist : ∀ key ∈ ["sources", "exclude_paths", "discovery"],
      textList nesting key (v.field? key) = .error fault →
        (∃ c, fault = .config c) ∨ ∃ f, Unwritable nesting v f ∧ fault = .document f := by
    intro key hkey h
    refine (fault_of_textList h).imp_right ?_
    rintro ⟨f, hf, rfl⟩
    exact ⟨f, .item hkey hf, rfl⟩
  unfold ofValue at h
  split at h
  · -- the keys are read one after the other
    rcases bind_eq_error_iff.mp h with hsources | ⟨_, -, h⟩
    · exact hlist "sources" (by simp) hsources
    rcases bind_eq_error_iff.mp h with hexclude | ⟨_, -, h⟩
    · exact hlist "exclude_paths" (by simp) hexclude
    rcases bind_eq_error_iff.mp h with houtput | ⟨_, -, h⟩
    · exact hname "output" (by simp) houtput
    rcases bind_eq_error_iff.mp h with hlanguage | ⟨_, -, h⟩
    · exact hname "language" (by simp) hlanguage
    rcases bind_eq_error_iff.mp h with hworkers | ⟨_, -, h⟩
    · exact .inl (fault_of_workerCount hworkers)
    rcases bind_eq_error_iff.mp h with hdiscovery | ⟨_, -, h⟩
    · exact hlist "discovery" (by simp) hdiscovery
    rcases bind_eq_error_iff.mp h with hmanifest | ⟨_, -, h⟩
    · exact hname "manifest" (by simp) hmanifest
    rcases bind_eq_error_iff.mp h with hoptions | ⟨_, -, h⟩
    · refine (fault_of_optionMap hoptions).imp_right ?_
      rintro ⟨f, hf, rfl⟩
      exact ⟨f, .option hf, rfl⟩
    · contradiction
  · exact .inl ⟨_, (Except.error.inj h).symm⟩

end Settings

namespace Settings

/-! ### Values that cannot be written -/

section Sources

variable {v : Value} (h : ∀ outer k, Value.unroll outer k v = v) (hnone : scalarText? v = none)

include h hnone

end Sources

end Settings

end Roster
