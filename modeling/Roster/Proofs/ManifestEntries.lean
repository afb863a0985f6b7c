import Mathlib.Data.List.Nodup
import Mathlib.Data.List.TakeWhile
import Roster.Manifest

/-! # What a manifest says

A manifest is read in two passes: the entries one after the other, then the names that they extend.
Here its meaning is told from the value alone: the shape of an entry, the name that it bears, the
fields that it lists and the entry that it extends. Reading accepts the manifests of that shape whose
kinds can be written as texts and no others, and the graph that it builds is the one that the manifest
tells, whichever way its references point.

* `Shaped`, `Accepted`: the manifests that are read.
* `Unwritable`: what keeps the kind of an entry from being written.
* `readEntries_eq_ok_iff`, `dangling?_eq_none_iff`: the two passes.
* `ofValue_eq_ok_iff`: what is accepted, and what it gives.
* `above?_discoveryOf`: following pointers is following the extended names.
* `manifest_read_as_told`: all of this for a value.
-/

namespace Roster

theorem bind_eq_ok_iff {ε α β : Type} {x : Except ε α} {next : α → Except ε β} {b : β} :
    x >>= next = .ok b ↔ ∃ a, x = .ok a ∧ next a = .ok b := by
  cases x with
  | error fault =>
    constructor
    · intro h
      contradiction
    · rintro ⟨a, ha, -⟩
      contradiction
  | ok a =>
    constructor
    · intro h
      exact ⟨a, rfl, h⟩
    · rintro ⟨a', ha, h⟩
      cases ha
      exact h

theorem bind_eq_error_iff {ε α β : Type} {x : Except ε α} {next : α → Except ε β} {fault : ε} :
    x >>= next = .error fault ↔ x = .error fault ∨ ∃ a, x = .ok a ∧ next a = .error fault := by
  cases x with
  | error other => simp [bind, Except.bind]
  | ok a => simp [bind, Except.bind]

/-- A text is blank from end to end exactly when nothing is left of it without its blanks. -/
theorem Text.trimmed_eq_empty_iff (s : String) :
    trimmed s = "" ↔ ∀ c ∈ s.toList, isBlank c = true := by
  have hempty : trimmed s = "" ↔ stripBlanks s.toList = [] := by
    rw [trimmed, ← String.toList_inj, String.toList_ofList]
    rfl
  rw [hempty, stripBlanks, List.reverse_eq_nil_iff, List.dropWhile_eq_nil_iff]
  simp only [List.mem_reverse]
  constructor
  · intro hall c hc
    by_cases hleft : c ∈ s.toList.dropWhile isBlank
    · exact hall c hleft
    · -- a character that is dropped is blank
      rw [← List.takeWhile_append_dropWhile (p := isBlank) (l := s.toList), List.mem_append] at hc
      exact List.mem_takeWhile_imp (hc.resolve_right hleft)
  · intro hall c hc
    exact hall c ((List.dropWhile_sublist isBlank).mem hc)

namespace Manifest

open Document (Value)

/-! ## Entries as they are written -/

/-- The name that an entry bears, without the blanks around it. -/
def nameIn (e : Value) : String :=
  match e.field? "name" with
  | some (.text s) => Text.trimmed s
  | _ => ""

/-- The package that an entry gives, or else the one of its name. -/
def packageIn (e : Value) : String :=
  match e.field? "package" with
  | some (.text s) => s
  | _ => withoutLastPart (nameIn e)

/-- The fields that an entry lists; what is no text is no name. -/
def fieldsIn (e : Value) : List (Option String) :=
  match e.field? "fields" with
  | some (.seq items) => ((Value.seq items).items?.getD []).map text?
  | _ => []

/-- The name that an entry extends. -/
def extendsIn? (e : Value) : Option String :=
  match e.field? "extends" with
  | some (.text s) => some s
  | _ => none

/-- The kind that an entry gives, as a text. -/
def kindIn (e : Value) : String :=
  match (e.field? "kind").filter Value.truthy with
  | none => classKind
  | some v => v.plainText

/-- An entry as it is read. -/
def entryOf (e : Value) : Entry where
  name := nameIn e
  package := packageIn e
  fields := fieldsIn e
  extends? := extendsIn? e
  kind := kindIn e
  fieldable := isFieldable (e.field? "fieldable")

/-- A value is nothing or a text. -/
def IsTextOrNull (v : Value) : Prop := v = .null ∨ ∃ s, v = .text s

/-- The shape of an entry that can be read by itself. -/
structure Shaped (e : Value) : Prop where
  isMap : ∃ entries, e = .map entries
  named : ∃ s, e.field? "name" = some (.text s) ∧ ∃ c ∈ s.toList, Text.isBlank c = false
  package : ∀ v, e.field? "package" = some v → IsTextOrNull v
  fields : ∀ v, e.field? "fields" = some v → v.truthy = true → ∃ items, v = .seq items
  parent : ∀ v, e.field? "extends" = some v → IsTextOrNull v

/-- A value is a map that lists items under `types`. -/
def Lists (v : Value) (items : List Value) : Prop :=
  (∃ entries, v = .map entries) ∧ ∃ list, v.field? "types" = some list ∧ list.items? = some items

/-- A manifest that can be read: every entry has its shape, no two bear one name, and what an entry
extends is the name of an entry before it, behind it, or of itself. -/
structure Accepted (v : Value) (items : List Value) : Prop where
  lists : Lists v items
  shaped : ∀ e ∈ items, Shaped e
  distinct : (items.map nameIn).Nodup
  declared : ∀ e ∈ items, ∀ parent, e.field? "extends" = some (.text parent) →
    ∃ above ∈ items, nameIn above = parent

/-- What keeps the kind of an entry from being written, where collections can be nested `nesting`
deep. -/
def kindFault? (nesting : Nat) (e : Value) : Option Document.Fault :=
  ((e.field? "kind").filter Value.truthy).bind (Value.writeFault? nesting)

/-- What keeps the kind of some entry of a manifest from being written. -/
inductive Unwritable (nesting : Nat) (v : Value) (fault : Document.Fault) : Prop where
  | kind {items : List Value} {e : Value} (lists : Lists v items) (he : e ∈ items)
      (h : kindFault? nesting e = some fault)

/-- Where an entry leads by following a number of extended names. -/
inductive Leads (items : List Value) : Nat → TypeId → TypeId → Prop where
  | here {i : TypeId} (h : i < items.length) : Leads items 0 i i
  | up {steps : Nat} {i j k : TypeId} {e above : Value} (he : items[i]? = some e)
      (habove : items[j]? = some above) (hextends : e.field? "extends" = some (.text (nameIn above)))
      (rest : Leads items steps j k) : Leads items (steps + 1) i k

/-! ## The parts of an entry -/

theorem packageOf_eq_ok_iff {e : Value} {package : String} :
    packageOf (nameIn e) (e.field? "package") = .ok package ↔
      (∀ v, e.field? "package" = some v → IsTextOrNull v) ∧ packageIn e = package := by
  unfold packageIn
  rcases hgiven : e.field? "package" with _ | v
  · simp [packageOf, given]
  · cases v <;> simp [packageOf, given, IsTextOrNull]

theorem extendsOf_eq_ok_iff {e : Value} {name : String} {parent? : Option String} :
    extendsOf name (e.field? "extends") = .ok parent? ↔
      (∀ v, e.field? "extends" = some v → IsTextOrNull v) ∧ extendsIn? e = parent? := by
  unfold extendsIn?
  rcases hgiven : e.field? "extends" with _ | v
  · simp [extendsOf, given]
  · cases v <;> simp [extendsOf, given, IsTextOrNull]

theorem fieldsOf_of_truthy {name : String} {v : Value} (h : v.truthy = true) :
    fieldsOf name (some v)
      = match v.items? with
        | some items => .ok (items.map text?)
        | none => .error (.config (.fieldsNotList name)) := by
  cases hitems : v.items? <;> simp [fieldsOf, Option.filter, h, hitems]

theorem fieldsOf_of_not_truthy {name : String} {v : Value} (h : ¬ v.truthy = true) :
    fieldsOf name (some v) = .ok [] := by
  rw [fieldsOf, Option.filter, if_neg h]

theorem fieldsOf_eq_ok_iff {e : Value} {name : String} {fields : List (Option String)} :
    fieldsOf name (e.field? "fields") = .ok fields ↔
      (∀ v, e.field? "fields" = some v → v.truthy = true → ∃ items, v = .seq items) ∧
        fieldsIn e = fields := by
  unfold fieldsIn
  rcases hgiven : e.field? "fields" with _ | v
  · simp [fieldsOf]
  · by_cases htruthy : v.truthy = true
    · rw [fieldsOf_of_truthy htruthy]
      cases v <;> simp [htruthy, Value.items?]
    · rw [fieldsOf_of_not_truthy htruthy]
      cases v with
      | seq items =>
        -- a list that counts as false has no items
        obtain rfl : items = [] := by simpa [Value.truthy] using htruthy
        simp [Value.items?, Value.unrollItems]
      | _ => simp [htruthy]

theorem nameIn_eq {e : Value} {s : String} (h : e.field? "name" = some (.text s)) :
    nameIn e = Text.trimmed s := by
  rw [nameIn, h]

/-- A text has something left without its blanks exactly when it has a character that is none. -/
theorem trimmed_ne_empty_iff (s : String) :
    Text.trimmed s ≠ "" ↔ ∃ c ∈ s.toList, Text.isBlank c = false := by
  rw [ne_eq, Text.trimmed_eq_empty_iff]
  simp

theorem kindOf_eq (nesting : Nat) (e : Value) :
    kindOf nesting (e.field? "kind")
      = match kindFault? nesting e with
        | some fault => .error (.document fault)
        | none => .ok (kindIn e) := by
  unfold kindOf kindFault? kindIn
  cases (e.field? "kind").filter Value.truthy with
  | none => rfl
  | some kind =>
    simp only [Value.plainText?, Option.bind_some]
    cases kind.writeFault? nesting <;> rfl

theorem kindOf_eq_ok_iff {nesting : Nat} {e : Value} {kind : String} :
    kindOf nesting (e.field? "kind") = .ok kind ↔ kindFault? nesting e = none ∧ kindIn e = kind := by
  rw [kindOf_eq]
  cases kindFault? nesting e <;> simp

theorem kindOf_eq_error_iff {nesting : Nat} {e : Value} {fault : InputFault} :
    kindOf nesting (e.field? "kind") = .error fault ↔
      ∃ f, kindFault? nesting e = some f ∧ fault = .document f := by
  rw [kindOf_eq]
  cases kindFault? nesting e <;> simp [eq_comm]

/-- Only a map with a text for a name is read as an entry. -/
theorem named_of_readEntry {nesting : Nat} {known : List String} {index : Nat} {e : Value}
    {entry : Entry} (h : readEntry nesting known index e = .ok entry) :
    ∃ entries s, e = .map entries ∧ e.field? "name" = some (.text s) := by
  cases e with
  | map entries =>
    rcases hgiven : (Value.map entries).field? "name" with _ | v
    · rw [readEntry, hgiven] at h
      contradiction
    · cases v with
      | text s => exact ⟨entries, s, rfl, rfl⟩
      | _ =>
        rw [readEntry, hgiven] at h
        contradiction
  | _ => contradiction

/-- What is left to ask of a map with a text for a name. -/
theorem readEntry_of_named {entries : List (Value × Value)} {s : String}
    (h : (Value.map entries).field? "name" = some (.text s)) (nesting : Nat) (known : List String)
    (index : Nat) :
    let e := Value.map entries
    readEntry nesting known index e
      = if nameIn e = "" then .error (.config (.entryWithoutName index))
        else if nameIn e ∈ known then .error (.config (.declaredTwice (nameIn e)))
        else packageOf (nameIn e) (e.field? "package") >>= fun package =>
          fieldsOf (nameIn e) (e.field? "fields") >>= fun fields =>
          extendsOf (nameIn e) (e.field? "extends") >>= fun parent? =>
          kindOf nesting (e.field? "kind") >>= fun kind =>
          .ok ⟨nameIn e, package, fields, parent?, kind, isFieldable (e.field? "fieldable")⟩ := by
  intro e
  rw [nameIn_eq h, readEntry, h]
  rfl

/-- One entry is read exactly when it has its shape, its kind can be written and no entry before it
bears its name. -/
theorem readEntry_eq_ok_iff {nesting : Nat} {known : List String} {index : Nat} {e : Value}
    {entry : Entry} :
    readEntry nesting known index e = .ok entry ↔
      (Shaped e ∧ kindFault? nesting e = none) ∧ nameIn e ∉ known ∧ entryOf e = entry := by
  constructor
  · intro h
    obtain ⟨entries, s, rfl, hname⟩ := named_of_readEntry h
    rw [readEntry_of_named hname] at h
    split at h
    · contradiction
    rename_i hblank
    split at h
    · contradiction
    rename_i hfresh
    simp only [bind_eq_ok_iff, packageOf_eq_ok_iff, fieldsOf_eq_ok_iff, extendsOf_eq_ok_iff,
      kindOf_eq_ok_iff] at h
    obtain ⟨_, ⟨hpackage, rfl⟩, _, ⟨hfields, rfl⟩, _, ⟨hparent, rfl⟩, _, ⟨hkind, rfl⟩, hentry⟩ := h
    rw [nameIn_eq hname] at hblank
    refine ⟨⟨⟨⟨entries, rfl⟩, ⟨s, hname, ?_⟩, hpackage, hfields, hparent⟩, hkind⟩, hfresh,
      Except.ok.inj hentry⟩
    exact (trimmed_ne_empty_iff s).mp hblank
  · rintro ⟨⟨⟨⟨entries, rfl⟩, ⟨s, hname, hblank⟩, hpackage, hfields, hparent⟩, hkind⟩, hfresh, rfl⟩
    have hne : nameIn (.map entries) ≠ "" := by
      rw [nameIn_eq hname]
      exact (trimmed_ne_empty_iff s).mpr hblank
    rw [readEntry_of_named hname, if_neg hne, if_neg hfresh]
    simp only [bind_eq_ok_iff, packageOf_eq_ok_iff, fieldsOf_eq_ok_iff, extendsOf_eq_ok_iff,
      kindOf_eq_ok_iff]
    exact ⟨_, ⟨hpackage, rfl⟩, _, ⟨hfields, rfl⟩, _, ⟨hparent, rfl⟩, _, ⟨hkind, rfl⟩, rfl⟩

/-! ### Faults -/

theorem fault_of_packageOf {name : String} {v? : Option Value} {fault : InputFault}
    (h : packageOf name v? = .error fault) : ∃ c, fault = .config c := by
  unfold packageOf at h
  split at h
  · contradiction
  · contradiction
  · exact ⟨_, (Except.error.inj h).symm⟩

theorem fault_of_fieldsOf {name : String} {v? : Option Value} {fault : InputFault}
    (h : fieldsOf name v? = .error fault) : ∃ c, fault = .config c := by
  unfold fieldsOf at h
  split at h
  · contradiction
  · split at h
    · contradiction
    · exact ⟨_, (Except.error.inj h).symm⟩

theorem fault_of_extendsOf {name : String} {v? : Option Value} {fault : InputFault}
    (h : extendsOf name v? = .error fault) : ∃ c, fault = .config c := by
  unfold extendsOf at h
  split at h
  · contradiction
  · contradiction
  · exact ⟨_, (Except.error.inj h).symm⟩

/-- What keeps an entry from being read is a fault of the configuration, or that of its kind. -/
theorem fault_of_readEntry {nesting : Nat} {known : List String} {index : Nat} {e : Value}
    {fault : InputFault} (h : readEntry nesting known index e = .error fault) :
    (∃ c, fault = .config c) ∨ ∃ f, kindFault? nesting e = some f ∧ fault = .document f := by
  have hconfig : ∀ {c : ConfigFault}, InputFault.config c = fault → ∃ c, fault = .config c :=
    fun hc => ⟨_, hc.symm⟩
  unfold readEntry at h
  split at h
  · split at h
    · exact .inl (hconfig (Except.error.inj h))
    · split at h
      · exact .inl (hconfig (Except.error.inj h))
      · split at h
        · exact .inl (hconfig (Except.error.inj h))
        · -- the parts of the entry are read one after the other, its kind last
          rcases bind_eq_error_iff.mp h with hpackage | ⟨_, -, h⟩
          · exact .inl (fault_of_packageOf hpackage)
          rcases bind_eq_error_iff.mp h with hfields | ⟨_, -, h⟩
          · exact .inl (fault_of_fieldsOf hfields)
          rcases bind_eq_error_iff.mp h with hparent | ⟨_, -, h⟩
          · exact .inl (fault_of_extendsOf hparent)
          rcases bind_eq_error_iff.mp h with hkind | ⟨_, -, h⟩
          · exact .inr (kindOf_eq_error_iff.mp hkind)
          · contradiction
  · exact .inl (hconfig (Except.error.inj h))

/-! ## The first pass -/

/-- Entries are read exactly when each has its shape and a kind that can be written, and bears a name of
its own, which no known entry bears either. -/
theorem readEntries_eq_ok_iff {nesting : Nat} {known : List String} {index : Nat} {items : List Value}
    {entries : List Entry} :
    readEntries nesting known index items = .ok entries ↔
      (∀ e ∈ items, Shaped e ∧ kindFault? nesting e = none) ∧ (items.map nameIn).Nodup ∧
        (∀ e ∈ items, nameIn e ∉ known) ∧ items.map entryOf = entries := by
  induction items generalizing known index entries with
  | nil => simp [readEntries]
  | cons e rest ih =>
    simp only [readEntries, bind_eq_ok_iff, readEntry_eq_ok_iff, ih, List.forall_mem_cons,
      List.map_cons, List.nodup_cons]
    constructor
    · rintro ⟨_, ⟨hshaped, hfresh, rfl⟩, _, ⟨hrest, hdistinct, hothers, rfl⟩, hentries⟩
      refine ⟨⟨hshaped, hrest⟩, ⟨?_, hdistinct⟩, ⟨hfresh, ?_⟩, Except.ok.inj hentries⟩
      · -- the first name is among the known ones when the rest is read
        intro hagain
        obtain ⟨other, hother, hsame⟩ := List.mem_map.mp hagain
        refine hothers other hother ?_
        rw [hsame]
        exact List.mem_cons_self
      · intro other hother hknown
        exact hothers other hother (List.mem_cons_of_mem _ hknown)
    · rintro ⟨⟨hshaped, hrest⟩, ⟨hnew, hdistinct⟩, ⟨hfresh, hothers⟩, hentries⟩
      refine ⟨_, ⟨hshaped, hfresh, rfl⟩, _, ⟨hrest, hdistinct, ?_, rfl⟩, congrArg _ hentries⟩
      intro other hother hknown
      rcases List.mem_cons.mp hknown with hsame | hknown
      · refine hnew ?_
        rw [← show nameIn other = nameIn e from hsame]
        exact List.mem_map_of_mem hother
      · exact hothers other hother hknown

theorem fault_of_readEntries {nesting : Nat} {known : List String} {index : Nat} {items : List Value}
    {fault : InputFault} (h : readEntries nesting known index items = .error fault) :
    (∃ c, fault = .config c) ∨
      ∃ e ∈ items, ∃ f, kindFault? nesting e = some f ∧ fault = .document f := by
  induction items generalizing known index with
  | nil => contradiction
  | cons e rest ih =>
    rcases bind_eq_error_iff.mp h with hentry | ⟨entry, -, h⟩
    · exact (fault_of_readEntry hentry).imp_right fun hkind => ⟨e, List.mem_cons_self, hkind⟩
    rcases bind_eq_error_iff.mp h with hrest | ⟨_, -, h⟩
    · refine (ih hrest).imp_right ?_
      rintro ⟨other, hother, hkind⟩
      exact ⟨other, List.mem_cons_of_mem _ hother, hkind⟩
    · contradiction

/-! ## The second pass -/

theorem placeOf_isNone_iff {entries : List Entry} {name : String} :
    (placeOf entries name).isNone = true ↔ name ∉ entries.map (·.name) := by
  rw [placeOf, Option.isNone_iff_eq_none, List.findIdx?_eq_none_iff]
  simp only [List.mem_map, decide_eq_false_iff_not, not_exists, not_and]

theorem dangling?_eq_none_iff {entries : List Entry} :
    dangling? entries = none ↔
      ∀ entry ∈ entries, ∀ parent, entry.extends? = some parent →
        parent ∈ entries.map (·.name) := by
  rw [dangling?, List.findSome?_eq_none_iff]
  refine forall₂_congr fun entry _ => ?_
  cases entry.extends? with
  | none => simp
  | some parent =>
    by_cases hplace : (placeOf entries parent).isNone = true
    · simpa [hplace] using placeOf_isNone_iff.mp hplace
    · simpa [hplace] using not_imp_comm.mp placeOf_isNone_iff.mpr hplace

theorem extendsIn?_eq_some_iff {e : Value} {parent : String} :
    extendsIn? e = some parent ↔ e.field? "extends" = some (.text parent) := by
  unfold extendsIn?
  split <;> simp_all

/-- A manifest lists one list of items. -/
theorem Lists.unique {v : Value} {items others : List Value} (h : Lists v items)
    (h' : Lists v others) : items = others := by
  obtain ⟨-, list, hlist, hitems⟩ := h
  obtain ⟨-, list', hlist', hothers⟩ := h'
  obtain rfl : list = list' := Option.some.inj (hlist.symm.trans hlist')
  exact Option.some.inj (hitems.symm.trans hothers)

/-- A value is accepted exactly when it lists entries of their shape, what they extend is there and
their kinds can be written; it gives the graph of the entries. -/
theorem ofValue_eq_ok_iff {nesting : Nat} {origin : Option String} {v : Value} {d : Discovery} :
    ofValue nesting origin v = .ok d ↔
      ∃ items, (Accepted v items ∧ ∀ fault, ¬ Unwritable nesting v fault) ∧
        discoveryOf (items.map entryOf) (origin.filter (· ≠ "")) = d := by
  constructor
  · intro h
    unfold ofValue at h
    dsimp only at h
    split at h
    · rename_i entries items hitems
      obtain ⟨list, hlist, hitems⟩ := Option.bind_eq_some_iff.mp hitems
      have hlists : Lists (.map entries) items := ⟨⟨entries, rfl⟩, list, hlist, hitems⟩
      obtain ⟨_, hread, h⟩ := bind_eq_ok_iff.mp h
      obtain ⟨hshaped, hdistinct, -, rfl⟩ := readEntries_eq_ok_iff.mp hread
      cases hdangling : dangling? (items.map entryOf) with
      | some entry =>
        rw [hdangling] at h
        contradiction
      | none =>
        rw [hdangling] at h
        refine ⟨items, ⟨⟨hlists, fun e he => (hshaped e he).1, hdistinct, ?_⟩, ?_⟩,
          Except.ok.inj h⟩
        · -- no entry dangles, so each one that is named is declared
          intro e he parent hparent
          have hthere := dangling?_eq_none_iff.mp hdangling (entryOf e)
            (List.mem_map_of_mem he) parent (extendsIn?_eq_some_iff.mpr hparent)
          simpa [entryOf] using hthere
        · rintro fault ⟨hlists', he, hfault⟩
          obtain rfl := hlists'.unique hlists
          rw [(hshaped _ he).2] at hfault
          contradiction
    · contradiction
  · rintro ⟨items, ⟨⟨hlists, hshaped, hdistinct, hdeclared⟩, hwritable⟩, rfl⟩
    have hkinds : ∀ e ∈ items, kindFault? nesting e = none := by
      intro e he
      by_contra hne
      obtain ⟨fault, hfault⟩ := Option.ne_none_iff_exists'.mp hne
      exact hwritable fault ⟨hlists, he, hfault⟩
    have hread : readEntries nesting [] 0 items = .ok (items.map entryOf) :=
      readEntries_eq_ok_iff.mpr ⟨fun e he => ⟨hshaped e he, hkinds e he⟩, hdistinct, by simp, rfl⟩
    have hdangling : dangling? (items.map entryOf) = none := by
      rw [dangling?_eq_none_iff, List.forall_mem_map]
      intro e he parent hparent
      obtain ⟨above, habove, hname⟩ := hdeclared e he parent (extendsIn?_eq_some_iff.mp hparent)
      rw [← hname, List.map_map]
      exact List.mem_map_of_mem habove
    obtain ⟨⟨entries, rfl⟩, list, hlist, hitems⟩ := hlists
    simp only [ofValue, hlist, Option.bind_some, hitems, hread]
    exact bind_eq_ok_iff.mpr ⟨items.map entryOf, rfl, by rw [hdangling]⟩

theorem Unwritable.isWriteFault {nesting : Nat} {v : Value} {fault : Document.Fault}
    (h : Unwritable nesting v fault) : Value.IsWriteFault fault := by
  obtain ⟨-, -, hkind⟩ := h
  obtain ⟨kind, -, hfault⟩ := Option.bind_eq_some_iff.mp hkind
  exact Value.isWriteFault_of_writeFault? hfault

/-- What keeps a value from being read as a manifest is a fault of the configuration, or that of a
kind. -/
theorem fault_of_ofValue {nesting : Nat} {origin : Option String} {v : Value} {fault : InputFault}
    (h : ofValue nesting origin v = .error fault) :
    (∃ c, fault = .config c) ∨ ∃ f, Unwritable nesting v f ∧ fault = .document f := by
  unfold ofValue at h
  dsimp only at h
  split at h
  · rename_i entries items hitems
    obtain ⟨list, hlist, hitems⟩ := Option.bind_eq_some_iff.mp hitems
    rcases bind_eq_error_iff.mp h with hread | ⟨_, -, h⟩
    · refine (fault_of_readEntries hread).imp_right ?_
      rintro ⟨e, he, f, hf, rfl⟩
      exact ⟨f, ⟨⟨⟨entries, rfl⟩, list, hlist, hitems⟩, he, hf⟩, rfl⟩
    · split at h
      · exact .inl ⟨_, (Except.error.inj h).symm⟩
      · contradiction
  · exact .inl ⟨_, (Except.error.inj h).symm⟩

/-! ## The graph -/

section Graph

variable {v : Value} {items : List Value} {origin : Option String}

theorem get?_discoveryOf (entries : List Entry) (i : TypeId) :
    (discoveryOf entries origin).graph.get? i
      = entries[i]?.map fun entry => entry.descriptor entries origin i := by
  simp only [discoveryOf, TypeGraph.get?, TypeGraph.ofList, List.getElem?_toArray,
    List.getElem?_map, List.getElem?_zipIdx, Option.map_map, Nat.zero_add]
  rfl

/-- The own name of a type of a manifest is the last part of its qualified name. -/
theorem simpleName_of_ofValue {nesting : Nat} {d : Discovery} (h : ofValue nesting origin v = .ok d)
    {i : TypeId} {t : TypeDescriptor} (ht : d.graph.get? i = some t) :
    t.simpleName = lastPart t.qualifiedName := by
  obtain ⟨items, -, rfl⟩ := ofValue_eq_ok_iff.mp h
  rw [get?_discoveryOf] at ht
  obtain ⟨entry, -, rfl⟩ := Option.map_eq_some_iff.mp ht
  rfl

theorem size_discoveryOf (entries : List Entry) :
    (discoveryOf entries origin).graph.size = entries.length := by
  simp [discoveryOf, TypeGraph.size, TypeGraph.ofList]

/-- Where names are not repeated, the place of a name is that of the one entry that bears it. -/
theorem placeOf_eq_some_iff {entries : List Entry} (h : (entries.map (·.name)).Nodup)
    {name : String} {j : TypeId} :
    placeOf entries name = some j ↔ ∃ entry, entries[j]? = some entry ∧ entry.name = name := by
  have hname : ∀ {i : TypeId} {entry : Entry}, entries[i]? = some entry →
      (entries.map (·.name))[i]? = some entry.name := by
    intro i entry hentry
    rw [List.getElem?_map, hentry]
    rfl
  rw [placeOf, List.findIdx?_eq_some_iff_getElem]
  constructor
  · rintro ⟨hj, hfound, -⟩
    exact ⟨entries[j], List.getElem?_eq_getElem hj, by simpa using hfound⟩
  · rintro ⟨entry, hentry, rfl⟩
    obtain ⟨hj, rfl⟩ := List.getElem?_eq_some_iff.mp hentry
    refine ⟨hj, by simp, ?_⟩
    intro i hij hsame
    have hi : i < entries.length := by omega
    have hfirst := hname (List.getElem?_eq_getElem hi)
    rw [show entries[i].name = entries[j].name by simpa using hsame, ← hname hentry] at hfirst
    have hi' : i < (entries.map (·.name)).length := by simpa using hi
    have heq : i = j := (List.getElem?_inj hi' h).mp hfirst
    omega

theorem map_name_entryOf (items : List Value) :
    (items.map entryOf).map (·.name) = items.map nameIn := by
  rw [List.map_map]
  rfl

/-- One pointer is one extended name. -/
theorem ancestor?_discoveryOf (h : Accepted v items) {i j : TypeId} :
    (discoveryOf (items.map entryOf) origin).graph.ancestor? i = some j ↔
      ∃ e above, items[i]? = some e ∧ items[j]? = some above ∧
        e.field? "extends" = some (.text (nameIn above)) := by
  -- names are distinct, so a name tells the place of its entry
  have hdistinct : ((items.map entryOf).map (·.name)).Nodup := by
    rw [map_name_entryOf]
    exact h.distinct
  rw [TypeGraph.ancestor?, get?_discoveryOf, size_discoveryOf, List.getElem?_map]
  constructor
  · intro hup
    obtain ⟨t, ht, hup⟩ := Option.bind_eq_some_iff.mp hup
    obtain ⟨hpointer, -⟩ := Option.filter_eq_some_iff.mp hup
    obtain ⟨entry, hentry, rfl⟩ := Option.map_eq_some_iff.mp ht
    obtain ⟨e, he, rfl⟩ := Option.map_eq_some_iff.mp hentry
    obtain ⟨parent, hparent, hplace⟩ := Option.bind_eq_some_iff.mp hpointer
    obtain ⟨entry', hentry', hname⟩ := (placeOf_eq_some_iff hdistinct).mp hplace
    rw [List.getElem?_map] at hentry'
    obtain ⟨above, habove, rfl⟩ := Option.map_eq_some_iff.mp hentry'
    refine ⟨e, above, he, habove, ?_⟩
    rw [extendsIn?_eq_some_iff.mp hparent]
    exact congrArg _ (congrArg _ hname.symm)
  · rintro ⟨e, above, he, habove, hextends⟩
    have hplace : placeOf (items.map entryOf) (nameIn above) = some j :=
      (placeOf_eq_some_iff hdistinct).mpr
        ⟨entryOf above, by rw [List.getElem?_map, habove]; rfl, rfl⟩
    have hinside : j < (items.map entryOf).length := by
      rw [List.length_map]
      exact (List.getElem?_eq_some_iff.mp habove).1
    have hpointer : ((entryOf e).descriptor (items.map entryOf) origin i).ancestor = some j := by
      change (extendsIn? e).bind (placeOf (items.map entryOf)) = some j
      rw [extendsIn?_eq_some_iff.mpr hextends, Option.bind_some, hplace]
    rw [he]
    change (((entryOf e).descriptor (items.map entryOf) origin i).ancestor.filter _) = some j
    rw [hpointer, Option.filter_some, if_pos (by simpa using hinside)]

/-- Following pointers leads where following extended names leads, by induction on the steps. -/
theorem above?_discoveryOf (h : Accepted v items) {steps : Nat} {i k : TypeId}
    (hi : i < items.length) :
    (discoveryOf (items.map entryOf) origin).graph.above? steps i = some k ↔
      Leads items steps i k := by
  induction steps generalizing i with
  | zero =>
    constructor
    · intro hsame
      obtain rfl : i = k := Option.some.inj hsame
      exact .here hi
    · intro hleads
      cases hleads
      rfl
  | succ steps ih =>
    rw [TypeGraph.above?, Option.bind_eq_some_iff]
    constructor
    · rintro ⟨j, hup, hrest⟩
      obtain ⟨e, above, he, habove, hextends⟩ := (ancestor?_discoveryOf h).mp hup
      have hj := (List.getElem?_eq_some_iff.mp habove).1
      exact .up he habove hextends ((ih hj).mp hrest)
    · intro hleads
      cases hleads with
      | up he habove hextends hrest =>
        have hj := (List.getElem?_eq_some_iff.mp habove).1
        exact ⟨_, (ancestor?_discoveryOf h).mpr ⟨_, _, he, habove, hextends⟩, (ih hj).mpr hrest⟩

/-! ## The types that get companions -/

theorem isFieldable_iff {v? : Option Value} :
    isFieldable v? = true ↔ v? ≠ some (.bool false) := by
  unfold isFieldable
  split
  · simp
  · rename_i hother
    simpa using hother

theorem mem_found_discoveryOf {i : TypeId} :
    i ∈ (discoveryOf (items.map entryOf) origin).found ↔
      ∃ e, items[i]? = some e ∧ e.field? "fieldable" ≠ some (.bool false) := by
  simp only [discoveryOf, List.mem_map, List.mem_filter, Prod.exists, exists_eq_right,
    List.mem_zipIdx_iff_getElem?, List.getElem?_map, Option.map_eq_some_iff]
  constructor
  · rintro ⟨_, ⟨e, he, rfl⟩, hfieldable⟩
    exact ⟨e, he, isFieldable_iff.mp hfieldable⟩
  · rintro ⟨e, he, hfieldable⟩
    exact ⟨_, ⟨e, he, rfl⟩, isFieldable_iff.mpr hfieldable⟩

/-- The types are found in the order of their entries. -/
theorem pairwise_found_discoveryOf (entries : List Entry) :
    (discoveryOf entries origin).found.Pairwise (· < ·) := by
  have hplaces : (entries.zipIdx.map (·.2)).Pairwise (· < ·) := by
    rw [List.zipIdx_map_snd]
    exact List.pairwise_lt_range'
  refine hplaces.sublist ?_
  exact List.filter_sublist.map _

end Graph

/-! ## The whole manifest -/

/-- A value is read as a manifest exactly when it is a map that lists entries of their shape under
`types`, no two of them bear one name, every name that is extended is borne by one of them, and the kinds
that they give can be written as texts. Otherwise the configuration is at fault, unless there is a kind
that cannot be written; then the fault may be that of the kind. Of a value that is read, the types that
are found are the entries that are not plainly said to need no companion, in their order; each entry has
its name and its fields in the graph; and from a type that is found, any number of pointers leads exactly
where as many extended names lead. -/
theorem manifest_read_as_told (nesting : Nat) (origin : Option String) (v : Value) :
    ((∃ d, ofValue nesting origin v = .ok d) ↔
      (∃ items, Accepted v items) ∧ ∀ f, ¬ Unwritable nesting v f) ∧
    (∀ fault, ofValue nesting origin v = .error fault →
      (∃ c, fault = .config c) ∨
        ∃ f, Unwritable nesting v f ∧ Value.IsWriteFault f ∧ fault = .document f) ∧
    ∀ d items, ofValue nesting origin v = .ok d → Lists v items →
      d.found.Pairwise (· < ·) ∧
      (∀ i, i ∈ d.found ↔
        ∃ e, items[i]? = some e ∧ e.field? "fieldable" ≠ some (.bool false)) ∧
      (∀ i e, items[i]? = some e → ∃ t, d.graph.get? i = some t ∧
        t.qualifiedName = nameIn e ∧ t.declaredFields = fieldsIn e) ∧
      ∀ i ∈ d.found, ∀ steps k, d.graph.above? steps i = some k ↔ Leads items steps i k := by
  refine ⟨?_, ?_, ?_⟩
  · constructor
    · rintro ⟨d, hd⟩
      obtain ⟨items, ⟨haccepted, hwritable⟩, -⟩ := ofValue_eq_ok_iff.mp hd
      exact ⟨⟨items, haccepted⟩, hwritable⟩
    · rintro ⟨⟨items, haccepted⟩, hwritable⟩
      exact ⟨_, ofValue_eq_ok_iff.mpr ⟨items, ⟨haccepted, hwritable⟩, rfl⟩⟩
  · intro fault hfault
    refine (fault_of_ofValue hfault).imp_right ?_
    rintro ⟨f, hunwritable, rfl⟩
    exact ⟨f, hunwritable, hunwritable.isWriteFault, rfl⟩
  · intro d items hd hlists
    obtain ⟨items', ⟨haccepted, -⟩, rfl⟩ := ofValue_eq_ok_iff.mp hd
    -- the list of items is the one that was read
    obtain rfl := haccepted.lists.unique hlists
    refine ⟨pairwise_found_discoveryOf _, fun i => mem_found_discoveryOf, ?_, ?_⟩
    · intro i e he
      exact ⟨_, by rw [get?_discoveryOf, List.getElem?_map, he]; rfl, rfl, rfl⟩
    · intro i hi steps k
      obtain ⟨e, he, -⟩ := mem_found_discoveryOf.mp hi
      exact above?_discoveryOf haccepted (List.getElem?_eq_some_iff.mp he).1

/-- Two entries that extend each other. The first has blanks around its name and a field that is no
text, and the second needs no companion. -/
def crossedEntries : List Value :=
  [.map [(.text "name", .text " a.B "), (.text "extends", .text "c.D"),
      (.text "fields", .seq [.text "x", .null])],
    .map [(.text "name", .text "c.D"), (.text "extends", .text "a.B"),
      (.text "fieldable", .bool false)]]

/-- The manifest of these entries. -/
def crossedTypes : Value := .map [(.text "types", .seq crossedEntries)]

theorem crossedTypes_read :
    ∃ d, ofValue Limits.ample.nesting none crossedTypes = .ok d ∧
      Lists crossedTypes crossedEntries ∧ d.found = [0] ∧
      (∃ t, d.graph.get? 0 = some t ∧ t.qualifiedName = "a.B" ∧ t.declaredFields = [some "x", none]) ∧
      ∀ steps k, d.graph.above? steps 0 = some k ↔ Leads crossedEntries steps 0 k := by
  have hread : ofValue Limits.ample.nesting none crossedTypes
      = .ok (discoveryOf (crossedEntries.map entryOf) none) := by rfl
  have hlists : Lists crossedTypes crossedEntries := ⟨⟨_, rfl⟩, _, rfl, rfl⟩
  obtain ⟨-, -, htypes, habove⟩ :=
    (manifest_read_as_told Limits.ample.nesting none crossedTypes).2.2 _ crossedEntries hread hlists
  exact ⟨_, hread, hlists, rfl, htypes 0 _ rfl, habove 0 (List.mem_singleton.mpr rfl)⟩

/-! ### Kinds that cannot be written -/

/-- An entry with a kind. -/
def kindEntry (kind : Value) : Value := .map [(.text "name", .text "a.B"), (.text "kind", kind)]

/-- A manifest of that entry alone. -/
def kindTypes (kind : Value) : Value := .map [(.text "types", .seq [kindEntry kind])]

/-- A list that is nested in this many others. -/
def nestedList : Nat → Value
  | 0 => .seq []
  | depth + 1 => .seq [nestedList depth]

theorem unroll_nestedList (outer : Value) (depth k : Nat) :
    Value.unroll outer k (nestedList depth) = nestedList depth := by
  induction depth generalizing k with
  | zero => rfl
  | succ depth ih => simp only [nestedList, Value.unroll, Value.unrollItems, ih]

theorem writeFault?_nestedList (room more : Nat) :
    (nestedList (room + more)).writeFault? room = some (.exhausted .deepValue) := by
  induction room with
  | zero => cases more <;> rfl
  | succ room ih =>
    rw [Nat.succ_add, nestedList, Value.writeFault?, Value.writeFaultItems?, ih, Option.some_or]

section Kinds

variable {kind : Value} (h : ∀ outer k, Value.unroll outer k kind = kind)

include h

theorem field?_kindEntry (key : String) :
    (kindEntry kind).field? key = if "name" = key then some (.text "a.B")
      else if "kind" = key then some kind else none := by
  simp only [Value.field?, Value.entries?, kindEntry, Value.unrollEntries, Value.unroll, h,
    Option.bind_some, Value.lookup, Value.sameKey, decide_eq_true_eq]

theorem items?_kindTypes :
    ((kindTypes kind).field? "types").bind Value.items? = some [kindEntry kind] := by
  simp only [Value.field?, Value.entries?, kindTypes, kindEntry, Value.unrollEntries, Value.unroll,
    Value.unrollItems, h, Option.bind_some, Value.lookup, Value.sameKey, decide_true, if_true,
    Value.items?]

/-- The kind of an entry is no part of its shape. -/
theorem accepted_kindTypes : Accepted (kindTypes kind) [kindEntry kind] where
  lists := by
    obtain ⟨list, hlist, hitems⟩ := Option.bind_eq_some_iff.mp (items?_kindTypes h)
    exact ⟨⟨_, rfl⟩, list, hlist, hitems⟩
  shaped := by
    refine List.forall_mem_singleton.mpr ⟨⟨_, rfl⟩, ⟨"a.B", ?_, 'a', by decide⟩, ?_, ?_, ?_⟩
    all_goals simp [field?_kindEntry h]
  distinct := List.nodup_singleton _
  declared := by
    refine List.forall_mem_singleton.mpr fun parent hparent => ?_
    simp [field?_kindEntry h] at hparent

/-- A kind that cannot be written keeps the manifest from being read. -/
theorem ofValue_kindTypes {nesting : Nat} {fault : Document.Fault} (hcounts : kind.truthy = true)
    (hfault : kind.writeFault? nesting = some fault) :
    ofValue nesting none (kindTypes kind) = .error (.document fault) := by
  have hname := field?_kindEntry h "name"
  have hkind : kindOf nesting ((kindEntry kind).field? "kind") = .error (.document fault) := by
    refine kindOf_eq_error_iff.mpr ⟨fault, ?_, rfl⟩
    rw [kindFault?, field?_kindEntry h]
    simpa [Option.filter, hcounts] using hfault
  have hentry : readEntry nesting [] 0 (kindEntry kind) = .error (.document fault) := by
    rw [kindEntry, readEntry_of_named hname, ← kindEntry, nameIn, hname, hkind]
    simp only [field?_kindEntry h]
    rfl
  have hitems := items?_kindTypes h
  unfold ofValue
  rw [hitems]
  simp only [kindTypes, readEntries, hentry, bind, Except.bind]

end Kinds

/-- A number of 4817 digits and a list of 2401 brackets are kinds of entries that are in order, and they
cannot be written. -/
theorem kindTypes_unread :
    (∃ items, Accepted (kindTypes (.int (Nat.pow 16 4000))) items) ∧
      ofValue Limits.ample.nesting none (kindTypes (.int (Nat.pow 16 4000)))
        = .error (.document .longNumber) ∧
      (∃ items, Accepted (kindTypes (nestedList 2400)) items) ∧
      ofValue Limits.ample.nesting none (kindTypes (nestedList 2400))
        = .error (.document (.exhausted .deepValue)) := by
  have hlong : (Value.int (Nat.pow 16 4000)).writeFault? 950 = some .longNumber := by
    have hwritable : Text.isWritable (Nat.pow 16 4000) = false := by decide +kernel
    rw [Value.writeFault?, hwritable]
    rfl
  have hdeep := writeFault?_nestedList 950 1450
  refine ⟨⟨_, accepted_kindTypes fun _ _ => rfl⟩, ofValue_kindTypes (fun _ _ => rfl) ?_ hlong,
    ⟨_, accepted_kindTypes fun outer k => unroll_nestedList outer 2400 k⟩,
    ofValue_kindTypes (fun outer k => unroll_nestedList outer 2400 k) rfl hdeep⟩
  decide +kernel

end Manifest
end Roster
