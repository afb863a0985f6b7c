import Roster.Proofs.Companions
import Roster.Proofs.Discovery
import Roster.Proofs.Emission

/-! # When a round succeeds

Success is a statement about diagnostics: none of them is an error. Completeness is a statement about
what the round has made: every source was read, every type that was found has its companion, and
every companion is written. The two are the same.

* `diagnostics_run`: the diagnostics of a round, stage by stage.
* `process_complete_iff`: no error in processing exactly when every type has a companion.
* `success_iff_complete`: success is completeness.
-/

namespace Roster
namespace Round

/-! ## Processing -/

/-- Processing reports no error exactly when every type of the list gets a companion. -/
theorem process_complete_iff (setup : RoundSetup) (schedule : List Nat) (g : TypeGraph)
    {types : List (Option TypeId)} (h : types.Nodup) :
    errorsOf (process setup schedule g types).2.diagnostics = [] ↔
      ∀ type ∈ types, ∃ i ∈ (process setup schedule g types).1.keys, type = some i := by
  have hkeys := @keys_process setup g schedule types h
  have hsum := @length_errorsOf_process setup g schedule types h
  have hsize : (process setup schedule g types).1.size
      = (types.filter (Stands setup g types)).length := by
    rw [← hkeys, List.length_map, OrderedMap.length_keys]
  -- a type has an entry or an error, so counting both is enough
  rw [← List.length_eq_zero_iff]
  constructor
  · intro hnone type hmem
    have hall : types.filter (Stands setup g types) = types :=
      List.filter_sublist.eq_of_length (by omega)
    rw [hall] at hkeys
    rw [← hkeys] at hmem
    obtain ⟨i, hi, rfl⟩ := List.mem_map.mp hmem
    exact ⟨i, hi, rfl⟩
  · intro hall
    have hfilter : types.filter (Stands setup g types) = types := by
      rw [List.filter_eq_self]
      intro type hmem
      obtain ⟨i, hi, rfl⟩ := hall type hmem
      have hstands : some i ∈ types.filter (Stands setup g types) := by
        rw [← hkeys]
        exact List.mem_map_of_mem hi
      exact (List.mem_filter.mp hstands).2
    rw [hfilter] at hsize
    omega

/-! ## Whole rounds -/

section Run

variable {σ : Type} (setup : RoundSetup) (e : Emitter σ) (schedule : List Nat) (g : TypeGraph)
  (state : σ) (d : Delivery)

/-- A round whose sources cannot all be read makes nothing and reports an error. -/
theorem inspect_of_unreadable {t : FileTree} (h : ¬ ∀ source ∈ setup.sources, source.Readable t) :
    (inspect setup schedule t g).1.artifacts = .empty ∧
      errorsOf (inspect setup schedule t g).1.diagnostics ≠ [] := by
  obtain ⟨hnone, herrors⟩ := @discoverFrom_of_unreadable t g setup.sources [] h
  unfold inspect
  rcases hgot : discoverFrom t [] g setup.sources with ⟨h, found, report⟩
  rw [hgot] at hnone herrors
  obtain rfl : found = none := hnone
  exact ⟨rfl, by simpa using herrors⟩

/-- A round whose sources can all be read processes the types that they find, each once. -/
theorem inspect_of_finds {t : FileTree} {h : TypeGraph} {found : List (Option TypeId)}
    (hfinds : Finds t g setup.sources h found) :
    (inspect setup schedule t g).1.graph = h ∧
      (inspect setup schedule t g).1.artifacts = (process setup schedule h found.eraseDups).1 ∧
      errorsOf (inspect setup schedule t g).1.diagnostics
        = errorsOf (process setup schedule h found.eraseDups).2.diagnostics := by
  obtain ⟨hgraph, htypes, herrors⟩ := discoverFrom_of_finds hfinds List.nodup_nil
  unfold inspect
  rcases hgot : discoverFrom t [] g setup.sources with ⟨h', types, report⟩
  rw [hgot] at hgraph htypes herrors
  obtain rfl : h' = h := hgraph
  obtain rfl : types = some found.eraseDups := htypes
  exact ⟨rfl, rfl, by simpa using herrors⟩

theorem result_run :
    (run setup e schedule g state d).1
      = withEmission (inspect setup schedule (e.files state) g).1 (emit e d (.start state false)
          (inspect setup schedule (e.files state) g).1.artifacts.values) := rfl

theorem diagnostics_run :
    (run setup e schedule g state d).1.diagnostics
      = (inspect setup schedule (e.files state) g).1.diagnostics
        ++ (emit e d (.start state false)
          (inspect setup schedule (e.files state) g).1.artifacts.values).report.diagnostics := rfl

theorem artifacts_run :
    (run setup e schedule g state d).1.artifacts
      = (inspect setup schedule (e.files state) g).1.artifacts := rfl

theorem written_run :
    (run setup e schedule g state d).1.written
      = (emit e d (.start state false) (run setup e schedule g state d).1.artifacts.values).written :=
  rfl

/-- The companions of a round have different qualified names. -/
theorem nodup_names_run :
    ((run setup e schedule g state d).1.artifacts.values.map (·.qualifiedName)).Nodup := by
  rw [artifacts_run]
  by_cases hread : ∀ source ∈ setup.sources, source.Readable (e.files state)
  · obtain ⟨h, found, hfinds⟩ := (exists_finds_iff (e.files state) g setup.sources).mpr hread
    rw [(inspect_of_finds setup schedule g hfinds).2.1]
    exact nodup_names_process schedule (nodup_eraseDups found)
  · rw [(inspect_of_unreadable setup schedule g hread).1]
    exact List.nodup_nil

/-- Emission reports no error exactly when every companion of the round is written. -/
theorem emission_complete_iff :
    errorsOf (emit e d (.start state false)
        (run setup e schedule g state d).1.artifacts.values).report.diagnostics = [] ↔
      ∀ a ∈ (run setup e schedule g state d).1.artifacts.values,
        a.qualifiedName ∈ (run setup e schedule g state d).1.written.keys := by
  rw [written_run]
  exact errorsOf_emit_eq_nil_iff (nodup_names_run setup e schedule g state d) state false

theorem success_run_iff :
    (run setup e schedule g state d).1.success = true ↔
      errorsOf (inspect setup schedule (e.files state) g).1.diagnostics = [] ∧
      ∀ a ∈ (run setup e schedule g state d).1.artifacts.values,
        a.qualifiedName ∈ (run setup e schedule g state d).1.written.keys := by
  rw [RoundResult.success, succeeded_iff, diagnostics_run, errorsOf_append, List.append_eq_nil_iff]
  exact and_congr_right fun _ => emission_complete_iff setup e schedule g state d

/-- Nothing goes wrong before emission exactly when every source can be read and every type that
the sources find has a companion. -/
theorem inspect_complete_iff (t : FileTree) :
    errorsOf (inspect setup schedule t g).1.diagnostics = [] ↔
      (∀ source ∈ setup.sources, source.Readable t) ∧
      ∀ found, Finds t g setup.sources (inspect setup schedule t g).1.graph found →
        ∀ type ∈ found, ∃ i ∈ (inspect setup schedule t g).1.artifacts.keys, type = some i := by
  by_cases hread : ∀ source ∈ setup.sources, source.Readable t
  · obtain ⟨h, found, hfinds⟩ := (exists_finds_iff t g setup.sources).mpr hread
    obtain ⟨hgraph, hartifacts, herrors⟩ := inspect_of_finds setup schedule g hfinds
    have hprocess := process_complete_iff setup schedule h (nodup_eraseDups found)
    simp only [List.mem_eraseDups] at hprocess
    rw [herrors, hprocess, hgraph, hartifacts]
    constructor
    · intro hall
      refine ⟨hread, ?_⟩
      intro found' hfinds'
      obtain ⟨-, rfl⟩ := hfinds.unique hfinds'
      exact hall
    · rintro ⟨-, hall⟩
      exact hall found hfinds
  · constructor
    · intro hnone
      exact absurd hnone (inspect_of_unreadable setup schedule g hread).2
    · rintro ⟨hall, -⟩
      exact absurd hall hread

/-- A round that succeeds has as many companions as different types, and writes all of them. -/
theorem sizes_of_success {h : TypeGraph} {found : List (Option TypeId)}
    (hfinds : Finds (e.files state) g setup.sources h found)
    (hsuccess : (run setup e schedule g state d).1.success = true) :
    (run setup e schedule g state d).1.written.size
        = (run setup e schedule g state d).1.artifacts.size ∧
      (run setup e schedule g state d).1.artifacts.size = found.eraseDups.length := by
  obtain ⟨hnone, hwritten⟩ := (success_run_iff setup e schedule g state d).mp hsuccess
  constructor
  · have hemission := (emission_complete_iff setup e schedule g state d).mpr hwritten
    rw [written_run, ← OrderedMap.length_values (run setup e schedule g state d).1.artifacts]
    exact (errorsOf_emit_eq_nil_iff_size (nodup_names_run setup e schedule g state d) state
      false).mp hemission
  · obtain ⟨-, hartifacts, herrors⟩ := inspect_of_finds setup schedule g hfinds
    have hsum := @length_errorsOf_process setup h schedule _ (nodup_eraseDups found)
    rw [← herrors, hnone, ← hartifacts, List.length_nil, Nat.zero_add] at hsum
    exact hsum

end Run

/-- A round succeeds exactly when every source can be read, every type that the sources find has a
companion, and every companion is written under its qualified name; then there are as many written
companions as companions, and as many companions as different types. -/
theorem success_iff_complete {σ : Type} (setup : RoundSetup) (e : Emitter σ)
    (schedule : List Nat) (g : TypeGraph) (state : σ) (d : Delivery) :
    let r := (run setup e schedule g state d).1
    (r.success = true ↔
      (∀ source ∈ setup.sources, source.Readable (e.files state)) ∧
      (∀ found, Finds (e.files state) g setup.sources r.graph found →
        ∀ type ∈ found, ∃ i ∈ r.artifacts.keys, type = some i) ∧
      ∀ a ∈ r.artifacts.values, a.qualifiedName ∈ r.written.keys) ∧
    (∀ h found, Finds (e.files state) g setup.sources h found →
      r.graph = h ∧
      (r.success = true →
        r.written.size = r.artifacts.size ∧ r.artifacts.size = found.eraseDups.length)) := by
  intro r
  constructor
  · have hinspect := inspect_complete_iff setup schedule g (e.files state)
    rw [success_run_iff, hinspect, and_assoc]
    rfl
  · intro h found hfinds
    have hgraph : r.graph = h := (inspect_of_finds setup schedule g hfinds).1
    exact ⟨hgraph, sizes_of_success setup e schedule g state d hfinds⟩

end Round
end Roster
