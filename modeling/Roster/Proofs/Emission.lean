import Mathlib.Data.List.Basic
import Mathlib.Data.List.Perm.Subperm
import Roster.Round

/-! # What becomes of companions that are handed over

Companions are handed over one by one until the round is cancelled, by the emitter or by someone
else. Each one that is handed over has an *outcome*: it is written, refused, or breaks the emitter.
Everything that a delivery leaves behind can be read off the outcomes.

* `diagnostics_emit`: the reports of the outcomes, and one more if companions are left.
* `entries_emit`: the written ones, in order, when their names differ.
* `account_emit`: a companion that was handed over is written or has an error, never both.
* `errorsOf_emit_eq_nil_iff`: nothing goes wrong exactly when every companion is written.
-/

namespace Roster

/-- The path of a companion that was written. -/
def WriteOutcome.path? : WriteOutcome → Option Path
  | .written path => some path
  | .refused _ => none
  | .crashed _ => none

@[simp] theorem path?_spoiledBy (outcome : WriteOutcome) (message : String) :
    (outcome.spoiledBy message).path? = none := by
  cases outcome <;> rfl

namespace Round

variable {σ : Type} (e : Emitter σ) (d : Delivery)

/-- What becomes of one companion. -/
def outcomeOf (s : Emission σ) (a : Artifact) : WriteOutcome :=
  if d.dryRun then .written (d.output / e.relativePath a) else (e.write s.state a d.output).outcome

/-- What becomes of those companions that are handed over, in order. -/
def outcomes : Emission σ → List Artifact → List WriteOutcome
  | _, [] => []
  | s, a :: rest =>
    if (s.heed d).cancelled then []
    else outcomeOf e d (s.heed d) a :: outcomes (handOver e d (s.heed d) a) rest

/-- The companions that are handed over, each with its outcome. -/
def deliveries (s : Emission σ) (artifacts : List Artifact) : List (Artifact × WriteOutcome) :=
  artifacts.zip (outcomes e d s artifacts)

/-- The companions of a list that were written. -/
def writtenAmong (deliveries : List (Artifact × WriteOutcome)) : List Artifact :=
  deliveries.filterMap fun x => x.2.path?.map fun _ => x.1

variable {e d}

/-! ## One companion -/

@[simp] theorem report_start (state : σ) (cancelled : Bool) :
    (Emission.start state cancelled).report = .none := rfl

@[simp] theorem written_start (state : σ) (cancelled : Bool) :
    (Emission.start state cancelled).written = .empty := rfl

@[simp] theorem report_heed (s : Emission σ) : (s.heed d).report = s.report := rfl

@[simp] theorem written_heed (s : Emission σ) : (s.heed d).written = s.written := rfl

@[simp] theorem state_heed (s : Emission σ) : (s.heed d).state = s.state := rfl

theorem state_handOver (s : Emission σ) (a : Artifact) :
    (handOver e d s a).state
      = if d.dryRun then s.state else (e.write s.state a d.output).state := by
  unfold handOver
  by_cases hdry : d.dryRun = true
  · simp [hdry, Emission.wrote]
  · simp only [hdry, Bool.false_eq_true, if_false]
    cases (e.write s.state a d.output).outcome <;> rfl

theorem diagnostics_handOver (s : Emission σ) (a : Artifact) :
    (handOver e d s a).report.diagnostics
      = s.report.diagnostics ++ (outcomeReport a (outcomeOf e d s a)).diagnostics := by
  unfold handOver outcomeOf
  by_cases hdry : d.dryRun = true
  · simp [hdry, Emission.wrote, outcomeReport]
  · simp only [hdry, Bool.false_eq_true, if_false]
    cases (e.write s.state a d.output).outcome <;> rfl

theorem written_handOver (s : Emission σ) (a : Artifact) :
    (handOver e d s a).written =
      match (outcomeOf e d s a).path? with
      | some path => s.written.insert a.qualifiedName path
      | none => s.written := by
  unfold handOver outcomeOf
  by_cases hdry : d.dryRun = true
  · simp [hdry, Emission.wrote, WriteOutcome.path?]
  · simp only [hdry, Bool.false_eq_true, if_false]
    cases (e.write s.state a d.output).outcome <;> rfl

/-- A companion that was handed over is written or has one error. -/
theorem account_outcome (a : Artifact) (o : WriteOutcome) :
    (errorsOf (outcomeReport a o).diagnostics).length + o.path?.toList.length = 1 := by
  cases o <;> rfl

/-! ## All companions -/

/-- A cancelled round hands nothing over and says how many companions are left. -/
theorem emit_of_cancelled {s : Emission σ} (h : (s.heed d).cancelled = true) (a : Artifact)
    (rest : List Artifact) :
    emit e d s (a :: rest) = (s.heed d).add (cancellation (rest.length + 1)) ∧
      outcomes e d s (a :: rest) = [] ∧ deliveries e d s (a :: rest) = [] := by
  have houtcomes : outcomes e d s (a :: rest) = [] := by
    rw [outcomes, if_pos h]
  refine ⟨?_, houtcomes, ?_⟩
  · rw [emit]
    exact if_pos h
  · rw [deliveries, houtcomes, List.zip_nil_right]

/-- Any other round hands over the next companion and goes on with the rest. -/
theorem emit_of_going {s : Emission σ} (h : (s.heed d).cancelled = false) (a : Artifact)
    (rest : List Artifact) :
    emit e d s (a :: rest) = emit e d (handOver e d (s.heed d) a) rest ∧
      outcomes e d s (a :: rest)
        = outcomeOf e d (s.heed d) a :: outcomes e d (handOver e d (s.heed d) a) rest ∧
      deliveries e d s (a :: rest)
        = (a, outcomeOf e d (s.heed d) a) :: deliveries e d (handOver e d (s.heed d) a) rest := by
  have hgoing : ¬ (s.heed d).cancelled = true := by simp [h]
  have houtcomes : outcomes e d s (a :: rest)
      = outcomeOf e d (s.heed d) a :: outcomes e d (handOver e d (s.heed d) a) rest := by
    rw [outcomes, if_neg hgoing]
  refine ⟨?_, houtcomes, ?_⟩
  · rw [emit]
    exact if_neg hgoing
  · rw [deliveries, houtcomes, List.zip_cons_cons, deliveries]

theorem length_outcomes_le (s : Emission σ) (artifacts : List Artifact) :
    (outcomes e d s artifacts).length ≤ artifacts.length := by
  induction artifacts generalizing s with
  | nil => simp [outcomes]
  | cons a rest ih =>
    cases hcancelled : (s.heed d).cancelled with
    | true =>
      rw [(emit_of_cancelled hcancelled a rest).2.1]
      exact Nat.zero_le _
    | false =>
      rw [(emit_of_going hcancelled a rest).2.1]
      exact Nat.succ_le_succ (ih _)

/-- The reports of the companions that were handed over come in order; if the round is cancelled
before the last one, one more report says how many are left. -/
theorem diagnostics_emit (s : Emission σ) (artifacts : List Artifact) :
    (emit e d s artifacts).report.diagnostics
      = s.report.diagnostics
        ++ (deliveries e d s artifacts).flatMap (fun x => (outcomeReport x.1 x.2).diagnostics)
        ++ if (outcomes e d s artifacts).length < artifacts.length then
            (cancellation (artifacts.length - (outcomes e d s artifacts).length)).diagnostics
          else [] := by
  induction artifacts generalizing s with
  | nil => simp [emit, outcomes, deliveries]
  | cons a rest ih =>
    cases hcancelled : (s.heed d).cancelled with
    | true =>
      obtain ⟨hemit, houtcomes, hdeliveries⟩ := @emit_of_cancelled σ e d s hcancelled a rest
      rw [hemit, houtcomes, hdeliveries]
      simp [Emission.add]
    | false =>
      obtain ⟨hemit, houtcomes, hdeliveries⟩ := @emit_of_going σ e d s hcancelled a rest
      rw [hemit, houtcomes, hdeliveries, ih, diagnostics_handOver]
      simp only [report_heed, List.flatMap_cons, List.length_cons, Nat.add_sub_add_right,
        Nat.succ_lt_succ_iff, List.append_assoc]

/-- The companions that were written are those among the ones handed over, in order. -/
theorem entries_emit (s : Emission σ) (artifacts : List Artifact)
    (h : (s.written.keys ++ artifacts.map (·.qualifiedName)).Nodup) :
    (emit e d s artifacts).written.entries
      = s.written.entries ++ (deliveries e d s artifacts).filterMap
          fun x => x.2.path?.map fun path => (x.1.qualifiedName, path) := by
  induction artifacts generalizing s with
  | nil => simp [emit, deliveries]
  | cons a rest ih =>
    cases hcancelled : (s.heed d).cancelled with
    | true =>
      obtain ⟨hemit, -, hdeliveries⟩ := @emit_of_cancelled σ e d s hcancelled a rest
      rw [hemit, hdeliveries]
      simp [Emission.add]
    | false =>
      obtain ⟨hemit, -, hdeliveries⟩ := @emit_of_going σ e d s hcancelled a rest
      rw [hemit, hdeliveries]
      -- the name is new, so an entry for it goes to the end
      have hnew : a.qualifiedName ∉ s.written.keys := by
        intro hmem
        exact (List.nodup_append.mp h).2.2 _ hmem _ (by simp) rfl
      have hwritten := @written_handOver σ e d (s.heed d) a
      cases hpath : (outcomeOf e d (s.heed d) a).path? with
      | none =>
        simp only [hpath, written_heed] at hwritten
        have hfresh : ((handOver e d (s.heed d) a).written.keys
            ++ rest.map (·.qualifiedName)).Nodup := by
          rw [hwritten]
          exact h.sublist ((List.sublist_cons_self _ _).append_left s.written.keys)
        rw [ih _ hfresh, hwritten, List.filterMap_cons_none (by simp [hpath])]
      | some path =>
        simp only [hpath, written_heed] at hwritten
        have hkeys : (handOver e d (s.heed d) a).written.keys
            = s.written.keys ++ [a.qualifiedName] := by
          rw [hwritten, OrderedMap.keys_insert, if_neg hnew]
        have hfresh : ((handOver e d (s.heed d) a).written.keys
            ++ rest.map (·.qualifiedName)).Nodup := by
          simpa [hkeys] using h
        rw [ih _ hfresh, hwritten, OrderedMap.entries_insert_of_notMem path hnew,
          List.filterMap_cons_some (b := (a.qualifiedName, path)) (by simp [hpath]),
          List.append_assoc, List.singleton_append]

/-! ## Which companions are written -/

theorem length_deliveries (s : Emission σ) (artifacts : List Artifact) :
    (deliveries e d s artifacts).length = (outcomes e d s artifacts).length := by
  rw [deliveries, List.length_zip]
  exact Nat.min_eq_right (length_outcomes_le s artifacts)

/-- Companions are handed over from the first one on. -/
theorem map_fst_deliveries (s : Emission σ) (artifacts : List Artifact) :
    (deliveries e d s artifacts).map (·.1) = artifacts.take (outcomes e d s artifacts).length := by
  induction artifacts generalizing s with
  | nil => rfl
  | cons a rest ih =>
    cases hcancelled : (s.heed d).cancelled with
    | true =>
      obtain ⟨-, houtcomes, hdeliveries⟩ := @emit_of_cancelled σ e d s hcancelled a rest
      rw [houtcomes, hdeliveries]
      rfl
    | false =>
      obtain ⟨-, houtcomes, hdeliveries⟩ := @emit_of_going σ e d s hcancelled a rest
      rw [houtcomes, hdeliveries, List.map_cons, ih, List.length_cons, List.take_succ_cons]

theorem writtenAmong_cons_of_none {x : Artifact × WriteOutcome} (h : x.2.path? = none)
    (rest : List (Artifact × WriteOutcome)) : writtenAmong (x :: rest) = writtenAmong rest :=
  List.filterMap_cons_none (by simp [h])

theorem writtenAmong_cons_of_some {x : Artifact × WriteOutcome} {path : Path}
    (h : x.2.path? = some path) (rest : List (Artifact × WriteOutcome)) :
    writtenAmong (x :: rest) = x.1 :: writtenAmong rest :=
  List.filterMap_cons_some (by simp [h])

theorem writtenAmong_sublist (xs : List (Artifact × WriteOutcome)) :
    (writtenAmong xs).Sublist (xs.map (·.1)) := by
  induction xs with
  | nil => exact List.Sublist.slnil
  | cons x xs ih =>
    rw [List.map_cons]
    cases hpath : x.2.path? with
    | none =>
      rw [writtenAmong_cons_of_none hpath]
      exact ih.cons _
    | some path =>
      rw [writtenAmong_cons_of_some hpath]
      exact ih.cons_cons _

/-- Some of the companions that were handed over are written, in order. -/
theorem writtenAmong_deliveries_sublist (s : Emission σ) (artifacts : List Artifact) :
    (writtenAmong (deliveries e d s artifacts)).Sublist
      (artifacts.take (outcomes e d s artifacts).length) := by
  rw [← map_fst_deliveries]
  exact writtenAmong_sublist _

section Delivery

variable {artifacts : List Artifact} (h : (artifacts.map (·.qualifiedName)).Nodup) (state : σ)
  (cancelled : Bool)

include h

/-- Companions are written under their own names, in order. -/
theorem keys_emit :
    (emit e d (.start state cancelled) artifacts).written.keys
      = (writtenAmong (deliveries e d (.start state cancelled) artifacts)).map
        (·.qualifiedName) := by
  rw [OrderedMap.keys, entries_emit _ _ (by simpa using h), written_start,
    OrderedMap.entries_empty, List.nil_append, writtenAmong, List.map_filterMap, List.map_filterMap]
  simp only [Option.map_map, Function.comp_def]

theorem size_emit :
    (emit e d (.start state cancelled) artifacts).written.size
      = (writtenAmong (deliveries e d (.start state cancelled) artifacts)).length := by
  rw [← OrderedMap.length_keys, keys_emit h, List.length_map]

theorem size_emit_le :
    (emit e d (.start state cancelled) artifacts).written.size
      ≤ (outcomes e d (.start state cancelled) artifacts).length := by
  have hsub := @writtenAmong_deliveries_sublist σ e d (.start state cancelled) artifacts
  rw [size_emit h]
  exact Nat.le_trans hsub.length_le (List.length_take_le _ _)

end Delivery

/-! ## Nothing goes wrong -/

/-- Written companions and errors add up to those that were handed over. -/
theorem account_deliveries (xs : List (Artifact × WriteOutcome)) :
    (errorsOf (xs.flatMap fun x => (outcomeReport x.1 x.2).diagnostics)).length
      + (writtenAmong xs).length = xs.length := by
  induction xs with
  | nil => rfl
  | cons x xs ih =>
    have hone := account_outcome x.1 x.2
    rw [List.flatMap_cons, errorsOf_append, List.length_append, List.length_cons]
    cases hpath : x.2.path? with
    | none =>
      rw [writtenAmong_cons_of_none hpath]
      simp only [hpath, Option.toList_none, List.length_nil] at hone
      omega
    | some path =>
      rw [writtenAmong_cons_of_some hpath, List.length_cons]
      simp only [hpath, Option.toList_some, List.length_singleton] at hone
      omega

section Delivery

variable {artifacts : List Artifact} (h : (artifacts.map (·.qualifiedName)).Nodup) (state : σ)
  (cancelled : Bool)

include h

/-- Written companions and errors add up to those that were handed over, and one more error if
companions are left. -/
theorem account_emit :
    (errorsOf (emit e d (.start state cancelled) artifacts).report.diagnostics).length
      + (emit e d (.start state cancelled) artifacts).written.size
      = (outcomes e d (.start state cancelled) artifacts).length
        + if (outcomes e d (.start state cancelled) artifacts).length < artifacts.length then 1
          else 0 := by
  have hsum := account_deliveries (deliveries e d (.start state cancelled) artifacts)
  rw [length_deliveries] at hsum
  rw [size_emit h, diagnostics_emit]
  simp only [report_start, Report.diagnostics_none, List.nil_append, errorsOf_append,
    List.length_append]
  by_cases hleft : (outcomes e d (.start state cancelled) artifacts).length < artifacts.length
  · simp only [hleft, if_true, cancellation, Report.diagnostics_error, errorsOf_error_cons,
      errorsOf_nil, List.length_singleton]
    omega
  · simp only [hleft, if_false, errorsOf_nil, List.length_nil]
    omega

/-- Nothing goes wrong in a delivery exactly when as many companions are written as there are. -/
theorem errorsOf_emit_eq_nil_iff_size :
    errorsOf (emit e d (.start state cancelled) artifacts).report.diagnostics = [] ↔
      (emit e d (.start state cancelled) artifacts).written.size = artifacts.length := by
  have hsum := @account_emit σ e d artifacts h state cancelled
  have hwritten := @size_emit_le σ e d artifacts h state cancelled
  have hhanded := @length_outcomes_le σ e d (.start state cancelled) artifacts
  rw [← List.length_eq_zero_iff]
  -- with companions left there is an error, and not everything is written
  split at hsum
  · constructor <;> intro hzero <;> omega
  · constructor <;> intro hzero <;> omega

/-- Nothing goes wrong in a delivery exactly when every companion is written. -/
theorem errorsOf_emit_eq_nil_iff :
    errorsOf (emit e d (.start state cancelled) artifacts).report.diagnostics = [] ↔
      ∀ a ∈ artifacts,
        a.qualifiedName ∈ (emit e d (.start state cancelled) artifacts).written.keys := by
  rw [errorsOf_emit_eq_nil_iff_size h, size_emit h, keys_emit h]
  have hsub := (@writtenAmong_deliveries_sublist σ e d (.start state cancelled) artifacts).trans
    (List.take_sublist _ artifacts)
  constructor
  · intro hlength a ha
    rw [hsub.eq_of_length hlength]
    exact List.mem_map_of_mem ha
  · intro hall
    -- different names are all among the written ones, so these are at least as many
    have hsubset : artifacts.map (·.qualifiedName)
        ⊆ (writtenAmong (deliveries e d (.start state cancelled) artifacts)).map
          (·.qualifiedName) := by
      intro name hname
      obtain ⟨a, ha, rfl⟩ := List.mem_map.mp hname
      exact hall a ha
    have hmany := (h.subperm hsubset).length_le
    rw [List.length_map, List.length_map] at hmany
    exact Nat.le_antisymm hsub.length_le hmany

end Delivery

end Round
end Roster
