import Roster.Log

/-! # Worker pools

Tasks that several workers carry out. Each task has a result and reports records while it runs. The
results come in the order of the tasks, whichever worker finishes first; the records of different
tasks may come in any order that keeps each task's own.

* `interleave_perm`: a schedule only changes the order of the records.
-/

namespace Roster

/-- Takes the first record of the task with this number. -/
def takeRecord : Nat → List Log → Option (LogRecord × List Log)
  | _, [] => none
  | 0, [] :: _ => none
  | 0, (r :: log) :: logs => some (r, log :: logs)
  | n + 1, log :: logs => (takeRecord n logs).map fun (r, logs) => (r, log :: logs)

/-- The records of tasks in the order of a schedule, which gives for each next record the number of
its task; what the schedule leaves comes in the order of the tasks. -/
def interleave : (schedule : List Nat) → List Log → Log
  | [], logs => logs.flatten
  | n :: schedule, logs =>
    match takeRecord n logs with
    | some (r, logs) => r :: interleave schedule logs
    | none => interleave schedule logs

/-- Whether a pool is worth it. -/
def runsInPool (workers tasks : Nat) : Bool := 1 < workers && 1 < tasks

/-- The results of tasks in their order, and the records: a single worker takes the tasks in order. -/
def runTasks {α β : Type} (workers : Nat) (schedule : List Nat) (task : α → β × Log)
    (tasks : List α) : List β × Log :=
  let done := tasks.map task
  (done.map (·.1),
    interleave (if runsInPool workers tasks.length then schedule else []) (done.map (·.2)))

theorem takeRecord_perm {n : Nat} {logs rest : List Log} {r : LogRecord}
    (h : takeRecord n logs = some (r, rest)) : logs.flatten.Perm (r :: rest.flatten) := by
  induction logs generalizing n rest with
  | nil => cases n <;> simp [takeRecord] at h
  | cons log logs ih =>
    match n, log with
    | 0, [] => simp [takeRecord] at h
    | 0, x :: log =>
      simp only [takeRecord, Option.some.injEq, Prod.mk.injEq] at h
      obtain ⟨rfl, rfl⟩ := h
      simp
    | n + 1, log =>
      simp only [takeRecord, Option.map_eq_some_iff, Prod.exists, Prod.mk.injEq] at h
      obtain ⟨x, more, h, rfl, rfl⟩ := h
      have := ih h
      simp only [List.flatten_cons]
      exact ((List.Perm.append_left log this).trans List.perm_middle)

theorem interleave_perm (schedule : List Nat) (logs : List Log) :
    (interleave schedule logs).Perm logs.flatten := by
  induction schedule generalizing logs with
  | nil => exact .refl _
  | cons n schedule ih =>
    unfold interleave
    split
    · rename_i r rest h
      exact ((ih rest).cons r).trans (takeRecord_perm h).symm
    · exact ih logs

end Roster
