import FeatureRunner.Session.State

/-!
This module contains what a session sees of a started task: the reports found between one question
and the next, and the tasks that each question finds ended. Some question finds the task itself;
`Task.wait` asks until one does.
-/

namespace FeatureRunner

/-- A started task, as the answers to all questions that can be asked about it. -/
structure Task where
  handle : TaskHandle
  /-- The reports that the watch has for its question number `i`, counted from zero. -/
  reports : Nat → List Path
  /-- The tasks that the executor has for its question number `i`, counted from zero. -/
  ended : Nat → List TaskHandle
  /-- A question by which the task has ended. -/
  bound : Nat
  handle_mem_ended : handle ∈ ended bound

/-- What waiting for a task gives. -/
structure Wait where
  state : RunState
  calls : List Call
  /-- How often the watch was asked for reports. -/
  asked : Nat

namespace Task

theorem lt_bound (t : Task) {i : Nat} (h : i ≤ t.bound) (hm : t.handle ∉ t.ended i)
    : i < t.bound := by
  apply Nat.lt_of_le_of_ne h
  rintro rfl
  exact hm t.handle_mem_ended

/-- Asks for new reports and for ended tasks in turn until the task itself has ended. -/
def wait (t : Task) (s : RunState) : Wait :=
  go 0 (Nat.zero_le _) s
where
  /-- The wait from question number `i` on. -/
  go (i : Nat) (h : i ≤ t.bound) (s : RunState) : Wait :=
    let s := s.collect (t.reports i)
    let asked := [Call.drain (t.reports i), .poll (t.ended i)]
    if hm : t.handle ∈ t.ended i then
      ⟨s, asked, i + 1⟩
    else
      have hlt := t.lt_bound h hm
      let rest := go (i + 1) hlt s
      { rest with calls := asked ++ rest.calls }
  termination_by t.bound - i

end Task
end FeatureRunner
