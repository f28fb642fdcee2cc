import FeatureRunner.Session.Basic
import Mathlib.Data.Nat.Find

/-!
This module contains what a session gets from waiting for a task. The loop asks the watch and the
executor in turn; it ends with the first question that finds the task itself among the ended ones,
whatever other tasks were found before. `waitFor_eq` says what all questions together give.
-/

namespace FeatureRunner

namespace Report

def distinct (found : List Path) : List Path :=
  found.eraseDupsBy fun p q => decide (p.Same q)

theorem isListed_append_singleton (p q : Path) (reports : List Path)
    : isListed q (reports ++ [p]) = (isListed q reports || decide (q.Same p)) := by
  have : decide (p.Same q) = decide (q.Same p) := by
    rw [decide_eq_decide]
    exact ⟨Path.Same.symm, Path.Same.symm⟩
  simp [isListed, this]

theorem recordAll_eq_append (reports found : List Path)
    : recordAll reports found
        =
      reports ++ distinct (found.filter fun p => !isListed p reports) := by
  unfold distinct
  induction found generalizing reports with
  | nil => simp [recordAll]
  | cons p ps ih =>
    have hstep : recordAll reports (p :: ps) = recordAll (record reports p) ps := by rfl
    rw [hstep, ih, record]
    cases hp : isListed p reports with
    | true => simp [hp]
    | false =>
      simp only [Bool.false_eq_true, ↓reduceIte, hp, Bool.not_false, List.filter_cons_of_pos,
        List.eraseDupsBy_cons, List.append_assoc, List.singleton_append, List.filter_filter]
      congr 4
      funext q
      rw [isListed_append_singleton]
      cases isListed q reports <;> simp

theorem recordAll_nil (found : List Path) : recordAll [] found = distinct found := by
  rw [recordAll_eq_append, List.filter_eq_self.2]
  . simp
  . simp [isListed]

end Report

namespace RunState

theorem collect_eq (s : RunState) (found : List Path)
    : s.collect found = { s with reports := Report.recordAll s.reports found } := by
  induction found generalizing s with
  | nil => rfl
  | cons p ps ih => exact ih (s.recordReport p).2

theorem collect_append (s : RunState) (found more : List Path)
    : s.collect (found ++ more) = (s.collect found).collect more := by
  simp [collect]

end RunState

namespace Task

def EndsAt (t : Task) (n : Nat) : Prop :=
  t.handle ∈ t.ended n ∧ ∀ i < n, t.handle ∉ t.ended i

theorem exists_endsAt (t : Task) : ∃ n, t.EndsAt n := by
  have h : ∃ n, t.handle ∈ t.ended n := ⟨t.bound, t.handle_mem_ended⟩
  exact ⟨Nat.find h, Nat.find_spec h, fun i hi => Nat.find_min h hi⟩

theorem EndsAt.unique {t : Task} {m n : Nat} (hm : t.EndsAt m) (hn : t.EndsAt n) : m = n := by
  apply Nat.le_antisymm
  . apply Nat.le_of_not_lt
    intro h
    exact hm.2 n h hn.1
  . apply Nat.le_of_not_lt
    intro h
    exact hn.2 m h hm.1

def found (t : Task) (questions : List Nat) : List Path :=
  questions.flatMap t.reports

def rounds (t : Task) (questions : List Nat) : List Call :=
  questions.flatMap fun i => [.drain (t.reports i), .poll (t.ended i)]

theorem wait.go_eq {t : Task} {n : Nat} (hn : t.EndsAt n) (i : Nat) (h : i ≤ t.bound) (hi : i ≤ n)
    (s : RunState)
    : go t i h s
        =
      { state := s.collect (t.found (List.range' i (n + 1 - i)))
        calls := t.rounds (List.range' i (n + 1 - i))
        asked := n + 1 } := by
  unfold go
  dsimp
  split
  . next hm =>
    have : i = n := by
      apply Nat.le_antisymm hi
      apply Nat.le_of_not_lt
      intro hlt
      exact hn.2 i hlt hm
    subst this
    simp [found, rounds]
  . next hm =>
    -- Only other tasks were found ended, so the answer that ends the loop is still to come.
    have hlt : i < n := by
      apply Nat.lt_of_le_of_ne hi
      rintro rfl
      exact hm hn.1
    have hrange : List.range' i (n + 1 - i) = i :: List.range' (i + 1) (n + 1 - (i + 1)) := by
      rw [← List.range'_succ]
      congr 1
      omega
    rw [wait.go_eq hn (i + 1) _ hlt, hrange]
    simp [found, rounds, RunState.collect_append]
termination_by n - i

theorem wait_eq {t : Task} {n : Nat} (hn : t.EndsAt n) (s : RunState)
    : t.wait s
        =
      { state := s.collect (t.found (List.range (n + 1)))
        calls := t.rounds (List.range (n + 1))
        asked := n + 1 } := by
  unfold wait
  rw [wait.go_eq hn 0 _ (Nat.zero_le n), List.range_eq_range']
  simp

end Task

namespace Session

def pending (s : Session) : Option DebugTarget :=
  s.takeDebugTarget.1

theorem waitFor_eq {t : Task} {n : Nat} (hn : t.EndsAt n) (s : Session)
    : s.waitFor t
        =
      { result := .ok (Report.recordAll s.state.reports (t.found (List.range (n + 2))))
        session :=
          { s with
            state := { s.takeDebugTarget.2.state with isExecuting := false, reports := [] }
            phase := .reconciling }
        calls := .busy true :: s.pending.toList.map .debugReady ++ t.rounds (List.range (n + 1)) ++
          [.drain (t.reports (n + 1)), .dispose, .busy false] } := by
  have hfound : t.found (List.range (n + 2))
      = t.found (List.range (n + 1)) ++ t.reports (n + 1) := by
    simp [Task.found, List.range_succ]
  unfold waitFor
  simp only [Task.wait_eq hn, hfound, RunState.takeReports]
  rw [← RunState.collect_append]
  rw [RunState.collect_eq]
  cases hf : s.state.debugFile with
  | none => simp [RunState.takeDebugTarget, pending, takeDebugTarget, hf]
  | some file =>
    cases hp : s.state.debugPort with
    | none => simp [RunState.takeDebugTarget, pending, takeDebugTarget, hf, hp]
    | some port => simp [RunState.takeDebugTarget, pending, takeDebugTarget, hf, hp]

end Session
end FeatureRunner
