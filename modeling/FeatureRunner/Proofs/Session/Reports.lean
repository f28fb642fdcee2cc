import FeatureRunner.Proofs.Session.Handling

/-!
This module contains which reports a request answers with when its task was started: those that the
watch had until the task was found ended and once more after that, each under its first spelling.
-/

namespace FeatureRunner

open Session

namespace Call

def drained? : Call → Option (List Path)
  | .drain reports => some reports
  | _ => none

def polled? : Call → Option (List TaskHandle)
  | .poll ended => some ended
  | _ => none

end Call

/-- What a step gives when its task is found ended by question number `n`. -/
structure Step.Reports (step : Step Outcome) (t : Task) (n : Nat) : Prop where
  result : step.result = .ok (.completed (Report.distinct (t.found (List.range (n + 2)))))
  drained : step.calls.filterMap Call.drained? = (List.range (n + 2)).map t.reports
  polled : step.calls.filterMap Call.polled? = (List.range (n + 1)).map t.ended
  reports : step.session.state.reports = []

theorem Task.filterMap_rounds {f : Call → Option α} {g : Nat → α} (t : Task)
    (questions : List Nat)
    (h : ∀ i, [Call.drain (t.reports i), .poll (t.ended i)].filterMap f = [g i])
    : (t.rounds questions).filterMap f = questions.map g := by
  unfold rounds
  rw [List.filterMap_flatMap, List.map_eq_flatMap]
  congr 1
  funext i
  exact h i

theorem filterMap_drained?_taskCalls (target : Option DebugTarget) (t : Task) (n : Nat)
    : (taskCalls target t n).filterMap Call.drained? = (List.range (n + 2)).map t.reports := by
  have hrounds := t.filterMap_rounds (List.range (n + 1)) (f := Call.drained?) (g := t.reports)
    fun _ => rfl
  unfold taskCalls
  simp only [List.filterMap_append, hrounds]
  cases target <;> simp [List.filterMap_cons, Call.drained?, List.range_succ (n := n + 1)]

theorem filterMap_polled?_taskCalls (target : Option DebugTarget) (t : Task) (n : Nat)
    : (taskCalls target t n).filterMap Call.polled? = (List.range (n + 1)).map t.ended := by
  have hrounds := t.filterMap_rounds (List.range (n + 1)) (f := Call.polled?) (g := t.ended)
    fun _ => rfl
  unfold taskCalls
  simp only [List.filterMap_append, hrounds]
  cases target <;> simp [List.filterMap_cons, Call.polled?]

theorem Session.Execution.reports_of_launched {s : Session} {r : Replies} {q : Request}
    {step : Step Outcome} {t : Task} {n : Nat} (h : Execution s r q step)
    (hs : s.state.reports = []) (hl : step.Launched r t) (hn : t.EndsAt n)
    : step.Reports t n := by
  obtain ⟨name, c, hc, hlc⟩ := hl
  cases h with
  | unprepared hp => simp [giveUp, hp.calls.execute_not_mem] at hc
  | unwatched hp hw => simp [hp.calls.execute_not_mem] at hc
  | unlaunched hp hw hl =>
    simp only [List.mem_append, hp.calls.execute_not_mem, List.mem_cons] at hc
    simp_all
  | @completed s' pre p c' t' n' reports hp hw hl hn' hr =>
    obtain ⟨rfl, rfl⟩ : name = taskName ∧ c = c' := by
      simpa [hp.calls.execute_not_mem] using hc
    obtain rfl : t' = t := by
      rw [hl] at hlc
      exact Except.ok.inj hlc
    obtain rfl : n' = n := hn'.unique hn
    rw [hp.state_eq, hs, Report.recordAll_nil] at hr
    have hdrained : pre.filterMap Call.drained? = [] := by
      apply hp.calls.filterMap_eq_nil <;> intros <;> rfl
    have hpolled : pre.filterMap Call.polled? = [] := by
      apply hp.calls.filterMap_eq_nil <;> intros <;> rfl
    have hopened : (openingCalls s'.settings r reports).filterMap Call.drained? = []
        ∧ (openingCalls s'.settings r reports).filterMap Call.polled? = [] := by
      constructor <;> apply filterMap_openingCalls <;> intros <;> rfl
    refine ⟨?_, ?_, ?_, ?_⟩
    . rw [hr]
    . simp only [List.filterMap_append, hdrained, filterMap_drained?_taskCalls, hopened]
      simp [List.filterMap_cons, Call.drained?]
    . simp only [List.filterMap_append, hpolled, filterMap_polled?_taskCalls, hopened]
      simp [List.filterMap_cons, Call.polled?]
    . rfl

/-- A request whose task was started answers with the distinct reports of all questions up to the
one that finds the task itself, by number and name, and of one more question after it. -/
theorem requested_reports {s : Session} {r : Replies} {mode : Mode} {q : Request} {t : Task}
    {n : Nat} (hl : (s.requested r mode q).Launched r t)
    (hn : ∃ h ∈ t.ended n, h.id = t.handle.id ∧ h.name = t.handle.name)
    (hforeign : ∀ i < n, ∀ h ∈ t.ended i, h.id ≠ t.handle.id ∨ h.name ≠ t.handle.name)
    : (s.requested r mode q).Reports t n := by
  have hend : t.EndsAt n := by
    constructor
    . obtain ⟨h, hmem, hid, hname⟩ := hn
      have : h = t.handle := by
        cases h
        simp_all
      rwa [← this]
    . intro i hi hmem
      simpa using hforeign i hi t.handle hmem
  generalize hstep : s.requested r mode q = step at *
  have hhandling := requested_handling s r mode q
  rw [hstep] at hhandling
  cases hhandling with
  | run h => exact h.reports_of_launched rfl hl hend
  | exhausted ha =>
    obtain ⟨name, c, hc, _⟩ := hl
    simp at hc
  | @debug port step ha h =>
    -- The probes come before the task, so they take nothing away from its calls.
    have hreports := h.reports_of_launched rfl ((Step.launched_probeCalls _).1 hl) hend
    refine ⟨hreports.result, ?_, ?_, hreports.reports⟩
    . rw [List.filterMap_append, filterMap_probeCalls (fun _ _ => rfl)]
      exact hreports.drained
    . rw [List.filterMap_append, filterMap_probeCalls (fun _ _ => rfl)]
      exact hreports.polled

theorem requested_reports_secondTask
    : ((start .default .posix).requested (jarReplies secondTask) .debug
        ⟨.ofPath ⟨"/p/a.feature"⟩ .file, .debug⟩).Launched (jarReplies secondTask) secondTask
      ∧ ((start .default .posix).requested (jarReplies secondTask) .debug
        ⟨.ofPath ⟨"/p/a.feature"⟩ .file, .debug⟩).Reports secondTask 1 := by
  have hl : ((start .default .posix).requested (jarReplies secondTask) .debug
      ⟨.ofPath ⟨"/p/a.feature"⟩ .file, .debug⟩).Launched (jarReplies secondTask) secondTask :=
    ⟨taskName, ⟨"java -jar karate.jar \"/p/a.feature\"", ⟨"/p"⟩⟩, by decide +kernel, rfl⟩
  exact ⟨hl, requested_reports hl (by decide) (by decide)⟩

end FeatureRunner
