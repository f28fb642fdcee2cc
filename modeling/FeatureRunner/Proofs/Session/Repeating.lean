import FeatureRunner.Proofs.Session.DebugTargets
import FeatureRunner.Proofs.Session.History

/-!
This module contains what a repetition does. It takes the last request of the history, whose own
mode decides how it is handled; `repeatLast_again` says that this is handling it once more, with a
new debug port and a new debug target if it is debugged. A request does not have to be handled in
its own mode, and then its repetition differs from it (`repeatLast_ne_requested`).
-/

namespace FeatureRunner

open Session

def Call.probed? : Call → Option UInt16
  | .probe port _ => some port
  | _ => none

namespace Session

theorem Prepared.ports_eq {s s' : Session} {r : Replies} {q : Request} {pre : List Call}
    {result : Except Failure (Project × Command)} (h : Prepared s r q result s' pre)
    : s'.ports = s.ports := by
  obtain ⟨_, _, rfl, _⟩ := h.session
  rfl

theorem Execution.ports_eq {s : Session} {r : Replies} {q : Request} {step : Step Outcome}
    (h : Execution s r q step)
    : step.session.ports = s.ports := by
  cases h with
  | unprepared hp => exact Eq.trans rfl hp.ports_eq
  | unwatched hp hw => exact Eq.trans rfl hp.ports_eq
  | unlaunched hp hw hl => exact Eq.trans rfl hp.ports_eq
  | completed hp hw hl hn hr => exact Eq.trans rfl hp.ports_eq

theorem Execution.filterMap_probed? {s : Session} {r : Replies} {q : Request} {step : Step Outcome}
    (h : Execution s r q step)
    : step.calls.filterMap Call.probed? = [] := by
  have hprepared {result} {s' : Session} {pre : List Call} (hp : Prepared s r q result s' pre)
      : pre.filterMap Call.probed? = [] := by
    apply hp.calls.filterMap_eq_nil <;> intros <;> rfl
  cases h with
  | unprepared hp => simp [giveUp, hprepared hp, List.filterMap_cons, Call.probed?]
  | unwatched hp hw => simp [hprepared hp, List.filterMap_cons, Call.probed?]
  | unlaunched hp hw hl => simp [hprepared hp, List.filterMap_cons, Call.probed?]
  | @completed s' pre p c t n reports hp hw hl hn hr =>
    have htask : (taskCalls s'.pending t n).filterMap Call.probed? = [] := by
      apply filterMap_taskCalls <;> intros <;> rfl
    have hopened : (openingCalls s'.settings r reports).filterMap Call.probed? = [] := by
      apply filterMap_openingCalls
      intros
      rfl
    simp [hprepared hp, htask, hopened, List.filterMap_cons, Call.probed?]

theorem filterMap_probed?_probeCalls (r : Replies) (probed : List UInt16)
    : (probeCalls r probed).filterMap Call.probed? = probed := by
  simp [probeCalls, List.filterMap_map, Function.comp_def, Call.probed?]

/-- How a request goes about its debug port and its debug target. -/
inductive Attaches (s : Session) (r : Replies) (q : Request) : Mode → Step Outcome → Prop where
  /-- A plain run has neither. -/
  | plain {step : Step Outcome} (hports : step.session.ports = s.ports)
      (hprobed : step.calls.filterMap Call.probed? = [])
      (htold : step.calls.filterMap Call.debugTarget? = [])
      : Attaches s r q .run step
  /-- A debug run searches for a port, which the listener is told if the task is started. -/
  | debug {step : Step Outcome}
      (hports : step.session.ports = (s.ports.allocate r.isFree false).allocator)
      (hprobed : step.calls.filterMap Call.probed? = (s.ports.allocate r.isFree false).probed)
      (htold : (∃ t, step.Launched r t) →
        ∃ port, (s.ports.allocate r.isFree false).result = .ok port
          ∧ step.calls.filterMap Call.debugTarget?
              = [⟨q.target.path, q.target.sectionLine, port⟩])
      : Attaches s r q .debug step

theorem requested_attaches (s : Session) (r : Replies) (mode : Mode) (q : Request)
    : Attaches s r q mode (s.requested r mode q) := by
  have hpasses := s.requested_passesOn r mode q
  have hhandling := requested_handling s r mode q
  generalize s.requested r mode q = step at *
  cases hhandling with
  | run h =>
    refine .plain h.ports_eq h.filterMap_probed? ?_
    have hrecorded : s.recorded? r .run q = none := by rfl
    rw [hrecorded] at hpasses
    rcases hpasses with ⟨-, htold, -⟩ | ⟨-, htold, -⟩
    . exact htold
    . exact htold
  | exhausted ha =>
    refine .debug rfl (filterMap_probed?_probeCalls r _) ?_
    rintro ⟨t, name, c, hmem, -⟩
    simp at hmem
  | @debug port step ha h =>
    refine .debug h.ports_eq ?_ ?_
    . rw [List.filterMap_append, h.filterMap_probed?, filterMap_probed?_probeCalls,
        List.append_nil]
    . intro hlaunched
      have hrecorded : s.recorded? r .debug q
          = some ⟨q.target.path, q.target.sectionLine, port⟩ := by
        simp [recorded?, ha]
      rw [hrecorded] at hpasses
      rcases hpasses with ⟨-, htold, -⟩ | ⟨hnone, -, -⟩
      . exact ⟨port, ha, htold⟩
      . exact absurd hlaunched hnone

end Session

/-- A repetition without a history is skipped and does nothing. Otherwise it handles the last request
of the history in the request's own mode, with a port and a target if that is to debug. If the
request was also handled in its own mode when it completed, the repetition is the same once more,
from the session that there is now. -/
theorem repeatLast_again (settings : Settings) (platform : Command.Platform) (turns : List Turn)
    (r : Replies)
    : (((start settings platform).afterAll turns).history = [] →
        ((start settings platform).afterAll turns).repeatLast r
          = ⟨.ok (.skipped "no previous run"), (start settings platform).afterAll turns, []⟩)
      ∧ (((start settings platform).afterAll turns).history ≠ [] →
          ∃ mode q, (completedIn ((start settings platform).log turns)).getLast? = some (mode, q)
            ∧ ((start settings platform).afterAll turns).history.getLast? = some q
            ∧ ((start settings platform).afterAll turns).repeatLast r
                = ((start settings platform).afterAll turns).requested r q.mode q
            ∧ ((start settings platform).afterAll turns).Attaches r q q.mode
                (((start settings platform).afterAll turns).repeatLast r)
            ∧ (q.mode = mode →
                ((start settings platform).afterAll turns).repeatLast r
                  = ((start settings platform).afterAll turns).requested r mode q)) := by
  obtain ⟨-, hhistory, -, -⟩ := history_afterAll (ready_start settings platform) turns
  have hempty : (start settings platform).history = [] := by rfl
  rw [hempty, List.nil_append] at hhistory
  generalize (start settings platform).afterAll turns = s at *
  refine ⟨?_, ?_⟩
  . intro hnone
    simp [repeatLast, hnone]
  . intro hsome
    -- The last request of the history is the last one that completed.
    cases hlast : (completedIn ((start settings platform).log turns)).getLast? with
    | none =>
      rw [List.getLast?_eq_none_iff] at hlast
      simp [hhistory, hlast] at hsome
    | some completed =>
      rcases completed with ⟨mode, q⟩
      have hq : s.history.getLast? = some q := by
        rw [hhistory, List.getLast?_map, hlast]
        rfl
      have hagain : s.repeatLast r = s.requested r q.mode q := by
        simp [repeatLast, hq]
      refine ⟨mode, q, rfl, hq, hagain, ?_, ?_⟩
      . rw [hagain]
        exact s.requested_attaches r q.mode q
      . rintro rfl
        exact hagain

theorem repeatLast_again_debuggedEntry
    : debuggedEntry.after.history ≠ []
      ∧ debuggedEntry.after.Attaches (jarReplies secondTask)
          ⟨.ofPath ⟨"/p/a.feature"⟩ .file, .debug⟩ .debug
          (debuggedEntry.after.repeatLast (jarReplies secondTask))
      ∧ debuggedEntry.after.repeatLast (jarReplies secondTask)
          = debuggedEntry.after.requested (jarReplies secondTask) .debug
              ⟨.ofPath ⟨"/p/a.feature"⟩ .file, .debug⟩ := by
  have hhistory : debuggedEntry.after.history ≠ [] := by decide +kernel
  obtain ⟨mode, q, hcompleted, -, -, hattaches, hagain⟩ :=
    (repeatLast_again .default .posix [debuggedEntry.turn] (jarReplies secondTask)).2 hhistory
  have hlast : (completedIn ((start .default .posix).log [debuggedEntry.turn])).getLast?
      = some (.debug, ⟨.ofPath ⟨"/p/a.feature"⟩ .file, .debug⟩) := by decide +kernel
  obtain ⟨rfl, rfl⟩ : mode = .debug ∧ q = ⟨.ofPath ⟨"/p/a.feature"⟩ .file, .debug⟩ := by
    simpa [hlast, eq_comm] using hcompleted
  exact ⟨hhistory, hattaches, hagain rfl⟩

def crossedEntry : Entry where
  session := start .default .posix
  turn := .request .run ⟨.ofPath ⟨"/p/a.feature"⟩ .file, .debug⟩ (jarReplies secondTask)

/-- Such a request is debugged when it is repeated, which is not what was done before. -/
theorem repeatLast_ne_requested
    : (completedIn ((start .default .posix).log [crossedEntry.turn])).getLast?
        = some (.run, ⟨.ofPath ⟨"/p/a.feature"⟩ .file, .debug⟩)
      ∧ crossedEntry.told = []
      ∧ crossedEntry.after.repeatLast (jarReplies secondTask)
          ≠ crossedEntry.after.requested (jarReplies secondTask) .run
              ⟨.ofPath ⟨"/p/a.feature"⟩ .file, .debug⟩ := by
  refine ⟨by decide +kernel, by decide +kernel, ?_⟩
  intro heq
  have htold := congrArg (·.calls.filterMap Call.debugTarget?) heq
  exact absurd htold (by decide +kernel)

end FeatureRunner
