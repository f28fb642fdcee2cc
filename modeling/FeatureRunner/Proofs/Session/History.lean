import FeatureRunner.Proofs.Session.Preparing
import FeatureRunner.Proofs.Session.Turns

/-!
This module contains what a session looks like between turns. Whatever the outside answers, it is
ready for the next request, and its history has the requests that completed, in order
(`afterAll_settled`). That holds on all the ways out of a request, which `Step.Settles` says once
for all of them.
-/

namespace FeatureRunner

open Session

def Call.appended? : Call → Option Request
  | .appended q => some q
  | _ => none

/-- The session can take the next request: nothing runs and no report is left over. -/
structure Session.Ready (s : Session) : Prop where
  phase : s.phase = .idle
  isExecuting : s.state.isExecuting = false
  reports : s.state.reports = []

def Outcome.reports? : Outcome → Option (List Path)
  | .completed reports => some reports
  | .skipped _ => none

def Step.completes (step : Step Outcome) : Bool :=
  step.result.toOption.any (·.reports?.isSome)

/-- How a request leaves the session: ready, with the request behind the history if it completed. -/
structure Step.Settles (step : Step Outcome) (history : List Request) (q : Request) : Prop where
  ready : step.session.Ready
  history : step.session.history = history ++ if step.completes then [q] else []
  appended : step.calls.filterMap Call.appended? = if step.completes then [q] else []

theorem Step.Settles.probing {step : Step Outcome} {history : List Request} {q : Request}
    (h : step.Settles history q) (r : Replies) (probed : List UInt16)
    : { step with calls := probeCalls r probed ++ step.calls }.Settles history q where
  ready := h.ready
  history := h.history
  appended := by
    rw [List.filterMap_append, filterMap_probeCalls (fun _ _ => rfl)]
    exact h.appended

namespace Session

section Prepared

variable {s s' : Session} {r : Replies} {q : Request} {pre : List Call}
variable {result : Except Failure (Project × Command)}

theorem Prepared.history_eq (h : Prepared s r q result s' pre) : s'.history = s.history := by
  obtain ⟨_, _, rfl, _⟩ := h.session
  rfl

theorem Prepared.filterMap_appended? (h : Prepared s r q result s' pre)
    : pre.filterMap Call.appended? = [] := by
  apply h.calls.filterMap_eq_nil <;> intros <;> rfl

theorem Prepared.settles_idle (h : Prepared s r q result s' pre) (hreports : s.state.reports = [])
    {failed : Except Failure Outcome} {post : List Call}
    (hfailed : failed.toOption.any (·.reports?.isSome) = false)
    (hpost : post.filterMap Call.appended? = [])
    : Step.Settles ⟨failed, s'.idle, pre ++ post⟩ s.history q := by
  refine ⟨⟨rfl, rfl, ?_⟩, ?_, ?_⟩
  . change s'.state.reports = []
    rw [h.state_eq, hreports]
  . simp [Step.completes, hfailed, idle, h.history_eq]
  . simp [Step.completes, hfailed, h.filterMap_appended?, hpost]

end Prepared

theorem Execution.settles {s : Session} {r : Replies} {q : Request} {step : Step Outcome}
    (h : Execution s r q step) (hreports : s.state.reports = [])
    : step.Settles s.history q := by
  cases h with
  | @unprepared s' pre f hp =>
    apply hp.settles_idle hreports
    . split <;> rfl
    . rfl
  | unwatched hp hw => exact hp.settles_idle hreports rfl rfl
  | unlaunched hp hw hl => exact hp.settles_idle hreports rfl rfl
  | @completed s' pre p c t n reports hp hw hl hn hr =>
    have htask : (taskCalls s'.pending t n).filterMap Call.appended? = [] := by
      apply filterMap_taskCalls <;> intros <;> rfl
    have hopened : (openingCalls s'.settings r reports).filterMap Call.appended? = [] := by
      apply filterMap_openingCalls
      intros
      rfl
    refine ⟨⟨rfl, rfl, rfl⟩, ?_, ?_⟩
    . simp [Step.completes, Except.toOption, Outcome.reports?, hp.history_eq]
    . simp [Step.completes, Except.toOption, Outcome.reports?, hp.filterMap_appended?, htask,
        hopened, List.filterMap_cons, Call.appended?]

theorem requested_settles {s : Session} (h : s.Ready) (r : Replies) (mode : Mode) (q : Request)
    : (s.requested r mode q).Settles s.history q := by
  have hhandling := requested_handling s r mode q
  generalize s.requested r mode q = step at *
  cases hhandling with
  | run hrun => exact hrun.settles rfl
  | exhausted ha =>
    -- The search for a port comes before everything that would have to be undone.
    refine ⟨⟨h.phase, rfl, rfl⟩, ?_, ?_⟩
    . simp [Step.completes, Except.toOption]
    . exact filterMap_probeCalls (fun _ _ => rfl) r _
  | debug ha hdebug => exact (hdebug.settles rfl).probing r _

theorem Ready.takeDebugTarget {s : Session} (h : s.Ready) : s.takeDebugTarget.2.Ready := by
  refine ⟨h.phase, ?_, ?_⟩
  . cases hf : s.state.debugFile <;>
      simpa [Session.takeDebugTarget, RunState.takeDebugTarget, hf] using h.isExecuting
  . cases hf : s.state.debugFile <;>
      simpa [Session.takeDebugTarget, RunState.takeDebugTarget, hf] using h.reports

end Session

namespace Entry

def result? (e : Entry) : Option (Except Failure Outcome) :=
  match e.turn with
  | .request mode q r => some (e.session.requested r mode q).result
  | .repeatLast r => some (e.session.repeatLast r).result
  | .takeDebugTarget | .debugPort _ => none

def completed? (e : Entry) : Option (Mode × Request) :=
  match e.result?, e.started? with
  | some (.ok (.completed _)), some (mode, q, _) => some (mode, q)
  | _, _ => none

theorem result?_of_started {e : Entry} {mode : Mode} {q : Request} {r : Replies}
    (h : e.started? = some (mode, q, r))
    : e.result? = some (e.session.requested r mode q).result := by
  rcases e with ⟨s, turn⟩
  cases turn with
  | request mode' q' r' =>
    obtain ⟨rfl, rfl, rfl⟩ : mode' = mode ∧ q' = q ∧ r' = r := by
      simpa [started?] using h
    rfl
  | repeatLast r' =>
    simp only [started?, Option.map_eq_some_iff, Prod.mk.injEq] at h
    obtain ⟨q', hlast, rfl, rfl, rfl⟩ := h
    simp [result?, repeatLast, hlast]
  | takeDebugTarget => cases h
  | debugPort r' => cases h

theorem completed?_of_started {e : Entry} {mode : Mode} {q : Request} {r : Replies}
    (h : e.started? = some (mode, q, r))
    : e.completed? = if (e.session.requested r mode q).completes then some (mode, q) else none := by
  unfold completed? Step.completes
  rw [result?_of_started h, h]
  rcases (e.session.requested r mode q).result with f | outcome
  . simp [Except.toOption]
  . cases outcome <;> simp [Except.toOption, Outcome.reports?]

/-- What a turn leaves behind: a session that is ready, and a history that the request of the turn
is appended to exactly if it completed. -/
structure Settles (e : Entry) : Prop where
  ready : e.after.Ready
  history : e.after.history = e.session.history ++ (e.completed?.map (·.2)).toList
  appended : e.calls.filterMap Call.appended? = (e.completed?.map (·.2)).toList

theorem completed?_eq_none {e : Entry} (h : e.started? = none) : e.completed? = none := by
  simp [completed?, h]

theorem settles {e : Entry} (h : e.session.Ready) : e.Settles := by
  -- Only a turn that starts a request can complete one.
  cases e.goes with
  | @started mode q r hstarted hafter hcalls =>
    have hsettles := requested_settles h r mode q
    have hcompleted : (e.completed?.map (·.2)).toList
        = if (e.session.requested r mode q).completes then [q] else [] := by
      rw [completed?_of_started hstarted]
      split <;> rfl
    refine ⟨?_, ?_, ?_⟩
    . rw [hafter]
      exact hsettles.ready
    . rw [hafter, hcompleted]
      exact hsettles.history
    . rw [hcalls, hcompleted]
      exact hsettles.appended
  | skipped hstarted hafter hcalls =>
    have hcompleted := completed?_eq_none hstarted
    refine ⟨?_, ?_, ?_⟩
    . rwa [hafter]
    . simp [hafter, hcompleted]
    . simp [hcalls, hcompleted]
  | taken hturn hafter hcalls =>
    have hcompleted : e.completed? = none := completed?_eq_none (by simp [started?, hturn])
    refine ⟨?_, ?_, ?_⟩
    . rw [hafter]
      exact h.takeDebugTarget
    . simp [hafter, Session.takeDebugTarget, hcompleted]
    . simp [hcalls, hcompleted]
  | @asked r hturn hafter hcalls =>
    have hcompleted : e.completed? = none := completed?_eq_none (by simp [started?, hturn])
    refine ⟨?_, ?_, ?_⟩
    . rw [hafter]
      exact ⟨h.phase, h.isExecuting, h.reports⟩
    . simp [hafter, Session.debugPort, hcompleted]
    . rw [hcalls, hcompleted]
      exact filterMap_probeCalls (fun _ _ => rfl) r _

end Entry

namespace Session

/-- The requests that complete in the turns of a log, with the modes that they are handled in. -/
def completedIn (log : List Entry) : List (Mode × Request) :=
  log.filterMap Entry.completed?

theorem history_afterAll {s : Session} (h : s.Ready) (turns : List Turn)
    : (s.afterAll turns).Ready
      ∧ (s.afterAll turns).history = s.history ++ (completedIn (s.log turns)).map (·.2)
      ∧ ((s.log turns).flatMap Entry.calls).filterMap Call.appended?
          = (completedIn (s.log turns)).map (·.2)
      ∧ ∀ e ∈ s.log turns, e.Settles := by
  -- That the session is ready is all that one turn needs from the turns before it.
  induction turns generalizing s with
  | nil => simpa [afterAll, log, completedIn] using h
  | cons turn turns ih =>
    have hturn : (Entry.mk s turn).Settles := Entry.settles h
    obtain ⟨hready, hhistory, happended, hsettles⟩ := ih hturn.ready
    have hcompleted : (completedIn (s.log (turn :: turns))).map (·.2)
        = ((Entry.mk s turn).completed?.map (·.2)).toList
            ++ (completedIn ((Entry.mk s turn).after.log turns)).map (·.2) := by
      unfold completedIn
      rw [log]
      cases hc : (Entry.mk s turn).completed? <;> simp [hc]
    refine ⟨hready, ?_, ?_, ?_⟩
    . rw [hcompleted, afterAll, hhistory, hturn.history, List.append_assoc]
    . rw [hcompleted, log, List.flatMap_cons, List.filterMap_append, hturn.appended, happended]
    . rw [log]
      exact List.forall_mem_cons.2 ⟨hturn, hsettles⟩

theorem ready_start (settings : Settings) (platform : Command.Platform)
    : (start settings platform).Ready :=
  ⟨rfl, rfl, rfl⟩

end Session

/-- Between turns a session is ready for the next request, and its history is the list of the
requests that completed, which are also those that the listener was told about. It only grows at its
end; a turn that skips its request or fails leaves it as it was, and the session ready. -/
theorem afterAll_settled (settings : Settings) (platform : Command.Platform) (turns : List Turn)
    : ((start settings platform).afterAll turns).Ready
      ∧ ((start settings platform).afterAll turns).history
          = (completedIn ((start settings platform).log turns)).map (·.2)
      ∧ (((start settings platform).log turns).flatMap Entry.calls).filterMap Call.appended?
          = ((start settings platform).afterAll turns).history
      ∧ ∀ e ∈ (start settings platform).log turns,
          e.session.history <+: e.after.history
          ∧ ((∀ reports, e.result? ≠ some (.ok (.completed reports))) →
              e.after.history = e.session.history ∧ e.after.Ready) := by
  obtain ⟨hready, hhistory, happended, hsettles⟩ :=
    history_afterAll (ready_start settings platform) turns
  have hempty : (start settings platform).history = [] := by rfl
  rw [hempty, List.nil_append] at hhistory
  refine ⟨hready, hhistory, happended.trans hhistory.symm, ?_⟩
  intro e he
  have hturn := hsettles e he
  refine ⟨?_, ?_⟩
  . rw [hturn.history]
    exact List.prefix_append _ _
  . intro hresult
    have hcompleted : e.completed? = none := by
      unfold Entry.completed?
      split
      . next reports _ _ _ hresult' _ => exact absurd hresult' (hresult reports)
      . rfl
    refine ⟨?_, hturn.ready⟩
    simpa [hcompleted] using hturn.history

def debuggedEntry : Entry where
  session := start .default .posix
  turn := .request .debug ⟨.ofPath ⟨"/p/a.feature"⟩ .file, .debug⟩ (jarReplies secondTask)

def refusedEntry : Entry where
  session := debuggedEntry.after
  turn := .repeatLast { jarReplies secondTask with
    launch := fun _ => .error (.taskLaunch ⟨"/p"⟩ .notFound) }

theorem afterAll_settled_refusedEntry
    : refusedEntry.result? = some (.error (.taskLaunch ⟨"/p"⟩ .notFound))
      ∧ refusedEntry.after.history = [⟨.ofPath ⟨"/p/a.feature"⟩ .file, .debug⟩]
      ∧ refusedEntry.session.history = refusedEntry.after.history
      ∧ refusedEntry.after.Ready := by
  obtain ⟨-, hhistory, -, hturns⟩ :=
    afterAll_settled .default .posix [debuggedEntry.turn, refusedEntry.turn]
  have hresult : refusedEntry.result? = some (.error (.taskLaunch ⟨"/p"⟩ .notFound)) := by
    decide +kernel
  obtain ⟨-, hleft⟩ := hturns refusedEntry (.tail _ (.head _))
  obtain ⟨heq, hready⟩ := hleft (by simp [hresult])
  refine ⟨hresult, ?_, heq.symm, hready⟩
  refine Eq.trans hhistory ?_
  decide +kernel

end FeatureRunner
