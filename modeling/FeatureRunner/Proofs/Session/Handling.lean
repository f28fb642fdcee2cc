import FeatureRunner.Proofs.Session.Waiting

/-!
This module contains the ways in which a session handles a request. `Execution` lists them, one
constructor for each way out, with the answers of the outside that lead there and with everything
that the request then gives. `execute_execution` says that there are no others; all that is proved
about requests starts from there.
-/

namespace FeatureRunner

def RunnerClass.question (settings : Settings) (r : Replies) : Call :=
  .prompt promptTitle (shownDefault settings) (r.answer (shownDefault settings))

/-- The calls of a preparation: at most one question and then at most one save of its answer. -/
inductive Preparation (settings : Settings) (r : Replies) : List Call → Prop where
  | silent : Preparation settings r []
  | asked : Preparation settings r [RunnerClass.question settings r]
  | saved {runnerClass : String}
      (h : Command.nonBlank (r.answer (RunnerClass.shownDefault settings)) = some runnerClass)
      : Preparation settings r
        [RunnerClass.question settings r, .save (settings.withRunnerDefault runnerClass)]

namespace RunnerClass

theorem choose_preparation (system : BuildSystem) (s : Settings) (r : Replies)
    : Preparation s r (choose system s r.answer r.save).calls := by
  unfold choose
  split
  . exact .silent
  . split
    . exact .silent
    . dsimp
      split
      . exact .asked
      . next runnerClass h =>
        unfold accept
        split
        . exact .asked
        . exact .saved h

theorem choose_settings (system : BuildSystem) (s : Settings) (r : Replies)
    : (choose system s r.answer r.save).settings = s
        ∨ ∃ name, (choose system s r.answer r.save).settings = s.withRunnerDefault name := by
  unfold choose
  split
  . exact .inl rfl
  . split
    . exact .inl rfl
    . dsimp
      split
      . exact .inl rfl
      . next runnerClass _ =>
        unfold accept
        split
        . exact .inl rfl
        . exact .inr ⟨runnerClass, rfl⟩

end RunnerClass

namespace Session

/-- The session afterwards differs at most in the runner class: in the default or in the one that
was answered. -/
def ChangesRunnerClass (s s' : Session) : Prop :=
  ∃ settings runnerClass, s' = { s with settings, runnerClass }
    ∧ (settings = s.settings ∨ ∃ name, settings = s.settings.withRunnerDefault name)

theorem chooseRunnerClass_session (s : Session) (r : Replies) (system : BuildSystem)
    : s.ChangesRunnerClass (s.chooseRunnerClass r system).session := by
  have hs := RunnerClass.choose_settings system s.settings r
  unfold chooseRunnerClass
  dsimp
  split
  . exact ⟨s.settings, s.runnerClass, rfl, .inl rfl⟩
  . split
    . exact ⟨_, s.runnerClass, rfl, hs⟩
    . split
      . exact ⟨_, _, rfl, hs⟩
      . exact ⟨_, s.runnerClass, rfl, hs⟩

theorem chooseRunnerClass_preparation (s : Session) (r : Replies) (system : BuildSystem)
    : Preparation s.settings r (s.chooseRunnerClass r system).calls := by
  have hp := RunnerClass.choose_preparation system s.settings r
  unfold chooseRunnerClass
  dsimp
  split
  . exact .silent
  . split
    . exact hp
    . exact hp

theorem prepare_session (s : Session) (r : Replies) (q : Request)
    : s.ChangesRunnerClass (s.prepare r q).session := by
  unfold prepare
  dsimp
  split
  . apply chooseRunnerClass_session
  . apply chooseRunnerClass_session

theorem prepare_preparation (s : Session) (r : Replies) (q : Request)
    : Preparation s.settings r (s.prepare r q).calls := by
  unfold prepare
  dsimp
  split
  . apply chooseRunnerClass_preparation
  . apply chooseRunnerClass_preparation

theorem chooseRunnerClass_congr {s s' : Session} (hsettings : s.settings = s'.settings)
    (hrunner : s.runnerClass = s'.runnerClass) (r : Replies) (system : BuildSystem)
    : (s.chooseRunnerClass r system).result = (s'.chooseRunnerClass r system).result
      ∧ (s.chooseRunnerClass r system).calls = (s'.chooseRunnerClass r system).calls
      ∧ (s.chooseRunnerClass r system).session.settings
          = (s'.chooseRunnerClass r system).session.settings := by
  unfold chooseRunnerClass
  rw [hsettings, hrunner]
  dsimp
  split
  . exact ⟨rfl, rfl, hsettings⟩
  . split
    . exact ⟨rfl, rfl, rfl⟩
    . split
      . exact ⟨rfl, rfl, rfl⟩
      . exact ⟨rfl, rfl, rfl⟩

theorem prepare_congr {s s' : Session} (hsettings : s.settings = s'.settings)
    (hplatform : s.platform = s'.platform) (hrunner : s.runnerClass = s'.runnerClass)
    (r : Replies) (q : Request)
    : (s.prepare r q).result = (s'.prepare r q).result
      ∧ (s.prepare r q).calls = (s'.prepare r q).calls := by
  unfold prepare
  dsimp
  obtain ⟨hresult, hcalls, hchosen⟩ := chooseRunnerClass_congr hsettings hrunner r
    (Project.resolve r.isFile q.target.path q.target.kind).buildSystem
  rw [hresult, hcalls, hchosen, hplatform]
  split
  . exact ⟨rfl, rfl⟩
  . exact ⟨rfl, rfl⟩

/-- The first half of a request: a command was made, or there is a reason why not. -/
structure Prepared (s : Session) (r : Replies) (q : Request)
    (result : Except Failure (Project × Command)) (s' : Session) (pre : List Call) : Prop where
  step : { s with phase := .preparing }.prepare r q = ⟨result, s', pre⟩
  session : { s with phase := .preparing }.ChangesRunnerClass s'
  calls : Preparation s.settings r pre

theorem prepared_of_prepare {s s' : Session} {r : Replies} {q : Request}
    {result : Except Failure (Project × Command)} {pre : List Call}
    (h : { s with phase := .preparing }.prepare r q = ⟨result, s', pre⟩)
    : Prepared s r q result s' pre := by
  have hsession := prepare_session { s with phase := .preparing } r q
  have hcalls := prepare_preparation { s with phase := .preparing } r q
  rw [h] at hsession hcalls
  exact ⟨h, hsession, hcalls⟩

section Prepared

variable {s s' : Session} {r : Replies} {q : Request} {pre : List Call}
variable {result : Except Failure (Project × Command)}

theorem Prepared.state_eq (h : Prepared s r q result s' pre) : s'.state = s.state := by
  obtain ⟨_, _, rfl, _⟩ := h.session
  rfl

theorem Prepared.pending_eq (h : Prepared s r q result s' pre) : s'.pending = s.pending := by
  unfold pending takeDebugTarget
  rw [h.state_eq]

theorem Prepared.reports_eq (h : Prepared s r q result s' pre)
    : s'.settings.reports = s.settings.reports := by
  obtain ⟨_, _, rfl, rfl | ⟨_, rfl⟩⟩ := h.session <;> rfl

end Prepared

def taskCalls (target : Option DebugTarget) (t : Task) (n : Nat) : List Call :=
  .busy true :: target.toList.map .debugReady ++ t.rounds (List.range (n + 1)) ++
    [.drain (t.reports (n + 1)), .dispose, .busy false]

inductive Execution (s : Session) (r : Replies) (q : Request) : Step Outcome → Prop where
  | unprepared {s' : Session} {pre : List Call} {f : Failure}
      (hp : Prepared s r q (.error f) s' pre)
      : Execution s r q (s'.giveUp pre f)
  | unwatched {s' : Session} {pre : List Call} {p : Project} {c : Command} {f : Failure}
      (hp : Prepared s r q (.ok (p, c)) s' pre)
      (hw : r.watch s'.settings.reports.toTarget p.root = .error f)
      : Execution s r q
        { result := .error f
          session := s'.idle
          calls := pre ++ [.watch s'.settings.reports.toTarget p.root, .busy false] }
  | unlaunched {s' : Session} {pre : List Call} {p : Project} {c : Command} {f : Failure}
      (hp : Prepared s r q (.ok (p, c)) s' pre)
      (hw : r.watch s'.settings.reports.toTarget p.root = .ok ())
      (hl : r.launch c = .error f)
      : Execution s r q
        { result := .error f
          session := s'.idle
          calls := pre ++ [.watch s'.settings.reports.toTarget p.root, .execute taskName c,
            .dispose, .busy false] }
  | completed {s' : Session} {pre : List Call} {p : Project} {c : Command} {t : Task} {n : Nat}
      {reports : List Path}
      (hp : Prepared s r q (.ok (p, c)) s' pre)
      (hw : r.watch s'.settings.reports.toTarget p.root = .ok ())
      (hl : r.launch c = .ok t)
      (hn : t.EndsAt n)
      (hr : reports = Report.recordAll s'.state.reports (t.found (List.range (n + 2))))
      : Execution s r q
        { result := .ok (.completed reports)
          session :=
            { s' with
              state := { s'.takeDebugTarget.2.state with isExecuting := false, reports := [] }
              phase := .idle
              history := s'.history ++ [q] }
          calls := pre ++ [.watch s'.settings.reports.toTarget p.root, .execute taskName c] ++
            taskCalls s'.pending t n ++ [.appended q] ++ openingCalls s'.settings r reports }

theorem runTask_unwatched {s : Session} {r : Replies} {p : Project} {f : Failure}
    (hw : r.watch s.settings.reports.toTarget p.root = .error f) (c : Command)
    : s.runTask r p c = ⟨.error f, s, [.watch s.settings.reports.toTarget p.root]⟩ := by
  simp [runTask, hw]

theorem runTask_unlaunched {s : Session} {r : Replies} {p : Project} {c : Command} {f : Failure}
    (hw : r.watch s.settings.reports.toTarget p.root = .ok ()) (hl : r.launch c = .error f)
    : s.runTask r p c
        =
      ⟨.error f, s, [.watch s.settings.reports.toTarget p.root, .execute taskName c, .dispose]⟩ := by
  simp [runTask, hw, hl]

theorem runTask_launched {s : Session} {r : Replies} {p : Project} {c : Command} {t : Task}
    (hw : r.watch s.settings.reports.toTarget p.root = .ok ()) (hl : r.launch c = .ok t)
    : s.runTask r p c
        =
      { s.waitFor t with
        calls := .watch s.settings.reports.toTarget p.root :: .execute taskName c ::
          (s.waitFor t).calls } := by
  simp [runTask, hw, hl]

theorem execute_execution (s : Session) (r : Replies) (q : Request)
    : Execution s r q (s.execute r q) := by
  unfold execute
  generalize hp : Session.prepare _ r q = prepared
  rcases prepared with ⟨result, s', pre⟩
  replace hp := prepared_of_prepare hp
  cases result with
  | error f => exact .unprepared hp
  | ok made =>
    rcases made with ⟨p, c⟩
    dsimp only
    cases hw : r.watch s'.settings.reports.toTarget p.root with
    | error f =>
      rw [runTask_unwatched (s := { s' with phase := .running }) hw]
      simpa [idle] using Execution.unwatched hp hw
    | ok u =>
      cases hl : r.launch c with
      | error f =>
        rw [runTask_unlaunched (s := { s' with phase := .running }) hw hl]
        simpa [idle] using Execution.unlaunched hp hw hl
      | ok t =>
        -- The task promises its end, so some question is the first one that finds it.
        obtain ⟨n, hn⟩ := t.exists_endsAt
        rw [runTask_launched (s := { s' with phase := .running }) hw hl, waitFor_eq hn]
        simpa [taskCalls, pending, takeDebugTarget] using Execution.completed hp hw hl hn rfl

inductive Handling (s : Session) (r : Replies) (q : Request) : Mode → Step Outcome → Prop where
  | run {step : Step Outcome} (h : Execution { s with state := {} } r q step)
      : Handling s r q .run step
  | exhausted {f : Failure} (ha : (s.ports.allocate r.isFree false).result = .error f)
      : Handling s r q .debug
        { result := .error f
          session := { s with state := {}, ports := (s.ports.allocate r.isFree false).allocator }
          calls := probeCalls r (s.ports.allocate r.isFree false).probed }
  | debug {port : UInt16} {step : Step Outcome}
      (ha : (s.ports.allocate r.isFree false).result = .ok port)
      (h : Execution
        { s with
          state := ({} : RunState).setDebugTarget q.target.path q.target.sectionLine port
          ports := (s.ports.allocate r.isFree false).allocator } r q step)
      : Handling s r q .debug
        { step with
          calls := probeCalls r (s.ports.allocate r.isFree false).probed ++ step.calls }

theorem requested_handling (s : Session) (r : Replies) (mode : Mode) (q : Request)
    : Handling s r q mode (s.requested r mode q) := by
  cases mode with
  | run => exact .run (execute_execution _ r q)
  | debug =>
    unfold requested debugRequested
    dsimp only
    split
    . next f ha => exact .exhausted ha
    . next port ha => exact .debug ha (execute_execution _ r q)

end Session

def Step.Launched (r : Replies) (step : Step Outcome) (t : Task) : Prop :=
  ∃ name c, .execute name c ∈ step.calls ∧ r.launch c = .ok t

section Calls

variable {name : String} {c : Command}

theorem Preparation.execute_not_mem {settings : Settings} {r : Replies} {pre : List Call}
    (h : Preparation settings r pre)
    : .execute name c ∉ pre := by
  cases h <;> simp [RunnerClass.question]

@[simp]
theorem execute_not_mem_probeCalls (r : Replies) (probed : List UInt16)
    : .execute name c ∉ Session.probeCalls r probed := by
  simp [Session.probeCalls]

theorem Step.launched_probeCalls {r : Replies} {step : Step Outcome} {t : Task}
    (probed : List UInt16)
    : { step with calls := Session.probeCalls r probed ++ step.calls }.Launched r t
        ↔ step.Launched r t := by
  simp [Step.Launched]

@[simp]
theorem execute_not_mem_openingCalls (s : Settings) (r : Replies) (reports : List Path)
    : .execute name c ∉ Session.openingCalls s r reports := by
  unfold Session.openingCalls
  split <;> simp

@[simp]
theorem execute_not_mem_taskCalls (target : Option DebugTarget) (t : Task) (n : Nat)
    : .execute name c ∉ Session.taskCalls target t n := by
  simp [Session.taskCalls, Task.rounds]

end Calls

section Projections

-- A projection of the calls that passes over some kinds of calls is empty on lists of these kinds.
variable {f : Call → Option α}

theorem Preparation.filterMap_eq_nil {settings : Settings} {r : Replies} {pre : List Call}
    (h : Preparation settings r pre) (hprompt : ∀ title d a, f (.prompt title d a) = none)
    (hsave : ∀ s, f (.save s) = none)
    : pre.filterMap f = [] := by
  cases h <;> simp [RunnerClass.question, hprompt, hsave]

theorem filterMap_probeCalls (hprobe : ∀ p b, f (.probe p b) = none) (r : Replies)
    (probed : List UInt16)
    : (Session.probeCalls r probed).filterMap f = [] := by
  simp [Session.probeCalls, hprobe]

theorem filterMap_openingCalls (hopen : ∀ p b, f (.openReport p b) = none) (s : Settings)
    (r : Replies) (reports : List Path)
    : (Session.openingCalls s r reports).filterMap f = [] := by
  unfold Session.openingCalls
  split <;> simp [hopen]

end Projections

def jarReplies (t : Task) : Replies where
  isFile p := p.text == "/p/karate.jar"
  isFree _ := true
  answer default := some default
  save _ := .ok ()
  watch _ _ := .ok ()
  launch _ := .ok t
  opens _ := true

/-- A task that has ended by the second question. The first one finds a task with another number
ended, the second one also finds one with another name. -/
def secondTask : Task where
  handle := ⟨1, Session.taskName⟩
  reports i := if i = 0 then [⟨"/p/a.html"⟩] else [⟨"/p//a.html"⟩, ⟨"/p/b.html"⟩]
  ended i := if i = 0 then [⟨2, Session.taskName⟩] else [⟨1, "other"⟩, ⟨1, Session.taskName⟩]
  bound := 1
  handle_mem_ended := by decide

end FeatureRunner
