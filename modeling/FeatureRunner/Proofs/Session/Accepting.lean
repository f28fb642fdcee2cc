import FeatureRunner.Proofs.Session.History
import FeatureRunner.Proofs.Session.Prompting
import FeatureRunner.Proofs.Text.Trimming

/-!
This module contains sessions whose questions are all answered with the default that they show. Such
a session goes by that default: it remembers and saves no other runner class (`Session.GoesBy`).
`Session.unasking` is the same session if it is not to ask, and every turn of the one is a turn of
the other but for the questions and saves. The main statement is `log_accepting`.
-/

namespace FeatureRunner

open Session FeatureRunner.Text

def Settings.unasking (s : Settings) (default : Option String) : Settings :=
  { s with runner := { default, promptToSpecify := false } }

theorem Command.synthesize_unasking (s : Settings) (default : Option String) (platform : Platform)
    (p : Project) (t : TestTarget) (mode : Mode) (c : Option String)
    : synthesize (s.unasking default) platform p t mode c = synthesize s platform p t mode c := rfl

def Call.unasked (calls : List Call) : List Call :=
  calls.filter fun call => call.preparing?.isNone

theorem Call.unasked_append (calls calls' : List Call)
    : unasked (calls ++ calls') = unasked calls ++ unasked calls' :=
  List.filter_append ..

theorem Call.unasked_eq_self {calls : List Call} (h : calls.filterMap Call.preparing? = [])
    : unasked calls = calls := by
  rw [List.filterMap_eq_nil_iff] at h
  rw [unasked, List.filter_eq_self]
  intro call hcall
  simp [h call hcall]

def Session.unasking (s : Session) (default : Option String) : Session :=
  { s with settings := s.settings.unasking default, runnerClass := none }

def Step.unasking (step : Step α) (default : Option String) : Step α :=
  ⟨step.result, step.session.unasking default, Call.unasked step.calls⟩

def IsTrimmed (default : Option String) : Prop :=
  ∀ name, default = some name → trim name = name

/-- Every question is answered with the default that it shows, and that can be saved without the
blanks around it. -/
structure Replies.Accepts (r : Replies) (default : Option String) : Prop where
  answer : ∀ shown, r.answer shown = some shown
  save : IsTrimmed default ∨ ∀ s, r.save s = .ok ()

namespace RunnerClass

theorem nonBlank_shownDefault (s : Settings)
    : Command.nonBlank (some (shownDefault s)) = Command.nonBlank s.runner.default := by
  unfold shownDefault
  cases s.runner.default with
  | none => rfl
  | some name => rfl

theorem trim_of_nonBlank {text : Option String} {name : String}
    (h : Command.nonBlank text = some name)
    : trim name = name := by
  obtain ⟨_, _, rfl, _⟩ := (Command.nonBlank_eq_some_iff text name).1 h
  exact trim_trim _

theorem nonBlank_of_nonBlank {text : Option String} {name : String}
    (h : Command.nonBlank text = some name)
    : Command.nonBlank (some name) = some name :=
  (Command.nonBlank_eq_some_iff _ _).2
    ⟨name, rfl, trim_of_nonBlank h, Command.nonBlank_ne_empty h⟩

/-- The settings ask for a runner class, and their default is this one up to blanks around it. -/
structure GoesBy (s : Settings) (name : Option String) : Prop where
  asking : s.runner.promptToSpecify = true
  default : Command.nonBlank s.runner.default = Command.nonBlank name
  trimmed : IsTrimmed name → IsTrimmed s.runner.default

theorem GoesBy.withRunnerDefault {s : Settings} {default : Option String} {name : String}
    (h : GoesBy s default) (hname : Command.nonBlank s.runner.default = some name)
    : GoesBy (s.withRunnerDefault name) default where
  asking := h.asking
  default := by
    rw [← h.default, hname]
    exact nonBlank_of_nonBlank hname
  trimmed _ := by
    rintro _ ⟨rfl⟩
    exact trim_of_nonBlank hname

theorem choose_accepting {system : BuildSystem} {s : Settings} {default : Option String}
    {r : Replies} (hneeded : isNeeded system s = true) (h : GoesBy s default)
    (hr : r.Accepts default)
    : (choose system s r.answer r.save).result = .ok (Command.nonBlank default)
      ∧ GoesBy (choose system s r.answer r.save).settings default
      ∧ (choose system s r.answer r.save).settings.unasking default = s.unasking default
      ∧ Call.unasked (choose system s r.answer r.save).calls = [] := by
  have hchoosing := choose_choosing system s r.answer r.save
  have hanswer : Command.nonBlank (r.answer (shownDefault s))
      = Command.nonBlank s.runner.default := by
    rw [hr.answer, nonBlank_shownDefault]
  generalize choose system s r.answer r.save = choice at *
  cases hchoosing with
  | needless hneedless => simp [hneedless] at hneeded
  | unasked _ hsilent => simp [h.asking] at hsilent
  | cancelled _ _ ha =>
    rw [hanswer] at ha
    refine ⟨?_, h, rfl, rfl⟩
    rw [← h.default, ha]
  | kept _ _ ha =>
    rw [hanswer] at ha
    refine ⟨?_, h, rfl, rfl⟩
    rw [← h.default, ha]
  | saved _ _ ha =>
    rw [hanswer] at ha
    refine ⟨?_, h.withRunnerDefault ha, rfl, rfl⟩
    rw [← h.default, ha]
  | @unsaved name f _ _ ha hne hsave =>
    rw [hanswer] at ha
    rcases hr.save with htrimmed | hsaves
    . -- Without blanks around it the default is answered as it is.
      obtain ⟨text, htext, rfl, -⟩ := (Command.nonBlank_eq_some_iff _ _).1 ha
      have hshown : shownDefault s = text := by simp [shownDefault, htext]
      rw [hshown] at hne
      exact absurd (h.trimmed htrimmed text htext) hne
    . simp [hsaves] at hsave

end RunnerClass

namespace Session

/-- The session asks for a runner class, but it goes by this default: it remembers no other one. -/
structure GoesBy (s : Session) (default : Option String) : Prop where
  settings : RunnerClass.GoesBy s.settings default
  remembered : ∀ name, s.runnerClass = some name → Command.nonBlank default = some name

variable {s : Session} {r : Replies} {default : Option String}

theorem goesBy_congr {s' : Session} (h : s.GoesBy default) (hsettings : s'.settings = s.settings)
    (hrunner : s'.runnerClass = s.runnerClass)
    : s'.GoesBy default := by
  obtain ⟨hgoes, hremembered⟩ := h
  rw [← hsettings] at hgoes
  rw [← hrunner] at hremembered
  exact ⟨hgoes, hremembered⟩

theorem chooseRunnerClass_unasking (s : Session) (default : Option String) (r : Replies)
    (system : BuildSystem)
    : (s.unasking default).chooseRunnerClass r system
        =
      { result :=
          .ok (if RunnerClass.isNeeded system s.settings then Command.nonBlank default else none)
        session := s.unasking default
        calls := [] } := by
  have hasks : (s.unasking default).asks system = false := by
    simp [asks, unasking, Settings.unasking]
  have hneeded : RunnerClass.isNeeded system (s.unasking default).settings
      = RunnerClass.isNeeded system s.settings := rfl
  rw [chooseRunnerClass_of_new (by simp [hasks])]
  unfold RunnerClass.choose
  rw [hneeded]
  cases RunnerClass.isNeeded system s.settings with
  | true =>
    simp only [hasks]
    rfl
  | false =>
    simp only [hasks]
    rfl

theorem chooseRunnerClass_accepting (h : s.GoesBy default) (hr : r.Accepts default)
    (system : BuildSystem)
    : (s.chooseRunnerClass r system).unasking default
          = (s.unasking default).chooseRunnerClass r system
      ∧ (s.chooseRunnerClass r system).session.GoesBy default := by
  rw [chooseRunnerClass_unasking]
  cases hneeded : RunnerClass.isNeeded system s.settings with
  | false =>
    have hasks : s.asks system = false := by simp [asks, hneeded]
    rw [chooseRunnerClass_of_new (by simp [hasks])]
    simpa [RunnerClass.choose, hneeded, hasks, Step.unasking, Call.unasked] using h
  | true =>
    have hasks : s.asks system = true := by simp [asks, hneeded, h.settings.asking]
    cases hname : s.runnerClass with
    | some name =>
      rw [chooseRunnerClass_of_remembered hasks hname, if_pos rfl, h.remembered name hname]
      exact ⟨rfl, h⟩
    | none =>
      obtain ⟨hresult, hgoes, hunasking, hcalls⟩ :=
        RunnerClass.choose_accepting hneeded h.settings hr
      rw [chooseRunnerClass_of_new fun _ => hname]
      simp only [hresult, hasks, Except.toOption, Option.getD_some, if_true]
      refine ⟨?_, hgoes, fun _ hremembered => hremembered⟩
      simp [Step.unasking, unasking, hunasking, hcalls]

theorem prepare_accepting (h : s.GoesBy default) (hr : r.Accepts default) (q : Request)
    : (s.prepare r q).unasking default = (s.unasking default).prepare r q
      ∧ (s.prepare r q).session.GoesBy default := by
  obtain ⟨hchosen, hgoes⟩ := chooseRunnerClass_accepting h hr
    (Project.resolve r.isFile q.target.path q.target.kind).buildSystem
  rw [prepare_eq, prepare_eq]
  dsimp only
  rw [← hchosen]
  refine ⟨?_, hgoes⟩
  simp only [Step.unasking, unasking, Command.synthesize_unasking]

theorem runTask_unasking (s : Session) (default : Option String) (r : Replies) (p : Project)
    (c : Command)
    : (s.runTask r p c).unasking default = (s.unasking default).runTask r p c := by
  cases hw : r.watch s.settings.reports.toTarget p.root with
  | error f =>
    rw [runTask_unwatched hw, runTask_unwatched (s := s.unasking default) hw]
    rfl
  | ok _ =>
    cases hl : r.launch c with
    | error f =>
      rw [runTask_unlaunched hw hl, runTask_unlaunched (s := s.unasking default) hw hl]
      rfl
    | ok t =>
      obtain ⟨n, hn⟩ := t.exists_endsAt
      have htask : Call.unasked (taskCalls s.pending t n) = taskCalls s.pending t n := by
        apply Call.unasked_eq_self
        apply filterMap_taskCalls <;> intros <;> rfl
      rw [runTask_launched hw hl, runTask_launched (s := s.unasking default) hw hl, waitFor_eq hn,
        waitFor_eq hn]
      refine congrArg (Step.mk _ _) ?_
      change _ :: _ :: Call.unasked (taskCalls s.pending t n) = _ :: _ :: taskCalls s.pending t n
      rw [htask]
      rfl

theorem unasked_openingCalls (settings : Settings) (r : Replies) (reports : List Path)
    : Call.unasked (openingCalls settings r reports) = openingCalls settings r reports := by
  apply Call.unasked_eq_self
  apply filterMap_openingCalls
  intros
  rfl

theorem unasked_probeCalls (r : Replies) (probed : List UInt16)
    : Call.unasked (probeCalls r probed) = probeCalls r probed := by
  apply Call.unasked_eq_self
  apply filterMap_probeCalls
  intros
  rfl

theorem giveUp_unasking (s : Session) (default : Option String) (calls : List Call) (f : Failure)
    : (s.giveUp calls f).unasking default
        = (s.unasking default).giveUp (Call.unasked calls) f := by
  simp only [giveUp, Step.unasking, Call.unasked_append]
  rfl

theorem execute_unasking (h : s.GoesBy default) (hr : r.Accepts default) (q : Request)
    : (s.execute r q).unasking default = (s.unasking default).execute r q := by
  have hprepared : ({ s.unasking default with phase := .preparing } : Session).prepare r q
      = (({ s with phase := .preparing } : Session).prepare r q).unasking default :=
    (prepare_accepting (s := { s with phase := .preparing }) (goesBy_congr h rfl rfl) hr q).1.symm
  unfold execute
  dsimp only
  rw [hprepared]
  generalize Session.prepare _ r q = prepared
  rcases prepared with ⟨result, s', pre⟩
  cases result with
  | error f => exact giveUp_unasking s' default pre f
  | ok made =>
    rcases made with ⟨p, c⟩
    have hrun : ({ s'.unasking default with phase := .running } : Session).runTask r p c
        = (({ s' with phase := .running } : Session).runTask r p c).unasking default :=
      (runTask_unasking { s' with phase := .running } default r p c).symm
    simp only [Step.unasking] at hrun ⊢
    rw [hrun]
    generalize Session.runTask _ r p c = run
    rcases run with ⟨result, s'', calls⟩
    cases result with
    | error f =>
      simp only [Call.unasked_append]
      rfl
    | ok reports =>
      simp only [Call.unasked_append, unasked_openingCalls]
      rfl

theorem requested_unasking (h : s.GoesBy default) (hr : r.Accepts default) (mode : Mode)
    (q : Request)
    : (s.requested r mode q).unasking default = (s.unasking default).requested r mode q := by
  cases mode with
  | run =>
    exact execute_unasking (s := { s with state := {} }) (goesBy_congr h rfl rfl) hr q
  | debug =>
    have hports : (s.unasking default).ports = s.ports := rfl
    unfold requested debugRequested
    dsimp only
    rw [hports]
    cases hport : (s.ports.allocate r.isFree false).result with
    | error f =>
      simp only [Step.unasking, unasked_probeCalls]
      rfl
    | ok port =>
      have hexecuted := execute_unasking
        (s :=
          { s with
            state := ({} : RunState).setDebugTarget q.target.path q.target.sectionLine port
            ports := (s.ports.allocate r.isFree false).allocator })
        (goesBy_congr h rfl rfl) hr q
      simp only [Step.unasking, Call.unasked_append, unasked_probeCalls]
      exact congrArg (fun step : Step Outcome =>
        { step with
          calls := probeCalls r (s.ports.allocate r.isFree false).probed ++ step.calls }) hexecuted

theorem goesBy_requested (h : s.GoesBy default) (hr : r.Accepts default) (mode : Mode)
    (q : Request)
    : (s.requested r mode q).session.GoesBy default := by
  by_cases hport : s.FindsPort r mode
  . have hfollows := requested_follows q hport
    exact goesBy_congr (prepare_accepting h hr q).2 hfollows.settings hfollows.runnerClass
  . obtain ⟨-, -, hsettings, -, hrunner⟩ := requested_of_not_findsPort q hport
    exact goesBy_congr h hsettings hrunner

end Session

def Turn.Accepts (turn : Turn) (default : Option String) : Prop :=
  match turn with
  | .request _ _ r | .repeatLast r => r.Accepts default
  | .takeDebugTarget | .debugPort _ => True

namespace Entry

def unasking (e : Entry) (default : Option String) : Entry :=
  ⟨e.session.unasking default, e.turn⟩

/-- What a turn has in common with the same turn in the session that does not ask. -/
structure Agrees (e e' : Entry) (default : Option String) : Prop where
  after : e'.after = e.after.unasking default
  result : e'.result? = e.result?
  calls : e'.calls = Call.unasked e.calls

variable {e : Entry} {default : Option String}

theorem started?_unasking (e : Entry) (default : Option String)
    : (e.unasking default).started? = e.started? := by
  rcases e with ⟨s, turn⟩
  cases turn <;> rfl

theorem replies_of_started {mode : Mode} {q : Request} {r : Replies}
    (h : e.started? = some (mode, q, r)) (hturn : e.turn.Accepts default)
    : r.Accepts default := by
  rcases e with ⟨s, turn⟩
  cases turn with
  | request mode' q' r' =>
    obtain ⟨rfl, rfl, rfl⟩ : mode' = mode ∧ q' = q ∧ r' = r := by
      simpa [started?] using h
    exact hturn
  | repeatLast r' =>
    simp only [started?, Option.map_eq_some_iff, Prod.mk.injEq] at h
    obtain ⟨_, -, -, -, rfl⟩ := h
    exact hturn
  | takeDebugTarget => cases h
  | debugPort r' => cases h

theorem agrees_unasking (h : e.session.GoesBy default) (hturn : e.turn.Accepts default)
    : e.Agrees (e.unasking default) default ∧ e.after.GoesBy default := by
  cases hstarted : e.started? with
  | some started =>
    obtain ⟨mode, q, r⟩ := started
    have hr := replies_of_started hstarted hturn
    have hstarted' := (e.started?_unasking default).trans hstarted
    obtain ⟨hafter, hcalls⟩ := e.eq_requested_of_started hstarted
    obtain ⟨hafter', hcalls'⟩ := eq_requested_of_started hstarted'
    have hstep := requested_unasking h hr mode q
    refine ⟨⟨?_, ?_, ?_⟩, ?_⟩
    . rw [hafter, hafter']
      exact (congrArg Step.session hstep).symm
    . rw [result?_of_started hstarted, result?_of_started hstarted']
      exact congrArg some (congrArg Step.result hstep).symm
    . rw [hcalls, hcalls']
      exact (congrArg Step.calls hstep).symm
    . rw [hafter]
      exact goesBy_requested h hr mode q
  | none =>
    -- without a request there is neither a question nor a command
    have hstarted' := (e.started?_unasking default).trans hstarted
    rcases e with ⟨s, turn⟩
    cases turn with
    | request mode q r => cases hstarted
    | repeatLast r =>
      have hlast := repeatLast_of_not_started hstarted
      have hlast' : (s.unasking default).repeatLast r = _ := repeatLast_of_not_started hstarted'
      refine ⟨⟨?_, ?_, ?_⟩, ?_⟩
      . simp [after, unasking, hlast, hlast']
      . simp [result?, unasking, hlast, hlast']
      . simp [calls, unasking, hlast, hlast', Call.unasked]
      . simpa [after, hlast] using h
    | takeDebugTarget => exact ⟨⟨rfl, rfl, rfl⟩, goesBy_congr h rfl rfl⟩
    | debugPort r =>
      refine ⟨⟨rfl, rfl, ?_⟩, goesBy_congr h rfl rfl⟩
      exact (unasked_probeCalls r _).symm

theorem Agrees.executed {e' : Entry} (h : e.Agrees e' default) : e'.executed = e.executed := by
  have hfilter (calls : List Call)
      : (Call.unasked calls).filterMap Call.executed? = calls.filterMap Call.executed? := by
    rw [Call.unasked, List.filterMap_filter]
    congr 1
    funext call
    cases call <;> rfl
  unfold Entry.executed
  rw [h.calls, hfilter]

end Entry

namespace Session

theorem log_unasking {s : Session} {default : Option String} (h : s.GoesBy default)
    {turns : List Turn} (hturns : ∀ turn ∈ turns, turn.Accepts default)
    : (s.unasking default).log turns = (s.log turns).map (·.unasking default)
      ∧ (∀ e ∈ s.log turns, e.Agrees (e.unasking default) default)
      ∧ (s.unasking default).afterAll turns = (s.afterAll turns).unasking default := by
  induction turns generalizing s with
  | nil => simp [log, afterAll]
  | cons turn turns ih =>
    obtain ⟨hturn, hturns⟩ := List.forall_mem_cons.1 hturns
    obtain ⟨hagrees, hgoes⟩ := Entry.agrees_unasking (e := ⟨s, turn⟩) h hturn
    obtain ⟨hlog, hall, hafter⟩ := ih hgoes hturns
    have hnext : (Entry.mk (s.unasking default) turn).after
        = (Entry.mk s turn).after.unasking default := hagrees.after
    refine ⟨?_, ?_, ?_⟩
    . rw [log, log, hnext, hlog]
      rfl
    . rw [log]
      exact List.forall_mem_cons.2 ⟨hagrees, hall⟩
    . rw [afterAll, afterAll, hnext, hafter]

theorem goesBy_start {settings : Settings} (h : settings.runner.promptToSpecify = true)
    (platform : Command.Platform)
    : (start settings platform).GoesBy settings.runner.default :=
  ⟨⟨h, rfl, id⟩, nofun⟩

end Session

/-- If every question is answered with its default, which has no blanks around it or can be saved
without them, then not to ask at all comes to the same: all turns have the same results and hand
the same commands to the executor, and the history is the same. Of the calls, only the questions and
the saves of their answers are missing. -/
theorem log_accepting {settings : Settings} (hprompt : settings.runner.promptToSpecify = true)
    (platform : Command.Platform) {turns : List Turn}
    (haccepts : ∀ turn ∈ turns, turn.Accepts settings.runner.default)
    : ((start (settings.unasking settings.runner.default) platform).log turns).map Entry.result?
          = ((start settings platform).log turns).map Entry.result?
      ∧ ((start (settings.unasking settings.runner.default) platform).log turns).map Entry.executed
          = ((start settings platform).log turns).map Entry.executed
      ∧ ((start (settings.unasking settings.runner.default) platform).afterAll turns).history
          = ((start settings platform).afterAll turns).history
      ∧ ((start (settings.unasking settings.runner.default) platform).log turns).map Entry.calls
          = ((start settings platform).log turns).map fun e => Call.unasked e.calls := by
  have hstart : start (settings.unasking settings.runner.default) platform
      = (start settings platform).unasking settings.runner.default := rfl
  obtain ⟨hlog, hagrees, hafter⟩ := log_unasking (goesBy_start hprompt platform) haccepts
  rw [hstart, hlog, hafter]
  simp only [List.map_map]
  refine ⟨?_, ?_, rfl, ?_⟩
  . exact List.map_congr_left fun e he => (hagrees e he).result
  . exact List.map_congr_left fun e he => (hagrees e he).executed
  . exact List.map_congr_left fun e he => (hagrees e he).calls

def paddedSettings : Settings where
  runner := { default := some " UsersRunner\t", promptToSpecify := true }

def acceptingTurns : List Turn :=
  [.request .run ⟨.ofPath ⟨"/p/a.feature"⟩ .file, .run⟩
    { mavenReplies "" secondTask with answer := some },
   .repeatLast { mavenReplies "" secondTask with answer := some }]

def usersCommand : Command :=
  ⟨"mvn test -f \"/p/pom.xml\" -Dtest=UsersRunner \"-Dkarate.options=/p/a.feature\"", ⟨"/p"⟩⟩

theorem log_accepting_paddedDefault
    : paddedSettings.runner.promptToSpecify = true
      ∧ ¬ IsTrimmed paddedSettings.runner.default
      ∧ (∀ turn ∈ acceptingTurns, turn.Accepts paddedSettings.runner.default)
      ∧ ((start (paddedSettings.unasking (some " UsersRunner\t")) .posix).log acceptingTurns).map
          Entry.executed = [[usersCommand], [usersCommand]] := by
  have haccepts : ∀ turn ∈ acceptingTurns, turn.Accepts paddedSettings.runner.default := by
    rintro turn (_ | ⟨_, _ | ⟨_, ⟨⟩⟩⟩)
    . exact ⟨fun _ => rfl, .inr fun _ => rfl⟩
    . exact ⟨fun _ => rfl, .inr fun _ => rfl⟩
  refine ⟨rfl, ?_, haccepts, ?_⟩
  . intro h
    exact absurd (h _ rfl) (by decide +kernel)
  . obtain ⟨-, hexecuted, -⟩ := @log_accepting paddedSettings rfl .posix _ haccepts
    refine hexecuted.trans ?_
    decide +kernel

end FeatureRunner
