import FeatureRunner.Proofs.Session.Handling

/-!
This module contains what the preparation of a request decides about the request as a whole. A
request asks and saves only while it is prepared, the settings and the runner class that it leaves
behind are those after the preparation, and the executor gets the command that was prepared or
none. `requested_follows` says so; it spares later proofs the ways in which a request can end.
-/

namespace FeatureRunner

open Session

namespace Call

def preparing? (call : Call) : Option Call :=
  match call with
  | .prompt _ _ _ | .save _ => some call
  | _ => none

def question? : Call → Option (String × String × Option String)
  | .prompt title default answer => some (title, default, answer)
  | _ => none

def executed? : Call → Option Command
  | .execute _ c => some c
  | _ => none

end Call

theorem filterMap_question?_preparing? (calls : List Call)
    : (calls.filterMap Call.preparing?).filterMap Call.question? = calls.filterMap Call.question? := by
  rw [List.filterMap_filterMap]
  congr 1
  funext call
  cases call <;> rfl

/-- The commands that the executor gets after a preparation: the one that was made, if the watch for
its reports is created. -/
def Step.handedOver (prepared : Step (Project × Command)) (r : Replies) : List Command :=
  match prepared.result with
  | .error _ => []
  | .ok (p, c) =>
    match r.watch prepared.session.settings.reports.toTarget p.root with
    | .error _ => []
    | .ok _ => [c]

structure Step.Follows (step : Step Outcome) (r : Replies) (prepared : Step (Project × Command))
    : Prop where
  calls : step.calls.filterMap Call.preparing? = prepared.calls
  settings : step.session.settings = prepared.session.settings
  platform : step.session.platform = prepared.session.platform
  runnerClass : step.session.runnerClass = prepared.session.runnerClass
  executed : step.calls.filterMap Call.executed? = prepared.handedOver r
  skipped : ∀ f, prepared.result = .error f → f.isSilent = true →
    step.result = .ok (.skipped f.message)

theorem Step.Follows.questions {step : Step Outcome} {r : Replies}
    {prepared : Step (Project × Command)} (h : step.Follows r prepared)
    : step.calls.filterMap Call.question? = prepared.calls.filterMap Call.question? := by
  rw [← h.calls, filterMap_question?_preparing?]

namespace Session

def FindsPort (s : Session) (r : Replies) (mode : Mode) : Prop :=
  mode = .debug → ∃ port, (s.ports.allocate r.isFree false).result = .ok port

theorem chooseRunnerClass_frame (s : Session) (state : RunState) (ports : PortAllocator)
    (phase : Phase) (r : Replies) (system : BuildSystem)
    : { s with state, ports, phase }.chooseRunnerClass r system
        =
      { s.chooseRunnerClass r system with
        session := { (s.chooseRunnerClass r system).session with state, ports, phase } } := by
  unfold chooseRunnerClass
  dsimp
  split
  . rfl
  . split
    . rfl
    . split
      . rfl
      . rfl

theorem prepare_frame (s : Session) (state : RunState) (ports : PortAllocator) (phase : Phase)
    (r : Replies) (q : Request)
    : { s with state, ports, phase }.prepare r q
        =
      { s.prepare r q with
        session := { (s.prepare r q).session with state, ports, phase } } := by
  unfold prepare
  dsimp
  rw [chooseRunnerClass_frame]
  dsimp
  split
  . rfl
  . rfl

theorem prepare_eq (s : Session) (r : Replies) (q : Request)
    : s.prepare r q
        =
      let project := Project.resolve r.isFile q.target.path q.target.kind
      let chosen := s.chooseRunnerClass r project.buildSystem
      { result := chosen.result.bind fun runnerClass =>
          (Command.synthesize chosen.session.settings s.platform project q.target q.mode
            runnerClass).map (project, ·)
        session := chosen.session
        calls := chosen.calls } := by
  unfold prepare
  dsimp
  split
  . next hchosen => rw [hchosen]; rfl
  . next hchosen => rw [hchosen]; rfl

theorem Prepared.eq_prepare {s s' : Session} {state : RunState} {ports : PortAllocator}
    {r : Replies} {q : Request} {result : Except Failure (Project × Command)} {pre : List Call}
    (h : Prepared { s with state, ports } r q result s' pre)
    : (s.prepare r q).result = result
      ∧ (s.prepare r q).calls = pre
      ∧ (s.prepare r q).session.settings = s'.settings
      ∧ (s.prepare r q).session.platform = s'.platform
      ∧ (s.prepare r q).session.runnerClass = s'.runnerClass := by
  have heq := (prepare_frame s state ports .preparing r q).symm.trans h.step
  injection heq with hresult hsession hcalls
  subst hsession
  exact ⟨hresult, hcalls, rfl, rfl, rfl⟩

end Session

section Projections

variable {f : Call → Option α}

theorem filterMap_taskCalls (hbusy : ∀ b, f (.busy b) = none)
    (hready : ∀ target, f (.debugReady target) = none) (hdrain : ∀ rs, f (.drain rs) = none)
    (hpoll : ∀ ts, f (.poll ts) = none) (hdispose : f .dispose = none)
    (target : Option DebugTarget) (t : Task) (n : Nat)
    : (taskCalls target t n).filterMap f = [] := by
  have hrounds : (t.rounds (List.range (n + 1))).filterMap f = [] := by
    simp [Task.rounds, List.filterMap_flatMap, hdrain, hpoll]
  unfold taskCalls
  simp only [List.filterMap_append, hrounds]
  cases target <;> simp [hbusy, hready, hdrain, hdispose]

theorem Preparation.filterMap_preparing? {settings : Settings} {r : Replies} {pre : List Call}
    (h : Preparation settings r pre)
    : pre.filterMap Call.preparing? = pre := by
  cases h <;> rfl

theorem Preparation.filterMap_executed? {settings : Settings} {r : Replies} {pre : List Call}
    (h : Preparation settings r pre)
    : pre.filterMap Call.executed? = [] := by
  apply h.filterMap_eq_nil <;> intros <;> rfl

end Projections

namespace Session

theorem Execution.follows {s : Session} {state : RunState} {ports : PortAllocator} {r : Replies}
    {q : Request} {step : Step Outcome} (h : Execution { s with state, ports } r q step)
    : step.Follows r (s.prepare r q) := by
  have htask (target : Option DebugTarget) (t : Task) (n : Nat)
      : (taskCalls target t n).filterMap Call.preparing? = []
        ∧ (taskCalls target t n).filterMap Call.executed? = [] := by
    constructor <;> apply filterMap_taskCalls <;> intros <;> rfl
  have hopening (settings : Settings) (reports : List Path)
      : (openingCalls settings r reports).filterMap Call.preparing? = []
        ∧ (openingCalls settings r reports).filterMap Call.executed? = [] := by
    constructor <;> apply filterMap_openingCalls <;> intros <;> rfl
  -- However the request goes, its settings, its platform and its class are those of the preparation.
  cases h with
  | @unprepared s' pre f hp =>
    obtain ⟨hresult, hcalls, hsettings, hplatform, hrunner⟩ := hp.eq_prepare
    refine ⟨?_, hsettings.symm, hplatform.symm, hrunner.symm, ?_, ?_⟩
    . simp [giveUp, hcalls, hp.calls.filterMap_preparing?, List.filterMap_cons, Call.preparing?]
    . simp [giveUp, hp.calls.filterMap_executed?, List.filterMap_cons, Call.executed?,
        Step.handedOver, hresult]
    . intro g hg hsilent
      obtain rfl : f = g := Except.error.inj (hresult.symm.trans hg)
      simp [giveUp, hsilent]
  | @unwatched s' pre p c f hp hw =>
    obtain ⟨hresult, hcalls, hsettings, hplatform, hrunner⟩ := hp.eq_prepare
    refine ⟨?_, hsettings.symm, hplatform.symm, hrunner.symm, ?_, ?_⟩
    . simp [hcalls, hp.calls.filterMap_preparing?, List.filterMap_cons, Call.preparing?]
    . simp [hp.calls.filterMap_executed?, List.filterMap_cons, Call.executed?, Step.handedOver,
        hresult, hsettings, hw]
    . simp [hresult]
  | @unlaunched s' pre p c f hp hw hl =>
    obtain ⟨hresult, hcalls, hsettings, hplatform, hrunner⟩ := hp.eq_prepare
    refine ⟨?_, hsettings.symm, hplatform.symm, hrunner.symm, ?_, ?_⟩
    . simp [hcalls, hp.calls.filterMap_preparing?, List.filterMap_cons, Call.preparing?]
    . simp [hp.calls.filterMap_executed?, List.filterMap_cons, Call.executed?, Step.handedOver,
        hresult, hsettings, hw]
    . simp [hresult]
  | @completed s' pre p c t n reports hp hw hl hn hr =>
    obtain ⟨hresult, hcalls, hsettings, hplatform, hrunner⟩ := hp.eq_prepare
    refine ⟨?_, hsettings.symm, hplatform.symm, hrunner.symm, ?_, ?_⟩
    . simp [hcalls, hp.calls.filterMap_preparing?, htask, hopening, List.filterMap_cons,
        Call.preparing?]
    . simp [hp.calls.filterMap_executed?, htask, hopening, List.filterMap_cons, Call.executed?,
        Step.handedOver, hresult, hsettings, hw]
    . simp [hresult]

theorem requested_follows {s : Session} {r : Replies} {mode : Mode} (q : Request)
    (hport : s.FindsPort r mode)
    : (s.requested r mode q).Follows r (s.prepare r q) := by
  have hhandling := requested_handling s r mode q
  generalize s.requested r mode q = step at *
  cases hhandling with
  | run h => exact h.follows
  | exhausted ha =>
    obtain ⟨port, hok⟩ := hport rfl
    simp [ha] at hok
  | debug ha h =>
    have hfollows := h.follows
    refine ⟨?_, hfollows.settings, hfollows.platform, hfollows.runnerClass, ?_, hfollows.skipped⟩
    . rw [List.filterMap_append, filterMap_probeCalls (fun _ _ => rfl)]
      exact hfollows.calls
    . rw [List.filterMap_append, filterMap_probeCalls (fun _ _ => rfl)]
      exact hfollows.executed

theorem requested_of_not_findsPort {s : Session} {r : Replies} {mode : Mode} (q : Request)
    (hport : ¬ s.FindsPort r mode)
    : (s.requested r mode q).calls.filterMap Call.preparing? = []
      ∧ (s.requested r mode q).calls.filterMap Call.executed? = []
      ∧ (s.requested r mode q).session.settings = s.settings
      ∧ (s.requested r mode q).session.platform = s.platform
      ∧ (s.requested r mode q).session.runnerClass = s.runnerClass := by
  have hhandling := requested_handling s r mode q
  generalize s.requested r mode q = step at *
  cases hhandling with
  | run _ => exact absurd nofun hport
  | exhausted ha =>
    refine ⟨?_, ?_, rfl, rfl, rfl⟩
    . exact filterMap_probeCalls (fun _ _ => rfl) r _
    . exact filterMap_probeCalls (fun _ _ => rfl) r _
  | debug ha _ => exact absurd (fun _ => ⟨_, ha⟩) hport

end Session

def mavenReplies (name : String) (t : Task) : Replies :=
  { jarReplies t with
    isFile := fun p => p.text == "/p/pom.xml"
    answer := fun _ => some name }

end FeatureRunner
