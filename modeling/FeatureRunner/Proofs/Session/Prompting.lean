import FeatureRunner.Proofs.Session.Choosing
import FeatureRunner.Proofs.Session.Preparing
import FeatureRunner.Proofs.Session.Turns

/-!
This module contains when a session asks for a runner class and what becomes of the answer. The
runner class that a session remembers is the one that was accepted in a turn before
(`runnerClass_afterAll_iff`); a session that remembers one neither asks again nor runs a build tool
with another one. `log_prompting` says so for all turns that can be taken.
-/

namespace FeatureRunner

open Session FeatureRunner.Text

/-- The calls ask a question that is answered with this class, blanks at its ends apart, and no save
of the answer fails. -/
def AcceptedIn (calls : List Call) (r : Replies) (name : String) : Prop :=
  (∃ title default text, .prompt title default (some text) ∈ calls ∧ trim text = name)
    ∧ name ≠ "" ∧ ∀ s, .save s ∈ calls → r.save s = .ok ()

theorem acceptedIn_preparing? {calls : List Call} {r : Replies} {name : String}
    : AcceptedIn (calls.filterMap Call.preparing?) r name ↔ AcceptedIn calls r name := by
  have hmem (call : Call) (h : call.preparing? = some call)
      : call ∈ calls.filterMap Call.preparing? ↔ call ∈ calls := by
    constructor
    . intro hmem
      obtain ⟨call', hmem', heq⟩ := List.mem_filterMap.1 hmem
      cases call' <;> simp_all [Call.preparing?]
    . intro hmem
      exact List.mem_filterMap.2 ⟨call, hmem, h⟩
  unfold AcceptedIn
  simp only [hmem (.prompt _ _ _) rfl, hmem (.save _) rfl]

theorem acceptedIn_question {title default : String} {answer : Option String} {r : Replies}
    {name : String}
    : AcceptedIn [.prompt title default answer] r name ↔ Command.nonBlank answer = some name := by
  rw [Command.nonBlank_eq_some_iff]
  constructor
  . rintro ⟨⟨_, _, text, hmem, htrim⟩, hne, -⟩
    obtain ⟨-, -, rfl⟩ : _ ∧ _ ∧ some text = answer := by simpa using hmem
    exact ⟨text, rfl, htrim, hne⟩
  . rintro ⟨text, rfl, htrim, hne⟩
    exact ⟨⟨title, default, text, by simp, htrim⟩, hne, by simp⟩

theorem acceptedIn_question_save {title default : String} {answer : Option String} {s : Settings}
    {r : Replies} {name : String}
    : AcceptedIn [.prompt title default answer, .save s] r name
        ↔ Command.nonBlank answer = some name ∧ r.save s = .ok () := by
  rw [← @acceptedIn_question title default answer r]
  simp [AcceptedIn, and_assoc]

namespace Session

def HasSettings (s : Session) (settings : Settings) : Prop :=
  s.settings = settings ∨ ∃ name, s.settings = settings.withRunnerDefault name

theorem asks_of_hasSettings {s : Session} {settings : Settings} (h : s.HasSettings settings)
    (system : BuildSystem)
    : s.asks system
        =
      (system.usesRunnerClass && !settings.direct.overrideRunner
        && settings.runner.promptToSpecify) := by
  unfold asks RunnerClass.isNeeded
  rcases h with h | ⟨name, h⟩
  . rw [h]
  . rw [h]
    rfl

section Prepare

variable {s : Session} {r : Replies} {q : Request} {system : BuildSystem}

theorem chooseRunnerClass_of_not_asks (hasks : s.asks system = false) (r : Replies)
    : (s.chooseRunnerClass r system).calls = []
      ∧ (s.chooseRunnerClass r system).session = s := by
  rw [chooseRunnerClass_of_new (by simp [hasks])]
  have hchoosing := RunnerClass.choose_choosing system s.settings r.answer r.save
  generalize RunnerClass.choose system s.settings r.answer r.save = choice at *
  cases hchoosing with
  | needless => simp [hasks]
  | unasked => simp [hasks]
  | cancelled hneeded hprompt => simp [asks, hneeded, hprompt] at hasks
  | kept hneeded hprompt => simp [asks, hneeded, hprompt] at hasks
  | saved hneeded hprompt => simp [asks, hneeded, hprompt] at hasks
  | unsaved hneeded hprompt => simp [asks, hneeded, hprompt] at hasks

theorem chooseRunnerClass_of_asks (hasks : s.asks system = true) (hnone : s.runnerClass = none)
    (r : Replies)
    : ((s.chooseRunnerClass r system).calls.filterMap Call.question?).length = 1
      ∧ ∀ name, (s.chooseRunnerClass r system).session.runnerClass = some name
          ↔ AcceptedIn (s.chooseRunnerClass r system).calls r name := by
  rw [chooseRunnerClass_of_new fun _ => hnone]
  have hchoosing := RunnerClass.choose_choosing system s.settings r.answer r.save
  generalize RunnerClass.choose system s.settings r.answer r.save = choice at *
  cases hchoosing with
  | needless hneeded => simp [asks, hneeded] at hasks
  | unasked _ hprompt => simp [asks, hprompt] at hasks
  | cancelled _ _ ha =>
    refine ⟨rfl, fun name => ?_⟩
    simp [acceptedIn_question, hasks, ha, Except.toOption]
  | kept _ _ ha =>
    refine ⟨rfl, fun name => ?_⟩
    simp [acceptedIn_question, hasks, ha, Except.toOption]
  | saved _ _ ha _ hs =>
    refine ⟨rfl, fun name => ?_⟩
    simp [acceptedIn_question_save, hasks, ha, hs, Except.toOption]
  | unsaved _ _ ha _ hs =>
    refine ⟨rfl, fun name => ?_⟩
    simp [acceptedIn_question_save, hasks, hnone, hs, Except.toOption]

theorem runnerClass_chooseRunnerClass_iff (s : Session) (r : Replies) (system : BuildSystem)
    (name : String)
    : (s.chooseRunnerClass r system).session.runnerClass = some name
        ↔
      s.runnerClass = some name ∨ AcceptedIn (s.chooseRunnerClass r system).calls r name := by
  have hnil : ¬ AcceptedIn [] r name := by simp [AcceptedIn]
  cases hasks : s.asks system with
  | false =>
    obtain ⟨hcalls, hsession⟩ := chooseRunnerClass_of_not_asks hasks r
    simp [hcalls, hsession, hnil]
  | true =>
    cases hs : s.runnerClass with
    | some other => simp [chooseRunnerClass_of_remembered hasks hs, hs, hnil]
    | none => simp [(chooseRunnerClass_of_asks hasks hs r).2]

theorem prepare_of_remembered {name : String}
    (hasks : s.asks (Project.resolve r.isFile q.target.path q.target.kind).buildSystem = true)
    (hname : (s.prepare r q).session.runnerClass = some name)
    : (s.prepare r q).result
        =
      (Command.synthesize s.settings s.platform
        (Project.resolve r.isFile q.target.path q.target.kind) q.target q.mode (some name)).map
          (Project.resolve r.isFile q.target.path q.target.kind, ·) := by
  rw [prepare_eq] at hname ⊢
  dsimp at hname ⊢
  cases hs : s.runnerClass with
  | some other =>
    rw [chooseRunnerClass_of_remembered hasks hs] at hname ⊢
    obtain rfl : other = name := by simpa [hs] using hname
    rfl
  | none =>
    have hsession := s.chooseRunnerClass_session r
      (Project.resolve r.isFile q.target.path q.target.kind).buildSystem
    rw [chooseRunnerClass_of_new fun _ => hs] at hname hsession ⊢
    generalize RunnerClass.choose _ s.settings r.answer r.save = choice at *
    obtain ⟨result, settings, calls⟩ := choice
    have hresult : result = .ok (some name) := by
      cases result <;> simp_all [Except.toOption]
    subst hresult
    obtain ⟨settings', _, heq, rfl | ⟨_, rfl⟩⟩ := hsession
    . obtain rfl : settings = s.settings := congrArg Session.settings heq
      rfl
    . obtain rfl : settings = s.settings.withRunnerDefault _ := congrArg Session.settings heq
      rfl

end Prepare

end Session

namespace Entry

/-- The turn starts a request that comes to its preparation, and the target belongs to a project. -/
def Prepares (e : Entry) (q : Request) (r : Replies) (p : Project) : Prop :=
  ∃ mode, e.started? = some (mode, q, r) ∧ e.session.FindsPort r mode
    ∧ p = Project.resolve r.isFile q.target.path q.target.kind

def questions (e : Entry) : List (String × String × Option String) :=
  e.calls.filterMap Call.question?

def executed (e : Entry) : List Command :=
  e.calls.filterMap Call.executed?

def Accepts (e : Entry) (name : String) : Prop :=
  ∃ mode q r, e.started? = some (mode, q, r) ∧ AcceptedIn e.calls r name

section Turn

variable {e : Entry} {q : Request} {r : Replies} {p : Project}

theorem follows (h : e.Prepares q r p)
    : ∃ result, Step.Follows ⟨result, e.after, e.calls⟩ r (e.session.prepare r q) := by
  obtain ⟨mode, hstarted, hport, -⟩ := h
  obtain ⟨hafter, hcalls⟩ := e.eq_requested_of_started hstarted
  have hfollows := requested_follows q hport
  rw [hafter, hcalls]
  exact ⟨_, hfollows⟩

theorem accepts_iff (h : e.Prepares q r p) (name : String)
    : e.Accepts name ↔ AcceptedIn (e.session.prepare r q).calls r name := by
  obtain ⟨result, hfollows⟩ := follows h
  obtain ⟨mode, hstarted, -, -⟩ := h
  rw [← hfollows.calls, acceptedIn_preparing?]
  constructor
  . rintro ⟨mode', q', r', heq, haccepted⟩
    obtain ⟨rfl, rfl, rfl⟩ : mode = mode' ∧ q = q' ∧ r = r' := by
      simpa [hstarted] using heq
    exact haccepted
  . intro haccepted
    exact ⟨mode, q, r, hstarted, haccepted⟩

/-- A turn without a preparation neither asks nor saves nor runs anything. -/
structure Inert (e : Entry) : Prop where
  preparing : e.calls.filterMap Call.preparing? = []
  executed : e.executed = []
  settings : e.after.settings = e.session.settings
  platform : e.after.platform = e.session.platform
  runnerClass : e.after.runnerClass = e.session.runnerClass

theorem inert_of_not_prepares (h : ∀ q r p, ¬ e.Prepares q r p) : e.Inert := by
  by_cases hstarted : e.started? = none
  . rcases e with ⟨s, turn⟩
    cases turn with
    | request mode q r => cases hstarted
    | repeatLast r =>
      constructor <;> simp [executed, calls, after, repeatLast_of_not_started hstarted]
    | takeDebugTarget => constructor <;> rfl
    | debugPort r =>
      refine ⟨?_, ?_, rfl, rfl, rfl⟩
      . exact filterMap_probeCalls (fun _ _ => rfl) r _
      . exact filterMap_probeCalls (fun _ _ => rfl) r _
  . obtain ⟨⟨mode, q, r⟩, hstarted⟩ := Option.ne_none_iff_exists'.1 hstarted
    have hport : ¬ e.session.FindsPort r mode := fun hport => h q r _ ⟨mode, hstarted, hport, rfl⟩
    obtain ⟨hafter, hcalls⟩ := e.eq_requested_of_started hstarted
    obtain ⟨hpreparing, hexecuted, hsettings, hplatform, hrunner⟩ :=
      requested_of_not_findsPort q hport
    rw [← hafter] at hsettings hplatform hrunner
    rw [← hcalls] at hpreparing hexecuted
    exact ⟨hpreparing, hexecuted, hsettings, hplatform, hrunner⟩

theorem questions_of_prepares (h : e.Prepares q r p)
    : e.questions
        =
      (e.session.chooseRunnerClass r p.buildSystem).calls.filterMap Call.question? := by
  obtain ⟨result, hfollows⟩ := follows h
  obtain ⟨_, _, _, rfl⟩ := h
  have hquestions := hfollows.questions
  rw [prepare_eq] at hquestions
  exact hquestions

theorem questions_of_not_prepares (h : ∀ q r p, ¬ e.Prepares q r p) : e.questions = [] := by
  rw [questions, ← filterMap_question?_preparing?, (inert_of_not_prepares h).preparing]
  rfl

theorem questions_of_not_asks
    (h : ∀ q r p, e.Prepares q r p → e.session.asks p.buildSystem = false)
    : e.questions = [] := by
  by_cases hp : ∃ q r p, e.Prepares q r p
  . obtain ⟨q, r, p, hp⟩ := hp
    rw [questions_of_prepares hp, (chooseRunnerClass_of_not_asks (h q r p hp) r).1]
    rfl
  . exact questions_of_not_prepares (by simpa using hp)

theorem questions_of_remembered {name : String} (h : e.session.runnerClass = some name)
    : e.questions = [] := by
  by_cases hp : ∃ q r p, e.Prepares q r p ∧ e.session.asks p.buildSystem = true
  . obtain ⟨q, r, p, hp, hasks⟩ := hp
    rw [questions_of_prepares hp, chooseRunnerClass_of_remembered hasks h]
    rfl
  . apply questions_of_not_asks
    intro q r p hprepares
    simpa using fun hasks => hp ⟨q, r, p, hprepares, hasks⟩

theorem runnerClass_after_iff (e : Entry) (name : String)
    : e.after.runnerClass = some name
        ↔
      e.session.runnerClass = some name ∨ e.Accepts name := by
  by_cases h : ∃ q r p, e.Prepares q r p
  . obtain ⟨q, r, p, h⟩ := h
    obtain ⟨result, hfollows⟩ := follows h
    have hrunner := hfollows.runnerClass
    rw [accepts_iff h]
    rw [prepare_eq] at hrunner ⊢
    dsimp at hrunner ⊢
    rw [hrunner]
    exact runnerClass_chooseRunnerClass_iff _ r _ name
  . have hinert := inert_of_not_prepares (e := e) (by simpa using h)
    have haccepts : ¬ e.Accepts name := by
      rintro ⟨mode, q, r, -, haccepted⟩
      rw [← acceptedIn_preparing?, hinert.preparing] at haccepted
      simp [AcceptedIn] at haccepted
    simp [hinert.runnerClass, haccepts]

theorem keeps_after {settings : Settings} (h : e.session.HasSettings settings)
    : e.after.HasSettings settings ∧ e.after.platform = e.session.platform := by
  by_cases hp : ∃ q r p, e.Prepares q r p
  . obtain ⟨q, r, p, hp⟩ := hp
    obtain ⟨result, hfollows⟩ := follows hp
    obtain ⟨settings', runnerClass, heq, hsettings⟩ := e.session.prepare_session r q
    have hafter := hfollows.settings
    have hplatform := hfollows.platform
    rw [heq] at hafter hplatform
    dsimp at hafter hplatform
    refine ⟨?_, hplatform⟩
    unfold HasSettings at *
    rw [hafter]
    rcases hsettings with rfl | ⟨name, rfl⟩
    . exact h
    . rcases h with h | ⟨_, h⟩
      . exact .inr ⟨name, by rw [h]⟩
      . exact .inr ⟨name, by rw [h]; rfl⟩
  . have hinert := inert_of_not_prepares (e := e) (by simpa using hp)
    refine ⟨?_, hinert.platform⟩
    unfold HasSettings
    rw [hinert.settings]
    exact h

theorem synthesize_of_executed {name : String} (h : e.Prepares q r p)
    (hasks : e.session.asks p.buildSystem = true) (hname : e.after.runnerClass = some name)
    {c : Command} (hc : c ∈ e.executed)
    : Command.synthesize e.session.settings e.session.platform p q.target q.mode (some name)
        = .ok c := by
  obtain ⟨result, hfollows⟩ := follows h
  obtain ⟨_, _, _, rfl⟩ := h
  rw [hfollows.runnerClass] at hname
  have hprepared := prepare_of_remembered hasks hname
  have hexecuted : e.executed = (e.session.prepare r q).handedOver r := hfollows.executed
  rw [hexecuted, Step.handedOver, hprepared] at hc
  generalize Command.synthesize _ _ _ _ _ _ = made at *
  cases made with
  | error f => simp [Except.map] at hc
  | ok c' =>
    simp only [Except.map] at hc
    split at hc <;> simp_all

end Turn

end Entry

namespace Session

theorem keeps_afterAll {s : Session} {settings : Settings} (h : s.HasSettings settings)
    (turns : List Turn)
    : (s.afterAll turns).HasSettings settings ∧ (s.afterAll turns).platform = s.platform := by
  induction turns generalizing s with
  | nil => exact ⟨h, rfl⟩
  | cons turn turns ih =>
    obtain ⟨hsettings, hplatform⟩ := Entry.keeps_after (e := ⟨s, turn⟩) h
    obtain ⟨hsettings', hplatform'⟩ := ih hsettings
    exact ⟨hsettings', hplatform'.trans hplatform⟩

theorem runnerClass_afterAll_iff (s : Session) (turns : List Turn) (name : String)
    : (s.afterAll turns).runnerClass = some name
        ↔
      s.runnerClass = some name ∨ ∃ e ∈ s.log turns, e.Accepts name := by
  induction turns generalizing s with
  | nil => simp [afterAll, log]
  | cons turn turns ih =>
    have hstep := Entry.runnerClass_after_iff ⟨s, turn⟩ name
    rw [afterAll, ih, hstep, log]
    simp [or_assoc]

theorem exists_afterAll_of_log {s : Session} {turns : List Turn} {before rest : List Entry}
    {e : Entry} (h : s.log turns = before ++ e :: rest)
    : ∃ earlier, before = s.log earlier ∧ e.session = s.afterAll earlier := by
  obtain ⟨earlier, turn, later, -, hbefore, rfl, -⟩ := exists_turns_of_log h
  exact ⟨earlier, hbefore, rfl⟩

end Session

theorem usesRunnerClass_eq (system : BuildSystem)
    : system.usesRunnerClass = decide (system ∈ [.maven, .gradleGroovy, .gradleKotlin]) := by
  cases system <;> rfl

/-- What a session does about runner classes in one turn of a log that begins with these settings
on this platform. -/
structure Prompted (settings : Settings) (platform : Command.Platform) (before : List Entry)
    (e : Entry) : Prop where
  once : settings.runner.promptToSpecify = true → settings.direct.overrideRunner = false →
    ∀ q r p, e.Prepares q r p → p.buildSystem ∈ [.maven, .gradleGroovy, .gradleKotlin] →
      (∀ e' ∈ before, ∀ name, ¬ e'.Accepts name) → e.questions.length = 1
  never_again : ∀ e' ∈ before, ∀ name, e'.Accepts name → e.questions = []
  same : settings.runner.promptToSpecify = true → settings.direct.overrideRunner = false →
    ∀ q r p, e.Prepares q r p → p.buildSystem ∈ [.maven, .gradleGroovy, .gradleKotlin] →
      ∀ e' ∈ before ++ [e], ∀ name, e'.Accepts name → ∀ c ∈ e.executed,
        Command.synthesize settings platform p q.target q.mode (some name) = .ok c
  needless : (settings.runner.promptToSpecify = false ∨ settings.direct.overrideRunner = true
      ∨ ∀ q r p, e.Prepares q r p → p.buildSystem ∉ [.maven, .gradleGroovy, .gradleKotlin]) →
    e.questions = []
  settings : e.session.HasSettings settings ∧ e.after.HasSettings settings

/-- While build tools are to be asked for, a session asks exactly once in every request that needs a
runner class until an answer is accepted, never after that, and runs build tools with that answer
from then on. Nothing else makes it ask, and of its settings only the default runner class
changes. -/
theorem log_prompting {settings : Settings} {platform : Command.Platform} {turns : List Turn}
    {before rest : List Entry} {e : Entry}
    (hlog : (start settings platform).log turns = before ++ e :: rest)
    : Prompted settings platform before e := by
  obtain ⟨earlier, rfl, hsession⟩ := exists_afterAll_of_log hlog
  obtain ⟨hsettings, hplatform⟩ :=
    @keeps_afterAll (start settings platform) settings (.inl rfl) earlier
  have hremembered (name : String) : e.session.runnerClass = some name
      ↔ ∃ e' ∈ (start settings platform).log earlier, e'.Accepts name := by
    rw [hsession, runnerClass_afterAll_iff]
    simp [start]
  rw [← hsession] at hsettings hplatform
  have hasks := asks_of_hasSettings hsettings
  refine ⟨?_, ?_, ?_, ?_, ?_⟩
  . intro hprompt hoverride q r p hp hsystem hnever
    have hnone : e.session.runnerClass = none := by
      rw [Option.eq_none_iff_forall_ne_some]
      intro name hname
      obtain ⟨e', hmem, haccepts⟩ := (hremembered name).1 hname
      exact hnever e' hmem name haccepts
    have hasks : e.session.asks p.buildSystem = true := by
      simp [hasks, hprompt, hoverride, usesRunnerClass_eq, hsystem]
    rw [Entry.questions_of_prepares hp]
    exact (chooseRunnerClass_of_asks hasks hnone r).1
  . intro e' hmem name haccepts
    exact Entry.questions_of_remembered ((hremembered name).2 ⟨e', hmem, haccepts⟩)
  . intro hprompt hoverride q r p hp hsystem e' hmem name haccepts c hc
    have hasks : e.session.asks p.buildSystem = true := by
      simp [hasks, hprompt, hoverride, usesRunnerClass_eq, hsystem]
    have hname : e.after.runnerClass = some name := by
      rw [Entry.runnerClass_after_iff, hremembered]
      rcases List.mem_append.1 hmem with hmem | hmem
      . exact .inl ⟨e', hmem, haccepts⟩
      . obtain rfl : e' = e := by simpa using hmem
        exact .inr haccepts
    have hmade := Entry.synthesize_of_executed hp hasks hname hc
    have hplatform : e.session.platform = platform := hplatform
    rw [hplatform] at hmade
    -- The default runner class is no part of a command that is given one.
    rcases hsettings with h | ⟨_, h⟩
    . rwa [h] at hmade
    . rw [h] at hmade
      exact hmade
  . intro h
    apply Entry.questions_of_not_asks
    intro q r p hp
    rw [hasks]
    rcases h with h | h | h
    . simp [h]
    . simp [h]
    . simp [usesRunnerClass_eq, h q r p hp]
  . exact ⟨hsettings, (Entry.keeps_after hsettings).1⟩

def answeredEntry : Entry where
  session := start askingSettings .posix
  turn := .request .run ⟨.ofPath ⟨"/p/a.feature"⟩ .file, .run⟩
    (mavenReplies "UsersRunner" secondTask)

def repeatedEntry : Entry where
  session := answeredEntry.after
  turn := .repeatLast (mavenReplies "OrdersRunner" secondTask)

theorem log_prompting_repeatedEntry
    : (start askingSettings .posix).log [answeredEntry.turn, repeatedEntry.turn]
        = [answeredEntry] ++ repeatedEntry :: []
      ∧ answeredEntry.Accepts "UsersRunner"
      ∧ repeatedEntry.questions = []
      ∧ ∃ c ∈ repeatedEntry.executed,
          Command.synthesize askingSettings .posix ⟨⟨"/p"⟩, ⟨"/p/pom.xml"⟩⟩
            (.ofPath ⟨"/p/a.feature"⟩ .file) .run (some "UsersRunner") = .ok c := by
  have haccepts : answeredEntry.Accepts "UsersRunner" := by
    refine ⟨.run, _, mavenReplies "UsersRunner" secondTask, rfl,
      ⟨RunnerClass.promptTitle, "TestRunner", "UsersRunner", ?_, ?_⟩, ?_, fun _ _ => rfl⟩
    . decide +kernel
    . decide +kernel
    . decide +kernel
  have hlast : repeatedEntry.session.history.getLast?
      = some ⟨.ofPath ⟨"/p/a.feature"⟩ .file, .run⟩ := by decide +kernel
  have hprepares : repeatedEntry.Prepares ⟨.ofPath ⟨"/p/a.feature"⟩ .file, .run⟩
      (mavenReplies "OrdersRunner" secondTask) ⟨⟨"/p"⟩, ⟨"/p/pom.xml"⟩⟩ := by
    refine ⟨.run, ?_, nofun, by decide +kernel⟩
    change repeatedEntry.session.history.getLast?.map _ = _
    rw [hlast]
    rfl
  have hprompted : Prompted askingSettings .posix [answeredEntry] repeatedEntry :=
    @log_prompting _ _ [answeredEntry.turn, repeatedEntry.turn] [answeredEntry] [] _ rfl
  refine ⟨rfl, haccepts, hprompted.never_again _ (by simp) _ haccepts, ?_⟩
  refine ⟨⟨"mvn test -f \"/p/pom.xml\" -Dtest=UsersRunner \"-Dkarate.options=/p/a.feature\"",
    ⟨"/p"⟩⟩, by decide +kernel, ?_⟩
  exact hprompted.same rfl rfl _ _ _ hprepares (by decide) _ (by simp) _ haccepts _
    (by decide +kernel)

end FeatureRunner
