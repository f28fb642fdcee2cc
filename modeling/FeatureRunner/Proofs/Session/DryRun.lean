import FeatureRunner.Cli.Execute
import FeatureRunner.Proofs.Command.Needs
import FeatureRunner.Proofs.Session.Choosing
import FeatureRunner.Proofs.Session.Preparing

/-!
This module contains how a dry run compares with the first request of a session on the same
settings and files, with the same user. `requested_foretold` says that it finds the command that
the session runs or the reason why it runs none, that both ask the same question, and that a dry run
leaves the files as they are.
-/

namespace FeatureRunner

open Session

/-- What a dry run tells about a step: its questions, and its command if the watch for reports
matching `glob` is created or the reason why there is none. -/
structure DryRun.Foretells (d : DryRun) (r : Replies) (glob : String) (step : Step Outcome)
    : Prop where
  questions : d.choice.calls.filterMap Call.question? = step.calls.filterMap Call.question?
  command : ∀ c, d.command = .ok c → r.watch glob d.project.root = .ok () →
    step.calls.filterMap Call.executed? = [c]
  nothing : ∀ f, d.command = .error f →
    f.isSilent = true ∧ step.result = .ok (.skipped f.message)
      ∧ step.calls.filterMap Call.executed? = []

namespace DryRun

theorem result_ne_error (system : BuildSystem) (s : Settings) (answer : String → Option String)
    (f : Failure)
    : (RunnerClass.choose system s answer fun _ => .ok ()).result ≠ .error f := by
  have hchoosing := RunnerClass.choose_choosing system s answer fun _ => .ok ()
  generalize RunnerClass.choose system s answer _ = choice at *
  cases hchoosing with
  | unsaved _ _ _ _ hs => cases hs
  | _ => simp

theorem isSilent_of_command {s : Settings} {root : Node} {cwd : List String}
    {platform : Command.Platform} {isFile : Path → Bool} {answer : String → Option String}
    {q : Request} {f : Failure}
    (h : (ofRequest s root cwd platform isFile answer q).command = .error f)
    : f.isSilent = true := by
  dsimp only [ofRequest, SettingsStore.save_inMemory, SettingsStore.settings_inMemory] at h
  cases hresult : (RunnerClass.choose (Project.resolve isFile q.target.path
      q.target.kind).buildSystem s answer fun _ => .ok ()).result with
  | error g => exact absurd hresult (result_ne_error _ s answer g)
  | ok runnerClass =>
    rw [hresult] at h
    change Command.synthesize _ platform _ q.target q.mode runnerClass = .error f at h
    exact (Command.synthesize_eq_error_iff.1 h).isSilent

end DryRun

namespace Session

/-- A new session prepares its first request as a dry run does. -/
theorem prepare_start (s : Settings) (root : Node) (cwd : List String)
    (platform : Command.Platform) {r : Replies} (q : Request) (hsave : ∀ s, r.save s = .ok ())
    : ((start s platform).prepare r q).result
          = (DryRun.ofRequest s root cwd platform r.isFile r.answer q).command.map
              ((DryRun.ofRequest s root cwd platform r.isFile r.answer q).project, ·)
      ∧ ((start s platform).prepare r q).calls
          = (DryRun.ofRequest s root cwd platform r.isFile r.answer q).choice.calls := by
  have hsave : r.save = fun _ => .ok () := funext hsave
  rw [prepare_eq]
  dsimp only [DryRun.ofRequest, SettingsStore.save_inMemory, SettingsStore.settings_inMemory]
  rw [chooseRunnerClass_of_new (fun _ => rfl), hsave]
  refine ⟨?_, rfl⟩
  cases h : (RunnerClass.choose _ s r.answer fun _ => .ok ()).result with
  | error f => simp [start, h, Except.bind, Except.map]
  | ok runnerClass => simp [start, h, Except.bind]

theorem reports_prepare (s : Session) (r : Replies) (q : Request)
    : (s.prepare r q).session.settings.reports = s.settings.reports := by
  obtain ⟨_, _, heq, rfl | ⟨_, rfl⟩⟩ := s.prepare_session r q
  . rw [heq]
  . rw [heq]
    rfl

end Session

theorem foretells_requested (s : Settings) (root : Node) (cwd : List String)
    (platform : Command.Platform) {r : Replies} {mode : Mode} (q : Request)
    (hsave : ∀ s, r.save s = .ok ()) (hport : (start s platform).FindsPort r mode)
    : (DryRun.ofRequest s root cwd platform r.isFile r.answer q).Foretells r s.reports.toTarget
        ((start s platform).requested r mode q) := by
  have hfollows := requested_follows q hport
  obtain ⟨hresult, hcalls⟩ := prepare_start s root cwd platform q hsave
  have hreports := reports_prepare (start s platform) r q
  refine ⟨?_, ?_, ?_⟩
  . rw [hfollows.questions, hcalls]
  . intro c hc hw
    rw [hc] at hresult
    rw [hfollows.executed, Step.handedOver, hresult, hreports]
    simp [Except.map, start, hw]
  . intro f hf
    have hsilent := DryRun.isSilent_of_command hf
    rw [hf] at hresult
    refine ⟨hsilent, hfollows.skipped f hresult hsilent, ?_⟩
    rw [hfollows.executed, Step.handedOver, hresult]
    rfl

namespace Cli

def foundLines (d : DryRun) : List String :=
  match d.command with
  | .ok command => Listing.ofCommand d.project command
  | .error f => Listing.nothing f.message

theorem savedRoot_inMemory (e : Surroundings) (s : Settings) (calls : List Call)
    : savedRoot e (.inMemory s) calls = e.root := by
  unfold savedRoot
  generalize e.root = root
  induction calls with
  | nil => rfl
  | cons call calls ih => cases call <;> exact ih

theorem dryRun_eq (e : Surroundings) (s : Settings) (q : Request)
    : dryRun e s q
        =
      .ok
        { output := linesText (foundLines
            (DryRun.ofRequest s e.root e.cwd .posix e.view.isFile (answer e) q))
          errors := questions
            (DryRun.ofRequest s e.root e.cwd .posix e.view.isFile (answer e) q).choice.calls
          root := e.root } := by
  unfold dryRun foundLines
  simp only [savedRoot_inMemory]
  cases h : (DryRun.ofRequest s e.root e.cwd .posix e.view.isFile (answer e) q).command with
  | ok command => rfl
  | error f => simp [DryRun.isSilent_of_command h]

theorem questions_congr {calls calls' : List Call}
    (h : calls.filterMap Call.question? = calls'.filterMap Call.question?)
    : questions calls = questions calls' := by
  have heq (calls : List Call) : questions calls
      = String.join ((calls.filterMap Call.question?).map fun (title, default, _) =>
          Prompt.question title default) := by
    unfold questions
    rw [List.map_filterMap]
    congr 2
    funext call
    cases call <;> rfl
  rw [heq, heq, h]

theorem exists_ok_of_bind {x : Except ε α} {k : α → Except ε β} {b : β} (h : x >>= k = .ok b)
    : ∃ a, x = .ok a ∧ k a = .ok b := by
  cases x with
  | error _ => cases h
  | ok a => exact ⟨a, rfl, h⟩

theorem root_of_execute_dry {e : Surroundings} {mode : Mode} {location : String}
    {tags : Option String} {t : Transcript} (h : execute e mode location tags true = .ok t)
    : t.root = e.root := by
  obtain ⟨target, _, h⟩ := exists_ok_of_bind h
  obtain ⟨request, _, h⟩ := exists_ok_of_bind h
  obtain ⟨store, _, h⟩ := exists_ok_of_bind h
  obtain ⟨_, _, h⟩ := exists_ok_of_bind h
  simp only [↓reduceIte, dryRun_eq] at h
  cases h
  rfl

end Cli

/-- A dry run tells what the first request of a session on the same settings does, in either mode,
with whatever answer to its question, as long as settings can be saved and a port is found. What the
program shows of it is just that, and no answer makes it change a file. -/
theorem requested_foretold (s : Settings) (root : Node) (cwd : List String)
    (platform : Command.Platform) {r : Replies} {mode : Mode} (q : Request)
    (hsave : ∀ s, r.save s = .ok ()) (hport : (start s platform).FindsPort r mode)
    : (DryRun.ofRequest s root cwd platform r.isFile r.answer q).Foretells r s.reports.toTarget
          ((start s platform).requested r mode q)
      ∧ (∀ e : Cli.Surroundings, e.view.isFile = r.isFile → Cli.answer e = r.answer →
          platform = .posix →
            ∃ t, Cli.dryRun e s q = .ok t
              ∧ t.output = Cli.linesText (Cli.foundLines
                  (DryRun.ofRequest s root cwd platform r.isFile r.answer q))
              ∧ t.errors = Cli.questions ((start s platform).requested r mode q).calls
              ∧ t.root = e.root)
      ∧ ∀ (e : Cli.Surroundings) (mode : Mode) (location : String) (tags : Option String)
          (t : Cli.Transcript), Cli.execute e mode location tags true = .ok t → t.root = e.root := by
  have hforetells := foretells_requested s root cwd platform q hsave hport
  refine ⟨hforetells, ?_, fun _ _ _ _ _ => Cli.root_of_execute_dry⟩
  rintro e hfile hanswer rfl
  rw [← Cli.questions_congr hforetells.questions, Cli.dryRun_eq, hfile, hanswer]
  exact ⟨_, rfl, rfl, rfl, rfl⟩

theorem requested_foretold_usersRunner
    : (∀ s, (mavenReplies "UsersRunner" secondTask).save s = .ok ())
      ∧ (start askingSettings .posix).FindsPort (mavenReplies "UsersRunner" secondTask) .debug
      ∧ ((start askingSettings .posix).requested (mavenReplies "UsersRunner" secondTask) .debug
          ⟨.ofPath ⟨"/p/a.feature"⟩ .file, .debug⟩).calls.filterMap Call.executed?
        = [⟨"mvn test -f \"/p/pom.xml\" -Dtest=UsersRunner \"-Dkarate.options=/p/a.feature\"",
            ⟨"/p"⟩⟩] := by
  have hport : (start askingSettings .posix).FindsPort (mavenReplies "UsersRunner" secondTask)
      .debug := fun _ => ⟨49152, by decide +kernel⟩
  have h := (requested_foretold askingSettings Node.emptyDirectory [] .posix
    ⟨.ofPath ⟨"/p/a.feature"⟩ .file, .debug⟩ (fun _ => rfl) hport).1.command
  exact ⟨fun _ => rfl, hport, h _ (by decide +kernel) rfl⟩

end FeatureRunner
