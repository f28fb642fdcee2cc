import FeatureRunner.Proofs.Command.Needs
import FeatureRunner.Proofs.Session.Calls
import FeatureRunner.Proofs.Session.Choosing
import FeatureRunner.Proofs.Session.Preparing

/-!
This module contains what a request makes of a command that cannot be put together. It is skipped and
the reason is told; only a save that the outside has refused lets a preparation fail otherwise.
`synthesize_runnable_or_hindered` says when there is a command, which reason there is if not, and
that whatever a request fails with was answered to one of its calls (`Refused`).
-/

namespace FeatureRunner

open Session

/-- The failure is what the outside has answered to one of the calls, or that no port is free. -/
inductive Refused (r : Replies) (calls : List Call) : Failure → Prop where
  | noPort (hprobes : ∀ port ∈ PortAllocator.searched, .probe port false ∈ calls)
      : Refused r calls (.resourceExhausted PortAllocator.firstPort PortAllocator.lastPort)
  | unsaved {s : Settings} {f : Failure} (hmem : .save s ∈ calls) (hs : r.save s = .error f)
      : Refused r calls f
  | unwatched {glob : String} {root : Path} {f : Failure} (hmem : .watch glob root ∈ calls)
      (hw : r.watch glob root = .error f)
      : Refused r calls f
  | unlaunched {name : String} {c : Command} {f : Failure} (hmem : .execute name c ∈ calls)
      (hl : r.launch c = .error f)
      : Refused r calls f

theorem Refused.behind {r : Replies} {calls : List Call} {f : Failure} (h : Refused r calls f)
    (before : List Call)
    : Refused r (before ++ calls) f := by
  cases h with
  | noPort hprobes => exact .noPort fun port hport => List.mem_append_right _ (hprobes port hport)
  | unsaved hmem hs => exact .unsaved (List.mem_append_right _ hmem) hs
  | unwatched hmem hw => exact .unwatched (List.mem_append_right _ hmem) hw
  | unlaunched hmem hl => exact .unlaunched (List.mem_append_right _ hmem) hl

namespace Session

variable {s : Session} {r : Replies} {q : Request} {f : Failure}

theorem chooseRunnerClass_error {system : BuildSystem}
    (h : (s.chooseRunnerClass r system).result = .error f)
    : ∃ settings, .save settings ∈ (s.chooseRunnerClass r system).calls
        ∧ r.save settings = .error f := by
  by_cases hasks : s.asks system = true → s.runnerClass = none
  . rw [chooseRunnerClass_of_new hasks] at h ⊢
    have hchoosing := RunnerClass.choose_choosing system s.settings r.answer r.save
    generalize RunnerClass.choose system s.settings r.answer r.save = choice at *
    cases hchoosing with
    | unsaved _ _ _ _ hs =>
      obtain rfl := Except.error.inj h
      exact ⟨_, by simp, hs⟩
    | _ => cases h
  . obtain ⟨hasks, hsome⟩ := Classical.not_imp.1 hasks
    obtain ⟨name, hname⟩ := Option.ne_none_iff_exists'.1 hsome
    rw [chooseRunnerClass_of_remembered hasks hname] at h
    cases h

theorem prepare_error (h : (s.prepare r q).result = .error f)
    : f.isSilent = true
      ∨ ∃ settings, .save settings ∈ (s.prepare r q).calls ∧ r.save settings = .error f := by
  rw [prepare_eq] at h ⊢
  dsimp at h ⊢
  cases hchosen : (s.chooseRunnerClass r
      (Project.resolve r.isFile q.target.path q.target.kind).buildSystem).result with
  | error g =>
    rw [hchosen] at h
    obtain rfl : g = f := Except.error.inj h
    exact .inr (chooseRunnerClass_error hchosen)
  | ok runnerClass =>
    rw [hchosen, Except.bind] at h
    have hattempt := Command.attempt_synthesize
      (s.chooseRunnerClass r (Project.resolve r.isFile q.target.path
        q.target.kind).buildSystem).session.settings
      s.platform (Project.resolve r.isFile q.target.path q.target.kind) q.target q.mode runnerClass
    generalize Command.synthesize _ _ _ _ _ _ = made at h hattempt
    cases made with
    | ok c => cases h
    | error g =>
      obtain rfl : g = f := Except.error.inj h
      exact .inl (Command.Hindered.isSilent hattempt)

theorem Execution.refused {step : Step Outcome} (h : Execution s r q step)
    (hf : step.result = .error f)
    : Refused r step.calls f := by
  cases h with
  | @unprepared s' pre g hp =>
    have hprepared := hp.step
    have hcause := @prepare_error { s with phase := .preparing } r q g (by rw [hprepared])
    rw [hprepared] at hcause
    rcases hcause with hsilent | ⟨settings, hmem, hs⟩
    . simp [giveUp, hsilent] at hf
    . have hg : g = f := by
        unfold giveUp at hf
        dsimp only at hf
        split at hf
        . cases hf
        . exact Except.error.inj hf
      exact .unsaved (List.mem_append_left _ hmem) (hg ▸ hs)
  | unwatched hp hw =>
    obtain rfl := Except.error.inj hf
    exact .unwatched (by simp) hw
  | unlaunched hp hw hl =>
    obtain rfl := Except.error.inj hf
    exact @Refused.unlaunched _ _ taskName _ _ (by simp) hl
  | completed => cases hf

/-- A request fails with nothing but what the outside has refused. -/
theorem requested_refused {mode : Mode} (hf : (s.requested r mode q).result = .error f)
    : Refused r (s.requested r mode q).calls f := by
  have hhandling := requested_handling s r mode q
  generalize s.requested r mode q = step at *
  cases hhandling with
  | run h => exact h.refused hf
  | exhausted ha =>
    obtain ⟨rfl, hprobed, hbusy⟩ := PortAllocator.allocate_error ha
    obtain rfl := Except.error.inj hf
    refine .noPort fun port hport => ?_
    dsimp only
    rw [hprobed, ← hbusy port hport]
    exact List.mem_map_of_mem hport
  | debug ha h => exact (h.refused hf).behind _

theorem skipped_of_prepare_error {mode : Mode} (hport : s.FindsPort r mode)
    (hsaves : ∀ settings, .save settings ∈ (s.requested r mode q).calls →
      r.save settings = .ok ())
    (h : (s.prepare r q).result = .error f)
    : f.isSilent = true ∧ (s.requested r mode q).result = .ok (.skipped f.message) := by
  have hfollows := requested_follows q hport
  rcases prepare_error h with hsilent | ⟨settings, hmem, hs⟩
  . exact ⟨hsilent, hfollows.skipped f h hsilent⟩
  . rw [← hfollows.calls] at hmem
    obtain ⟨call, hcall, heq⟩ := List.mem_filterMap.1 hmem
    obtain rfl : call = .save settings := by
      cases call <;> simp_all [Call.preparing?]
    rw [hsaves settings hcall] at hs
    cases hs

end Session

/-- There is a command exactly if everything needed for it is there, and it runs in the directory of
the project. Otherwise the failure tells what is missing first: the build system, which a project
without a descriptor does not have, the command line of the settings, by the key that it is written
under, or the runner class. Such a failure is silent, so a request that fails has it from outside. -/
theorem synthesize_runnable_or_hindered (s : Settings) (platform : Command.Platform) (p : Project)
    (t : TestTarget) (mode : Mode) (runnerClass : Option String)
    : ((∃ c, Command.synthesize s platform p t mode runnerClass = .ok c)
          ↔ Command.Runnable s p runnerClass)
      ∧ (∀ c, Command.synthesize s platform p t mode runnerClass = .ok c → c.directory = p.root)
      ∧ (∀ f, Command.synthesize s platform p t mode runnerClass = .error f
          ↔ Command.Hindered s p t runnerClass f)
      ∧ (p.isResolved = false → p.buildSystem = .unresolved)
      ∧ (∀ n, Command.Needs s p.buildSystem n → n.IsWritten s)
      ∧ (∀ f, Command.Hindered s p t runnerClass f → f.isSilent = true)
      ∧ ∀ (session : Session) (r : Replies) (mode : Mode) (q : Request) (f : Failure),
          (session.FindsPort r mode →
            (∀ settings, .save settings ∈ (session.requested r mode q).calls →
              r.save settings = .ok ()) →
            (session.prepare r q).result = .error f →
            f.isSilent = true ∧ (session.requested r mode q).result = .ok (.skipped f.message))
          ∧ ((session.requested r mode q).result = .error f →
            Refused r (session.requested r mode q).calls f) :=
  ⟨Command.exists_synthesize_iff, fun _ => Command.directory_of_synthesize,
    fun _ => Command.synthesize_eq_error_iff, Project.buildSystem_of_not_isResolved,
    fun _ hneeds => hneeds.isWritten, fun _ hhindered => hhindered.isSilent,
    fun _ _ _ _ _ => ⟨skipped_of_prepare_error, requested_refused⟩⟩

def disabledSettings : Settings :=
  { askingSettings with maven := { commandLineArgs := none } }

theorem synthesize_runnable_or_hindered_disabledSettings
    : Command.synthesize disabledSettings .posix ⟨⟨"/p"⟩, ⟨"/p/pom.xml"⟩⟩
          (.ofPath ⟨"/p/a.feature"⟩ .file) .run none
        = .error (.configurationMissing "maven.command_line_args")
      ∧ ¬ Command.Runnable disabledSettings ⟨⟨"/p"⟩, ⟨"/p/pom.xml"⟩⟩ (some "UsersRunner")
      ∧ (start disabledSettings .posix).FindsPort (mavenReplies "UsersRunner" secondTask) .debug
      ∧ (∀ settings, .save settings ∈ ((start disabledSettings .posix).requested
            (mavenReplies "UsersRunner" secondTask) .debug
            ⟨.ofPath ⟨"/p/a.feature"⟩ .file, .debug⟩).calls →
          (mavenReplies "UsersRunner" secondTask).save settings = .ok ())
      ∧ ((start disabledSettings .posix).requested (mavenReplies "UsersRunner" secondTask) .debug
            ⟨.ofPath ⟨"/p/a.feature"⟩ .file, .debug⟩).result
        = .ok (.skipped "Configuration missing: maven.command_line_args") := by
  have hsystem : Project.buildSystem ⟨⟨"/p"⟩, ⟨"/p/pom.xml"⟩⟩ = .maven := by decide +kernel
  have hneeds : Command.Needs disabledSettings (Project.buildSystem ⟨⟨"/p"⟩, ⟨"/p/pom.xml"⟩⟩)
      ⟨"maven", none, true⟩ := by
    rw [hsystem]
    exact .maven rfl
  have hmet : ¬ Command.Need.IsMet ⟨"maven", none, true⟩ := fun hmet => hmet.1 rfl
  have hport : (start disabledSettings .posix).FindsPort (mavenReplies "UsersRunner" secondTask)
      .debug := fun _ => ⟨49152, by decide +kernel⟩
  obtain ⟨-, -, hhindered, -, -, -, hsession⟩ := synthesize_runnable_or_hindered disabledSettings
    .posix ⟨⟨"/p"⟩, ⟨"/p/pom.xml"⟩⟩ (.ofPath ⟨"/p/a.feature"⟩ .file) .run none
  refine ⟨(hhindered _).2 (.unset hneeds hmet), fun h => hmet (h.args _ hneeds), hport,
    fun _ _ => rfl, ?_⟩
  exact ((hsession (start disabledSettings .posix) (mavenReplies "UsersRunner" secondTask) .debug
    ⟨.ofPath ⟨"/p/a.feature"⟩ .file, .debug⟩ (.configurationMissing "maven.command_line_args")).1
    hport (fun _ _ => rfl) (by decide +kernel)).2

end FeatureRunner
