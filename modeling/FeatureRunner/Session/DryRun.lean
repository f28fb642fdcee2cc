import FeatureRunner.Session.RunnerClass
import FeatureRunner.Settings.Store

/-!
This module contains the dry run of a request, which finds the project, chooses a runner class and
puts the command together as a session does, but on a copy of the settings that is from no file.
-/

namespace FeatureRunner

structure DryRun where
  project : Project
  choice : RunnerClass.Choice
  /-- The command, unless a runner class could not be chosen or something is missing. -/
  command : Except Failure Command

namespace DryRun

def ofRequest (s : Settings) (root : Node) (cwd : List String) (platform : Command.Platform)
    (isFile : Path → Bool) (answer : String → Option String) (q : Request) : DryRun :=
  let project := Project.resolve isFile q.target.path q.target.kind
  let copy := SettingsStore.inMemory s
  let choice := RunnerClass.choose project.buildSystem copy.settings answer (copy.save root cwd)
  { project
    choice
    command := choice.result.bind
      (Command.synthesize choice.settings platform project q.target q.mode ·) }

end DryRun
end FeatureRunner
