import FeatureRunner.Session.Call

/-!
This module contains the choice of the JUnit runner class before a command is put together. Only
Maven and Gradle need one, and not when Karate is called directly. A prompted class that differs
from the default becomes the new default and is saved before it is used.
-/

namespace FeatureRunner

open FeatureRunner.Text

namespace RunnerClass

def promptTitle : String := "Karate Runner"

structure Choice where
  result : Except Failure (Option String)
  /-- The settings afterwards; a default that could not be saved is kept in them all the same. -/
  settings : Settings
  calls : List Call

def isNeeded (system : BuildSystem) (s : Settings) : Bool :=
  system.usesRunnerClass && !s.direct.overrideRunner

def shownDefault (s : Settings) : String :=
  s.runner.default.getD ""

/-- Takes over an answer that is not blank. -/
def accept (s : Settings) (save : Settings → Except Failure Unit) (asked : Call)
    (runnerClass : String) : Choice :=
  if runnerClass = shownDefault s then
    ⟨.ok (some runnerClass), s, [asked]⟩
  else
    let changed := s.withRunnerDefault runnerClass
    ⟨(save changed).map fun _ => some runnerClass, changed, [asked, .save changed]⟩

/--
Chooses the runner class. `answer` is what the user replies to a question with the given default,
`save` is how saving the settings ends.
-/
def choose (system : BuildSystem) (s : Settings) (answer : String → Option String)
    (save : Settings → Except Failure Unit) : Choice :=
  if !isNeeded system s then
    ⟨.ok none, s, []⟩
  else if !s.runner.promptToSpecify then
    ⟨.ok (Command.nonBlank s.runner.default), s, []⟩
  else
    let reply := answer (shownDefault s)
    let asked := Call.prompt promptTitle (shownDefault s) reply
    match Command.nonBlank reply with
    | none => ⟨.ok none, s, [asked]⟩
    | some runnerClass => accept s save asked runnerClass

end RunnerClass
end FeatureRunner
