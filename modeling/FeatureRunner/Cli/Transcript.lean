import FeatureRunner.Cli.Listing
import FeatureRunner.Cli.Trouble
import FeatureRunner.Files.Lookup

/-!
This module contains what a command line program is given and what it leaves behind.
-/

namespace FeatureRunner
namespace Cli

/-- What surrounds a program when it is started. -/
structure Surroundings where
  root : Node
  /-- The place of the current directory. -/
  cwd : List String
  input : List UInt8
  isFree : UInt16 → Bool
  /-- The answer to the wish to open a report. -/
  openReport : Path → Except IoFault Unit

namespace Surroundings

def view (e : Surroundings) : Files.View :=
  Files.view e.root e.cwd

def directory (e : Surroundings) : Path :=
  Path.ofNames e.cwd

end Surroundings

structure Transcript where
  output : String := ""
  errors : String := ""
  root : Node
  result : Except Trouble Unit := .ok ()

namespace Transcript

def ofLines (e : Surroundings) (lines : List String) : Transcript :=
  { output := linesText lines, root := e.root }

/-- A transcript of something that either fails silently or has a transcript of its own. -/
def ofExcept (e : Surroundings) : Except Trouble Transcript → Transcript
  | .ok t => t
  | .error trouble => { root := e.root, result := .error trouble }

end Transcript
end Cli
end FeatureRunner
