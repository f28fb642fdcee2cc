import FeatureRunner.Cli.Execute
import FeatureRunner.Cli.Invocation

/-!
This module contains the command line program as a function of its arguments and its surroundings.
-/

namespace FeatureRunner
namespace Cli

def Invocation.carryOut (e : Surroundings) : Invocation → Transcript
  | sections location json => .ofExcept e (Cli.sections e location json)
  | resolve path json => .ofExcept e (Cli.resolve e path json)
  | execute mode location tags dryRun => .ofExcept e (Cli.execute e mode location tags dryRun)
  | port => .ofExcept e (Cli.port e)
  | reports path opens => .ofExcept e (Cli.reports e path opens)
  | showSettings start => .ofExcept e (Cli.showSettings e start)
  | initSettings dir force => .ofExcept e (Cli.initSettings e dir force)

/-- The program: either the arguments are refused, or what they ask for is carried out. -/
def program (e : Surroundings) (args : List String) : Except Refusal Transcript :=
  (Invocation.ofArgs args).map (Invocation.carryOut e)

end Cli
end FeatureRunner
