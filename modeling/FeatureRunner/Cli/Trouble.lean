import FeatureRunner.Failure

/-!
This module contains `Trouble`, the way the command line reports a failure: what was tried, from the
whole down to its parts, and then what went wrong.
-/

namespace FeatureRunner
namespace Cli

/-- A link of the chain from what was tried to what went wrong. -/
inductive Cause where
  | words (text : String)
  | failure (f : Failure)
  | io (fault : IoFault)
  | json (fault : Json.Fault)
  | pattern (fault : Glob.Fault)
  deriving DecidableEq

abbrev Trouble := List Cause

namespace Cause

def messageWith (w : Wording) : Cause → String
  | words text => text
  | failure f => f.messageWith w
  | io fault => w.io fault
  | json fault => w.json fault
  | pattern fault => fault.message Numeral.decimal

end Cause

namespace Trouble

/-- The chain of a failure: the failure itself and the cause inside it, if it has one. -/
def ofFailure (f : Failure) : Trouble :=
  .failure f ::
    match f with
    | .io fault | .taskLaunch _ fault => [.io fault]
    | .serialization fault => [.json fault]
    | .pattern fault => [.pattern fault]
    | .watch reason => [.words reason]
    | .unresolved _ | .configurationMissing _ | .resourceExhausted _ _ | .config _ => []

def trying (what : String) (r : Except Failure α) : Except Trouble α :=
  r.mapError fun f => .words what :: ofFailure f

def tryingIo (what : String) (r : Except IoFault α) : Except Trouble α :=
  r.mapError fun fault => [.words what, .io fault]

end Trouble
end Cli
end FeatureRunner
