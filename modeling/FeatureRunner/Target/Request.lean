import FeatureRunner.Target.Basic

/-!
This module contains `Request`, a target together with how it is to be run.
-/

namespace FeatureRunner

inductive Mode where
  | run
  | debug
  deriving DecidableEq

structure Request where
  target : TestTarget
  mode : Mode
  deriving DecidableEq

end FeatureRunner
