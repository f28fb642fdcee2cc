import FeatureRunner.Glob
import FeatureRunner.Path.Relative

/-!
This module contains the test whether a file is a report: its path below the project root matches
the pattern.
-/

namespace FeatureRunner
namespace Report

def isMatch (pattern : List Glob.Token) (root path : Path) : Bool :=
  match root.below? path with
  | some relative => Glob.matchesText pattern relative.text
  | none => false

end Report
end FeatureRunner
