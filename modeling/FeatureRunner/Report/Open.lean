import FeatureRunner.Shell.Launch

/-!
This module contains the opening of a report by a program. The program reads and prints nothing, but
it may change files; apart from that only its end matters.
-/

namespace FeatureRunner
namespace Report

/-- Opens a report with a program, which has to end with success. The tree afterwards comes back
too. -/
def openWith (program : String) (root : Node) (cwd : List String) (report : Path)
    : Except Failure Unit × Node :=
  match Shell.launchProgram root cwd program [report.text] with
  | .error fault => (.error (.io fault), root)
  | .ok finished =>
    let result :=
      if finished.ending.isSuccess then .ok ()
      else
        .error (.io (.other ("opener exited with " ++ finished.ending.text ++ " for " ++
          report.text)))
    (result, finished.disk.root)

end Report
end FeatureRunner
