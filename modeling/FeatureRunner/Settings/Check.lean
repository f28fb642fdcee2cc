import FeatureRunner.Failure
import FeatureRunner.Settings.Basic

/-!
This module contains the check that settings pass before anything is run with them: the report
pattern can be read and the debug port is not too large. The pattern is looked at first.
-/

namespace FeatureRunner
namespace Settings

def maxPort : Int := 65535

/-- Refuses settings that would only fail in the middle of a run. -/
def check (s : Settings) : Except Failure Unit :=
  match Glob.read s.reports.toTarget with
  | .error fault => .error (.pattern fault)
  | .ok _ =>
    let port := s.debugger.serverPort.toInt
    if port > maxPort then
      .error (.config ("debugger.server_port_number " ++ Numeral.decimalInt port ++ " is above " ++
        Numeral.decimalInt maxPort))
    else
      .ok ()

end Settings
end FeatureRunner
