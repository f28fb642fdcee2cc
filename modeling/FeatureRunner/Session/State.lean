import FeatureRunner.Session.Call

/-!
This module contains the state of one run: the debug target that nobody has taken yet, whether a
task is running and the reports seen so far. A report is the same as another one if their paths are,
whatever their spelling; the first spelling is kept.
-/

namespace FeatureRunner

namespace Report

def isListed (report : Path) (reports : List Path) : Bool :=
  reports.any fun r => decide (r.Same report)

/-- Lists a report behind the others unless it is listed already. -/
def record (reports : List Path) (report : Path) : List Path :=
  if isListed report reports then reports else reports ++ [report]

def recordAll (reports : List Path) (found : List Path) : List Path :=
  found.foldl record reports

end Report

/-- What one run leaves for the next call to see. -/
structure RunState where
  debugFile : Option Path := none
  debugLine : Option UInt32 := none
  debugPort : Option UInt16 := none
  isExecuting : Bool := false
  reports : List Path := []
  deriving DecidableEq

namespace RunState

def setDebugTarget (s : RunState) (file : Path) (line : Option UInt32) (port : UInt16) : RunState :=
  { s with debugFile := some file, debugLine := line, debugPort := some port }

def takeDebugTarget (s : RunState) : Option DebugTarget × RunState :=
  match s.debugFile with
  | none => (none, s)
  | some file =>
    (s.debugPort.map fun port => ⟨file, s.debugLine, port⟩,
      { s with debugFile := none, debugLine := none })

def recordReport (s : RunState) (report : Path) : Bool × RunState :=
  (!Report.isListed report s.reports, { s with reports := Report.record s.reports report })

def collect (s : RunState) (found : List Path) : RunState :=
  found.foldl (fun s report => (s.recordReport report).2) s

def takeReports (s : RunState) : List Path × RunState :=
  (s.reports, { s with reports := [] })

end RunState
end FeatureRunner
