import FeatureRunner.Command.Basic

/-!
This module contains the calls that a session makes to the outside while it handles a request, each
with the answer it gets where the answer is data.
-/

namespace FeatureRunner

/-- The identity of a started task. -/
structure TaskHandle where
  id : UInt64
  name : String
  deriving DecidableEq

/-- Where a debug session starts and the port to attach to. -/
structure DebugTarget where
  file : Path
  /-- The first line of a section; nothing for a whole file or a directory. -/
  line : Option UInt32
  port : UInt16
  deriving DecidableEq

inductive Call where
  /-- Is the port free? -/
  | probe (port : UInt16) (free : Bool)
  /-- A question to the user and the answer; `none` if the user cancels. -/
  | prompt (title default : String) (answer : Option String)
  /-- The settings are saved. -/
  | save (settings : Settings)
  /-- The report files below `root` are watched from now on. -/
  | watch (glob : String) (root : Path)
  | execute (name : String) (command : Command)
  /-- The busy indicator is switched. -/
  | busy (on : Bool)
  | debugReady (target : DebugTarget)
  /-- The watch is asked for the reports since the last time. -/
  | drain (reports : List Path)
  /-- The executor is asked for the tasks that ended since the last time. -/
  | poll (ended : List TaskHandle)
  /-- The watch ends. -/
  | dispose
  | appended (request : Request)
  | openReport (report : Path) (opened : Bool)
  deriving DecidableEq

end FeatureRunner
