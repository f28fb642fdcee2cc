/-!
This module contains the settings of a run. A command line that is `none` is disabled by an explicit
`null`; one that is empty adds nothing.
-/

namespace FeatureRunner

def defaultRunnerClass : Option String := some "TestRunner"

def defaultJarArgs : Option String := some "java -jar karate.jar"

def defaultNodeArgs : Option String := some "npx karate"

def defaultExtraArgs : Option String := some ""

def defaultReportGlob : String := "**/karate-reports/*.html"

def defaultPort : Int32 := -1

/-- Settings that every build system shares. -/
structure CoreSettings where
  /-- The Karate environment; blank means that no switch is given. -/
  environment : String := ""
  /-- Start the wrapper script of the project instead of the installed tool. -/
  useWrapper : Bool := false
  deriving DecidableEq

/-- Settings for the JUnit runner class. -/
structure RunnerSettings where
  default : Option String := defaultRunnerClass
  promptToSpecify : Bool := false
  deriving DecidableEq

/-- Settings for the build directory. -/
structure BuildDirectorySettings where
  cleanBeforeEachRun : Bool := false
  deriving DecidableEq

/-- Settings for the standalone jar. -/
structure JarSettings where
  commandLineArgs : Option String := defaultJarArgs
  deriving DecidableEq

/-- Settings for the Node package. -/
structure NodeSettings where
  commandLineArgs : Option String := defaultNodeArgs
  deriving DecidableEq

/-- Settings for calling the Karate command line without a runner class. -/
structure DirectSettings where
  overrideRunner : Bool := false
  commandLineArgs : Option String := defaultExtraArgs
  deriving DecidableEq

structure BuildToolSettings where
  commandLineArgs : Option String := defaultExtraArgs
  deriving DecidableEq

/-- Settings for the reports that a run writes. -/
structure ReportSettings where
  /-- The pattern of report files, relative to the project root. -/
  toTarget : String := defaultReportGlob
  openAfterEachRun : Bool := false
  deriving DecidableEq

/-- Settings for the debug server. -/
structure DebuggerSettings where
  /-- The port of the debug server; a negative one asks for any free port. -/
  serverPort : Int32 := defaultPort
  deriving DecidableEq

/-- Everything that can be configured. -/
structure Settings where
  core : CoreSettings := {}
  runner : RunnerSettings := {}
  buildDirectory : BuildDirectorySettings := {}
  jar : JarSettings := {}
  node : NodeSettings := {}
  direct : DirectSettings := {}
  maven : BuildToolSettings := {}
  gradle : BuildToolSettings := {}
  reports : ReportSettings := {}
  debugger : DebuggerSettings := {}
  deriving DecidableEq

namespace Settings

def default : Settings := {}

instance : Inhabited Settings := ⟨default⟩

def portOverride (s : Settings) : Option UInt16 :=
  let port := s.debugger.serverPort.toInt
  if 0 ≤ port ∧ port < UInt16.size then some (UInt16.ofNat port.toNat) else none

def withRunnerDefault (s : Settings) (runnerClass : String) : Settings :=
  { s with runner := { s.runner with default := some runnerClass } }

end Settings
end FeatureRunner
