import FeatureRunner.Path.Basic

/-!
This module contains the build systems, the files they are recognised by and the classification of
a file by its name.
-/

namespace FeatureRunner

/-- What runs the tests of a project. -/
inductive BuildSystem where
  | maven
  | gradleGroovy
  | gradleKotlin
  | nodePackage
  | standaloneJar
  /-- None that is known. -/
  | unresolved
  deriving DecidableEq

namespace BuildSystem

def jarName : String := "karate.jar"

def nodeName : String := "package.json"

def mavenName : String := "pom.xml"

def gradleKotlinName : String := "build.gradle.kts"

def gradleGroovyName : String := "build.gradle"

def markers : List String :=
  [jarName, nodeName, mavenName, gradleKotlinName, gradleGroovyName]

def lowerName (name : String) : String :=
  String.ofList (name.toList.map Char.toLower)

/-- The build system of a file name. A name only has to end as the jar does. -/
def ofName (name : String) : BuildSystem :=
  let name := lowerName name
  if jarName.toList.isSuffixOf name.toList then .standaloneJar
  else if name = nodeName then .nodePackage
  else if name = mavenName then .maven
  else if name = gradleKotlinName then .gradleKotlin
  else if name = gradleGroovyName then .gradleGroovy
  else .unresolved

def ofFile (file : Path) : BuildSystem :=
  match file.fileName? with
  | some name => ofName name
  | none => .unresolved

def failureName : BuildSystem → String
  | maven => "Maven"
  | gradleGroovy => "GradleGroovy"
  | gradleKotlin => "GradleKotlin"
  | nodePackage => "NodePackage"
  | standaloneJar => "StandaloneJar"
  | unresolved => "Unresolved"

def isGradle : BuildSystem → Bool
  | gradleGroovy | gradleKotlin => true
  | _ => false

def usesRunnerClass : BuildSystem → Bool
  | maven | gradleGroovy | gradleKotlin => true
  | _ => false

end BuildSystem
end FeatureRunner
