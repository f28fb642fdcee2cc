import FeatureRunner.Feature.Section
import FeatureRunner.Project.Basic

/-!
This module contains the words that the command line shows for build systems and sections.
-/

namespace FeatureRunner

def BuildSystem.label : BuildSystem → String
  | standaloneJar => "Standalone jar"
  | nodePackage => "Node (npx karate)"
  | maven => "Maven"
  | gradleKotlin => "Gradle (Kotlin DSL)"
  | gradleGroovy => "Gradle (Groovy DSL)"
  | unresolved => "Unresolved"

def SectionKind.label : SectionKind → String
  | scenario => "🧪 Scenario"
  | scenarioOutline => "📋 Scenario Outline"
  | feature => "📄 Feature"

end FeatureRunner
