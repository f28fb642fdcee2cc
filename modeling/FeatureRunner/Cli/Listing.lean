import FeatureRunner.Cli.Labels
import FeatureRunner.Session.DryRun
import FeatureRunner.Session.State

/-!
This module contains the lines that the command line prints. Lines of feature files are counted from
one in all of them.
-/

namespace FeatureRunner
namespace Cli

def linesText (lines : List String) : String :=
  String.join (lines.map (· ++ "\n"))

namespace Listing

def ofSection (s : Section) (i : Nat) : List String :=
  let title := if s.title.isEmpty then "(untitled)" else s.title
  [Numeral.decimal (i + 1) ++ ". " ++ s.kind.label ++ ": " ++ title,
   "   📏 Lines: " ++ Numeral.decimal (s.startLine + 1).toNat ++ "-" ++
     Numeral.decimal (s.endLine + 1).toNat] ++
  if s.tags.toList.isEmpty then []
  else ["   🏷️  Tags: " ++ Text.joinStrings ' ' s.tags.toList]

def ofSections (sections : List Section) : List String :=
  if sections.isEmpty then ["ℹ️  No sections found"]
  else (sections.zipIdx.map fun (s, i) => ofSection s i).flatten

def ofFile (file : Path) (sections : List Section) : List String :=
  ["🔍 Sections in " ++ file.text, String.ofList (List.replicate 80 '=')] ++ ofSections sections

def unresolved (target : Path) : List String :=
  ["❌ No build descriptor found above " ++ target.text]

def ofProject (target : Path) (p : Project) : List String :=
  if p.isResolved then
    ["📦 Build system: " ++ p.buildSystem.label,
     "📍 Project root: " ++ p.root.text,
     "📄 Run file: " ++ p.runFile.text]
  else unresolved target

def ofReports (glob : String) (root : Path) (reports : List Path) : List String :=
  if reports.isEmpty then ["   • No reports matching " ++ glob ++ " under " ++ root.text]
  else ("📊 Reports under " ++ root.text ++ ":") :: reports.map fun r => "   " ++ r.text

def ofCommand (p : Project) (c : Command) : List String :=
  [c.line,
   "Working directory: " ++ c.directory.text,
   "   🔧 Command breakdown:",
   "      • build system: " ++ p.buildSystem.label,
   "      • run file: " ++ p.runFile.text,
   "      • working directory: " ++ c.directory.text,
   "      • command: " ++ c.line]

def nothing (reason : String) : List String :=
  ["⚠️  Nothing to run: " ++ reason]

def ofFinished (reports : List Path) : List String :=
  "✅ Karate Runner finished" ::
    if reports.isEmpty then ["   • No reports found"]
    else reports.map fun r => "   📊 " ++ r.text

def ofDebugTarget (t : DebugTarget) : List String :=
  let place :=
    match t.line with
    | some line => t.file.text ++ ":" ++ Numeral.decimal (line + 1).toNat
    | none => t.file.text
  ["🐞 Debug server port: " ++ Numeral.decimal t.port.toNat, "   Attach at " ++ place]

def ofCall : Call → List String
  | .busy true => ["⏳ Karate Runner is running..."]
  | .debugReady t => ofDebugTarget t
  | _ => []

end Listing
end Cli
end FeatureRunner
