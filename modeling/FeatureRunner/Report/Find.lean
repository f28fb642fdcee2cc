import FeatureRunner.Files.Lookup
import FeatureRunner.Report.Match

/-!
This module contains the search for reports that are on disk. Everything below the root that is no
directory is considered, links included; links to directories are not entered, and neither are
directories that cannot be read and those whose name is in `Report.skippedNames`.
-/

namespace FeatureRunner
namespace Report

/-- The names of directories that are never entered. -/
def skippedNames : List String := [".git", "node_modules"]

mutual

def filesBelow (names : List String) : Node → List (List String)
  | .directory true entries _ => filesAmong names entries
  | .directory false _ _ | .file _ _ | .link _ | .device _ => []

/-- The places of what is no directory among the entries of the directory at `names`. -/
def filesAmong (names : List String) : List (String × Node) → List (List String)
  | [] => []
  | entry :: rest => filesOf names entry ++ filesAmong names rest

/-- The places of what is no directory at an entry of the directory at `names`. -/
def filesOf (names : List String) : String × Node → List (List String)
  | (name, .directory readable entries stamp) =>
    if name ∈ skippedNames then []
    else filesBelow (names ++ [name]) (.directory readable entries stamp)
  | (name, .file _ _) | (name, .link _) | (name, .device _) => [names ++ [name]]

end

def below (pattern : List Glob.Token) (root : Node) (names : List String) : List Path :=
  let files := ((root.at? names).map (filesBelow names)).getD []
  ((files.map Path.ofNames).filter (isMatch pattern (Path.ofNames names))).mergeSort Path.le

def find (glob : String) (root : Node) (cwd : List String) (dir : Path)
    : Except Failure (List Path) :=
  match Glob.read glob with
  | .error fault => .error (.pattern fault)
  | .ok pattern =>
    match Files.find root cwd dir with
    | .error f => .error (.io f)
    | .ok names => .ok (below pattern root names)

end Report
end FeatureRunner
