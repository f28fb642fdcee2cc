import FeatureRunner.Files.Disk
import FeatureRunner.Report.Match

/-!
This module contains what a watch on a directory notices of the changes below it. A file that is
created or changed is noticed if its directory is watched. Links to directories are followed, except
for those that lead back to where they come from. A directory that is made while the watch runs is
watched from the next pause on, and so is what is in it.
-/

namespace FeatureRunner
namespace Report

/-- A directory that is watched: its place and the names that it is reported by. -/
structure WatchedPlace where
  place : List String
  shown : List String
  deriving DecidableEq

def folderOf? (root : Node) (place : List String) (name : String) : Node → Option (List String)
  | .directory _ _ _ => some (place ++ [name])
  | .link target =>
    match Files.find root place target with
    | .ok names => if ((root.at? names).map Node.isDirectory).getD false then some names else none
    | .error _ => none
  | .file _ _ | .device _ => none

/--
The directories from a place on, the place included. `above` are the places on the way there, each
of which is longer than a way may be, so `fuel` bounds their number.
-/
def watchedFrom (root : Node) (fuel : Nat) (above : List (List String)) (w : WatchedPlace)
    : List WatchedPlace :=
  match fuel with
  | 0 => []
  | fuel + 1 =>
    let entries := ((root.at? w.place).map Node.entries).getD []
    w :: entries.flatMap fun (name, node) =>
      match folderOf? root w.place name node with
      | some place =>
        if node.isLink && (w.place :: above).contains place then []
        else watchedFrom root fuel (w.place :: above) ⟨place, w.shown ++ [name]⟩
      | none => []

def maxWatchDepth : Nat := 100

/-- The places that a watch at `names` looks at. The later one of two with one place counts. -/
def watchedPlaces (root : Node) (names : List String) : List WatchedPlace :=
  match root.at? names with
  | some (.directory _ _ _) => (watchedFrom root maxWatchDepth [] ⟨names, names⟩).reverse
  | _ => []

def noticedAs? (names : List String) (watched : List WatchedPlace) (place : List String)
    : Option (List String) :=
  if place = names then some names
  else
    (watched.find? fun w => w.place = place.dropLast).map fun w =>
      w.shown ++ place.getLast?.toList

/-- The places of changed files that a watch at `names` notices while it looks at `watched`. -/
def noticed (names : List String) : List WatchedPlace → List Change → List (List String)
  | _, [] => []
  | watched, .created place :: rest | watched, .modified place :: rest =>
    (noticedAs? names watched place).toList ++ noticed names watched rest
  | watched, .removed _ :: rest => noticed names watched rest
  | _, .pause root :: rest => noticed names (watchedPlaces root names) rest

/-- A watch for reports below a directory. -/
structure Watch where
  pattern : List Glob.Token
  /-- The place that is watched. -/
  names : List String
  /-- The path that reports are compared with the pattern below. -/
  base : Path

namespace Watch

/--
Starts a watch. The pattern is read before the directory is looked for. The empty path stands for
the current directory, but reports are not taken relative to that.
-/
def start (glob : String) (root : Node) (cwd : List String) (dir : Path)
    : Except Failure Watch :=
  match Glob.read glob with
  | .error fault => .error (.pattern fault)
  | .ok pattern =>
    match Files.find root cwd dir with
    | .ok names => .ok ⟨pattern, names, Path.ofNames names⟩
    | .error fault =>
      if dir.isEmpty then .ok ⟨pattern, cwd, dir⟩ else .error (.watch fault.watchText)

def reports (w : Watch) (root : Node) (changes : List Change) : List Path :=
  ((noticed w.names (watchedPlaces root w.names) changes).map Path.ofNames).filter
    (isMatch w.pattern w.base)

end Watch
end Report
end FeatureRunner
