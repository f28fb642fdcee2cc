import FeatureRunner.Files.Lookup

/-!
This module contains disks: file trees that change in the course of time. Every change is noted, so
that a watch can look at it later.
-/

namespace FeatureRunner

/-- Something that happens to a file tree; the places are those of the changed nodes. -/
inductive Change where
  | created (names : List String)
  | modified (names : List String)
  | removed (names : List String)
  /-- Time passes, and with it a watch takes notice of new directories in the tree `root`. -/
  | pause (root : Node)

/-- A file tree at a time, with everything that happened to it so far. -/
structure Disk where
  root : Node
  /-- The time in milliseconds. -/
  time : Nat := 0
  /-- What happened, the latest change first. -/
  log : List Change := []

def Node.latestTime : Node → Nat
  | .file _ stamp => stamp.time
  | .directory _ entries stamp => among entries stamp.time
  | .link _ | .device _ => 0
where
  /-- The latest time among entries, if `time` is that of their directory. -/
  among (entries : List (String × Node)) (time : Nat) : Nat :=
    match entries with
    | [] => time
    | (_, node) :: rest => among rest (max time node.latestTime)

namespace Disk

def start : Nat := 1700000000000

def ofRoot (root : Node) : Disk :=
  { root, time := max start (root.latestTime + 10) }

def changes (d : Disk) : List Change :=
  d.log.reverse

def note (d : Disk) (change : Change) : Disk :=
  { d with log := change :: d.log }

def at? (d : Disk) (names : List String) : Option Node :=
  d.root.at? names

def stampAround (d : Disk) (names : List String) : Disk :=
  match d.at? names.dropLast with
  | some (.directory readable entries stamp) =>
    let stamped := Node.directory readable entries { stamp with time := d.time }
    { d with root := d.root.put stamped names.dropLast }
  | _ => d

def put (d : Disk) (names : List String) (node : Node) : Disk :=
  if (d.at? names).isSome then
    { d with root := d.root.put node names }.note (.modified names)
  else
    ({ d with root := d.root.put node names }.stampAround names).note (.created names)

def remove (d : Disk) (names : List String) : Disk :=
  ({ d with root := d.root.remove names }.stampAround names).note (.removed names)

/-- Puts content into a file that is there, or makes it with the permission bits `mode`. -/
def write (d : Disk) (names : List String) (content : ByteArray) (mode : Nat := 0o644) : Disk :=
  match d.at? names with
  | some (.file _ stamp) => d.put names (.file content { stamp with time := d.time })
  | some (.device _) => d
  | _ => d.put names (.file content ⟨mode, d.time⟩)

def stamp (d : Disk) (names : List String) (stamp : Stamp) : Disk :=
  match d.at? names with
  | some node => { d with root := d.root.put (node.withStamp stamp) names }.note (.modified names)
  | none => d

def move (d : Disk) (source target : List String) : Disk :=
  match d.at? source with
  | some node =>
    let root := (d.root.remove source).put node target
    (({ d with root }.stampAround source).stampAround target).note (.modified source)
      |>.note (.modified target)
  | none => d

def makeDirectory (d : Disk) (names : List String) (mode : Nat := 0o755) : Disk :=
  d.put names (.directory true [] ⟨mode, d.time⟩)

/-- Makes the directories on the way to a place and at it, as far as they are missing. -/
def makeDirectories (d : Disk) (names : List String) : Disk :=
  ((List.range (names.length + 1)).map names.take).foldl (fun d place =>
    if (d.at? place).isSome then d else d.makeDirectory place) d

def pass (d : Disk) (milliseconds : Nat) : Disk :=
  if milliseconds = 0 then d
  else { d with time := d.time + milliseconds }.note (.pause d.root)

end Disk
end FeatureRunner
