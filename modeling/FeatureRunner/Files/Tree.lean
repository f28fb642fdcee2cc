import FeatureRunner.Path.Basic

/-!
This module contains file trees. A node is a file, a directory, a symbolic link or a device; a place
in a tree is the list of names on the way from the root, and no link is followed on that way.
-/

namespace FeatureRunner

/-- The permission bits of a node and the time of its last change, in milliseconds. -/
structure Stamp where
  mode : Nat
  time : Nat
  deriving DecidableEq

namespace Stamp

def plain : Stamp := ⟨0o644, 0⟩

def folder : Stamp := ⟨0o755, 0⟩

def isRunnable (s : Stamp) : Bool :=
  s.mode &&& 0o111 != 0

end Stamp

/-- A device. None keeps anything of what is written to it. -/
inductive Device where
  /-- It has no content. -/
  | null
  /-- Its content are zeros without end. -/
  | zero
  /-- Like `zero`, but there is no room for anything that is written to it. -/
  | full
  /-- Its content are bytes without end and without order. -/
  | random
  /-- The terminal, which no process has. -/
  | terminal
  deriving DecidableEq

inductive Node where
  | file (content : ByteArray) (stamp : Stamp)
  /-- A directory; one that is not readable can be entered but not listed. -/
  | directory (readable : Bool) (entries : List (String × Node)) (stamp : Stamp)
  | link (target : Path)
  | device (device : Device)

namespace Node

def emptyDirectory : Node := .directory true [] .folder

instance : Inhabited Node := ⟨emptyDirectory⟩

def plainFile (content : ByteArray) : Node := .file content .plain

def child? (name : String) : Node → Option Node
  | directory _ entries _ => entries.lookup name
  | file _ _ | link _ | device _ => none

def at? (node : Node) : List String → Option Node
  | [] => some node
  | name :: names => (node.child? name).bind (at? · names)

/-- The entries with the one called `name` replaced or added behind the others. -/
def putEntry (name : String) (node : Node) : List (String × Node) → List (String × Node)
  | [] => [(name, node)]
  | (n, m) :: rest => if n = name then (name, node) :: rest else (n, m) :: putEntry name node rest

/-- The tree with the node at a place replaced; directories that are missing on the way are made. -/
def put (node new : Node) : List String → Node
  | [] => new
  | name :: names =>
    match node with
    | directory readable entries stamp =>
      let old := (entries.lookup name).getD emptyDirectory
      .directory readable (putEntry name (put old new names) entries) stamp
    | file _ _ | link _ | device _ => .directory true [(name, put emptyDirectory new names)] .folder

def remove (node : Node) : List String → Node
  | [] => node
  | [name] =>
    match node with
    | directory readable entries stamp =>
      .directory readable (entries.filter (·.1 != name)) stamp
    | file _ _ | link _ | device _ => node
  | name :: names =>
    match node with
    | directory readable entries stamp =>
      match entries.lookup name with
      | some old => .directory readable (putEntry name (remove old names) entries) stamp
      | none => node
    | file _ _ | link _ | device _ => node

def isDirectory : Node → Bool
  | directory _ _ _ => true
  | file _ _ | link _ | device _ => false

def isFile : Node → Bool
  | file _ _ => true
  | directory _ _ _ | link _ | device _ => false

def isLink : Node → Bool
  | link _ => true
  | file _ _ | directory _ _ _ | device _ => false

def entries : Node → List (String × Node)
  | directory _ entries _ => entries
  | file _ _ | link _ | device _ => []

def stamp : Node → Stamp
  | file _ stamp | directory _ _ stamp => stamp
  | link _ => ⟨0o777, 0⟩
  | device _ => ⟨0o666, 0⟩

def withStamp (node : Node) (stamp : Stamp) : Node :=
  match node with
  | file content _ => .file content stamp
  | directory readable entries _ => .directory readable entries stamp
  | link target => .link target
  | device d => .device d

def size : Node → Nat
  | file content _ => content.size
  | directory _ _ _ => 4096
  | link target => target.text.utf8ByteSize
  | device _ => 0

end Node
end FeatureRunner
