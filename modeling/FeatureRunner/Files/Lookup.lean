import FeatureRunner.Failure
import FeatureRunner.Files.Tree
import FeatureRunner.Path.Ancestors

/-!
This module contains the way from a path to a place in a file tree. Links are followed wherever they
stand, parents are taken from the place reached so far and not from the text, and everything in
front of a slash has to be a directory. `Files.locate` also finds the place of a file that is still
missing, if only its last name is.
-/

namespace FeatureRunner
namespace Files

open FeatureRunner.Text

/-- One step on the way along a path. -/
inductive Move where
  /-- Nothing stands between two slashes or behind the last one. Only a directory allows that. -/
  | slash
  /-- Stay, which only a directory allows. -/
  | here
  | up
  | down (name : String)
  deriving DecidableEq

def Move.ofPiece (piece : List Char) : Move :=
  if piece = [] then .slash
  else if piece = ['.'] then .here
  else if piece = ['.', '.'] then .up
  else .down (String.ofList piece)

def moves (p : Path) : List Move :=
  (segments '/' p.text.toList).map Move.ofPiece

inductive Place where
  /-- To the node with these names from the root. -/
  | found (names : List String)
  /-- To nothing yet: `name` is missing in the directory `dir`. -/
  | vacant (dir : List String) (name : String) (slash : Bool)
  deriving DecidableEq

def maxLinks : Nat := 40

def maxNameSize : Nat := 255

def maxPathSize : Nat := 4096

def walk (root : Node) (links : Nat) (names : List String) (todo : List Move)
    : Except IoFault Place :=
  match todo with
  | [] => .ok (.found names)
  | move :: rest =>
    match root.at? names with
    | some (.directory _ entries _) =>
      match move with
      | .slash | .here => walk root links names rest
      | .up => walk root links names.dropLast rest
      | .down name =>
        match entries.lookup name with
        | none =>
          if name.utf8ByteSize > maxNameSize then .error .invalidName
          else if rest.all (· == .slash) then .ok (.vacant names name (!rest.isEmpty))
          else .error .notFound
        | some (.link target) =>
          match links with
          | 0 => .error .linkLoop
          | links + 1 =>
            if target.isEmpty then .error .notFound
            else walk root links (if target.isAbsolute then [] else names) (moves target ++ rest)
        | some _ => walk root links (names ++ [name]) rest
    | _ => .error .notADirectory
termination_by (links, todo.length)

def locate (root : Node) (cwd : List String) (p : Path) : Except IoFault Place :=
  if p.text.toList.contains '\x00' then .error .invalidInput
  else if p.isEmpty then .error .notFound
  else if p.text.utf8ByteSize ≥ maxPathSize then .error .invalidName
  else walk root maxLinks (if p.isAbsolute then [] else cwd) (moves p)

def find (root : Node) (cwd : List String) (p : Path) : Except IoFault (List String) :=
  match locate root cwd p with
  | .ok (.found names) => .ok names
  | .ok (.vacant _ _ _) => .error .notFound
  | .error f => .error f

def node (root : Node) (cwd : List String) (p : Path) : Except IoFault Node :=
  match find root cwd p with
  | .ok names => ((root.at? names).map .ok).getD (.error .notFound)
  | .error f => .error f

def canonical (root : Node) (cwd : List String) (p : Path) : Except IoFault Path :=
  (find root cwd p).map Path.ofNames

def read (root : Node) (cwd : List String) (p : Path) : Except IoFault ByteArray :=
  match node root cwd p with
  | .ok (.file content _) => .ok content
  | .ok (.directory _ _ _) => .error .isADirectory
  | .ok (.device .terminal) => .error .noDevice
  | .ok (.device _) => .ok .empty
  | .ok (.link _) => .error .notFound
  | .error f => .error f

def readText (root : Node) (cwd : List String) (p : Path) : Except IoFault String :=
  match read root cwd p with
  | .ok content => ((String.fromUTF8? content).map .ok).getD (.error .invalidData)
  | .error f => .error f

def endsWithSlash (p : Path) : Bool :=
  match (segments '/' p.text.toList).reverse with
  | [] :: pieces =>
    match pieces.dropWhile (· == []) with
    | piece :: _ => piece != ['.'] && piece != ['.', '.']
    | [] => false
  | _ => false

def directoryAround (p : Path) : Path :=
  match p.parent? with
  | some dir => if dir.isEmpty then ⟨"."⟩ else dir
  | none => p

/-- Why no file can be made in a directory, if it belongs to the system itself. -/
def sealFault? (dir : List String) : Option IoFault :=
  match dir.head? with
  | some "proc" => some .notFound
  | some "sys" => some .permissionDenied
  | _ => none

/--
The place to write a file to: a file that exists or one that can be made. A path that ends with a
slash names no file, even if there is one in front of the slash.
-/
def writable (root : Node) (cwd : List String) (p : Path) : Except IoFault (List String) :=
  if endsWithSlash p then
    match find root cwd (directoryAround p) with
    | .ok names =>
      .error (if ((root.at? names).map Node.isDirectory).getD false then .isADirectory
        else .notADirectory)
    | .error f => .error f
  else
    match locate root cwd p with
    | .ok (.found names) =>
      match root.at? names with
      | some (.directory _ _ _) => .error .isADirectory
      | some (.device .terminal) => .error .noDevice
      | _ => .ok names
    | .ok (.vacant dir name slash) =>
      if slash then .error .isADirectory
      else (sealFault? dir).elim (.ok (dir ++ [name])) .error
    | .error f => .error f

/-- The tree with content at a place; a device keeps nothing, and a file its stamp. -/
def withContent (root : Node) (content : ByteArray) (names : List String) : Node :=
  match root.at? names with
  | some (.device _) => root
  | some (.file _ stamp) => root.put (.file content stamp) names
  | _ => root.put (.plainFile content) names

def isFull (root : Node) (names : List String) : Bool :=
  match root.at? names with
  | some (.device .full) => true
  | _ => false

def write (root : Node) (cwd : List String) (p : Path) (content : ByteArray)
    : Except IoFault Node :=
  match writable root cwd p with
  | .ok names =>
    if isFull root names && !content.isEmpty then .error .storageFull
    else .ok (withContent root content names)
  | .error f => .error f

/-- The place of a path, where a link that the path itself is counts as a node of its own. -/
def entry (root : Node) (cwd : List String) (p : Path) : Except IoFault (List String) :=
  match p.fileName?, p.parent? with
  | some name, some _ =>
    if endsWithSlash p then find root cwd p
    else
      match find root cwd (directoryAround p) with
      | .ok names =>
        match root.at? names with
        | some (.directory _ entries _) =>
          if (entries.lookup name).isSome then .ok (names ++ [name])
          else if name.utf8ByteSize > maxNameSize then .error .invalidName
          else .error .notFound
        | _ => .error .notADirectory
      | .error f => .error f
  | _, _ => find root cwd p

/-- What can be asked about the files of a tree without changing them. -/
structure View where
  isThere : Path → Bool
  isFile : Path → Bool
  isDirectory : Path → Bool
  readText : Path → Except IoFault String

def view (root : Node) (cwd : List String) : View where
  isThere p := (find root cwd p).toOption.isSome
  isFile p := ((node root cwd p).toOption.map Node.isFile).getD false
  isDirectory p := ((node root cwd p).toOption.map Node.isDirectory).getD false
  readText := readText root cwd

end Files
end FeatureRunner
