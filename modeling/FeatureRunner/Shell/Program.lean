import FeatureRunner.Shell.State

/-!
This module contains the way from the name of a program to what is run. A program is a file that may
be run; either it is one of the utilities, which such a file names behind a mark, or its first line
names another program that runs it. It serves the outer layer, which starts real commands; no result
is about it.
-/

namespace FeatureRunner
namespace Shell
namespace Program

def mark : ByteArray := ⟨#[0x7f, 0x45, 0x4c, 0x46, 2, 1, 1, 0, 0xff]⟩

def file (name : String) : Node :=
  .file (mark ++ name.toUTF8) ⟨0o755, 0⟩

def utility? (content : ByteArray) : Option String :=
  if (content.extract 0 mark.size).toList = mark.toList then
    String.fromUTF8? (content.extract mark.size content.size)
  else none

def lineSize : Nat := 255

/-- What stands behind the mark of a line that names another program: the program and, if there is
something behind it, one argument. -/
def interpreter? (content : ByteArray) : Option (List String) :=
  let cs := (ofByteArray (content.extract 0 lineSize)).toList
  let isBlank (c : Char) : Bool := c == ' ' || c == '\t'
  match cs with
  | '#' :: '!' :: rest =>
    let line := (rest.takeWhile (· != '\n')).dropWhile isBlank
    let line := (line.reverse.dropWhile isBlank).reverse
    let name := line.takeWhile fun c => !isBlank c && c != '\x00'
    let argument := (line.drop name.length).dropWhile isBlank
    if name.isEmpty then none
    else some (String.ofList name ::
      if argument.isEmpty then [] else [String.ofList argument])
  | _ => none

def maxDepth : Nat := 5

/-- The utility that runs the file at a path, and its arguments with the name it is called by. -/
def resolve (s : State) (path : String) (arguments : List String) (depth : Nat := maxDepth)
    : Except IoFault (String × List String) :=
  match s.node path with
  | .error f => .error f
  | .ok (.file content stamp) =>
    if !stamp.isRunnable then .error .permissionDenied
    else
      match utility? content with
      | some name => .ok (name, arguments)
      | none =>
        match interpreter? content, depth with
        | none, _ => .error .noProgram
        | some _, 0 => .error .linkLoop
        | some words, depth + 1 =>
          resolve s (words.head?.getD "") (words ++ path :: arguments.drop 1) depth
  | .ok _ => .error .permissionDenied

def searchPath (s : State) : List String :=
  let path := match s.bindings.lookup "PATH" with
    | some v => v.value.getD ""
    | none => ""
  (Text.segments ':' path.toList).map fun d =>
    if d.isEmpty then "" else String.ofList (d ++ ['/'])

/-- The path of the program with a name, and what runs it. A file that may be run but names no
program is found as well. -/
def search (s : State) (name : String) (arguments : List String)
    : String × Except IoFault (String × List String) :=
  if name.isEmpty then ("", .error .notFound)
  else if name.toList.contains '/' then (name, resolve s name arguments)
  else go (searchPath s) .notFound
where
  go (dirs : List String) (fault : IoFault) : String × Except IoFault (String × List String) :=
    match dirs with
    | [] => (name, .error fault)
    | dir :: dirs =>
      let path := dir ++ name
      if s.isDirectory path then go dirs (if s.isExtended then fault else .permissionDenied)
      else
        match resolve s path arguments with
        | .ok r => (path, .ok r)
        | .error .noProgram => (path, .error .noProgram)
        | .error f =>
          go dirs (if f = .notFound || f = .notADirectory || (s.node path).toOption.isNone then fault
            else f)

def pathOf? (s : State) (name : String) : Option String :=
  let isProgram (path : String) : Bool :=
    ((s.node path).toOption).any fun n => n.isFile && n.stamp.isRunnable
  if name.toList.contains '/' then if isProgram name then some name else none
  else (searchPath s).findSome? fun dir => if isProgram (dir ++ name) then some (dir ++ name) else none

end Program
end Shell
end FeatureRunner
