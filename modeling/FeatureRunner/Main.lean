import FeatureRunner.Cli.Run
import FeatureRunner.Report.Open

/-!
This module contains the command line program: it reads the files around the current directory and
around its arguments into a tree, carries out what the arguments ask for, writes back the files that
have changed and prints what there is to print.
-/

namespace FeatureRunner
namespace Main

def maxContent : UInt64 := 1048576

def entryAt (names : List String) : IO.FS.DirEntry :=
  { root := "/", fileName := Text.joinStrings '/' names }

/-- Reads a node with everything below it, except for what is in directories that are skipped. -/
partial def readNode (e : IO.FS.DirEntry) : IO Node := do
  if ← e.path.isDir then
    if e.fileName ∈ Report.skippedNames then
      pure .emptyDirectory
    else
      let mut entries := #[]
      for child in ← e.path.readDir do
        entries := entries.push (child.fileName, ← readNode child)
      pure (.directory true entries.toList .folder)
  else if (← e.path.metadata).byteSize ≤ maxContent then
    .plainFile <$> IO.FS.readBinFile e.path
  else
    pure (.plainFile .empty)

def readNodeOrEmpty (names : List String) : IO Node :=
  try readNode (entryAt names) catch _ => pure .emptyDirectory

def addFile (root : Node) (names : List String) : IO Node := do
  try
    let content ← IO.FS.readBinFile (entryAt names).path
    pure (root.put (.plainFile content) names)
  catch _ => pure root

def addDescriptors (root : Node) (dir : List String) : IO Node :=
  (Settings.fileNames ++ BuildSystem.markers).foldlM (fun root name => addFile root (dir ++ [name]))
    root

/-- Adds a place to a tree, with everything below it and with what directories above it have. -/
def addPlace (root : Node) (names : List String) : IO Node := do
  if (root.at? names).isSome then
    pure root
  else
    let root := root.put (← readNodeOrEmpty names) names
    (List.range names.length).foldlM (fun root n => addDescriptors root (names.take n)) root

/-- The place of a file or a directory that an argument names, if it names one. -/
def placeOf? (arg : String) : IO (Option (List String)) := do
  try
    let e : IO.FS.DirEntry := { root := "", fileName := (Location.ofText arg).path.text }
    if arg.isEmpty || !(← e.path.pathExists) then
      pure none
    else
      pure (some (Path.mk (← IO.FS.realPath e.path).toString).names)
  catch _ => pure none

/-- Writes the files of a tree that are new or differ from those of the tree before. -/
partial def writeBack (old : Option Node) (names : List String) : Node → IO Unit
  | .directory _ entries _ => do
    if old.isNone then IO.FS.createDirAll (entryAt names).path
    for (name, node) in entries do
      writeBack (old.bind (·.child? name)) (names ++ [name]) node
  | .file content _ => do
    match old with
    | some (.file before _) =>
      if before.toList ≠ content.toList then IO.FS.writeBinFile (entryAt names).path content
    | _ => IO.FS.writeBinFile (entryAt names).path content
  | .link _ | .device _ => pure ()

def refusalText : Cli.Refusal → String
  | .help => "usage: sections|resolve|run|debug|port|reports|config [arguments]"
  | .version => "feature runner"
  | .missingCommand => "error: a command is missing"
  | .unknownCommand => "error: there is no such command"
  | .unknownArgument => "error: there is no such argument"
  | .missingOperand => "error: an argument is missing"
  | .missingValue => "error: an option has no value"
  | .repeated => "error: an option is given twice"
  | .needlessValue => "error: an option takes no value"

def refusalStatus : Cli.Refusal → UInt32
  | .help | .version => 0
  | _ => 2

def readInput (withoutInput : Except Cli.Refusal Cli.Transcript) : IO (List UInt8) := do
  match withoutInput with
  | .ok t =>
    if t.errors.startsWith Prompt.mark then
      (ByteArray.toList <$> (← IO.getStdin).readBinToEnd)
    else pure []
  | .error _ => pure []

def run (args : List String) : IO UInt32 := do
  let cwd := (Path.mk (← IO.currentDir).toString).names
  let places ← args.filterMapM placeOf?
  let root ← Shell.furnished <$> (cwd :: places).foldlM addPlace .emptyDirectory
  let surroundings (input : List UInt8) : Cli.Surroundings :=
    { root
      cwd
      input
      isFree := fun _ => true
      openReport := fun _ => .error .notFound }
  let input ← readInput (Cli.program (surroundings []) args)
  match Cli.program (surroundings input) args with
  | .error refusal =>
    (← IO.getStderr).putStrLn (refusalText refusal)
    pure (refusalStatus refusal)
  | .ok t =>
    writeBack (some root) [] t.root
    (← IO.getStdout).putStr t.output
    (← IO.getStderr).putStr t.errors
    match t.result with
    | .ok () => pure 0
    | .error trouble =>
      (← IO.getStderr).putStrLn
        ("error: " ++ ": ".intercalate (trouble.map (·.messageWith .plain)))
      pure 1

end Main
end FeatureRunner

def main (args : List String) : IO UInt32 :=
  FeatureRunner.Main.run args
