import FeatureRunner.Shell.Format
import FeatureRunner.Shell.Program
import FeatureRunner.Shell.Question
import FeatureRunner.Utility.Basic

/-!
This module contains the utilities that print words and answer questions: about texts, about names
and about the machine. It serves the outer layer, where commands start programs; no result is about
it.
-/

namespace FeatureRunner
namespace Utility

open Shell

def succeed : Utility := fun _ => pure 0

def fail : Utility := fun _ => pure 1

def echo : Utility := fun arguments => do
  let isOption (a : String) : Bool :=
    match a.toList with
    | '-' :: c :: cs => (c :: cs).all fun c => c == 'n' || c == 'e' || c == 'E'
    | _ => false
  let words := arguments.drop 1
  let options := (words.takeWhile isOption).flatMap fun o => o.toList.drop 1
  let cs := (Text.joinStrings ' ' (words.dropWhile isOption)).toList
  let isEscaped := (options.reverse.find? fun c => c == 'e' || c == 'E') == some 'e'
  let (text, stop) := if isEscaped then
    unescape (cs.length + 1) cs { hasBytes := true, needsZero := true } else (cs, false)
  let ending := if options.contains 'n' || stop then [] else ['\n']
  print (String.ofList (text ++ ending))
  pure 0

def printf : Utility := fun arguments => do
  let name := arguments.head?.getD ""
  let words := arguments.drop 1
  let words := if words.head? = some "--" then words.drop 1 else words
  match words with
  | [] => misuse name "missing operand"
  | format :: rest =>
    let p := formatText format rest { hasBytes := true, hasCodes := true }
    for c in p.complaints.reverse do
      let parts := c.splitOn ": "
      let what := (parts.getLast?).getD ""
      let value := String.intercalate ": " parts.dropLast
      complainAs name (quoteName value ++ ": " ++
        match what with
        | "expected numeric value" => "expected a numeric value"
        | "not completely converted" => "value not completely converted"
        | what => what)
    print (String.ofList p.output.reverse)
    pure (if p.complaints.isEmpty && p.fault.isNone then 0 else 1)

def test : Utility := fun arguments => do
  let name := arguments.head?.getD ""
  let isBracket := baseName name = "["
  let words := arguments.drop 1
  if isBracket && words.getLast? ≠ some "]" then
    complainAs name "missing ']'"
    pure 2
  else
    match holds (← get) (if isBracket then words.dropLast else words) with
    | .ok r => pure (if r then 0 else 1)
    | .error complaint =>
      complainAs name complaint
      pure 2

def pwd : Utility := fun _ => do
  print (toBytes (Path.ofNames (← get).cwd).text ++ "\n")
  pure 0

/-! ### Parts of names -/

def withoutSlashes (path : String) : String :=
  let cs := (path.toList.reverse.dropWhile (· == '/')).reverse
  if cs.isEmpty && !path.isEmpty then "/" else String.ofList cs

def basename : Utility := fun arguments =>
  let options : Options :=
    { flags := "az", valued := "s", inOrder := true
      long := [("multiple", "a", false), ("suffix", "s", true), ("zero", "z", false)] }
  withOptions options 1 arguments fun name a => do
    let ending := if a.has "z" then "\x00" else "\n"
    let several := a.has "a" || a.has "s"
    let shown (path suffix : String) : String :=
      let last := withoutSlashes path
      let last := if last = "/" then "/" else baseName last
      let cut := last.length - suffix.length
      let cs := last.toList
      if suffix.length < last.length && cs.drop cut = suffix.toList then String.ofList (cs.take cut)
      else last
    match a.operands with
    | [] => misuse name "missing operand"
    | operands =>
      if several then
        for path in operands do
          print (shown path ((a.value? "s").getD "") ++ ending)
        pure 0
      else
        match operands with
        | _ :: _ :: extra :: _ => misuse name ("extra operand " ++ quote extra)
        | path :: rest =>
          print (shown path (rest.head?.getD "") ++ ending)
          pure 0
        | [] => pure 1

def directoryName (path : String) : String :=
  let cs := (withoutSlashes path).toList
  if cs = ['/'] then "/"
  else
    let front := (cs.reverse.dropWhile (· != '/')).reverse
    if front.isEmpty then "." else withoutSlashes (String.ofList front)

def dirname : Utility := fun arguments =>
  withOptions { flags := "z", long := [("zero", "z", false)], inOrder := true } 1 arguments
    fun name a => do
      if a.operands.isEmpty then misuse name "missing operand"
      else
        for path in a.operands do
          print (directoryName path ++ if a.has "z" then "\x00" else "\n")
        pure 0

/-! ### Questions about the surroundings -/

def printenv : Utility := fun arguments =>
  withOptions { flags := "0", inOrder := true } 2 arguments fun _ a => do
    let environment := (← get).environment
    let ending := if a.has "0" then "\x00" else "\n"
    if a.operands.isEmpty then
      for (name, value) in environment do
        print (name ++ "=" ++ value ++ ending)
      pure 0
    else
      forEach a.operands fun name => do
        match environment.lookup name with
        | some value =>
          print (value ++ ending)
          pure true
        | none => pure false

def machineNames : List (Char × String) :=
  [('s', "Linux"), ('n', "localhost"), ('r', "6.1.0"), ('v', "#1 SMP"), ('m', "x86_64"),
   ('o', "GNU/Linux")]

def uname : Utility := fun arguments =>
  withOptions { flags := "asnrvmpio" } 1 arguments fun _ a => do
    let asked (c : Char) : Bool :=
      a.has "a" || a.has c.toString || (a.options.isEmpty && c = 's')
    print (String.intercalate " " ((machineNames.filter fun n => asked n.1).map (·.2)) ++ "\n")
    pure 0

def id' : Utility := fun arguments =>
  withOptions { flags := "ugGnr" } 1 arguments fun _ a => do
    let text :=
      if a.has "n" then "root"
      else if a.has "u" || a.has "g" || a.has "G" then "0"
      else "uid=0(root) gid=0(root) groups=0(root)"
    print (text ++ "\n")
    pure 0

def saying (text : String) : Utility := fun _ => do
  print (text ++ "\n")
  pure 0

def tty : Utility := fun arguments => do
  unless arguments.contains "-s" do print "not a tty\n"
  pure 1

def logname : Utility := fun arguments => do
  complainAs (arguments.head?.getD "") "no login name"
  pure 1

def which : Utility := fun arguments =>
  withOptions { flags := "as" } 2 arguments fun _ a => do
    if a.operands.isEmpty then pure 1
    else
      forEach a.operands fun name => do
        match Program.pathOf? (← get) name with
        | some path =>
          unless a.has "s" do print (path ++ "\n")
          pure true
        | none => pure false

end Utility
end FeatureRunner
