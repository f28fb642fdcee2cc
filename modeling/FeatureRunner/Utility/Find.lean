import FeatureRunner.Utility.Grep
import FeatureRunner.Utility.Wrappers

/-!
This module contains the utility that walks through directories and does something with everything
that passes its tests. An expression is true or false of a visit; what it does happens while that is
found out. It serves the outer layer, where commands start programs; no result is about it.
-/

namespace FeatureRunner
namespace Utility
namespace Find

open Shell

inductive Relation where
  | less (n : Nat)
  | same (n : Nat)
  | greater (n : Nat)

def Relation.holds (m : Nat) : Relation → Bool
  | less n => m < n
  | same n => m == n
  | greater n => n < m

inductive Test where
  | constant (value : Bool)
  | name (pattern : List Char) (ignoresCase : Bool)
  | path (pattern : List Char) (ignoresCase : Bool)
  | linkName (pattern : List Char)
  | regex (r : Regex) (ignoresCase : Bool)
  | kind (letters : List Char)
  | isEmpty
  | size (r : Relation) (unit : Nat)
  | age (r : Relation) (unit : Nat)
  | newer (time : Nat)
  | mode (how : Char) (bits : Nat)
  | links (r : Relation)
  | print (ending : String)
  | printFormat (format : List Char)
  | delete
  | prune
  | quit
  /-- Runs a command for every visit; `inFolder` tells that it runs where the node is. -/
  | run (command : List String) (inFolder : Bool)
  | collect (index : Nat) (command : List String) (inFolder : Bool)

inductive Condition where
  | test (t : Test)
  | not (c : Condition)
  | and (c d : Condition)
  | or (c d : Condition)
  | list (c d : Condition)

/-! ### Reading -/

structure Plan where
  minDepth : Nat := 0
  maxDepth : Option Nat := none
  isDepthFirst : Bool := false
  followsLinks : Bool := false
  acts : Bool := false
  collected : Nat := 0

structure Source where
  rest : List String
  plan : Plan := {}
  now : Nat
  state : State

abbrev Read := StateT Source (Except String)

def takeWord : Read (Option String) := do
  let s : Source ← get
  match s.rest with
  | [] => pure none
  | w :: rest =>
    set { s with rest }
    pure (some w)

def argument (name : String) : Read String := do
  match ← takeWord with
  | some w => pure w
  | none => throw ("missing argument to `" ++ name ++ "'")

def relation? (text : List Char) : Option Relation :=
  match text with
  | '+' :: ds => (Numeral.value? ds).map .greater
  | '-' :: ds => (Numeral.value? ds).map .less
  | ds => (Numeral.value? ds).map .same

def relation (name : String) (text : List Char) : Read Relation := do
  match relation? text with
  | some r => pure r
  | none =>
    throw ("invalid argument `" ++ String.ofList text ++ "' to `" ++ name ++ "'")

def depth (name : String) : Read Nat := do
  let text ← argument name
  match number? text with
  | some n => pure n
  | none =>
    throw ("Expected a positive decimal integer argument to " ++ name ++ ", but got " ++
      quoteName text)

def commandWords (name : String) (taken : List String) : List String →
    Except String (List String × Bool × List String)
  | [] => .error ("missing argument to `" ++ name ++ "'")
  | ";" :: rest =>
    if taken.isEmpty then .error ("missing argument to `" ++ name ++ "'")
    else .ok (taken.reverse, false, rest)
  | w :: rest =>
    if w = "+" && taken.head? = some "\x7b\x7d" then .ok ((taken.drop 1).reverse, true, rest)
    else commandWords name (w :: taken) rest

def acting (t : Test) : Read Test := do
  modify fun s => { s with plan := { s.plan with acts := true } }
  pure t

def timeOf' (path : String) : Read Nat := do
  let s : Source ← get
  match s.state.node path with
  | .ok n => pure n.stamp.time
  | .error f => throw (quoteName path ++ ": " ++ f.systemText)

def readRun (name : String) (inFolder : Bool) : Read Test := do
  let s : Source ← get
  match commandWords name [] s.rest with
  | .error complaint => throw complaint
  | .ok (words, many, rest) =>
    if many then
      set { s with rest, plan := { s.plan with collected := s.plan.collected + 1 } }
      acting (.collect s.plan.collected words inFolder)
    else
      set { s with rest }
      acting (.run words inFolder)

def readTest (name : String) : Read Test := do
  let planned (f : Plan → Plan) : Read Test := do
    modify fun s => { s with plan := f s.plan }
    pure (.constant true)
  let chars : Read (List Char) := String.toList <$> argument name
  match name with
  | "-name" => pure (.name (← chars) false)
  | "-iname" => pure (.name (← chars) true)
  | "-path" | "-wholename" => pure (.path (← chars) false)
  | "-ipath" => pure (.path (← chars) true)
  | "-lname" => pure (.linkName (← chars))
  | "-regex" | "-iregex" =>
    match Regex.ofChars? false (← chars) with
    | .ok r => pure (.regex r (name = "-iregex"))
    | .error complaint => throw complaint
  | "-regextype" => do
    discard (argument name)
    pure (.constant true)
  | "-type" | "-xtype" =>
    let text ← chars
    let letters := text.filter (· != ',')
    if letters.isEmpty then throw ("Arguments to " ++ name ++ " should contain at least one letter")
    match letters.find? fun c => !("bcdpfls".toList.contains c) with
    | some c => throw ("Unknown argument to " ++ name ++ ": " ++ c.toString)
    | none => pure (.kind letters)
  | "-empty" => pure .isEmpty
  | "-size" =>
    let text ← chars
    let (digits, unit) : List Char × Nat :=
      match text.reverse with
      | 'c' :: ds => (ds.reverse, 1)
      | 'w' :: ds => (ds.reverse, 2)
      | 'b' :: ds => (ds.reverse, 512)
      | 'k' :: ds => (ds.reverse, 1024)
      | 'M' :: ds => (ds.reverse, 1048576)
      | 'G' :: ds => (ds.reverse, 1073741824)
      | _ => (text, 512)
    pure (.size (← relation name digits) unit)
  | "-mtime" | "-ctime" | "-atime" => pure (.age (← relation name (← chars)) 86400000)
  | "-mmin" | "-cmin" | "-amin" => pure (.age (← relation name (← chars)) 60000)
  | "-newer" | "-anewer" | "-cnewer" => pure (.newer (← timeOf' (← argument name)))
  | "-perm" =>
    let text ← argument name
    let (how, bits) : Char × String :=
      match text.toList with
      | '-' :: cs => ('-', String.ofList cs)
      | '/' :: cs => ('/', String.ofList cs)
      | _ => ('=', text)
    match Mode.changed? false 0 0 bits with
    | some bits => pure (.mode how bits)
    | none => throw ("invalid mode " ++ quoteName text)
  | "-links" => pure (.links (← relation name (← chars)))
  | "-user" | "-group" | "-uid" | "-gid" => do
    let text ← argument name
    pure (.constant (text = "root" || text = "0"))
  | "-readable" | "-writable" | "-noleaf" | "-true" | "-daystart" | "-warn" | "-nowarn" =>
    pure (.constant true)
  | "-executable" => pure (.mode '/' 0o111)
  | "-false" | "-nouser" | "-nogroup" => pure (.constant false)
  | "-print" => acting (.print "\n")
  | "-print0" => acting (.print "\x00")
  | "-printf" => do acting (.printFormat (← chars))
  | "-ls" => acting (.printFormat "%p\\n".toList)
  | "-delete" => do
    discard (planned fun p => { p with isDepthFirst := true })
    acting .delete
  | "-prune" => pure .prune
  | "-quit" => acting .quit
  | "-exec" | "-ok" => readRun name false
  | "-execdir" | "-okdir" => readRun name true
  | "-maxdepth" =>
    let n ← depth name
    planned fun p => { p with maxDepth := some n }
  | "-mindepth" =>
    let n ← depth name
    planned fun p => { p with minDepth := n }
  | "-depth" | "-d" => planned fun p => { p with isDepthFirst := true }
  | "-follow" => planned fun p => { p with followsLinks := true }
  | "-xdev" | "-mount" => pure (.constant true)
  | _ =>
    if name.startsWith "-" then throw ("unknown predicate `" ++ name ++ "'")
    else throw ("paths must precede expression: `" ++ name ++ "'")

def isOperator (w : String) : Bool :=
  ["-o", "-or", "-a", "-and", ","].contains w

def Source.endsHere (s : Source) : Bool :=
  s.rest.head?.all fun w => isOperator w || w = ")"

mutual

def readOne (fuel : Nat) (before : String) : Read Condition :=
  match fuel with
  | 0 => throw "invalid expression"
  | fuel + 1 => do
    match ← takeWord with
    | none => throw ("expected an expression after '" ++ before ++ "'")
    | some "(" =>
      let s : Source ← get
      if s.rest.isEmpty then
        throw ("invalid expression; expected to find a ')' but didn't see one." ++
          " Perhaps you need an extra predicate after '('")
      if s.rest.head? = some ")" then
        throw "invalid expression; empty parentheses are not allowed."
      let c ← readList fuel
      match ← takeWord with
      | some ")" => pure c
      | _ =>
        throw ("invalid expression; I was expecting to find a ')' somewhere but did not see " ++
          "one.")
    | some ")" =>
      throw "invalid expression; you have too many ')'"
    | some "!" => .not <$> readOne fuel "!"
    | some "-not" => .not <$> readOne fuel "-not"
    | some w =>
      if isOperator w then
        throw ("invalid expression; you have used a binary operator '" ++ w ++
          "' with nothing before it.")
      else .test <$> readTest w
termination_by fuel

def readAll (fuel : Nat) (before : String) : Read Condition :=
  match fuel with
  | 0 => throw "invalid expression"
  | fuel + 1 => do
    let c ← readOne fuel before
    let s : Source ← get
    match s.rest with
    | w :: rest =>
      if w = "-a" || w = "-and" then
        set { s with rest }
        pure (.and c (← readAll fuel w))
      else if s.endsHere then pure c
      else pure (.and c (← readAll fuel "("))
    | [] => pure c
termination_by fuel

def readAny (fuel : Nat) (before : String) : Read Condition :=
  match fuel with
  | 0 => throw "invalid expression"
  | fuel + 1 => do
    let c ← readAll fuel before
    let s : Source ← get
    match s.rest with
    | w :: rest =>
      if w = "-o" || w = "-or" then
        set { s with rest }
        pure (.or c (← readAny fuel w))
      else pure c
    | [] => pure c
termination_by fuel

def readList (fuel : Nat) : Read Condition :=
  match fuel with
  | 0 => throw "invalid expression"
  | fuel + 1 => do
    let c ← readAny fuel "("
    let s : Source ← get
    match s.rest with
    | "," :: rest =>
      set { s with rest }
      pure (.list c (← readList fuel))
    | _ => pure c
termination_by fuel

end

def readCondition (words : List String) (s : State) : Except String (Condition × Plan) := do
  let source : Source := { rest := words, now := s.disk.time, state := s }
  if words.isEmpty then pure (.test (.print "\n"), {})
  else
    let (c, rest) ← (readList (4 * words.length + 8)).run source
    match rest.rest with
    | [] => pure (if rest.plan.acts then c else .and c (.test (.print "\n")), rest.plan)
    | w :: _ =>
      throw (if w = ")" then "invalid expression; you have too many ')'"
        else "paths must precede expression: `" ++ w ++ "'")

/-! ### Visits -/

structure Walk where
  plan : Plan
  launch : Launcher
  name : String
  start : String := ""
  /-- The paths that commands are going to get all at once, by the numbers of the commands. -/
  collected : List (Nat × List String × Bool × List String) := []
  isPruned : Bool := false
  isOver : Bool := false
  status : Nat := 0

abbrev Walking := StateT Walk Action

def kindLetter : Node → Char
  | .file _ _ => 'f'
  | .directory _ _ _ => 'd'
  | .link _ => 'l'
  | .device _ => 'c'

def lastName (path : String) : String :=
  let bare := withoutSlashes path
  if bare.isEmpty then path else baseName bare

def folderName (path : String) : String :=
  match ((Text.segments '/' (withoutSlashes path).toList).dropLast).map String.ofList with
  | [] => "."
  | [""] => ""
  | ps => Text.joinStrings '/' ps

def formatText (start : String) (v : Visit) (fuel : Nat) (cs : List Char) : List Char :=
  match fuel, cs with
  | 0, _ | _, [] => []
  | fuel + 1, '\\' :: c :: rest =>
    let (d, rest) := escapeAt (c :: rest)
    d :: formatText start v fuel rest
  | fuel + 1, '%' :: rest =>
    let minus := rest.takeWhile fun c => c = '-' || c = '0'
    let width := (rest.drop minus.length).takeWhile Char.isDigit
    match rest.drop (minus.length + width.length) with
    | [] => ['%']
    | c :: rest =>
      let text : String :=
        match c with
        | 'p' => v.path
        | 'f' => lastName v.path
        | 'P' =>
          String.ofList ((v.path.toList.drop start.length).dropWhile (· == '/'))
        | 'h' => folderName v.path
        | 'H' => start
        | 'd' => Numeral.decimal v.depth
        | 'y' | 'Y' => (kindLetter v.node).toString
        | 's' => Numeral.decimal v.node.size
        | 'm' => Mode.octalText 3 v.node.stamp.mode
        | 'M' =>
          (match kindLetter v.node with
            | 'f' => "-"
            | k => k.toString) ++ Mode.dashed v.node.stamp.mode
        | 'u' | 'g' => "root"
        | 'U' | 'G' => "0"
        | 'n' => if v.node.isDirectory then Numeral.decimal
            (2 + (v.node.entries.filter fun e => e.2.isDirectory).length) else "1"
        | 'l' =>
          match v.node with
          | .link target => toBytes target.text
          | _ => ""
        | '%' => "%"
        | c => String.ofList ['%', c]
      let size := (Numeral.value? width).getD 0
      let fill := List.replicate (size - text.length) ' '
      (if minus.contains '-' then text.toList ++ fill else fill ++ text.toList) ++
        formatText start v fuel rest
  | fuel + 1, c :: rest => c :: formatText start v fuel rest

def runCommand (names : List String) (inFolder : Bool) (command : List String)
    : Walking Bool := do
  let w ← get
  let s ← StateT.lift (get : Action State)
  if inFolder then StateT.lift (modify fun s => { s with cwd := names.dropLast })
  let r ← StateT.lift (w.launch command)
  StateT.lift (modify fun t => { t with cwd := s.cwd })
  match r with
  | .ok ending => pure ending.isSuccess
  | .error f =>
    StateT.lift
      (complainAs w.name (quoteName (command.head?.getD "") ++ ": " ++ f.systemText))
    pure false

def pathFor (inFolder : Bool) (v : Visit) : String :=
  if inFolder then "./" ++ lastName v.path else v.path

def runTest (v : Visit) (t : Test) : Walking Bool := do
  let w ← get
  let s ← StateT.lift (get : Action State)
  let fits (pattern text : List Char) (ignoresCase : Bool) : Bool :=
    let lower (cs : List Char) : List Char := if ignoresCase then cs.map Char.toLower else cs
    fitsText (patternOf ['!', '^'] (glyphsOf (lower pattern))) (lower text)
  match t with
  | .constant value => pure value
  | .name pattern ignoresCase => pure (fits pattern (lastName v.path).toList ignoresCase)
  | .path pattern ignoresCase => pure (fits pattern v.path.toList ignoresCase)
  | .linkName pattern =>
    match v.node with
    | .link target => pure (fits pattern (toBytes target.text).toList false)
    | _ => pure false
  | .regex r ignoresCase =>
    let cs := v.path.toList
    pure ((Regex.ends (r.subject ignoresCase cs) r ⟨0, []⟩).any fun p => p.position == cs.length)
  | .kind letters => pure (letters.contains (kindLetter v.node))
  | .isEmpty =>
    pure (match v.node with
      | .file content _ => content.size == 0
      | .directory _ entries _ => entries.isEmpty
      | _ => false)
  | .size r unit => pure (r.holds ((v.node.size + unit - 1) / unit))
  | .age r unit =>
    let time := if v.node.isLink then s.disk.time else v.node.stamp.time
    pure (r.holds ((s.disk.time - time) / unit))
  | .newer time => pure (time < v.node.stamp.time)
  | .mode how bits =>
    let mode := v.node.stamp.mode
    pure (if how = '-' then mode &&& bits == bits
      else if how = '/' then bits == 0 || mode &&& bits != 0
      else mode == bits)
  | .links r =>
    pure (r.holds (if v.node.isDirectory then
      2 + (v.node.entries.filter fun e => e.2.isDirectory).length else 1))
  | .print ending =>
    StateT.lift (Shell.print (v.path ++ ending))
    pure true
  | .printFormat format =>
    StateT.lift (Shell.print (String.ofList (formatText w.start v (format.length + 1) format)))
    pure true
  | .delete =>
    if v.path = "." then pure true
    else
      match s.disk.at? v.names with
      | some (.directory _ (_ :: _) _) =>
        StateT.lift
          (complainAs w.name ("cannot delete " ++ quoteName v.path ++ ": Directory not empty"))
        set { w with status := 1 }
        pure false
      | _ =>
        StateT.lift (onDisk (·.remove v.names))
        pure true
  | .prune =>
    set { w with isPruned := true }
    pure true
  | .quit =>
    set { w with isOver := true }
    pure true
  | .run command inFolder =>
    let path := (pathFor inFolder v).toList
    runCommand v.names inFolder
      (command.map fun c =>
        String.ofList (replaceText "\x7b\x7d".toList path (c.length + 1) c.toList))
  | .collect index command inFolder =>
    let path := pathFor inFolder v
    if inFolder then
      unless ← runCommand v.names true (command ++ [path]) do
        modify fun w => { w with status := 1 }
    else
      let paths := match w.collected.lookup index with
        | some (_, _, paths) => paths
        | none => []
      let others := w.collected.filter fun e => e.1 != index
      set { w with collected := others ++ [(index, command, inFolder, paths ++ [path])] }
    pure true

def holds (v : Visit) : Condition → Walking Bool
  | .test t => do if (← get).isOver then pure false else runTest v t
  | .not c => do pure !(← holds v c)
  | .and c d => do if ← holds v c then holds v d else pure false
  | .or c d => do if ← holds v c then pure true else holds v d
  | .list c d => do
    discard (holds v c)
    holds v d

def walk (c : Condition) (fuel depth : Nat) (path : String) (names : List String)
    : Walking Unit := do
  match fuel with
  | 0 => pure ()
  | fuel + 1 =>
    let s ← StateT.lift (get : Action State)
    let w ← get
    match s.disk.at? names with
    | none => pure ()
    | some node =>
      let (node, names) : Node × List String :=
        if node.isLink && w.plan.followsLinks then
          match s.find path, s.node path with
          | .ok names, .ok node => (node, names)
          | _, _ => (node, names)
        else (node, names)
      let visit : Walking Unit := do
        modify fun w => { w with isPruned := false }
        if w.plan.minDepth ≤ depth then
          discard (holds ⟨path, names, node, depth⟩ c)
      let enter : Walking Unit := do
        if w.plan.maxDepth.all (depth < ·) then
          let node := ((← StateT.lift (get : Action State)).disk.at? names).getD node
          for (name, _) in node.entries do
            unless (← get).isOver do
              walk c fuel (depth + 1) (below path (toBytes name)) (names ++ [name])
      if w.plan.isDepthFirst then
        enter
        unless (← get).isOver do visit
      else
        visit
        let w ← get
        unless w.isPruned || w.isOver do enter

def maxDepth : Nat := 200

end Find

open Shell

def find : Wrapper := fun launch arguments => do
  let name := arguments.head?.getD ""
  let rest := (arguments.drop 1).dropWhile fun a =>
    ["-L", "-P", "-H", "-O1", "-O2", "-O3"].contains a
  let follows := ((arguments.drop 1).take (arguments.length - 1 - rest.length)).contains "-L"
  let isPath (a : String) : Bool :=
    !(a.startsWith "-" && a.length > 1) && a ≠ "(" && a ≠ "!" && a ≠ ","
  let paths := rest.takeWhile isPath
  let words := rest.drop paths.length
  let paths := if paths.isEmpty then ["."] else paths
  match Find.readCondition words (← get) with
  | .error complaint =>
    complainAs name complaint
    pure 1
  | .ok (c, plan) =>
    let plan := { plan with followsLinks := plan.followsLinks || follows }
    let mut w : Find.Walk := { plan, launch, name }
    for path in paths do
      unless w.isOver do
        let s ← get
        match if plan.followsLinks then s.find path else s.entry path with
        | .error f =>
          complainAs name (quoteName path ++ ": " ++ f.systemText)
          w := { w with status := 1 }
        | .ok names =>
          let ((), w') ← (Find.walk c Find.maxDepth 0 path names).run { w with start := path }
          w := w'
    let mut status := w.status
    for (_, command, inFolder, paths) in w.collected do
      let (ok, _) ← (Find.runCommand [] inFolder (command ++ paths)).run w
      unless ok do status := 1
    pure status

end Utility
end FeatureRunner
