import FeatureRunner.Utility.Lines
import FeatureRunner.Utility.Words

/-!
This module contains the utilities that start another program with something changed around it: its
variables, its time or its arguments. It serves the outer layer, where commands start programs; no
result is about it.
-/

namespace FeatureRunner
namespace Utility

open Shell

abbrev Wrapper := Launcher → Utility

def endAs : Ending → Action Nat
  | .exited status => pure status
  | .killed n => do
    modify fun s => s.send s.id n
    pure (128 + n)

def become (launch : Launcher) (name what : String) (command : List String) : Action Nat := do
  match ← launch command with
  | .ok ending => endAs ending
  | .error f =>
    complainAs name (what ++ ": " ++ f.systemText)
    pure (if f = .notFound || f = .notADirectory then 127 else 126)

/-! ### Variables -/

def assignment? (text : String) : Option (String × String) :=
  let cs := text.toList
  let name := cs.takeWhile (· != '=')
  if name.length < cs.length then
    some (String.ofList name, String.ofList (cs.drop (name.length + 1)))
  else none

def splitWords (fuel : Nat) (quoted : Option Char) (word : Option (List Char))
    (cs : List Char) : List String :=
  match fuel, cs with
  | 0, _ | _, [] => (word.map fun w => String.ofList w.reverse).toList
  | fuel + 1, c :: rest =>
    let add (c : Char) (rest : List Char) (quoted : Option Char) : List String :=
      splitWords fuel quoted (some (c :: word.getD [])) rest
    match quoted with
    | some q => if c = q then splitWords fuel none (some (word.getD [])) rest else add c rest quoted
    | none =>
      if c = ' ' || c = '\t' || c = '\n' then
        match word with
        | some w => String.ofList w.reverse :: splitWords fuel none none rest
        | none => splitWords fuel none none rest
      else if c = '\'' || c = '"' then splitWords fuel (some c) (some (word.getD [])) rest
      else if c = '\\' then
        match rest with
        | d :: rest => add d rest none
        | [] => add c [] none
      else add c rest none

def expandSplit : List String → List String
  | [] => []
  | "-S" :: text :: rest => splitWords (text.length + 1) none none text.toList ++ rest
  | a :: rest =>
    match a.toList with
    | '-' :: 'S' :: cs => splitWords (cs.length + 1) none none cs ++ rest
    | '-' :: 'v' :: 'S' :: cs => splitWords (cs.length + 1) none none cs ++ rest
    | _ => if a.startsWith "-" then a :: expandSplit rest else a :: rest

def env : Wrapper := fun launch arguments =>
  let options : Options :=
    { flags := "i0v", valued := "uC"
      long := [("ignore-environment", "i", false), ("null", "0", false), ("unset", "u", true),
        ("chdir", "C", true), ("debug", "v", false)]
      inOrder := true }
  let arguments := arguments.take 1 ++ expandSplit (arguments.drop 1)
  withOptions options 125 arguments fun name a => do
    let operands := if a.operands.head? = some "-" then a.operands.drop 1 else a.operands
    let isEmpty := a.has "i" || a.operands.head? = some "-"
    let given := operands.takeWhile fun o => (assignment? o).isSome
    let command := operands.drop given.length
    modify fun s =>
      let kept := if isEmpty then [] else
        s.bindings.filter fun v => v.2.isExported && !(a.values "u").contains v.1
      let bindings := (given.filterMap assignment?).foldl (fun vs (name, value) =>
        let v : Variable := { value := some value, isExported := true }
        if (vs.lookup name).isSome then vs.map fun w => if w.1 = name then (name, v) else w
        else vs ++ [(name, v)]) kept
      { s with bindings }
    let s ← get
    match (a.value? "C").map fun dir => (dir, s.find dir, s.isDirectory dir) with
    | some (dir, .error f, _) =>
      complainAs name ("cannot change directory to " ++ quoteName dir ++ ": " ++ f.systemText)
      pure 125
    | some (dir, .ok _, false) =>
      complainAs name ("cannot change directory to " ++ quoteName dir ++ ": Not a directory")
      pure 125
    | place =>
      if let some (_, .ok names, true) := place then set { s with cwd := names }
      match command with
      | [] =>
        for (name, value) in (← get).environment do
          print (name ++ "=" ++ value ++ if a.has "0" then "\x00" else "\n")
        pure 0
      | program :: _ => become launch name (quoteName program) command

/-! ### Priority, terminals and buffers -/

def nice : Wrapper := fun launch arguments =>
  let arguments := arguments.map fun a =>
    match a.toList with
    | '-' :: c :: cs => if c.isDigit && cs.all Char.isDigit then "-n" ++ String.ofList (c :: cs) else a
    | _ => a
  let options : Options :=
    { valued := "n", long := [("adjustment", "n", true)], inOrder := true }
  withOptions options 125 arguments fun name a => do
    let isNumber (text : String) : Bool :=
      match text.toList with
      | '-' :: ds | '+' :: ds | ds => (Numeral.value? ds).isSome
    match (a.value? "n").filter fun n => !isNumber n, a.operands with
    | some bad, _ =>
      complainAs name ("invalid adjustment " ++ quote bad)
      pure 125
    | none, [] =>
      if a.has "n" then misuse name "a command must be given with an adjustment" 125
      else
        print "0\n"
        pure 0
    | none, program :: _ => become launch name (quoteName program) a.operands

def nohup : Wrapper := fun launch arguments =>
  withOptions { inOrder := true } 125 arguments fun name a => do
    match a.operands with
    | [] => misuse name "missing operand" 125
    | program :: _ =>
      modify fun s => { s with traps := (1, "") :: s.traps.filter (·.1 != 1) }
      become launch name ("failed to run command " ++ quoteName program) a.operands

def stdbuf : Wrapper := fun launch arguments =>
  let options : Options :=
    { valued := "ioe"
      long := [("input", "i", true), ("output", "o", true), ("error", "e", true)]
      inOrder := true }
  withOptions options 125 arguments fun name a => do
    match a.operands with
    | [] => misuse name "missing operand" 125
    | program :: _ =>
      if a.options.isEmpty then misuse name "you must specify a buffering mode option" 125
      else become launch name ("failed to run command " ++ quoteName program) a.operands

def setsid : Wrapper := fun launch arguments =>
  withOptions { flags := "cfw", inOrder := true } 1 arguments fun name a => do
    match a.operands with
    | [] =>
      complainAs name "no command specified"
      tryHelp name
      pure 1
    | program :: _ => become launch name ("failed to execute " ++ program) a.operands

/-! ### Time -/

def signalOf? (text : String) : Option Signal :=
  match number? text with
  | some n => some n
  | none =>
    Signal.ofName? (if text.startsWith "SIG" then String.ofList (text.toList.drop 3) else text)

def timeout : Wrapper := fun launch arguments =>
  let options : Options :=
    { flags := "vf", valued := "ks"
      long := [("kill-after", "k", true), ("signal", "s", true), ("preserve-status", "p", false),
        ("foreground", "f", false), ("verbose", "v", false)]
      inOrder := true }
  withOptions options 125 arguments fun name a => do
    match a.operands with
    | [] | [_] => do
      tryHelp name
      pure 125
    | span :: program :: rest =>
      let signal? := ((a.value? "s").map signalOf?).getD (some Signal.terminate)
      match milliseconds? span, signal? with
      | none, _ => misuse name ("invalid time interval " ++ quote span) 125
      | _, none => misuse name (quote ((a.value? "s").getD "") ++ ": invalid signal") 125
      | some time, some signal =>
        let s ← get
        let stop := s.disk.time + time
        if time ≠ 0 then set { s with alarm := some (stop, signal) }
        let r ← launch (program :: rest)
        modify fun t => { t with alarm := s.alarm }
        match r with
        | .error f =>
          complainAs name ("failed to run command " ++ quoteName program ++ ": " ++ f.systemText)
          pure (if f = .notFound || f = .notADirectory then 127 else 126)
        | .ok ending =>
          let now := (← get).disk.time
          if time ≠ 0 && stop ≤ now then
            if a.has "v" then
              complainAs name ("sending signal " ++ (Signal.name? signal).getD "" ++
                " to command " ++ quoteName program)
            if signal = Signal.kill then endAs (.killed signal)
            else if a.has "p" then pure ending.status
            else pure 124
          else endAs ending

/-! ### Arguments from the input -/

def inputWords (fuel : Nat) (quoted : Option Char) (word : Option (List Char))
    (cs : List Char) : Except String (List (String × Bool)) :=
  let done (ended : Bool) : List (String × Bool) :=
    (word.map fun w => (String.ofList w.reverse, ended)).toList
  match fuel, cs with
  | 0, _ => .ok (done true)
  | _, [] =>
    match quoted with
    | some q => .error (if q = '"' then "double" else "single")
    | none => .ok (done true)
  | fuel + 1, c :: rest =>
    let add (c : Char) (rest : List Char) (quoted : Option Char) :=
      inputWords fuel quoted (some (c :: word.getD [])) rest
    match quoted with
    | some q =>
      if c = q then inputWords fuel none (some (word.getD [])) rest
      else if c = '\n' then .error (if q = '"' then "double" else "single")
      else add c rest quoted
    | none =>
      if c = ' ' || c = '\t' then (inputWords fuel none none rest).map (done false ++ ·)
      else if c = '\n' then (inputWords fuel none none rest).map (done true ++ ·)
      else if c = '\'' || c = '"' then inputWords fuel (some c) (some (word.getD [])) rest
      else if c = '\\' then
        match rest with
        | d :: rest => add d rest none
        | [] => .ok (done true)
      else add c rest none

def inGroups (fuel count : Nat) (words : List String) : List (List String) :=
  match fuel with
  | 0 => []
  | fuel + 1 =>
    if words.isEmpty then [] else words.take count :: inGroups fuel count (words.drop count)

def inLines (count : Nat) (taken : Nat) (line : List String)
    : List (String × Bool) → List (List String)
  | [] => if line.isEmpty then [] else [line.reverse]
  | (w, isLast) :: rest =>
    let line := w :: line
    if isLast && taken + 1 = count then line.reverse :: inLines count 0 [] rest
    else inLines count (if isLast then taken + 1 else taken) line rest

def replaceText (old new : List Char) (fuel : Nat) (cs : List Char) : List Char :=
  match fuel, cs with
  | 0, _ | _, [] => []
  | fuel + 1, c :: rest =>
    if old.isPrefixOf (c :: rest) then
      new ++ replaceText old new fuel ((c :: rest).drop (max 1 old.length))
    else c :: replaceText old new fuel rest

def launchAll (launch : Launcher) (name : String) (tells : Bool) (status : Nat)
    : List (List String) → Action Nat
  | [] => pure status
  | command :: rest => do
    let program := command.head?.getD ""
    if tells then complain (Text.joinStrings ' ' (command.map quoteSpecial))
    match ← launch command with
    | .error f =>
      complainAs name (program ++ ": " ++ f.systemText)
      pure (if f = .notFound || f = .notADirectory then 127 else 126)
    | .ok (.killed n) =>
      complainAs name (program ++ ": terminated by signal " ++ Numeral.decimal n)
      pure 125
    | .ok (.exited n) =>
      if n = 255 then
        complainAs name (program ++ ": exited with status 255; aborting")
        pure 124
      else launchAll launch name tells (if n = 0 then status else 123) rest

def xargsOptions : Options :=
  { flags := "0rtpxi", valued := "nIdPLaEs"
    long := [("null", "0", false), ("no-run-if-empty", "r", false), ("verbose", "t", false),
      ("max-args", "n", true), ("replace", "I", true), ("delimiter", "d", true),
      ("max-procs", "P", true), ("max-lines", "L", true), ("arg-file", "a", true),
      ("exit", "x", false), ("max-chars", "s", true)]
    inOrder := true }

def xargs : Wrapper := fun launch arguments =>
  withOptions xargsOptions 1 arguments fun name a => do
    let path := (a.value? "a").getD "-"
    match ← contentOf path with
    | .error f =>
      complainAs name ("Cannot open input file " ++ quoteName path ++ ": " ++ f.systemText)
      pure 1
    | .ok cs =>
      let (i, s) := (← get).add (.device .null)
      unless a.has "a" do set (s.bind 0 i)
      let separator? : Option Char :=
        match a.last? ["0", "d"] with
        | some "0" => some '\x00'
        | some _ => some (escapeAt' ((a.value? "d").getD "\n").toList)
        | none => none
      let mark? := match a.last? ["I", "i"] with
        | some "I" => a.value? "I"
        | some _ => some "\x7b\x7d"
        | none => none
      let pieces (separator : Char) : List String :=
        match (Text.segments separator cs).reverse with
        | [] :: ps => ps.reverse.map String.ofList
        | ps => ps.reverse.map String.ofList
      let words : Except String (List (String × Bool)) :=
        match separator?, mark? with
        | some c, _ => .ok ((pieces c).map fun p => (p, true))
        | none, some _ =>
          .ok (((pieces '\n').filterMap fun p =>
            let line := p.toList.dropWhile fun c => c = ' ' || c = '\t'
            if line.isEmpty then none else some (String.ofList line, true)))
        | none, none => inputWords (cs.length + 1) none none cs
      let count? := (a.value? "n").map fun n => (n, number? n)
      match words, count? with
      | _, some (text, none) =>
        complainAs name ("invalid number \"" ++ text ++ "\" for -n option")
        tryHelp name
        pure 1
      | _, some (_, some 0) =>
        complainAs name "value 0 for -n option should be >= 1"
        tryHelp name
        pure 1
      | .error kind, _ =>
        complainAs name ("unmatched " ++ kind ++ " quote; by default quotes are special to " ++
          name ++ " unless you use the -0 option")
        pure 1
      | .ok words, _ =>
        let texts := words.map (·.1)
        let command := if a.operands.isEmpty then ["echo"] else a.operands
        let commands : List (List String) :=
          match mark? with
          | some mark =>
            texts.map fun t => command.map fun c =>
              String.ofList (replaceText mark.toList t.toList (c.length + 1) c.toList)
          | none =>
            let groups : List (List String) :=
              match count?.bind (·.2), (a.value? "L").bind number? with
              | some n, _ => inGroups (texts.length + 1) n texts
              | none, some n => inLines n 0 [] words
              | none, none => if texts.isEmpty then [] else [texts]
            if groups.isEmpty then if a.has "r" then [] else [command]
            else groups.map (command ++ ·)
        launchAll launch name (a.has "t") 0 commands
where
  escapeAt' : List Char → Char
    | ['\\', 'n'] => '\n'
    | ['\\', 't'] => '\t'
    | ['\\', '0'] => '\x00'
    | c :: _ => c
    | [] => '\n'

end Utility
end FeatureRunner
