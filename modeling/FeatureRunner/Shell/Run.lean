import FeatureRunner.Shell.Builtin
import FeatureRunner.Shell.Program
import FeatureRunner.Shell.Reader
import FeatureRunner.Utility.Regex
import FeatureRunner.Utility.Table

/-!
This module contains the shell itself: it carries out the statements of a script on a disk and
collects what they print. Every call of the interpreter uses up one unit of fuel; a script that runs
out of it is stopped. The parts of a pipeline run one after the other. What is sent to the
background waits until somebody waits for it, time passes or the shell has nothing else to do. It
serves the outer layer, which starts real commands; no result is about it.
-/

namespace FeatureRunner
namespace Shell

/-! ### Words for what a file system answers -/

def isMissing (f : IoFault) : Bool :=
  f = .notFound || f = .notADirectory

def openComplaint (s : State) (writes : Bool) (path : String) (f : IoFault) : String :=
  if s.isExtended then path ++ ": " ++ f.systemText
  else if writes then
    "cannot create " ++ path ++ ": " ++
      if isMissing f then "Directory nonexistent" else f.systemText
  else "cannot open " ++ path ++ ": " ++ if isMissing f then "No such file" else f.systemText

def launchComplaint (s : State) (name : String) (f : IoFault) : String × Nat :=
  if s.isExtended then
    if isMissing f then
      (name ++ if name.toList.contains '/' then ": No such file or directory"
        else ": command not found", 127)
    else if s.isDirectory name then (name ++ ": Is a directory", 126)
    else (name ++ ": " ++ f.systemText, 126)
  else if name.isEmpty then (name ++ ": Permission denied", 127)
  else if isMissing f then (name ++ ": not found", 127)
  else
    (name ++ ": " ++ f.systemText,
      if f = .linkLoop || f = .invalidName || !name.toList.contains '/' then 127 else 126)

/-! ### Processes -/

def Process.subshell (p : Process) : Process :=
  { p with traps := p.traps.filter (·.2.isEmpty), children := [], trapStatus := none }

def bareSearchPath : String := "/bin:/usr/bin"

def State.withSearchPath (s : State) : State :=
  if ((s.getVariable "PATH").value).isSome then s
  else s.setVariable "PATH" { value := some bareSearchPath }

def defaultPath : String := "/usr/local/sbin:/usr/local/bin:/usr/sbin:/usr/bin:/sbin:/bin"

def initialVariables (p : Process) : List (String × Variable) :=
  let exported := p.bindings.filter fun v => v.2.isExported && v.2.value.isSome
  let exported := exported.map fun (name, v) => (name, { v with isFixed := false, elements := none })
  let defaults : List (String × String) :=
    [("IFS", " \t\n"), ("OPTIND", "1"), ("PATH", defaultPath),
     ("PPID", Numeral.decimal (p.shellId - 1)), ("PS1", "# "), ("PS2", "> "), ("PS4", "+ ")]
  let set := exported.filter fun v => v.1 ≠ "IFS" && v.1 ≠ "OPTIND" && v.1 ≠ "PPID"
  set ++ (defaults.filter fun d => (set.lookup d.1).isNone).map fun (name, value) =>
    (name, { value := some value })

def freshProcess (s : State) (extended : Bool) (name : String) : Process :=
  let physical := Builtin.physicalPath s
  let directory :=
    match (s.bindings.lookup "PWD").bind (·.value) with
    | some path =>
      if path.startsWith "/" && (s.find path).toOption = some s.cwd then path else physical
    | none => physical
  let bindings := initialVariables { s.toProcess with shellId := s.id }
  let pwd : Variable := { value := some directory, isExported := true }
  { cwd := s.cwd
    directory
    name
    bindings := (bindings.filter (·.1 != "PWD")) ++ [("PWD", pwd)]
    traps := s.traps.filter (·.2.isEmpty)
    descriptors := s.descriptors
    mask := s.mask
    shellId := s.id
    id := s.id
    alarm := s.alarm
    isExtended := extended }

def tellSignal : Ending → Action Unit
  | .exited _ => pure ()
  | .killed n =>
    if n = Signal.interrupt || n = Signal.pipe then pure () else complain (Signal.text n)

def tellOutputFault (command : String) : Action Unit := do
  let s ← get
  match s.outputFault with
  | none => pure ()
  | some fault =>
    complainHere (if s.isExtended then "write error: " ++ fault.systemText
      else command ++ ": I/O error")
    set { (← get) with outputFault := none, status := if s.status = 0 then 1 else s.status }

def State.isDoomed (s : State) : Bool :=
  s.signals.any fun (id, n) =>
    id = s.id && !Signal.isHarmless n && (n = Signal.kill || (s.traps.lookup n).isNone)

def endingOf (r : Except Interrupt Unit) : Action Ending := do
  let s ← get
  match r with
  | .error (.killed n) => pure (.killed n)
  | _ =>
    let fatal := s.signals.find? fun (id, n) =>
      id = s.id && !Signal.isHarmless n && (s.traps.lookup n).isNone
    set { s with signals := s.signals.filter (·.1 != s.id) }
    match fatal with
    | some (_, n) => pure (.killed n)
    | none => pure (.exited (s.status % 256))

def sleepAhead : Statement → Nat
  | .simple _ [] [[.chars false ['s', 'l', 'e', 'e', 'p']], [.chars false text]] [] =>
    Utility.milliseconds? (String.ofList text) |>.getD 0
  | .sequence s _ | .and s _ | .or s _ | .subshell _ s _ | .redirected _ s _ => sleepAhead s
  | _ => 0

/-! ### Redirections -/

def openRedirect (r : Redirect Word) (target : String) : Action (Except String Unit) := do
  let s ← get
  let bound (i : Nat) : Action (Except String Unit) := do
    modify (·.bind r.descriptor i)
    pure (.ok ())
  let output (use : FileUse) (empties keeps : Bool) : Action (Except String Nat) := do
    match ← openOutput target use empties keeps with
    | .ok i => pure (.ok i)
    | .error f => pure (.error (openComplaint s true target f))
  let writes : FileUse := { writes := true }
  match r.kind with
  | .truncate =>
    match ← output writes true (s.option 'C') with
    | .ok i => bound i
    | .error c => pure (.error c)
  | .overwrite =>
    match ← output writes true false with
    | .ok i => bound i
    | .error c => pure (.error c)
  | .append =>
    match ← output { writes := true, appends := true } false false with
    | .ok i => bound i
    | .error c => pure (.error c)
  | .readWrite =>
    match ← output { writes := true, reads := true } false false with
    | .ok i => bound i
    | .error c => pure (.error c)
  | .both appends =>
    match ← output { writes := true, appends } (!appends) false with
    | .ok i =>
      modify fun s => (s.bind 1 i).bind 2 i
      pure (.ok ())
    | .error c => pure (.error c)
  | .read =>
    match ← openInput target with
    | .ok i => bound i
    | .error f => pure (.error (openComplaint s false target f))
  | .duplicate =>
    if target = "-" then
      modify (·.rebind r.descriptor none)
      pure (.ok ())
    else
      match (Numeral.value? target.toList).bind fun d => s.descriptors.lookup d with
      | some i => bound i
      | none => pure (.error (target ++ ": Bad file descriptor"))
  | .document _ =>
    let (i, s) := s.add (.source target.toList)
    set s
    bound i
  | .text =>
    let (i, s) := s.add (.source (target.toList ++ ['\n']))
    set s
    bound i

/-- Binds the descriptors of redirections one after the other; the complaint tells which one was
impossible. -/
def openRedirects : List (Redirect Word × String) → Action (Except String Unit)
  | [] => pure (.ok ())
  | (r, target) :: rest => do
    match ← openRedirect r target with
    | .ok () => openRedirects rest
    | .error c => pure (.error c)

def closeRedirects (old : State) (redirects : List (Redirect Word)) : Action Unit :=
  modify fun s => redirects.foldl (fun s r =>
    match r.kind with
    | .both _ => (s.rebind 1 (old.descriptors.lookup 1)).rebind 2 (old.descriptors.lookup 2)
    | _ => s.rebind r.descriptor (old.descriptors.lookup r.descriptor)) s

def restoring (old : State) (redirects : List (Redirect Word)) (action : Run α) : Run α := do
  let r ← attempt action
  ExceptT.lift (closeRedirects old redirects)
  match r with
  | .ok a => pure a
  | .error i => throw i

/-! ### Commands that tell about commands -/

def describe (s : State) (asType : Bool) (name : String) : Option String :=
  if (keywords.contains name) || (s.isExtended && extendedKeywords.contains name) then
    some (if asType then name ++ " is a shell keyword" else name)
  else
    match s.aliases.lookup name with
    | some text =>
      some (if asType then name ++ " is an alias for " ++ text
        else "alias " ++ name ++ "=" ++ Builtin.quoted text)
    | none =>
      if (s.functions.lookup name).isSome then
        some (if asType then name ++ " is a shell function" else name)
      else if Builtin.isKnown s.isExtended name then
        some (if !asType then name
          else if Builtin.specialNames.contains name && name ≠ "local" then
            name ++ if s.isExtended then " is a shell builtin" else " is a special shell builtin"
          else name ++ " is a shell builtin")
      else
        (Program.pathOf? s name).map fun path => if asType then name ++ " is " ++ path else path

def describeAll (names : List String) : Run Nat := do
  let mut status := 0
  for name in names do
    match describe (← get) true name with
    | some text => Builtin.say text
    | none =>
      if (← get).isExtended then complainHere (name ++ ": not found")
      else Builtin.say (name ++ ": not found")
      status := if (← get).isExtended then 1 else 127
  pure status

def nameKinds (names : List String) : Run Nat := do
  let mut status := 0
  for name in names do
    let s ← get
    let kind :=
      if (s.aliases.lookup name).isSome then "alias"
      else if keywords.contains name || extendedKeywords.contains name then "keyword"
      else if (s.functions.lookup name).isSome then "function"
      else if Builtin.isKnown true name then "builtin"
      else if (Program.pathOf? s name).isSome then "file"
      else ""
    if kind.isEmpty then status := 1 else Builtin.say kind
  pure status

def namePaths (names : List String) : Run Nat := do
  let mut status := 0
  for name in names do
    match Program.pathOf? (← get) name with
    | some path => Builtin.say path
    | none => status := 1
  pure status

def loopCount (arguments : List String) : Run Nat := do
  let n ← (arguments[1]?).elim (pure 1) Builtin.number
  if n = 0 then failWith ("Illegal number: " ++ (arguments[1]?).getD "")
  let s ← get
  if s.isExtended && s.loops = 0 then
    complainHere "only meaningful in a `for', `while', or `until' loop"
  pure (min n s.loops)

def exitStatus (text : String) : Run Nat := do
  if (← get).isExtended then
    match itemInt? text.toList with
    | some n => pure (n % 256).toNat
    | none =>
      complainHere (text ++ ": numeric argument required")
      pure 2
  else pure ((← Builtin.number text) % 256)

def checkFailure (tested : Bool) : Run Unit := do
  let s ← get
  if s.option 'e' && !tested && s.status ≠ 0 then throw .exit

def tracedWord (s : State) (w : String) : String :=
  if s.isExtended && !Utility.isPlainName w then Builtin.quoted w else w

def trace (old : State) (assigned words : List String) : Action Unit := do
  let s ← get
  if s.option 'x' && !(assigned.isEmpty && words.isEmpty) then
    let shown := assigned ++ words.map (tracedWord s)
    let text := ((s.getVariable "PS4").value.getD "") ++ String.intercalate " " shown
    set (s.rebind 255 (old.descriptors.lookup 2))
    write 255 (text ++ "\n")
    modify (·.rebind 255 none)

def withVariables (names : List String) (old : State) (action : Run α) : Run α := do
  if names.isEmpty then action
  else
    let r ← attempt action
    modify fun s => names.foldl (fun s name =>
      match old.bindings.lookup name with
      | some v => s.setVariable name v
      | none => s.removeVariable name) s
    match r with
    | .ok a => pure a
    | .error i => throw i

/-- Takes the word `command` with its options away from the front. What it does itself if it
describes commands, and whether there was one. -/
def stripCommand (isStripped : Bool) : List String → List String × Bool
  | "command" :: "-p" :: rest => stripCommand true ("command" :: rest)
  | "command" :: "--" :: name :: rest => (name :: rest, true)
  | "command" :: name :: rest =>
    if name.startsWith "-" then ("command" :: name :: rest, isStripped)
    else stripCommand true (name :: rest)
  | words => (words, isStripped)

def complainFault (source : Source) (fault : ScriptFault) : Action Unit := do
  let s ← get
  let line := ": line " ++ Numeral.decimal fault.line ++ ": "
  let front := s.origin.getD s.name ++ source.label ++ line
  complain (front ++ fault.message)
  if fault.message.startsWith "syntax error near" then
    let text := ((Text.segments '\n' source.rest)[fault.line - source.line]?).getD []
    complain (front ++ "`" ++ String.ofList text ++ "'")

def sourceOf (s : State) (text : List Char) : Source :=
  { rest := text
    isExtended := s.isExtended
    aliases := s.aliases
    documents := s.documents
    nextDocument := s.nextDocument }

def loopEnd (r : Except Interrupt Unit) : Option (Except Interrupt Unit) :=
  match r with
  | .ok () | .error (.next 0) => none
  | .error (.leave 0) => some (.ok ())
  | .error (.leave (n + 1)) => some (.error (.leave n))
  | .error (.next (n + 1)) => some (.error (.next n))
  | .error i => some (.error i)

def inLoop (action : Run Unit) : Run (Except Interrupt Unit) := do
  modify fun s => { s with loops := s.loops + 1 }
  let r ← attempt action
  modify fun s => { s with loops := s.loops - 1 }
  pure r

mutual

def carryOut (fuel : Nat) (tested : Bool) (s : Statement) : Run Unit :=
  match fuel with
  | 0 => throw .exit
  | fuel + 1 =>
    match s with
    | .nothing => pure ()
    | .sequence s t => do
      carryOut fuel tested s
      carryOut fuel tested t
    | .and s t => do
      carryOut fuel true s
      if (← get).status = 0 then carryOut fuel tested t
    | .or s t => do
      carryOut fuel true s
      if (← get).status ≠ 0 then carryOut fuel tested t
    | .not s => do
      carryOut fuel true s
      setStatus (if (← get).status = 0 then 1 else 0)
    | .subshell line s redirects => do
      modify fun s => { s with line }
      let ending ← ExceptT.lift (inSubshell fuel do
        let old ← get
        if ← redirect fuel redirects then
          restoring old redirects (carryOut fuel tested s))
      ExceptT.lift (tellSignal ending)
      setStatus ending.status
      deliver fuel
      react fuel tested
    | .pipeline parts => do
      let input := (← get).descriptors.lookup 0
      let endings ← ExceptT.lift (pipeline fuel parts [])
      modify (·.rebind 0 input)
      let last := (endings.getLast?).getD (.exited 0)
      modify fun s => { s with partStatuses := endings.map Ending.status }
      ExceptT.lift (tellSignal last)
      let failed := endings.reverse.find? fun e => !e.isSuccess
      let status := if (← get).option 'P' then (failed.map Ending.status).getD 0 else last.status
      setStatus status
      deliver fuel
      react fuel tested
    | .redirected line s redirects => do
      modify fun s => { s with line := line }
      let old ← get
      if ← redirect fuel redirects then restoring old redirects (carryOut fuel tested s)
    | .background s => do
      background s
    | .conditional condition yes no => do
      carryOut fuel true condition
      if (← get).status = 0 then carryOut fuel tested yes
      else
        setStatus 0
        carryOut fuel tested no
    | .loop onSuccess condition body => repeatLoop fuel tested onSuccess condition body 0
    | .each line name words body => do
      modify fun s => { s with line := line }
      let words ←
        match words with
        | some ws => do pure (← ws.mapM (expandWord (substitute fuel))).flatten
        | none => do pure (← get).arguments
      setStatus 0
      forEachWord fuel tested name words body
    | .select line w clauses => do
      modify fun s => { s with line := line }
      let text ← expandWhole (substitute fuel) w
      setStatus 0
      select fuel tested text clauses
    | .define _ name body =>
      modify fun s =>
        { s with
          functions := (name, body) :: s.functions.filter (·.1 != name)
          status := 0 }
    | .test line c => do
      modify fun s => { s with line }
      let r ← decide fuel c
      setStatus (if r then 0 else 1)
      react fuel tested
    | .compute line formula => do
      modify fun s => { s with line }
      let text ← expandText wordFuel (substitute fuel) formula true
      modify fun s => { s with command := some "((" }
      let r ← attempt (computeFormula text)
      modify fun s => { s with command := none }
      match r with
      | .ok n => setStatus (if n = 0 then 1 else 0)
      | .error .failed => setStatus 1
      | .error i => throw i
      react fuel tested
    | .count line start condition step body => do
      modify fun s => { s with line }
      let value (w : Word) : Run Int := do
        computeFormula (← expandText wordFuel (substitute fuel) w true)
      let _ ← value start
      countLoop fuel tested condition step body
    | .simple line assignments words redirects => do
      modify fun s => { s with line := line, substituted := 0 }
      let old ← get
      simple fuel tested assignments words redirects
      if old.isExtended then
        modify fun s => { s.dropSources old with partStatuses := [] }
      deliver fuel
      react fuel tested
termination_by fuel
where
  background (statement : Statement) : Run Unit := modify fun s =>
    let id := s.nextId
    let (i, s) := s.add (.device .null)
    let p := { s.toProcess.subshell with id }
    let p := { p with descriptors := (0, i) :: p.descriptors.filter (·.1 != 0) }
    { s with
      nextId := id + 1
      lastJob := some id
      children := id :: s.children
      jobs := s.jobs ++
        [⟨s.disk.time, s.disk.time + sleepAhead statement, p, statement⟩]
      status := 0 }

def redirect (fuel : Nat) (redirects : List (Redirect Word)) : Run Bool :=
  match fuel with
  | 0 => throw .exit
  | fuel + 1 => do
    let targets ← redirects.mapM fun r => do
      match r.kind with
      | .document number =>
        let parts := ((← get).documents.lookup number).getD []
        let e ← expandParts wordFuel (substitute fuel) { quoted := true, splits := false } false
          parts {}
        pure (r, String.ofList e.text)
      | .duplicate =>
        let text ← expandWhole (substitute fuel) r.target
        unless text = "-" || (text.length = 1 && text.toList.all Char.isDigit) do
          failWith "Bad fd number"
        pure (r, text)
      | _ => do pure (r, ← expandWhole (substitute fuel) r.target)
    let old ← get
    match ← ExceptT.lift (openRedirects targets) with
    | .ok () => pure true
    | .error complaint =>
      complainHere complaint
      ExceptT.lift (closeRedirects old redirects)
      setStatus (if old.isExtended then 1 else 2)
      pure false
termination_by fuel

def pipeline (fuel : Nat) (parts : List Statement) (endings : List Ending)
    : Action (List Ending) :=
  match fuel, parts with
  | 0, _ | _, [] => pure endings.reverse
  | fuel + 1, [s] => do
    let ending ← inSubshell fuel (carryOut fuel false s)
    pure (ending :: endings).reverse
  | fuel + 1, s :: rest => do
    let t ← get
    let output := t.descriptors.lookup 1
    let (i, t) := t.add (.sink [] (some pipeSize))
    set (t.bind 1 i)
    let ending ← inSubshell fuel (carryOut fuel false s)
    modify fun t =>
      let text := t.written i
      let t := { t with channels := t.channels.set! i (.source text.toList) }
      (t.rebind 1 output).bind 0 i
    pipeline fuel rest (ending :: endings)
termination_by fuel

def inSubshell (fuel : Nat) (action : Run Unit) : Action Ending :=
  match fuel with
  | 0 => pure (.exited 2)
  | fuel + 1 => asChild do
    modify fun s => { s with toProcess := s.toProcess.subshell }
    let r ← action.run
    finish fuel r
termination_by fuel

def substitute (fuel : Nat) (trims : Bool) (s : Statement) : Run String :=
  match fuel with
  | 0 => pure ""
  | fuel + 1 => do
    let s := if (← get).isExtended then reading s else s
    let (ending, text) ← ExceptT.lift
      (collecting none (inSubshell fuel (carryOut fuel false s)))
    ExceptT.lift (tellSignal ending)
    modify fun s => { s with substituted := ending.status }
    if trims then
      let cs := text.toList.filter (· != '\x00')
      pure (String.ofList (cs.reverse.dropWhile (· == '\n')).reverse)
    else pure text
termination_by fuel
where
  /-- The statement that prints a file in the place of one that only names the file. -/
  reading : Statement → Statement
    | .simple line [] [] [⟨0, .read, w⟩] =>
      .simple line [] [[.chars false "cat".toList]] [⟨0, .read, w⟩]
    | s => s

def repeatLoop (fuel : Nat) (tested onSuccess : Bool) (condition body : Statement)
    (last : Nat) : Run Unit :=
  match fuel with
  | 0 => throw .exit
  | fuel + 1 => do
    match loopEnd (← inLoop (carryOut fuel true condition)) with
    | some r =>
      setStatus 0
      ExceptT.mk (pure r)
    | none =>
      if ((← get).status = 0) = onSuccess then
        match loopEnd (← inLoop (carryOut fuel tested body)) with
        | none => repeatLoop fuel tested onSuccess condition body (← get).status
        | some r => ExceptT.mk (pure r)
      else setStatus last
termination_by fuel

def forEachWord (fuel : Nat) (tested : Bool) (name : String) (words : List String)
    (body : Statement) : Run Unit :=
  match fuel, words with
  | _, [] => pure ()
  | 0, _ => throw .exit
  | fuel + 1, word :: words => do
    assign name word
    match loopEnd (← inLoop (carryOut fuel tested body)) with
    | none => forEachWord fuel tested name words body
    | some r => ExceptT.mk (pure r)
termination_by fuel

def countLoop (fuel : Nat) (tested : Bool) (condition step : Word) (body : Statement)
    : Run Unit :=
  match fuel with
  | 0 => throw .exit
  | fuel + 1 => do
    let value (w : Word) : Run Int := do
      computeFormula (← expandText wordFuel (substitute fuel) w true)
    let goesOn ← if condition.isEmpty then pure true else do pure ((← value condition) ≠ 0)
    if goesOn then
      match loopEnd (← inLoop (carryOut fuel tested body)) with
      | none =>
        let _ ← value step
        countLoop fuel tested condition step body
      | some r => ExceptT.mk (pure r)
termination_by fuel

def select (fuel : Nat) (tested : Bool) (text : String)
    (clauses : List (Clause Word Statement)) : Run Unit :=
  match fuel, clauses with
  | 0, _ | _, [] => pure ()
  | fuel + 1, c :: rest => do
    if ← anyFits fuel text c.patterns then selected fuel tested text c rest
    else select fuel tested text rest
termination_by fuel

def selected (fuel : Nat) (tested : Bool) (text : String) (c : Clause Word Statement)
    (rest : List (Clause Word Statement)) : Run Unit :=
  match fuel with
  | 0 => pure ()
  | fuel + 1 => do
    carryOut fuel tested c.body
    if c.fallsThrough then
      match rest with
      | next :: rest => selected fuel tested text next rest
      | [] => pure ()
    else if c.goesOn then select fuel tested text rest
termination_by fuel

def anyFits (fuel : Nat) (text : String) (patterns : List Word) : Run Bool :=
  match fuel, patterns with
  | 0, _ | _, [] => pure false
  | fuel + 1, w :: rest => do
    let pattern ← expandPattern wordFuel (substitute fuel) w
    if fitsText pattern text.toList then pure true else anyFits fuel text rest
termination_by fuel

def decide (fuel : Nat) (c : Condition Word) : Run Bool :=
  match fuel with
  | 0 => pure false
  | fuel + 1 => do
    match c with
    | .not c => do pure (!(← decide fuel c))
    | .and c d => do if ← decide fuel c then decide fuel d else pure false
    | .or c d => do if ← decide fuel c then pure true else decide fuel d
    | .one question w =>
      let text ← expandWhole (substitute fuel) w
      if question = "-v" then pure ((← get).hasValue text)
      else pure (askOne (← get) (if question = "-a" then "-e" else question) text)
    | .two v question w =>
      let a ← expandWhole (substitute fuel) v
      if question = "=~" then
        let e ← expandParts wordFuel (substitute fuel) { splits := false } true w {}
        let pattern := e.glyphs.flatMap fun (c, quoted) =>
          if quoted && !c.isAlphanum then ['\\', c] else [c]
        match Utility.Regex.ofChars? true pattern with
        | .error _ =>
          setStatus 2
          pure false
        | .ok r =>
          match r.search? false a.toList with
          | none => pure false
          | some m =>
            let groups := (m.groups a.toList).zipIdx.map fun (g, i) => (i, g)
            modify fun s => s.setVariable "BASH_REMATCH" { elements := some groups }
            pure true
      else if question = "=" || question = "==" || question = "!=" then
        let pattern ← expandPattern wordFuel (substitute fuel) w
        pure (fitsText pattern a.toList != (question == "!="))
      else
        let b ← expandWhole (substitute fuel) w
        if ["-eq", "-ne", "-lt", "-le", "-gt", "-ge"].contains question then
          let m ← computeFormula a
          let n ← computeFormula b
          pure (match question with
            | "-eq" => m == n
            | "-ne" => m != n
            | "-lt" => m < n
            | "-le" => m ≤ n
            | "-gt" => n < m
            | _ => n ≤ m)
        else pure ((askTwo (← get) a question b).toOption.getD false)
termination_by fuel

/-- Expands words one after the other. Those behind a command that assigns are not cut apart if they
are assignments. -/
def expandWords (fuel : Nat) (words : List Word) (expanded : List String) : Run (List String) :=
  match fuel, words with
  | 0, _ | _, [] => pure expanded
  | fuel + 1, w :: rest => do
    let assigns := (stripCommand false expanded).1.head?.any fun c =>
      c ∈ ["export", "readonly", "local", "declare", "typeset"]
    let more ←
      match if assigns then assignmentStart? false w else none with
      | some a => do pure [a.name ++ "=" ++ (← expandValue (substitute fuel) a.value)]
      | none => expandWord (substitute fuel) w
    expandWords fuel rest (expanded ++ more)
termination_by fuel

def carryOutAssignment (fuel : Nat) (a : Assignment Word) : Run String :=
  match fuel with
  | 0 => pure ""
  | fuel + 1 => do
    match a.elements with
    | some words =>
      let s ← get
      let old := if a.appends then s.elements a.name else []
      let first := (old.getLast?.map (·.1 + 1)).getD 0
      let elements := (← elementsOf fuel a.name first words).foldl
        (fun elements (place, value) => State.putElement place value elements) old
      modify fun s => s.setVariable a.name
        { s.getVariable a.name with elements := some elements }
      pure (a.name ++ "=()")
    | none =>
      let value ← expandValue (substitute fuel) a.value
      match a.index with
      | none =>
        let s ← get
        let old := if a.appends then (s.lookup? a.name).getD "" else ""
        let value ← if (s.getVariable a.name).isNumber then sum old value else pure (old ++ value)
        assign a.name value
        pure (a.name ++ "=" ++ tracedWord s value)
      | some w =>
        let i ← elementPlace a.name (← expandText wordFuel (substitute fuel) w true)
        let s ← get
        let old := if a.appends then ((s.elements a.name).lookup i).getD "" else ""
        let value ← if (s.getVariable a.name).isNumber then sum old value else pure (old ++ value)
        modify (·.setElement a.name i value)
        pure (a.name ++ "[" ++ s.indexText a.name i ++ "]=" ++ tracedWord s value)
termination_by fuel
where
  sum (old formula : String) : Run String := do
    let n ← computeFormula formula
    pure (Numeral.decimalInt (wrap ((if old.isEmpty then 0 else (valueNumber? old).getD 0) + n)))

/-- The elements that the words between the parentheses of an array make, from a place on where they
do not name theirs. -/
def elementsOf (fuel : Nat) (name : String) (place : Nat) (words : List Word)
    : Run (List (Nat × String)) :=
  match fuel, words with
  | 0, _ | _, [] => pure []
  | fuel + 1, w :: rest => do
    match arrayElement? name w with
    | some a =>
      let place ← elementPlace name
        (← expandText wordFuel (substitute fuel) (a.index.getD []) true)
      let value ← expandValue (substitute fuel) a.value
      pure ((place, value) :: (← elementsOf fuel name (place + 1) rest))
    | none =>
      let values ← expandWord (substitute fuel) w
      let more ← elementsOf fuel name (place + values.length) rest
      pure ((values.zipIdx.map fun (v, i) => (place + i, v)) ++ more)
termination_by fuel

def simple (fuel : Nat) (tested : Bool) (assignments : List (Assignment Word))
    (words : List Word) (redirects : List (Redirect Word)) : Run Unit :=
  match fuel with
  | 0 => throw .exit
  | fuel + 1 => do
    let argv ← expandWords fuel words []
    let (argv, isStripped) := stripCommand false argv
    let old ← get
    let command := argv.head?.getD ""
    let isFunction := !isStripped && (old.functions.lookup command).isSome
    let isSpecial := !isFunction && !isStripped && !old.isExtended &&
      Builtin.specialNames.contains command
    if !(← redirect fuel redirects) then
      if isSpecial then throw .failed
    else
      let carry : Run Unit := do
        let before ← get
        let traced ← assignments.mapM (carryOutAssignment fuel)
        let isTemporary := !argv.isEmpty && !isSpecial
        let names := if isTemporary then assignments.map (·.name) else []
        for name in names do
          modify fun s => s.setVariable name { s.getVariable name with isExported := true }
        ExceptT.lift (trace old traced argv)
        if argv.isEmpty then setStatus (← get).substituted
        else withVariables names before (call fuel tested isStripped isSpecial argv)
      if command = "exec" && isSpecial || (command = "exec" && old.isExtended) then carry
      else restoring old redirects carry
termination_by fuel

def call (fuel : Nat) (tested noFunctions isSpecial : Bool) (argv : List String) : Run Unit :=
  match fuel with
  | 0 => throw .exit
  | fuel + 1 => do
    let s ← get
    let command := argv.head?.getD ""
    let function := if noFunctions || command.toList.contains '/' then none
      else s.functions.lookup command
    match function with
    | some f => callFunction fuel tested command f (argv.drop 1)
    | none =>
      if Builtin.isKnown s.isExtended command then
        modify fun t => { t with command := some command, outputFault := none }
        let r ← attempt (callBuiltin fuel tested command argv)
        ExceptT.lift (tellOutputFault command)
        modify fun t => { t with command := s.command }
        match r with
        | .ok () => pure ()
        | .error .failed => if isSpecial then throw .failed
        | .error i => throw i
      else callProgram fuel argv
termination_by fuel

def callFunction (fuel : Nat) (tested : Bool) (name : String) (body : Statement)
    (arguments : List String) : Run Unit :=
  match fuel with
  | 0 => throw .exit
  | fuel + 1 => do
    let s ← get
    set { s with
      arguments, loops := 0, calls := s.calls + 1, frames := [] :: s.frames
      called := name :: s.called
      origin := if s.option 'c' then some (s.origin.getD "environment") else s.origin
      optionOffset := none }
    let r ← attempt (carryOut fuel tested body)
    modify fun t =>
      let t := (t.frames.head?.getD []).foldl (fun t (name, v) =>
        match v with
        | some v => t.setVariable name v
        | none => t.removeVariable name) t
      { t with
        arguments := s.arguments, loops := s.loops, called := s.called, origin := s.origin
        calls := s.calls, frames := s.frames, optionOffset := s.optionOffset }
    match r with
    | .ok () | .error .return => pure ()
    | .error i => throw i
termination_by fuel

def callBuiltin (fuel : Nat) (tested : Bool) (command : String) (argv : List String)
    : Run Unit :=
  match fuel with
  | 0 => throw .exit
  | fuel + 1 => do
    let arguments := argv.drop 1
    match command with
    | "exit" =>
      let s ← get
      if s.isExtended && arguments.length > 1 then failWith "too many arguments" 1
      match arguments.head? with
      | some text => setStatus (← exitStatus text)
      | none => setStatus (s.trapStatus.getD s.status)
      throw .exit
    | "return" =>
      let s ← get
      if s.isExtended && s.calls = 0 then
        failWith "can only `return' from a function or sourced script"
      if let some text := arguments.head? then
        setStatus (← if s.isExtended then exitStatus text else Builtin.number text)
      throw (if s.calls = 0 then Interrupt.exit else .return)
    | "break" =>
      let n ← loopCount argv
      setStatus 0
      if n ≠ 0 then throw (.leave (n - 1))
    | "continue" =>
      let n ← loopCount argv
      setStatus 0
      if n ≠ 0 then throw (.next (n - 1))
    | "eval" =>
      let text := (Text.joinStrings ' ' arguments).toList
      let s ← get
      if s.isExtended then
        modify fun s => { s with command := none }
        runSource fuel tested { sourceOf s text with line := s.line, label := ": eval" } false
      else runText fuel tested text
    | "." | "source" => sourceFile fuel arguments
    | "exec" =>
      if arguments.isEmpty then setStatus 0
      else
        let s ← get
        match ← ExceptT.lift (launch fuel true arguments) with
        | .ok (.exited status) =>
          set { (← get) with status, traps := [] }
          throw .exit
        | .ok (.killed n) => throw (.killed n)
        | .error f =>
          let (complaint, status) := launchComplaint s (arguments.head?.getD "") f
          complainHere complaint
          setStatus status
          throw .exit
    | "command" =>
      match arguments with
      | "-v" :: name :: _ =>
        match describe (← get) false name with
        | some text =>
          Builtin.say text
          setStatus 0
        | none => setStatus (if (← get).isExtended then 1 else 127)
      | "-V" :: name :: _ => setStatus (← describeAll [name])
      | a :: _ =>
        if a.startsWith "-" && a ≠ "-v" && a ≠ "-V" then
          failWith ("Illegal option -" ++ String.ofList ((a.toList.drop 1).take 1))
        else setStatus 0
      | [] => setStatus 0
    | "builtin" => call fuel tested true false arguments
    | "type" =>
      let names := arguments.filter fun a => !a.startsWith "-"
      match (← get).isExtended, arguments.head? with
      | true, some "-t" => setStatus (← nameKinds names)
      | true, some "-p" | true, some "-P" => setStatus (← namePaths names)
      | _, _ => setStatus (← describeAll names)
    | "hash" =>
      let (_, names) ← Builtin.letters "rv" arguments
      let mut status := 0
      for name in names do
        if (describe (← get) true name).isNone then
          complainHere (name ++ ": not found")
          status := 1
      setStatus status
    | "wait" => wait fuel arguments
    | _ =>
      match Builtin.find? (← get).isExtended command with
      | some b => setStatus (← b argv)
      | none => setStatus 127
termination_by fuel

def sourceFile (fuel : Nat) (arguments : List String) : Run Unit :=
  match fuel with
  | 0 => throw .exit
  | fuel + 1 => do
    let s ← get
    let name := arguments.head?.getD ""
    if s.isExtended && !arguments.isEmpty then modify fun s => { s with command := none }
    if arguments.isEmpty then
      if s.isExtended then
        complainHere "filename argument required"
        setStatus 2
      else failWith "???"
    else
      let isFile (path : String) : Bool :=
        (s.node path).toOption.any fun n => n.isFile
      let path? : Option String :=
        if name.toList.contains '/' then some name
        else
          match ((Program.searchPath s).map (· ++ name)).find? isFile with
          | some path => some path
          | none => if s.isExtended then some name else none
      match path? with
      | none => failWith (name ++ ": not found")
      | some path =>
        match ← ExceptT.lift (Utility.contentOf path) with
        | .error f =>
          if s.isExtended then
            complainHere (path ++ ": " ++ f.systemText)
            setStatus 1
          else failWith (openComplaint s false path f)
        | .ok text =>
          let old := s.arguments
          let replaces := s.isExtended && arguments.length > 1
          modify fun s =>
            { s with
              command := if s.isExtended then none else some path
              origin := if s.isExtended then some path else none
              calls := s.calls + 1
              arguments := if replaces then arguments.drop 1 else s.arguments }
          let r ← attempt (runText fuel false text)
          modify fun t =>
            { t with
              command := s.command, calls := s.calls, origin := s.origin
              arguments := if replaces then old else t.arguments }
          match r with
          | .ok () | .error .return => pure ()
          | .error i => throw i
termination_by fuel

def callProgram (fuel : Nat) (argv : List String) : Run Unit :=
  match fuel with
  | 0 => throw .exit
  | fuel + 1 => do
    ExceptT.lift (runJobs fuel false)
    let s ← get
    match ← ExceptT.lift (launch fuel false argv) with
    | .ok ending =>
      modify State.ring
      unless (← get).isDoomed do ExceptT.lift (tellSignal ending)
      setStatus ending.status
      if s.disk.time < (← get).disk.time then ExceptT.lift (runJobs fuel false)
    | .error f =>
      let (complaint, status) := launchComplaint s (argv.head?.getD "") f
      complainHere complaint
      setStatus status
termination_by fuel

/-- Starts a program and tells how it ended. With `replaces` it takes the place of the process. -/
def launch (fuel : Nat) (replaces : Bool) (argv : List String)
    : Action (Except IoFault Ending) :=
  match fuel with
  | 0 => pure (.error .notFound)
  | fuel + 1 => do
    let s ← get
    let (path, found) := Program.search s (argv.head?.getD "") argv
    let start (action : Action Ending) : Action (Except IoFault Ending) := do
      if replaces then
        let old := (← get).toProcess
        let ending ← action
        modify fun s => { s with toProcess := old }
        pure (.ok ending)
      else .ok <$> asChild action
    match found with
    | .ok (program, argv) => start (runProgram fuel program argv)
    | .error .noProgram => start (runShell fuel s.isExtended ("sh" :: path :: argv.drop 1))
    | .error f => pure (.error f)
termination_by fuel

def runProgram (fuel : Nat) (program : String) (argv : List String) : Action Ending :=
  match fuel with
  | 0 => pure (.exited 127)
  | fuel + 1 => do
    if program = "sh" || program = "dash" then runShell fuel false argv
    else if program = "bash" then runShell fuel true argv
    else
      let utility : Utility :=
        match Utility.wrappers.lookup program with
        | some w => w fun argv => do
          modify State.withSearchPath
          launch fuel false argv
        | none => (Utility.table.lookup program).getD fun _ => pure 127
      modify fun s => { s with traps := s.traps.filter (·.2.isEmpty), isExtended := false }
      let status ← utility argv
      match (← get).outputFault with
      | some fault =>
        Utility.complainAs (argv.head?.getD program) ("write error: " ++ fault.systemText)
        setStatus (if status = 0 then 1 else status)
      | none => setStatus status
      endingOf (.ok ())
termination_by fuel

def runShell (fuel : Nat) (extended : Bool) (argv : List String) : Action Ending :=
  match fuel with
  | 0 => pure (.exited 127)
  | fuel + 1 => do
    let name := argv.head?.getD "sh"
    modify fun s => { s with toProcess := { freshProcess s extended name with line := 0 } }
    let arguments := argv.drop 1
    let arguments :=
      if extended then
        arguments.dropWhile fun a => a.startsWith "--" && a.length > 2
      else arguments
    let r ← ExceptT.run (m := Action) (ε := Interrupt) (α := Unit) do
      let (operands, _) ← Builtin.setOptions true (arguments.length + 1) arguments
      let s ← get
      let begin : Run Unit := modify fun s =>
        { (if extended then s else s.setOption 'c' false).setOption 'l' false with line := 1 }
      if s.option 'c' then
        match operands with
        | [] => failWith "-c requires an argument"
        | text :: rest =>
          begin
          modify fun s => { s with name := rest.head?.getD s.name, arguments := rest.drop 1 }
          runSource fuel false { sourceOf (← get) text.toList with label := ": -c" } false
      else
        match if s.option 's' then none else operands.head? with
        | some path =>
          match ← ExceptT.lift (Utility.contentOf path) with
          | .error .isADirectory =>
            if extended then
              ExceptT.lift (complain (path ++ ": " ++ path ++ ": Is a directory"))
              setStatus 126
          | .error f =>
            if extended then
              ExceptT.lift (complain (name ++ ": " ++ path ++ ": " ++ f.systemText))
              setStatus 127
            else failWith (openComplaint s false path f)
          | .ok text =>
            begin
            modify fun s => { s with name := path, arguments := operands.drop 1 }
            runText fuel false text
        | none =>
          let (r, s) := s.take 0 none
          set s
          begin
          modify fun s => { s.setOption 's' true with arguments := operands }
          runText fuel false (r.toOption.getD [])
    finish fuel r
termination_by fuel

def finish (fuel : Nat) (r : Except Interrupt Unit) : Action Ending :=
  match fuel with
  | 0 => pure (.exited 2)
  | fuel + 1 => do
    let s ← get
    let r ←
      match r, s.traps.lookup 0 with
      | .error (.killed n), _ => pure (.error (.killed n))
      | r, none => pure r
      | r, some action => do
        set { s with traps := s.traps.filter (·.1 != 0), trapStatus := some s.status, loops := 0 }
        let outcome ← (runText fuel false action.toList).run
        match outcome with
        | .error (.killed n) => pure (.error (.killed n))
        | .error .exit => pure (.ok ())
        | _ =>
          setStatus s.status
          pure r
    if s.id = s.shellId then runJobs fuel false
    endingOf r
termination_by fuel

def runText (fuel : Nat) (tested : Bool) (text : List Char) : Run Unit :=
  match fuel with
  | 0 => throw .exit
  | fuel + 1 => do
    let source := sourceOf (← get) text
    runSource fuel tested source false
termination_by fuel

def runSource (fuel : Nat) (tested : Bool) (source : Source) (hasRun : Bool) : Run Unit :=
  match fuel with
  | 0 => throw .exit
  | fuel + 1 => do
    let s ← get
    match { source with aliases := if s.isExtended then [] else s.aliases }.next with
    | .error fault =>
      modify fun s => { s with line := fault.line }
      if s.isExtended then
        ExceptT.lift (complainFault source fault)
        setStatus 2
      else failWith ("Syntax error: " ++ fault.message)
    | .ok (statement, rest) =>
      if s.option 'v' then
        let read := source.rest.take (source.rest.length - rest.rest.length)
        ExceptT.lift (write 2 (String.ofList read))
      modify fun s =>
        { s with documents := rest.documents, nextDocument := rest.nextDocument }
      match statement with
      | none => unless hasRun do setStatus 0
      | some .nothing => runSource fuel tested rest hasRun
      | some statement =>
        unless (← get).option 'n' do
          if s.isExtended then
            match ← attempt (carryOut fuel tested statement) with
            | .ok () => pure ()
            | .error .failed => if (← get).status = 0 then setStatus 1
            | .error i => throw i
          else carryOut fuel tested statement
        let s ← get
        runSource fuel tested { rest with nextDocument := s.nextDocument, documents := s.documents }
          true
termination_by fuel

def react (fuel : Nat) (tested : Bool) : Run Unit :=
  match fuel with
  | 0 => pure ()
  | fuel + 1 => do
    let s ← get
    if !tested && s.status ≠ 0 && s.frames.isEmpty then
      if let some action := s.traps.lookup Signal.failure then
        runText fuel true action.toList
        setStatus s.status
    checkFailure tested
termination_by fuel

def deliver (fuel : Nat) : Run Unit :=
  match fuel with
  | 0 => pure ()
  | fuel + 1 => do
    modify State.ring
    let s ← get
    match s.signals.find? (·.1 = s.id) with
    | none => pure ()
    | some (_, n) =>
      set { s with signals := s.signals.eraseP (· == (s.id, n)) }
      let action := if n = Signal.kill then none else s.traps.lookup n
      match action with
      | none => unless Signal.isHarmless n do throw (.killed n)
      | some "" => deliver fuel
      | some text =>
        modify fun t => { t with trapStatus := some s.status }
        runText fuel false text.toList
        modify fun t => { t with trapStatus := s.trapStatus, status := s.status }
        deliver fuel
termination_by fuel

def runJobs (fuel : Nat) (all : Bool) : Action Unit :=
  match fuel with
  | 0 => pure ()
  | fuel + 1 => do
    let s ← get
    let due := s.jobs.filter fun j => all || j.wakes ≤ s.disk.time
    match due.mergeSort fun j k => j.wakes ≤ k.wakes with
    | [] => pure ()
    | job :: _ =>
      runJob fuel job
      runJobs fuel all
termination_by fuel

def runJob (fuel : Nat) (job : Job) : Action Unit :=
  match fuel with
  | 0 => pure ()
  | fuel + 1 => do
    let s ← get
    let now := s.disk.time
    set { s with
      toProcess := job.process
      jobs := s.jobs.filter (·.process.id != job.process.id)
      disk := { s.disk with time := job.started } }
    let r ← (carryOut fuel false job.statement).run
    let ending ← finish fuel r
    modify fun t =>
      { t with
        toProcess := s.toProcess
        endings := (job.process.id, t.disk.time, ending) :: t.endings
        disk := { t.disk with time := now } }
termination_by fuel

def wait (fuel : Nat) (arguments : List String) : Run Unit :=
  match fuel with
  | 0 => pure ()
  | fuel + 1 => do
    let s ← get
    if arguments.isEmpty then
      ExceptT.lift (runJobs fuel true)
      modify fun t =>
        let last := (t.endings.filter fun e => s.children.contains e.1).foldl
          (fun time e => max time e.2.1) t.disk.time
        { t with disk := t.disk.pass (last - t.disk.time), children := [], status := 0 }
    else
      for text in arguments do
        let id ←
          match text.toList with
          | '%' :: ds => pure ((s.children.reverse[(Numeral.value? ds).getD 1 - 1]?).getD 0)
          | _ => Builtin.number text
        let t ← get
        if let some job := t.jobs.find? (·.process.id = id) then ExceptT.lift (runJob fuel job)
        let t ← get
        match t.endings.lookup id with
        | some (time, ending) =>
          if s.children.contains id then
            set { t with
              disk := t.disk.pass (time - t.disk.time)
              status := ending.status
              children := t.children.filter (· != id) }
          else setStatus 127
        | none => setStatus 127
termination_by fuel

end

def maxSteps : Nat := 10000000

end Shell
end FeatureRunner
