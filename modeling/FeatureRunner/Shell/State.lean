import FeatureRunner.Files.Disk
import FeatureRunner.Shell.Bytes
import FeatureRunner.Shell.Signal
import FeatureRunner.Shell.Statement

/-!
This module contains the state of a shell: what belongs to one process, like its variables and what
its descriptors are bound to, and what all processes share, like the disk and what is open. A
process that another one makes begins with a copy of the first part and goes on with the second. It
serves the outer layer, which starts real commands; no result is about it.
-/

namespace FeatureRunner
namespace Shell

structure FileUse where
  reads : Bool := false
  writes : Bool := false
  appends : Bool := false
  deriving DecidableEq

inductive Channel where
  | source (rest : List Char)
  /-- What was written, the latest piece first. `room` is what a pipe can still take. -/
  | sink (pieces : List String) (room : Option Nat)
  | file (names : List String) (offset : Nat) (use : FileUse)
  | directory
  | device (d : Device)

instance : Inhabited Channel := ⟨.directory⟩

structure Variable where
  value : Option String := none
  isExported : Bool := false
  isFixed : Bool := false
  /-- The elements of an array by their places, the smallest place first. -/
  elements : Option (List (Nat × String)) := none
  /-- Are the places of the elements given by texts and not by numbers? -/
  isKeyed : Bool := false
  isNumber : Bool := false
  deriving Inhabited

structure Process where
  cwd : List String
  directory : String := ""
  name : String := "sh"
  arguments : List String := []
  bindings : List (String × Variable) := []
  functions : List (String × Statement) := []
  aliases : List (String × String) := []
  options : List Char := []
  /-- What is done on signals and, by the number zero, at the end. -/
  traps : List (Signal × String) := []
  status : Nat := 0
  line : Nat := 1
  command : Option String := none
  descriptors : List (Nat × Nat) := []
  mask : Nat := 0o022
  loops : Nat := 0
  /-- The number of functions and sourced files around the command. -/
  calls : Nat := 0
  /-- The variables that were made local, with their outer values, for every function around the
  command. -/
  frames : List (List (String × Option Variable)) := []
  /-- The character of an argument at which the next option is looked for. -/
  optionOffset : Option Nat := none
  isExtended : Bool := false
  shellId : Nat := 4242
  id : Nat := 4242
  lastJob : Option Nat := none
  /-- The processes in the background that this one has made, the latest first. -/
  children : List Nat := []
  documents : List (Nat × Word) := []
  nextDocument : Nat := 0
  /-- The status of the last command whose output was put into a word. -/
  substituted : Nat := 0
  /-- While the action of a trap is carried out: the status before. -/
  trapStatus : Option Nat := none
  /-- The statuses of the parts of the last command, if it was a pipeline. -/
  partStatuses : List Nat := []
  /-- What complaints of the extended dialect call the script, if not by its name. -/
  origin : Option String := none
  /-- The names of the functions around the command, the innermost first. -/
  called : List String := []
  visited : List String := []
  outputFault : Option IoFault := none
  alarm : Option (Nat × Signal) := none

structure Job where
  started : Nat
  wakes : Nat
  process : Process
  statement : Statement

structure World where
  disk : Disk
  channels : Array Channel := #[]
  signals : List (Nat × Signal) := []
  nextId : Nat := 4243
  jobs : List Job := []
  endings : List (Nat × Nat × Ending) := []

structure State extends Process, World

abbrev Action := StateM State

def pipeSize : Nat := 262144

namespace State

def node (s : State) (path : String) : Except IoFault Node :=
  Files.node s.disk.root s.cwd ⟨ofBytes path⟩

def entry (s : State) (path : String) : Except IoFault (List String) :=
  Files.entry s.disk.root s.cwd ⟨ofBytes path⟩

def find (s : State) (path : String) : Except IoFault (List String) :=
  Files.find s.disk.root s.cwd ⟨ofBytes path⟩

def isDirectory (s : State) (path : String) : Bool :=
  ((s.node path).toOption.map Node.isDirectory).getD false

def option (s : State) (letter : Char) : Bool :=
  s.options.contains letter

def setOption (s : State) (letter : Char) (value : Bool) : State :=
  let others := s.options.filter (· != letter)
  { s with options := if value then letter :: others else others }

def environment (s : State) : List (String × String) :=
  s.bindings.filterMap fun (name, v) =>
    if v.isExported then v.value.map (name, ·) else none

def fileMode (s : State) : Nat :=
  0o666 - (0o666 &&& s.mask)

def folderMode (s : State) : Nat :=
  0o777 - (0o777 &&& s.mask)

def channel? (s : State) (descriptor : Nat) : Option (Nat × Channel) :=
  (s.descriptors.lookup descriptor).bind fun i => s.channels[i]?.map (i, ·)

def add (s : State) (c : Channel) : Nat × State :=
  (s.channels.size, { s with channels := s.channels.push c })

def bind (s : State) (descriptor channel : Nat) : State :=
  { s with descriptors :=
      (descriptor, channel) :: s.descriptors.filter (·.1 != descriptor) }

def rebind (s : State) (descriptor : Nat) (channel : Option Nat) : State :=
  match channel with
  | some c => s.bind descriptor c
  | none => { s with descriptors := s.descriptors.filter (·.1 != descriptor) }

/-- The descriptors for the files of what statements print, in the order in which they are used. -/
def sourceDescriptors : List Nat :=
  (List.range 54).reverse.map (· + 10)

def addSource (s : State) (text : List Char) : Nat × State :=
  let d := (sourceDescriptors.find? fun d => (s.descriptors.lookup d).isNone).getD 10
  let (i, s) := s.add (.source text)
  (d, s.bind d i)

def dropSources (s old : State) : State :=
  { s with descriptors := s.descriptors.filter fun d =>
      !sourceDescriptors.contains d.1 || (old.descriptors.lookup d.1).isSome }

def send (s : State) (id : Nat) (signal : Signal) : State :=
  { s with signals := s.signals ++ [(id, signal)] }

def ring (s : State) : State :=
  match s.alarm with
  | some (time, signal) =>
    if time ≤ s.disk.time then { s with alarm := none }.send s.id signal else s
  | none => s

def pass (s : State) (milliseconds : Nat) : State :=
  match s.alarm with
  | some (time, _) =>
    { s with disk := s.disk.pass (min milliseconds (time - s.disk.time)) }.ring
  | none => { s with disk := s.disk.pass milliseconds }

def patch (content : ByteArray) (offset : Nat) (bytes : ByteArray) : ByteArray :=
  if content.size = offset then content ++ bytes
  else
    let gap : ByteArray := ⟨(List.replicate (offset - content.size) 0).toArray⟩
    content.extract 0 offset ++ gap ++ bytes ++
      content.extract (offset + bytes.size) content.size

def write (s : State) (descriptor : Nat) (text : String) : Except IoFault Unit × State :=
  match s.channel? descriptor with
  | none => (if text.isEmpty then .ok () else .error (.other "Bad file descriptor"), s)
  | some (i, c) =>
    if text.isEmpty then (.ok (), s)
    else
      match c with
      | .sink pieces room =>
        let length := text.length
        let s := { s with channels := s.channels.set! i (.sink (text :: pieces)
          (room.map (· - length))) }
        match room with
        | some r => (.ok (), if r ≤ length then s.send s.id Signal.pipe else s)
        | none => (.ok (), s)
      | .file names offset use =>
        if !use.writes then (.error (.other "Bad file descriptor"), s)
        else
          match s.disk.at? names with
          | some (.file content _) =>
            let offset := if use.appends then content.size else offset
            let bytes := byteArray text
            (.ok (), { s with
              disk := s.disk.write names (patch content offset bytes)
              channels := s.channels.set! i (.file names (offset + bytes.size) use) })
          | _ => (.ok (), s)
      | .device .full => (.error .storageFull, s)
      | .device _ => (.ok (), s)
      | .source _ | .directory => (.error (.other "Bad file descriptor"), s)

def written (s : State) (channel : Nat) : String :=
  match s.channels[channel]? with
  | some (.sink pieces _) => String.join pieces.reverse
  | _ => ""

def deviceSize : Nat := 65536

def deviceBytes (d : Device) (count : Nat) : List Char :=
  match d with
  | .null | .terminal => []
  | .zero | .full => List.replicate count '\x00'
  | .random => (List.range count).map fun i => Char.ofNat ((i * i * 167 + i * 89 + 41) % 251)

def take (s : State) (descriptor : Nat) (limit : Option Nat)
    : Except IoFault (List Char) × State :=
  match s.channel? descriptor with
  | none => (.error (.other "Bad file descriptor"), s)
  | some (i, c) =>
    match c with
    | .source rest =>
      match limit with
      | none => (.ok rest, { s with channels := s.channels.set! i (.source []) })
      | some n =>
        (.ok (rest.take n), { s with channels := s.channels.set! i (.source (rest.drop n)) })
    | .file names offset use =>
      if !use.reads then (.error (.other "Bad file descriptor"), s)
      else
        match s.disk.at? names with
        | some (.file content _) =>
          let stop := (limit.map (offset + ·)).getD content.size
          let bytes := content.extract offset stop
          (.ok (bytes.toList.map fun b => Char.ofNat b.toNat),
            { s with channels := s.channels.set! i (.file names (offset + bytes.size) use) })
        | _ => (.ok [], s)
    | .device d => (.ok (deviceBytes d (limit.getD deviceSize)), s)
    | .directory => (.error .isADirectory, s)
    | .sink _ _ => (.error (.other "Bad file descriptor"), s)

def putBack (s : State) (descriptor count : Nat) : State :=
  match s.channel? descriptor with
  | some (i, .file names offset use) =>
    { s with channels := s.channels.set! i (.file names (offset - count) use) }
  | _ => s

def lineEnd (content : ByteArray) (offset : Nat) : Nat :=
  go content offset (content.size - offset)
where
  go (content : ByteArray) (i : Nat) : Nat → Nat
    | 0 => i
    | fuel + 1 => if content[i]? = some 10 then i + 1 else go content (i + 1) fuel

def takeLine (s : State) (descriptor : Nat) : Except IoFault (List Char) × State :=
  match s.channel? descriptor with
  | some (i, .source rest) =>
    let line := rest.takeWhile (· != '\n')
    match rest.drop line.length with
    | [] => (.ok line, { s with channels := s.channels.set! i (.source []) })
    | c :: rest => (.ok (line ++ [c]), { s with channels := s.channels.set! i (.source rest) })
  | some (_, .file names offset _) =>
    match s.disk.at? names with
    | some (.file content _) => s.take descriptor (some (lineEnd content offset - offset))
    | _ => s.take descriptor none
  | some (_, .device _) => (.ok [], s)
  | _ => s.take descriptor none

end State

def write (descriptor : Nat) (text : String) : Action Unit :=
  modify fun s =>
    match s.write descriptor text with
    | (.error fault, s) => if descriptor = 1 then { s with outputFault := some fault } else s
    | (.ok (), s) => s

def print (text : String) : Action Unit :=
  write 1 text

def complain (text : String) : Action Unit :=
  write 2 (text ++ "\n")

def State.place (s : State) : String :=
  let line := Numeral.decimal s.line ++ ": "
  if !s.isExtended then s.name ++ ": " ++ line
  else s.origin.getD s.name ++ ": line " ++ line

def complainHere (text : String) : Action Unit := do
  let s ← get
  complain (s.place ++ (s.command.elim "" (· ++ ": ")) ++ text)

def descriptorOf? (path : String) : Option Nat :=
  match path with
  | "/dev/stdin" => some 0
  | "/dev/stdout" => some 1
  | "/dev/stderr" => some 2
  | _ =>
    ["/dev/fd/", "/proc/self/fd/"].findSome? fun front =>
      if path.startsWith front then Numeral.value? (path.toList.drop front.length) else none

def openInput (path : String) : Action (Except IoFault Nat) := do
  let s ← get
  let opened (c : Channel) : Action (Except IoFault Nat) := do
    let (i, s) := s.add c
    set s
    pure (.ok i)
  match descriptorOf? path with
  | some d => pure ((s.descriptors.lookup d).elim (.error .notFound) .ok)
  | none =>
    match s.find path with
    | .error f => pure (.error f)
    | .ok names =>
      match s.disk.at? names with
      | some (.file _ _) => opened (.file names 0 { reads := true })
      | some (.device .terminal) => pure (.error .noDevice)
      | some (.device d) => opened (.device d)
      | _ => opened .directory

def openOutput (path : String) (use : FileUse) (empties keeps : Bool)
    : Action (Except IoFault Nat) := do
  let s ← get
  match descriptorOf? path with
  | some d => pure ((s.descriptors.lookup d).elim (.error .notFound) .ok)
  | none =>
    match Files.writable s.disk.root s.cwd ⟨ofBytes path⟩ with
    | .error f => pure (.error f)
    | .ok names =>
      match s.disk.at? names with
      | some (.device d) =>
        let (i, s) := s.add (.device d)
        set s
        pure (.ok i)
      | some (.file _ _) =>
        if keeps then pure (.error (.other "File exists"))
        else
          let s := if empties then { s with disk := s.disk.write names .empty } else s
          let (i, s) := s.add (.file names 0 use)
          set s
          pure (.ok i)
      | _ =>
        let s := { s with disk := s.disk.write names .empty s.fileMode }
        let (i, s) := s.add (.file names 0 use)
        set s
        pure (.ok i)

/-- Does something as a process of its own would do it: nothing but what all processes share is
changed. -/
def asChild (action : Action α) : Action α := do
  let old := (← get).toProcess
  modify fun s => { s with id := s.nextId, nextId := s.nextId + 1 }
  let a ← action
  modify fun s => { s with toProcess := old }
  pure a

def collecting (room : Option Nat) (action : Action α) : Action (α × String) := do
  let s ← get
  let old := s.descriptors.lookup 1
  let (i, s) := s.add (.sink [] room)
  set (s.bind 1 i)
  let a ← action
  let text := (← get).written i
  modify fun s =>
    { s.rebind 1 old with
      channels := if s.channels.size = i + 1 then s.channels.pop else s.channels.set! i .directory }
  pure (a, text)

end Shell
end FeatureRunner
