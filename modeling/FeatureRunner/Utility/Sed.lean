import FeatureRunner.Utility.Files
import FeatureRunner.Utility.SedScript

/-!
This module contains the stream editor. In every cycle one line comes into the pattern space, the
commands of the script change it, and then it is printed. It serves the outer layer, where commands
start programs; no result is about it.
-/

namespace FeatureRunner
namespace Utility

open Shell

namespace Sed

abbrev Line := List Char × Bool

inductive Queued where
  | text (cs : List Char)
  | file (path : String)

structure Editor where
  orders : Array Order
  isQuiet : Bool := false
  separator : Char := '\n'
  space : List Char := []
  isEnded : Bool := true
  held : List Char := []
  number : Nat := 0
  file : String := "-"
  lines : List Line := []
  queue : List Queued := []
  replaced : Bool := false
  /-- The commands whose range has begun. A number is the line at which it ends. -/
  active : List (Nat × Option Nat) := []
  lastSearch : Option Search := none
  files : List (String × Nat) := []
  /-- The descriptors on which the last line has no line feed yet. -/
  open' : List Nat := []

inductive Outcome where
  | reached
  | deleted
  /-- The next cycle goes on with what is left of the pattern space. -/
  | again
  | quit (prints : Bool) (status : Nat)

abbrev Edit := StateT Editor Action

/-! ### Input and output -/

def emitTo (descriptor : Nat) (cs : List Char) : Edit Unit := do
  let e ← get
  if e.open'.contains descriptor then
    StateT.lift (Shell.write descriptor e.separator.toString)
    set { e with open' := e.open'.filter (· != descriptor) }
  StateT.lift (Shell.write descriptor (String.ofList cs))

def emit (cs : List Char) : Edit Unit := emitTo 1 cs

def emitLine (descriptor : Nat) (cs : List Char) : Edit Unit := do
  let e ← get
  if e.isEnded then emitTo descriptor (cs ++ [e.separator])
  else
    emitTo descriptor cs
    modify fun e => { e with open' := descriptor :: e.open' }

def flush : Edit Unit := do
  let e ← get
  set { e with queue := [] }
  for q in e.queue.reverse do
    match q with
    | .text cs => emit cs
    | .file path =>
      match ← StateT.lift (contentOf (if path = "/dev/stdin" then "-" else path)) with
      | .ok cs => unless cs.isEmpty do emit cs
      | .error _ => pure ()

def readLine (appends : Bool) : Edit Bool := do
  flush
  let e ← get
  match e.lines with
  | [] => pure false
  | (line, isEnded) :: lines =>
    let space := if appends then e.space ++ e.separator :: line else line
    set { e with space, isEnded, lines, number := e.number + 1 }
    pure true

/-! ### Addresses -/

def searchFor (s : Search) : Edit Search := do
  match s.regex with
  | some _ =>
    modify fun e => { e with lastSearch := some s }
    pure s
  | none => pure (((← get).lastSearch).getD s)

def fitsAddress (a : Address) : Edit Bool := do
  let e ← get
  match a with
  | .line n => pure (e.number == n)
  | .last => pure e.lines.isEmpty
  | .every first step =>
    pure (if step = 0 then e.number == first
      else first ≤ e.number && (e.number - first) % step == 0)
  | .fits s =>
    let s ← searchFor s
    match s.regex with
    | some r => pure (r.search? s.ignoresCase e.space).isSome
    | none => pure false

def isChosen (i : Nat) (o : Order) : Edit Bool := do
  let activate (value : Option (Option Nat)) : Edit Unit := modify fun e =>
    let others := e.active.filter (·.1 != i)
    { e with active := (value.map fun v => (i, v)).toList ++ others }
  match o.first, o.last with
  | none, _ => pure true
  | some a, none => fitsAddress a
  | some a, some last =>
    let e ← get
    match e.active.lookup i with
    | some (some n) =>
      if n ≤ e.number then activate none
      pure (e.number ≤ n)
    | some none =>
      let ends ← match last with
        | .address b => fitsAddress b
        | _ => pure true
      if ends then activate none
      pure true
    | none =>
      if ← fitsAddress a then
        match last with
        | .address (.line n) => if e.number < n then activate (some (some n))
        | .address _ => activate (some none)
        | .more n => if n ≠ 0 then activate (some (some (e.number + n)))
        | .multiple n =>
          if n ≠ 0 && e.number % n ≠ 0 then
            activate (some (some ((e.number / n + 1) * n)))
        pure true
      else pure false

/-! ### Substitutions -/

def changed (how : LetterCase) (cs : List Char) : List Char :=
  match how with
  | .upper => cs.map Char.toUpper
  | .lower => cs.map Char.toLower
  | _ => cs

def replacement (m : Regex.Match) (cs : List Char) (how once : LetterCase)
    : List Part → List Char
  | [] => []
  | .letters change :: parts =>
    match change with
    | .upperOnce | .lowerOnce => replacement m cs how change parts
    | change => replacement m cs change .plain parts
  | .char c :: parts => put [c] parts
  | .group n :: parts => put (m.group cs n) parts
where
  put (text : List Char) (parts : List Part) : List Char :=
    match changed how text, once with
    | [], _ => replacement m cs how once parts
    | c :: rest, .upperOnce => c.toUpper :: rest ++ replacement m cs how .plain parts
    | c :: rest, .lowerOnce => c.toLower :: rest ++ replacement m cs how .plain parts
    | text, _ => text ++ replacement m cs how .plain parts

/-- The text with some of its matches replaced; `position` is how far the text was taken over. -/
def replaceMatches (s : Substitution) (cs : List Char) (position count : Nat)
    (rest : List Char) : List Regex.Match → List Char
  | [] => rest
  | m :: ms =>
    let isReplaced := if s.isGlobal then s.number ≤ count else count == s.number
    let front := rest.take (m.start - position)
    let matched := (rest.drop front.length).take (m.stop - m.start)
    let behind := rest.drop (m.stop - position)
    front ++ (if isReplaced then replacement m cs .plain .plain s.parts else matched) ++
      replaceMatches s cs m.stop (count + 1) behind ms

def substitute (s : Substitution) : Edit Unit := do
  let search ← searchFor s.search
  let e ← get
  match search.regex with
  | none => pure ()
  | some r =>
    let found : List Regex.Match :=
      if s.isGlobal || s.number ≠ 1 then r.matches' search.ignoresCase e.space
      else (r.search? search.ignoresCase e.space).toList
    if s.number ≤ found.length then
      set { e with space := replaceMatches s e.space 0 1 e.space found, replaced := true }
      let e ← get
      if s.prints then emitLine 1 e.space
      if let some path := s.file then
        if let some d := e.files.lookup path then emitLine d e.space

/-! ### Commands -/

def listed (cs : List Char) : List (List Char) :=
  cs.map fun c =>
    if c = '\\' then ['\\', '\\']
    else if isPrintable c then [c]
    else escapeByte c

def wrapped (width used : Nat) : List (List Char) → List Char
  | [] => ['$', '\n']
  | p :: ps =>
    if width > 1 && used + p.length > width - 1 then
      '\\' :: '\n' :: (p ++ wrapped width p.length ps)
    else p ++ wrapped width (used + p.length) ps

def splitLine (cs : List Char) : List Char × Option (List Char) :=
  let line := cs.takeWhile (· != '\n')
  if line.length < cs.length then (line, some (cs.drop (line.length + 1))) else (line, none)

def runOrders (fuel i : Nat) : Edit Outcome := do
  match fuel with
  | 0 => pure .reached
  | fuel + 1 =>
    match (← get).orders[i]? with
    | none => pure .reached
    | some o =>
      let chosen ← isChosen i o
      let e ← get
      let next : Edit Outcome := runOrders fuel (i + 1)
      if chosen == o.negated then
        match o.deed with
        | .block behind => runOrders fuel behind
        | _ => next
      else
        match o.deed with
        | .block _ | .nothing => next
        | .showNumber =>
          emit ((Numeral.decimal e.number).toList ++ ['\n'])
          next
        | .append text =>
          set { e with queue := .text text :: e.queue }
          next
        | .readFile path =>
          set { e with queue := .file path :: e.queue }
          next
        | .insert text =>
          emit text
          next
        | .change text =>
          if o.negated || (e.active.lookup i).isNone then emit text
          pure .deleted
        | .jump target => runOrders fuel target
        | .jumpIfReplaced target =>
          set { e with replaced := false }
          if e.replaced then runOrders fuel target else next
        | .jumpUnlessReplaced target =>
          set { e with replaced := false }
          if e.replaced then next else runOrders fuel target
        | .delete => pure .deleted
        | .deleteLine =>
          match splitLine e.space with
          | (_, none) => pure .deleted
          | (_, some rest) =>
            set { e with space := rest }
            pure .again
        | .fileName =>
          emit (e.file.toList ++ ['\n'])
          next
        | .get =>
          set { e with space := e.held }
          next
        | .getAppend =>
          set { e with space := e.space ++ '\n' :: e.held }
          next
        | .hold =>
          set { e with held := e.space }
          next
        | .holdAppend =>
          set { e with held := e.held ++ '\n' :: e.space }
          next
        | .exchange =>
          set { e with held := e.space, space := e.held }
          next
        | .list width =>
          emit (wrapped (width.getD 70) 0 (listed e.space))
          next
        | .next =>
          if e.lines.isEmpty then pure .reached
          else
            unless e.isQuiet do emitLine 1 e.space
            discard (readLine false)
            next
        | .nextAppend =>
          if e.lines.isEmpty then pure .reached
          else
            discard (readLine true)
            next
        | .print =>
          emitLine 1 e.space
          next
        | .printLine =>
          emit ((splitLine e.space).1 ++ ['\n'])
          next
        | .quit prints status => pure (.quit prints status)
        | .substitute s =>
          substitute s
          next
        | .translate pairs =>
          set { e with space := e.space.map fun c => (pairs.lookup c).getD c }
          next
        | .writeFile path =>
          if let some d := e.files.lookup path then emitLine d e.space
          next
        | .clear =>
          set { e with space := [] }
          next

def cycles (steps fuel : Nat) (keeps : Bool) : Edit (Option Nat) := do
  match fuel with
  | 0 => pure none
  | fuel + 1 =>
    if ← (if keeps then pure true else readLine false) then
      unless keeps do modify fun e => { e with replaced := false }
      let outcome ← runOrders steps 0
      let e ← get
      match outcome with
      | .reached =>
        unless e.isQuiet do emitLine 1 e.space
        flush
        cycles steps fuel false
      | .deleted =>
        flush
        cycles steps fuel false
      | .again =>
        flush
        cycles steps fuel true
      | .quit prints status =>
        if prints && !e.isQuiet then emitLine 1 e.space
        if prints then flush
        pure (some status)
    else pure none

def editedLines (separator : Char) (cs : List Char) : List Line :=
  match (Text.segments separator cs).reverse with
  | [] => []
  | last :: lines =>
    (lines.reverse.map fun l => (l, true)) ++ if last.isEmpty then [] else [(last, false)]

def maxSteps : Nat := 1000000

def edit (lines : List Line) (file : String) : Edit (Option Nat) := do
  modify fun e =>
    let zero := (List.range e.orders.size).filter fun i =>
      match (e.orders[i]?).bind (·.first) with
      | some (.line 0) => true
      | _ => false
    { e with
      lines, file, number := 0
      active := zero.map fun i => (i, none) }
  cycles maxSteps (10 * lines.length + 1000) false

/-! ### The program -/

def expandInPlace (a : String) : List String :=
  match a.toList with
  | '-' :: '-' :: rest =>
    let front := "in-place=".toList
    if front.isPrefixOf rest then ["-i", "--suffix", String.ofList (rest.drop front.length)]
    else if String.ofList rest = "in-place" then ["-i"]
    else [a]
  | '-' :: rest =>
    let flags := rest.takeWhile fun c => "nErsuz".toList.contains c
    match rest.drop flags.length with
    | 'i' :: suffix =>
      (if flags.isEmpty then [] else [String.ofList ('-' :: flags)]) ++ ["-i"] ++
        if suffix.isEmpty then [] else ["--suffix", String.ofList suffix]
    | _ => [a]
  | _ => [a]

def scriptPieces (a : Arguments) : Action (Except String (List (Bool × String × List Char))) := do
  let given := a.options.filter fun o => o.1 = "e" || o.1 = "f"
  let rec go : List (String × String) → Action (Except String (List (Bool × String × List Char)))
    | [] => pure (.ok [])
    | (key, value) :: rest => do
      let piece : Except String (Bool × String × List Char) ←
        if key = "e" then pure (.ok (false, value, value.toList))
        else
          match ← contentOf value with
          | .error f => pure (.error ("couldn't open file " ++ value ++ ": " ++ f.systemText))
          | .ok cs => pure (.ok (true, value, if endsLine cs then cs.dropLast else cs))
      match piece with
      | .error complaint => pure (.error complaint)
      | .ok piece =>
        pure ((← go rest).map (piece :: ·))
  go given

def placeText (position : Nat) (pieces : List (Bool × String × List Char)) : String :=
  go 1 position pieces
where
  go (n position : Nat) : List (Bool × String × List Char) → String
    | [] => "-e expression #" ++ Numeral.decimal n ++ ", char " ++ Numeral.decimal position
    | (isFile, name, cs) :: rest =>
      if position ≤ cs.length || rest.isEmpty then
        if isFile then
          let line := ((cs.take position).filter (· == '\n')).length + 1
          "file " ++ name ++ " line " ++ Numeral.decimal line
        else "-e expression #" ++ Numeral.decimal n ++ ", char " ++ Numeral.decimal position
      else go (if isFile then n else n + 1) (position - cs.length - 1) rest

def openFiles (orders : Array Order) : Action (List (String × Nat)) := do
  let paths := orders.toList.filterMap fun o =>
    match o.deed with
    | .writeFile path => some path
    | .substitute s => s.file
    | _ => none
  let mut files : List (String × Nat) := [("/dev/stdout", 1), ("/dev/stderr", 2)]
  for path in paths do
    if (files.lookup path).isNone then
      if let .ok i ← openOutput path { writes := true } true false then
        let d := 30 + files.length
        modify (·.bind d i)
        files := (path, d) :: files
  pure files

def editInPlace (name : String) (suffix : Option String) (path : String) (lines : List Line)
    : Edit (Option Nat) := do
  let e ← get
  let s ← StateT.lift (get : Action State)
  let ((status, e), text) ← StateT.lift (collecting none ((edit lines path).run e))
  set { e with open' := [] }
  match s.entry path, s.node path with
  | .ok names, .ok node =>
    if let some suffix := suffix then
      let backup := if suffix.toList.contains '*' then
        String.ofList (suffix.toList.flatMap fun c =>
          if c = '*' then path.toList else [c])
        else path ++ suffix
      if let .ok place := Files.writable s.disk.root s.cwd ⟨ofBytes backup⟩ then
        StateT.lift (onDisk fun d => d.put place ((d.at? names).getD node))
    StateT.lift (onDisk fun d =>
      d.put names (.file (byteArray text) { node.stamp with time := d.time }))
  | _, _ => StateT.lift (complainAs name ("couldn't edit " ++ path))
  pure status

end Sed

def sedUsage : String :=
  "Usage: sed [OPTION]... \x7bscript-only-if-no-other-script\x7d [input-file]..."

def sed : Utility := fun arguments => do
  let options : Options :=
    { flags := "nErsuzi", valued := "efl"
      long := [("quiet", "n", false), ("silent", "n", false), ("expression", "e", true),
        ("file", "f", true), ("regexp-extended", "E", false), ("separate", "s", false),
        ("null-data", "z", false), ("unbuffered", "u", false), ("suffix", "suffix", true),
        ("posix", "posix", false), ("follow-symlinks", "follow", false),
        ("line-length", "l", true), ("debug", "debug", false), ("sandbox", "sandbox", false)] }
  let name := arguments.head?.getD ""
  let expanded := (arguments.drop 1).flatMap Sed.expandInPlace
  match options.read (expanded.length + 1) expanded with
  | .error complaint =>
    complainAs name complaint
    complain sedUsage
    pure 1
  | .ok a =>
    let hasScript := a.has "e" || a.has "f"
    match hasScript, a.operands with
    | false, [] =>
      complain sedUsage
      pure 1
    | _, operands =>
      let a := if hasScript then a
        else { a with options := ("e", operands.head?.getD "") :: a.options }
      let paths := if hasScript then operands else operands.drop 1
      let paths := if paths.isEmpty then ["-"] else paths
      match ← Sed.scriptPieces a with
      | .error complaint =>
        complainAs name complaint
        pure 4
      | .ok pieces =>
        let script := Text.joinWith '\n' (pieces.map (·.2.2))
        match Sed.readScript (a.has "E" || a.has "r") script with
        | .error (position, complaint) =>
          let place := position.elim "" fun p => Sed.placeText p pieces ++ ": "
          complainAs name (place ++ complaint)
          pure 1
        | .ok orders =>
          let files ← Sed.openFiles orders
          let separator := if a.has "z" then '\x00' else '\n'
          let isQuiet := a.has "n" || script.take 3 = ['#', 'n', '\n'] || script = ['#', 'n']
          let mut e : Sed.Editor := { orders, isQuiet, separator, files }
          let mut status := 0
          let mut quit : Option Nat := none
          let mut lines : List Sed.Line := []
          let inPlace := a.has "i"
          let separate := inPlace || a.has "s"
          for path in paths do
            if quit.isNone then
              let isFolder := (← get).isDirectory path
              if inPlace && isFolder then
                complainAs name ("couldn't edit " ++ path ++ ": not a regular file")
                status := 4
              else
                match ← contentOf path with
                | .error .isADirectory =>
                  complainAs name ("read error on " ++ path ++ ": Is a directory")
                  status := 4
                  quit := some 4
                | .error f =>
                  complainAs name ("can't read " ++ path ++ ": " ++ f.systemText)
                  status := 2
                | .ok cs =>
                  let more := Sed.editedLines separator cs
                  if separate then
                    let action : Sed.Edit (Option Nat) :=
                      if inPlace then Sed.editInPlace name (a.value? "suffix") path more
                      else Sed.edit more path
                    let (q, e') ← action.run e
                    e := e'
                    quit := q
                  else
                    let closed := lines.map fun (l : Sed.Line) => (l.1, true)
                    lines := (if more.isEmpty then lines else closed) ++ more
          if !separate then
            let (q, _) ← (Sed.edit lines (paths.head?.getD "-")).run e
            if quit.isNone then quit := q
          pure (match quit with
            | some q => if q = 0 then status else q
            | none => status)

end Utility
end FeatureRunner
