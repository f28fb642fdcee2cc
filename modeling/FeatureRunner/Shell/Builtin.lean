import FeatureRunner.Shell.Expand
import FeatureRunner.Shell.Format
import FeatureRunner.Shell.Mode
import FeatureRunner.Shell.Question
import FeatureRunner.Shell.Variables

/-!
This module contains the commands that are built into the shell and need nothing but its state. They
are called with their name first and end with a status. It serves the outer layer, which starts real
commands; no result is about it.
-/

namespace FeatureRunner
namespace Shell

abbrev Builtin := List String → Run Nat

namespace Builtin

def letters (known : String) (arguments : List String) : Run (List Char × List String) := do
  match arguments with
  | "--" :: rest => pure ([], rest)
  | a :: rest =>
    match a.toList with
    | '-' :: c :: cs =>
      if let some bad := (c :: cs).find? fun c => !known.toList.contains c then
        failWith ("Illegal option -" ++ bad.toString)
      let (more, operands) ← letters known rest
      pure (c :: cs ++ more, operands)
    | _ => pure ([], arguments)
  | [] => pure ([], [])

def number (text : String) : Run Nat := do
  match Numeral.value? text.toList with
  | some n => if n < 2147483648 then pure n else failWith ("Illegal number: " ++ text)
  | none => failWith ("Illegal number: " ++ text)

def quoted (text : String) : String :=
  String.ofList ('\'' :: go text.toList)
where
  go : List Char → List Char
    | [] => ['\'']
    | '\'' :: cs => '\'' :: '"' :: '\'' :: quotes cs
    | c :: cs => c :: go cs
  /-- Further single quotes, behind one that stands between double quotes. -/
  quotes : List Char → List Char
    | '\'' :: cs => '\'' :: quotes cs
    | cs => '"' :: '\'' :: go cs

def specialChars : List Char := " !\"$&'()*,;<>?[\\]^`\x7b|\x7d".toList

def ansiByte (c : Char) : List Char :=
  match "abtnvfr".toList[c.toNat - 7]? with
  | some letter => if 7 ≤ c.toNat then ['\\', letter] else octal
  | none =>
    if c = '\x1b' then ['\\', 'E']
    else if c ∈ ['\\', '\''] then ['\\', c]
    else if c.toNat < 32 || 127 ≤ c.toNat then octal
    else [c]
where
  octal : List Char :=
    let digits := Nat.toDigits 8 c.toNat
    '\\' :: (List.replicate (3 - digits.length) '0' ++ digits)

def backslashed (text : String) : String :=
  let cs := text.toList
  if cs.isEmpty then "''"
  else if cs.any fun c => c.toNat < 32 || 127 ≤ c.toNat then
    "$'" ++ String.ofList (cs.flatMap ansiByte) ++ "'"
  else
    String.ofList (cs.zipIdx.flatMap fun (c, i) =>
      if specialChars.contains c || (i = 0 && (c = '~' || c = '#')) then ['\\', c] else [c])

def say (text : String) : Run Unit := ExceptT.lift (print (text ++ "\n"))

/-! ### Directories -/

def logicalPath (directory path : String) : String :=
  let start := if path.startsWith "/" then [] else Text.segments '/' directory.toList
  let pieces := (start ++ Text.segments '/' path.toList).foldl (fun (pieces : List (List Char)) p =>
    if p = [] || p = ['.'] then pieces
    else if p = ['.', '.'] then pieces.dropLast
    else pieces ++ [p]) []
  "/" ++ String.ofList (Text.joinWith '/' pieces)

def physicalPath (s : State) : String :=
  toBytes (Path.ofNames s.cwd).text

def enter (path : String) (physical : Bool) : Run Bool := do
  let s ← get
  let target := if physical then path else logicalPath s.directory path
  if !(s.isDirectory target) || (!physical && !(s.isDirectory path)) then pure false
  else
    match s.find target with
    | .error _ => pure false
    | .ok names =>
      let old := s.directory
      let t := { s with cwd := names }
      let shown := if physical then physicalPath t else target
      set { t with directory := shown }
      for (name, value) in [("OLDPWD", old), ("PWD", shown)] do
        assign name value
        modify fun s => s.setVariable name { s.getVariable name with isExported := true }
      pure true

def searchedDirectories (s : State) (path : String) : List String :=
  match (s.getVariable "CDPATH").value with
  | some text =>
    if path.startsWith "/" || path = "." || path = ".." || path.startsWith "./" ||
        path.startsWith "../" then [""]
    else (Text.segments ':' text.toList).map String.ofList
  | none => [""]

def cd : Builtin := fun arguments => do
  let (options, operands) ← letters "LP" (arguments.drop 1)
  let s ← get
  if s.isExtended && operands.length > 1 then failWith "too many arguments" 1
  let isBack := operands.head? == some "-"
  let target :=
    match operands.head? with
    | none => ((s.getVariable "HOME").value).getD ""
    | some "-" => ((s.getVariable "OLDPWD").value).getD ""
    | some path => path
  let target := if target.isEmpty then "." else target
  let physical := options.getLast? == some 'P'
  let rec try' : List String → Run (Option Bool)
    | [] => pure none
    | dir :: rest => do
      let path := if dir.isEmpty then target else dir ++ "/" ++ target
      if (← get).isDirectory path then
        pure (if ← enter path physical then some (!dir.isEmpty) else none)
      else try' rest
  match ← try' (searchedDirectories s target ++ [""]) with
  | some shows =>
    if shows || isBack then say (← get).directory
    pure 0
  | none =>
    if s.isExtended then
      let fault :=
        match s.node target with
        | .ok _ => IoFault.notADirectory
        | .error f => f
      complainHere (target ++ ": " ++ fault.systemText)
      pure 1
    else failWith ("can't cd to " ++ target)

def pwd : Builtin := fun arguments => do
  let (options, _) ← letters "LP" (arguments.drop 1)
  let s ← get
  say (if options.getLast? == some 'P' then physicalPath s else s.directory)
  pure 0

def umask : Builtin := fun arguments => do
  let (options, operands) ← letters "S" (arguments.drop 1)
  let s ← get
  match operands with
  | [] =>
    say (if options.isEmpty then Mode.octalText 4 s.mask else Mode.symbolic (0o777 - s.mask))
    pure 0
  | text :: _ =>
    if text.toList.head?.any Char.isDigit then
      match Mode.octal? text with
      | some n =>
        if n ≤ 0o777 then
          set { s with mask := n }
          pure 0
        else failWith ("Illegal number: " ++ text)
      | none => failWith ("Illegal number: " ++ text)
    else
      match Mode.changed? false 0 (0o777 - s.mask) text with
      | some mode =>
        set { s with mask := 0o777 - (mode &&& 0o777) }
        pure 0
      | none => failWith ("Illegal mode: " ++ text)

/-! ### Texts and conditions -/

def echo : Builtin := fun arguments => do
  ExceptT.lift (print (echoText (arguments.drop 1)))
  pure 0

/-- The command that prints words in the extended dialect, where escapes have to be asked for. -/
def plainEcho : Builtin := fun arguments => do
  let isOption (a : String) : Bool :=
    match a.toList with
    | '-' :: c :: cs => (c :: cs).all fun c => c == 'n' || c == 'e' || c == 'E'
    | _ => false
  let words := arguments.drop 1
  let options := (words.takeWhile isOption).flatMap fun o => o.toList.drop 1
  let words := words.dropWhile isOption
  let cs := (Text.joinStrings ' ' words).toList
  let ending := if options.contains 'n' then [] else ['\n']
  let isEscaped := (options.reverse.find? fun c => c == 'e' || c == 'E') == some 'e'
  let (text, stop) := if isEscaped then
    unescape (cs.length + 1) cs { hasBytes := true, hasCodes := true, needsZero := true }
    else (cs, false)
  ExceptT.lift (print (String.ofList (text ++ if stop then [] else ending)))
  pure 0

def printf : Builtin := fun arguments => do
  let s ← get
  let (target, operands) ←
    match s.isExtended, arguments.drop 1 with
    | true, "-v" :: name :: rest => pure (some name, rest)
    | _, rest => do
      let (_, operands) ← letters "" rest
      pure (none, operands)
  match operands with
  | [] => failWith "usage: printf format [arg ...]"
  | format :: rest =>
    let style : TextStyle :=
      if s.isExtended then
        { hasBytes := true, hasCodes := true, quote := some backslashed }
      else {}
    let p := formatText format rest style
    for c in p.complaints.reverse do
      complainHere c
    let text := String.ofList p.output.reverse
    match target with
    | some name => assign name text
    | none => ExceptT.lift (print text)
    match p.fault with
    | some fault => failWith fault
    | none => pure (if p.complaints.isEmpty then 0 else 1)

/-- The words of a condition of the extended dialect as those of the plain one: equality has a second
name, and there is a question whether a variable has a value. -/
def plainQuestion (s : State) : List String → List String
  | "-v" :: name :: rest =>
    "-n" :: (if s.hasValue name then "set" else "") :: plainQuestion s rest
  | "==" :: rest => "=" :: plainQuestion s rest
  | w :: rest => w :: plainQuestion s rest
  | [] => []

/-- What is wrong with a condition in the words of the extended dialect, given what is wrong with it
in the plain one. -/
def questionComplaint (words : List String) (complaint : String) : String :=
  if complaint.startsWith "Illegal number: " then
    String.ofList (complaint.toList.drop 16) ++ ": integer expression expected"
  else
    match words with
    | [a, _] => a ++ ": unary operator expected"
    | [_, b, _] => b ++ ": binary operator expected"
    | _ => "too many arguments"

def test : Builtin := fun arguments => do
  let s ← get
  let words := arguments.drop 1
  let words ←
    if arguments.head? = some "[" then
      if words.getLast? = some "]" then pure words.dropLast
      else failWith (if s.isExtended then "missing `]'" else "missing ]")
    else pure words
  match holds s (if s.isExtended then plainQuestion s words else words) with
  | .ok true => pure 0
  | .ok false => pure 1
  | .error complaint =>
    failWith (if s.isExtended then questionComplaint words complaint else complaint)

/-! ### Variables -/

def splitAssignment (text : String) : String × Option String :=
  let cs := text.toList
  let name := cs.takeWhile (· != '=')
  if name.length < cs.length then
    (String.ofList name, some (String.ofList (cs.drop (name.length + 1))))
  else (text, none)

def listVariables (front : String) (p : Variable → Bool) : Run Unit := do
  let s ← get
  let shown := (s.bindings.filter fun v => p v.2).mergeSort fun a b => decide (a.1 ≤ b.1)
  for (name, v) in shown do
    match v.value with
    | some value => say (front ++ name ++ "=" ++ quoted value)
    | none => unless front.isEmpty do say (front ++ name)

def marking (front : String) (p : Variable → Bool) (mark : Variable → Variable) : Builtin :=
  fun arguments => do
    let (options, operands) ← letters "p" (arguments.drop 1)
    if operands.isEmpty || !options.isEmpty then listVariables front p
    else
      for a in operands do
        let (name, value) := splitAssignment a
        unless isName name do failWith (name ++ ": bad variable name")
        if let some value := value then assign name value
        modify fun s => s.setVariable name (mark (s.getVariable name))
    pure 0

def exportCommand : Builtin :=
  marking "export " (·.isExported) fun v => { v with isExported := true }

def readonly : Builtin :=
  marking "readonly " (·.isFixed) fun v => { v with isFixed := true }

def unset : Builtin := fun arguments => do
  let (options, operands) ← letters "vf" (arguments.drop 1)
  for name in operands do
    let s ← get
    if options.getLast? == some 'f' then
      set { s with functions := s.functions.filter (·.1 != name) }
    else
      match if s.isExtended then State.splitElement? name else none with
      | some (array, index) =>
        let i ← elementPlace array index
        let v := s.getVariable array
        set (s.setVariable array
          { v with elements := some ((s.elements array).filter (·.1 != i)) })
      | none =>
        unless isName name do failWith (name ++ ": bad variable name")
        let v := s.getVariable name
        if v.isFixed then
          if s.isExtended then failWith (name ++ ": cannot unset: readonly variable") 1
          else failWith (name ++ ": is read only")
        if options.isEmpty && s.isExtended && (s.bindings.lookup name).isNone then
          set { s with functions := s.functions.filter (·.1 != name) }
        else set (s.removeVariable name)
  pure 0

def makeLocal (name : String) : Run Unit := do
  let s ← get
  match s.frames with
  | [] => failWith "not in a function"
  | frame :: frames =>
    let frame :=
      if frame.any (·.1 == name) then frame else (name, s.bindings.lookup name) :: frame
    set { s with frames := frame :: frames }
    if s.isExtended then modify (·.removeVariable name)

def localCommand : Builtin := fun arguments => do
  if (← get).frames.isEmpty then failWith "not in a function"
  for a in arguments.drop 1 do
    let (name, value) := splitAssignment a
    unless a = "-" do
      unless isName name do failWith (name ++ ": bad variable name")
      makeLocal name
      if let some value := value then assign name value
  pure 0

def optionNames : List (String × Char) :=
  [("errexit", 'e'), ("noglob", 'f'), ("ignoreeof", 'I'), ("interactive", 'i'), ("monitor", 'm'),
   ("noexec", 'n'), ("stdin", 's'), ("xtrace", 'x'), ("verbose", 'v'), ("vi", 'V'), ("emacs", 'E'),
   ("noclobber", 'C'), ("allexport", 'a'), ("notify", 'b'), ("nounset", 'u'), ("privileged", 'p'),
   ("nolog", '1'), ("debug", '2')]

def listOptions (asCommands : Bool) : Run Unit := do
  let s ← get
  unless asCommands do say "Current option settings"
  for (name, letter) in optionNames do
    if asCommands then say ("set " ++ (if s.option letter then "-o " else "+o ") ++ name)
    else
      say (name ++ String.ofList (List.replicate (16 - name.length) ' ') ++
        if s.option letter then "on" else "off")

def setNamed (name : String) (value : Bool) : Run Unit := do
  let known := if (← get).isExtended then optionNames ++ [("pipefail", 'P'), ("posix", '3')] else
    optionNames
  match known.lookup name with
  | some letter => modify (·.setOption letter value)
  | none => failWith ("Illegal option -o " ++ name)

/-- Sets the options in front of the arguments. What is left are the operands, if there were any or
a mark that stands for none. -/
def setOptions (isStart : Bool) (fuel : Nat) (arguments : List String)
    : Run (List String × Bool) := do
  match fuel, arguments with
  | 0, _ | _, [] => pure ([], false)
  | fuel + 1, a :: rest =>
    let go (value : Bool) (letters : List Char) : Run (List String × Bool) := do
      let mut rest := rest
      for c in letters do
        if c = 'o' then
          match rest with
          | name :: more =>
            setNamed name value
            rest := more
          | [] => listOptions (!value)
        else if (optionNames.any (·.2 == c)) || (isStart && (c = 'c' || c = 'l')) ||
            ((← get).isExtended && (c = 'B' || c = 'h' || c = 'H' || c = 'T' || c = 'k')) then
          modify (·.setOption c value)
        else failWith ("Illegal option -" ++ c.toString)
      setOptions isStart fuel rest
    match a.toList with
    | ['-', '-'] => pure (rest, true)
    | ['-'] =>
      unless isStart do modify fun s => (s.setOption 'x' false).setOption 'v' false
      pure (rest, !rest.isEmpty)
    | '-' :: letters => go true letters
    | '+' :: letters => go false letters
    | _ => pure (arguments, true)

def set' : Builtin := fun arguments => do
  match arguments.drop 1 with
  | [] =>
    listVariables "" fun v => v.value.isSome
    pure 0
  | rest =>
    let (operands, replaces) ← setOptions false (rest.length + 1) rest
    if replaces then modify fun s => { s with arguments := operands, optionOffset := none }
    pure 0

def shift : Builtin := fun arguments => do
  let n ← (arguments[1]?).elim (pure 1) number
  let s ← get
  if n ≤ s.arguments.length then
    set { s with arguments := s.arguments.drop n, optionOffset := none }
    pure 0
  else if s.isExtended then pure 1
  else failWith "can't shift that many"

/-! ### Input -/

/-- Takes a line of the input, with what a backslash takes back; each byte with a mark whether a
backslash stands in front of it. -/
def readInput (raw : Bool) (fuel : Nat) (taken : List (Char × Bool))
    : Action (List (Char × Bool) × Bool) := do
  match fuel with
  | 0 => pure (taken.reverse, false)
  | fuel + 1 => do
    let (r, s) := (← get).takeLine 0
    set s
    match r with
    | .error _ => pure (taken.reverse, false)
    | .ok line =>
      let whole := line.getLast? == some '\n'
      let line := (if whole then line.dropLast else line).filter (· != '\x00')
      if raw then pure (line.map fun c => (c, false), whole)
      else
        let (taken, goesOn) := unquote taken line
        if goesOn && whole then readInput raw fuel taken else pure (taken.reverse, whole)
where
  unquote (taken : List (Char × Bool)) : List Char → List (Char × Bool) × Bool
    | [] => (taken, false)
    | ['\\'] => (taken, true)
    | '\\' :: c :: cs => unquote ((c, true) :: taken) cs
    | c :: cs => unquote ((c, false) :: taken) cs

def readFields (ifs : List Char) (count : Nat) (line : List (Char × Bool)) : List String :=
  let isSeparator (c : Char × Bool) : Bool := !c.2 && ifs.contains c.1
  let isSpace (c : Char × Bool) : Bool :=
    isSeparator c && (c.1 == ' ' || c.1 == '\t' || c.1 == '\n')
  let text (cs : List (Char × Bool)) : String := String.ofList (cs.map (·.1))
  let line := line.dropWhile isSpace
  match count with
  | 0 => []
  | 1 =>
    let trimmed := (line.reverse.dropWhile isSpace).reverse
    let field := trimmed.takeWhile fun c => !isSeparator c
    let rest := trimmed.drop field.length
    if rest.all isSeparator && (rest.filter fun c => !isSpace c).length ≤ 1 then [text field]
    else [text trimmed]
  | count + 1 =>
    if line.isEmpty then []
    else
      let field := line.takeWhile fun c => !isSeparator c
      let rest := (line.drop field.length).dropWhile isSpace
      let rest :=
        match rest with
        | c :: more => if isSeparator c then more else rest
        | [] => []
      text field :: readFields ifs count rest

def read : Builtin := fun arguments => do
  let s ← get
  let (options, names) ←
    if s.isExtended then pure (extendedOptions [] (arguments.drop 1))
    else do
      let rec plain : List String → Run (List (Char × String) × List String)
        | "-p" :: _ :: rest => plain rest
        | rest => do
          let (options, operands) ← letters "rp" rest
          pure (options.map fun c => (c, ""), operands)
      plain (arguments.drop 1)
  if names.isEmpty && !s.isExtended then failWith "arg count"
  let (line, whole) : List (Char × Bool) × Bool ←
    match options.lookup 'd', options.lookup 'n' with
    | some stop, _ => do
      let stop := (stop.toList.head?).getD '\x00'
      let (r, s) := (← get).take 0 none
      let cs := (r.toOption).getD []
      let line := cs.takeWhile (· != stop)
      let rest := cs.drop (line.length + 1)
      let (i, s) := s.add (.source rest)
      set (s.bind 0 i)
      pure (line.map fun c => (c, false), line.length < cs.length)
    | none, some n => do
      let (r, s) := (← get).take 0 (some ((Numeral.value? n.toList).getD 0))
      set s
      let cs := (r.toOption).getD []
      pure ((cs.takeWhile (· != '\n')).map fun c => (c, false), !cs.isEmpty)
    | none, none => ExceptT.lift (readInput ((options.lookup 'r').isSome) 100000 [])
  let ifs := (← get).separators
  match options.lookup 'a' with
  | some array =>
    let fields := readFields ifs (line.length + 1) line
    modify fun s => s.setVariable array
      { s.getVariable array with elements := some (fields.zipIdx.map fun (f, i) => (i, f)) }
  | none =>
    if names.isEmpty then assign "REPLY" (String.ofList (line.map (·.1)))
    else
      let fields := readFields ifs names.length line
      for (name, i) in names.zipIdx do
        assignChecked name (fields.getD i "")
  pure (if whole then 0 else 1)
where
  /-- The options of the extended dialect, some of which have a value, and the names. -/
  extendedOptions (options : List (Char × String))
      : List String → List (Char × String) × List String
    | a :: b :: rest =>
      match a.toList with
      | ['-', c] =>
        if ['d', 'n', 'a', 'p', 't', 'u', 'N', 'i'].contains c then
          extendedOptions ((c, b) :: options) rest
        else if c = '-' then (options, b :: rest)
        else extendedOptions ((c, "") :: options) (b :: rest)
      | '-' :: 'r' :: [c] => extendedOptions ((c, b) :: ('r', "") :: options) rest
      | _ => (options, a :: b :: rest)
    | [a] =>
      match a.toList with
      | '-' :: cs => (cs.map (·, "") ++ options, [])
      | _ => (options, [a])
    | [] => (options, [])

def getopts : Builtin := fun arguments => do
  match arguments.drop 1 with
  | letters :: name :: rest =>
    let s ← get
    let words := if rest.isEmpty then s.arguments else rest
    let index := max 1 (((s.lookup? "OPTIND").bind fun t => Numeral.value? t.toList).getD 1)
    let before := if index ≤ 1 then none else words[index - 2]?
    let within : Option (List Char) :=
      match before, s.optionOffset with
      | some w, some offset => if w.length < offset then none else some (w.toList.drop offset)
      | _, _ => none
    let finish (index : Nat) (offset : Option Nat) (value : String) (status : Nat) : Run Nat := do
      assign "OPTIND" (Numeral.decimal index)
      modify fun s => { s with optionOffset := offset }
      assignChecked name value
      pure status
    -- the letters that are left of the current argument, and the index behind it
    let current : Option (List Char × Nat) :=
      match within with
      | some (c :: cs) => some (c :: cs, index)
      | _ =>
        match words[index - 1]? with
        | some w =>
          match w.toList with
          | ['-', '-'] => none
          | '-' :: c :: cs => some (c :: cs, index + 1)
          | _ => none
        | none => none
    match current with
    | none =>
      let isEnd := (within.getD []).isEmpty && words[index - 1]? == some "--"
      finish (if isEnd then index + 1 else index) none "?" 1
    | some ([], _) => finish index none "?" 1
    | some (c :: cs, index) =>
      let silent := letters.startsWith ":"
      let known := if silent then letters.toList.drop 1 else letters.toList
      let word := (words[index - 2]?).getD ""
      let offset : Option Nat := some (word.length - cs.length)
      let position := known.findIdx? (· == c)
      match if c = ':' then none else position with
      | none =>
        if silent then assign "OPTARG" c.toString
        else
          ExceptT.lift (complain ("Illegal option -" ++ c.toString))
          modify (·.removeVariable "OPTARG")
        finish index offset "?" 0
      | some i =>
        if known[i + 1]? = some ':' then
          if !cs.isEmpty then
            assign "OPTARG" (String.ofList cs)
            finish index none c.toString 0
          else
            match words[index - 1]? with
            | some value =>
              assign "OPTARG" value
              finish (index + 1) none c.toString 0
            | none =>
              if silent then
                assign "OPTARG" c.toString
                finish index offset ":" 0
              else
                ExceptT.lift (complain ("No arg for -" ++ c.toString ++ " option"))
                modify (·.removeVariable "OPTARG")
                finish index offset "?" 0
        else
          assign "OPTARG" ""
          finish index offset c.toString 0
  | _ => failWith "Usage: getopts optstring var [arg...]"

/-! ### Names of commands -/

def aliasCommand : Builtin := fun arguments => do
  let s ← get
  let shown (name text : String) : String :=
    (if s.isExtended then "alias " else "") ++ name ++ "=" ++ quoted text
  match arguments.drop 1 with
  | [] =>
    for (name, text) in s.aliases.mergeSort fun a b => decide (a.1 ≤ b.1) do
      say (shown name text)
    pure 0
  | operands =>
    let mut status := 0
    for a in operands do
      match splitAssignment a with
      | (name, some text) =>
        modify fun s =>
          { s with aliases := s.aliases.filter (·.1 != name) ++ [(name, text)] }
      | (name, none) =>
        match (← get).aliases.lookup name with
        | some text => say (shown name text)
        | none =>
          ExceptT.lift (complain ("alias: " ++ name ++ " not found"))
          status := 1
    pure status

def unalias : Builtin := fun arguments => do
  let (options, operands) ← letters "a" (arguments.drop 1)
  if !options.isEmpty then
    modify fun s => { s with aliases := [] }
    pure 0
  else
    let mut status := 0
    for name in operands do
      let s ← get
      if (s.aliases.lookup name).isNone then
        ExceptT.lift (complain ("unalias: " ++ name ++ " not found"))
        status := 1
      set { s with aliases := s.aliases.filter (·.1 != name) }
    pure status

/-! ### Signals -/

def signal? (text : String) : Option Signal :=
  match Numeral.value? text.toList with
  | some n => if n < 65 then some n else none
  | none =>
    if String.ofList (text.toList.map Char.toUpper) = "EXIT" then some 0 else Signal.ofName? text

def signalName (n : Signal) : String :=
  if n = 0 then "EXIT"
  else if n = Signal.failure then "ERR"
  else (Signal.name? n).getD (Numeral.decimal n)

def trap : Builtin := fun arguments => do
  let s ← get
  let signal? (text : String) : Option Signal :=
    if s.isExtended && text.startsWith "SIG" then
      Builtin.signal? (String.ofList (text.toList.drop 3))
    else if s.isExtended && text = "ERR" then some Signal.failure
    else Builtin.signal? text
  let operands := (arguments.drop 1)
  let operands := if operands.head? = some "--" then operands.drop 1 else operands
  match operands with
  | [] =>
    for (n, action) in s.traps.mergeSort fun a b => decide (a.1 ≤ b.1) do
      say ("trap -- " ++ quoted action ++ " " ++
        (if s.isExtended && n ≠ 0 && n ≠ Signal.failure then "SIG" else "") ++ signalName n)
    pure 0
  | action :: signals =>
    let resets := signals.isEmpty || action = "-" ||
      (Numeral.value? action.toList).isSome
    let signals :=
      if signals.isEmpty || (Numeral.value? action.toList).isSome then operands else signals
    for text in signals do
      match signal? text with
      | none =>
        ExceptT.lift (complain ("trap: " ++ text ++ ": bad trap"))
        return 1
      | some n =>
        modify fun s =>
          let others := s.traps.filter (·.1 != n)
          { s with traps := if resets then others else (n, action) :: others }
    pure 0

def isUnderWay (s : State) (id : Nat) : Bool :=
  s.endings.any fun (i, time, _) => i = id && s.disk.time < time

def processExists (s : State) (id : Nat) : Bool :=
  id = s.id || id = s.shellId || s.jobs.any (·.process.id = id) || isUnderWay s id

def sendSignal (id : Nat) (n : Signal) : Action Bool := do
  let s ← get
  if !processExists s id then pure false
  else
    let isJob := s.jobs.any (·.process.id = id) || isUnderWay s id
    if n = 0 || (isJob && Signal.isHarmless n) then pure true
    else if isJob then
      set { s with
        jobs := s.jobs.filter (·.process.id != id)
        endings := (id, s.disk.time, .killed n) :: s.endings.filter (·.1 != id) }
      pure true
    else
      set (s.send id n)
      pure true

def kill : Builtin := fun arguments => do
  let usage : Run Nat :=
    failWith "Usage: kill [-s sigspec | -signum | -sigspec] [pid | job]... or\nkill -l [exitstatus]"
  let s ← get
  let signal? (text : String) : Option Signal :=
    if s.isExtended && text.startsWith "SIG" then
      Builtin.signal? (String.ofList (text.toList.drop 3))
    else Builtin.signal? text
  let list (operands : List String) : Run Nat := do
    match operands with
    | [] =>
      say "0"
      for i in List.range Signal.last do
        say (Signal.listed (i + 1))
      pure 0
    | text :: _ =>
      let n ← number text
      let n := if 128 < n then n - 128 else n
      if n = 0 || Signal.last < n then
        failWith ("invalid signal number or exit status: " ++ text)
      else
        say (Signal.listed n)
        pure 0
  let send (n : Signal) (targets : List String) : Run Nat := do
    if targets.isEmpty then usage
    else
      let mut status := 0
      for target in targets do
        let id ←
          match target.toList with
          | '-' :: ds => number (String.ofList ds)
          | '%' :: ds =>
            pure ((s.children.reverse[(Numeral.value? ds).getD 1 - 1]?).getD 0)
          | _ => number target
        unless ← ExceptT.lift (sendSignal id n) do
          complainHere "No such process\n"
          status := 1
      pure status
  match arguments.drop 1 with
  | [] => usage
  | a :: rest =>
    match a.toList with
    | '-' :: spec =>
      match (if spec.isEmpty then none else signal? (String.ofList spec)) with
      | some n => send n (if rest.head? = some "--" then rest.drop 1 else rest)
      | none =>
        match spec with
        | ['l'] => list rest
        | ['s'] =>
          match rest with
          | name :: rest =>
            match signal? name with
            | some n => send n rest
            | none => failWith ("invalid signal number or name: " ++ name)
          | [] => failWith "No arg for -s option"
        | 's' :: name =>
          match signal? (String.ofList name) with
          | some n => send n rest
          | none => failWith ("invalid signal number or name: " ++ String.ofList name)
        | ['-'] => send Signal.terminate rest
        | c :: _ => failWith ("Illegal option -" ++ c.toString)
        | [] => send Signal.terminate (a :: rest)
    | _ => send Signal.terminate (a :: rest)

/-! ### The rest -/

def succeed : Builtin := fun _ => pure 0

def fail : Builtin := fun _ => pure 1

def times : Builtin := fun _ => do
  say "0m0.000000s 0m0.000000s"
  say "0m0.000000s 0m0.000000s"
  pure 0

def ulimit : Builtin := fun arguments => do
  if arguments.length ≤ 2 then say "unlimited"
  pure 0

def noJob : Builtin := fun _ => failWith "No current job"

def letCommand : Builtin := fun arguments => do
  let mut last : Int := 0
  for a in arguments.drop 1 do
    last ← computeFormula a
  pure (if last = 0 then 1 else 0)

def doubleQuoted (text : String) : String :=
  "\"" ++ String.ofList (text.toList.flatMap fun c =>
    if c ∈ ['"', '\\', '$', '`'] then ['\\', c] else [c]) ++ "\""

def declaration (s : State) (name : String) (v : Variable) : String :=
  let mark (b : Bool) (c : Char) : List Char := if b then [c] else []
  let marks := mark (v.elements.isSome && !v.isKeyed) 'a' ++ mark v.isKeyed 'A' ++
    mark v.isNumber 'i' ++ mark v.isFixed 'r' ++ mark v.isExported 'x'
  let front := "declare -" ++ (if marks.isEmpty then "-" else String.ofList marks) ++ " " ++ name
  let element (place : Nat) (value : String) : String :=
    "[" ++ s.indexText name place ++ "]=" ++ doubleQuoted value
  match v.elements, v.value with
  | some es, _ =>
    let shown := String.intercalate " " (es.map fun (i, value) => element i value)
    front ++ "=(" ++ shown ++ (if v.isKeyed && !es.isEmpty then " )" else ")")
  | none, some value => front ++ "=" ++ doubleQuoted value
  | none, none => front

def markVariable (options : List Char) (v : Variable) : Variable :=
  { v with
    elements := if (options.contains 'a' || options.contains 'A') && v.elements.isNone then some []
      else v.elements
    isKeyed := v.isKeyed || options.contains 'A'
    isNumber := v.isNumber || options.contains 'i' }

def declare : Builtin := fun arguments => do
  let isOption (a : String) : Bool := (a.startsWith "-" || a.startsWith "+") && a.length > 1
  let options := ((arguments.drop 1).takeWhile isOption).flatMap fun a => a.toList.drop 1
  let operands := (arguments.drop 1).dropWhile isOption
  let s ← get
  let isLocal := arguments.head? = some "local"
  if isLocal && s.frames.isEmpty then failWith "can only be used in a function" 1
  let isGlobal := s.frames.isEmpty || options.contains 'g' ||
    arguments.head? = some "readonly" || arguments.head? = some "export"
  if options.contains 'f' || options.contains 'F' then
    return if operands.all fun n => (s.functions.lookup n).isSome then 0 else 1
  if options.contains 'p' then
    let mut status := 0
    for name in operands do
      match s.bindings.lookup name with
      | some v => say (declaration s name v)
      | none =>
        complainHere (name ++ ": not found")
        status := 1
    return status
  for a in operands do
    let (name, value) := splitAssignment a
    let appends := name.toList.getLast? == some '+' && value.isSome
    let name := if appends then String.ofList name.toList.dropLast else name
    unless isName name do failWith ("`" ++ a ++ "': not a valid identifier") 1
    unless isGlobal do
      let frames := (← get).frames
      if frames.head?.any fun f => !(f.any (·.1 == name)) then makeLocal name
    modify fun s => s.setVariable name (markVariable options (s.getVariable name))
    if let some value := value then
      let s ← get
      let value := (if appends then (s.lookup? name).getD "" else "") ++ value
      if (s.getVariable name).isNumber then
        assign name (Numeral.decimalInt (← computeFormula value))
      else assign name value
    modify fun s =>
      let v := s.getVariable name
      s.setVariable name { v with
        isFixed := v.isFixed || options.contains 'r'
        isExported := (v.isExported || options.contains 'x') }
  pure 0

def dirs : Builtin := fun _ => do
  let s ← get
  let home := ((s.getVariable "HOME").value).getD ""
  let shown (path : String) : String :=
    if path = home then "~"
    else if path.startsWith (home ++ "/") then "~" ++ String.ofList (path.toList.drop home.length)
    else path
  say (Text.joinStrings ' ' ((s.directory :: s.visited).map shown))
  pure 0

def pushd : Builtin := fun arguments => do
  let s ← get
  let target? :=
    match arguments[1]?, s.visited with
    | some path, _ => some (path, s.directory :: s.visited)
    | none, path :: rest => some (path, s.directory :: rest)
    | none, [] => none
  match target? with
  | none => failWith "no other directory" 1
  | some (path, visited) =>
    let status ← cd ["cd", path]
    if status = 0 then
      modify fun s => { s with visited }
      dirs []
    else pure status

def popd : Builtin := fun _ => do
  match (← get).visited with
  | [] => failWith "directory stack empty" 1
  | path :: rest =>
    let status ← cd ["cd", path]
    modify fun s => { s with visited := rest }
    if status = 0 then dirs [] else pure status

/-- Sets or tells options of the extended dialect, of which one makes patterns that no file fits
vanish. -/
def shopt : Builtin := fun arguments => do
  let names := arguments.drop 2
  if names.contains "nullglob" then
    match arguments[1]? with
    | some "-s" => modify (·.setOption 'N' true)
    | some "-u" => modify (·.setOption 'N' false)
    | _ => return if (← get).option 'N' then 0 else 1
  pure 0

def mapfile : Builtin := fun arguments => do
  let (options, names) := ((arguments.drop 1).partition (·.startsWith "-"))
  let (r, s) := (← get).take 0 none
  set s
  let cs := r.toOption.getD []
  let drops := options.contains "-t"
  let lines := ((Text.segments '\n' cs).map fun l => String.ofList (if drops then l else l ++ ['\n']))
  let lines := if cs.getLast? == some '\n' || cs.isEmpty then lines.dropLast else lines
  let name := names.head?.getD "MAPFILE"
  modify fun s => s.setVariable name
    { s.getVariable name with elements := some (lines.zipIdx.map fun (l, i) => (i, l)) }
  pure 0

def table : List (String × Builtin) :=
  [(":", succeed), ("true", succeed), ("false", fail), ("[", test), ("test", test),
   ("echo", echo), ("printf", printf), ("cd", cd), ("chdir", cd), ("pwd", pwd), ("umask", umask),
   ("export", exportCommand), ("readonly", readonly), ("unset", unset), ("local", localCommand),
   ("set", set'), ("shift", shift), ("read", read), ("getopts", getopts), ("alias", aliasCommand),
   ("unalias", unalias), ("trap", trap), ("kill", kill), ("times", times), ("ulimit", ulimit),
   ("jobs", succeed), ("fg", noJob), ("bg", noJob)]

def extendedTable : List (String × Builtin) :=
  [("echo", plainEcho), ("let", letCommand), ("declare", declare), ("typeset", declare),
   ("local", declare), ("mapfile", mapfile), ("readarray", mapfile), ("shopt", shopt),
   ("dirs", dirs), ("pushd", pushd), ("popd", popd),
   ("disown", succeed), ("enable", succeed)]

def specialNames : List String :=
  [".", ":", "break", "continue", "eval", "exec", "exit", "export", "readonly", "return", "set",
   "shift", "times", "trap", "unset", "local"]

def controlNames : List String :=
  [".", "break", "command", "continue", "eval", "exec", "exit", "hash", "return", "type", "wait"]

def isKnown (extended : Bool) (name : String) : Bool :=
  controlNames.contains name || (table.lookup name).isSome ||
    (extended && ((extendedTable.lookup name).isSome || name = "source" || name = "builtin"))

def find? (extended : Bool) (name : String) : Option Builtin :=
  match if extended then extendedTable.lookup name else none with
  | some b => some b
  | none => table.lookup name

end Builtin
end Shell
end FeatureRunner
