import FeatureRunner.Shell.Mode
import FeatureRunner.Utility.Time
import FeatureRunner.Utility.Words

/-!
This module contains the utilities that make, change and remove files and directories. It serves the
outer layer, where commands start programs; no result is about it.
-/

namespace FeatureRunner
namespace Utility

open Shell

def below (dir name : String) : String :=
  if dir.endsWith "/" then dir ++ name else dir ++ "/" ++ name

def nodeAt (names : List String) : Action (Option Node) := do
  pure ((← get).disk.at? names)

def onDisk (f : Disk → Disk) : Action Unit :=
  modify fun s => { s with disk := f s.disk }

def locate (path : String) : Action (Except IoFault Files.Place) := do
  let s ← get
  pure (Files.locate s.disk.root s.cwd ⟨ofBytes path⟩)

/-! ### Times and modes -/

def timeOfDigits? (text : String) : Option Nat :=
  let cs := text.toList
  let digits := cs.takeWhile (· != '.')
  let second := (Numeral.value? (cs.drop (digits.length + 1))).getD 0
  (Numeral.value? digits).bind fun n =>
    let rest (year : Nat) : Nat := timeOf year (n / 1000000 % 100) (n / 10000 % 100) (n / 100 % 100) (n % 100) second
    match digits.length with
    | 8 => some (rest 2023)
    | 10 => some (rest (2000 + n / 100000000))
    | 12 => some (rest (n / 100000000))
    | _ => none

def touch : Utility := fun arguments =>
  let options : Options :=
    { flags := "acfhm", valued := "drt"
      long := [("no-create", "c", false), ("date", "d", true), ("reference", "r", true),
        ("no-dereference", "h", false)] }
  withOptions options 1 arguments fun name a => do
    let s ← get
    let reference? : Except String Nat :=
      match a.value? "r", a.value? "d", a.value? "t" with
      | some path, _, _ =>
        match s.node path with
        | .ok n => .ok n.stamp.time
        | .error f => .error ("failed to get attributes of " ++ quoteName path ++ ": " ++ f.systemText)
      | none, some text, _ =>
        ((timeOfText? s.disk.time text).map .ok).getD
          (.error ("invalid date format " ++ quote text))
      | none, none, some text =>
        ((timeOfDigits? text).map .ok).getD (.error ("invalid date format " ++ quote text))
      | none, none, none => .ok s.disk.time
    match reference?, a.operands with
    | .error complaint, _ =>
      complainAs name complaint
      pure 1
    | .ok _, [] => misuse name "missing file operand"
    | .ok time, operands =>
      forEach operands fun path => do
        let s ← get
        match ← locate path with
        | .ok (.found names) =>
          if let some node ← nodeAt names then onDisk (·.stamp names { node.stamp with time })
          pure true
        | .ok (.vacant dir last slash) =>
          if a.has "c" then pure true
          else if slash then failing name ("setting times of " ++ quoteName path) .notFound
          else
            onDisk fun d => d.put (dir ++ [last]) (.file .empty ⟨s.fileMode, time⟩)
            pure true
        | .error f =>
          if a.has "c" && f = .notFound then pure true
          else failing name ("cannot touch " ++ quoteName path) f

def modeWords (mode : Nat) : String :=
  Mode.octalText 4 mode ++ " (" ++ Mode.dashed mode ++ ")"

def changeMode (name mode : String) (a : Arguments) (fuel : Nat) (path : String)
    (names : List String) : Action Bool := do
  match fuel, ← nodeAt names with
  | 0, _ | _, none => pure true
  | fuel + 1, some node =>
    let s ← get
    let old := node.stamp.mode
    match Mode.changed? node.isDirectory s.mask old mode with
    | none => pure false
    | some new =>
      unless node.isLink do onDisk (·.stamp names { node.stamp with mode := new })
      if a.has "v" && old = new then
        print ("mode of " ++ quoteName path ++ " retained as " ++ modeWords old ++ "\n")
      else if (a.has "v" || a.has "c") && old ≠ new then
        print ("mode of " ++ quoteName path ++ " changed from " ++ modeWords old ++ " to " ++
          modeWords new ++ "\n")
      if a.has "R" && node.isDirectory then
        let results ← node.entries.mapM fun e =>
          if e.2.isLink then pure true
          else changeMode name mode a fuel (below path (toBytes e.1)) (names ++ [e.1])
        pure (results.all id)
      else pure true

def chmodArguments (arguments : List String) : List String × List String :=
  let isMode (a : String) : Bool :=
    match a.toList with
    | '-' :: c :: cs => (c :: cs).all fun c => "rwxXstugoa,=+-".toList.contains c && c != '-'
    | _ => false
  (arguments.filter isMode, arguments.filter fun a => !isMode a)

def chmod : Utility := fun arguments =>
  let (modes, others) := chmodArguments (arguments.drop 1)
  let options : Options :=
    { flags := "Rvcf"
      long := [("recursive", "R", false), ("verbose", "v", false), ("changes", "c", false),
        ("silent", "f", false), ("quiet", "f", false), ("reference", "reference", true)] }
  withOptions options 1 (arguments.take 1 ++ others) fun name a => do
    let s ← get
    let fromReference := (a.value? "reference").bind fun p => (s.node p).toOption.map fun n =>
      Mode.octalText 4 n.stamp.mode
    let operands := fromReference.toList ++ modes.take 1 ++ a.operands
    match operands with
    | [] => misuse name "missing operand"
    | [mode] => misuse name ("missing operand after " ++ quote mode)
    | mode :: paths =>
      if (Mode.changed? false s.mask 0o644 mode).isNone then
        misuse name ("invalid mode: " ++ quote mode)
      else
        forEach paths fun path => do
          match (← get).find path with
          | .ok names => changeMode name mode a 200 path names
          | .error f =>
            match (← get).entry path with
            | .ok _ =>
              complainAs name ("cannot operate on dangling symlink " ++ quoteName path)
              pure false
            | .error _ =>
              if a.has "f" then pure false
              else failing name ("cannot access " ++ quoteName path) f

/-! ### Directories -/

def leadingPaths (path : String) : List String :=
  let pieces := Text.segments '/' (withoutSlashes path).toList
  (List.range pieces.length).filterMap fun i =>
    let text := String.ofList (Text.joinWith '/' (pieces.take (i + 1)))
    if text.isEmpty then none else some text

def makeDirectory (name : String) (a : Arguments) (path : String) : Action Bool := do
  let s ← get
  let mode := match a.value? "m" with
    | some m => (Mode.changed? true s.mask (0o777 - (0o777 &&& s.mask)) m).getD s.folderMode
    | none => s.folderMode
  match ← locate path with
  | .ok (.vacant dir last _) =>
    onDisk (·.makeDirectory (dir ++ [last]) mode)
    if a.has "v" then print (name ++ ": created directory " ++ quoteName path ++ "\n")
    pure true
  | .ok (.found names) =>
    let isDirectory := ((← nodeAt names).map Node.isDirectory).getD false
    if a.has "p" && isDirectory then pure true
    else
      failing name ("cannot create directory " ++ quoteName path) (.other "File exists")
  | .error f => failing name ("cannot create directory " ++ quoteName path) f

def makeDirectories (name : String) (a : Arguments) : List String → Action Bool
  | [] => pure true
  | [path] => makeDirectory name a path
  | path :: rest => do
    let s ← get
    if s.isDirectory path then makeDirectories name a rest
    else if (s.node path).toOption.isSome then
      failing name ("cannot create directory " ++ quoteName path) .notADirectory
    else if ← makeDirectory name { a with options := a.options.filter (·.1 != "m") } path then
      makeDirectories name a rest
    else pure false

def mkdir : Utility := fun arguments =>
  let options : Options :=
    { flags := "pvZ", valued := "m"
      long := [("parents", "p", false), ("verbose", "v", false), ("mode", "m", true)] }
  withOptions options 1 arguments fun name a => do
    match a.operands, a.value? "m" with
    | [], _ => misuse name "missing operand"
    | operands, mode =>
      match mode.filter fun m => (Mode.changed? true 0 0 m).isNone with
      | some bad =>
        complainAs name ("invalid mode " ++ quote bad)
        pure 1
      | none =>
        forEach operands fun path =>
          if a.has "p" then makeDirectories name a (leadingPaths path)
          else makeDirectory name a path

def removeDirectory (name : String) (a : Arguments) (path : String) : Action Bool := do
  if a.has "v" then print (name ++ ": removing directory, " ++ quoteName path ++ "\n")
  let what := "failed to remove " ++ quoteName path
  match (← get).entry path with
  | .error f => failing name what f
  | .ok names =>
    match ← nodeAt names with
    | some (.directory _ [] _) =>
      if baseName (withoutSlashes path) = "." then failing name what .invalidInput
      else
        onDisk (·.remove names)
        pure true
    | some (.directory _ _ _) =>
      if a.has "i" then pure false else failing name what (.other "Directory not empty")
    | _ => failing name what .notADirectory

def rmdir : Utility := fun arguments =>
  let options : Options :=
    { flags := "pv"
      long := [("parents", "p", false), ("verbose", "v", false),
        ("ignore-fail-on-non-empty", "i", false)] }
  withOptions options 1 arguments fun name a => do
    if a.operands.isEmpty then misuse name "missing operand"
    else
      forEach a.operands fun path => do
        if a.has "p" then
          let rec up : List String → Action Bool
            | [] => pure true
            | p :: rest => do if ← removeDirectory name a p then up rest else pure false
          up (leadingPaths path).reverse
        else removeDirectory name a path

/-! ### Removal -/

def removalLines (path : String) : Node → List String
  | .directory _ entries _ =>
    among path entries ++ ["removed directory " ++ quoteName path]
  | .file _ _ | .link _ | .device _ => ["removed " ++ quoteName path]
where
  among (path : String) (entries : List (String × Node)) : List String :=
    match entries with
    | [] => []
    | (n, node) :: rest => removalLines (below path (toBytes n)) node ++ among path rest

def rm : Utility := fun arguments =>
  let options : Options :=
    { flags := "rRfidvI"
      long := [("recursive", "r", false), ("force", "f", false), ("dir", "d", false),
        ("verbose", "v", false), ("interactive", "i", false), ("one-file-system", "x", false),
        ("no-preserve-root", "root", false)] }
  withOptions options 1 arguments fun name a => do
    let recursive := a.has "r" || a.has "R"
    if a.operands.isEmpty then if a.has "f" then pure 0 else misuse name "missing operand"
    else
      forEach a.operands fun path => do
        let what := "cannot remove " ++ quoteName path
        let last := baseName (withoutSlashes path)
        match (← get).entry path with
        | .error f =>
          if a.has "f" && (f = .notFound || f = .notADirectory) then pure true
          else failing name what f
        | .ok names =>
          match ← nodeAt names with
          | none => pure true
          | some node =>
            if node.isDirectory && !recursive && !a.has "d" then failing name what .isADirectory
            else if node.isDirectory && names.isEmpty then
              complainAs name "it is dangerous to operate recursively on '/'"
              complainAs name "use --no-preserve-root to override this failsafe"
              pure false
            else if node.isDirectory && (last = "." || last = "..") then
              complainAs name ("refusing to remove '.' or '..' directory: skipping " ++
                quoteName path)
              pure false
            else if node.isDirectory && !recursive && !node.entries.isEmpty then
              failing name what (.other "Directory not empty")
            else if node.isDirectory && (← get).cwd.take names.length = names &&
                names.length ≤ (← get).cwd.length && (← get).cwd ≠ names then
              failing name what (.other "Device or resource busy")
            else
              if a.has "v" then print (joinLines ((removalLines path node).map String.toList))
              onDisk (·.remove names)
              pure true

def unlink : Utility := fun arguments =>
  withOptions {} 1 arguments fun name a => do
    match a.operands with
    | [] => misuse name "missing operand"
    | _ :: extra :: _ => misuse name ("extra operand " ++ quote extra)
    | [path] =>
      let s ← get
      let what := "cannot unlink " ++ quoteName path
      match s.entry path with
      | .error f => do pure (if ← failing name what f then 0 else 1)
      | .ok names =>
        if ((s.disk.at? names).map Node.isDirectory).getD false then
          pure (if ← failing name what .isADirectory then 0 else 1)
        else
          onDisk (·.remove names)
          pure 0

/-! ### Copies -/

def destination (s : State) (a : Arguments) (source target : String) : String :=
  if !a.has "T" && s.isDirectory target then
    below target (baseName (withoutSlashes source))
  else target

def targetOperands (a : Arguments) : Except String (List String × String) :=
  match a.value? "t" with
  | some target =>
    if a.operands.isEmpty then .error "missing file operand" else .ok (a.operands, target)
  | none =>
    match a.operands.reverse with
    | [] => .error "missing file operand"
    | [only] => .error ("missing destination file operand after " ++ quoteName only)
    | target :: sources => .ok (sources.reverse, target)

def bringing (a : Arguments) (name : String) (f : String → String → Action Bool)
    : Action Nat := do
  match targetOperands a with
  | .error complaint => misuse name complaint
  | .ok (sources, target) =>
    let s ← get
    if sources.length > 1 && !s.isDirectory target then
      match s.node target with
      | .ok _ => complainAs name ("target " ++ quoteName target ++ ": Not a directory")
      | .error f => complainAs name ("target " ++ quoteName target ++ ": " ++ f.systemText)
      pure 1
    else
      forEach sources fun source => do f source (destination (← get) a source target)

def tellCopy (a : Arguments) (source target : String) : Action Unit := do
  if a.has "v" then print (quoteName source ++ " -> " ++ quoteName target ++ "\n")

def copiedStamp (s : State) (a : Arguments) (stamp : Stamp) : Stamp :=
  if a.has "p" || a.has "a" then stamp
  else ⟨stamp.mode - (stamp.mode &&& (s.mask ||| 0o7000)), s.disk.time⟩

def copyTo (name : String) (a : Arguments) (fuel : Nat) (isOperand : Bool)
    (source target : String) : Action Bool := do
  match fuel with
  | 0 => pure true
  | fuel + 1 =>
    let s ← get
    let recursive := a.has "r" || a.has "R" || a.has "a"
    let follows := !(a.has "P" || a.has "d" || a.has "a") &&
      (!recursive || a.has "L" || (a.has "H" && isOperand))
    match if follows then s.find source else s.entry source with
    | .error f => failing name ("cannot stat " ++ quoteName source) f
    | .ok names =>
      let node := (s.disk.at? names).getD .emptyDirectory
      let old := (s.node target).toOption
      let isSame := (s.find target).toOption = some names
      if node.isDirectory && !recursive then
        complainAs name ("-r not specified; omitting directory " ++ quoteName source)
        pure false
      else if isSame && !node.isDirectory then
        complainAs name (quoteName source ++ " and " ++ quoteName target ++ " are the same file")
        pure false
      else if a.has "n" && old.isSome && !node.isDirectory then pure true
      else if a.has "u" && old.any fun o => node.stamp.time ≤ o.stamp.time then pure true
      else
        match node with
        | .directory _ entries stamp => do
          if old.any fun o => !o.isDirectory then
            complainAs name ("cannot overwrite non-directory " ++ quoteName target ++
              " with directory " ++ quoteName source)
            pure false
          else
            let made : Except IoFault (List String × Bool) :=
              match Files.locate s.disk.root s.cwd ⟨ofBytes target⟩ with
              | .ok (.found place) => .ok (place, false)
              | .ok (.vacant dir last _) => .ok (dir ++ [last], true)
              | .error f => .error f
            match made with
            | .error f => failing name ("cannot create directory " ++ quoteName target) f
            | .ok (place, isNew) =>
              let isInside := names.isPrefixOf place
              if isNew then
                let stamp := copiedStamp s a stamp
                onDisk (·.put place (.directory true [] stamp))
                tellCopy a source target
              if isInside then
                complainAs name ("cannot copy a directory, " ++ quoteName source ++
                  ", into itself, " ++ quoteName target)
              let results ← entries.mapM fun e =>
                copyTo name a fuel false (below source (toBytes e.1)) (below target (toBytes e.1))
              pure (results.all id && !isInside)
        | _ =>
          if old.any Node.isDirectory then
            complainAs name ("cannot overwrite directory " ++ quoteName target ++
              " with non-directory")
            pure false
          else
            match node with
            | .link link =>
              match Files.locate s.disk.root s.cwd ⟨ofBytes target⟩, s.entry target with
              | _, .ok place =>
                onDisk fun d => (d.remove place).put place (.link link)
                tellCopy a source target
                pure true
              | .ok (.vacant dir last _), _ =>
                onDisk (·.put (dir ++ [last]) (.link link))
                tellCopy a source target
                pure true
              | .ok (.found _), .error f | .error f, .error _ =>
                failing name ("cannot create symbolic link " ++ quoteName target) f
            | node =>
              let content :=
                match node with
                | .file content _ => content
                | _ => .empty
              if a.has "s" || a.has "l" then
                match Files.locate s.disk.root s.cwd ⟨ofBytes target⟩ with
                | .ok (.vacant dir last _) =>
                  let copy := if a.has "s" then Node.link ⟨ofBytes source⟩ else node
                  onDisk (·.put (dir ++ [last]) copy)
                  pure true
                | .ok (.found _) =>
                  failing name ("cannot create link " ++ quoteName target) (.other "File exists")
                | .error f => failing name ("cannot create link " ++ quoteName target) f
              else
                match Files.writable s.disk.root s.cwd ⟨ofBytes target⟩ with
                | .error f =>
                  let f := if f = .isADirectory then IoFault.notADirectory else f
                  failing name ("cannot create regular file " ++ quoteName target) f
                | .ok place =>
                  let stamp := copiedStamp s a node.stamp
                  if old.isNone && (s.entry target).toOption.isSome then
                    complainAs name ("not writing through dangling symlink " ++
                      quoteName target)
                    pure false
                  else
                    onDisk fun d => d.write place content stamp.mode
                    if a.has "p" || a.has "a" then onDisk (·.stamp place stamp)
                    tellCopy a source target
                    pure true

def copyOptions : Options :=
  { flags := "rRafpdPLHnuvTisl", valued := "tS"
    long := [("recursive", "r", false), ("archive", "a", false), ("force", "f", false),
      ("no-clobber", "n", false), ("update", "u", false), ("verbose", "v", false),
      ("no-target-directory", "T", false), ("target-directory", "t", true),
      ("no-dereference", "P", false), ("dereference", "L", false), ("preserve", "p", false),
      ("symbolic-link", "s", false), ("link", "l", false), ("interactive", "i", false),
      ("parents", "parents", false)] }

def cp : Utility := fun arguments =>
  withOptions copyOptions 1 arguments fun name a =>
    bringing a name fun source target => copyTo name a 200 true source target

/-! ### Moves and links -/

def moveTo (name : String) (a : Arguments) (source target : String) : Action Bool := do
  let s ← get
  match s.entry source with
  | .error f => failing name ("cannot stat " ++ quoteName source) f
  | .ok names =>
    let node := (s.disk.at? names).getD .emptyDirectory
    let place : Except IoFault (List String) :=
      match s.entry target with
      | .ok place => .ok place
      | .error _ =>
        match Files.locate s.disk.root s.cwd ⟨ofBytes target⟩ with
        | .ok (.vacant dir last slash) =>
          if slash && !node.isDirectory then .error .notADirectory else .ok (dir ++ [last])
        | .ok (.found place) => .ok place
        | .error f => .error f
    match place with
    | .error f =>
      failing name ("cannot move " ++ quoteName source ++ " to " ++ quoteName target) f
    | .ok place =>
      let old := s.disk.at? place
      if place = names then
        complainAs name (quoteName source ++ " and " ++ quoteName target ++ " are the same file")
        pure false
      else if node.isDirectory && names.isPrefixOf place then
        complainAs name ("cannot move " ++ quoteName source ++ " to a subdirectory of itself, " ++
          quoteName target)
        pure false
      else if a.has "n" && old.isSome then
        pure true
      else if a.has "u" && old.any fun o => node.stamp.time ≤ o.stamp.time then pure true
      else if node.isDirectory && old.any fun o => !o.isDirectory then
        complainAs name ("cannot overwrite non-directory " ++ quoteName target ++
          " with directory " ++ quoteName source)
        pure false
      else if !node.isDirectory && old.any Node.isDirectory then
        complainAs name ("cannot overwrite directory " ++ quoteName target ++
          " with non-directory")
        pure false
      else if old.any fun o => !o.entries.isEmpty then
        failing name ("cannot move " ++ quoteName source ++ " to " ++ quoteName target)
          (.other "Directory not empty")
      else
        onDisk (·.move names place)
        if a.has "v" then
          print ("renamed " ++ quoteName source ++ " -> " ++ quoteName target ++ "\n")
        pure true

def mv : Utility := fun arguments =>
  let options : Options :=
    { flags := "fniuvT", valued := "tS"
      long := [("force", "f", false), ("no-clobber", "n", false), ("update", "u", false),
        ("verbose", "v", false), ("no-target-directory", "T", false),
        ("target-directory", "t", true), ("interactive", "i", false)] }
  withOptions options 1 arguments fun name a => bringing a name (moveTo name a)

def linkTo (name : String) (a : Arguments) (source target : String) : Action Bool := do
  let s ← get
  let kind := if a.has "s" then "symbolic" else "hard"
  let node : Except String Node :=
    if a.has "s" then .ok (.link ⟨ofBytes source⟩)
    else
      match if a.has "L" then s.find source else s.entry source with
      | .error f => .error ("failed to access " ++ quoteName source ++ ": " ++ f.systemText)
      | .ok names =>
        match s.disk.at? names with
        | some (.directory _ _ _) => .error (source ++ ": hard link not allowed for directory")
        | some node => .ok node
        | none => .error ""
  match node with
  | .error complaint =>
    complainAs name complaint
    pure false
  | .ok node =>
    let what := "failed to create " ++ kind ++ " link " ++ quoteName target
    let made (place : List String) : Action Bool := do
      onDisk (·.put place node)
      if a.has "v" then
        print (quoteName target ++ (if a.has "s" then " -> " else " => ") ++ quoteName source ++
          "\n")
      pure true
    match s.entry target with
    | .ok place =>
      if a.has "f" && !(((s.disk.at? place).map Node.isDirectory).getD false) then
        onDisk (·.remove place)
        made place
      else failing name what (.other "File exists")
    | .error _ =>
      match Files.locate s.disk.root s.cwd ⟨ofBytes target⟩ with
      | .ok (.vacant dir last _) => made (dir ++ [last])
      | .ok (.found _) => failing name what (.other "File exists")
      | .error f => failing name what f

def ln : Utility := fun arguments =>
  let options : Options :=
    { flags := "sfnvTrLPib", valued := "tS"
      long := [("symbolic", "s", false), ("force", "f", false), ("no-dereference", "n", false),
        ("verbose", "v", false), ("no-target-directory", "T", false),
        ("target-directory", "t", true), ("relative", "r", false)] }
  withOptions options 1 arguments fun name a => do
    let operands := if a.has "t" then a.operands ++ (a.value? "t").toList else a.operands
    let target (s : State) (source target : String) : String :=
      let isLink := ((s.entry target).toOption.bind s.disk.at?).any Node.isLink
      if a.has "T" || (a.has "n" && isLink) then target
      else destination s a source target
    match operands.reverse with
    | [] => misuse name "missing file operand"
    | [only] =>
      pure (if ← linkTo name a only (below "." (baseName (withoutSlashes only))) then 0 else 1)
    | last :: sources =>
      let s ← get
      if sources.length > 1 && !s.isDirectory last then
        complainAs name ("target " ++ quoteName last ++ ": " ++
          match s.node last with
          | .ok _ => "Not a directory"
          | .error f => f.systemText)
        pure 1
      else
        forEach sources.reverse fun source => do
          linkTo name a source (target (← get) source last)

def link : Utility := fun arguments => do
  let name := arguments.head?.getD ""
  match arguments.drop 1 with
  | [source, target] => pure (if ← linkTo name {} source target then 0 else 1)
  | _ => misuse name "missing operand"

/-! ### Names of files -/

def readlink : Utility := fun arguments =>
  let options : Options :=
    { flags := "femnqsvz"
      long := [("canonicalize", "f", false), ("canonicalize-existing", "e", false),
        ("canonicalize-missing", "m", false), ("no-newline", "n", false)] }
  withOptions options 1 arguments fun name a => do
    if a.operands.isEmpty then misuse name "missing operand"
    else
      forEach a.operands fun path => do
        let s ← get
        let ending := if a.has "n" && a.operands.length = 1 then ""
          else if a.has "z" then "\x00" else "\n"
        let text? : Option String :=
          match a.last? ["f", "e", "m"] with
          | none =>
            match (s.entry path).toOption.bind s.disk.at? with
            | some (.link target) => some (toBytes target.text)
            | _ => none
          | some how => canonicalText? s how path
        match text? with
        | some text =>
          print (text ++ ending)
          pure true
        | none =>
          if a.has "v" then
            failing name path (match s.find path with
              | .ok _ => .invalidInput
              | .error f => f)
          else pure false
where
  /-- The path without links: `e` wants everything to be there, `f` all but the last name. -/
  canonicalText? (s : State) (how path : String) : Option String :=
    let text (names : List String) : String := toBytes (Path.ofNames names).text
    match Files.locate s.disk.root s.cwd ⟨ofBytes path⟩ with
    | .ok (.found names) => some (text names)
    | .ok (.vacant dir last _) => if how = "e" then none else some (text (dir ++ [last]))
    | .error _ =>
      if how = "m" then
        some (toBytes (Path.ofNames (s.cwd ++ (Path.mk (ofBytes path)).names)).text)
      else none

def relativeText (base names : List String) : String :=
  let common := ((base.zip names).takeWhile fun p => p.1 == p.2).length
  let ups := List.replicate (base.length - common) ".."
  let pieces := ups ++ names.drop common
  if pieces.isEmpty then "." else toBytes (Text.joinStrings '/' pieces)

def realpath : Utility := fun arguments =>
  let options : Options :=
    { flags := "emsqzLP"
      long := [("canonicalize-existing", "e", false), ("canonicalize-missing", "m", false),
        ("strip", "s", false), ("no-symlinks", "s", false), ("quiet", "q", false),
        ("relative-to", "to", true), ("relative-base", "base", true)] }
  withOptions options 1 arguments fun name a => do
    if a.operands.isEmpty then misuse name "missing operand"
    else
      forEach a.operands fun path => do
        let s ← get
        let logical : List String :=
          ((Path.mk (ofBytes path)).components.foldl (fun names c =>
            match c with
            | .root => []
            | .current => names
            | .parent => names.dropLast
            | .name n => names ++ [n]) s.cwd)
        let names? : Except IoFault (List String) :=
          if a.has "s" then .ok logical
          else
            match Files.locate s.disk.root s.cwd ⟨ofBytes path⟩ with
            | .ok (.found names) => .ok names
            | .ok (.vacant dir last _) =>
              if a.has "e" then .error .notFound else .ok (dir ++ [last])
            | .error f => if a.has "m" then .ok logical else .error f
        match names? with
        | .ok names =>
          let text :=
            match (a.value? "to").bind fun dir => (s.find dir).toOption with
            | some base => relativeText base names
            | none => toBytes (Path.ofNames names).text
          print (text ++ "\n")
          pure true
        | .error f => if a.has "q" then pure false else failing name (quoteSpecial path) f

/-! ### New and changed files -/

def nameLetters (n count : Nat) : List Char :=
  (List.range count).map fun i =>
    let letters := "abcdefghijklmnopqrstuvwxyzABCDEFGHIJKLMNOPQRSTUVWXYZ0123456789".toList
    (letters[((n + 7) * (2 * i + 3) * 7919 + i * 31) % letters.length]?).getD 'a'

def mktemp : Utility := fun arguments =>
  let options : Options :=
    { flags := "duqt", valued := "p"
      long := [("directory", "d", false), ("dry-run", "u", false), ("quiet", "q", false),
        ("tmpdir", "p", true), ("suffix", "suffix", true)] }
  withOptions options 1 arguments fun name a => do
    let s ← get
    let template := (a.operands.head?).getD "tmp.XXXXXXXXXX"
    let suffix := (a.value? "suffix").getD ""
    let cs := template.toList
    let marked := (cs.reverse.dropWhile (· != 'X')).reverse
    let count := (marked.reverse.takeWhile (· == 'X')).length
    if count < 3 then
      complainAs name ("too few X's in template " ++ quote template)
      pure 1
    else
      let behind := cs.drop marked.length
      let front := marked.take (marked.length - count)
      let dir : String :=
        match a.value? "p" with
        | some dir => if dir.isEmpty then "/tmp/" else below dir ""
        | none => if a.operands.isEmpty || a.has "t" then "/tmp/" else ""
      let seed := s.nextId
      let path := dir ++ String.ofList (front ++ nameLetters seed count ++ behind) ++ suffix
      match ← locate path with
      | .ok (.vacant place last _) =>
        unless a.has "u" do
          if a.has "d" then onDisk (·.makeDirectory (place ++ [last]) 0o700)
          else onDisk (·.put (place ++ [last]) (.file .empty ⟨0o600, s.disk.time⟩))
        modify fun s => { s with nextId := s.nextId + 1 }
        print (path ++ "\n")
        pure 0
      | .ok (.found _) =>
        complainAs name ("failed to create file via template " ++ quote template ++
          ": File exists")
        pure 1
      | .error f =>
        complainAs name ("failed to create " ++ (if a.has "d" then "directory" else "file") ++
          " via template " ++ quote template ++ ": " ++ f.systemText)
        pure 1

def byteCount? (text : String) : Option Nat :=
  let cs := text.toList
  let digits := cs.takeWhile Char.isDigit
  let unit? : Option Nat :=
    match String.ofList (cs.drop digits.length) with
    | "" => some 1
    | "c" => some 1
    | "w" => some 2
    | "b" => some 512
    | "K" | "k" | "KiB" => some 1024
    | "kB" | "KB" => some 1000
    | "M" | "MiB" => some 1048576
    | "MB" => some 1000000
    | "G" | "GiB" => some 1073741824
    | _ => none
  unit?.bind fun unit => (Numeral.value? digits).map (· * unit)

def truncate : Utility := fun arguments =>
  withOptions { flags := "co", valued := "sr", long := [("size", "s", true), ("no-create", "c",
      false), ("reference", "r", true)] } 1 arguments fun name a => do
    let s ← get
    let reference := (a.value? "r").bind fun p => (s.node p).toOption.map fun n =>
      Numeral.decimal n.size
    match (a.value? "s").orElse fun _ => reference with
    | none => misuse name "you must specify either '--size' or '--reference'"
    | some text =>
      let (sign, digits) : Option Char × String :=
        match text.toList with
        | c :: cs =>
          if c ∈ ['+', '-', '<', '>', '/', '%'] then (some c, String.ofList cs) else (none, text)
        | [] => (none, text)
      match byteCount? digits with
      | none =>
        complainAs name ("Invalid number: " ++ quote text)
        pure 1
      | some n =>
        if a.operands.isEmpty then misuse name "missing file operand"
        else
          forEach a.operands fun path => do
            let s ← get
            match Files.writable s.disk.root s.cwd ⟨ofBytes path⟩ with
            | .error f => failing name ("cannot open " ++ quoteName path ++ " for writing") f
            | .ok names =>
              let old :=
                match s.disk.at? names with
                | some (.file content _) => content
                | _ => .empty
              if a.has "c" && (s.disk.at? names).isNone then pure true
              else
                let size :=
                  match sign with
                  | some '+' => old.size + n
                  | some '-' => old.size - n
                  | some '<' => min old.size n
                  | some '>' => max old.size n
                  | _ => n
                let gap : ByteArray := ⟨(List.replicate (size - old.size) 0).toArray⟩
                onDisk (·.write names (old.extract 0 size ++ gap) s.fileMode)
                pure true

end Utility
end FeatureRunner
