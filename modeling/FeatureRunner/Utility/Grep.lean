import FeatureRunner.Utility.Lines
import FeatureRunner.Utility.Regex

/-!
This module contains the utility that searches texts for lines that fit a pattern, and the walk
through a directory with everything below it. It serves the outer layer, where commands start
programs; no result is about it.
-/

namespace FeatureRunner
namespace Utility

open Shell

/-! ### Walks -/

structure Visit where
  path : String
  names : List String
  node : Node
  depth : Nat

mutual

def visits (path : String) (names : List String) (depth : Nat) (node : Node) : List Visit :=
  ⟨path, names, node, depth⟩ ::
    match node with
    | .directory _ entries _ => visitsAmong path names (depth + 1) entries
    | .file _ _ | .link _ | .device _ => []

def visitsAmong (path : String) (names : List String) (depth : Nat)
    : List (String × Node) → List Visit
  | [] => []
  | entry :: rest => visitsOf path names depth entry ++ visitsAmong path names depth rest

def visitsOf (path : String) (names : List String) (depth : Nat) : String × Node → List Visit
  | (name, node) => visits (below path (toBytes name)) (names ++ [name]) depth node

end

/-! ### Patterns -/

structure Matcher where
  patterns : List Regex
  ignoresCase : Bool
  isWord : Bool
  isLine : Bool

namespace Matcher

def matchAt? (m : Matcher) (t : Regex.Subject) (start : Nat) (r : Regex) : Option Regex.Match :=
  let ends := Regex.ends t r ⟨start, []⟩
  let ends := if m.isWord then
      ends.filter fun p => !t.wordBefore start && !t.wordAt p.position
    else if m.isLine then ends.filter fun p => start = 0 && p.position = t.text.size
    else ends
  match ends with
  | [] => none
  | p :: ps =>
    let best := ps.foldl (fun a b => if a.position < b.position then b else a) p
    some ⟨start, best.position, best.groups⟩

def matchFrom? (m : Matcher) (t : Regex.Subject) (fuel start : Nat) : Option Regex.Match :=
  match fuel with
  | 0 => none
  | fuel + 1 =>
    match m.patterns.filterMap (m.matchAt? t start) with
    | [] => matchFrom? m t fuel (start + 1)
    | first :: others =>
      some (others.foldl (fun a b => if a.stop < b.stop then b else a) first)

def subject (m : Matcher) (line : List Char) : Regex.Subject :=
  ⟨line.toArray, m.ignoresCase, m.patterns.all Regex.isRegular⟩

def fits (m : Matcher) (line : List Char) : Bool :=
  (m.matchFrom? (m.subject line) (line.length + 1) 0).isSome

def parts (m : Matcher) (line : List Char) : List (Nat × List Char) :=
  go (m.subject line) (line.length + 1) 0
where
  go (t : Regex.Subject) (fuel start : Nat) : List (Nat × List Char) :=
    match fuel with
    | 0 => []
    | fuel + 1 =>
      match m.matchFrom? t (line.length + 1 - start) start with
      | none => []
      | some found =>
        if found.stop = found.start then go t fuel (found.start + 1)
        else
          (found.start, (line.drop found.start).take (found.stop - found.start)) ::
            go t fuel found.stop

end Matcher

/-! ### Output -/

structure NumberedLine where
  number : Nat
  offset : Nat
  chars : List Char
  selected : Bool

def numberLines (select : List Char → Bool) (number offset : Nat)
    : List (List Char) → List NumberedLine
  | [] => []
  | l :: ls =>
    ⟨number, offset, l, select l⟩ :: numberLines select (number + 1) (offset + l.length + 1) ls

def withContext (before after : Nat) (lines : List NumberedLine) : List NumberedLine :=
  go (lines.filterMap fun l => if l.selected then some l.number else none) lines
where
  go (chosen : List Nat) : List NumberedLine → List NumberedLine
    | [] => []
    | l :: ls =>
      let chosen := chosen.dropWhile fun n => n + after < l.number
      if chosen.head?.any fun n => n ≤ l.number + before then l :: go chosen ls
      else go chosen ls

def lineFront (a : Arguments) (path : Option String) (l : NumberedLine) (column : Nat)
    (mark : String) : String :=
  (path.elim "" fun p => p ++ if a.has "Z" then "\x00" else mark) ++
    (if a.has "n" then Numeral.decimal l.number ++ mark else "") ++
    if a.has "b" then Numeral.decimal (l.offset + column) ++ mark else ""

def grepText (a : Arguments) (m : Matcher) (path : Option String) (before after : Nat)
    (isFirst : Bool) (ending : String) (lines : List NumberedLine) : String :=
  if a.has "o" then
    if a.has "v" then ""
    else
      String.join <| lines.flatMap fun l =>
        if l.selected then
          (m.parts l.chars).map fun (column, cs) =>
            lineFront a path l column ":" ++ String.ofList cs ++ ending
        else []
  else
    let hasContext := a.has "A" || a.has "B" || a.has "C"
    let shown := withContext before after lines
    let rec go (last : Option Nat) : List NumberedLine → List String
      | [] => []
      | l :: ls =>
        let gap := hasContext && (match last with
          | some n => n + 1 < l.number
          | none => !isFirst)
        let front := lineFront a path l 0 (if l.selected then ":" else "-")
        ((if gap then "--\n" else "") ++ front ++ String.ofList l.chars ++ ending) ::
          go (some l.number) ls
    String.join (go none shown)

/-! ### The program -/

def grepMisuse (name : String) : Action Nat := do
  complain ("Usage: " ++ name ++ " [OPTION]... PATTERNS [FILE]...")
  complain ("Try '" ++ name ++ " --help' for more information.")
  pure 2

def expandContext (a : String) : List String :=
  match a.toList with
  | '-' :: c :: cs =>
    if c.isDigit && cs.all Char.isDigit then ["-C", String.ofList (c :: cs)] else [a]
  | _ => [a]

def grepOptions : Options :=
  { flags := "EFGPivcnlLqsowxhHrRabzZTUyI", valued := "efmABCdD"
    long := [("extended-regexp", "E", false), ("fixed-strings", "F", false),
      ("basic-regexp", "G", false), ("perl-regexp", "P", false), ("regexp", "e", true),
      ("file", "f", true), ("ignore-case", "i", false), ("no-ignore-case", "y'", false),
      ("invert-match", "v", false), ("word-regexp", "w", false), ("line-regexp", "x", false),
      ("count", "c", false), ("color", "colour", false), ("files-without-match", "L", false),
      ("files-with-matches", "l", false), ("max-count", "m", true), ("only-matching", "o", false),
      ("quiet", "q", false), ("silent", "q", false), ("no-messages", "s", false),
      ("byte-offset", "b", false), ("with-filename", "H", false), ("no-filename", "h", false),
      ("line-number", "n", false), ("null", "Z", false), ("after-context", "A", true),
      ("before-context", "B", true), ("context", "C", true), ("text", "a", false),
      ("recursive", "r", false), ("dereference-recursive", "R", false),
      ("include", "include", true), ("exclude", "exclude", true),
      ("exclude-dir", "folder", true), ("null-data", "z", false), ("label", "label", true),
      ("line-buffered", "buffered", false), ("directories", "d", true)] }

def grepRegex (a : Arguments) (name : String) (pattern : List Char) : Except String Regex :=
  let fixed := a.has "F" || name = "fgrep"
  let extended := (a.has "E" || a.has "P" || name = "egrep") && !a.has "G"
  if fixed then .ok (pattern.foldr (fun c r => .seq (.char c) r) .empty)
  else Regex.ofChars? extended pattern

/-- The inputs that operands stand for: paths, with the name that they are shown by, or complaints
about them. -/
def grepInputs (s : State) (a : Arguments) : List (String × Option IoFault) :=
  let recursive := a.has "r" || a.has "R"
  let fitsAny (key path : String) : Bool :=
    (a.values key).any fun p =>
      fitsText (patternOf ['!', '^'] (glyphsOf p.toList)) (baseName path).toList
  let isWanted (path : String) : Bool :=
    (!a.has "include" || fitsAny "include" path) && !fitsAny "exclude" path
  let expand (path shown : String) : List (String × Option IoFault) :=
    match s.node path, s.find path with
    | .ok node, .ok names =>
      if node.isDirectory then
        if recursive then
          ((visits shown names 0 node).filter fun v =>
            v.node.isFile && isWanted v.path &&
              !(Text.segments '/' v.path.toList).dropLast.any fun d =>
                fitsAny "folder" (String.ofList d)).map fun v => (v.path, none)
        else if a.value? "d" = some "skip" then []
        else [(path, some .isADirectory)]
      else if isWanted path then [(path, none)]
      else []
    | .error f, _ | _, .error f => [(path, some f)]
  match a.operands with
  | [] =>
    if recursive then
      (expand "." "").map fun (path, f) =>
        (String.ofList (path.toList.dropWhile (· == '/')), f)
    else [("-", none)]
  | operands => operands.flatMap fun p =>
      if p = "-" || (descriptorOf? p).isSome then [(p, none)]
      else expand p p

def grep : Utility := fun arguments => do
  let name := arguments.head?.getD ""
  let expanded := (arguments.drop 1).flatMap expandContext
  match grepOptions.read (expanded.length + 1) expanded with
  | .error complaint =>
    complainAs name complaint
    grepMisuse name
  | .ok a =>
    let given := a.has "e" || a.has "f"
    match given, a.operands with
    | false, [] => grepMisuse name
    | _, operands =>
      let first := if given then [] else (operands.head?).toList
      let a := if given then a else { a with operands := operands.drop 1 }
      let mut texts := (a.values "e" ++ first).flatMap fun t => Text.segments '\n' t.toList
      let mut fault : Option String := none
      for path in a.values "f" do
        match ← contentOf path with
        | .ok cs => texts := texts ++ linesOf cs
        | .error f => fault := some (path ++ ": " ++ f.systemText)
      let numbers := ["m", "A", "B", "C"].map fun key =>
        (a.value? key).map fun text => (text, number? text)
      if let some (some (text, none)) := numbers.find? fun n => n.any (·.2.isNone) then
        fault := some (if (a.value? "m") = some text then "invalid max count"
          else text ++ ": invalid context length argument")
      match fault, texts.mapM (grepRegex a (baseName name)) with
      | some complaint, _ =>
        complainAs name complaint
        pure 2
      | none, .error complaint =>
        complainAs name complaint
        pure 2
      | none, .ok patterns =>
        let m : Matcher :=
          { patterns, ignoresCase := a.has "i" || a.has "y", isWord := a.has "w"
            isLine := a.has "x" }
        let around (key : String) : Nat :=
          ((a.value? key).bind number?).getD (((a.value? "C").bind number?).getD 0)
        let limit := (a.value? "m").bind number?
        let ins := grepInputs (← get) a
        let shows := !a.has "h" && (a.has "H" || a.operands.length > 1 || a.has "r" || a.has "R")
        let ending := if a.has "z" then "\x00" else "\n"
        let mut found := false
        let mut failed := false
        let mut printed := false
        for (path, f) in ins do
          if !(a.has "q" && found) then
            let content : Except IoFault (List Char) ←
              match f with
              | some f => pure (.error f)
              | none => contentOf path
            match content with
            | .error f =>
              unless a.has "s" do complainAs name (path ++ ": " ++ f.systemText)
              failed := true
            | .ok cs =>
              let lines :=
                if a.has "z" then
                  (Text.segments '\x00' cs).reverse.dropWhile List.isEmpty |>.reverse
                else linesOf cs
              let lines := numberLines (fun l => m.fits l != a.has "v") 1 0 lines
              let matching := lines.filter (·.selected)
              let matching := limit.elim matching (matching.take ·)
              let lines := match limit, matching.getLast? with
                | some _, some l => lines.filter fun k =>
                  k.number ≤ l.number || (!k.selected && k.number ≤ l.number + around "A")
                | some _, none => []
                | none, _ => lines
              let count := matching.length
              let shown := if path = "-" then (a.value? "label").getD "(standard input)" else path
              let front := if shows then some shown else none
              if count ≠ 0 then found := true
              if a.has "q" then pure ()
              else if a.has "l" then if count ≠ 0 then print (shown ++ "\n")
              else if a.has "L" then if count = 0 then print (shown ++ "\n")
              else if a.has "c" then
                print ((front.elim "" (· ++ ":")) ++ Numeral.decimal count ++ "\n")
              else if cs.contains '\x00' && !a.has "a" && !a.has "z" then
                if count ≠ 0 then complainAs name (shown ++ ": binary file matches")
              else
                let text := grepText a m front (around "B") (around "A") (!printed) ending lines
                unless text.isEmpty do printed := true
                print text
        if a.has "L" then
          pure (if failed then 2 else if found then 0 else 1)
        else pure (if found && (a.has "q" || !failed) then 0 else if failed then 2 else 1)

end Utility
end FeatureRunner
