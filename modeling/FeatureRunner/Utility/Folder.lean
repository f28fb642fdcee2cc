import FeatureRunner.Utility.Files

/-!
This module contains the utilities that tell what is in directories and what is known of a file. It
serves the outer layer, where commands start programs; no result is about it.
-/

namespace FeatureRunner
namespace Utility

open Shell

/-! ### Lists -/

structure Listed where
  name : String
  node : Node

def kindMark : Node → String
  | .file _ _ => "-"
  | .directory _ _ _ => "d"
  | .link _ => "l"
  | .device _ => "c"

def linkCount (node : Node) : Nat :=
  if node.isDirectory then 2 + (node.entries.filter fun e => e.2.isDirectory).length else 1

def kilobytes (node : Node) : Nat :=
  match node with
  | .file content _ => (content.size + 4095) / 4096 * 4
  | .directory _ _ _ => 4
  | .link _ | .device _ => 0

def kindSign (a : Arguments) (node : Node) : String :=
  if a.has "F" then
    match node with
    | .directory _ _ _ => "/"
    | .link _ => if a.has "l" then "" else "@"
    | .file _ stamp => if stamp.isRunnable then "*" else ""
    | .device _ => ""
  else if a.has "p" && node.isDirectory then "/"
  else ""

def shownName (a : Arguments) (name : String) : String :=
  if a.has "Q" then
    "\"" ++ String.ofList (name.toList.flatMap fun c =>
      if c = '"' || c = '\\' then ['\\', c] else if isPrintable c then [c] else escapeByte c) ++
      "\""
  else if a.has "b" then
    String.ofList (name.toList.flatMap fun c =>
      if c = ' ' || c = '\\' then ['\\', c] else if isPrintable c then [c] else escapeByte c)
  else if a.has "q" then
    String.ofList (name.toList.map fun c => if isPrintable c then c else '?')
  else name

def listTime (now time : Nat) : String :=
  let format := if now < time + 15724800000 then "%b %e %H:%M" else "%b %e  %Y"
  String.ofList (dateText time (format.length + 1) format.toList)

def longLines (now : Nat) (a : Arguments) (entries : List Listed) : List String :=
  let column (right : Bool) (f : Listed → String) : List String :=
    let texts := entries.map f
    let width := (texts.map String.length).foldl max 0
    texts.map fun t =>
      let fill := String.ofList (List.replicate (width - t.length) ' ')
      if right then fill ++ t else t ++ fill
  let user := if a.has "n" then "0" else "root"
  let size (e : Listed) : String :=
    match e.node with
    | .device _ => "1, 3"
    | n => Numeral.decimal n.size
  let columns : List (List String) :=
    [column true fun e => Numeral.decimal (linkCount e.node)] ++
    (if a.has "g" then [] else [column false fun _ => user]) ++
    (if a.has "o" || a.has "G" then [] else [column false fun _ => user]) ++
    [column true size, column false fun e => listTime now e.node.stamp.time]
  entries.zipIdx.map fun (e, i) =>
    let target := match e.node with
      | .link target => " -> " ++ toBytes target.text
      | _ => ""
    kindMark e.node ++ Mode.dashed e.node.stamp.mode ++
      String.join (columns.map fun column => " " ++ (column[i]?).getD "") ++ " " ++
      shownName a e.name ++ kindSign a e.node ++ target

def lineWidth : Nat := 80

def inColumns (isAcross : Bool) (names : List String) : List String :=
  let count := names.length
  let element (rows columns i j : Nat) : Option String :=
    names[if isAcross then i * columns + j else j * rows + i]?
  let layout (columns : Nat) : List String × Nat :=
    let rows := (count + columns - 1) / columns
    let widths := (List.range columns).map fun j =>
      (((List.range rows).filterMap fun i => element rows columns i j).map String.length).foldl
        max 0
    let line (i : Nat) : String :=
      let cells := (List.range columns).filterMap fun j => element rows columns i j
      String.join (cells.zipIdx.map fun (t, j) =>
        if j + 1 = cells.length then t
        else t ++ String.ofList (List.replicate ((widths[j]?).getD 0 + 2 - t.length) ' '))
    ((List.range rows).map line, (widths.map (· + 2)).foldl (· + ·) 0)
  let fits := (List.range count).reverse.filterMap fun c =>
    let columns := c + 1
    let rows := (count + columns - 1) / columns
    let (lines, width) := layout columns
    if width ≤ lineWidth + 2 && (isAcross || (count + rows - 1) / rows = columns) then some lines
    else none
  match fits with
  | lines :: _ => lines
  | [] => names

def withCommas (used : Nat) : List String → List Char
  | [] => []
  | [name] => name.toList ++ ['\n']
  | name :: rest =>
    let next := (rest.head?.getD "").length
    let used := used + name.length + 2
    if used + next + 1 > lineWidth then name.toList ++ [',', '\n'] ++ withCommas 0 rest
    else name.toList ++ [',', ' '] ++ withCommas used rest

def orderListed (a : Arguments) (entries : List Listed) : List Listed :=
  if a.has "U" || a.has "f" then entries
  else
    let byName := entries.mergeSort fun x y => !decide (y.name < x.name)
    let extension (name : String) : String :=
      match (Text.segments '.' name.toList).reverse with
      | e :: _ :: _ => String.ofList e
      | _ => ""
    let sorted :=
      match a.last? ["t", "S", "X"] with
      | some "t" => byName.mergeSort fun x y => decide (y.node.stamp.time ≤ x.node.stamp.time)
      | some "S" => byName.mergeSort fun x y => decide (y.node.size ≤ x.node.size)
      | some _ => byName.mergeSort fun x y => !decide (extension y.name < extension x.name)
      | none => byName
    if a.has "r" then sorted.reverse else sorted

def printListed (a : Arguments) (entries : List Listed) : Action Unit := do
  let entries := orderListed a entries
  let isLong := ["l", "n", "g", "o"].any a.has
  let now := (← get).disk.time
  let names := entries.map fun e =>
    (if a.has "s" then Numeral.decimal (kilobytes e.node) ++ " " else "") ++
      shownName a e.name ++ kindSign a e.node
  let lines :=
    if isLong then longLines now a entries
    else
      match a.last? ["C", "x", "1"] with
      | some "C" => inColumns false names
      | some "x" => inColumns true names
      | _ => names
  if a.has "m" && !isLong then print (String.ofList (withCommas 0 names))
  else print (joinLines (lines.map String.toList))

/-- Lists a directory and, if asked for, those in it. `headed` tells that its path is put in front,
and `isFirst` that nothing was listed before. -/
def listFolder (a : Arguments) (fuel : Nat) (headed isFirst : Bool) (path : String)
    (names : List String) : Action Unit := do
  match fuel with
  | 0 => pure ()
  | fuel + 1 =>
    let s ← get
    let node := (s.disk.at? names).getD .emptyDirectory
    let parent := (s.disk.at? names.dropLast).getD .emptyDirectory
    let all := a.has "a" || a.has "f"
    let entries := node.entries.map fun e => Listed.mk (toBytes e.1) e.2
    let entries := if all || a.has "A" then entries
      else entries.filter fun e => !e.name.startsWith "."
    let entries := if a.has "B" then entries.filter fun e => !e.name.endsWith "~" else entries
    let shown := (if all then [⟨".", node⟩, ⟨"..", parent⟩] else []) ++ entries
    let headed := headed || a.has "R"
    if headed then print ((if isFirst then "" else "\n") ++ path ++ ":\n")
    if ["l", "n", "g", "o", "s"].any a.has then
      let total := (shown.map fun e => kilobytes e.node).foldl (· + ·) 0
      print ("total " ++ Numeral.decimal total ++ "\n")
    printListed a shown
    if a.has "R" then
      for e in orderListed a entries do
        if e.node.isDirectory then
          listFolder a fuel headed false (below path e.name) (names ++ [ofBytes e.name])

def listOptions : Options :=
  { flags := "aAlndRtrSFphgosqQmxCcuXUfL1ikvBbNGH", valued := "wIT"
    long := [("all", "a", false), ("almost-all", "A", false), ("directory", "d", false),
      ("recursive", "R", false), ("reverse", "r", false), ("classify", "F", false),
      ("human-readable", "h", false), ("size", "s", false), ("quote-name", "Q", false),
      ("dereference", "L", false), ("inode", "i", false), ("escape", "b", false),
      ("literal", "N", false), ("no-group", "G", false), ("numeric-uid-gid", "n", false),
      ("ignore-backups", "B", false), ("width", "w", true), ("ignore", "I", true),
      ("color", "color", false), ("group-directories-first", "groups", false)] }

def ls : Utility := fun arguments =>
  let arguments := arguments.filter fun a => !a.startsWith "--color"
  withOptions listOptions 2 arguments fun name a => do
    let isLong := ["l", "n", "g", "o"].any a.has
    let paths := if a.operands.isEmpty then ["."] else a.operands
    let mut failed := false
    let mut files : List Listed := []
    let mut folders : List (Listed × List String) := []
    for path in paths do
      let s ← get
      let node (f : IoFault) (found : Except IoFault (List String)) :
          Except IoFault (List String × Node) :=
        match found with
        | .ok names => (s.disk.at? names).elim (.error f) fun n => .ok (names, n)
        | .error f => .error f
      let followed := node .notFound (s.find path)
      let own := node .notFound (s.entry path)
      let isFolder := followed.toOption.any fun n => n.2.isDirectory
      let r :=
        if a.has "L" then followed
        else if isFolder && !isLong && !a.has "d" && !a.has "F" then followed
        else own
      match r with
      | .error f =>
        complainAs name ("cannot access " ++ quoteName path ++ ": " ++ f.systemText)
        failed := true
      | .ok (names, n) =>
        if n.isDirectory && !a.has "d" then folders := folders ++ [(⟨path, n⟩, names)]
        else files := files ++ [⟨path, n⟩]
    printListed a files
    let headed := paths.length > 1
    let mut isFirst := files.isEmpty
    let ordered := orderListed a (folders.map (·.1))
    for e in ordered do
      let names := ((folders.find? fun f => f.1.name == e.name).map (·.2)).getD []
      listFolder a 200 headed isFirst e.name names
      isFirst := false
    pure (if failed then 2 else 0)

/-! ### Single files -/

def kindWords : Node → String
  | .file content _ => if content.size = 0 then "regular empty file" else "regular file"
  | .directory _ _ _ => "directory"
  | .link _ => "symbolic link"
  | .device _ => "character special file"

def kindBits : Node → Nat
  | .file _ _ => 0o100000
  | .directory _ _ _ => 0o40000
  | .link _ => 0o120000
  | .device _ => 0o20000

def statText (escapes : Bool) (path : String) (node : Node) (fuel : Nat) (cs : List Char)
    : List Char :=
  match fuel, cs with
  | 0, _ | _, [] => []
  | fuel + 1, '\\' :: c :: rest =>
    if escapes then
      let (d, rest) := escapeAt (c :: rest)
      d :: statText escapes path node fuel rest
    else '\\' :: statText escapes path node fuel (c :: rest)
  | fuel + 1, '%' :: rest =>
    let isLeft := rest.head? = some '-'
    let rest := if isLeft then rest.drop 1 else rest
    let width := rest.takeWhile Char.isDigit
    match rest.drop width.length with
    | [] => ['%']
    | c :: rest =>
      let time := node.stamp.time
      let date : String :=
        let format := "%Y-%m-%d %H:%M:%S.%N %z"
        String.ofList (dateText time (format.length + 1) format.toList)
      let text : String :=
        match c with
        | 'n' => path
        | 'N' => quoteName path ++ match node with
          | .link target => " -> " ++ quoteName (toBytes target.text)
          | _ => ""
        | 's' => Numeral.decimal node.size
        | 'a' => Mode.octalText 1 node.stamp.mode
        | 'A' => kindMark node ++ Mode.dashed node.stamp.mode
        | 'F' => kindWords node
        | 'f' => String.ofList (Nat.toDigits 16 (kindBits node + node.stamp.mode))
        | 'U' | 'G' => "root"
        | 'u' | 'g' => "0"
        | 'h' => Numeral.decimal (linkCount node)
        | 'b' => Numeral.decimal (2 * kilobytes node)
        | 'B' => "512"
        | 'o' => "4096"
        | 'X' | 'Y' | 'Z' => Numeral.decimal (time / 1000)
        | 'W' => "0"
        | 'x' | 'y' | 'z' => date
        | 'w' => "-"
        | 'i' => "1"
        | 'm' => "/"
        | 't' | 'T' => "0"
        | '%' => "%"
        | _ => "?"
      let fill := List.replicate ((Numeral.value? width).getD 0 - text.length) ' '
      (if isLeft then text.toList ++ fill else fill ++ text.toList) ++
        statText escapes path node fuel rest
  | fuel + 1, c :: rest => c :: statText escapes path node fuel rest

def statFormat : String :=
  "  File: %N\n  Size: %-10s\tBlocks: %-10b IO Block: %-6o %F\n" ++
    "Device: 0,1\tInode: %-11i Links: %h\n" ++
    "Access: (0%a/%A)  Uid: (    0/    root)   Gid: (    0/    root)\n" ++
    "Access: %x\nModify: %y\nChange: %z\n Birth: -\n"

def stat : Utility := fun arguments =>
  let options : Options :=
    { flags := "Lft", valued := "c"
      long := [("format", "c", true), ("printf", "printf", true), ("dereference", "L", false),
        ("terse", "t", false), ("file-system", "f", false)] }
  withOptions options 1 arguments fun name a => do
    if a.operands.isEmpty then misuse name "missing operand"
    else
      forEach a.operands fun path => do
        let s ← get
        match if a.has "L" then s.find path else s.entry path with
        | .error f => failing name ("cannot statx " ++ quoteName path) f
        | .ok names =>
          let node := (s.disk.at? names).getD .emptyDirectory
          let (escapes, format) : Bool × String :=
            match a.last? ["c", "printf"] with
            | some "c" => (false, (a.value? "c").getD "" ++ "\n")
            | some key => (true, (a.value? key).getD "")
            | none => (false, statFormat)
          print (String.ofList (statText escapes path node (format.length + 1) format.toList))
          pure true

end Utility
end FeatureRunner
