import FeatureRunner.Utility.Lines

/-!
This module contains the utilities that compare texts: byte by byte, or line by line with the fewest
changes that make one text of the other. It serves the outer layer, where commands start programs;
no result is about it.
-/

namespace FeatureRunner
namespace Utility

open Shell

/-! ### Bytes -/

/-- How a comparison of two texts ends: the first difference with its place and its line, or the
text that ends first. -/
inductive Comparison where
  | same
  | differs (place line : Nat)
  | ends (isFirst : Bool) (place line : Nat)

def firstDifference (place line : Nat) : List Char → List Char → Comparison
  | [], [] => .same
  | [], _ :: _ => .ends true place line
  | _ :: _, [] => .ends false place line
  | c :: cs, d :: ds =>
    if c = d then firstDifference (place + 1) (if c = '\n' then line + 1 else line) cs ds
    else .differs (place + 1) line

def differentBytes (width place : Nat) : List Char → List Char → List String
  | c :: cs, d :: ds =>
    let rest := differentBytes width (place + 1) cs ds
    let octal (c : Char) : String := padLeft 3 (String.ofList (Nat.toDigits 8 c.toNat))
    if c = d then rest
    else
      (padLeft width (Numeral.decimal (place + 1)) ++ " " ++ octal c ++ " " ++ octal d) :: rest
  | _, _ => []

def missingOperand (name : String) (operands : List String) : Action Nat := do
  let last := (operands.getLast?).getD name
  complainAs name ("missing operand after " ++ quote last)
  complainAs name ("Try " ++ quote (name ++ " --help") ++ " for more information.")
  pure 2

def cmp : Utility := fun arguments =>
  let options : Options :=
    { flags := "sbl", valued := "ni"
      long := [("silent", "s", false), ("quiet", "s", false), ("verbose", "l", false),
        ("bytes", "n", true), ("print-bytes", "b", false)] }
  withOptions options 2 arguments fun name a => do
    match a.operands with
    | [] => missingOperand name []
    | first :: rest =>
      let second := rest.head?.getD "-"
      let fault (path : String) (f : IoFault) : Action Nat := do
        unless a.has "s" && f = .notFound do complainAs name (path ++ ": " ++ f.systemText)
        pure 2
      match ← contentOf first, ← contentOf second with
      | .error f, _ => fault first f
      | _, .error f => fault second f
      | .ok cs, .ok ds =>
        let cut (cs : List Char) : List Char := ((a.value? "n").bind number?).elim cs cs.take
        let cs := cut cs
        let ds := cut ds
        let ended (isFirst : Bool) (place line : Nat) (last : Option Char) : Action Nat := do
          let path := if isFirst then first else second
          let where' : String :=
            if place = 0 then " which is empty"
            else
              " after byte " ++ Numeral.decimal place ++
                if a.has "l" then ""
                else if last = some '\n' then ", line " ++ Numeral.decimal (line - 1)
                else ", in line " ++ Numeral.decimal line
          unless a.has "s" do complainAs name ("EOF on " ++ path ++ where')
          pure 1
        let last (place : Nat) : Option Char := cs[place - 1]?
        if a.has "l" then
          let width := (Numeral.decimal (min cs.length ds.length)).length
          let lines := differentBytes width 0 cs ds
          print (joinLines (lines.map String.toList))
          if cs.length = ds.length then pure (if lines.isEmpty then 0 else 1)
          else
            let place := min cs.length ds.length
            ended (decide (cs.length < ds.length)) place 1 (last place)
        else
          match firstDifference 0 1 cs ds with
          | .same => pure 0
          | .differs place line =>
            unless a.has "s" do
              print (first ++ " " ++ second ++ " differ: char " ++ Numeral.decimal place ++
                ", line " ++ Numeral.decimal line ++ "\n")
            pure 1
          | .ends isFirst place line => ended isFirst place line (last place)

/-! ### Changes -/

/-- A part of two texts: lines that both have, or lines of the one that become lines of the
other. -/
inductive Hunk (α : Type) where
  | same (lines : List α)
  | change (old new : List α)

/-- The lengths of the longest common parts of all ends of `xs` and all ends of `ys`, row by row: the
first row is for all of `xs`. -/
def commonLengths [BEq α] (ys : List α) : List α → List (List Nat)
  | [] => [List.replicate (ys.length + 1) 0]
  | x :: xs =>
    let rows := commonLengths ys xs
    let below := rows.head?.getD []
    row x ys below :: rows
where
  /-- The row for one more line in front; `below` is the row without it. -/
  row (x : α) : List α → List Nat → List Nat
    | y :: ys, b :: below =>
      let rest := row x ys below
      let value :=
        if x == y then (below.head?.getD 0) + 1 else max b (rest.head?.getD 0)
      value :: rest
    | _, _ => [0]

inductive Edit (α : Type) where
  | keep (x : α)
  | delete (x : α)
  | insert (x : α)

def edits [BEq α] : List α → List α → List (List Nat) → List (Edit α)
  | [], ys, _ => ys.map .insert
  | x :: xs, ys, rows =>
    go x xs ys rows (fun ys rows => edits xs ys rows)
where
  go (x : α) (xs : List α) (ys : List α) (rows : List (List Nat))
      (next : List α → List (List Nat) → List (Edit α)) : List (Edit α) :=
    match ys with
    | [] => .delete x :: next [] (rows.drop 1)
    | y :: ys =>
      let here := (rows.head?.getD []).head?.getD 0
      let down := ((rows.drop 1).head?.getD []).head?.getD 0
      if x == y then .keep x :: next ys ((rows.drop 1).map (·.drop 1))
      else if down = here then .delete x :: next (y :: ys) (rows.drop 1)
      else .insert y :: go x xs ys (rows.map (·.drop 1)) next

def commonFront [BEq α] : List α → List α → List α × List α × List α
  | x :: xs, y :: ys =>
    if x == y then
      let (front, xs, ys) := commonFront xs ys
      (x :: front, xs, ys)
    else ([], x :: xs, y :: ys)
  | xs, ys => ([], xs, ys)

def hunks [BEq α] (xs ys : List α) : List (Hunk α) :=
  let (front, xs, ys) := commonFront xs ys
  let (back, rxs, rys) := commonFront xs.reverse ys.reverse
  let xs := rxs.reverse
  let ys := rys.reverse
  let way := edits xs ys (commonLengths ys xs)
  let all := front.map .keep ++ way ++ back.reverse.map .keep
  all.foldr (fun e hs =>
    match e, hs with
    | .keep x, .same l :: hs => .same (x :: l) :: hs
    | .keep x, hs => .same [x] :: hs
    | .delete x, .change o n :: hs => .change (x :: o) n :: hs
    | .delete x, hs => .change [x] [] :: hs
    | .insert x, .change o n :: hs => .change o (x :: n) :: hs
    | .insert x, hs => .change [] [x] :: hs) []

/-- A line as a comparison sees it: its text, and how it is written. -/
structure ComparedLine where
  key : List Char
  chars : List Char
  isEnded : Bool

instance : BEq ComparedLine := ⟨fun x y => x.key == y.key && x.isEnded == y.isEnded⟩

def comparedLines (a : Arguments) (cs : List Char) : List ComparedLine :=
  let lines := linesOf cs
  let key (line : List Char) : List Char :=
    let line := if a.has "i" then line.map Char.toLower else line
    if a.has "w" then line.filter fun c => !isSpace c
    else if a.has "b" then squeeze false line
    else line
  lines.mapIdx fun i l => ⟨key l, l, i + 1 < lines.length || endsLine cs⟩
where
  squeeze (blank : Bool) : List Char → List Char
    | [] => []
    | c :: cs =>
      if isSpace c then squeeze true cs
      else (if blank then [' ', c] else [c]) ++ squeeze false cs

def markedLines (mark : String) (lines : List ComparedLine) : String :=
  String.join (lines.map fun l =>
    mark ++ String.ofList l.chars ++ "\n" ++
      if l.isEnded then "" else "\\ No newline at end of file\n")

def numberRange (first count : Nat) : String :=
  if count = 0 then Numeral.decimal (first - 1)
  else if count = 1 then Numeral.decimal first
  else Numeral.decimal first ++ "," ++ Numeral.decimal (first + count - 1)

def plainChanges (i j : Nat) : List (Hunk ComparedLine) → String
  | [] => ""
  | .same lines :: hs => plainChanges (i + lines.length) (j + lines.length) hs
  | .change old new :: hs =>
    let letter := if old.isEmpty then "a" else if new.isEmpty then "d" else "c"
    numberRange i old.length ++ letter ++ numberRange j new.length ++ "\n" ++
      markedLines "< " old ++
      (if old.isEmpty || new.isEmpty then "" else "---\n") ++
      markedLines "> " new ++
      plainChanges (i + old.length) (j + new.length) hs

structure Block where
  oldStart : Nat
  newStart : Nat
  hunks : List (Hunk ComparedLine)

def blocks (context : Nat) (i j : Nat) (open' : Option Block)
    : List (Hunk ComparedLine) → List Block
  | [] => open'.toList.map fun b => { b with hunks := b.hunks.reverse }
  | .same lines :: hs =>
    let n := lines.length
    match open' with
    | none =>
      match hs with
      | [] => []
      | _ =>
        let kept := lines.drop (n - context)
        let skipped := n - kept.length
        blocks context (i + n) (j + n)
          (some ⟨i + skipped, j + skipped, if kept.isEmpty then [] else [.same kept]⟩) hs
    | some b =>
      if hs.isEmpty || 2 * context < n then
        let closed := { b with hunks := (.same (lines.take context) :: b.hunks).reverse }
        let kept := lines.drop (n - context)
        let skipped := n - kept.length
        closed :: if hs.isEmpty then [] else
          blocks context (i + n) (j + n)
            (some ⟨i + skipped, j + skipped, if kept.isEmpty then [] else [.same kept]⟩) hs
      else blocks context (i + n) (j + n) (some { b with hunks := .same lines :: b.hunks }) hs
  | .change old new :: hs =>
    let b := open'.getD ⟨i, j, []⟩
    blocks context (i + old.length) (j + new.length)
      (some { b with hunks := .change old new :: b.hunks }) hs

def blockRange (first count : Nat) : String :=
  if count = 1 then Numeral.decimal first
  else Numeral.decimal (if count = 0 then first - 1 else first) ++ "," ++ Numeral.decimal count

def unifiedChanges (context : Nat) (hs : List (Hunk ComparedLine)) : String :=
  String.join <| (blocks context 1 1 none hs).map fun b =>
    let count (f : List ComparedLine → List ComparedLine → Nat) : Nat :=
      (b.hunks.map fun
        | .same l => f l l
        | .change o n => f o n).foldl (· + ·) 0
    "@@ -" ++ blockRange b.oldStart (count fun o _ => o.length) ++ " +" ++
      blockRange b.newStart (count fun _ n => n.length) ++ " @@\n" ++
      String.join (b.hunks.map fun
        | .same l => markedLines " " l
        | .change o n => markedLines "-" o ++ markedLines "+" n)

def diffTexts (a : Arguments) (headline : Option String) (first second : String)
    (cs ds : List Char) : Action Nat := do
  let isBinary := !a.has "a" && (cs.contains '\x00' || ds.contains '\x00')
  let hs := hunks (comparedLines a cs) (comparedLines a ds)
  let isBlank (l : ComparedLine) : Bool := l.chars.isEmpty
  let isChanged := hs.any fun
    | .same _ => false
    | .change o n => !(a.has "B" && o.all isBlank && n.all isBlank)
  if isBinary then
    if cs = ds then pure 0
    else
      print ("Binary files " ++ first ++ " and " ++ second ++ " differ\n")
      pure 1
  else if !isChanged then
    if a.has "s" then print ("Files " ++ first ++ " and " ++ second ++ " are identical\n")
    pure 0
  else if a.has "q" then
    print ("Files " ++ first ++ " and " ++ second ++ " differ\n")
    pure 1
  else
    if let some line := headline then print line
    if a.has "u" || a.has "U" then
      let context := ((a.value? "U").bind number?).getD 3
      let time := (← get).disk.time
      let date := String.ofList (dateText time 64 "\t%Y-%m-%d %H:%M:%S.%N %z".toList)
      let labels := a.values "label"
      print ("--- " ++ (labels[0]?).getD (first ++ date) ++ "\n+++ " ++
        (labels[1]?).getD (second ++ date) ++ "\n" ++ unifiedChanges context hs)
    else print (plainChanges 1 1 hs)
    pure 1

def diffPaths (name options : String) (a : Arguments) (fuel : Nat) (isOperand : Bool)
    (first second : String) : Action Nat := do
  match fuel with
  | 0 => pure 0
  | fuel + 1 =>
    let s ← get
    match s.isDirectory first, s.isDirectory second with
    | true, true =>
      let names (path : String) : List String :=
        ((s.node path).toOption.map Node.entries).getD [] |>.map fun e => toBytes e.1
      let all := (names first ++ (names second).filter fun n => !(names first).contains n).mergeSort
        fun x y => !decide (y < x)
      let mut status := 0
      for n in all do
        let p := below first n
        let q := below second n
        let inFirst := (names first).contains n
        let inSecond := (names second).contains n
        let newFile := a.has "N" && (if inFirst then !s.isDirectory p else !s.isDirectory q)
        if inFirst && inSecond || newFile then
          if s.isDirectory p && s.isDirectory q && !a.has "r" then
            print ("Common subdirectories: " ++ p ++ " and " ++ q ++ "\n")
          else status := max status (← diffPaths name options a fuel false p q)
        else
          print ("Only in " ++ (if inFirst then first else second) ++ ": " ++ n ++ "\n")
          status := max status 1
      pure status
    | true, false | false, true =>
      if isOperand then
        let inside (folder file : String) : String := below folder (baseName file)
        if s.isDirectory first then
          diffPaths name options a fuel true (inside first second) second
        else diffPaths name options a fuel true first (inside second first)
      else
        let word (path : String) : String :=
          if s.isDirectory path then "directory" else "regular file"
        print ("File " ++ first ++ " is a " ++ word first ++ " while file " ++ second ++
          " is a " ++ word second ++ "\n")
        pure 1
    | false, false =>
      let read (path : String) : Action (Except IoFault (List Char)) := do
        match ← contentOf path with
        | .error f => pure (if a.has "N" && f = .notFound then .ok [] else .error f)
        | r => pure r
      let r ← read first
      let q ← read second
      match r, q with
      | .ok cs, .ok ds =>
        let headline :=
          if isOperand then none
          else some (name ++ options ++ " " ++ first ++ " " ++ second ++ "\n")
        diffTexts a headline first second cs ds
      | r, q =>
        if let .error f := r then complainAs name (first ++ ": " ++ f.systemText)
        if let .error f := q then complainAs name (second ++ ": " ++ f.systemText)
        pure 2

def diff : Utility := fun arguments =>
  let options : Options :=
    { flags := "iwbBqsruNacyed", valued := "ULC"
      long := [("brief", "q", false), ("report-identical-files", "s", false),
        ("recursive", "r", false), ("unified", "u", false), ("new-file", "N", false),
        ("ignore-case", "i", false), ("ignore-all-space", "w", false),
        ("ignore-space-change", "b", false), ("ignore-blank-lines", "B", false),
        ("text", "a", false), ("label", "label", true), ("color", "color", false),
        ("strip-trailing-cr", "cr", false), ("normal", "normal", false)] }
  withOptions options 2 arguments fun name a => do
    let given := String.join ((arguments.drop 1).filter (fun w => w.startsWith "-" && w ≠ "-") |>.map
      (" " ++ ·))
    let a := { a with options := a.options ++ (a.values "L").map fun v => ("label", v) }
    match a.operands with
    | [first, second] => diffPaths name given a 100 true first second
    | _ :: _ :: third :: _ =>
      complainAs name ("extra operand " ++ quote third)
      complainAs name ("Try " ++ quote (name ++ " --help") ++ " for more information.")
      pure 2
    | operands => missingOperand name operands

end Utility
end FeatureRunner
