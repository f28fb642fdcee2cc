import FeatureRunner.Shell.Format
import FeatureRunner.Utility.Regex

/-!
This module contains the scripts of the stream editor: what their commands are and how they are
read. Blocks and labels become indexes of commands, so that a script is a plain array. It serves the
outer layer, where commands start programs; no result is about it.
-/

namespace FeatureRunner
namespace Utility
namespace Sed

open Shell

/-- A regular expression of a script; none stands for the last one that was used. -/
structure Search where
  regex : Option Regex
  ignoresCase : Bool := false

inductive Address where
  | line (n : Nat)
  | last
  | fits (search : Search)
  | every (first step : Nat)

inductive RangeEnd where
  | address (a : Address)
  | more (n : Nat)
  | multiple (n : Nat)

inductive LetterCase where
  | upper
  | lower
  | upperOnce
  | lowerOnce
  | plain
  deriving DecidableEq

inductive Part where
  | char (c : Char)
  | group (n : Nat)
  | letters (change : LetterCase)

structure Substitution where
  search : Search
  parts : List Part
  /-- Are all matches replaced from number `number` on, or only that one? -/
  isGlobal : Bool := false
  number : Nat := 1
  prints : Bool := false
  file : Option String := none

inductive Deed where
  /-- Goes on behind the block if the command is not for the line. -/
  | block (behind : Nat)
  | nothing
  | showNumber
  | append (text : List Char)
  | insert (text : List Char)
  | change (text : List Char)
  | jump (target : Nat)
  | jumpIfReplaced (target : Nat)
  | jumpUnlessReplaced (target : Nat)
  | delete
  | deleteLine
  | fileName
  | get
  | getAppend
  | hold
  | holdAppend
  | exchange
  | list (width : Option Nat)
  | next
  | nextAppend
  | print
  | printLine
  | quit (prints : Bool) (status : Nat)
  | readFile (path : String)
  | substitute (s : Substitution)
  | translate (pairs : List (Char × Char))
  | writeFile (path : String)
  | clear

structure Order where
  first : Option Address := none
  last : Option RangeEnd := none
  negated : Bool := false
  deed : Deed

/-! ### Reading -/

structure Source where
  rest : List Char
  position : Nat := 0
  isExtended : Bool := false

abbrev Read := StateT Source (Except (Option Nat × String))

def complainHere (text : String) : Read α := do
  throw (some (← get).position, text)

def peek : Read (Option Char) := do
  pure (← get).rest.head?

def take : Read (Option Char) := do
  let s : Source ← get
  match s.rest with
  | [] => pure none
  | c :: rest =>
    set { s with rest, position := s.position + 1 }
    pure (some c)

def takeWhile (ok : Char → Bool) : Read (List Char) := do
  let s : Source ← get
  let cs := s.rest.takeWhile ok
  set { s with rest := s.rest.drop cs.length, position := s.position + cs.length }
  pure cs

def isBlankChar (c : Char) : Bool := c == ' ' || c == '\t'

def isSpaceChar (c : Char) : Bool := c == ' ' || (9 ≤ c.toNat && c.toNat ≤ 13)

def skipBlanks : Read Unit := discard (takeWhile isBlankChar)

def takeSolid : Read (Option Char) := do
  discard (takeWhile isSpaceChar)
  take

def takeNumber : Read Nat := do
  let ds ← takeWhile Char.isDigit
  pure ((Numeral.value? ds).getD 0)

def takeBrackets : Read (List Char) := do
  let s : Source ← get
  let (front, cs) : List Char × List Char :=
    match s.rest with
    | '^' :: cs => (['^'], cs)
    | cs => ([], cs)
  match bracketSets? (cs.length + 1) true (cs.map fun c => (c, false)) with
  | some (_, rest) =>
    let inside := front ++ cs.take (cs.length - rest.length)
    set { s with rest := rest.map Prod.fst, position := s.position + inside.length }
    pure inside
  | none =>
    let inside := s.rest.takeWhile (· != '\n')
    set { s with rest := s.rest.drop inside.length, position := s.position + inside.length }
    pure inside

/-- Takes what stands in front of a delimiter. In an expression a quoted `n` is a line feed, and a
delimiter in brackets is none. -/
def takeDelimited (delimiter : Char) (isRegex : Bool) (fuel : Nat) : Read (Option (List Char)) := do
  match fuel with
  | 0 => pure none
  | fuel + 1 =>
    let go (cs : List Char) : Read (Option (List Char)) := do
      pure ((← takeDelimited delimiter isRegex fuel).map (cs ++ ·))
    match ← peek with
    | none | some '\n' => pure none
    | some c =>
      discard take
      if c = delimiter then pure (some [])
      else if c = '[' && isRegex then go ('[' :: (← takeBrackets))
      else if c ≠ '\\' then go [c]
      else
        match ← take with
        | none => pure none
        | some 'n' => if isRegex then go ['\n'] else go ['\\', 'n']
        | some '\n' => if isRegex then go ['\n'] else go ['\\', '\n']
        | some d =>
          if d = delimiter && !(d = '&' && !isRegex) then go [d] else go ['\\', d]

def controlChar? : Char → Option Char
  | 'a' => some '\x07'
  | 'f' => some '\x0c'
  | 'n' => some '\n'
  | 'r' => some '\r'
  | 't' => some '\t'
  | 'v' => some '\x0b'
  | _ => none

def searchOf (cs : List Char) (ignoresCase : Bool) : Read Search := do
  if cs.isEmpty then pure { regex := none, ignoresCase }
  else
    let rec plain : List Char → List Char
      | '\\' :: c :: rest =>
        match if c = 'n' then none else controlChar? c with
        | some d => d :: plain rest
        | none => '\\' :: c :: plain rest
      | c :: rest => c :: plain rest
      | [] => []
    match Regex.ofChars? (← get).isExtended (plain cs) with
    | .ok r => pure { regex := some r, ignoresCase }
    | .error text => complainHere text

def readAddress (fuel : Nat) : Read (Option Address) := do
  match ← peek with
  | some '$' =>
    discard take
    pure (some .last)
  | some c =>
    if c.isDigit then
      let n ← takeNumber
      skipBlanks
      if (← peek) = some '~' then
        discard take
        pure (some (.every n (← takeNumber)))
      else pure (some (.line n))
    else if c = '/' || c = '\\' then
      discard take
      let delimiter ← if c = '\\' then take else pure (some '/')
      match ← takeDelimited (delimiter.getD '/') true fuel with
      | none => complainHere "unterminated address regex"
      | some cs =>
        let flags ← takeWhile fun c => c = 'I' || c = 'M'
        pure (some (.fits (← searchOf cs (flags.contains 'I'))))
    else if c = '+' || c = '~' then
      discard take
      discard takeNumber
      complainHere "invalid usage of +N or ~N as first address"
    else pure none
  | none => pure none

def readRangeEnd (fuel : Nat) : Read RangeEnd := do
  discard (takeWhile isSpaceChar)
  match ← peek with
  | some '+' =>
    discard take
    pure (.more (← takeNumber))
  | some '~' =>
    discard take
    pure (.multiple (← takeNumber))
  | _ =>
    match ← readAddress fuel with
    | some a => pure (.address a)
    | none => complainHere "unexpected `,'"

def readEnd : Read Unit := do
  skipBlanks
  match ← peek with
  | none | some '#' | some '\x7d' => pure ()
  | some c =>
    discard take
    unless c = ';' || c = '\n' || c = '\r' do complainHere "extra characters after command"

def readFileName : Read String := do
  skipBlanks
  let name ← takeWhile (· != '\n')
  if name.isEmpty then complainHere "missing filename in r/R/w/W commands"
  pure (String.ofList name)

def readLabel (stops : List Char) : Read String := do
  skipBlanks
  String.ofList <$> takeWhile fun c => !isSpaceChar c && !stops.contains c

def readTextLines (fuel : Nat) : Read (List Char) := do
  match fuel with
  | 0 => pure ['\n']
  | fuel + 1 =>
    match ← take with
    | none | some '\n' => pure ['\n']
    | some '\\' =>
      match ← take with
      | none => pure ['\n']
      | some c =>
        pure ((if c = 'n' then c else (controlChar? c).getD c) :: (← readTextLines fuel))
    | some c => pure (c :: (← readTextLines fuel))

def readText (fuel : Nat) : Read (List Char) := do
  skipBlanks
  match ← peek with
  | none => complainHere "expected \\ after `a', `c' or `i'"
  | some '\\' =>
    discard take
    match ← peek with
    | none => pure []
    | some '\n' =>
      discard take
      readTextLines fuel
    | some c =>
      let s : Source ← get
      let behind := s.rest.dropWhile isBlankChar
      if isBlankChar c && behind.head? = some '\n' then
        skipBlanks
        discard take
        readTextLines fuel
      else readTextLines fuel
  | some _ => readTextLines fuel

def partsOf (fuel : Nat) : List Char → List Part
  | [] => []
  | '&' :: rest => .group 0 :: partsOf fuel rest
  | '\\' :: c :: rest =>
    match fuel with
    | 0 => []
    | fuel + 1 =>
      if c.isDigit then .group (c.toNat - '0'.toNat) :: partsOf fuel rest
      else
        match c with
        | 'U' => .letters .upper :: partsOf fuel rest
        | 'L' => .letters .lower :: partsOf fuel rest
        | 'u' => .letters .upperOnce :: partsOf fuel rest
        | 'l' => .letters .lowerOnce :: partsOf fuel rest
        | 'E' => .letters .plain :: partsOf fuel rest
        | 'x' =>
          let digits := (rest.take 2).takeWhile fun c => isInClass "xdigit" c
          if digits.isEmpty then .char 'x' :: partsOf fuel rest
          else
            .char (Char.ofNat (hexValue digits)) :: partsOf fuel (rest.drop digits.length)
        | 'o' =>
          let digits := (rest.take 3).takeWhile isOctal
          if digits.isEmpty then .char 'o' :: partsOf fuel rest
          else .char (Char.ofNat (octalValue digits % 256)) :: partsOf fuel (rest.drop digits.length)
        | c => .char ((controlChar? c).getD c) :: partsOf fuel rest
  | c :: rest => .char c :: partsOf fuel rest
where
  hexValue (ds : List Char) : Nat :=
    ds.foldl (fun n c =>
      16 * n + (if c.isDigit then c.toNat - '0'.toNat else c.toLower.toNat - 'a'.toNat + 10)) 0

structure Flags where
  isGlobal : Bool := false
  number : Option Nat := none
  prints : Bool := false
  ignoresCase : Bool := false
  file : Option String := none

def readFlags (fuel : Nat) (f : Flags) : Read Flags := do
  match fuel with
  | 0 => pure f
  | fuel + 1 =>
    match ← peek with
    | none | some '#' | some '\x7d' => pure f
    | some c =>
      if c.isDigit then
        let n ← takeNumber
        if f.number.isSome then complainHere "multiple number options to `s' command"
        if n = 0 then complainHere "number option to `s' command may not be zero"
        readFlags fuel { f with number := some n }
      else
        discard take
        match c with
        | ';' | '\n' => pure f
        | 'g' =>
          if f.isGlobal then complainHere "multiple `g' options to `s' command"
          readFlags fuel { f with isGlobal := true }
        | 'p' =>
          if f.prints then complainHere "multiple `p' options to `s' command"
          readFlags fuel { f with prints := true }
        | 'i' | 'I' => readFlags fuel { f with ignoresCase := true }
        | 'm' | 'M' | 'e' | ' ' | '\t' | '\r' => readFlags fuel f
        | 'w' => pure { f with file := some (← readFileName) }
        | _ => complainHere "unknown option to `s'"

def groupCount : Regex → Nat
  | .group n r => max n (groupCount r)
  | .seq r s | .alt r s => max (groupCount r) (groupCount s)
  | .repeated r _ _ => groupCount r
  | _ => 0

def readSubstitution (fuel : Nat) : Read Deed := do
  let unterminated : Read Deed := complainHere "unterminated `s' command"
  match ← take with
  | none => unterminated
  | some delimiter =>
    match ← takeDelimited delimiter true fuel with
    | none => unterminated
    | some regex =>
      match ← takeDelimited delimiter false fuel with
      | none => unterminated
      | some replacement =>
        let flags ← readFlags fuel {}
        let search ← searchOf regex flags.ignoresCase
        let parts := partsOf replacement.length replacement
        let groups := parts.map fun | .group n => n | _ => 0
        if let some r := search.regex then
          if let some n := groups.find? (groupCount r < ·) then
            complainHere ("invalid reference \\" ++ Numeral.decimal n ++
              " on `s' command's RHS")
        pure (.substitute
          { search, parts, isGlobal := flags.isGlobal, number := flags.number.getD 1
            prints := flags.prints, file := flags.file })

def translated : List Char → List Char
  | '\\' :: '\\' :: rest => '\\' :: translated rest
  | '\\' :: c :: rest =>
    match controlChar? c with
    | some d => d :: translated rest
    | none => '\\' :: c :: translated rest
  | c :: rest => c :: translated rest
  | [] => []

def readTranslation (fuel : Nat) : Read Deed := do
  let unterminated : Read Deed := complainHere "unterminated `y' command"
  match ← take with
  | none => unterminated
  | some delimiter =>
    match ← takeDelimited delimiter false fuel with
    | none => unterminated
    | some source =>
      match ← takeDelimited delimiter false fuel with
      | none => unterminated
      | some target =>
        let source := translated source
        let target := translated target
        if source.length ≠ target.length then
          complainHere "strings for `y' command are different lengths"
        readEnd
        pure (.translate (source.zip target))

inductive Draft where
  | order (o : Order)
  | opening (o : Order)
  | closing
  | label (name : String)
  | jump (o : Order) (toDeed : Nat → Deed) (label : String)

def readDeed (fuel : Nat) (c : Char) (isRange : Bool) : Read Deed := do
  let plain (d : Deed) : Read Deed := do
    readEnd
    pure d
  let number : Read (Option Nat) := do
    skipBlanks
    match ← peek with
    | some d => if d.isDigit then some <$> takeNumber else pure none
    | none => pure none
  let quit (prints : Bool) : Read Deed := do
    if isRange then complainHere "command only uses one address"
    let status ← number
    plain (.quit prints (status.getD 0))
  match c with
  | '=' => plain .showNumber
  | 'd' => plain .delete
  | 'D' => plain .deleteLine
  | 'F' => plain .fileName
  | 'g' => plain .get
  | 'G' => plain .getAppend
  | 'h' => plain .hold
  | 'H' => plain .holdAppend
  | 'n' => plain .next
  | 'N' => plain .nextAppend
  | 'p' => plain .print
  | 'P' => plain .printLine
  | 'x' => plain .exchange
  | 'z' => plain .clear
  | 'l' =>
    let width ← number
    plain (.list width)
  | 'q' => quit true
  | 'Q' => quit false
  | 'a' => .append <$> readText fuel
  | 'i' => .insert <$> readText fuel
  | 'c' => .change <$> readText fuel
  | 'r' => .readFile <$> readFileName
  | 'w' => .writeFile <$> readFileName
  | 's' => readSubstitution fuel
  | 'y' => readTranslation fuel
  | 'v' =>
    discard (readLabel [';'])
    plain .nothing
  | c => complainHere ("unknown command: `" ++ c.toString ++ "'")

def readOrder (fuel depth : Nat) : Read (Option Draft) := do
  discard (takeWhile fun c => isSpaceChar c || c = ';')
  if (← peek).isNone then pure none
  else
    let first ← readAddress fuel
    let last : Option RangeEnd ←
      if first.isSome then do
        discard (takeWhile isSpaceChar)
        if (← peek) = some ',' then
          discard take
          some <$> readRangeEnd fuel
        else pure none
      else pure none
    let c? ← takeSolid
    let (negated, c?) ←
      if c? = some '!' then do
        let c? ← takeSolid
        if c? = some '!' then complainHere "multiple `!'s"
        pure (true, c?)
      else pure (false, c?)
    let endsAtRegex := match last with
      | some (.address (.fits _)) => true
      | _ => false
    let isZero := match first with
      | some (.line 0) => true
      | _ => false
    if isZero && !endsAtRegex then complainHere "invalid usage of line address 0"
    let order (d : Deed) : Order := { first, last, negated, deed := d }
    let jump (toDeed : Nat → Deed) : Read (Option Draft) := do
      let label ← readLabel [';', '\x7d']
      readEnd
      pure (some (.jump (order .nothing) toDeed label))
    match c? with
    | none => complainHere "missing command"
    | some '#' =>
      if first.isSome then complainHere "comments don't accept any addresses"
      discard (takeWhile (· != '\n'))
      pure (some (.order (order .nothing)))
    | some ':' =>
      if first.isSome then complainHere ": doesn't want any addresses"
      let label ← readLabel [';']
      if label.isEmpty then complainHere "\":\" lacks a label"
      pure (some (.label label))
    | some '\x7b' => pure (some (.opening (order .nothing)))
    | some '\x7d' =>
      if depth = 0 then complainHere "unexpected `\x7d'"
      if first.isSome then complainHere "\x7d doesn't want any addresses"
      readEnd
      pure (some .closing)
    | some 'b' => jump .jump
    | some 't' => jump .jumpIfReplaced
    | some 'T' => jump .jumpUnlessReplaced
    | some c =>
      let deed ← readDeed fuel c last.isSome
      pure (some (.order (order deed)))

def readOrders (size fuel depth : Nat) : Read (List Draft) := do
  match fuel with
  | 0 => pure []
  | fuel + 1 =>
    match ← readOrder size depth with
    | none =>
      if depth ≠ 0 then throw (some 0, "unmatched `\x7b'")
      pure []
    | some d =>
      let depth := match d with
        | .opening _ => depth + 1
        | .closing => depth - 1
        | _ => depth
      pure (d :: (← readOrders size fuel depth))

/-- The index behind the end of the block that is opened in front of the drafts; `i` is the index of
the first of them. -/
def blockEnd (depth i : Nat) : List Draft → Nat
  | [] => i
  | .opening _ :: rest => blockEnd (depth + 1) (i + 1) rest
  | .closing :: rest => if depth = 0 then i + 1 else blockEnd (depth - 1) (i + 1) rest
  | _ :: rest => blockEnd depth (i + 1) rest

def link (all : List Draft) (i : Nat) : List Draft → Except String (List Order)
  | [] => .ok []
  | d :: rest => do
    let order : Order ←
      match d with
      | .order o => pure o
      | .opening o => pure { o with deed := .block (blockEnd 0 (i + 1) rest) }
      | .closing | .label _ => pure { deed := .nothing }
      | .jump o toDeed label =>
        if label.isEmpty then pure { o with deed := toDeed all.length }
        else
          match all.findIdx? fun | .label l => l == label | _ => false with
          | some target => pure { o with deed := toDeed target }
          | none => .error ("can't find label for jump to `" ++ label ++ "'")
    pure (order :: (← link all (i + 1) rest))

def readScript (isExtended : Bool) (cs : List Char)
    : Except (Option Nat × String) (Array Order) := do
  let (drafts, _) ← (readOrders (cs.length + 1) (cs.length + 1) 0).run
    { rest := cs, isExtended }
  match link drafts 0 drafts with
  | .ok orders => .ok orders.toArray
  | .error text => .error (none, text)

end Sed
end Utility
end FeatureRunner
