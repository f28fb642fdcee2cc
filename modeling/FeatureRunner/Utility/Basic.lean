import FeatureRunner.Shell.State
import FeatureRunner.Text.Segments

/-!
This module contains what the utilities have in common: how they read their arguments, what they
complain about and how they quote names. It serves the outer layer, where commands start programs;
no result is about it.
-/

namespace FeatureRunner

/-- A program with its arguments, the name that it was called by first. It ends with a status. -/
abbrev Utility := List String → Shell.Action Nat

namespace Utility

open Shell

abbrev Launcher := List String → Action (Except IoFault Ending)

/-! ### Names -/

def baseName (path : String) : String :=
  String.ofList (((Text.segments '/' path.toList).getLast?).getD [])

def quote (text : String) : String := "'" ++ text ++ "'"

def isPrintable (c : Char) : Bool := 32 ≤ c.toNat && c.toNat ≤ 126

def escapeByte (c : Char) : List Char :=
  match c with
  | '\x07' => ['\\', 'a']
  | '\x08' => ['\\', 'b']
  | '\t' => ['\\', 't']
  | '\n' => ['\\', 'n']
  | '\x0b' => ['\\', 'v']
  | '\x0c' => ['\\', 'f']
  | '\r' => ['\\', 'r']
  | c =>
    let digits := Nat.toDigits 8 c.toNat
    '\\' :: (List.replicate (3 - digits.length) '0' ++ digits)

def quoteName (name : String) : String :=
  let cs := name.toList
  let special := ['"', '$', '`', '\\', '!']
  if cs.contains '\'' && cs.all isPrintable && !cs.any special.contains then "\"" ++ name ++ "\""
  else String.ofList ('\'' :: go cs ++ ['\''])
where
  go (cs : List Char) : List Char :=
    match cs with
    | [] => []
    | c :: cs =>
      if c = '\'' then '\'' :: '\\' :: '\'' :: '\'' :: go cs
      else if isPrintable c then c :: go cs
      else ['\'', '$', '\''] ++ escaped (c :: cs)
  escaped : List Char → List Char
    | [] => []
    | c :: cs =>
      if isPrintable c && c ≠ '\'' then ['\'', '\''] ++ (c :: go cs)
      else if c = '\'' then ['\\', '\''] ++ escaped cs
      else escapeByte c ++ escaped cs

def isPlainName (name : String) : Bool :=
  let special : List Char :=
    [' ', '!', '"', '$', '&', '\'', '(', ')', '*', ';', '<', '=', '>', '?', '[', '\\', '^', '`',
     '|']
  match name.toList with
  | [] => false
  | c :: cs =>
    (c :: cs).all (fun c => isPrintable c && !special.contains c) && c ≠ '#' && c ≠ '~'

def quoteSpecial (name : String) : String :=
  if isPlainName name then name else quoteName name

/-! ### Options -/

structure Options where
  flags : String := ""
  valued : String := ""
  /-- Long options with the key that they stand for; some take a value. -/
  long : List (String × String × Bool) := []
  /-- Do the operands begin at the first argument that is no option? -/
  inOrder : Bool := false

structure Arguments where
  options : List (String × String) := []
  operands : List String := []

namespace Arguments

def has (a : Arguments) (key : String) : Bool :=
  a.options.any (·.1 == key)

def value? (a : Arguments) (key : String) : Option String :=
  a.options.reverse.lookup key

def values (a : Arguments) (key : String) : List String :=
  (a.options.filter (·.1 == key)).map (·.2)

def last? (a : Arguments) (keys : List String) : Option String :=
  (a.options.reverse.find? fun o => keys.contains o.1).map (·.1)

end Arguments

def Options.find? (o : Options) (name : String) : Except String (String × Bool) :=
  match o.long.lookup name with
  | some option => .ok option
  | none =>
    match o.long.filter fun l => l.1.startsWith name with
    | [(_, option)] => .ok option
    | [] => .error ("unrecognized option '--" ++ name ++ "'")
    | _ => .error ("option '--" ++ name ++ "' is ambiguous")

def Options.readLetters (o : Options) (rest : List String)
    : List Char → Except String (List (String × String) × List String)
  | [] => .ok ([], rest)
  | c :: cs =>
    if o.flags.toList.contains c then
      (o.readLetters rest cs).map fun (options, rest) => ((c.toString, "") :: options, rest)
    else if o.valued.toList.contains c then
      if !cs.isEmpty then .ok ([(c.toString, String.ofList cs)], rest)
      else
        match rest with
        | value :: rest => .ok ([(c.toString, value)], rest)
        | [] => .error ("option requires an argument -- '" ++ c.toString ++ "'")
    else .error ("invalid option -- '" ++ c.toString ++ "'")

def Options.read (o : Options) (fuel : Nat) (arguments : List String)
    : Except String Arguments :=
  match fuel, arguments with
  | 0, _ | _, [] => .ok {}
  | fuel + 1, a :: rest =>
    let add (options : List (String × String)) (rest : List String) : Except String Arguments :=
      (o.read fuel rest).map fun r => { r with options := options ++ r.options }
    match a.toList with
    | ['-', '-'] => .ok { operands := rest }
    | '-' :: '-' :: name =>
      let key := name.takeWhile (· != '=')
      match o.find? (String.ofList key) with
      | .error complaint => .error complaint
      | .ok (key', takesValue) =>
        match takesValue, name.drop key.length with
        | false, [] => add [(key', "")] rest
        | false, _ =>
          .error ("option '--" ++ String.ofList key ++ "' doesn't allow an argument")
        | true, _ :: value => add [(key', String.ofList value)] rest
        | true, [] =>
          match rest with
          | value :: rest => add [(key', value)] rest
          | [] => .error ("option '--" ++ String.ofList key ++ "' requires an argument")
    | '-' :: c :: cs =>
      match o.readLetters rest (c :: cs) with
      | .error complaint => .error complaint
      | .ok (options, rest) => add options rest
    | _ =>
      if o.inOrder then .ok { operands := a :: rest }
      else (o.read fuel rest).map fun r => { r with operands := a :: r.operands }

/-! ### Complaints -/

def complainAs (name text : String) : Action Unit :=
  complain (name ++ ": " ++ text)

def tryHelp (name : String) : Action Unit :=
  complain ("Try '" ++ name ++ " --help' for more information.")

def misuse (name text : String) (status : Nat := 1) : Action Nat := do
  complainAs name text
  tryHelp name
  pure status

def withOptions (o : Options) (status : Nat) (arguments : List String)
    (f : String → Arguments → Action Nat) : Action Nat := do
  let name := arguments.head?.getD ""
  match o.read (arguments.length + 1) (arguments.drop 1) with
  | .error complaint => misuse name complaint status
  | .ok a => f name a

def forEach (xs : List α) (f : α → Action Bool) (status : Nat := 1) : Action Nat := do
  let results ← xs.mapM f
  pure (if results.all id then 0 else status)

def failing (name what : String) (f : IoFault) : Action Bool := do
  complainAs name (what ++ ": " ++ f.systemText)
  pure false

/-! ### Texts -/

def withInput (path : String) (f : Nat → Action (Except IoFault α))
    : Action (Except IoFault α) := do
  if path = "-" then f 0
  else
    match ← openInput path with
    | .error fault => pure (.error fault)
    | .ok i =>
      let old := (← get).descriptors.lookup 63
      modify (·.bind 63 i)
      let r ← f 63
      modify (·.rebind 63 old)
      pure r

def contentOf (path : String) : Action (Except IoFault (List Char)) :=
  withInput path fun descriptor => do
    let (r, s) := (← get).take descriptor none
    set s
    pure r

def inputs (a : Arguments) : List String :=
  if a.operands.isEmpty then ["-"] else a.operands

/-- Does something with the content of every input, and complains about those that cannot be
read. -/
def forEachInput (name : String) (a : Arguments) (f : String → List Char → Action Bool)
    (status : Nat := 1) : Action Nat :=
  forEach (inputs a) (fun path => do
    match ← contentOf path with
    | .ok cs => f path cs
    | .error fault => failing name (quoteSpecial path) fault) status

def linesOf (cs : List Char) : List (List Char) :=
  match (((String.ofList cs).splitOn "\n").map String.toList).reverse with
  | [] :: lines => lines.reverse
  | lines => lines.reverse

def linesBy (ending : Char) (cs : List Char) : List (List Char) :=
  match (Text.segments ending cs).reverse with
  | [] :: pieces => pieces.reverse
  | pieces => pieces.reverse

def joinBy (ending : Char) (pieces : List (List Char)) : String :=
  String.ofList (pieces.flatMap (· ++ [ending]))

def endsLine (cs : List Char) : Bool :=
  cs.getLast? == some '\n'

def joinLines (lines : List (List Char)) : String :=
  String.ofList (lines.flatMap (· ++ ['\n']))

def number? (text : String) : Option Nat := Numeral.value? text.toList

/-- The number of milliseconds that a span of time has, which may be written in parts of a second
and with a unit behind it. -/
def milliseconds? (text : String) : Option Nat :=
  let cs := text.toList
  let number := cs.takeWhile fun c => c.isDigit || c == '.'
  let unit? : Option Nat :=
    match cs.drop number.length with
    | [] | ['s'] => some 1000
    | ['m'] => some 60000
    | ['h'] => some 3600000
    | ['d'] => some 86400000
    | _ => none
  let whole := number.takeWhile Char.isDigit
  let behind := number.drop (whole.length + 1)
  if !(whole ++ behind).all Char.isDigit || (whole ++ behind).isEmpty then none
  else
    unit?.map fun unit =>
      let digits (ds : List Char) : Nat := (Numeral.value? ds).getD 0
      digits whole * unit + digits behind * unit / Nat.pow 10 behind.length

def padLeft (width : Nat) (text : String) : String :=
  String.ofList (List.replicate (width - text.length) ' ') ++ text

end Utility
end FeatureRunner
