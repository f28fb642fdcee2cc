import FeatureRunner.Utility.AwkValue
import FeatureRunner.Utility.Wrappers

/-!
This module contains the utility `awk`, which does something for every line that fits. What a script
prints is kept back until another program is started or the script has ended. Every call of the
interpreter uses up one unit of fuel. It serves the outer layer, where commands start programs; no
result is about it.
-/

namespace FeatureRunner
namespace Utility
namespace Awk

open Shell

/-! ### Memory -/

/-- What a name stands for. An array without elements may still become a value. -/
inductive Cell where
  | value (v : Value)
  | array (index : Nat)

structure Output where
  name : String
  isCommand : Bool
  channel : Nat
  texts : List String := []

structure Input where
  name : String
  isCommand : Bool
  rest : List Char
  status : Nat

structure Memory where
  launch : Launcher
  functions : List Function
  globals : List (String × Cell)
  locals : List (String × Cell) := []
  arrays : Array Table
  line : String := ""
  fields : Array Value := #[]
  outputs : List Output := []
  inputs : List Input := []
  pending : List String := []
  current : Option (List Char) := none
  nextOperand : Nat := 1
  hasRead : Bool := false
  /-- The rules between whose first and last line the current one is. -/
  begun : List Nat := []
  status : Nat := 0
  seed : Nat := 0
  random : Nat := 1

inductive Stop where
  | break
  | continue
  | next
  | nextFile
  | exit
  | return (v : Value)
  | fault (complaint : String)
  | failure (complaint : String)

abbrev Eval := ExceptT Stop (StateT Memory Action)

inductive Place where
  | variable (name : String)
  | element (table : Nat) (key : String) (isWhole : Bool)
  | field (n : Nat)

namespace Eval

def act (a : Action α) : Eval α :=
  ExceptT.lift (StateT.lift a)

def update (name : String) (x : α) (xs : List (String × α)) : List (String × α) :=
  if (xs.lookup name).isSome then xs.map fun p => if p.1 = name then (name, x) else p
  else (name, x) :: xs

def cell? (name : String) : Eval (Option Cell) := do
  let m ← get
  pure ((m.locals.lookup name).or (m.globals.lookup name))

def setCell (name : String) (c : Cell) : Eval Unit := modify fun m =>
  if (m.locals.lookup name).isSome then { m with locals := update name c m.locals }
  else { m with globals := update name c m.globals }

def scalar (name : String) : Eval Value := do
  match ← cell? name with
  | some (.value v) => pure v
  | _ => pure .nothing

def setting (name : String) : Eval String := do
  match (← get).globals.lookup name with
  | some (.value v) => pure (v.toText "%.6g")
  | _ => pure ""

def textOf (v : Value) : Eval String := do
  match v with
  | .text s | .input s => pure s
  | .nothing => pure ""
  | .number x => pure (numberText (← setting "CONVFMT") x)

def newTable (t : Table) : Eval Nat := do
  let m ← get
  set { m with arrays := m.arrays.push t }
  pure m.arrays.size

def table (name : String) : Eval Nat := do
  match ← cell? name with
  | some (.array i) => pure i
  | _ =>
    let i ← newTable {}
    setCell name (.array i)
    pure i

def tableAt (i : Nat) : Eval Table := do
  pure (((← get).arrays[i]?).getD {})

def setTable (i : Nat) (t : Table) : Eval Unit :=
  modify fun m => { m with arrays := m.arrays.setIfInBounds i t }

/-! ### Lines -/

def setGlobal (name : String) (v : Value) : Eval Unit :=
  modify fun m => { m with globals := update name (.value v) m.globals }

def separator (text : String) : Eval Separator :=
  match Separator.ofText text with
  | .ok s => pure s
  | .error complaint => throw (.fault complaint)

def setLine (s : String) : Eval Unit := do
  let separator ← separator (← setting "FS")
  let parts :=
    match (← setting "RS").isEmpty, separator with
    | true, .char _ | true, .pattern _ =>
      (linesOf s.toList).flatMap separator.split
    | _, _ => separator.split s.toList
  modify fun m => { m with line := s, fields := (parts.map Value.input).toArray }
  setGlobal "NF" (.ofNat parts.length)

def setFields (fields : Array Value) : Eval Unit := do
  let texts ← fields.toList.mapM textOf
  let separator ← setting "OFS"
  modify fun m => { m with line := separator.intercalate texts, fields }
  setGlobal "NF" (.ofNat fields.size)

def field (n : Nat) : Eval Value := do
  let m ← get
  pure (if n = 0 then .input m.line else (m.fields[n - 1]?).getD .nothing)

def setField (n : Nat) (v : Value) : Eval Unit := do
  if n = 0 then setLine (← textOf v)
  else
    let fields := (← get).fields
    let more : Array Value := Array.replicate (n - fields.size) .nothing
    setFields ((fields ++ more).setIfInBounds (n - 1) v)

def load (p : Place) : Eval Value := do
  match p with
  | .variable name => scalar name
  | .field n => field n
  | .element i key isWhole =>
    let t ← tableAt i
    let v := (t.find? key).getD .nothing
    setTable i (t.put key isWhole v)
    pure v

def store (p : Place) (v : Value) : Eval Unit := do
  match p with
  | .variable name =>
    setCell name (.value v)
    if name = "NF" then
      let count := (wholePart v.toNumber).toNat
      let fields := (← get).fields
      let more : Array Value := Array.replicate (count - fields.size) .nothing
      setFields ((fields ++ more).extract 0 count)
  | .field n => setField n v
  | .element i key isWhole => setTable i ((← tableAt i).put key isWhole v)

/-! ### Output -/

def flush : Eval Unit := do
  let m ← get
  unless m.pending.isEmpty do
    set { m with pending := [] }
    act (print (String.join m.pending.reverse))

def runCommand (command : String) : Eval Nat := do
  let r ← act ((← get).launch ["/bin/sh", "-c", command])
  pure (match r with
    | .ok (.exited n) => n
    | .ok (.killed n) => 256 + n
    | .error _ => 127)

def feed (command text : String) : Eval Nat := do
  let s ← act get
  let old := s.descriptors.lookup 0
  let (i, s) := s.add (.source text.toList)
  act (set (s.bind 0 i))
  let status ← runCommand command
  act (modify (·.rebind 0 old))
  pure status

def outputOf (command : String) : Eval (Nat × String) := do
  let launch := (← get).launch
  let (r, text) ← act (collecting none (launch ["/bin/sh", "-c", command]))
  pure (match r with
    | .ok (.exited n) => (n, text)
    | .ok (.killed n) => (256 + n, text)
    | .error _ => (127, text))

def printTo (name : String) (isCommand appends : Bool) (text : String) : Eval Unit := do
  if !isCommand && (name = "/dev/stdout" || name = "-") then
    modify fun m => { m with pending := text :: m.pending }
  else if !isCommand && name = "/dev/stderr" then act (Shell.write 2 text)
  else
    let output ←
      match (← get).outputs.find? fun o => o.name == name && o.isCommand == isCommand with
      | some o => pure o
      | none =>
        let o : Output ←
          if isCommand then do
            flush
            pure { name, isCommand, channel := 0 }
          else
            match ← act (openOutput name { writes := true, appends } (!appends) false) with
            | .ok channel => pure { name, isCommand, channel }
            | .error f =>
              throw (.failure ("cannot open \"" ++ name ++ "\" for output (" ++ f.systemText ++ ")"))
        modify fun m => { m with outputs := m.outputs ++ [o] }
        pure o
    if isCommand then
      modify fun m =>
        { m with outputs := m.outputs.map fun o =>
            if o.name == name && o.isCommand then { o with texts := text :: o.texts } else o }
    else
      act do
        let old := (← get).descriptors.lookup 62
        modify (·.bind 62 output.channel)
        Shell.write 62 text
        modify (·.rebind 62 old)

def finishOutput (o : Output) : Eval Nat := do
  if o.isCommand then feed o.name (String.join o.texts.reverse) else pure 0

def close (name : String) : Eval Int := do
  let m ← get
  let outputs := m.outputs.filter (·.name == name)
  let inputs := m.inputs.filter (·.name == name)
  set { m with
    outputs := m.outputs.filter (·.name != name), inputs := m.inputs.filter (·.name != name) }
  match outputs, inputs with
  | [], [] => pure (-1)
  | o :: _, _ =>
    flush
    pure (← finishOutput o)
  | [], i :: _ => pure i.status

/-! ### Input -/

def givenValue (fuel : Nat) (cs : List Char) : List Char :=
  match fuel, cs with
  | 0, _ | _, [] => []
  | fuel + 1, '\\' :: '"' :: cs => '"' :: givenValue fuel cs
  | fuel + 1, '\\' :: cs =>
    let (c, rest) := escapeAt cs
    c :: givenValue fuel rest
  | fuel + 1, c :: cs => c :: givenValue fuel cs

def givenAssignment? (text : String) : Option (String × Value) :=
  match assignment? text with
  | some (name, value) =>
    if name.toList.head?.any isNameStart && name.toList.all isNameChar then
      some (name, .input (String.ofList (givenValue (value.length + 1) value.toList)))
    else none
  | none => none

def openCurrent (path : String) : Eval Unit := do
  match ← act (contentOf path) with
  | .ok cs =>
    modify fun m => { m with current := some cs, hasRead := true }
    setGlobal "FILENAME" (.text path)
    setGlobal "FNR" (.number 0)
  | .error .isADirectory => throw (.failure "read error (Is a directory)")
  | .error f => throw (.failure ("cannot open \"" ++ path ++ "\" (" ++ f.systemText ++ ")"))

def openNext (fuel : Nat) : Eval Bool := do
  match fuel with
  | 0 => pure false
  | fuel + 1 =>
    let m ← get
    let count := (wholePart (← scalar "ARGC").toNumber).toNat
    if m.nextOperand < count then
      set { m with nextOperand := m.nextOperand + 1 }
      let t ← tableAt (← table "ARGV")
      let operand ← textOf ((t.find? (Numeral.decimal m.nextOperand)).getD .nothing)
      if operand.isEmpty then openNext fuel
      else
        match givenAssignment? operand with
        | some (name, v) =>
          store (.variable name) v
          openNext fuel
        | none =>
          openCurrent operand
          pure true
    else if m.hasRead then pure false
    else
      openCurrent "-"
      pure true

def record (fuel : Nat) : Eval (Option String) := do
  match fuel with
  | 0 => pure none
  | fuel + 1 =>
    let opened : Eval (Option String) := do
      modify fun m => { m with current := none }
      let count := (wholePart (← scalar "ARGC").toNumber).toNat
      if ← openNext (count + 2) then record fuel else pure none
    match (← get).current with
    | none => opened
    | some cs =>
      match recordAt (← separator (← setting "RS")) cs with
      | some (r, rest) =>
        modify fun m => { m with current := some rest }
        pure (some (String.ofList r))
      | none => opened

def nextRecord : Eval (Option String) := do
  match ← record ((wholePart (← scalar "ARGC").toNumber).toNat + 3) with
  | some r =>
    setGlobal "NR" (.number ((← scalar "NR").toNumber + 1))
    setGlobal "FNR" (.number ((← scalar "FNR").toNumber + 1))
    pure (some r)
  | none => pure none

/-- Takes the next record of an input that a script has opened itself, or tells that there is no
such input. -/
def recordOf (name : String) (isCommand : Bool) : Eval (Except Int String) := do
  let opened : Option Input ←
    match (← get).inputs.find? fun i => i.name == name && i.isCommand == isCommand with
    | some i => pure (some i)
    | none =>
      if isCommand then do
        flush
        let (status, text) ← outputOf name
        pure (some { name, isCommand, rest := text.toList, status })
      else
        match ← act (contentOf name) with
        | .ok rest => pure (some { name, isCommand, rest, status := 0 })
        | .error _ => pure none
  match opened with
  | none => pure (.error (-1))
  | some i =>
    let keep (rest : List Char) : Eval Unit := modify fun m =>
      { m with inputs := { i with rest } ::
          m.inputs.filter fun j => !(j.name == name && j.isCommand == isCommand) }
    match recordAt (← separator (← setting "RS")) i.rest with
    | some (r, rest) =>
      keep rest
      pure (.ok (String.ofList r))
    | none =>
      keep []
      pure (.error 0)

/-! ### Operations -/

def remainder (x y : Float) : Float :=
  if x == x.floor && y == y.floor && y != 0 && x.abs < 9e18 && y.abs < 9e18 then
    Float.ofInt (Int.tmod (wholePart x) (wholePart y))
  else
    let q := x / y
    x - y * (if q < 0 then q.ceil else q.floor)

def arithmetic (operator : String) (x y : Float) : Float :=
  match operator with
  | "+" => x + y
  | "-" => x - y
  | "*" => x * y
  | "/" => x / y
  | "%" => remainder x y
  | _ => x.pow y

def holds (operator : String) (o : Ordering) : Bool :=
  match operator with
  | "<" => o == .lt
  | "<=" => o != .gt
  | "==" => o == .eq
  | "!=" => o != .eq
  | ">" => o == .gt
  | _ => o != .lt

def part (cs : List Char) (first : Float) (length : Option Float) : List Char :=
  let start := wholePart first
  let stop : Int :=
    match length with
    | some l => start + wholePart l
    | none => cs.length + 1
  let front := max start 1
  (cs.drop (front - 1).toNat).take (stop - front).toNat

/-- The position of a text in another one, counted from one on; zero means that it is not there. -/
def position (word : List Char) (n : Nat) : List Char → Nat
  | [] => if word.isEmpty then n else 0
  | c :: cs => if word.isPrefixOf (c :: cs) then n else position word (n + 1) cs

def numeric? (name : String) : Option (Float → Float) :=
  match name with
  | "sin" => some Float.sin
  | "cos" => some Float.cos
  | "exp" => some Float.exp
  | "log" => some Float.log
  | "sqrt" => some Float.sqrt
  | "int" => some fun x => if x < 0 then x.ceil else x.floor
  | _ => none

def format (name : String) (values : List Value) : Eval (String × Option String) := do
  match values with
  | [] => pure ("", none)
  | f :: values =>
    let format ← textOf f
    let cs := format.toList
    let number ← setting "CONVFMT"
    let r := formatValues (·.toText number) (cs.length + 1) 0 [] cs values
    pure (String.ofList r.output.reverse, r.fault.map fun c => c ++ name ++ "(\"" ++ format ++ "\")")

mutual

def value (fuel : Nat) (e : Expression) : Eval Value :=
  match fuel with
  | 0 => throw .exit
  | fuel + 1 => do
    match e with
    | .number x => pure (.number x)
    | .text s => pure (.text s)
    | .pattern r => pure (.ofBool (r.search? false (← get).line.toList).isSome)
    | .variable name => scalar name
    | .element array indexes => load (← placeOf fuel (.element array indexes))
    | .field n => load (← placeOf fuel (.field n))
    | .assign operator place e =>
      let p ← placeOf fuel place
      let v ← value fuel e
      let v ←
        match operator with
        | some o => do pure (.number (arithmetic o (← load p).toNumber v.toNumber))
        | none => pure v
      store p v
      pure v
    | .step isUp isBefore place =>
      let p ← placeOf fuel place
      let x := (← load p).toNumber
      let y := if isUp then x + 1 else x - 1
      store p (.number y)
      pure (.number (if isBefore then y else x))
    | .choice condition yes no =>
      if (← value fuel condition).isTrue then value fuel yes else value fuel no
    | .operation "&&" a b =>
      if (← value fuel a).isTrue then do pure (.ofBool (← value fuel b).isTrue)
      else pure (.ofBool false)
    | .operation "||" a b =>
      if (← value fuel a).isTrue then pure (.ofBool true)
      else do pure (.ofBool (← value fuel b).isTrue)
    | .operation o a b =>
      let x ← value fuel a
      let y ← value fuel b
      if o = "" then pure (.text ((← textOf x) ++ (← textOf y)))
      else if o ∈ ["<", "<=", "==", "!=", ">", ">="] then
        pure (.ofBool (holds o (x.compare (← setting "CONVFMT") y)))
      else pure (.number (arithmetic o x.toNumber y.toNumber))
    | .change o a =>
      let v ← value fuel a
      match o with
      | "!" => pure (.ofBool !v.isTrue)
      | "-" => pure (.number (-v.toNumber))
      | "+" => pure (.number v.toNumber)
      | _ => pure v
    | .isIn indexes array =>
      let (key, _) ← keyOf fuel indexes
      pure (.ofBool ((← tableAt (← table array)).find? key).isSome)
    | .fits negated a pattern =>
      let cs := (← textOf (← value fuel a)).toList
      let r ← patternFor fuel pattern
      pure (.ofBool ((r.search? false cs).isSome != negated))
    | .builtin name arguments => builtin fuel name arguments
    | .call name arguments => call fuel name arguments
    | .getLine source place =>
      let p? ←
        match place with
        | some e => some <$> placeOf fuel e
        | none => pure none
      let r : Except Int String ←
        match source with
        | .input => do
          match ← nextRecord with
          | some r => pure (.ok r)
          | none => pure (.error 0)
        | .file e => do recordOf (← textOf (← value fuel e)) false
        | .command e => do
          let r ← recordOf (← textOf (← value fuel e)) true
          if r.toOption.isSome then setGlobal "NR" (.number ((← scalar "NR").toNumber + 1))
          pure r
      match r, p? with
      | .error n, _ => pure (.ofInt n)
      | .ok s, some p =>
        store p (.input s)
        pure (.number 1)
      | .ok s, none =>
        setLine s
        pure (.number 1)
termination_by fuel

def placeOf (fuel : Nat) (e : Expression) : Eval Place :=
  match fuel with
  | 0 => throw .exit
  | fuel + 1 => do
    match e with
    | .variable name => pure (.variable name)
    | .element array indexes =>
      let (key, isWhole) ← keyOf fuel indexes
      pure (.element (← table array) key isWhole)
    | .field e =>
      let n := wholePart (← value fuel e).toNumber
      if n < 0 then
        throw (.fault ("negative field index $-" ++ Numeral.decimal n.natAbs))
      pure (.field n.toNat)
    | .change _ e => placeOf fuel e
    | _ => throw (.fault "assignment to a constant")
termination_by fuel

def keyOf (fuel : Nat) (indexes : List Expression) : Eval (String × Bool) :=
  match fuel with
  | 0 => throw .exit
  | fuel + 1 => do
    match ← indexes.mapM fun e => value fuel e with
    | [.number x] =>
      match wholeText? x with
      | some s => pure (s, true)
      | none => pure (← textOf (.number x), false)
    | vs =>
      let texts ← vs.mapM textOf
      pure ((← setting "SUBSEP").intercalate texts, false)
termination_by fuel

def patternFor (fuel : Nat) (e : Expression) : Eval Regex :=
  match fuel with
  | 0 => throw .exit
  | fuel + 1 => do
    match e with
    | .pattern r | .change "" (.pattern r) => pure r
    | e =>
      match patternOf (← textOf (← value fuel e)).toList with
      | .ok r => pure r
      | .error complaint => throw (.fault complaint)
termination_by fuel

def builtin (fuel : Nat) (name : String) (arguments : List Expression) : Eval Value :=
  match fuel with
  | 0 => throw .exit
  | fuel + 1 => do
    let text (e : Expression) : Eval String := do textOf (← value fuel e)
    match name, arguments with
    | "length", [] => pure (.ofNat (← get).line.length)
    | "length", [.variable v] =>
      match ← cell? v with
      | some (.array i) => pure (.ofNat (← tableAt i).size)
      | _ => pure (.ofNat (← textOf (← scalar v)).length)
    | "length", e :: _ => pure (.ofNat (← text e).length)
    | "substr", e :: first :: length =>
      let s ← text e
      let first := (← value fuel first).toNumber
      let length ←
        match length with
        | l :: _ => do pure (some (← value fuel l).toNumber)
        | [] => pure none
      pure (.text (String.ofList (part s.toList first length)))
    | "index", [a, b] =>
      let s ← text a
      pure (.ofNat (position (← text b).toList 1 s.toList))
    | "split", e :: .variable array :: more =>
      let s ← text e
      let sep ←
        match more with
        | .pattern r :: _ => pure (Separator.pattern r)
        | e :: _ => do separator (← text e)
        | [] => do separator (← setting "FS")
      let parts := sep.split s.toList
      setTable (← table array) (.ofTexts parts)
      pure (.ofNat parts.length)
    | "sub", pattern :: new :: place => replace fuel false pattern new place.head?
    | "gsub", pattern :: new :: place => replace fuel true pattern new place.head?
    | "match", [e, pattern] =>
      let cs := (← text e).toList
      match (← patternFor fuel pattern).search? false cs with
      | some m =>
        setGlobal "RSTART" (.ofNat (m.start + 1))
        setGlobal "RLENGTH" (.ofNat (m.stop - m.start))
        pure (.ofNat (m.start + 1))
      | none =>
        setGlobal "RSTART" (.number 0)
        setGlobal "RLENGTH" (.number (-1))
        pure (.number 0)
    | "sprintf", es =>
      match ← format "sprintf" (← es.mapM fun e => value fuel e) with
      | (s, none) => pure (.text s)
      | (_, some complaint) => throw (.fault complaint)
    | "tolower", [e] => do pure (.text ((← text e).map Char.toLower))
    | "toupper", [e] => do pure (.text ((← text e).map Char.toUpper))
    | "atan2", [a, b] =>
      let y := (← value fuel a).toNumber
      pure (.number (y.atan2 (← value fuel b).toNumber))
    | "rand", _ =>
      let m ← get
      let next := (m.random * 1103515245 + 12345) % 2147483648
      set { m with random := next }
      pure (.number (next.toFloat / 2147483648))
    | "srand", es =>
      let old := (← get).seed
      let new ←
        match es with
        | e :: _ => do pure (wholePart (← value fuel e).toNumber).toNat
        | [] => do pure ((← act get).disk.time / 1000)
      modify fun m => { m with seed := new, random := new }
      pure (.ofNat old)
    | "systime", _ => do pure (.ofNat ((← act get).disk.time / 1000))
    | "system", e :: _ =>
      let command ← text e
      flush
      pure (.ofNat (← runCommand command))
    | "close", e :: _ => do pure (.ofInt (← close (← text e)))
    | "fflush", _ =>
      flush
      pure (.number 0)
    | name, e :: _ =>
      let x := (← value fuel e).toNumber
      match numeric? name with
      | some f => pure (.number (f x))
      | none => throw (.fault ("wrong number of arguments in call to " ++ name))
    | name, [] => throw (.fault ("wrong number of arguments in call to " ++ name))
termination_by fuel

def replace (fuel : Nat) (all : Bool) (pattern new : Expression) (place : Option Expression)
    : Eval Value :=
  match fuel with
  | 0 => throw .exit
  | fuel + 1 => do
    let r ← patternFor fuel pattern
    let new := (← textOf (← value fuel new)).toList
    let place := place.getD (.field (.number 0))
    let p? ←
      match place with
      | .variable _ | .element _ _ | .field _ => some <$> placeOf fuel place
      | _ => pure none
    let old ←
      match p? with
      | some p => load p
      | none => value fuel place
    let cs := (← textOf old).toList
    let found := r.matches' false cs
    let found := if all then found else found.take 1
    if let some p := p? then
      unless found.isEmpty do
        store p (.text (String.ofList (replaceMatches new cs 0 found)))
    pure (.ofNat found.length)
termination_by fuel

def call (fuel : Nat) (name : String) (arguments : List Expression) : Eval Value :=
  match fuel with
  | 0 => throw .exit
  | fuel + 1 => do
    match (← get).functions.find? (·.name == name) with
    | none => throw (.fault ("function " ++ name ++ " never defined"))
    | some f =>
      let given ← arguments.mapM fun e => argument fuel e
      let missing := List.replicate (f.parameters.length - given.length) (Cell.value .nothing)
      let outer := (← get).locals
      modify fun m => { m with locals := f.parameters.zip (given ++ missing) }
      let result ← tryCatch (do
        statement fuel f.body
        pure Value.nothing) fun stop =>
          match stop with
          | .return v => pure v
          | stop => throw stop
      modify fun m => { m with locals := outer }
      pure result
termination_by fuel

/-- Finds out what a function is given: an array itself, and anything else as a value. A variable
that holds nothing may be used as an array. -/
def argument (fuel : Nat) (e : Expression) : Eval Cell :=
  match fuel with
  | 0 => throw .exit
  | fuel + 1 => do
    match e with
    | .variable name =>
      match ← cell? name with
      | some (.array i) => pure (.array i)
      | none | some (.value .nothing) => do pure (.array (← table name))
      | some (.value v) => pure (.value v)
    | e => do pure (.value (← value fuel e))
termination_by fuel

def statement (fuel : Nat) (s : Statement) : Eval Unit :=
  match fuel with
  | 0 => throw .exit
  | fuel + 1 => do
    match s with
    | .block ss => ss.forM fun s => statement fuel s
    | .evaluate e =>
      let _ ← value fuel e
    | .print es target =>
      let vs ← es.mapM fun e => value fuel e
      let number ← setting "OFMT"
      let separator ← setting "OFS"
      let line := (← get).line
      let text := if es.isEmpty then line else separator.intercalate (vs.map (·.toText number))
      send fuel target (text ++ (← setting "ORS"))
    | .format es target =>
      let (text, fault) ← format "printf" (← es.mapM fun e => value fuel e)
      send fuel target text
      if let some complaint := fault then throw (.fault complaint)
    | .conditional condition yes no =>
      if (← value fuel condition).isTrue then statement fuel yes
      else if let some no := no then statement fuel no
    | .loop isFirst condition body =>
      if isFirst then
        if (← value fuel condition).isTrue then repeatLoop fuel condition body none
      else repeatLoop fuel condition body none
    | .count start condition step body =>
      if let some s := start then statement fuel s
      let condition := condition.getD (.number 1)
      if (← value fuel condition).isTrue then repeatLoop fuel condition body step
    | .each name array body =>
      let i ← table array
      let t := (← tableAt i).settled
      setTable i t
      forEachKey fuel name body t.keys
    | .break => throw .break
    | .continue => throw .continue
    | .next => throw .next
    | .nextFile => throw .nextFile
    | .exit e =>
      if let some e := e then
        let status := wholePart (← value fuel e).toNumber
        modify fun m => { m with status := (status % 256).toNat }
      throw .exit
    | .return none => throw (.return .nothing)
    | .return (some e) => throw (.return (← value fuel e))
    | .delete array [] => setTable (← table array) {}
    | .delete array indexes =>
      let (key, _) ← keyOf fuel indexes
      let i ← table array
      setTable i ((← tableAt i).erase key)
termination_by fuel

def send (fuel : Nat) (target : Target) (text : String) : Eval Unit :=
  match fuel with
  | 0 => throw .exit
  | fuel + 1 => do
    match target with
    | .output => modify fun m => { m with pending := text :: m.pending }
    | .file e appends => printTo (← textOf (← value fuel e)) false appends text
    | .command e => printTo (← textOf (← value fuel e)) true false text
termination_by fuel

def turn (fuel : Nat) (body : Statement) : Eval Bool :=
  match fuel with
  | 0 => throw .exit
  | fuel + 1 =>
    tryCatch (do
      statement fuel body
      pure true) fun stop =>
        match stop with
        | .break => pure false
        | .continue => pure true
        | stop => throw stop
termination_by fuel

def repeatLoop (fuel : Nat) (condition : Expression) (body : Statement)
    (step : Option Statement) : Eval Unit :=
  match fuel with
  | 0 => throw .exit
  | fuel + 1 => do
    if ← turn fuel body then
      if let some s := step then statement fuel s
      if (← value fuel condition).isTrue then repeatLoop fuel condition body step
termination_by fuel

def forEachKey (fuel : Nat) (name : String) (body : Statement) (keys : List String) : Eval Unit :=
  match fuel, keys with
  | 0, _ => throw .exit
  | _, [] => pure ()
  | fuel + 1, key :: keys => do
    store (.variable name) (.text key)
    if ← turn fuel body then forEachKey fuel name body keys
termination_by fuel

end

/-! ### Scripts -/

def ruleFuel : Nat := 10000000

def applies (n : Nat) (o : Occasion) : Eval Bool := do
  match o with
  | .start | .finish => pure false
  | .always => pure true
  | .on condition => do pure (← value ruleFuel condition).isTrue
  | .between first last =>
    let begun := (← get).begun
    if begun.contains n || (← value ruleFuel first).isTrue then
      let isLast := (← value ruleFuel last).isTrue
      modify fun m =>
        { m with begun := if isLast then begun.filter (· != n) else n :: begun.filter (· != n) }
      pure true
    else pure false

def records (fuel : Nat) (rules : List (Nat × Rule)) : Eval Unit := do
  match fuel with
  | 0 => pure ()
  | fuel + 1 =>
    match ← nextRecord with
    | none => pure ()
    | some r =>
      setLine r
      tryCatch (rules.forM fun (n, rule) => do
        if ← applies n rule.occasion then statement ruleFuel rule.body) fun stop =>
          match stop with
          | .next => pure ()
          | .nextFile => modify fun m => { m with current := none }
          | stop => throw stop
      records fuel rules

def special (rules : List Rule) (isStart : Bool) : Eval Unit :=
  rules.forM fun rule =>
    match rule.occasion, isStart with
    | .start, true | .finish, false => statement ruleFuel rule.body
    | _, _ => pure ()

def untilExit (e : Eval Unit) : Eval Unit :=
  tryCatch e fun stop =>
    match stop with
    | .exit => pure ()
    | stop => throw stop

def complainStop (name : String) (stop : Stop) : Eval Unit := do
  match stop with
  | .fault complaint =>
    act (complainAs name ("run time error: " ++ complaint ++ "\n\tFILENAME=\"" ++
      (← setting "FILENAME") ++ "\" FNR=" ++ (← setting "FNR") ++ " NR=" ++ (← setting "NR")))
    modify fun m => { m with status := 2 }
  | .failure complaint =>
    act (complainAs name complaint)
    modify fun m => { m with status := 2 }
  | _ => pure ()

def whole (name : String) (rules : List Rule) : Eval Unit := do
  let isFor (start : Bool) (r : Rule) : Bool :=
    match r.occasion with
    | .start => start
    | .finish => false
    | _ => !start
  let reads := rules.any fun r => match r.occasion with | .start => false | _ => true
  tryCatch (do
    untilExit do
      special rules true
      if reads then
        let numbered := ((List.range rules.length).zip rules).filter fun r => isFor false r.2
        records ruleFuel numbered
    untilExit (special rules false)) (complainStop name)
  for o in (← get).outputs do
    let _ ← finishOutput o
  flush

end Eval

def startMemory (launch : Launcher) (script : Script) (arguments : List String)
    (environment : List (String × String)) : Memory :=
  let texts := [("FS", " "), ("OFS", " "), ("RS", "\n"), ("ORS", "\n"), ("SUBSEP", "\x1c"),
    ("CONVFMT", "%.6g"), ("OFMT", "%.6g"), ("FILENAME", "")]
  let numbers : List (String × Float) :=
    [("NR", 0), ("NF", 0), ("FNR", 0), ("RSTART", 0), ("RLENGTH", -1)]
  let given : Table := ((List.range arguments.length).zip arguments).foldl (fun t (i, s) =>
    t.put (Numeral.decimal i) true (.input s)) {}
  let bindings : Table := environment.foldl (fun t (name, value) =>
    t.put name false (.input value)) {}
  { launch, functions := script.functions
    arrays := #[given, bindings]
    globals := (texts.map fun (name, s) => (name, .value (.text s))) ++
      (numbers.map fun (name, x) => (name, .value (.number x))) ++
      [("ARGC", .value (.ofNat arguments.length)), ("ARGV", .array 0), ("ENVIRON", .array 1)] }

structure Request where
  scripts : List String := []
  settings : List (String × Value) := []
  operands : List String := []

def readArguments (fuel : Nat) (r : Request) (arguments : List String) : Except String Request :=
  match fuel, arguments with
  | 0, _ => .ok r
  | _, [] => .ok r
  | fuel + 1, a :: rest =>
    let separator (s : String) : String × Value :=
      ("FS", .text (String.ofList (Eval.givenValue (s.length + 1) s.toList)))
    let option (letter : Char) (value : String) (rest : List String) : Except String Request :=
      match letter with
      | 'f' => readArguments fuel { r with scripts := r.scripts ++ [value] } rest
      | 'F' => readArguments fuel { r with settings := r.settings ++ [separator value] } rest
      | _ =>
        match Eval.givenAssignment? value with
        | some s => readArguments fuel { r with settings := r.settings ++ [s] } rest
        | none => .error ("improper assignment: -v " ++ value)
    match a.toList with
    | ['-', '-'] => .ok { r with operands := rest }
    | '-' :: c :: cs =>
      if c ∈ ['f', 'F', 'v'] then
        if !cs.isEmpty then option c (String.ofList cs) rest
        else
          match rest with
          | value :: rest => option c value rest
          | [] => .error ("option -" ++ c.toString ++ " lacks argument")
      else .error ("not an option: " ++ a)
    | _ => .ok { r with operands := arguments }

end Awk

open Shell in
def awk : Wrapper := fun launch arguments => do
  let name := baseName (arguments.head?.getD "awk")
  let failWith (complaint : String) : Action Nat := do
    complainAs name complaint
    pure 2
  match Awk.readArguments (arguments.length + 1) {} (arguments.drop 1) with
  | .error complaint => failWith complaint
  | .ok r =>
    let sources : List (Except String (List Char)) ← r.scripts.mapM fun path => do
      match ← contentOf path with
      | .ok cs => pure (.ok cs)
      | .error f => pure (.error ("cannot open \"" ++ path ++ "\" (" ++ f.systemText ++ ")"))
    let isGiven := !r.scripts.isEmpty
    match sources.mapM id, r.operands with
    | .error complaint, _ => failWith complaint
    | .ok [], [] =>
      complain ("Usage: mawk [Options] [Program] [file ...]")
      pure 0
    | .ok sources, operands =>
      let text :=
        if isGiven then sources.flatMap fun cs => if endsLine cs then cs else cs ++ ['\n']
        else (operands.head?.getD "").toList
      let operands := if isGiven then operands else operands.drop 1
      match Awk.readScript text with
      | .error complaint => failWith complaint
      | .ok script =>
        let memory := Awk.startMemory launch script (name :: operands) (← get).environment
        let body : Awk.Eval Unit := do
          r.settings.forM fun (name, v) => Awk.Eval.setGlobal name v
          Awk.Eval.whole name script.rules
        let (_, memory) ← (ExceptT.run body).run memory
        pure memory.status

end Utility
end FeatureRunner
