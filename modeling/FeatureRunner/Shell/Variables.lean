import FeatureRunner.Shell.Source
import FeatureRunner.Shell.State

/-!
This module contains the ways in which a command can end early, and the variables of a shell. It
serves the outer layer, which starts real commands; no result is about it.
-/

namespace FeatureRunner
namespace Shell

inductive Interrupt where
  | exit
  | return
  | leave (loops : Nat)
  /-- Go on with the next turn of the loop that many loops further out. -/
  | next (loops : Nat)
  /-- An error after which only a command that is not built into the shell as a special one goes
  on. -/
  | failed
  | killed (signal : Signal)
  deriving DecidableEq

abbrev Run := ExceptT Interrupt Action

def attempt (action : Run α) : Run (Except Interrupt α) :=
  ExceptT.lift action.run

def setStatus (status : Nat) : Action Unit :=
  modify fun s => { s with status }

def failWith (text : String) (status : Nat := 2) : Run α := do
  complainHere text
  setStatus status
  throw .failed

/-- Gives up with a complaint about a value. In the extended dialect the line that follows is carried
out all the same. -/
def failValue (text : String) : Run α := do
  failWith text (if (← get).isExtended then 1 else 2)

def failMissing (text : String) : Run α := do
  let s ← get
  if s.isExtended then
    complainHere text
    setStatus (if s.option 'c' then 127 else 1)
    throw .exit
  else failWith text

namespace State

def getVariable (s : State) (name : String) : Variable :=
  (s.bindings.lookup name).getD {}

def replaceVariable (name : String) (v : Variable)
    : List (String × Variable) → List (String × Variable)
  | [] => [(name, v)]
  | (n, w) :: rest =>
    if n = name then (name, v) :: rest else (n, w) :: replaceVariable name v rest

def setVariable (s : State) (name : String) (v : Variable) : State :=
  { s with bindings := replaceVariable name v s.bindings }

def removeVariable (s : State) (name : String) : State :=
  { s with bindings := s.bindings.filter (·.1 != name) }

def setValue (s : State) (name value : String) : State :=
  let v := s.getVariable name
  let v := { v with value := some value, isExported := v.isExported || s.option 'a' }
  let v := { v with elements := v.elements.map fun es => (0, value) :: es.filter (·.1 != 0) }
  let s := s.setVariable name v
  if name = "OPTIND" then { s with optionOffset := none } else s

def separators (s : State) : List Char :=
  match (s.getVariable "IFS").value with
  | some text => text.toList
  | none => [' ', '\t', '\n']

def joint (s : State) : List Char :=
  match (s.getVariable "IFS").value with
  | some text => text.toList.take 1
  | none => [' ']

def optionText (s : State) : String :=
  if s.isExtended then
    String.ofList ("abefhkmnptuvx".toList.filter fun c => c = 'h' || s.option c) ++ "B" ++
      String.ofList ("CEHTcs".toList.filter s.option)
  else String.ofList ("efIimnsxvVECabu".toList.filter s.option)

def lookup? (s : State) (name : String) : Option String :=
  match name with
  | "?" => some (Numeral.decimal s.status)
  | "#" => some (Numeral.decimal s.arguments.length)
  | "0" => some s.name
  | "$" => some (Numeral.decimal s.shellId)
  | "!" => s.lastJob.map Numeral.decimal
  | "-" => some s.optionText
  | _ =>
    match Numeral.value? name.toList with
    | some 0 => some s.name
    | some n => s.arguments[n - 1]?
    | none =>
      match s.isExtended, name with
      | true, "LINENO" => some (Numeral.decimal s.line)
      | true, "UID" | true, "EUID" => some "0"
      | true, "BASH" => some "/usr/bin/bash"
      | true, "BASH_SOURCE" => some s.name
      | true, "BASHPID" => some (Numeral.decimal s.id)
      | true, "BASH_VERSION" => some "5.2.15(1)-release"
      | true, "OSTYPE" => some "linux-gnu"
      | true, "SECONDS" | true, "BASH_SUBSHELL" => some "0"
      | true, "RANDOM" => some (Numeral.decimal ((s.disk.time * 7919 + s.line * 104729) % 32768))
      | true, "FUNCNAME" => s.called.head?
      | true, "PIPESTATUS" => (s.partStatuses.head?.getD s.status |> Numeral.decimal)
      | _, _ =>
        let v := s.getVariable name
        match v.elements with
        | some es => es.lookup 0
        | none => v.value

def putElement (i : Nat) (value : String) : List (Nat × String) → List (Nat × String)
  | [] => [(i, value)]
  | (j, w) :: rest =>
    if i = j then (i, value) :: rest
    else if i < j then (i, value) :: (j, w) :: rest
    else (j, w) :: putElement i value rest

def inPlaces (texts : List String) : List (Nat × String) :=
  texts.zipIdx.map fun (t, i) => (i, t)

def elements (s : State) (name : String) : List (Nat × String) :=
  let v := s.getVariable name
  match v.elements with
  | some es => es
  | none =>
    match s.isExtended, name with
    | true, "PIPESTATUS" =>
      inPlaces ((if s.partStatuses.isEmpty then [s.status] else s.partStatuses).map Numeral.decimal)
    | true, "FUNCNAME" =>
      inPlaces (s.called ++ if s.called.isEmpty || s.option 'c' then [] else ["main"])
    | true, "BASH_SOURCE" => [(0, s.name)]
    | true, "DIRSTACK" => inPlaces (s.directory :: s.visited)
    | _, _ => inPlaces v.value.toList

def keyPlace (key : String) : Nat :=
  let sum := key.toList.foldl (fun sum c => ((sum * 16777619) % 4294967296) ^^^ c.toNat) 2166136261
  let bytes := key.toList.foldl (fun n c => n * 256 + c.toNat) 1
  (sum % 1024) * Nat.pow 256 1024 + bytes

def placeKey (place : Nat) : String :=
  String.ofList (go 1024 (place % Nat.pow 256 1024) [])
where
  go (fuel n : Nat) (cs : List Char) : List Char :=
    match fuel with
    | 0 => cs
    | fuel + 1 => if n ≤ 1 then cs else go fuel (n / 256) (Char.ofNat (n % 256) :: cs)

def indexText (s : State) (name : String) (place : Nat) : String :=
  if (s.getVariable name).isKeyed then placeKey place else Numeral.decimal place

def elementIndex (s : State) (name : String) (i : Int) : Nat :=
  if i < 0 then ((((s.elements name).getLast?.map (·.1 + 1)).getD 0 : Nat) + i).toNat
  else i.toNat

def setElement (s : State) (name : String) (i : Nat) (value : String) : State :=
  s.setVariable name
    { s.getVariable name with elements := some (putElement i value (s.elements name)) }

def splitElement? (name : String) : Option (String × String) :=
  let cs := name.toList
  let front := cs.takeWhile (· != '[')
  match cs.drop front.length with
  | '[' :: rest =>
    if rest.getLast? = some ']' then some (String.ofList front, String.ofList rest.dropLast)
    else none
  | _ => none

def splitIndex? (name : String) : Option (String × Int) :=
  let cs := name.toList
  let front := cs.takeWhile (· != '[')
  match cs.drop front.length with
  | '[' :: rest =>
    match rest.dropLast with
    | '-' :: ds => (Numeral.value? ds).map fun n => (String.ofList front, -(n : Int))
    | ds => (Numeral.value? ds).map fun n => (String.ofList front, (n : Int))
  | _ => none

def hasValue (s : State) (name : String) : Bool :=
  match splitElement? name with
  | some (array, index) =>
    let place :=
      if (s.getVariable array).isKeyed then keyPlace index
      else s.elementIndex array (((splitIndex? name).map (·.2)).getD 0)
    ((s.elements array).lookup place).isSome
  | none => (s.lookup? name).isSome

end State

def assign (name value : String) : Run Unit := do
  let s ← get
  match State.splitIndex? name with
  | some (array, i) => set (s.setElement array (s.elementIndex array i) value)
  | none =>
    if !(s.getVariable name).isFixed then set (s.setValue name value)
    else if s.isExtended then
      set { s with command := s.command.filter fun c => ["declare", "typeset", "local"].contains c }
      failValue (name ++ ": readonly variable")
    else failWith (name ++ ": is read only")

def assignChecked (name value : String) : Run Unit := do
  if isName name then assign name value else failWith (name ++ ": bad variable name")

end Shell
end FeatureRunner
