/-!
This module contains grammars of command lines and how arguments are read with them.

A command has switches, operands and commands of its own. Arguments are read from left to right. A
value that was read for a switch or an operand is only recorded when the next one begins, so a value
that is missing and a switch that is given twice are found at that moment, and not at all if
something else is wrong before it.
-/

namespace FeatureRunner
namespace Cli

/-- Why arguments are not carried out as a command. -/
inductive Refusal where
  | help
  | version
  /-- Nothing but a command that needs one of its own commands. -/
  | missingCommand
  | unknownCommand
  | unknownArgument
  | missingOperand
  /-- A switch without its value. -/
  | missingValue
  /-- A switch that is given twice. -/
  | repeated
  /-- A value for a switch that takes none. -/
  | needlessValue
  deriving DecidableEq

inductive Effect where
  | set
  | takeValue
  /-- The arguments are not read any further. -/
  | refuse (refusal : Refusal)
  deriving DecidableEq

/-- An argument that begins with a dash. -/
structure Switch where
  short : Char
  long : String
  effect : Effect := .set
  deriving DecidableEq

/-- An argument that stands for itself. -/
structure Operand where
  name : String
  isRequired : Bool := true
  deriving DecidableEq

/-- A command with what may follow it. -/
inductive Grammar where
  | command (names : List String) (switches : List Switch) (operands : List Operand)
      (commands : List Grammar)

namespace Grammar

def names : Grammar → List String
  | command names _ _ _ => names

def switches : Grammar → List Switch
  | command _ switches _ _ => switches

def operands : Grammar → List Operand
  | command _ _ operands _ => operands

def helpCommand : Grammar := .command ["help"] [] [] []

def commands : Grammar → List Grammar
  | command _ _ _ commands => if commands.isEmpty then [] else commands ++ [helpCommand]

def find? (g : Grammar) (name : String) : Option Grammar :=
  g.commands.find? (·.names.contains name)

def long? (g : Grammar) (name : String) : Option Switch :=
  g.switches.find? (·.long == name)

def short? (g : Grammar) (c : Char) : Option Switch :=
  g.switches.find? (·.short == c)

def explain (g : Grammar) : List String → Refusal
  | [] => .help
  | name :: rest =>
    match g.find? name with
    | some g => explain g rest
    | none => .unknownCommand

end Grammar

/-- What arguments say: the command, by its main names, and the values of its arguments. -/
structure Arguments where
  command : List String
  /-- The switches and operands that were given; a switch without value has the empty one. -/
  values : List (String × String)
  deriving DecidableEq

namespace Arguments

def value? (a : Arguments) (name : String) : Option String :=
  a.values.lookup name

def has (a : Arguments) (name : String) : Bool :=
  (a.value? name).isSome

end Arguments

/-- A switch or an operand whose value is not recorded yet. -/
structure Pending where
  name : String
  value : Option String
  deriving DecidableEq

/-- What was read of the arguments of a command. -/
structure Reading where
  values : List (String × String) := []
  pending : Option Pending := none
  /-- The number of operands read. -/
  operands : Nat := 0
  deriving DecidableEq

namespace Reading

def record (r : Reading) (name value : String) : Except Refusal Reading :=
  if (r.values.lookup name).isSome then .error .repeated
  else .ok { r with values := r.values ++ [(name, value)] }

def settle (r : Reading) : Except Refusal Reading :=
  match r.pending with
  | none => .ok r
  | some ⟨_, none⟩ => .error .missingValue
  | some ⟨name, some value⟩ => { r with pending := none }.record name value

def expects? (r : Reading) : Option String :=
  match r.pending with
  | some ⟨name, none⟩ => some name
  | _ => none

def switch (r : Reading) (s : Switch) : Except Refusal Reading :=
  match r.settle with
  | .error e => .error e
  | .ok r =>
    match s.effect with
    | .refuse refusal => .error refusal
    | .set => r.record s.long ""
    | .takeValue => .ok { r with pending := some ⟨s.long, none⟩ }

def attached (r : Reading) (s : Switch) (value : String) : Except Refusal Reading :=
  match s.effect with
  | .takeValue => r.settle.bind (·.record s.long value)
  | .set | .refuse _ => .error .needlessValue

def long (g : Grammar) (r : Reading) (cs : List Char) : Except Refusal Reading :=
  let name := cs.takeWhile (· != '=')
  match g.long? (String.ofList name) with
  | none => .error .unknownArgument
  | some s =>
    match cs.drop name.length with
    | [] => r.switch s
    | _ :: value => r.attached s (String.ofList value)

/-- Takes over the letters behind a single dash. What follows a switch with value is its value. -/
def short (g : Grammar) (r : Reading) : List Char → Except Refusal Reading
  | [] => .ok r
  | c :: cs =>
    match g.short? c with
    | none => .error .unknownArgument
    | some s =>
      match s.effect, cs with
      | .takeValue, '=' :: value => r.attached s (String.ofList value)
      | .takeValue, [] => r.switch s
      | .takeValue, value => r.attached s (String.ofList value)
      | _, _ => (r.switch s).bind (short g · cs)

def operand (g : Grammar) (r : Reading) (text : String) : Except Refusal Reading :=
  match g.operands[r.operands]? with
  | some o =>
    r.settle.map fun r =>
      { r with pending := some ⟨o.name, some text⟩, operands := r.operands + 1 }
  | none => .error (if g.commands.isEmpty then .unknownArgument else .unknownCommand)

def trailing (g : Grammar) (r : Reading) (text : String) : Except Refusal Reading :=
  if g.operands.length ≤ r.operands && (g.find? text).isSome then .error .unknownArgument
  else r.operand g text

def argument (g : Grammar) (r : Reading) (text : String) : Except Refusal Reading :=
  match text.toList with
  | '-' :: '-' :: cs => r.long g cs
  | '-' :: c :: cs => r.short g (c :: cs)
  | _ =>
    match r.expects? with
    | some name => .ok { r with pending := some ⟨name, some text⟩ }
    | none => r.operand g text

def finish (g : Grammar) (names : List String) (r : Reading) : Except Refusal Arguments :=
  match r.settle with
  | .error e => .error e
  | .ok r =>
    if !g.commands.isEmpty then .error .missingCommand
    else if (g.operands.drop r.operands).any (·.isRequired) then .error .missingOperand
    else .ok ⟨names, r.values⟩

end Reading

namespace Grammar

/-- Reads the arguments of a command; `names` are the main names of the commands so far. -/
def readFrom (g : Grammar) (names : List String) (r : Reading)
    : List String → Except Refusal Arguments
  | [] => r.finish g names
  | "--" :: rest => (rest.foldlM (Reading.trailing g) r).bind (·.finish g names)
  | text :: rest =>
    match if r.expects?.isSome then none else g.find? text with
    | some sub =>
      if sub.names = helpCommand.names then .error (g.explain rest)
      else readFrom sub (names ++ sub.names.take 1) {} rest
    | none => (r.argument g text).bind (readFrom g names · rest)

def read (g : Grammar) (args : List String) : Except Refusal Arguments :=
  g.readFrom [] {} args

end Grammar
end Cli
end FeatureRunner
