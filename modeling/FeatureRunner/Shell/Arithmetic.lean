import FeatureRunner.Shell.Source
import FeatureRunner.Text.Numeral

/-!
This module contains the arithmetic of the shell: formulas over whole numbers of 64 bits and
variables, with the operators of C. An operand whose value does not matter is read but not looked
up. It serves the outer layer, which starts real commands; no result is about it.
-/

namespace FeatureRunner
namespace Shell

def wrap (n : Int) : Int := n.bmod UInt64.size

def minNumber : Int := -9223372036854775808
def maxNumber : Int := 9223372036854775807

def clamp (n : Int) : Int :=
  if n < minNumber then minNumber else if maxNumber < n then maxNumber else n

def digitOf? (c : Char) : Option Nat :=
  if c.isDigit then some (c.toNat - '0'.toNat)
  else if 'a' ≤ c && c ≤ 'f' then some (c.toNat - 'a'.toNat + 10)
  else if 'A' ≤ c && c ≤ 'F' then some (c.toNat - 'A'.toNat + 10)
  else none

def digitsValue (base : Nat) (acc : Nat) : List Char → Nat × List Char
  | c :: cs =>
    match digitOf? c with
    | some d => if d < base then digitsValue base (base * acc + d) cs else (acc, c :: cs)
    | none => (acc, c :: cs)
  | [] => (acc, [])

def numeralValue (cs : List Char) : Nat × List Char :=
  match cs with
  | '0' :: x :: d :: rest =>
    if (x = 'x' || x = 'X') && ((digitOf? d).any (· < 16)) then digitsValue 16 0 (d :: rest)
    else digitsValue 8 0 (x :: d :: rest)
  | '0' :: rest => digitsValue 8 0 rest
  | cs => digitsValue 10 0 cs

def isSpace (c : Char) : Bool := c == ' ' || (9 ≤ c.toNat && c.toNat ≤ 13)

/-- The number that a value stands for. Blanks around it do not matter, and an empty value is
zero. -/
def valueNumber? (text : String) : Option Int :=
  let cs := text.toList.dropWhile isSpace
  if text.isEmpty then some 0
  else
    let (negative, cs) :=
      match cs with
      | '-' :: cs => (true, cs)
      | '+' :: cs => (false, cs)
      | cs => (false, cs)
    if !(cs.head?.any Char.isDigit) then none
    else
      let (n, rest) := numeralValue cs
      if rest.all isSpace then some (clamp (if negative then -(n : Int) else n)) else none

inductive FormulaToken where
  | number (n : Int)
  | name (name : String)
  | operator (text : String)
  deriving DecidableEq

def formulaOperators : List String :=
  ["<<=", ">>=", "==", "!=", "<=", ">=", "&&", "||", "<<", ">>", "+=", "-=", "*=", "/=", "%=",
   "&=", "|=", "^=", "+", "-", "*", "/", "%", "<", ">", "=", "!", "~", "&", "|", "^", "?", ":",
   "(", ")"]

def extendedOperators : List String := ["++", "--", "**", ",", "[", "]"]

/-- The tokens of a formula. A character that belongs to no token is an operator that nothing
knows. -/
def formulaTokens (extended : Bool) (fuel : Nat) (cs : List Char) : List FormulaToken :=
  match fuel, cs with
  | 0, _ | _, [] => []
  | fuel + 1, c :: rest =>
    if isSpace c then formulaTokens extended fuel rest
    else if c.isDigit then
      let (n, rest') := numeralValue cs
      match extended, rest' with
      | true, '#' :: digits =>
        let (m, rest'') := digitsValue n 0 digits
        .number (clamp m) :: formulaTokens extended fuel rest''
      | _, _ => .number (clamp n) :: formulaTokens extended fuel rest'
    else if isNameStart c then
      .name (String.ofList (cs.takeWhile isNameChar)) ::
        formulaTokens extended fuel (cs.dropWhile isNameChar)
    else
      let known := if extended then extendedOperators ++ formulaOperators else formulaOperators
      match known.find? fun o => o.toList.isPrefixOf cs with
      | some o => .operator o :: formulaTokens extended fuel (cs.drop o.length)
      | none => .operator c.toString :: formulaTokens extended fuel rest

structure Calculation where
  tokens : List FormulaToken
  assigned : List (String × Int) := []

abbrev Calculate := StateT Calculation (Except String)

structure FormulaContext where
  /-- The number that a variable stands for, or why it stands for none. -/
  lookup : String → Except String Int
  isExtended : Bool
  text : String

namespace Calculate

def fail (context : FormulaContext) (what : String) : Calculate α :=
  if context.isExtended then
    let behind := (context.text.toList.reverse.takeWhile fun c => c != '/' && c != '%').reverse
    let behind := String.ofList (behind.dropWhile isSpace)
    throw (context.text ++ (if what = "division by zero" then ": division by 0" else
      ": syntax error in expression") ++ " (error token is \"" ++ behind ++ "\")")
  else throw ("arithmetic expression: " ++ what ++ ": \"" ++ context.text ++ "\"")

def next : Calculate (Option FormulaToken) := do
  let s ← get
  set { s with tokens := s.tokens.drop 1 }
  pure s.tokens.head?

def accept (operator : String) : Calculate Bool := do
  let s ← get
  if s.tokens.head? = some (.operator operator) then
    set { s with tokens := s.tokens.drop 1 }
    pure true
  else pure false

def value (context : FormulaContext) (idle : Bool) (name : String) : Calculate Int := do
  if idle then pure 0
  else
    match (← get).assigned.lookup name with
    | some n => pure n
    | none =>
      match context.lookup name with
      | .ok n => pure n
      | .error complaint => throw complaint

def assign (idle : Bool) (name : String) (n : Int) : Calculate Int := do
  unless idle do modify fun s => { s with assigned := (name, n) :: s.assigned }
  pure n

def truth (b : Bool) : Int := if b then 1 else 0

def unsigned (n : Int) : Nat := (n % UInt64.size).toNat

def operate (context : FormulaContext) (operator : String) (a b : Int) : Calculate Int :=
  match operator with
  | "*" => pure (wrap (a * b))
  | "/" => if b = 0 then fail context "division by zero" else pure (wrap (a.tdiv b))
  | "%" => if b = 0 then fail context "division by zero" else pure (a.tmod b)
  | "+" => pure (wrap (a + b))
  | "-" => pure (wrap (a - b))
  | "<<" => pure (wrap ((unsigned a <<< (unsigned b % 64) : Nat) : Int))
  | ">>" => pure (a >>> (unsigned b % 64))
  | "<" => pure (truth (a < b))
  | "<=" => pure (truth (a ≤ b))
  | ">" => pure (truth (b < a))
  | ">=" => pure (truth (b ≤ a))
  | "==" => pure (truth (a = b))
  | "!=" => pure (truth (a ≠ b))
  | "&" => pure (wrap ((unsigned a &&& unsigned b : Nat) : Int))
  | "^" => pure (wrap ((unsigned a ^^^ unsigned b : Nat) : Int))
  | "|" => pure (wrap ((unsigned a ||| unsigned b : Nat) : Int))
  | "**" => pure (wrap (a.pow b.toNat))
  | _ => fail context "expecting EOF"

def levels : List (List String) :=
  [["|"], ["^"], ["&"], ["==", "!="], ["<", "<=", ">", ">="], ["<<", ">>"], ["+", "-"],
   ["*", "/", "%"]]

def assignments : List (String × String) :=
  [("<<=", "<<"), (">>=", ">>"), ("+=", "+"), ("-=", "-"), ("*=", "*"), ("/=", "/"), ("%=", "%"),
   ("&=", "&"), ("|=", "|"), ("^=", "^")]

mutual

def primary (fuel : Nat) (context : FormulaContext) (idle : Bool) : Calculate Int :=
  match fuel with
  | 0 => fail context "expecting primary"
  | fuel + 1 => do
    match ← next with
    | some (.number n) => pure n
    | some (.name name) =>
      let name ← element fuel context idle name
      if context.isExtended then
        if ← accept "++" then
          let n ← value context idle name
          let _ ← assign idle name (wrap (n + 1))
          pure n
        else if ← accept "--" then
          let n ← value context idle name
          let _ ← assign idle name (wrap (n - 1))
          pure n
        else value context idle name
      else value context idle name
    | some (.operator "(") =>
      let n ← assignment fuel context idle
      unless ← accept ")" do fail context "expecting ')'"
      pure n
    | some (.operator "+") => primary fuel context idle
    | some (.operator "-") => do pure (wrap (-(← primary fuel context idle)))
    | some (.operator "!") => do pure (truth ((← primary fuel context idle) = 0))
    | some (.operator "~") => do pure (-(← primary fuel context idle) - 1)
    | some (.operator "++") => step fuel context idle 1
    | some (.operator "--") => step fuel context idle (-1)
    | _ => fail context "expecting primary"
termination_by fuel

def step (fuel : Nat) (context : FormulaContext) (idle : Bool) (by' : Int) : Calculate Int :=
  match fuel with
  | 0 => fail context "expecting primary"
  | fuel + 1 => do
    match ← next with
    | some (.name name) =>
      let name ← element fuel context idle name
      assign idle name (wrap ((← value context idle name) + by'))
    | _ => fail context "expecting primary"
termination_by fuel

def element (fuel : Nat) (context : FormulaContext) (idle : Bool) (name : String)
    : Calculate String :=
  match fuel with
  | 0 => pure name
  | fuel + 1 => do
    if context.isExtended && (← accept "[") then
      let n ← assignment fuel context idle
      unless ← accept "]" do fail context "expecting ']'"
      pure (name ++ "[" ++ Numeral.decimalInt n ++ "]")
    else pure name
termination_by fuel

def power (fuel : Nat) (context : FormulaContext) (idle : Bool) : Calculate Int :=
  match fuel with
  | 0 => fail context "expecting primary"
  | fuel + 1 => do
    let a ← primary fuel context idle
    if context.isExtended && (← accept "**") then
      operate context "**" a (← power fuel context idle)
    else pure a
termination_by fuel

def operations (fuel : Nat) (context : FormulaContext) (idle : Bool)
    : List (List String) → Calculate Int
  | [] =>
    match fuel with
    | 0 => fail context "expecting primary"
    | fuel + 1 => power fuel context idle
  | level :: stronger =>
    match fuel with
    | 0 => fail context "expecting primary"
    | fuel + 1 => do
      let a ← operations fuel context idle stronger
      chain fuel context idle level stronger a
termination_by fuel

def chain (fuel : Nat) (context : FormulaContext) (idle : Bool) (level : List String)
    (stronger : List (List String)) (a : Int) : Calculate Int :=
  match fuel with
  | 0 => pure a
  | fuel + 1 => do
    match (← get).tokens.head? with
    | some (.operator o) =>
      if level.contains o then
        let _ ← next
        let b ← operations fuel context idle stronger
        let a ← if idle then pure b else operate context o a b
        chain fuel context idle level stronger a
      else pure a
    | _ => pure a
termination_by fuel

def conjunction (fuel : Nat) (context : FormulaContext) (idle : Bool) : Calculate Int :=
  match fuel with
  | 0 => fail context "expecting primary"
  | fuel + 1 => do
    let a ← operations fuel context idle levels
    if ← accept "&&" then
      let b ← conjunction fuel context (idle || a == 0)
      pure (truth (a ≠ 0 ∧ b ≠ 0))
    else pure a
termination_by fuel

def disjunction (fuel : Nat) (context : FormulaContext) (idle : Bool) : Calculate Int :=
  match fuel with
  | 0 => fail context "expecting primary"
  | fuel + 1 => do
    let a ← conjunction fuel context idle
    if ← accept "||" then
      let b ← disjunction fuel context (idle || a != 0)
      pure (truth (a ≠ 0 ∨ b ≠ 0))
    else pure a
termination_by fuel

def choice (fuel : Nat) (context : FormulaContext) (idle : Bool) : Calculate Int :=
  match fuel with
  | 0 => fail context "expecting primary"
  | fuel + 1 => do
    let a ← disjunction fuel context idle
    if ← accept "?" then
      let b ← assignment fuel context (idle || a == 0)
      unless ← accept ":" do fail context "expecting ':'"
      let c ← choice fuel context (idle || a != 0)
      pure (if a ≠ 0 then b else c)
    else pure a
termination_by fuel

def assignment (fuel : Nat) (context : FormulaContext) (idle : Bool) : Calculate Int :=
  match fuel with
  | 0 => fail context "expecting primary"
  | fuel + 1 => do
    let s ← get
    match s.tokens with
    | .name name :: _ =>
      let _ ← next
      let name ← element fuel context idle name
      match (← get).tokens.head? with
      | some (.operator "=") =>
        let _ ← next
        assign idle name (← assignment fuel context idle)
      | some (.operator o) =>
        match assignments.lookup o with
        | some operator =>
          let _ ← next
          let b ← assignment fuel context idle
          if idle then pure b
          else assign idle name (← operate context operator (← value context idle name) b)
        | none =>
          set s
          choice fuel context idle
      | _ =>
        set s
        choice fuel context idle
    | _ => choice fuel context idle
termination_by fuel

end

def commas (fuel : Nat) (context : FormulaContext) : Calculate Int :=
  match fuel with
  | 0 => fail context "expecting primary"
  | fuel + 1 => do
    let n ← assignment (fuel + 1) context false
    if context.isExtended && (← accept ",") then commas fuel context else pure n

end Calculate

def formulaValue (context : FormulaContext) : Except String (Int × List (String × Int)) :=
  let cs := context.text.toList
  let tokens := formulaTokens context.isExtended (cs.length + 1) cs
  if tokens.isEmpty && context.isExtended then .ok (0, [])
  else
    match (Calculate.commas (40 * tokens.length + 40) context).run ⟨tokens, []⟩ with
    | .error complaint => .error complaint
    | .ok (n, s) =>
      if s.tokens.isEmpty then .ok (n, s.assigned.reverse)
      else (Calculate.fail (α := Int × List (String × Int)) context "expecting EOF").run' s

end Shell
end FeatureRunner
