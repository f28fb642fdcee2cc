import FeatureRunner.Shell.Format
import FeatureRunner.Utility.Regex

/-!
This module contains the scripts of `awk` as trees, and their reading. A script is a list of rules,
each of which says on which lines something is done. It is cut into tokens first; then every call of
a reader uses up one unit of fuel. It serves the outer layer, where commands start programs; no
result is about it.
-/

namespace FeatureRunner
namespace Utility
namespace Awk

open Shell

/-! ### Trees -/

mutual

inductive Expression where
  | number (x : Float)
  | text (s : String)
  | pattern (r : Regex)
  | variable (name : String)
  | element (array : String) (indexes : List Expression)
  | field (number : Expression)
  /-- Puts a value into a place, or what an operator makes of the old value and the new one. -/
  | assign (operator : Option String) (place value : Expression)
  /-- Counts a place up or down; the value is the one before or the one behind that. -/
  | step (isUp isBefore : Bool) (place : Expression)
  | choice (condition yes no : Expression)
  | operation (operator : String) (a b : Expression)
  | change (operator : String) (a : Expression)
  | isIn (indexes : List Expression) (array : String)
  | fits (negated : Bool) (a pattern : Expression)
  | builtin (name : String) (arguments : List Expression)
  | call (name : String) (arguments : List Expression)
  | getLine (source : LineSource) (place : Option Expression)

inductive LineSource where
  | input
  | file (path : Expression)
  | command (text : Expression)

end

instance : Inhabited Expression := ⟨.text ""⟩

inductive Target where
  | output
  | file (path : Expression) (appends : Bool)
  | command (text : Expression)

inductive Statement where
  | block (statements : List Statement)
  | evaluate (e : Expression)
  | print (values : List Expression) (target : Target)
  | format (values : List Expression) (target : Target)
  | conditional (condition : Expression) (yes : Statement) (no : Option Statement)
  /-- The condition is asked for in front of the body, or behind it. -/
  | loop (isFirst : Bool) (condition : Expression) (body : Statement)
  | count (start : Option Statement) (condition : Option Expression) (step : Option Statement)
      (body : Statement)
  | each (name array : String) (body : Statement)
  | break
  | continue
  | next
  | nextFile
  | exit (status : Option Expression)
  | return (value : Option Expression)
  | delete (array : String) (indexes : List Expression)

instance : Inhabited Statement := ⟨.block []⟩

inductive Occasion where
  | start
  | finish
  | always
  | on (condition : Expression)
  /-- From a line that fits the first condition to one that fits the second. -/
  | between (first last : Expression)

structure Rule where
  occasion : Occasion
  body : Statement

structure Function where
  name : String
  parameters : List String
  body : Statement

structure Script where
  rules : List Rule := []
  functions : List Function := []

/-! ### Tokens -/

inductive Token where
  | number (x : Float)
  | text (s : String)
  | pattern (cs : List Char)
  | name (s : String)
  | called (s : String)
  | word (s : String)
  | operator (s : String)
  | newline
  | eof
  deriving BEq

instance : Inhabited Token := ⟨.eof⟩

def Token.shown : Token → String
  | .number _ => "number"
  | .text s => "\"" ++ s ++ "\""
  | .pattern cs => "/" ++ String.ofList cs ++ "/"
  | .name s | .called s | .word s | .operator s => s
  | .newline | .eof => "end of line"

def statementWords : List String :=
  ["BEGIN", "END", "function", "func", "if", "else", "while", "for", "do", "break", "continue",
   "next", "nextfile", "exit", "return", "delete", "in", "getline", "print", "printf"]

def builtinNames : List String :=
  ["length", "substr", "index", "split", "sub", "gsub", "match", "sprintf", "sin", "cos", "atan2",
   "exp", "log", "sqrt", "int", "rand", "srand", "tolower", "toupper", "system", "close", "fflush",
   "systime"]

def operators : List String :=
  ["&&", "||", "==", "!=", "<=", ">=", ">>", "!~", "++", "--", "+=", "-=", "*=", "/=", "%=", "^=",
   "\x7b", "\x7d", "(", ")", "[", "]", ";", ",", "+", "-", "*", "/", "%", "^", "!", "<", ">", "|",
   "?", ":", "~", "$", "="]

def floatOf (b : Binary) : Float :=
  let x := (Float.ofNat b.mantissa).scaleB b.exponent
  if b.negative then -x else x

def quotedText (fuel : Nat) (text : List Char) (cs : List Char)
    : Except String (String × List Char) :=
  match fuel, cs with
  | 0, _ => .error "runaway string constant"
  | _, [] => .error "runaway string constant"
  | _ + 1, '\n' :: _ => .error "runaway string constant"
  | _ + 1, '"' :: cs => .ok (String.ofList text.reverse, cs)
  | fuel + 1, '\\' :: '"' :: cs => quotedText fuel ('"' :: text) cs
  | fuel + 1, '\\' :: '\n' :: cs => quotedText fuel text cs
  | fuel + 1, '\\' :: cs =>
    let (c, rest) := escapeAt cs
    quotedText fuel (c :: text) rest
  | fuel + 1, c :: cs => quotedText fuel (c :: text) cs

/-- A pattern whose escapes are resolved, as far as they stand for characters. `inSet` tells that an
opening bracket was not closed yet. -/
def plainPattern (inSet : Bool) : List Char → List Char
  | '[' :: '^' :: ']' :: cs => if inSet then '[' :: '^' :: plainPattern false (']' :: cs)
    else '[' :: '^' :: ']' :: plainPattern true cs
  | '[' :: ']' :: cs => if inSet then '[' :: plainPattern false (']' :: cs)
    else '[' :: ']' :: plainPattern true cs
  | '[' :: ':' :: cs => '[' :: ':' :: plainPattern true cs
  | ':' :: ']' :: cs => ':' :: ']' :: plainPattern inSet cs
  | '[' :: cs => '[' :: plainPattern true cs
  | ']' :: cs => ']' :: plainPattern false cs
  | '\\' :: '/' :: cs => '/' :: plainPattern inSet cs
  | '\\' :: '"' :: cs => '"' :: plainPattern inSet cs
  | '\\' :: c :: cs =>
    match escapeLetter? c with
    | some '\\' => if inSet then '\\' :: plainPattern inSet cs
      else '\\' :: '\\' :: plainPattern inSet cs
    | some e => e :: plainPattern inSet cs
    | none => if inSet then c :: plainPattern inSet cs else '\\' :: c :: plainPattern inSet cs
  | c :: cs => c :: plainPattern inSet cs
  | [] => []

def patternOf (cs : List Char) : Except String Regex :=
  match Regex.ofChars? true (plainPattern false cs) with
  | .ok r => .ok r
  | .error complaint =>
    .error ("regular expression compile failed (" ++ complaint ++ ")\n" ++ String.ofList cs)

def patternText (text : List Char) : List Char → Except String (List Char × List Char)
  | [] | '\n' :: _ => .error "runaway regular expression"
  | '/' :: cs => .ok (text.reverse, cs)
  | '\\' :: '/' :: cs => patternText ('/' :: text) cs
  | '\\' :: c :: cs => patternText (c :: '\\' :: text) cs
  | c :: cs => patternText (c :: text) cs

def Token.endsValue : Token → Bool
  | .number _ | .text _ | .name _ | .pattern _ => true
  | .word s => builtinNames.contains s
  | .operator s => s ∈ [")", "]", "$", "++", "--"]
  | _ => false

def Token.goesOn : Token → Bool
  | .operator s => s ∈ ["\x7b", "&&", "||", ",", ";"]
  | .word s => s ∈ ["else", "do"]
  | .newline => true
  | _ => false

def tokens (fuel line : Nat) (last : Token) (cs : List Char)
    : Except String (List (Token × Nat)) :=
  match fuel with
  | 0 => .ok []
  | fuel + 1 =>
    let add (t : Token) (rest : List Char) : Except String (List (Token × Nat)) :=
      (tokens fuel line t rest).map ((t, line) :: ·)
    let failing (complaint : String) : Except String (List (Token × Nat)) :=
      .error ("line " ++ Numeral.decimal line ++ ": " ++ complaint)
    match cs with
    | [] => .ok []
    | '\n' :: rest =>
      if last.goesOn then tokens fuel (line + 1) last rest
      else (tokens fuel (line + 1) .newline rest).map ((.newline, line) :: ·)
    | '\\' :: '\n' :: rest => tokens fuel (line + 1) last rest
    | '#' :: rest => tokens fuel line last (rest.dropWhile (· != '\n'))
    | '"' :: rest =>
      match quotedText (rest.length + 1) [] rest with
      | .ok (s, rest) => add (.text s) rest
      | .error complaint => failing complaint
    | c :: rest =>
      if isSpace c then tokens fuel line last rest
      else if c = '/' && !last.endsValue then
        match patternText [] rest with
        | .ok (text, rest) => add (.pattern text) rest
        | .error complaint => failing complaint
      else if c.isDigit || (c = '.' && rest.head?.any Char.isDigit) then
        match Binary.unsigned?.decimal? false cs with
        | some (b, rest) => add (.number (floatOf b)) rest
        | none => tokens fuel line last rest
      else if isNameStart c then
        let name := String.ofList (cs.takeWhile isNameChar)
        let rest := cs.dropWhile isNameChar
        if statementWords.contains name then
          add (.word (if name = "func" then "function" else name)) rest
        else if builtinNames.contains name then add (.word name) rest
        else if rest.head? = some '(' then add (.called name) rest
        else add (.name name) rest
      else
        match operators.find? fun o => o.toList.isPrefixOf cs with
        | some o => add (.operator o) (cs.drop o.length)
        | none => failing ("unexpected character '" ++ c.toString ++ "'")

/-! ### Reading -/

structure Source where
  rest : List (Token × Nat)
  line : Nat
  inFunction : Bool := false
  hasNoLine : Bool := false
  called : List String := []

abbrev Read := StateT Source (Except String)

structure Mode where
  hasIn : Bool := true
  hasGreater : Bool := true

namespace Read

def peek : Read Token := do
  pure (((← get).rest.head?.map (·.1)).getD .eof)

def advance : Read Unit := modify fun s =>
  match s.rest with
  | (_, line) :: rest => { s with rest, line }
  | [] => s

def accept (t : Token) : Read Bool := do
  if (← peek) == t then
    advance
    pure true
  else pure false

def acceptOperator (s : String) : Read Bool := accept (.operator s)

def fail (complaint : String) : Read α := do
  let s ← get
  let line := ((s.rest.head?.map (·.2)).getD (s.line))
  throw ("line " ++ Numeral.decimal line ++ ": " ++ complaint)

def unexpected : Read α := do
  match ← peek with
  | .eof =>
    let s ← get
    throw ("line " ++ Numeral.decimal (s.line + 1) ++ ": missing \x7d near end of file")
  | t => fail ("syntax error at or near " ++ t.shown)

def expect (s : String) : Read Unit := do
  unless ← acceptOperator s do unexpected

def skipLines (all : Bool) : Read Unit := modify fun s =>
  { s with rest := s.rest.dropWhile fun t => t.1 == .newline || (all && t.1 == .operator ";") }

def parsePattern (cs : List Char) : Read Regex := do
  match patternOf cs with
  | .ok r => pure r
  | .error complaint => fail complaint

def isPlace : Expression → Bool
  | .variable _ | .element _ _ | .field _ => true
  | _ => false

def beginsValue : Token → Bool
  | .number _ | .text _ | .pattern _ | .name _ | .called _ => true
  | .word s => builtinNames.contains s
  | .operator s => s ∈ ["$", "!", "(", "-", "+", "++", "--"]
  | _ => false

def assignments : List (String × Option String) :=
  [("=", none), ("+=", some "+"), ("-=", some "-"), ("*=", some "*"), ("/=", some "/"),
   ("%=", some "%"), ("^=", some "^")]

mutual

def expression (fuel : Nat) (m : Mode) : Read Expression :=
  match fuel with
  | 0 => unexpected
  | fuel + 1 => do
    let condition ← disjunction fuel m
    if ← acceptOperator "?" then
      skipLines false
      let yes ← expression fuel m
      skipLines false
      expect ":"
      skipLines false
      pure (.choice condition yes (← expression fuel m))
    else pure condition
termination_by fuel

def disjunction (fuel : Nat) (m : Mode) : Read Expression :=
  match fuel with
  | 0 => unexpected
  | fuel + 1 => do
    let a ← conjunction fuel m
    if ← acceptOperator "||" then pure (.operation "||" a (← disjunction fuel m)) else pure a
termination_by fuel

def conjunction (fuel : Nat) (m : Mode) : Read Expression :=
  match fuel with
  | 0 => unexpected
  | fuel + 1 => do
    let a ← membership fuel m
    if ← acceptOperator "&&" then pure (.operation "&&" a (← conjunction fuel m)) else pure a
termination_by fuel

def membership (fuel : Nat) (m : Mode) : Read Expression :=
  match fuel with
  | 0 => unexpected
  | fuel + 1 => do
    let a ← matching fuel m
    memberships fuel m a
termination_by fuel

def memberships (fuel : Nat) (m : Mode) (a : Expression) : Read Expression :=
  match fuel with
  | 0 => unexpected
  | fuel + 1 => do
    if m.hasIn && (← accept (.word "in")) then
      match ← peek with
      | .name array =>
        advance
        memberships fuel m (.isIn [a] array)
      | _ => unexpected
    else pure a
termination_by fuel

def matching (fuel : Nat) (m : Mode) : Read Expression :=
  match fuel with
  | 0 => unexpected
  | fuel + 1 => do
    let a ← comparison fuel m
    matchings fuel m a
termination_by fuel

def matchings (fuel : Nat) (m : Mode) (a : Expression) : Read Expression :=
  match fuel with
  | 0 => unexpected
  | fuel + 1 => do
    if ← acceptOperator "~" then matchings fuel m (.fits false a (← comparison fuel m))
    else if ← acceptOperator "!~" then matchings fuel m (.fits true a (← comparison fuel m))
    else pure a
termination_by fuel

def comparison (fuel : Nat) (m : Mode) : Read Expression :=
  match fuel with
  | 0 => unexpected
  | fuel + 1 => do
    let a ← joined fuel m
    match ← peek with
    | .operator o =>
      if o ∈ ["<", "<=", "==", "!=", ">="] || (o = ">" && m.hasGreater) then
        advance
        pure (.operation o a (← joined fuel m))
      else pure a
    | _ => pure a
termination_by fuel

def joined (fuel : Nat) (m : Mode) : Read Expression :=
  match fuel with
  | 0 => unexpected
  | fuel + 1 => do
    let a ← sum fuel m
    let a ← piped fuel a
    joinedTo fuel m a
termination_by fuel

def joinedTo (fuel : Nat) (m : Mode) (a : Expression) : Read Expression :=
  match fuel with
  | 0 => unexpected
  | fuel + 1 => do
    let t ← peek
    if beginsValue t && t != .operator "!" then
      let b ← sum fuel m
      joinedTo fuel m (← piped fuel (.operation "" a b))
    else pure a
termination_by fuel

def piped (fuel : Nat) (a : Expression) : Read Expression :=
  match fuel with
  | 0 => unexpected
  | fuel + 1 => do
    let s ← get
    if ← acceptOperator "|" then
      if ← accept (.word "getline") then
        piped fuel (.getLine (.command a) (← place? fuel))
      else
        set s
        pure a
    else pure a
termination_by fuel

def sum (fuel : Nat) (m : Mode) : Read Expression :=
  match fuel with
  | 0 => unexpected
  | fuel + 1 => do
    let a ← product fuel m
    sums fuel m a
termination_by fuel

def sums (fuel : Nat) (m : Mode) (a : Expression) : Read Expression :=
  match fuel with
  | 0 => unexpected
  | fuel + 1 => do
    if ← acceptOperator "+" then sums fuel m (.operation "+" a (← product fuel m))
    else if ← acceptOperator "-" then sums fuel m (.operation "-" a (← product fuel m))
    else pure a
termination_by fuel

def product (fuel : Nat) (m : Mode) : Read Expression :=
  match fuel with
  | 0 => unexpected
  | fuel + 1 => do
    let a ← changed fuel m
    products fuel m a
termination_by fuel

def products (fuel : Nat) (m : Mode) (a : Expression) : Read Expression :=
  match fuel with
  | 0 => unexpected
  | fuel + 1 => do
    match ← peek with
    | .operator o =>
      if o ∈ ["*", "/", "%"] then
        advance
        products fuel m (.operation o a (← changed fuel m))
      else pure a
    | _ => pure a
termination_by fuel

def changed (fuel : Nat) (m : Mode) : Read Expression :=
  match fuel with
  | 0 => unexpected
  | fuel + 1 => do
    match ← peek with
    | .operator o =>
      if o ∈ ["!", "-", "+"] then
        advance
        pure (.change o (← changed fuel m))
      else power fuel m
    | _ => power fuel m
termination_by fuel

def power (fuel : Nat) (m : Mode) : Read Expression :=
  match fuel with
  | 0 => unexpected
  | fuel + 1 => do
    let a ← stepped fuel m
    if ← acceptOperator "^" then
      let b ←
        match ← peek with
        | .operator "-" => do
          advance
          pure (.change "-" (← power fuel m))
        | _ => power fuel m
      pure (.operation "^" a b)
    else pure a
termination_by fuel

def stepped (fuel : Nat) (m : Mode) : Read Expression :=
  match fuel with
  | 0 => unexpected
  | fuel + 1 => do
    match ← peek with
    | .operator "++" =>
      advance
      pure (.step true true (← primary fuel m))
    | .operator "--" =>
      advance
      pure (.step false true (← primary fuel m))
    | _ =>
      let a ← primary fuel m
      if !isPlace a then pure a
      else if ← acceptOperator "++" then pure (.step true false a)
      else if ← acceptOperator "--" then pure (.step false false a)
      else
        match ← peek with
        | .operator o =>
          match assignments.lookup o with
          | some operator =>
            advance
            skipLines false
            pure (.assign operator a (← expression fuel m))
          | none => pure a
        | _ => pure a
termination_by fuel

def place? (fuel : Nat) : Read (Option Expression) :=
  match fuel with
  | 0 => pure none
  | fuel + 1 => do
    match ← peek with
    | .name _ | .operator "$" => some <$> primary fuel {}
    | _ => pure none
termination_by fuel

def primary (fuel : Nat) (m : Mode) : Read Expression :=
  match fuel with
  | 0 => unexpected
  | fuel + 1 => do
    match ← peek with
    | .number x =>
      advance
      pure (.number x)
    | .text s =>
      advance
      pure (.text s)
    | .pattern cs =>
      advance
      pure (.pattern (← parsePattern cs))
    | .operator "$" =>
      advance
      match ← peek with
      | .operator "++" | .operator "--" => pure (.field (← stepped fuel m))
      | .operator "-" =>
        advance
        pure (.field (.change "-" (← primary fuel m)))
      | _ => pure (.field (← primary fuel m))
    | .operator "(" =>
      advance
      let first ← expression fuel {}
      if ← acceptOperator "," then
        let rest ← expressions fuel ")"
        if !(← accept (.word "in")) then unexpected
        match ← peek with
        | .name array =>
          advance
          pure (.isIn (first :: rest) array)
        | _ => unexpected
      else
        expect ")"
        pure (match first with
          | .variable name => .change "" (.variable name)
          | e => .change "" e)
    | .word "getline" =>
      advance
      let place ← place? fuel
      if ← acceptOperator "<" then
        pure (.getLine (.file (← stepped fuel { hasIn := false })) place)
      else pure (.getLine .input place)
    | .called name =>
      advance
      expect "("
      modify fun s => { s with called := name :: s.called }
      pure (.call name (← expressions fuel ")"))
    | .name name =>
      advance
      if ← acceptOperator "[" then pure (.element name (← expressions fuel "]"))
      else pure (.variable name)
    | .word name =>
      if builtinNames.contains name then
        advance
        if ← acceptOperator "(" then pure (.builtin name (← expressions fuel ")"))
        else if name = "length" then pure (.builtin name [])
        else unexpected
      else unexpected
    | _ => unexpected
termination_by fuel

def expressions (fuel : Nat) (closing : String) : Read (List Expression) :=
  match fuel with
  | 0 => unexpected
  | fuel + 1 => do
    skipLines false
    if ← acceptOperator closing then pure []
    else
      let e ← expression fuel {}
      skipLines false
      if ← acceptOperator "," then pure (e :: (← expressions fuel closing))
      else
        expect closing
        pure [e]
termination_by fuel

end

def expressionFuel : Read Nat := do
  pure (60 * (← get).rest.length + 60)

def whole (m : Mode := {}) : Read Expression := do
  expression (← expressionFuel) m

def endsSimple : Token → Bool
  | .newline | .eof => true
  | .operator s => s ∈ [";", "\x7d"]
  | _ => false

def wholeIfAny : Read (Option Expression) := do
  if endsSimple (← peek) then pure none else some <$> whole

def printed (fuel : Nat) : Read (List Expression) := do
  match fuel with
  | 0 => unexpected
  | fuel + 1 =>
    let e ← whole { hasGreater := false }
    if ← acceptOperator "," then pure (e :: (← printed fuel)) else pure [e]

def endsPrinted (t : Token) : Bool :=
  endsSimple t || t == .operator ">" || t == .operator ">>" || t == .operator "|"

def printedValues : Read (List Expression) := do
  let s ← get
  let fuel ← expressionFuel
  if endsPrinted (← peek) then pure []
  else if ← acceptOperator "(" then
    match ((expressions fuel ")").run (← get)) with
    | .ok (values, t) =>
      let next := (t.rest.head?.map (·.1)).getD .eof
      if endsPrinted next then
        set t
        pure values
      else
        set s
        printed fuel
    | .error _ =>
      set s
      printed fuel
  else printed fuel

def target : Read Target := do
  let fuel ← expressionFuel
  if ← acceptOperator ">" then pure (.file (← joined fuel { hasGreater := false }) false)
  else if ← acceptOperator ">>" then pure (.file (← joined fuel { hasGreater := false }) true)
  else if ← acceptOperator "|" then pure (.command (← joined fuel { hasGreater := false }))
  else pure .output

def simple : Read Statement := do
  if ← accept (.word "print") then
    let values ← printedValues
    pure (.print values (← target))
  else if ← accept (.word "printf") then
    let values ← printedValues
    if values.isEmpty then fail "no arguments in call to printf"
    pure (.format values (← target))
  else if ← accept (.word "delete") then
    match ← peek with
    | .name array =>
      advance
      if ← acceptOperator "[" then
        pure (.delete array (← expressions (← expressionFuel) "]"))
      else pure (.delete array [])
    | _ => unexpected
  else .evaluate <$> whole

def statementEnd : Read Unit := do
  match ← peek with
  | .operator ";" | .newline =>
    advance
    skipLines false
  | .operator "\x7d" | .eof => pure ()
  | _ => unexpected

mutual

def statement (fuel : Nat) : Read Statement :=
  match fuel with
  | 0 => unexpected
  | fuel + 1 => do
    let closing (s : Statement) : Read Statement := do
      statementEnd
      pure s
    match ← peek with
    | .operator "\x7b" =>
      let body ← block fuel
      skipLines true
      pure body
    | .operator ";" =>
      advance
      skipLines false
      pure (.block [])
    | .word "if" =>
      advance
      expect "("
      let condition ← whole
      expect ")"
      skipLines false
      let yes ← statement fuel
      let s ← get
      skipLines true
      if ← accept (.word "else") then
        skipLines false
        pure (.conditional condition yes (some (← statement fuel)))
      else
        set s
        pure (.conditional condition yes none)
    | .word "while" =>
      advance
      expect "("
      let condition ← whole
      expect ")"
      if ← acceptOperator ";" then pure (.loop true condition (.block []))
      else
        skipLines false
        pure (.loop true condition (← statement fuel))
    | .word "do" =>
      advance
      skipLines false
      let body ← statement fuel
      skipLines true
      unless ← accept (.word "while") do unexpected
      expect "("
      let condition ← whole
      expect ")"
      closing (.loop false condition body)
    | .word "for" =>
      advance
      expect "("
      forLoop fuel
    | .word "break" =>
      advance
      closing .break
    | .word "continue" =>
      advance
      closing .continue
    | .word "next" =>
      advance
      let s ← get
      if s.hasNoLine then fail "improper use of next"
      closing .next
    | .word "nextfile" =>
      advance
      closing .nextFile
    | .word "exit" =>
      advance
      closing (.exit (← wholeIfAny))
    | .word "return" =>
      advance
      unless (← get).inFunction do fail "return outside function body"
      closing (.return (← wholeIfAny))
    | _ => closing (← simple)
termination_by fuel

def forLoop (fuel : Nat) : Read Statement :=
  match fuel with
  | 0 => unexpected
  | fuel + 1 => do
    let s ← get
    match (s.rest.take 4).map Prod.fst with
    | [.name name, .word "in", .name array, .operator ")"] =>
      set { s with rest := s.rest.drop 4 }
      skipLines false
      pure (.each name array (← statement fuel))
    | _ =>
      let start ← if (← peek) == .operator ";" then pure none else some <$> simple
      expect ";"
      skipLines false
      let condition ← if (← peek) == .operator ";" then pure none else some <$> whole
      expect ";"
      skipLines false
      let step ← if (← peek) == .operator ")" then pure none else some <$> simple
      expect ")"
      if ← acceptOperator ";" then pure (.count start condition step (.block []))
      else
        skipLines false
        pure (.count start condition step (← statement fuel))
termination_by fuel

def block (fuel : Nat) : Read Statement :=
  match fuel with
  | 0 => unexpected
  | fuel + 1 => do
    expect "\x7b"
    skipLines true
    .block <$> statements fuel
termination_by fuel

def statements (fuel : Nat) : Read (List Statement) :=
  match fuel with
  | 0 => unexpected
  | fuel + 1 => do
    skipLines true
    if ← acceptOperator "\x7d" then pure []
    else
      let s ← statement fuel
      pure (s :: (← statements fuel))
termination_by fuel

end

def parameters (fuel : Nat) : Read (List String) := do
  match fuel with
  | 0 => unexpected
  | fuel + 1 =>
    skipLines false
    match ← peek with
    | .operator ")" =>
      advance
      pure []
    | .name name =>
      advance
      skipLines false
      if ← acceptOperator "," then pure (name :: (← parameters fuel))
      else
        expect ")"
        pure [name]
    | _ => unexpected

def script (fuel : Nat) (done : Script) : Read Script := do
  match fuel with
  | 0 => unexpected
  | fuel + 1 =>
    skipLines true
    let body (occasion : Occasion) (isSpecial : Bool) : Read Script := do
      modify fun s => { s with hasNoLine := isSpecial }
      let b ←
        if isSpecial || (← peek) == .operator "\x7b" then block (← expressionFuel)
        else pure (.print [] .output)
      script fuel { done with rules := done.rules ++ [⟨occasion, b⟩] }
    match ← peek with
    | .eof => pure done
    | .operator "\x7d" => fail "extra '\x7d'"
    | .word "BEGIN" =>
      advance
      body .start true
    | .word "END" =>
      advance
      body .finish true
    | .word "function" =>
      advance
      match ← peek with
      | .name name | .called name =>
        advance
        expect "("
        let names ← parameters (← expressionFuel)
        skipLines false
        modify fun s => { s with inFunction := true, hasNoLine := false }
        let b ← block (← expressionFuel)
        modify fun s => { s with inFunction := false }
        script fuel { done with functions := done.functions ++ [⟨name, names, b⟩] }
      | _ => unexpected
    | .operator "\x7b" => body .always false
    | _ =>
      let first ← whole
      if ← acceptOperator "," then
        skipLines false
        body (.between first (← whole)) false
      else body (.on first) false

end Read

def readScript (cs : List Char) : Except String Script := do
  let ts ← tokens (cs.length + 1) 1 .newline cs
  let lines := cs.count '\n' + 1
  let (s, source) ← (Read.script (ts.length + 1) {}).run { rest := ts, line := lines }
  match source.called.reverse.find? fun name => s.functions.all (·.name != name) with
  | some name =>
    .error ("line " ++ Numeral.decimal (lines + 1) ++ ": function " ++ name ++ " never defined")
  | none => .ok s

end Awk
end Utility
end FeatureRunner
