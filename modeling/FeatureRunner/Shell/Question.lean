import FeatureRunner.Shell.Arithmetic
import FeatureRunner.Shell.State

/-!
This module contains the conditions that `test` decides: about texts, numbers and files. The words
of a condition are looked at one after the other; a word that could be an operator is one only if
what follows allows that. It serves the outer layer, which starts real commands; no result is about
it.
-/

namespace FeatureRunner
namespace Shell

inductive QuestionWord where
  | unary
  | binary
  | not
  | and
  | or
  | opening
  | closing
  deriving DecidableEq

def unaryQuestions : List String :=
  ["-r", "-w", "-x", "-e", "-f", "-d", "-c", "-b", "-p", "-u", "-g", "-k", "-s", "-t", "-z", "-n",
   "-h", "-O", "-G", "-L", "-S"]

def binaryQuestions : List String :=
  ["=", "!=", "<", ">", "-eq", "-ne", "-ge", "-gt", "-le", "-lt", "-nt", "-ot", "-ef"]

def questionWord? (w : String) : Option QuestionWord :=
  match w with
  | "!" => some .not
  | "-a" => some .and
  | "-o" => some .or
  | "(" => some .opening
  | ")" => some .closing
  | _ =>
    if unaryQuestions.contains w then some .unary
    else if binaryQuestions.contains w then some .binary
    else none

def askOne (s : State) (question w : String) : Bool :=
  let node := (s.node w).toOption
  let holds (p : Node → Bool) : Bool := node.any p
  match question with
  | "-n" => !w.isEmpty
  | "-z" => w.isEmpty
  | "-e" | "-r" | "-w" | "-O" | "-G" => node.isSome
  | "-f" => holds Node.isFile
  | "-d" => holds Node.isDirectory
  | "-x" => holds fun n => n.isDirectory || n.stamp.isRunnable
  | "-s" => holds fun n => n.size != 0
  | "-c" => holds fun n => !n.isDirectory && !n.isFile
  | "-u" => holds fun n => n.stamp.mode &&& 0o4000 != 0
  | "-g" => holds fun n => n.stamp.mode &&& 0o2000 != 0
  | "-k" => holds fun n => n.stamp.mode &&& 0o1000 != 0
  | "-h" | "-L" => ((s.entry w).toOption.bind s.disk.at?).any Node.isLink
  | _ => false

def questionNumber (w : String) : Except String Int :=
  let cs := w.toList.dropWhile isSpace
  let (negative, ds) :=
    match cs with
    | '-' :: ds => (true, ds)
    | '+' :: ds => (false, ds)
    | ds => (false, ds)
  let (n, rest) := digitsValue 10 0 ds
  if ds.head?.any Char.isDigit && rest.all isSpace then .ok (if negative then -(n : Int) else n)
  else .error ("Illegal number: " ++ w)

def askTwo (s : State) (a question b : String) : Except String Bool :=
  let numbers (decide : Int → Int → Bool) : Except String Bool := do
    pure (decide (← questionNumber a) (← questionNumber b))
  let times (decide : Nat → Nat → Bool) : Except String Bool :=
    match s.node a, s.node b with
    | .ok m, .ok n => .ok (decide m.stamp.time n.stamp.time)
    | _, _ => .ok false
  match question with
  | "=" => .ok (a == b)
  | "!=" => .ok (a != b)
  | "<" => .ok (decide (a < b))
  | ">" => .ok (decide (b < a))
  | "-eq" => numbers (· == ·)
  | "-ne" => numbers (· != ·)
  | "-lt" => numbers fun m n => m < n
  | "-le" => numbers fun m n => m ≤ n
  | "-gt" => numbers fun m n => n < m
  | "-ge" => numbers fun m n => n ≤ m
  | "-nt" => times fun m n => n < m
  | "-ot" => times fun m n => m < n
  | _ =>
    match s.find a, s.find b with
    | .ok m, .ok n => .ok (m == n)
    | _, _ => .ok false

/-- A condition that is decided: its words and the word that is looked at. -/
structure Questioning where
  words : Array String
  position : Nat

abbrev Ask := StateT Questioning (Except String)

namespace Ask

def classify (words : Array String) (i : Nat) : Option (Option QuestionWord) :=
  words[i]?.map fun w =>
    match questionWord? w with
    | some .unary =>
      match words[i + 1]?, words[i + 2]? with
      | none, _ => none
      | some _, none => some .unary
      | some v, some _ => if questionWord? v = some .binary then none else some .unary
    | some .opening => if words[i + 1]?.isSome then some .opening else none
    | k => k

def wordAt (i : Nat) : Ask String := do pure ((← get).words[i]?.getD "")

def moveBy (n : Nat) : Ask Unit := modify fun q => { q with position := q.position + n }

mutual

def disjunction (s : State) (fuel : Nat) (result : Bool) : Ask Bool :=
  match fuel with
  | 0 => pure result
  | fuel + 1 => do
    let r ← conjunction s fuel true
    let result := result || r
    let q ← get
    if classify q.words (q.position + 1) = some (some .or) then
      moveBy 2
      disjunction s fuel result
    else pure result
termination_by fuel

def conjunction (s : State) (fuel : Nat) (result : Bool) : Ask Bool :=
  match fuel with
  | 0 => pure result
  | fuel + 1 => do
    let r ← negation s fuel
    let result := result && r
    let q ← get
    if classify q.words (q.position + 1) = some (some .and) then
      moveBy 2
      conjunction s fuel result
    else pure result
termination_by fuel

def negation (s : State) (fuel : Nat) : Ask Bool :=
  match fuel with
  | 0 => pure false
  | fuel + 1 => do
    let q ← get
    if classify q.words q.position = some (some .not) then
      if (classify q.words (q.position + 1)).isSome then
        moveBy 1
        pure (!(← negation s fuel))
      else pure true
    else primary s fuel
termination_by fuel

def primary (s : State) (fuel : Nat) : Ask Bool :=
  match fuel with
  | 0 => pure false
  | fuel + 1 => do
    let q ← get
    match classify q.words q.position with
    | none => pure false
    | some (some .opening) =>
      moveBy 1
      if classify q.words (q.position + 1) = some (some .closing) then pure false
      else
        let r ← disjunction s fuel false
        moveBy 1
        let q ← get
        unless classify q.words q.position = some (some .closing) do
          throw "closing paren expected"
        pure r
    | some (some .unary) =>
      let question ← wordAt q.position
      moveBy 1
      pure (askOne s question (← wordAt (q.position + 1)))
    | _ =>
      if classify q.words (q.position + 1) = some (some .binary) then
        moveBy 2
        let question ← wordAt (q.position + 1)
        if q.words[q.position + 2]?.isNone then throw (question ++ ": argument expected")
        let a ← wordAt q.position
        let b ← wordAt (q.position + 2)
        match askTwo s a question b with
        | .ok r => pure r
        | .error complaint => throw complaint
      else pure (!(← wordAt q.position).isEmpty)
termination_by fuel

end

def whole (s : State) (fuel : Nat) : Ask Bool := do
  let r ← disjunction s fuel false
  let q ← get
  if q.words[q.position]?.isSome && q.words[q.position + 1]?.isSome then
    throw ((← wordAt q.position) ++ ": unexpected operator")
  pure r

end Ask

def holds (s : State) (words : List String) : Except String Bool :=
  let decide (words : List String) : Except String Bool :=
    (Ask.whole s (8 * words.length + 8)).run' ⟨words.toArray, 0⟩
  match words with
  | [] => .ok false
  | [a, b, c] =>
    if questionWord? b = some .binary then askTwo s a b c
    else if a = "(" && c = ")" then decide [b]
    else if a = "!" then (holds s [b, c]).map (!·)
    else decide words
  | [a, b, c, d] =>
    if a = "(" && d = ")" then decide [b, c]
    else if a = "!" then (holds s [b, c, d]).map (!·)
    else decide words
  | _ => decide words
termination_by words.length

end Shell
end FeatureRunner
