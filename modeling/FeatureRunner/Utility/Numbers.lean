import FeatureRunner.Shell.Format
import FeatureRunner.Utility.Basic
import FeatureRunner.Utility.Regex

/-!
This module contains the utilities that work on numbers: sequences, and expressions whose operators
and operands are arguments. It serves the outer layer, where commands start programs; no result is
about it.
-/

namespace FeatureRunner
namespace Utility

open Shell

/-! ### Sequences -/

structure DecimalFraction where
  value : Int
  places : Nat

namespace DecimalFraction

def ofText? (text : String) : Option DecimalFraction :=
  let (negative, cs) :=
    match text.toList.dropWhile isSpace with
    | '-' :: cs => (true, cs)
    | '+' :: cs => (false, cs)
    | cs => (false, cs)
  let whole := cs.takeWhile Char.isDigit
  let rest := cs.drop whole.length
  let behind? : Option (List Char) :=
    match rest with
    | [] => some []
    | '.' :: ds => if ds.all Char.isDigit then some ds else none
    | _ => none
  behind?.bind fun behind =>
    (Numeral.value? (whole ++ behind)).map fun n =>
      ⟨if negative then -(n : Int) else n, behind.length⟩

def scaledTo (d : DecimalFraction) (places : Nat) : Int :=
  d.value * (Nat.pow 10 (places - d.places) : Nat)

def text (value : Int) (places : Nat) : String :=
  String.ofList ((if value < 0 then ['-'] else []) ++ Binary.withPoint value.natAbs places)

end DecimalFraction

def zeroPadded (width : Nat) (text : String) : String :=
  match text.toList with
  | '-' :: cs => String.ofList ('-' :: List.replicate (width - text.length) '0' ++ cs)
  | cs => String.ofList (List.replicate (width - text.length) '0' ++ cs)

def seqArguments : List String → List String
  | [] => []
  | a :: rest =>
    match a.toList with
    | '-' :: c :: _ =>
      if c.isDigit || c = '.' then "--" :: a :: rest
      else if a = "-f" || a = "-s" then
        match rest with
        | v :: rest => a :: v :: seqArguments rest
        | [] => [a]
      else a :: seqArguments rest
    | _ => a :: rest

def seq : Utility := fun arguments =>
  let options : Options :=
    { flags := "w", valued := "fs", inOrder := true
      long := [("equal-width", "w", false), ("format", "f", true), ("separator", "s", true)] }
  withOptions options 1 (arguments.take 1 ++ seqArguments (arguments.drop 1)) fun name a => do
    let numbers := a.operands.map DecimalFraction.ofText?
    match a.operands, numbers with
    | [], _ => misuse name "missing operand"
    | _ :: _ :: _ :: extra :: _, _ => misuse name ("extra operand " ++ quote extra)
    | operands, numbers =>
      match (operands.zip numbers).find? (·.2.isNone) with
      | some (bad, _) => misuse name ("invalid floating point argument: " ++ quote bad)
      | none =>
        let one : DecimalFraction := ⟨1, 0⟩
        let (first, step, last) : DecimalFraction × DecimalFraction × DecimalFraction :=
          match numbers.filterMap id with
          | [last] => (one, one, last)
          | [first, last] => (first, one, last)
          | [first, step, last] => (first, step, last)
          | _ => (one, one, one)
        if step.value = 0 then
          misuse name ("invalid Zero increment value: " ++ quote ((operands[1]?).getD ""))
        else
          let shown := max first.places step.places
          let places := max shown last.places
          let from' := first.scaledTo places
          let by' := step.scaledTo places
          let to' := last.scaledTo places
          let count := ((to' - from') / by' + 1).toNat
          let count := if (0 < by' && to' < from') || (by' < 0 && from' < to') then 0 else count
          let values := (List.range count).map fun (i : Nat) => from' + by' * i
          let text (v : Int) : String :=
            DecimalFraction.text (v / (Nat.pow 10 (places - shown) : Nat)) shown
          let width :=
            if a.has "w" then max (text from').length (text (values.getLast?.getD from')).length
            else 0
          let shownText (v : Int) : String :=
            match a.value? "f" with
            | some format =>
              String.ofList (formatText format [DecimalFraction.text v places]).output.reverse
            | none => zeroPadded width (text v)
          unless values.isEmpty do
            print (String.intercalate ((a.value? "s").getD "\n") (values.map shownText) ++ "\n")
          pure 0

/-! ### Expressions -/

abbrev Evaluate := StateT (List String) (Except (String × Nat))

namespace Expression

def next : Evaluate (Option String) := do
  let words ← get
  set (words.drop 1)
  pure words.head?

def complainAbout (text : String) (status : Nat := 2) : Evaluate α :=
  throw (text, status)

def int? (text : String) : Option Int :=
  match text.toList with
  | '-' :: ds => (Numeral.value? ds).map fun n => -(n : Int)
  | ds => (Numeral.value? ds).map fun n => (n : Int)

def isNothing (text : String) : Bool :=
  text.isEmpty ||
    match text.toList with
    | '-' :: ds => !ds.isEmpty && ds.all (· == '0')
    | ds => ds.all (· == '0')

def integer (text : String) : Evaluate Int :=
  match int? text with
  | some n => pure n
  | none => complainAbout "non-integer argument"

def truth (b : Bool) : String := if b then "1" else "0"

def matched (text pattern : String) : Evaluate String :=
  match Regex.ofChars? false pattern.toList with
  | .error complaint => complainAbout complaint
  | .ok r =>
    let cs := text.toList
    let hasGroup := (pattern.splitOn "\\(").length > 1
    match r.matchAt? (r.subject false cs) 0 with
    | some m => pure (if hasGroup then String.ofList (m.group cs 1) else Numeral.decimal m.stop)
    | none => pure (if hasGroup then "" else "0")

def levels : List (List String) :=
  [["|"], ["&"], ["<", "<=", "=", "==", "!=", ">=", ">"], ["+", "-"], ["*", "/", "%"], [":"]]

def compare (operator a b : String) : String :=
  let order : Ordering :=
    match int? a, int? b with
    | some m, some n => Ord.compare m n
    | _, _ => if a < b then .lt else if a = b then .eq else .gt
  truth (match operator with
    | "<" => order = .lt
    | "<=" => order ≠ .gt
    | "=" | "==" => order = .eq
    | "!=" => order ≠ .eq
    | ">=" => order ≠ .lt
    | _ => order = .gt)

def operate (operator a b : String) : Evaluate String := do
  match operator with
  | "|" => pure (if !isNothing a then a else if !isNothing b then b else "0")
  | "&" => pure (if isNothing a || isNothing b then "0" else a)
  | ":" => matched a b
  | "+" => do pure (Numeral.decimalInt ((← integer a) + (← integer b)))
  | "-" => do pure (Numeral.decimalInt ((← integer a) - (← integer b)))
  | "*" => do pure (Numeral.decimalInt ((← integer a) * (← integer b)))
  | "/" | "%" =>
    let m ← integer a
    let n ← integer b
    if n = 0 then complainAbout "division by zero"
    else pure (Numeral.decimalInt (if operator = "/" then m.tdiv n else m.tmod n))
  | _ => pure (compare operator a b)

mutual

def operand (fuel : Nat) (last : String) : Evaluate String :=
  match fuel with
  | 0 => pure ""
  | fuel + 1 => do
    match ← next with
    | none => complainAbout ("syntax error: missing argument after " ++ quote last)
    | some "(" =>
      let v ← level fuel "(" levels
      match ← next with
      | some ")" => pure v
      | some w => complainAbout ("syntax error: expecting ')' instead of " ++ quote w)
      | none => complainAbout ("syntax error: expecting ')' after " ++ quote v)
    | some ")" => complainAbout "syntax error: unexpected ')'"
    | some "+" => do
      match ← next with
      | some w => pure w
      | none => complainAbout "syntax error: missing argument after '+'"
    | some "length" => do pure (Numeral.decimal (← operand fuel "length").length)
    | some "match" => do
      let a ← operand fuel "match"
      matched a (← operand fuel a)
    | some "index" => do
      let a ← operand fuel "index"
      let b ← operand fuel a
      let found := a.toList.findIdx? fun c => b.toList.contains c
      pure (Numeral.decimal ((found.map (· + 1)).getD 0))
    | some "substr" => do
      let a ← operand fuel "substr"
      let b ← operand fuel a
      let c ← operand fuel b
      match int? b, int? c with
      | some m, some n =>
        if m ≤ 0 || n ≤ 0 then pure ""
        else pure (String.ofList ((a.toList.drop (m.toNat - 1)).take n.toNat))
      | _, _ => pure ""
    | some w => pure w
termination_by fuel

def level (fuel : Nat) (last : String) : List (List String) → Evaluate String
  | [] =>
    match fuel with
    | 0 => pure ""
    | fuel + 1 => operand fuel last
  | operators :: stronger =>
    match fuel with
    | 0 => pure ""
    | fuel + 1 => do chain fuel operators stronger (← level fuel last stronger)
termination_by fuel

def chain (fuel : Nat) (operators : List String) (stronger : List (List String)) (a : String)
    : Evaluate String :=
  match fuel with
  | 0 => pure a
  | fuel + 1 => do
    match (← get).head? with
    | some o =>
      if operators.contains o then
        let _ ← next
        let b ← level fuel o stronger
        chain fuel operators stronger (← operate o a b)
      else pure a
    | none => pure a
termination_by fuel

end

end Expression

def expr : Utility := fun arguments => do
  let name := arguments.head?.getD ""
  let words := arguments.drop 1
  let words := if words.head? = some "--" then words.drop 1 else words
  if words.isEmpty then misuse name "missing operand" 2
  else
    match (Expression.level (20 * words.length + 20) name Expression.levels).run words with
    | .error (complaint, status) =>
      complainAs name complaint
      pure status
    | .ok (_, extra :: _) =>
      complainAs name ("syntax error: unexpected argument " ++ quote extra)
      pure 2
    | .ok (value, []) =>
      print (value ++ "\n")
      pure (if Expression.isNothing value then 1 else 0)

/-! ### Factors -/

def factorsFrom (fuel d n : Nat) : List Nat :=
  match fuel with
  | 0 => [n]
  | fuel + 1 =>
    if n ≤ 1 then []
    else if n < d * d then [n]
    else if n % d = 0 then d :: factorsFrom fuel d (n / d)
    else factorsFrom fuel (d + if d = 2 then 1 else 2) n

def factorAttempts : Nat := 2000000

def factor : Utility := fun arguments => do
  let name := arguments.head?.getD ""
  let words := arguments.drop 1
  let s ← get
  let (r, rest) := s.take 0 none
  if words.isEmpty then set rest
  let read := ((r.toOption.getD []).splitBy fun c d => isSpace c == isSpace d).filter fun w =>
    !w.any isSpace
  let words := if words.isEmpty then read.map String.ofList else words
  forEach words fun w => do
    match number? w with
    | some n =>
      let factors := factorsFrom factorAttempts 2 n
      print (Numeral.decimal n ++ ":" ++
        String.join (factors.map fun d => " " ++ Numeral.decimal d) ++ "\n")
      pure true
    | none =>
      complainAs name (quoteName w ++ " is not a valid positive integer")
      pure false

end Utility
end FeatureRunner
