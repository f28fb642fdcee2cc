import FeatureRunner.Utility.Fields
import FeatureRunner.Utility.Files

/-!
This module contains the utilities that bring lines of two files together by a common field, and
that cut a file into several ones. It serves the outer layer, where commands start programs; no
result is about it.
-/

namespace FeatureRunner
namespace Utility

open Shell

/-! ### Lines with a common field -/

/-- A line of a file, as far as it matters which other lines fit it. -/
structure KeyedLine where
  key : List Char
  fields : List (List Char)

def keyedLines (separator : Option Char) (number : Nat) (cs : List Char) : List KeyedLine :=
  (linesOf cs).map fun line =>
    let fields :=
      match separator with
      | some c => Text.segments c line
      | none => (line.splitBy fun c d => isBlank c == isBlank d).filter fun w => !w.any isBlank
    ⟨(fields[number - 1]?).getD [], fields⟩
where
  isBlank (c : Char) : Bool := c == ' ' || c == '\t'

/-- Two lines with the same key, or one that no other line fits. -/
inductive Joined where
  | both (x y : KeyedLine)
  | first (x : KeyedLine)
  | second (y : KeyedLine)

def joinedLines (fuel : Nat) (xs ys : List KeyedLine) : List Joined :=
  match fuel, xs, ys with
  | 0, _, _ => []
  | _, xs, [] => xs.map .first
  | _, [], ys => ys.map .second
  | fuel + 1, x :: xs, y :: ys =>
    match compareBytes x.key y.key with
    | .lt => .first x :: joinedLines fuel xs (y :: ys)
    | .gt => .second y :: joinedLines fuel (x :: xs) ys
    | .eq =>
      let same (z : KeyedLine) : Bool := z.key == x.key
      let pairs := (x :: xs.takeWhile same).flatMap fun x =>
        (y :: ys.takeWhile same).map fun y => Joined.both x y
      pairs ++ joinedLines fuel (xs.dropWhile same) (ys.dropWhile same)

def outputFields? (text : String) : Option (List (Nat × Nat)) :=
  let words := (text.toList.splitBy fun c d => (c != ',' && c != ' ') == (d != ',' && d != ' '))
  (words.filter fun w => w.all fun c => c != ',' && c != ' ').mapM fun w =>
    match Text.segments '.' w with
    | [['0']] => some (0, 0)
    | [['1'], n] => (Numeral.value? n).map (1, ·)
    | [['2'], n] => (Numeral.value? n).map (2, ·)
    | _ => none

def joinedText (a : Arguments) (separator : Char) (first second : Nat) (j : Joined)
    : List Char :=
  let missing := ((a.value? "e").getD "").toList
  let without (n : Nat) (x : KeyedLine) : List (List Char) := x.fields.eraseIdx (n - 1)
  let (key, x?, y?) :=
    match j with
    | .both x y => (x.key, some x, some y)
    | .first x => (x.key, some x, none)
    | .second y => (y.key, none, some y)
  let fields :=
    match (a.value? "o").bind outputFields? with
    | some chosen =>
      chosen.map fun (file, n) =>
        let field :=
          if file = 0 then some key
          else ((if file = 1 then x? else y?).bind fun z => z.fields[n - 1]?)
        match field with
        | some [] | none => missing
        | some cs => cs
    | none =>
      key :: (x?.elim [] (without first) ++ y?.elim [] (without second))
  Text.joinWith separator fields

def disorder? (number : Nat) : List KeyedLine → Option (Nat × KeyedLine)
  | x :: y :: rest =>
    if compareBytes y.key x.key = .lt then some (number + 1, y) else disorder? (number + 1) (y :: rest)
  | _ => none

def join : Utility := fun arguments =>
  let options : Options := { flags := "iz", valued := "12avtoej" }
  withOptions options 1 arguments fun name a => do
    match a.operands with
    | [] => misuse name "missing operand"
    | [only] => misuse name ("missing operand after " ++ quote only)
    | p :: q :: _ =>
      let number (key : String) : Nat :=
        (((a.value? key).orElse fun _ => a.value? "j").bind number?).getD 1
      let separator := (a.value? "t").bind fun t => t.toList.head?
      match ← contentOf p, ← contentOf q with
      | .error f, _ => do pure (if ← failing name (quoteSpecial p) f then 0 else 1)
      | _, .error f => do pure (if ← failing name (quoteSpecial q) f then 0 else 1)
      | .ok cs, .ok ds =>
        let xs := keyedLines separator (number "1") cs
        let ys := keyedLines separator (number "2") ds
        let only := a.values "v"
        let shows (j : Joined) : Bool :=
          match j with
          | .both _ _ => only.isEmpty
          | .first _ => only.contains "1" || (a.values "a").contains "1"
          | .second _ => only.contains "2" || (a.values "a").contains "2"
        let joined := joinedLines (xs.length + ys.length + 1) xs ys
        print (joinLines ((joined.filter shows).map
          (joinedText a (separator.getD ' ') (number "1") (number "2"))))
        let faults := [(p, disorder? 1 xs), (q, disorder? 1 ys)].filterMap fun (path, d) =>
          d.map fun (n, x) =>
            path ++ ":" ++ Numeral.decimal n ++ ": is not sorted: " ++
              String.ofList (Text.joinWith (separator.getD ' ') x.fields)
        for fault in faults do complainAs name fault
        if faults.isEmpty then pure 0
        else
          complainAs name "input is not in sorted order"
          pure 1

/-! ### Parts of a file -/

def partSuffix (digits : Bool) (width n : Nat) : String :=
  let base := if digits then 10 else 26
  String.ofList ((List.range width).reverse.map fun i =>
    let d := n / Nat.pow base i % base
    Char.ofNat ((if digits then '0' else 'a').toNat + d))

def inParts (fuel size : Nat) (xs : List α) : List (List α) :=
  match fuel with
  | 0 => []
  | fuel + 1 => if xs.isEmpty then [] else xs.take size :: inParts fuel size (xs.drop size)

def inShares (count : Nat) (cs : List Char) : List (List Char) :=
  let size := cs.length / count
  (List.range count).map fun i =>
    if i + 1 = count then cs.drop (i * size) else (cs.drop (i * size)).take size

def split : Utility := fun arguments =>
  let options : Options :=
    { flags := "du", valued := "lbaCn"
      long := [("lines", "l", true), ("bytes", "b", true), ("suffix-length", "a", true),
        ("numeric-suffixes", "d", false), ("number", "n", true),
        ("additional-suffix", "suffix", true), ("verbose", "v", false)] }
  withOptions options 1 arguments fun name a => do
    let path := (a.operands.head?).getD "-"
    let front := (a.operands[1]?).getD "x"
    let width := ((a.value? "a").bind number?).getD 2
    let size (key : String) : Except String Nat :=
      match a.value? key with
      | none => .ok 1000
      | some text =>
        match byteCount? text with
        | some (n + 1) => .ok (n + 1)
        | _ =>
          .error ("invalid number of " ++
            (if key = "b" then "bytes" else if key = "l" then "lines" else "chunks") ++ ": " ++
            quoteName text)
    let cut (cs : List Char) : Except String (List (List Char)) :=
      if a.has "b" then (size "b").map fun n => inParts (cs.length + 1) n cs
      else if a.has "n" then (size "n").map fun n => inShares n cs
      else
        (size "l").map fun n =>
          let lines := Text.segments '\n' cs
          let whole := lines.dropLast.map (· ++ ['\n'])
          let rest := (lines.getLast?).getD []
          (inParts (lines.length + 1) n (whole ++ if rest.isEmpty then [] else [rest])).map
            List.flatten
    match cut [] with
    | .error complaint =>
      complainAs name complaint
      pure 1
    | .ok _ =>
      match ← contentOf path with
      | .error f =>
        complainAs name ("cannot open " ++ quoteName path ++ " for reading: " ++ f.systemText)
        pure 1
      | .ok cs =>
        let parts := ((cut cs).toOption.getD []).zipIdx
        forEach parts fun (part, i) => do
          let target := front ++ partSuffix (a.has "d") width i ++ (a.value? "suffix").getD ""
          let s ← get
          match Files.writable s.disk.root s.cwd ⟨ofBytes target⟩ with
          | .error f => failing name target f
          | .ok names =>
            onDisk (·.write names (byteArray (String.ofList part)) s.fileMode)
            pure true

end Utility
end FeatureRunner
