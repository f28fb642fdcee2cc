import FeatureRunner.Shell.Statement
import FeatureRunner.Text.Numeral

/-!
This module contains the braces of the extended dialect, which make several words of one: a list of
alternatives with commas, or a range of numbers or letters. It serves the outer layer, which starts
real commands; no result is about it.
-/

namespace FeatureRunner
namespace Shell

/-- A character of a word, or a part of it that braces do not look into. -/
inductive BraceItem where
  | char (c : Char)
  | part (p : Part)

def braceItems (w : Word) : List BraceItem :=
  w.flatMap fun
    | .chars false cs => cs.map .char
    | p => [.part p]

def wordOfItems : List BraceItem → Word
  | [] => []
  | .part p :: items => p :: wordOfItems items
  | .char c :: items =>
    match wordOfItems items with
    | .chars false cs :: ps => .chars false (c :: cs) :: ps
    | ps => .chars false [c] :: ps

def alternatives (depth : Nat) (current : List BraceItem) (done : List (List BraceItem))
    : List BraceItem → Option (List (List BraceItem) × List BraceItem)
  | [] => none
  | .char '\x7b' :: items => alternatives (depth + 1) (.char '\x7b' :: current) done items
  | .char '\x7d' :: items =>
    match depth with
    | 0 => some ((current.reverse :: done).reverse, items)
    | depth + 1 => alternatives depth (.char '\x7d' :: current) done items
  | .char ',' :: items =>
    if depth = 0 then alternatives 0 [] (current.reverse :: done) items
    else alternatives depth (.char ',' :: current) done items
  | i :: items => alternatives depth (i :: current) done items

def itemChars? (items : List BraceItem) : Option (List Char) :=
  items.mapM fun
    | .char c => some c
    | .part _ => none

def itemInt? : List Char → Option Int
  | '-' :: cs => (Numeral.value? cs).map fun n => -(n : Int)
  | cs => (Numeral.value? cs).map fun n => (n : Int)

def rangeNumbers (m n step : Int) : List Int :=
  let size := if step = 0 then 1 else step.natAbs
  let count := (n - m).natAbs / size + 1
  (List.range count).map fun i => if m ≤ n then m + (i * size : Nat) else m - (i * size : Nat)

def padded (width : Nat) (n : Int) : String :=
  let digits := Numeral.decimalChars n.natAbs
  let front := if n < 0 then ['-'] else []
  String.ofList (front ++ List.replicate (width - front.length - digits.length) '0' ++ digits)

def paddedWidth (cs : List Char) : Nat :=
  match if cs.head? == some '-' then cs.drop 1 else cs with
  | '0' :: _ :: _ => cs.length
  | _ => 0

def rangeTexts? (cs : List Char) : Option (List String) :=
  match (String.ofList cs).splitOn ".." with
  | [a, b] => go a.toList b.toList 1
  | [a, b, step] => (itemInt? step.toList).bind (go a.toList b.toList)
  | _ => none
where
  go (a b : List Char) (step : Int) : Option (List String) :=
    match itemInt? a, itemInt? b with
    | some m, some n =>
      let width := max (paddedWidth a) (paddedWidth b)
      let width := if width = 0 then 0 else max a.length b.length
      some ((rangeNumbers m n step).map (padded width))
    | _, _ =>
      match a, b with
      | [c], [d] =>
        if c.isAlpha && d.isAlpha then
          some ((rangeNumbers c.toNat d.toNat step).map fun n => (Char.ofNat n.toNat).toString)
        else none
      | _, _ => none

def expandItems (fuel : Nat) (items : List BraceItem) : List (List BraceItem) :=
  match fuel, items with
  | 0, _ | _, [] => [items]
  | fuel + 1, .char '\x7b' :: rest =>
    let kept := (expandItems fuel rest).map (.char '\x7b' :: ·)
    match alternatives 0 [] [] rest with
    | none => kept
    | some ([only], rest) =>
      match (itemChars? only).bind rangeTexts? with
      | some texts =>
        let tails := expandItems fuel rest
        texts.flatMap fun t => tails.map fun tail => t.toList.map .char ++ tail
      | none => kept
    | some (choices, rest) =>
      let tails := expandItems fuel rest
      (choices.flatMap (expandItems fuel)).flatMap fun head => tails.map (head ++ ·)
  | fuel + 1, i :: rest => (expandItems fuel rest).map (i :: ·)

def expandBraces (w : Word) : List Word :=
  let items := braceItems w
  if items.any fun | .char '\x7b' => true | _ => false then
    (expandItems (items.length + 1) items).map wordOfItems
  else [w]

end Shell
end FeatureRunner
