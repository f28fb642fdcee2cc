import FeatureRunner.Text.Numeral
import FeatureRunner.Text.Segments

/-!
This module contains permission bits as they are written: as octal numbers or as changes of the bits
that are set. It serves the outer layer, which starts real commands; no result is about it.
-/

namespace FeatureRunner
namespace Shell
namespace Mode

def octal? (text : String) : Option Nat :=
  let cs := text.toList
  if !cs.isEmpty && cs.all fun c => '0' ≤ c && c ≤ '7' then
    some (cs.foldl (fun n c => 8 * n + (c.toNat - '0'.toNat)) 0)
  else none

def octalText (width n : Nat) : String :=
  let digits := Nat.toDigits 8 n
  String.ofList (List.replicate (width - digits.length) '0' ++ digits)

def usersMask? : Char → Option Nat
  | 'u' => some 0o4700
  | 'g' => some 0o2070
  | 'o' => some 0o1007
  | 'a' => some 0o7777
  | _ => none

def permissionBits? (isFolder : Bool) (mode : Nat) : Char → Option Nat
  | 'r' => some 0o444
  | 'w' => some 0o222
  | 'x' => some 0o111
  | 'X' => some (if isFolder || mode &&& 0o111 != 0 then 0o111 else 0)
  | 's' => some 0o6000
  | 't' => some 0o1000
  | 'u' => some (((mode / 64) % 8) * 0o111)
  | 'g' => some (((mode / 8) % 8) * 0o111)
  | 'o' => some ((mode % 8) * 0o111)
  | _ => none

def operations? (isFolder : Bool) (users : Nat) (fuel mode : Nat) (cs : List Char)
    : Option Nat :=
  match fuel, cs with
  | 0, _ => none
  | _ + 1, [] => some mode
  | fuel + 1, op :: rest =>
    let letters := rest.takeWhile fun c => c ≠ '+' && c ≠ '-' && c ≠ '='
    match letters.mapM (permissionBits? isFolder mode) with
    | none => none
    | some bits =>
      let bits := (bits.foldl (· ||| ·) 0) &&& users
      let others := 0o7777 - users
      let next : Option Nat :=
        match op with
        | '+' => some (mode ||| bits)
        | '-' => some (mode - (mode &&& bits))
        | '=' => some ((mode &&& (others ||| (if isFolder then 0o6000 else 0))) ||| bits)
        | _ => none
      next.bind fun mode => operations? isFolder users fuel mode (rest.drop letters.length)

/-- The bits that a clause makes of others. `mask` are those that nobody gets who is not named. -/
def clause? (isFolder : Bool) (mask mode : Nat) (cs : List Char) : Option Nat :=
  let letters := cs.takeWhile fun c => (usersMask? c).isSome
  let users :=
    if letters.isEmpty then 0o7777 - (0o777 &&& mask)
    else (letters.filterMap usersMask?).foldl (· ||| ·) 0
  let rest := cs.drop letters.length
  if rest.isEmpty then none else operations? isFolder users (rest.length + 1) mode rest

/-- The bits that a text makes of others: an octal number or clauses with commas between them. -/
def changed? (isFolder : Bool) (mask mode : Nat) (text : String) : Option Nat :=
  match octal? text with
  | some n => if n ≤ 0o7777 then some n else none
  | none =>
    (Text.segments ',' text.toList).foldl
      (fun mode clause => mode.bind fun mode => clause? isFolder mask mode clause) (some mode)

def letters (bits : Nat) : String :=
  (if bits &&& 4 != 0 then "r" else "") ++ (if bits &&& 2 != 0 then "w" else "") ++
    if bits &&& 1 != 0 then "x" else ""

def symbolic (mode : Nat) : String :=
  "u=" ++ letters (mode / 64 % 8) ++ ",g=" ++ letters (mode / 8 % 8) ++ ",o=" ++
    letters (mode % 8)

def dashed (mode : Nat) : String :=
  let triple (bits special : Nat) (set unset : Char) : List Char :=
    [if bits &&& 4 != 0 then 'r' else '-', if bits &&& 2 != 0 then 'w' else '-',
     if special != 0 then (if bits &&& 1 != 0 then set else unset)
     else if bits &&& 1 != 0 then 'x' else '-']
  String.ofList (triple (mode / 64 % 8) (mode &&& 0o4000) 's' 'S' ++
    triple (mode / 8 % 8) (mode &&& 0o2000) 's' 'S' ++
    triple (mode % 8) (mode &&& 0o1000) 't' 'T')

end Mode
end Shell
end FeatureRunner
