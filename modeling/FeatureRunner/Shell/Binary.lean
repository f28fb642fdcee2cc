import FeatureRunner.Shell.Arithmetic

/-!
This module contains the numbers with a binary point that formats print: `Binary.ofText?` finds the
number of 53 bits that is nearest to a decimal text, and `Binary.fixed` and `Binary.scientific`
write it with as many decimals as are asked for. Halves go to the even neighbour. It serves the
outer layer, which starts real commands; no result is about it.
-/

namespace FeatureRunner
namespace Shell

def divideToEven (n d : Nat) : Nat :=
  let q := n / d
  let r := n % d
  if 2 * r < d then q
  else if d < 2 * r then q + 1
  else if q % 2 = 0 then q
  else q + 1

structure Binary where
  negative : Bool
  mantissa : Nat
  exponent : Int
  deriving DecidableEq

namespace Binary

def fraction (n : Nat) (base : Nat) (a : Int) : Nat × Nat :=
  if 0 ≤ a then (n * base.pow a.toNat, 1) else (n, base.pow (-a).toNat)

def ofFraction (negative : Bool) (n d : Nat) : Binary :=
  if n = 0 then ⟨negative, 0, 0⟩
  else
    let guess : Int := (n.log2 : Int) - (d.log2 : Int) - 53
    let scaled (e : Int) : Nat × Nat :=
      if 0 ≤ e then (n, d * Nat.pow 2 e.toNat) else (n * Nat.pow 2 (-e).toNat, d)
    let e := if (scaled guess).1 / (scaled guess).2 < 0x20000000000000 then guess else guess + 1
    let e := max e (-1074)
    let (n, d) := scaled e
    ⟨negative, divideToEven n d, e⟩

def digitRun (acc count : Nat) : List Char → Nat × Nat × List Char
  | c :: cs =>
    if c.isDigit then digitRun (10 * acc + (c.toNat - '0'.toNat)) (count + 1) cs
    else (acc, count, c :: cs)
  | [] => (acc, count, [])

def exponentAt (cs : List Char) : Int × List Char :=
  match cs with
  | e :: rest =>
    if e ≠ 'e' && e ≠ 'E' then (0, cs)
    else
      let (negative, digits) :=
        match rest with
        | '-' :: rest => (true, rest)
        | '+' :: rest => (false, rest)
        | rest => (false, rest)
      let (n, count, behind) := digitRun 0 0 digits
      let n := min n 400
      if count = 0 then (0, cs) else (if negative then -(n : Int) else n, behind)
  | [] => (0, [])

def unsigned? (negative : Bool) (cs : List Char) : Option (Binary × List Char) :=
  match cs with
  | '0' :: x :: d :: rest =>
    if (x = 'x' || x = 'X') && (digitOf? d).any (· < 16) then
      let (n, behind) := digitsValue 16 0 (d :: rest)
      some (ofFraction negative n 1, behind)
    else decimal? cs
  | cs => decimal? cs
where
  decimal? (cs : List Char) : Option (Binary × List Char) :=
    let (whole, wholeCount, rest) := digitRun 0 0 cs
    let (n, places, count, rest) :=
      match rest with
      | '.' :: rest' =>
        let (n, count, behind) := digitRun whole 0 rest'
        if wholeCount + count = 0 then (whole, 0, 0, rest) else (n, count, count, behind)
      | rest => (whole, 0, 0, rest)
    if wholeCount + count = 0 then none
    else
      let (e, rest) := exponentAt rest
      let (n, d) := fraction n 10 (e - places)
      some (ofFraction negative n d, rest)

def ofChars? (cs : List Char) : Option (Binary × List Char) :=
  match cs.dropWhile isSpace with
  | '-' :: cs => unsigned? true cs
  | '+' :: cs => unsigned? false cs
  | cs => unsigned? false cs

def asFraction (b : Binary) : Nat × Nat :=
  fraction b.mantissa 2 b.exponent

def withPoint (n places : Nat) : List Char :=
  let digits := Numeral.decimalChars n
  let digits := List.replicate (places + 1 - digits.length) '0' ++ digits
  let cut := digits.length - places
  if places = 0 then digits else digits.take cut ++ '.' :: digits.drop cut

def fixed (b : Binary) (places : Nat) : List Char :=
  let (n, d) := b.asFraction
  withPoint (divideToEven (n * Nat.pow 10 places) d) places

/-- The decimal exponent of the first digit, and the digits when there are `places` behind it. -/
def scaled (b : Binary) (places : Nat) : Int × Nat :=
  let (n, d) := b.asFraction
  if n = 0 then (0, 0)
  else
    let quotient (e : Int) : Nat :=
      let (up, down) := fraction 1 10 ((places : Int) - e)
      divideToEven (n * up) (d * down)
    let first : Int :=
      (Numeral.decimalChars n).length - (Numeral.decimalChars d).length
    let candidates := [first + 1, first, first - 1]
    let ok (e : Int) : Bool :=
      let (up, down) := fraction 1 10 (-e)
      d * down ≤ n * up
    let e := (candidates.find? ok).getD (first - 1)
    let digits := quotient e
    if Nat.pow 10 (places + 1) ≤ digits then (e + 1, quotient (e + 1)) else (e, digits)

def scientific (b : Binary) (places : Nat) (letter : Char) : List Char :=
  let (e, digits) := b.scaled places
  let power := Numeral.decimalChars e.natAbs
  withPoint digits places ++ letter :: (if e < 0 then '-' else '+') ::
    (if power.length < 2 then '0' :: power else power)

/-- The digits without zeros at the end of what is behind the point, and without an idle point. -/
def dropZeros (cs : List Char) : List Char :=
  if cs.contains '.' then
    ((cs.reverse.dropWhile (· == '0')).dropWhile (· == '.')).reverse
  else cs

def general (b : Binary) (digits : Nat) (keepsZeros : Bool) (letter : Char) : List Char :=
  let digits := max digits 1
  let (e, _) := b.scaled (digits - 1)
  if -4 ≤ e && e < digits then
    let cs := b.fixed ((digits : Int) - 1 - e).toNat
    if keepsZeros then cs else dropZeros cs
  else
    let cs := b.scientific (digits - 1) letter
    let front := cs.takeWhile (· != letter)
    if keepsZeros then cs else dropZeros front ++ cs.drop front.length

end Binary
end Shell
end FeatureRunner
