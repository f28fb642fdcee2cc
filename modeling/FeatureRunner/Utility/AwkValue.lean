import FeatureRunner.Utility.AwkScript

/-!
This module contains the values of `awk` scripts: their texts and numbers, arrays of them, what a
format prints of them, and how texts are split into lines and fields. It serves the outer layer,
where commands start programs; no result is about it.
-/

namespace FeatureRunner
namespace Utility
namespace Awk

open Shell

inductive Value where
  /-- What a variable holds that nothing was put into: no text and zero at once. -/
  | nothing
  | number (x : Float)
  | text (s : String)
  /-- A text from outside, which counts as a number if it looks like one. -/
  | input (s : String)

instance : Inhabited Value := ⟨.nothing⟩

/-! ### Numbers -/

def binaryOf (x : Float) : Binary :=
  let bits := x.toBits.toNat
  let hidden : Nat := 0x10000000000000
  let exponent : Nat := bits / hidden % 2048
  let mantissa := bits % hidden
  let isNegative : Bool := 0x8000000000000000 ≤ bits
  if exponent = 0 then ⟨isNegative, mantissa, -1074⟩
  else ⟨isNegative, mantissa + hidden, (exponent : Int) - 1075⟩

def oddWord? (x : Float) : Option (List Char) :=
  if x.isNaN then some ['-', 'n', 'a', 'n']
  else if x.isInf then some (if x < 0 then ['-', 'i', 'n', 'f'] else ['i', 'n', 'f'])
  else none

def wholePart (x : Float) : Int :=
  if x.isNaN then -9223372036854775808
  else if 18446744073709551615 ≤ x then 18446744073709551615
  else if x ≤ -9223372036854775808 then -9223372036854775807
  else
    let b := binaryOf x
    let (n, d) := b.asFraction
    if b.negative then -((n / d : Nat) : Int) else (n / d : Nat)

def wholeText? (x : Float) : Option String :=
  if x == x.floor && -9223372036854775808 ≤ x && x ≤ 18446744073709551616 then
    let n := wholePart x
    let n := if x == -9223372036854775808 then -9223372036854775808 else n
    some (if n < 0 then "-" ++ Numeral.decimal n.natAbs else Numeral.decimal n.natAbs)
  else none

def numberAt (cs : List Char) : Float × List Char :=
  let front := cs.dropWhile isSpace
  match Binary.ofChars? front with
  | some (b, rest) => (floatOf b, rest)
  | none =>
    let (isNegative, word) :=
      match front with
      | '-' :: cs => (true, cs)
      | '+' :: cs => (false, cs)
      | cs => (false, cs)
    let large : Float := 1 / 0
    if (word.take 3).map Char.toLower = ['i', 'n', 'f'] then
      (if isNegative then -large else large, word.drop 3)
    else if (word.take 3).map Char.toLower = ['n', 'a', 'n'] then (0 / 0, word.drop 3)
    else (0, cs)

def looksNumeric (s : String) : Bool :=
  let cs := s.toList.dropWhile isSpace
  match Binary.ofChars? cs with
  | some (_, rest) => rest.all isSpace && !cs.any fun c => c = 'x' || c = 'X'
  | none => false

namespace Value

def toNumber : Value → Float
  | nothing => 0
  | number x => x
  | text s | input s => (numberAt s.toList).1

def isNumeric : Value → Bool
  | nothing | number _ => true
  | text _ => false
  | input s => looksNumeric s

def isTrue : Value → Bool
  | nothing => false
  | number x => x != 0
  | text s => !s.isEmpty
  | input s => if looksNumeric s then (numberAt s.toList).1 != 0 else !s.isEmpty

def ofBool (b : Bool) : Value := number (if b then 1 else 0)

def ofNat (n : Nat) : Value := number n.toFloat

def ofInt (n : Int) : Value := number (Float.ofInt n)

end Value

/-! ### Formats -/

structure Printed where
  output : List Char := []
  fault : Option String := none

/-- Prints values by a format. `text` is how a value is written as a text, and `count` the number of
directives that were used. -/
def formatValues (text : Value → String) (fuel count : Nat) (printed : List Char)
    (cs : List Char) (values : List Value) : Printed :=
  match fuel, cs with
  | 0, _ | _, [] => { output := printed }
  | fuel + 1, '%' :: '%' :: cs => formatValues text fuel count ('%' :: printed) cs values
  | fuel + 1, '%' :: cs =>
    let missing : Printed :=
      { output := printed, fault := some "not enough arguments passed to " }
    let flags := cs.takeWhile fun c => c ∈ ['-', '0', '+', ' ', '#']
    /- A width or a precision, with what is behind it and the values that are left. -/
    let size (cs : List Char) (values : List Value) :
        Option (Option Int × List Char × List Value) :=
      match cs, values with
      | '*' :: _, [] => none
      | '*' :: cs, v :: values => some (some (wholePart v.toNumber), cs, values)
      | cs, values =>
        let digits := cs.takeWhile Char.isDigit
        some ((Numeral.value? digits).map fun n => (n : Int), cs.drop digits.length, values)
    match size (cs.drop flags.length) values with
    | none => missing
    | some (width, rest, values) =>
      let precision? : Option (Option Int × List Char × List Value) :=
        match rest with
        | '.' :: rest => (size rest values).map fun (p, r) => (some (p.getD 0), r)
        | rest => some (none, rest, values)
      match precision? with
      | none => missing
      | some (precision, rest, values) =>
        let width := width.getD 0
        let style : FieldStyle :=
          ⟨if width < 0 then '-' :: flags else flags, width.natAbs,
            precision.bind fun p => if p < 0 then none else some p.toNat⟩
        let rest := rest.dropWhile fun c => c = 'l' || c = 'h'
        match rest, values with
        | letter :: rest, values =>
          if !"cdiouxXeEfFgGs".toList.contains letter then
            { output := printed
              fault := some ("improper conversion(number " ++ Numeral.decimal (count + 1) ++
                ") in ") }
          else
            match values with
            | [] => missing
            | v :: values =>
              let cut (cs : List Char) : List Char := (style.precision.map cs.take).getD cs
              let whole := wholePart v.toNumber
              let shown : List Char :=
                if letter = 's' then style.pad (cut (text v).toList)
                else if letter = 'c' then
                  match v with
                  | .number _ => style.pad [Char.ofNat (whole % 256).toNat]
                  | v => style.pad (cut ((text v).toList.take 1))
                else if letter ∈ ['d', 'i', 'o', 'u', 'x', 'X'] then style.number letter whole
                else
                  match oddWord? v.toNumber with
                  | some word => style.pad word
                  | none => style.binary letter (binaryOf v.toNumber)
              formatValues text fuel (count + 1) (shown.reverse ++ printed) rest values
        | [], _ =>
          { output := printed
            fault := some ("improper conversion(number " ++ Numeral.decimal (count + 1) ++ ") in ") }
  | fuel + 1, c :: cs => formatValues text fuel count (c :: printed) cs values

def numberText (format : String) (x : Float) : String :=
  match wholeText? x with
  | some s => s
  | none =>
    let cs := format.toList
    String.ofList (formatValues (fun _ => "") (cs.length + 1) 0 [] cs [.number x]).output.reverse

def Value.toText (format : String) : Value → String
  | nothing => ""
  | number x => numberText format x
  | text s | input s => s

def Value.compare (format : String) (a b : Value) : Ordering :=
  if a.isNumeric && b.isNumeric then
    let x := a.toNumber
    let y := b.toNumber
    if x < y then .lt else if x == y then .eq else .gt
  else
    let s := a.toText format
    let t := b.toText format
    if s < t then .lt else if s = t then .eq else .gt

/-! ### Arrays -/

structure Entry where
  key : String
  value : Value
  isWhole : Bool

/-- An array: its elements in slots that their keys choose. An element that is asked for by a text
moves to the front of its slot. -/
structure Table where
  slots : Array (List Entry) := #[]

namespace Table

def slotOf (key : String) : Nat :=
  let hash := key.toList.foldl (fun (h : UInt32) c => (h ^^^ c.val) * 16777619) 2166136261
  hash.toNat % 64

def slot (t : Table) (i : Nat) : List Entry := t.slots[i]?.getD []

def setSlot (t : Table) (i : Nat) (entries : List Entry) : Table :=
  let slots := if t.slots.isEmpty then Array.replicate 64 [] else t.slots
  ⟨slots.setIfInBounds i entries⟩

def find? (t : Table) (key : String) : Option Value :=
  ((t.slot (slotOf key)).find? (·.key == key)).map (·.value)

def put (t : Table) (key : String) (isWhole : Bool) (value : Value) : Table :=
  let i := slotOf key
  let entries := t.slot i
  match entries.find? (·.key == key) with
  | some e =>
    if e.isWhole && isWhole then
      t.setSlot i (entries.map fun e => if e.key == key then { e with value } else e)
    else t.setSlot i (⟨key, value, false⟩ :: entries.filter (·.key != key))
  | none => t.setSlot i (⟨key, value, isWhole⟩ :: entries)

def erase (t : Table) (key : String) : Table :=
  let i := slotOf key
  t.setSlot i ((t.slot i).filter (·.key != key))

def size (t : Table) : Nat :=
  t.slots.foldl (fun n entries => n + entries.length) 0

def settled (t : Table) : Table :=
  let rank (e : Entry) : Nat := (Numeral.value? e.key.toList).getD 0 % 64
  ⟨t.slots.map fun entries =>
    let whole := (entries.filter (·.isWhole)).mergeSort fun a b => rank b ≤ rank a
    (whole.map fun e => { e with isWhole := false }) ++ entries.filter fun e => !e.isWhole⟩

def keys (t : Table) : List String :=
  t.slots.toList.flatMap fun entries => entries.map (·.key)

def ofTexts (texts : List String) : Table :=
  ((List.range texts.length).zip texts).foldl (fun t (i, s) =>
    t.put (Numeral.decimal (i + 1)) true (.input s)) {}

end Table

/-! ### Lines and fields -/

inductive Separator where
  | blanks
  | none
  | char (c : Char)
  | pattern (r : Regex)

namespace Separator

def ofText (s : String) : Except String Separator :=
  match s.toList with
  | [' '] => .ok .blanks
  | [] => .ok .none
  | [c] => .ok (.char c)
  | cs => (patternOf cs).map .pattern

def spans (r : Regex) (cs : List Char) : List (Nat × Nat) :=
  ((r.matches' false cs).filter fun m => m.start < m.stop).map fun m => (m.start, m.stop)

def between (cs : List Char) (start : Nat) : List (Nat × Nat) → List (List Char)
  | [] => [cs.drop start]
  | (first, last) :: rest => (cs.drop start).take (first - start) :: between cs last rest

def words (word : List Char) : List Char → List (List Char)
  | [] => if word.isEmpty then [] else [word.reverse]
  | c :: cs =>
    if c = ' ' || c = '\t' || c = '\n' then
      if word.isEmpty then words [] cs else word.reverse :: words [] cs
    else words (c :: word) cs

def split (s : Separator) (cs : List Char) : List String :=
  if cs.isEmpty then []
  else
    match s with
    | blanks => (words [] cs).map String.ofList
    | none => cs.map Char.toString
    | char c => (Text.segments c cs).map String.ofList
    | pattern r => (between cs 0 (spans r cs)).map String.ofList

end Separator

def recordAt (separator : Separator) (cs : List Char) : Option (List Char × List Char) :=
  if cs.isEmpty then none
  else
    match separator with
    | .none =>
      let cs := cs.dropWhile (· == '\n')
      if cs.isEmpty then none else some (paragraph [] cs)
    | .char c => some (cs.takeWhile (· != c), (cs.dropWhile (· != c)).drop 1)
    | .blanks => some (cs.takeWhile (· != ' '), (cs.dropWhile (· != ' ')).drop 1)
    | .pattern r =>
      match (Separator.spans r cs).head? with
      | some (first, last) => some (cs.take first, cs.drop last)
      | none => some (cs, [])
where
  paragraph (done : List Char) : List Char → List Char × List Char
    | '\n' :: '\n' :: rest => (done.reverse, rest.dropWhile (· == '\n'))
    | ['\n'] | [] => (done.reverse, [])
    | c :: rest => paragraph (c :: done) rest

def replacementFor (found : List Char) : List Char → List Char
  | '\\' :: '&' :: cs => '&' :: replacementFor found cs
  | '\\' :: '\\' :: cs => '\\' :: replacementFor found cs
  | '&' :: cs => found ++ replacementFor found cs
  | c :: cs => c :: replacementFor found cs
  | [] => []

def replaceMatches (new cs : List Char) (start : Nat) : List Regex.Match → List Char
  | [] => cs.drop start
  | m :: ms =>
    (cs.drop start).take (m.start - start) ++
      replacementFor ((cs.drop m.start).take (m.stop - m.start)) new ++
      replaceMatches new cs m.stop ms

end Awk
end Utility
end FeatureRunner
