import FeatureRunner.Shell.Binary
import FeatureRunner.Text.Segments

/-!
This module contains what the shell prints for texts with escapes and for formats. A format is used
again as long as there are arguments left, and arguments that are missing are empty or zero. It
serves the outer layer, which starts real commands; no result is about it.
-/

namespace FeatureRunner
namespace Shell

def isOctal (c : Char) : Bool := '0' ≤ c && c ≤ '7'

def octalValue (cs : List Char) : Nat :=
  cs.foldl (fun n c => 8 * n + (c.toNat - '0'.toNat)) 0

def escapeLetter? : Char → Option Char
  | 'a' => some '\x07'
  | 'b' => some '\x08'
  | 'e' => some '\x1b'
  | 'f' => some '\x0c'
  | 'n' => some '\n'
  | 'r' => some '\r'
  | 't' => some '\t'
  | 'v' => some '\x0b'
  | '\\' => some '\\'
  | _ => none

structure TextStyle where
  hasBytes : Bool := false
  hasCodes : Bool := false
  needsZero : Bool := false
  quote : Option (String → String) := none

def escapeAt (cs : List Char) : Char × List Char :=
  match cs with
  | c :: rest =>
    match escapeLetter? c with
    | some e => (e, rest)
    | none =>
      let digits := (cs.takeWhile isOctal).take 3
      if digits.isEmpty then ('\\', cs)
      else (Char.ofNat (octalValue digits % 256), cs.drop digits.length)
  | [] => ('\\', [])

def hexAt? (limit : Nat) (cs : List Char) : Option (Nat × List Char) :=
  let digits := (cs.take limit).takeWhile fun c => (digitOf? c).isSome
  if digits.isEmpty then none else some ((digitsValue 16 0 digits).1, cs.drop digits.length)

/-- The character with a number, or how it is written if there is no such character among the plain
ones. -/
def codeText (letter : Char) (width n : Nat) : List Char :=
  if n < 128 then [Char.ofNat n]
  else
    let digits := (Nat.toDigits 16 n).map Char.toUpper
    '\\' :: letter :: (List.replicate (width - digits.length) '0' ++ digits)

def hexEscape? (style : TextStyle) : List Char → Option (List Char × List Char)
  | 'x' :: cs =>
    if style.hasBytes then
      (hexAt? 2 cs).map fun (n, rest) => ([Char.ofNat n], rest)
    else none
  | 'u' :: cs =>
    if style.hasCodes then (hexAt? 4 cs).map fun (n, rest) => (codeText 'u' 4 n, rest) else none
  | 'U' :: cs =>
    if style.hasCodes then (hexAt? 8 cs).map fun (n, rest) => (codeText 'U' 8 n, rest) else none
  | c :: cs => if style.hasCodes && c ∈ ['"', '\'', '?'] then some ([c], cs) else none
  | [] => none

/-- Resolves the escapes of a text; the second component tells that nothing more is to be
printed. -/
def unescape (fuel : Nat) (cs : List Char) (style : TextStyle := {}) : List Char × Bool :=
  match fuel, cs with
  | 0, _ | _, [] => ([], false)
  | _ + 1, '\\' :: 'c' :: _ => ([], true)
  | fuel + 1, '\\' :: cs =>
    match hexEscape? style cs with
    | some (bytes, rest) =>
      let (text, stop) := unescape fuel rest style
      (bytes ++ text, stop)
    | none =>
      let isLiteral := style.needsZero && cs.head?.any fun c => isOctal c && c != '0'
      let cs' :=
        match cs with
        | '0' :: d :: rest => if isOctal d then d :: rest else cs
        | cs => cs
      let (c, rest) := if isLiteral then ('\\', cs) else escapeAt cs'
      let (text, stop) := unescape fuel rest style
      (c :: text, stop)
  | fuel + 1, c :: cs =>
    let (text, stop) := unescape fuel cs style
    (c :: text, stop)

def echoText (words : List String) : String :=
  let (newline, words) :=
    match words with
    | "-n" :: words => (false, words)
    | words => (true, words)
  let cs := (Text.joinStrings ' ' words).toList
  if cs.contains '\\' then
    let (text, stop) := unescape (cs.length + 1) cs
    String.ofList (text ++ if newline && !stop then ['\n'] else [])
  else String.ofList cs ++ if newline then "\n" else ""

structure FieldStyle where
  flags : List Char
  width : Nat
  precision : Option Nat
  deriving DecidableEq

namespace FieldStyle

def pad (f : FieldStyle) (cs : List Char) : List Char :=
  let filling := List.replicate (f.width - cs.length) ' '
  if f.flags.contains '-' then cs ++ filling else filling ++ cs

def padNumber (f : FieldStyle) (zeros : Bool) (sign digits : List Char) : List Char :=
  if zeros && f.flags.contains '0' && !f.flags.contains '-' then
    sign ++ List.replicate (f.width - sign.length - digits.length) '0' ++ digits
  else f.pad (sign ++ digits)

def sign (f : FieldStyle) (negative : Bool) : List Char :=
  if negative then ['-']
  else if f.flags.contains '+' then ['+']
  else if f.flags.contains ' ' then [' ']
  else []

def digits (f : FieldStyle) (cs : List Char) : List Char :=
  match f.precision with
  | some 0 => if cs = ['0'] then [] else cs
  | some p => List.replicate (p - cs.length) '0' ++ cs
  | none => cs

def number (f : FieldStyle) (letter : Char) (n : Int) : List Char :=
  let zeros := f.precision.isNone
  let whole := (n % UInt64.size).toNat
  let mark (text : List Char) : List Char :=
    if f.flags.contains '#' && whole ≠ 0 then text else []
  match letter with
  | 'd' | 'i' => f.padNumber zeros (f.sign (n < 0)) (f.digits (Numeral.decimalChars n.natAbs))
  | 'u' => f.padNumber zeros [] (f.digits (Numeral.decimalChars whole))
  | 'o' => f.padNumber zeros [] (mark ['0'] ++ f.digits (Nat.toDigits 8 whole))
  | 'x' => f.padNumber zeros (mark ['0', 'x']) (f.digits (Nat.toDigits 16 whole))
  | _ =>
    f.padNumber zeros (mark ['0', 'X']) (f.digits ((Nat.toDigits 16 whole).map Char.toUpper))

def binary (f : FieldStyle) (letter : Char) (b : Binary) : List Char :=
  let places := f.precision.getD 6
  let cs :=
    match letter with
    | 'f' | 'F' => b.fixed places
    | 'e' => b.scientific places 'e'
    | 'E' => b.scientific places 'E'
    | 'G' => b.general places (f.flags.contains '#') 'E'
    | _ => b.general places (f.flags.contains '#') 'e'
  f.padNumber true (f.sign b.negative) cs

end FieldStyle

structure Printing where
  output : List Char := []
  arguments : List String
  complaints : List String := []
  fault : Option String := none
  stopped : Bool := false
  style : TextStyle := {}

abbrev Print := StateM Printing

namespace Print

def emit (cs : List Char) : Print Unit :=
  modify fun p => { p with output := cs.reverse ++ p.output }

def argument? : Print (Option String) := do
  let p ← get
  set { p with arguments := p.arguments.drop 1 }
  pure p.arguments.head?

def check (text : String) (rest : List Char) (range : Bool) : Print Unit := do
  let complaint :=
    if !rest.isEmpty then
      if rest = text.toList then some "expected numeric value" else some "not completely converted"
    else if range then some "Numerical result out of range"
    else none
  if let some c := complaint then
    modify fun p => { p with complaints := (text ++ ": " ++ c) :: p.complaints }

def number (signed : Bool) : Print Int := do
  match ← argument? with
  | none => pure 0
  | some text =>
    match text.toList with
    | '\'' :: c :: _ | '"' :: c :: _ => pure c.toNat
    | ['\''] | ['"'] => pure 0
    | cs =>
      let (negative, digits) :=
        match cs.dropWhile isSpace with
        | '-' :: ds => (true, ds)
        | '+' :: ds => (false, ds)
        | ds => (false, ds)
      if !(digits.head?.any Char.isDigit) then
        check text cs false
        pure 0
      else
        let (n, rest) := numeralValue digits
        let value : Int := if negative then -(n : Int) else n
        let limited : Int :=
          if signed then clamp value
          else if UInt64.size ≤ n then 18446744073709551615
          else value
        check text rest (limited ≠ value)
        pure limited

def binary : Print (Except (Bool × List Char) Binary) := do
  match ← argument? with
  | none => pure (.ok ⟨false, 0, 0⟩)
  | some text =>
    match text.toList with
    | '\'' :: c :: _ | '"' :: c :: _ => pure (.ok (Binary.ofFraction false c.toNat 1))
    | cs =>
      let negative := (cs.dropWhile isSpace).head? == some '-'
      let word := String.ofList
        (((cs.dropWhile isSpace).dropWhile fun c => c == '-' || c == '+').map Char.toLower)
      if word = "inf" || word = "infinity" then pure (.error (negative, ['i', 'n', 'f']))
      else if word = "nan" then pure (.error (negative, ['n', 'a', 'n']))
      else
        match Binary.ofChars? cs with
        | some (b, rest) =>
          check text rest false
          pure (.ok b)
        | none =>
          check text cs false
          pure (.ok ⟨false, 0, 0⟩)

def fail (complaint : String) : Print Unit :=
  modify fun p => { p with fault := some complaint, stopped := true }

def size (cs : List Char) : Print (Option Int × List Char) := do
  match cs with
  | '*' :: rest => do
    let n ← number true
    pure (some n, rest)
  | cs =>
    let digits := cs.takeWhile Char.isDigit
    pure ((Numeral.value? digits).map fun n => (n : Int), cs.drop digits.length)

def directive (f : FieldStyle) (letter : Char) (text : String) : Print Unit := do
  let cut (cs : List Char) : List Char := (f.precision.map cs.take).getD cs
  if letter = 's' then emit (f.pad (cut ((← argument?).getD "").toList))
  else if letter = 'b' then
    let argument := ((← argument?).getD "").toList
    let (cs, stop) := unescape (argument.length + 1) argument (← get).style
    emit (f.pad (cut cs))
    if stop then modify fun p => { p with stopped := true }
  else if letter = 'q' && (← get).style.quote.isSome then
    let quote := (← get).style.quote.getD id
    emit (f.pad (cut (quote ((← argument?).getD "")).toList))
  else if letter = 'c' then
    emit (f.pad [(((← argument?).getD "").toList.head?).getD '\x00'])
  else if letter ∈ ['d', 'i'] then emit (f.number letter (← number true))
  else if letter ∈ ['o', 'u', 'x', 'X'] then emit (f.number letter (← number false))
  else if letter ∈ ['e', 'E', 'f', 'F', 'g', 'G'] then
    match ← binary with
    | .ok b => emit (f.binary letter b)
    | .error (negative, word) => emit (f.pad (f.sign negative ++ word))
  else fail (text ++ ": invalid directive")

def once (fuel : Nat) (cs : List Char) : Print Unit :=
  match fuel, cs with
  | 0, _ | _, [] => pure ()
  | fuel + 1, '\\' :: cs => do
    match hexEscape? (← get).style cs with
    | some (bytes, rest) =>
      emit bytes
      once fuel rest
    | none =>
      let (c, rest) := escapeAt cs
      emit [c]
      once fuel rest
  | fuel + 1, '%' :: '%' :: cs => do
    emit ['%']
    once fuel cs
  | fuel + 1, '%' :: cs => do
    let flags := cs.takeWhile fun c => c ∈ ['-', '0', '+', ' ', '#']
    let (width, rest) ← size (cs.drop flags.length)
    let (precision, rest) ←
      match rest with
      | '.' :: rest => do
        let (p, rest) ← size rest
        pure (some (p.getD 0), rest)
      | rest => pure (none, rest)
    match rest with
    | [] => fail "missing format character"
    | letter :: rest =>
      let width := width.getD 0
      let style : FieldStyle :=
        ⟨if width < 0 then '-' :: flags else flags, width.natAbs,
          precision.bind fun p => if p < 0 then none else some p.toNat⟩
      let text := String.ofList ('%' :: cs.take (cs.length - rest.length))
      directive style letter text
      unless (← get).stopped do once fuel rest
  | fuel + 1, c :: cs => do
    emit [c]
    once fuel cs

def again (fuel : Nat) (cs : List Char) : Print Unit :=
  match fuel with
  | 0 => pure ()
  | fuel + 1 => do
    let before := (← get).arguments.length
    once (cs.length + 1) cs
    let p ← get
    unless p.stopped || p.arguments.isEmpty || p.arguments.length = before do again fuel cs

end Print

def formatText (format : String) (arguments : List String) (style : TextStyle := {}) : Printing :=
  ((Print.again (arguments.length + 1) format.toList).run { arguments, style }).2

end Shell
end FeatureRunner
