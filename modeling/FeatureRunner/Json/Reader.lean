import FeatureRunner.Json.Draft

/-!
This module contains the reading of JSON text. Space, tab, carriage return and line feed are the
only blanks. `Draft.read` is the draft of a text together with what keeps the rest of the text from
being blank.
-/

namespace FeatureRunner
namespace Json

abbrev Rest := Except Fault (List Char)

def Rest.fault? : Rest → Option Fault
  | .ok _ => none
  | .error f => some f

def isSpace (c : Char) : Bool :=
  c == ' ' || c == '\t' || c == '\n' || c == '\r'

def skipSpace (cs : List Char) : List Char :=
  cs.dropWhile isSpace

/-! ### Strings -/

def hexValue? (c : Char) : Option Nat :=
  if '0' ≤ c ∧ c ≤ '9' then some (c.toNat - '0'.toNat)
  else if 'a' ≤ c ∧ c ≤ 'f' then some (c.toNat - 'a'.toNat + 10)
  else if 'A' ≤ c ∧ c ≤ 'F' then some (c.toNat - 'A'.toNat + 10)
  else none

def hexNumber? : List Char → Option Nat
  | [] => some 0
  | cs => cs.foldl (fun acc c => acc.bind fun n => (hexValue? c).map (16 * n + ·)) (some 0)

/-- Four hexadecimal digits. The text has ended when fewer than four bytes are left. -/
def readHex (cs : List Char) : Except Fault (Nat × List Char) :=
  let four := cs.take 4
  if (String.ofList four).utf8ByteSize < 4 then
    .error .truncated
  else
    match hexNumber? four with
    | some n => .ok (n, cs.drop 4)
    | none => .error .malformed

def readLowSurrogate : List Char → Except Fault (Nat × List Char)
  | [] | ['\\'] => .error .truncated
  | '\\' :: 'u' :: cs => do
    let (n, rest) ← readHex cs
    if 0xDC00 ≤ n ∧ n ≤ 0xDFFF then .ok (n, rest) else .error .malformed
  | _ => .error .malformed

def ofSurrogates (high low : Nat) : Char :=
  Char.ofNat (0x10000 + (high - 0xD800) * 0x400 + (low - 0xDC00))

/--
The escape behind a backslash: the character, or why it is none, and the text behind the escape. A
lone surrogate spoils the string, but one who passes over the string may go on.
-/
def readEscape : List Char → Except Fault (Except Fault Char × List Char)
  | [] => .error .truncated
  | '"' :: cs => .ok (.ok '"', cs)
  | '\\' :: cs => .ok (.ok '\\', cs)
  | '/' :: cs => .ok (.ok '/', cs)
  | 'b' :: cs => .ok (.ok '\x08', cs)
  | 'f' :: cs => .ok (.ok '\x0c', cs)
  | 'n' :: cs => .ok (.ok '\n', cs)
  | 'r' :: cs => .ok (.ok '\r', cs)
  | 't' :: cs => .ok (.ok '\t', cs)
  | 'u' :: cs => do
    let (n, rest) ← readHex cs
    if 0xDC00 ≤ n ∧ n ≤ 0xDFFF then
      .ok (.error .malformed, rest)
    else if 0xD800 ≤ n ∧ n ≤ 0xDBFF then
      match readLowSurrogate rest with
      | .ok (m, rest) => .ok (.ok (ofSurrogates n m), rest)
      | .error f => .ok (.error f, rest)
    else
      .ok (.ok (Char.ofNat n), rest)
  | _ => .error .malformed

theorem length_le_of_readHex {cs rest : List Char} {n : Nat} (h : readHex cs = .ok (n, rest))
    : rest.length ≤ cs.length := by
  unfold readHex at h
  grind

theorem length_le_of_readLowSurrogate {cs rest : List Char} {n : Nat}
    (h : readLowSurrogate cs = .ok (n, rest))
    : rest.length ≤ cs.length := by
  unfold readLowSurrogate at h
  split at h
  . simp at h
  . simp at h
  . next cs =>
    cases hx : readHex cs with
    | error f => simp [hx, bind, Except.bind] at h
    | ok p =>
      obtain ⟨m, r⟩ := p
      have := length_le_of_readHex hx
      simp only [hx, bind, Except.bind] at h
      split at h
      . simp only [Except.ok.injEq, Prod.mk.injEq] at h
        obtain ⟨-, rfl⟩ := h
        simp; omega
      . simp at h
  . simp at h

theorem length_le_of_readEscape {cs rest : List Char} {c : Except Fault Char}
    (h : readEscape cs = .ok (c, rest))
    : rest.length ≤ cs.length := by
  unfold readEscape at h
  split at h
  case h_10 cs =>
    cases hx : readHex cs with
    | error f => simp [hx, bind, Except.bind] at h
    | ok p =>
      obtain ⟨m, r⟩ := p
      have hr := length_le_of_readHex hx
      simp only [hx, bind, Except.bind] at h
      split at h
      . simp only [Except.ok.injEq, Prod.mk.injEq] at h
        obtain ⟨-, rfl⟩ := h
        simp; omega
      . split at h
        . split at h
          . next hl =>
            have := length_le_of_readLowSurrogate hl
            simp only [Except.ok.injEq, Prod.mk.injEq] at h
            obtain ⟨-, rfl⟩ := h
            simp; omega
          . simp only [Except.ok.injEq, Prod.mk.injEq] at h
            obtain ⟨-, rfl⟩ := h
            simp; omega
        . simp only [Except.ok.injEq, Prod.mk.injEq] at h
          obtain ⟨-, rfl⟩ := h
          simp; omega
  all_goals grind

/--
The string up to its closing quote, when `read` is what stands in front, backwards, or the first
fault in it.
-/
def readStringFrom (read : Except Fault (List Char))
    : List Char → Except Fault String × Rest
  | [] => (read.bind fun _ => .error .truncated, .error .truncated)
  | '"' :: cs => (read.map fun r => String.ofList r.reverse, .ok cs)
  | '\\' :: cs =>
    match h : readEscape cs with
    | .error f => (read.bind fun _ => .error f, .error f)
    | .ok (c, rest) =>
      have := length_le_of_readEscape h
      readStringFrom (do let r ← read; let c ← c; pure (c :: r)) rest
  | c :: cs =>
    if c < ' ' then
      (read.bind fun _ => .error .malformed, .error .malformed)
    else
      readStringFrom (read.map (c :: ·)) cs
termination_by cs => cs.length

def readString (cs : List Char) : Except Fault String × Rest :=
  readStringFrom (.ok []) cs

/-! ### Numbers -/

def isDigit (c : Char) : Bool :=
  '0' ≤ c && c ≤ '9'

/-- The number rounded to 53 significant bits, a half to the even neighbour. -/
def roundDouble (n : Nat) : Nat :=
  let unit := Nat.pow 2 (n.log2 - 52)
  let (q, r) := (n / unit, n % unit)
  (if 2 * r < unit || (2 * r == unit && q % 2 == 0) then q else q + 1) * unit

def leadingDigits (n : Nat) : List Char → Nat × List Char
  | [] => (n, [])
  | c :: cs =>
    let next := 10 * n + (c.toNat - '0'.toNat)
    if next < UInt64.size then leadingDigits next cs else (n, c :: cs)

/--
Does a number exceed every double? It is taken as the double nearest to its leading digits times the
double nearest to the power of ten that belongs to them.
-/
def isOutOfRange (whole fraction : List Char) (exponent : Int) : Bool :=
  let (n, dropped) := leadingDigits 0 whole
  let (n, behind) := leadingDigits n fraction
  let power := exponent + dropped.length - (fraction.length - behind.length : Nat)
  if n == 0 || power < 0 then
    false
  else if power > 308 then
    true
  else
    roundDouble n * roundDouble (Nat.pow 10 power.toNat) ≥ Nat.pow 2 1024 - Nat.pow 2 970

def realNumber (whole fraction : List Char) (exponent : Int) : Except Fault Number :=
  if isOutOfRange whole fraction exponent then .error .malformed else .ok .real

def wholeNumber (negative : Bool) (digits : List Char) : Except Fault Number :=
  match Numeral.value? digits with
  | none => .error .malformed
  | some n =>
    if negative then
      if 0 < n ∧ n ≤ 9223372036854775808 then .ok (.integer (-n)) else realNumber digits [] 0
    else
      if n < UInt64.size then .ok (.integer n) else realNumber digits [] 0

/-- A fault of the number that does not depend on whether the number is wanted. -/
def numberFault (f : Fault) : Except Fault Number × Rest :=
  (.error f, .error .malformed)

def readExponent (whole fraction : List Char) (cs : List Char) : Except Fault Number × Rest :=
  let (negative, cs) :=
    match cs with
    | '+' :: cs => (false, cs)
    | '-' :: cs => (true, cs)
    | cs => (false, cs)
  match Numeral.value? (cs.takeWhile isDigit) with
  | none => numberFault (if cs.isEmpty then .truncated else .malformed)
  | some e =>
    (realNumber whole fraction (if negative then -e else e), .ok (cs.dropWhile isDigit))

def readAfterFraction (whole fraction : List Char) : List Char → Except Fault Number × Rest
  | 'e' :: cs | 'E' :: cs => readExponent whole fraction cs
  | cs => (realNumber whole fraction 0, .ok cs)

/-- What may follow the digits in front of the point: a fraction, an exponent or nothing. -/
def readAfterWhole (negative : Bool) (whole : List Char)
    : List Char → Except Fault Number × Rest
  | '.' :: cs =>
    let fraction := cs.takeWhile isDigit
    let rest := cs.dropWhile isDigit
    if fraction.isEmpty then
      numberFault (if rest.isEmpty then .truncated else .malformed)
    else
      readAfterFraction whole fraction rest
  | 'e' :: cs | 'E' :: cs => readExponent whole [] cs
  | cs => (wholeNumber negative whole, .ok cs)

def readDigits (negative : Bool) : List Char → Except Fault Number × Rest
  | [] => numberFault .truncated
  | '0' :: cs =>
    if (cs.head?.map isDigit).getD false then numberFault .malformed
    else readAfterWhole negative ['0'] cs
  | c :: cs =>
    if isDigit c then
      readAfterWhole negative (c :: cs.takeWhile isDigit) (cs.dropWhile isDigit)
    else
      numberFault .malformed

def readNumber : List Char → Except Fault Number × Rest
  | '-' :: cs => readDigits true cs
  | cs => readDigits false cs

/-! ### Values -/

def readWord : List Char → List Char → Rest
  | [], cs => .ok cs
  | _ :: _, [] => .error .truncated
  | w :: ws, c :: cs => if w = c then readWord ws cs else .error .malformed

def readLiteral (value : Draft) (word cs : List Char) : Draft × Rest :=
  match readWord word cs with
  | .ok rest => (value, .ok rest)
  | .error f => (.broken f, .error f)

mutual

/-- The value in front of a text; `fuel` bounds the values and brackets in front of any part. -/
def readValue (fuel : Nat) (text : List Char) : Draft × Rest :=
  match fuel with
  | 0 => (.broken .truncated, .error .truncated)
  | fuel + 1 =>
    match skipSpace text with
    | [] => (.broken .truncated, .error .truncated)
    | '{' :: cs =>
      let (members, rest) := readMembers fuel true cs
      (.object members (Rest.fault? rest), rest)
    | '[' :: cs =>
      let (items, rest) := readItems fuel true cs
      (.array items (Rest.fault? rest), rest)
    | '"' :: cs =>
      let (value, rest) := readString cs
      (.string value, rest)
    | 'n' :: cs => readLiteral .null ['u', 'l', 'l'] cs
    | 't' :: cs => readLiteral (.bool true) ['r', 'u', 'e'] cs
    | 'f' :: cs => readLiteral (.bool false) ['a', 'l', 's', 'e'] cs
    | c :: cs =>
      if c = '-' || isDigit c then
        let (value, rest) := readNumber (c :: cs)
        (.number value, rest)
      else
        (.broken .malformed, .error .malformed)

/-- The items of an array up to its closing bracket; `first` if none was read yet. -/
def readItems (fuel : Nat) (first : Bool) (text : List Char) : List Draft × Rest :=
  match fuel with
  | 0 => ([], .error .truncated)
  | fuel + 1 =>
    match skipSpace text with
    | [] => ([], .error .truncated)
    | ']' :: cs => ([], .ok cs)
    | c :: cs =>
      if first || c = ',' then
        let text := if first then c :: cs else skipSpace cs
        let (item, rest) := if text.head? = some ']' then (.broken .malformed, .error .malformed)
          else readValue fuel text
        match rest with
        | .error f => ([item], .error f)
        | .ok rest =>
          let (items, rest) := readItems fuel false rest
          (item :: items, rest)
      else
        ([], .error .malformed)

/-- The members of an object up to its closing brace; `first` if none was read yet. -/
def readMembers (fuel : Nat) (first : Bool) (text : List Char)
    : List (Except Fault String × Draft) × Rest :=
  match fuel with
  | 0 => ([], .error .truncated)
  | fuel + 1 =>
    match skipSpace text with
    | [] => ([], .error .truncated)
    | '}' :: cs => ([], .ok cs)
    | c :: cs =>
      if first || c = ',' then
        match if first then c :: cs else skipSpace cs with
        | [] => ([], .error .truncated)
        | '"' :: cs =>
          let (key, rest) := readString cs
          match rest with
          | .error f => ([(key, .broken f)], .error f)
          | .ok rest =>
            match skipSpace rest with
            | [] => ([(key, .broken .truncated)], .error .truncated)
            | ':' :: cs =>
              let (value, rest) := readValue fuel cs
              match rest with
              | .error f => ([(key, value)], .error f)
              | .ok rest =>
                let (members, rest) := readMembers fuel false rest
                ((key, value) :: members, rest)
            | _ => ([(key, .broken .malformed)], .error .malformed)
        | _ => ([], .error .malformed)
      else
        ([], .error .malformed)

end

/-- The draft of a text, and the fault behind it if the text does not end there. -/
def Draft.read (text : String) : Draft × Option Fault :=
  let cs := text.toList
  let (draft, rest) := readValue (2 * cs.length + 2) cs
  match rest with
  | .error f => (draft, some f)
  | .ok rest => (draft, if (skipSpace rest).isEmpty then none else some .malformed)

end Json
end FeatureRunner
