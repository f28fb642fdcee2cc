/-!
This module contains the patterns that a shell compares texts with: an asterisk fits any text, a
question mark any byte and brackets any of the bytes in them. A byte that was quoted only fits
itself. It serves the outer layer, which starts real commands; no result is about it.
-/

namespace FeatureRunner
namespace Shell

abbrev Glyph := Char × Bool

inductive ByteSet where
  | range (first last : Char)
  | named (name : String)
  deriving DecidableEq

inductive PatternStep where
  | char (c : Char)
  | anyChar
  | anyText
  | oneOf (negated : Bool) (sets : List ByteSet)
  deriving DecidableEq

def isInClass (name : String) (c : Char) : Bool :=
  let isGraph := 33 ≤ c.toNat && c.toNat ≤ 126
  match name with
  | "alnum" => c.isAlphanum
  | "alpha" => c.isAlpha
  | "blank" => c == ' ' || c == '\t'
  | "cntrl" => c.toNat < 32 || c.toNat == 127
  | "digit" => c.isDigit
  | "graph" => isGraph
  | "lower" => c.isLower
  | "print" => isGraph || c == ' '
  | "punct" => isGraph && !c.isAlphanum
  | "space" => c == ' ' || (9 ≤ c.toNat && c.toNat ≤ 13)
  | "upper" => c.isUpper
  | "xdigit" => c.isDigit || ('a' ≤ c && c ≤ 'f') || ('A' ≤ c && c ≤ 'F')
  | _ => false

def classNames : List String :=
  ["alnum", "alpha", "blank", "cntrl", "digit", "graph", "lower", "print", "punct", "space",
   "upper", "xdigit"]

def ByteSet.contains (c : Char) : ByteSet → Bool
  | range a b => a ≤ c && c ≤ b
  | named name => isInClass name c

def classAt? (cs : List Char) : Option (String × List Char) :=
  match cs with
  | ':' :: cs =>
    let name := cs.takeWhile Char.isAlpha
    match cs.drop name.length with
    | ':' :: ']' :: rest =>
      if classNames.contains (String.ofList name) then some (String.ofList name, rest) else none
    | _ => none
  | _ => none

def bracketSets? (fuel : Nat) (isFirst : Bool) (gs : List Glyph)
    : Option (List ByteSet × List Glyph) :=
  match fuel, gs with
  | 0, _ | _, [] => none
  | fuel + 1, (c, quoted) :: rest =>
    let cons (set : ByteSet) (rest : List Glyph) :=
      (bracketSets? fuel false rest).map fun (sets, rest) => (set :: sets, rest)
    if c = ']' && !quoted && !isFirst then some ([], rest)
    else
      match if c = '[' && !quoted then classAt? (rest.map (·.1)) else none with
      | some (name, behind) => cons (.named name) (rest.drop (rest.length - behind.length))
      | none =>
        match rest with
        | ('-', false) :: (d, dquoted) :: rest' =>
          if d = ']' && !dquoted then cons (.range c c) rest else cons (.range c d) rest'
        | _ => cons (.range c c) rest

/-- Reads a pattern; a bracket that is not closed is a character as any other. `negations` are the
characters that turn brackets into their contrary. -/
def patternOf (negations : List Char) (gs : List Glyph) : List PatternStep :=
  go gs.length gs
where
  go (fuel : Nat) (gs : List Glyph) : List PatternStep :=
    match fuel, gs with
    | 0, _ | _, [] => []
    | fuel + 1, ('*', false) :: gs =>
      match go fuel gs with
      | .anyText :: steps => .anyText :: steps
      | steps => .anyText :: steps
    | fuel + 1, ('?', false) :: gs => .anyChar :: go fuel gs
    | fuel + 1, ('[', false) :: gs =>
      let negated := gs.head?.any fun (c, quoted) => !quoted && negations.contains c
      match bracketSets? gs.length true (if negated then gs.drop 1 else gs) with
      | some (sets, rest) => .oneOf negated sets :: go fuel rest
      | none => .char '[' :: go fuel gs
    | fuel + 1, (c, _) :: gs => .char c :: go fuel gs

def suffixes : List Char → List (List Char)
  | [] => [[]]
  | c :: cs => (c :: cs) :: suffixes cs

def PatternStep.fits (c : Char) : PatternStep → Bool
  | char a => a == c
  | anyChar => true
  | anyText => false
  | oneOf negated sets => sets.any (·.contains c) != negated

def fitsText : List PatternStep → List Char → Bool
  | [], cs => cs.isEmpty
  | [.anyText], _ => true
  | .anyText :: ps, cs => (suffixes cs).any (fitsText ps)
  | p :: ps, c :: cs => p.fits c && fitsText ps cs
  | _ :: _, [] => false

def isPattern (gs : List Glyph) : Bool :=
  gs.any fun (c, quoted) => !quoted && (c == '*' || c == '?' || c == '[')

/-- Does the pattern fit the name of a file? A name that begins with a dot has to be asked for. -/
def fitsName (pattern : List PatternStep) (name : List Char) : Bool :=
  match pattern, name with
  | .char '.' :: _, cs => fitsText pattern cs
  | _, '.' :: _ => false
  | _, cs => fitsText pattern cs

def glyphsOf : List Char → List Glyph
  | '\\' :: c :: cs => (c, true) :: glyphsOf cs
  | c :: cs => (c, false) :: glyphsOf cs
  | [] => []

def dropFront? (longest : Bool) (pattern : List PatternStep) (cs : List Char)
    : Option (List Char) :=
  let cuts := List.range (cs.length + 1)
  ((if longest then cuts.reverse else cuts).find? fun n => fitsText pattern (cs.take n)).map
    cs.drop

def dropBack? (longest : Bool) (pattern : List PatternStep) (cs : List Char)
    : Option (List Char) :=
  let cuts := List.range (cs.length + 1)
  ((if longest then cuts else cuts.reverse).find? fun n => fitsText pattern (cs.drop n)).map
    cs.take

end Shell
end FeatureRunner
