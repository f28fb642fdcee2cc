/-!
This module contains file name patterns: how a pattern is read, where reading it fails, and which
texts it matches. `?` and a class stand for one character, `*` for any within one path component and
`**` for any number of whole components; no wildcard but `**` matches a slash.
-/

namespace FeatureRunner
namespace Glob

/-- A member of a character class. -/
inductive ClassItem where
  | single (c : Char)
  | range (low high : Char)
  deriving DecidableEq

/-- A part of a pattern that stands for exactly one character. -/
inductive Atom where
  | literal (c : Char)
  | anyChar
  | within (items : List ClassItem)
  | except (items : List ClassItem)
  deriving DecidableEq

inductive Token where
  | one (atom : Atom)
  /-- Any characters of one component. -/
  | star
  /-- Any number of whole components. -/
  | deep
  deriving DecidableEq

inductive Problem where
  /-- More than two stars in a row. -/
  | wildcards
  /-- Two stars that are not a component of their own. -/
  | recursion
  /-- A bracket that opens no class. -/
  | range
  deriving DecidableEq

/-- Where a pattern is wrong, in characters from its start. -/
structure Fault where
  position : Nat
  problem : Problem
  deriving DecidableEq

def Problem.message : Problem → String
  | .wildcards => "wildcards are either regular `*` or recursive `**`"
  | .recursion => "recursive wildcards must form a single path component"
  | .range => "invalid range pattern"

def classItems : List Char → List ClassItem
  | low :: '-' :: high :: cs => .range low high :: classItems cs
  | c :: cs => .single c :: classItems cs
  | [] => []

def splitClass? : List Char → Option (List Char × List Char)
  | [] => none
  | ']' :: cs => some ([], cs)
  | c :: cs => (splitClass? cs).map fun (inside, rest) => (c :: inside, rest)

/-- The class behind an opening bracket; a closing bracket right at its start belongs to it. -/
def readClass? : List Char → Option (Atom × List Char)
  | '!' :: c :: cs => (splitClass? cs).map fun (inside, rest) =>
    (.except (classItems (c :: inside)), rest)
  | ['!'] => none
  | c :: cs => (splitClass? cs).map fun (inside, rest) => (.within (classItems (c :: inside)), rest)
  | [] => none

theorem length_lt_of_splitClass? {cs inside rest : List Char}
    (h : splitClass? cs = some (inside, rest))
    : rest.length < cs.length := by
  fun_induction splitClass? cs generalizing inside rest with
  | case1 => simp at h
  | case2 cs => simp_all
  | case3 c cs hc ih =>
    obtain ⟨⟨i, r⟩, hp, hq⟩ := Option.map_eq_some_iff.1 h
    have := ih hp
    grind

theorem length_lt_of_readClass? {cs rest : List Char} {a : Atom}
    (h : readClass? cs = some (a, rest))
    : rest.length < cs.length := by
  unfold readClass? at h
  split at h
  . obtain ⟨⟨i, r⟩, hp, hq⟩ := Option.map_eq_some_iff.1 h
    have := length_lt_of_splitClass? hp
    grind
  . simp at h
  . obtain ⟨⟨i, r⟩, hp, hq⟩ := Option.map_eq_some_iff.1 h
    have := length_lt_of_splitClass? hp
    grind
  . simp at h

/--
Appends `**`. Behind another one it adds nothing, except when that one is all there is so far.
-/
def pushDeep (tokens : List Token) : List Token :=
  if tokens.length > 1 && tokens.getLast? == some .deep then tokens else tokens ++ [.deep]

/--
Reads the pattern from `position` on; `before` is the character in front and `tokens` what was read.
-/
def readFrom (position : Nat) (before : Option Char) (tokens : List Token)
    : List Char → Except Fault (List Token)
  | [] => .ok tokens
  | '?' :: cs => readFrom (position + 1) (some '?') (tokens ++ [.one .anyChar]) cs
  | '*' :: '*' :: '*' :: _ => .error ⟨position + 2, .wildcards⟩
  | '*' :: '*' :: cs =>
    if position = 0 || before = some '/' then
      match cs with
      | [] => .ok (pushDeep tokens)
      | '/' :: cs => readFrom (position + 3) (some '/') (pushDeep tokens) cs
      | _ => .error ⟨position + 2, .recursion⟩
    else
      .error ⟨position - 1, .recursion⟩
  | '*' :: cs => readFrom (position + 1) (some '*') (tokens ++ [.star]) cs
  | '[' :: cs =>
    match h : readClass? cs with
    | some (atom, rest) =>
      have := length_lt_of_readClass? h
      readFrom (position + 1 + (cs.length - rest.length)) (some ']') (tokens ++ [.one atom]) rest
    | none => .error ⟨position, .range⟩
  | c :: cs => readFrom (position + 1) (some c) (tokens ++ [.one (.literal c)]) cs
termination_by cs => cs.length

def read (pattern : String) : Except Fault (List Token) :=
  readFrom 0 none [] pattern.toList

def Fault.message (f : Fault) (decimal : Nat → String) : String :=
  "Pattern syntax error near position " ++ decimal f.position ++ ": " ++ f.problem.message

/-! ### Matching -/

def ClassItem.contains : ClassItem → Char → Bool
  | .single a, c => a == c
  | .range low high, c => low ≤ c && c ≤ high

def Atom.accepts : Atom → Char → Bool
  | .literal a, c => a == c
  | .anyChar, c => c != '/'
  | .within items, c => c != '/' && items.any (·.contains c)
  | .except items, c => c != '/' && !items.any (·.contains c)

inductive Verdict where
  | hit
  /-- This attempt fails, a later one may succeed. -/
  | miss
  /-- The text ended before the pattern; no later attempt is made. -/
  | exhausted
  deriving DecidableEq

/-- Tries `next` here and, after a miss, one character further within the component. -/
def matchStar (next : List Char → Verdict) : List Char → Verdict
  | [] => next []
  | c :: cs =>
    match next (c :: cs) with
    | .miss => if c = '/' then .miss else matchStar next cs
    | v => v

/-- Tries `next` at the start of every later component and, last, at the end of the text. -/
def matchLater (next : List Char → Verdict) : List Char → Verdict
  | [] => next []
  | c :: cs =>
    if c = '/' then
      match next cs with
      | .miss => matchLater next cs
      | v => v
    else
      matchLater next cs

def run : List Token → List Char → Verdict
  | [] => fun cs => if cs.isEmpty then .hit else .miss
  | .star :: ts => matchStar (run ts)
  | .deep :: ts => fun cs =>
    match run ts cs with
    | .miss => matchLater (run ts) cs
    | v => v
  | .one atom :: ts => fun cs =>
    match cs with
    | [] => .exhausted
    | c :: cs => if atom.accepts c then run ts cs else .miss

def matchesText (tokens : List Token) (text : String) : Bool :=
  run tokens text.toList == .hit

end Glob
end FeatureRunner
