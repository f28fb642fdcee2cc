import FeatureRunner.Shell.Pattern
import FeatureRunner.Text.Numeral

/-!
This module contains regular expressions in their two notations. Of all matches that begin furthest
to the left the longest one counts: `Regex.ends` finds all ends of a match. It serves the outer
layer, where commands start programs; no result is about it.
-/

namespace FeatureRunner
namespace Utility

open Shell

inductive Regex where
  | empty
  | char (c : Char)
  | any
  | oneOf (negated : Bool) (sets : List ByteSet)
  | lineStart
  | lineEnd
  | wordStart
  | wordEnd
  | wordEdge (negated : Bool)
  | group (number : Nat) (r : Regex)
  | again (number : Nat)
  | seq (r s : Regex)
  | alt (r s : Regex)
  | repeated (r : Regex) (least : Nat) (most : Option Nat)

namespace Regex

/-- What is known at an end of a match: where it is, and what the groups have matched. -/
structure Progress where
  position : Nat
  groups : List (Nat × Nat × Nat)
  deriving DecidableEq

structure Subject where
  text : Array Char
  ignoresCase : Bool
  /-- Is the expression free of references to groups? Then it does not matter what they are. -/
  isRegular : Bool

namespace Subject

def fold (t : Subject) (c : Char) : Char := if t.ignoresCase then c.toLower else c

def isWord (c : Char) : Bool := c.isAlphanum || c == '_'

def wordAt (t : Subject) (i : Nat) : Bool := (t.text[i]?).any isWord

def wordBefore (t : Subject) (i : Nat) : Bool := i != 0 && t.wordAt (i - 1)

def step (t : Subject) (p : Progress) (ok : Char → Bool) : List Progress :=
  match t.text[p.position]? with
  | some c => if ok c then [{ p with position := p.position + 1 }] else []
  | none => []

def distinct (t : Subject) (ps : List Progress) : List Progress :=
  go [] ps
where
  go (seen : List Progress) : List Progress → List Progress
    | [] => seen.reverse
    | p :: ps =>
      if seen.any fun q => q.position == p.position && (t.isRegular || q.groups == p.groups) then
        go seen ps
      else go (p :: seen) ps

end Subject

def repetitions (t : Subject) (ends : Progress → List Progress) (least : Nat)
    (most : Option Nat) (fuel count : Nat) (frontier : List Progress) : List Progress :=
  let here := if least ≤ count then frontier else []
  match fuel with
  | 0 => here
  | fuel + 1 =>
    if most.any (· ≤ count) || frontier.isEmpty then here
    else
      let next := frontier.flatMap fun p =>
        (ends p).filter fun q => q.position != p.position || count < least
      t.distinct (repetitions t ends least most fuel (count + 1) (t.distinct next) ++ here)

def ends (t : Subject) : Regex → Progress → List Progress
  | empty, p => [p]
  | char c, p => t.step p fun d => t.fold c == t.fold d
  | any, p => t.step p fun _ => true
  | oneOf negated sets, p =>
    t.step p fun d =>
      (sets.any fun s => s.contains d ||
        (t.ignoresCase && (s.contains d.toLower || s.contains d.toUpper))) != negated
  | lineStart, p => if p.position = 0 then [p] else []
  | lineEnd, p => if p.position = t.text.size then [p] else []
  | wordStart, p =>
    if t.wordAt p.position && !t.wordBefore p.position then [p] else []
  | wordEnd, p =>
    if !t.wordAt p.position && t.wordBefore p.position then [p] else []
  | wordEdge negated, p =>
    if (t.wordAt p.position != t.wordBefore p.position) != negated then [p] else []
  | group n r, p =>
    (ends t r p).map fun q =>
      { q with groups := (n, p.position, q.position) :: q.groups.filter (·.1 != n) }
  | again n, p =>
    match p.groups.lookup n with
    | none => []
    | some (first, last) =>
      let length := last - first
      let same := (List.range length).all fun i =>
        match t.text[first + i]?, t.text[p.position + i]? with
        | some c, some d => t.fold c == t.fold d
        | _, _ => false
      if same then [{ p with position := p.position + length }] else []
  | seq r s, p => t.distinct ((ends t r p).flatMap (ends t s))
  | alt r s, p => t.distinct (ends t r p ++ ends t s p)
  | repeated r least most, p =>
    repetitions t (ends t r) least most (t.text.size - p.position + least + 1) 0 [p]

def isRegular : Regex → Bool
  | again _ => false
  | group _ r | repeated r _ _ => isRegular r
  | seq r s | alt r s => isRegular r && isRegular s
  | _ => true

/-! ### Matches -/

structure Match where
  start : Nat
  stop : Nat
  spans : List (Nat × Nat × Nat)

def Match.group (m : Match) (cs : List Char) (n : Nat) : List Char :=
  if n = 0 then (cs.drop m.start).take (m.stop - m.start)
  else
    match m.spans.lookup n with
    | some (first, last) => (cs.drop first).take (last - first)
    | none => []

def Match.groups (m : Match) (cs : List Char) : List String :=
  let count := (m.spans.map (·.1)).foldl max 0
  (List.range (count + 1)).map fun n => String.ofList (m.group cs n)

def matchAt? (r : Regex) (t : Subject) (start : Nat) : Option Match :=
  match ends t r ⟨start, []⟩ with
  | [] => none
  | p :: ps =>
    let best := ps.foldl (fun a b => if a.position < b.position then b else a) p
    some ⟨start, best.position, best.groups⟩

def matchFrom? (r : Regex) (t : Subject) (fuel start : Nat) : Option Match :=
  match fuel with
  | 0 => none
  | fuel + 1 =>
    match r.matchAt? t start with
    | some m => some m
    | none => matchFrom? r t fuel (start + 1)

def subject (r : Regex) (ignoresCase : Bool) (cs : List Char) : Subject :=
  ⟨cs.toArray, ignoresCase, r.isRegular⟩

def search? (r : Regex) (ignoresCase : Bool) (cs : List Char) : Option Match :=
  let t := r.subject ignoresCase cs
  r.matchFrom? t (t.text.size + 1) 0

def matches' (r : Regex) (ignoresCase : Bool) (cs : List Char) : List Match :=
  let t := r.subject ignoresCase cs
  go t (t.text.size + 1) 0 none
where
  go (t : Subject) (fuel start : Nat) (last : Option Nat) : List Match :=
    match fuel with
    | 0 => []
    | fuel + 1 =>
      match r.matchFrom? t (t.text.size + 1 - start) start with
      | none => []
      | some m =>
        if m.stop = m.start then
          if last = some m.start then go t fuel (m.start + 1) none
          else m :: go t fuel (m.stop + 1) none
        else m :: go t fuel m.stop (some m.stop)

/-! ### Reading -/

structure Source where
  rest : List Char
  opened : Nat := 0
  depth : Nat := 0

abbrev Read := StateT Source (Except String)

def letterSet? : Char → Option Regex
  | 'w' => some (.oneOf false [.named "alnum", .range '_' '_'])
  | 'W' => some (.oneOf true [.named "alnum", .range '_' '_'])
  | 's' => some (.oneOf false [.named "space"])
  | 'S' => some (.oneOf true [.named "space"])
  | 'b' => some (.wordEdge false)
  | 'B' => some (.wordEdge true)
  | '<' => some .wordStart
  | '>' => some .wordEnd
  | '`' => some .lineStart
  | '\'' => some .lineEnd
  | 'n' => some (.char '\n')
  | 't' => some (.char '\t')
  | _ => none

def readSet : Read Regex := do
  let s : Source ← get
  let (negated, cs) : Bool × List Char :=
    match s.rest with
    | '^' :: cs => (true, cs)
    | cs => (false, cs)
  match bracketSets? (cs.length + 1) true (cs.map fun c => (c, false)) with
  | some (sets, rest) =>
    set { s with rest := rest.map Prod.fst }
    pure (.oneOf negated sets)
  | none => throw "Unmatched [, [^, [:, [., or [="

def interval? (closing cs : List Char) : Option (Nat × Option Nat × List Char) :=
  let least := cs.takeWhile Char.isDigit
  let rest := cs.drop least.length
  let number (ds : List Char) : Nat := (Numeral.value? ds).getD 0
  match rest with
  | ',' :: rest =>
    let most := rest.takeWhile Char.isDigit
    let behind := rest.drop most.length
    if closing.isPrefixOf behind then
      some (number least, if most.isEmpty then none else some (number most),
        behind.drop closing.length)
    else none
  | rest =>
    if closing.isPrefixOf rest && !least.isEmpty then
      some (number least, some (number least), rest.drop closing.length)
    else none

def readRepeats (extended : Bool) (fuel : Nat) (r : Regex) : Read Regex := do
  match fuel with
  | 0 => pure r
  | fuel + 1 =>
    let s ← get
    let go (least : Nat) (most : Option Nat) (rest : List Char) : Read Regex := do
      set { s with rest }
      readRepeats extended fuel (.repeated r least most)
    match extended, s.rest with
    | _, '*' :: rest => go 0 none rest
    | true, '+' :: rest | false, '\\' :: '+' :: rest => go 1 none rest
    | true, '?' :: rest | false, '\\' :: '?' :: rest => go 0 (some 1) rest
    | true, '\x7b' :: rest =>
      match interval? ['\x7d'] rest with
      | some (least, most, rest) => go least most rest
      | none => pure r
    | false, '\\' :: '\x7b' :: rest =>
      match interval? ['\\', '\x7d'] rest with
      | some (least, most, rest) => go least most rest
      | none => throw "Invalid content of \\\x7b\\\x7d"
    | _, _ => pure r

mutual

def readAlternatives (extended : Bool) (fuel : Nat) : Read Regex :=
  match fuel with
  | 0 => pure .empty
  | fuel + 1 => do
    let r ← readSequence extended fuel true
    let s ← get
    match extended, s.rest with
    | true, '|' :: rest | false, '\\' :: '|' :: rest =>
      set { s with rest }
      pure (.alt r (← readAlternatives extended fuel))
    | _, _ => pure r
termination_by fuel

def readSequence (extended : Bool) (fuel : Nat) (isFirst : Bool) : Read Regex :=
  match fuel with
  | 0 => pure .empty
  | fuel + 1 => do
    let s ← get
    let next (rest : List Char) : Read Unit := set { s with rest }
    let single (r : Regex) (rest : List Char) : Read Regex := do
      next rest
      let r ← readRepeats extended fuel r
      pure (.seq r (← readSequence extended fuel false))
    let endsHere (rest : List Char) : Bool :=
      match extended, rest with
      | _, [] => true
      | true, c :: _ => c == '|' || (c == ')' && s.depth != 0)
      | false, '\\' :: c :: _ => c == '|' || c == ')'
      | _, _ => false
    if endsHere s.rest then
      if !extended && s.depth = 0 && s.rest.take 2 = ['\\', ')'] then
        throw "Unmatched ) or \\)"
      pure .empty
    else
      match extended, s.rest with
      | true, '(' :: rest | false, '\\' :: '(' :: rest =>
        let n := s.opened + 1
        set { s with rest, opened := n, depth := s.depth + 1 }
        let r ← readAlternatives extended fuel
        let t ← get
        match extended, t.rest with
        | true, ')' :: rest | false, '\\' :: ')' :: rest =>
          set { t with rest, depth := s.depth }
          let r ← readRepeats extended fuel (.group n r)
          pure (.seq r (← readSequence extended fuel false))
        | _, _ => throw "Unmatched ( or \\("
      | _, '[' :: rest =>
        next rest
        let r ← readSet
        let r ← readRepeats extended fuel r
        pure (.seq r (← readSequence extended fuel false))
      | true, '^' :: rest =>
        next rest
        pure (.seq .lineStart (← readSequence extended fuel true))
      | true, '$' :: rest =>
        next rest
        pure (.seq .lineEnd (← readSequence extended fuel false))
      | false, '^' :: rest =>
        if isFirst then
          next rest
          pure (.seq .lineStart (← readSequence extended fuel true))
        else single (.char '^') rest
      | false, '$' :: rest =>
        if endsHere rest then
          next rest
          pure (.seq .lineEnd (← readSequence extended fuel false))
        else single (.char '$') rest
      | _, '.' :: rest => single .any rest
      | _, '*' :: rest =>
        if isFirst then single (.char '*') rest
        else throw "Invalid preceding regular expression"
      | true, '+' :: rest | true, '?' :: rest =>
        if isFirst then
          next rest
          readSequence extended fuel true
        else throw "Invalid preceding regular expression"
      | _, ['\\'] => throw "Trailing backslash"
      | _, '\\' :: c :: rest =>
        if c.isDigit && c ≠ '0' then
          let n := c.toNat - '0'.toNat
          if s.opened < n then throw "Invalid back reference"
          single (.again n) rest
        else single ((letterSet? c).getD (.char c)) rest
      | _, c :: rest => single (.char c) rest
      | _, [] => pure .empty
termination_by fuel

end

def ofChars? (extended : Bool) (cs : List Char) : Except String Regex := do
  let (r, s) ← (readAlternatives extended (2 * cs.length + 2)).run ⟨cs, 0, 0⟩
  match s.rest with
  | [] => pure r
  | ')' :: _ => throw "Unmatched ) or \\)"
  | _ => throw "Invalid regular expression"

end Regex
end Utility
end FeatureRunner
