import FeatureRunner.Shell.Statement

/-!
This module contains what is left of a script while it is read, and the steps of reading that do not
look into words: characters, operators and the complaints about tokens in the wrong place. It serves
the outer layer, which starts real commands; no result is about it.
-/

namespace FeatureRunner
namespace Shell

inductive Token where
  | eof
  | newline
  | operator (text : String)
  | keyword (text : String)
  | word (w : Word)
  | redirect (descriptor : Nat) (kind : RedirectKind)
  /-- A redirection to a here-document, which may have tabs in front of its lines. -/
  | document (descriptor : Nat) (dropsTabs : Bool)

instance : Inhabited Token := ⟨.eof⟩

/-- A here-document that was announced and whose text follows the line. -/
structure PendingDocument where
  number : Nat
  marker : String
  isRaw : Bool
  dropsTabs : Bool

/-- An alias that is being replaced: it is in use until less than `length` characters are left. -/
structure UsedAlias where
  name : String
  length : Nat
  blanks : Nat

structure Source where
  rest : List Char
  line : Nat := 1
  isExtended : Bool := false
  pushed : Option Token := none
  aliases : List (String × String) := []
  used : List UsedAlias := []
  pending : List PendingDocument := []
  documents : List (Nat × Word) := []
  nextDocument : Nat := 0
  /-- What kind of text this is, in complaints of the extended dialect. -/
  label : String := ""
  tokenStart : List Char := []
  /-- The characters that close what is open, the innermost first, with the lines where it was
  opened. -/
  openings : List (Char × Nat) := []

def Source.beginsOutputFile (s : Source) : Bool :=
  match s.rest with
  | '<' :: '(' :: _ => s.isExtended
  | _ => false

abbrev Reader := StateT Source (Except ScriptFault)

def keywords : List String :=
  ["!", "case", "do", "done", "elif", "else", "esac", "fi", "for", "if", "in", "then", "until",
   "while", "\x7b", "\x7d"]

def extendedKeywords : List String := ["[[", "function", "time"]

def closers : List String := ["do", "done", "elif", "else", "esac", "fi", "then", "\x7d"]

def Token.shown : Token → String
  | .eof => "end of file"
  | .newline => "newline"
  | .operator text | .keyword text => "\"" ++ text ++ "\""
  | .word _ => "word"
  | .redirect _ _ | .document _ _ => "redirection"

def Token.endsList : Token → Bool
  | .eof => true
  | .operator text => text ∈ [")", ";;", ";&", ";;&"]
  | .keyword text => closers.contains text
  | _ => false

def Token.isOperator (text : String) : Token → Bool
  | .operator t => t == text
  | _ => false

def Token.isKeyword (text : String) : Token → Bool
  | .keyword t => t == text
  | _ => false

def Token.isNewline : Token → Bool
  | .newline => true
  | _ => false

def isNameStart (c : Char) : Bool := c.isAlpha || c == '_'

def isNameChar (c : Char) : Bool := c.isAlphanum || c == '_'

def isName (s : String) : Bool :=
  match s.toList with
  | [] => false
  | c :: cs => isNameStart c && cs.all isNameChar

def isSpecialName (c : Char) : Bool :=
  c ∈ ['@', '*', '#', '?', '$', '!', '-']

def endsWord (c : Char) : Bool :=
  c ∈ [' ', '\t', '\n', ';', '&', '|', '<', '>', '(', ')']

namespace Reader

def fail (message : String) : Reader α := do
  throw ⟨(← get).line, message⟩

def unclosed (plain : String) : Reader α := do
  let s ← get
  match s.isExtended, s.openings with
  | true, (c, line) :: _ =>
    throw ⟨line, "unexpected EOF while looking for matching `" ++ c.toString ++ "'"⟩
  | _, _ => fail plain

def within (closing : Char) (read : Reader α) : Reader α := do
  modify fun s => { s with openings := (closing, s.line) :: s.openings }
  let a ← read
  modify fun s => { s with openings := s.openings.drop 1 }
  pure a

def unexpected (t : Token) (expected : Option Token := none) : Reader α := do
  let s ← get
  if s.isExtended then
    let near (text : String) (line : Nat) : Reader α :=
      throw ⟨line, "syntax error near unexpected token `" ++ text ++ "'"⟩
    match t with
    | .eof =>
      match s.openings with
      | (c, _) :: _ => fail ("unexpected EOF while looking for matching `" ++ c.toString ++ "'")
      | [] => fail "syntax error: unexpected end of file"
    | .newline => near "newline" (s.line - 1)
    | .operator text | .keyword text => near text s.line
    | _ =>
      near (String.ofList (s.tokenStart.take (s.tokenStart.length - s.rest.length))) s.line
  else
    fail <| t.shown ++ " unexpected" ++
      match expected with
      | some e => " (expecting " ++ e.shown ++ ")"
      | none => ""

def dropContinuations (count : Nat) : List Char → List Char × Nat
  | '\\' :: '\n' :: cs => dropContinuations (count + 1) cs
  | cs => (cs, count)

def skipContinuations : Reader Unit := modify fun s =>
  match s.rest with
  | '\\' :: '\n' :: _ =>
    let (rest, count) := dropContinuations 0 s.rest
    { s with rest, line := s.line + count }
  | _ => s

def peekRaw : Reader (Option Char) := do
  pure (← get).rest.head?

def peek : Reader (Option Char) := do
  skipContinuations
  peekRaw

def advance : Reader Unit := modify fun s =>
  match s.rest with
  | '\n' :: rest => { s with rest, line := s.line + 1 }
  | _ :: rest => { s with rest }
  | [] => s

def accept (c : Char) : Reader Bool := do
  if (← peek) = some c then
    advance
    pure true
  else pure false

def takeWhile (p : Char → Bool) : Reader (List Char) := do
  let s ← get
  let taken := s.rest.takeWhile p
  set { s with rest := s.rest.drop taken.length, line := s.line + taken.count '\n' }
  pure taken

def push (t : Token) : Reader Unit :=
  modify fun s => { s with pushed := some t }

def redirection (opening : Char) (descriptor : Option Nat) : Reader Token := do
  let extended := (← get).isExtended
  if opening = '>' then
    let d := descriptor.getD 1
    if ← accept '>' then pure (.redirect d .append)
    else if ← accept '&' then pure (.redirect d .duplicate)
    else if ← accept '|' then pure (.redirect d .overwrite)
    else pure (.redirect d .truncate)
  else
    let d := descriptor.getD 0
    if ← accept '<' then
      if extended && (← accept '<') then pure (.redirect d .text)
      else pure (.document d (← accept '-'))
    else if ← accept '&' then pure (.redirect d .duplicate)
    else if ← accept '>' then pure (.redirect d .readWrite)
    else pure (.redirect d .read)

def operator? : Reader (Option Token) := do
  let extended := (← get).isExtended
  match ← peek with
  | some '&' =>
    advance
    if ← accept '&' then pure (some (.operator "&&"))
    else if extended && (← peek) = some '>' then
      advance
      pure (some (.redirect 1 (.both (← accept '>'))))
    else pure (some (.operator "&"))
  | some '|' =>
    advance
    if ← accept '|' then pure (some (.operator "||"))
    else if extended && (← accept '&') then pure (some (.operator "|&"))
    else pure (some (.operator "|"))
  | some ';' =>
    advance
    if ← accept ';' then
      if extended && (← accept '&') then pure (some (.operator ";;&"))
      else pure (some (.operator ";;"))
    else if extended && (← accept '&') then pure (some (.operator ";&"))
    else pure (some (.operator ";"))
  | some '(' =>
    advance
    pure (some (.operator "("))
  | some ')' =>
    advance
    pure (some (.operator ")"))
  | some '<' =>
    if extended && (← get).beginsOutputFile then pure none
    else
      advance
      some <$> redirection '<' none
  | some '>' =>
    advance
    some <$> redirection '>' none
  | _ => pure none

def skipBlanks : Reader Unit := modify fun s =>
  let (rest, lines) := go s.rest 0
  { s with rest, line := s.line + lines }
where
  /-- What is behind blanks and comments, and the number of line breaks taken back on the way. -/
  go : List Char → Nat → List Char × Nat
    | ' ' :: cs, n | '\t' :: cs, n => go cs n
    | '\\' :: '\n' :: cs, n => go cs (n + 1)
    | '#' :: cs, n => (cs.dropWhile (· != '\n'), n)
    | cs, n => (cs, n)

def untilQuote (closing : Char) : Reader (List Char) := do
  let inside ← takeWhile (· != closing)
  if (← peekRaw).isNone then unclosed "Unterminated quoted string"
  advance
  pure inside

def marker : Reader (String × Bool) := do
  skipBlanks
  let s ← get
  let (text, quoted, rest) := go s.rest [] false s.rest.length
  set { s with rest }
  pure (String.ofList text.reverse, quoted)
where
  go (cs text : List Char) (quoted : Bool) : Nat → List Char × Bool × List Char
    | 0 => (text, quoted, cs)
    | fuel + 1 =>
      match cs with
      | '\\' :: c :: cs => go cs (c :: text) true fuel
      | '\'' :: cs =>
        let inside := cs.takeWhile (· != '\'')
        go (cs.drop (inside.length + 1)) (inside.reverse ++ text) true fuel
      | '"' :: cs =>
        let inside := cs.takeWhile (· != '"')
        go (cs.drop (inside.length + 1)) (inside.reverse ++ text) true fuel
      | c :: cs => if endsWord c then (text, quoted, c :: cs) else go cs (c :: text) quoted fuel
      | [] => (text, quoted, [])

def documentLines (d : PendingDocument) (fuel : Nat) (cs : List Char) : List Char × List Char :=
  match fuel, cs with
  | 0, _ | _, [] => ([], [])
  | fuel + 1, cs =>
    let cs := if d.dropsTabs then cs.dropWhile (· == '\t') else cs
    let line := cs.takeWhile (· != '\n')
    let rest := cs.drop (line.length + 1)
    if String.ofList line = d.marker then ([], rest)
    else
      let broken := if line.length < cs.length then ['\n'] else []
      let (text, rest) := documentLines d fuel rest
      (line ++ broken ++ text, rest)

end Reader
end Shell
end FeatureRunner
