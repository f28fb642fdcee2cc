import FeatureRunner.Shell.Braces
import FeatureRunner.Shell.Format

/-!
This module contains the reading of words and statements. Every call of a reader uses up one unit of
fuel; the calls nest no deeper than a fixed number for every character that is left. It serves the
outer layer, which starts real commands; no result is about it.
-/

namespace FeatureRunner
namespace Shell

structure Check where
  newlines : Bool := false
  keywords : Bool := false
  aliases : Bool := false

namespace Check

def none : Check := {}

def command : Check := { keywords := true, aliases := true }

def anyLine : Check := { newlines := true, keywords := true, aliases := true }

end Check

inductive Limit where
  | word
  | quotes
  | before (stops : List Char) (quoted : Bool)
  | formula (depth : Nat)
  | document

namespace Limit

def isQuoted : Limit → Bool
  | word => false
  | before _ quoted => quoted
  | quotes | formula _ | document => true

def escaped : Limit → List Char
  | quotes => ['$', '`', '"', '\\']
  | before stops true => ['$', '`', '"', '\\'] ++ stops
  | formula _ => ['$', '`', '\\']
  | document => ['$', '`', '\\']
  | word | before _ false => []

end Limit

def addChar (parts : List Part) (quoted : Bool) (c : Char) : List Part :=
  match parts with
  | .chars q cs :: rest =>
    if q = quoted then .chars q (c :: cs) :: rest else .chars quoted [c] :: parts
  | _ => .chars quoted [c] :: parts

def inOrder (parts : List Part) : List Part :=
  (parts.map fun
    | .chars q cs => .chars q cs.reverse
    | p => p).reverse

def backquoted (quoted : Bool) (text : List Char) : List Char → Option (List Char × List Char)
  | [] => none
  | '`' :: cs => some (text.reverse, cs)
  | '\\' :: c :: cs =>
    if c ∈ ['`', '$', '\\'] || (quoted && c == '"') then backquoted quoted (c :: text) cs
    else backquoted quoted (c :: '\\' :: text) cs
  | c :: cs => backquoted quoted (c :: text) cs

/-- What stands behind a backslash in a quoted text of the extended dialect: the bytes that it
stands for and the number of characters. -/
def ansiEscape (cs : List Char) : List Char × Nat :=
  match hexEscape? { hasBytes := true, hasCodes := true } cs with
  | some (bytes, rest) => (bytes, cs.length - rest.length)
  | none =>
    match cs with
    | 'E' :: _ => (['\x1b'], 1)
    | _ =>
      let (c, rest) := escapeAt cs
      ([c], cs.length - rest.length)

/-- Text between single quotes behind a dollar sign, and what is behind it. `skip` characters belong
to what was taken already. -/
def ansiQuoted (text : List Char) (skip : Nat) : List Char → List Char × List Char
  | [] => (text.reverse, [])
  | c :: cs =>
    match skip with
    | skip + 1 => ansiQuoted text skip cs
    | 0 =>
      if c = '\'' then (text.reverse, cs)
      else if c = '\\' then
        let (bytes, count) := ansiEscape cs
        ansiQuoted (bytes.reverse ++ text) count cs
      else ansiQuoted (c :: text) 0 cs

/-- The variable of an assignment in front of an unquoted word, the index text apart. -/
structure AssignmentStart where
  name : String
  appends : Bool
  value : Word

def assignmentStart? (extended : Bool) : Word → Option AssignmentStart
  | .chars false cs :: rest =>
    let name := cs.takeWhile isNameChar
    if !isName (String.ofList name) then none
    else
      match cs.drop name.length with
      | '=' :: value =>
        let first := if value.isEmpty then [] else [Part.chars false value]
        some ⟨String.ofList name, false, first ++ rest⟩
      | '+' :: '=' :: value =>
        let first := if value.isEmpty then [] else [Part.chars false value]
        if extended then some ⟨String.ofList name, true, first ++ rest⟩ else none
      | _ => none
  | _ => none

def bracketed? (current : List BraceItem) : List BraceItem → Option (Word × List BraceItem)
  | [] => none
  | .char ']' :: rest => some (wordOfItems current.reverse, rest)
  | i :: rest => bracketed? (i :: current) rest

def indexed? (name : String) (items : List BraceItem) : Option (Assignment Word) :=
  match bracketed? [] items with
  | some (index, .char '=' :: value) => some ⟨name, some index, false, wordOfItems value, none⟩
  | some (index, .char '+' :: .char '=' :: value) =>
    some ⟨name, some index, true, wordOfItems value, none⟩
  | _ => none

/-- The element of the array with a name that a word between the parentheses of the array assigns
to. -/
def arrayElement? (name : String) (w : Word) : Option (Assignment Word) :=
  match w with
  | .chars false ('[' :: _) :: _ => indexed? name ((braceItems w).drop 1)
  | _ => none

def elementAssignment? (w : Word) : Option (Assignment Word) :=
  match w with
  | .chars false cs :: _ =>
    let name := cs.takeWhile isNameChar
    if isName (String.ofList name) && cs[name.length]? = some '[' then
      indexed? (String.ofList name) ((braceItems w).drop (name.length + 1))
    else none
  | _ => none

def withErrors (s : Statement) : Statement :=
  .redirected 0 s [⟨2, .duplicate, [.chars false ['1']]⟩]

def declaringWords : List String := ["declare", "typeset", "local", "export", "readonly"]

def reservedNames : List String :=
  [".", ":", "break", "continue", "eval", "exec", "exit", "export", "readonly", "return", "set",
   "shift", "times", "trap", "unset", "local"]

namespace Reader

def inText (text : List Char) (read : Reader α) : Reader α := do
  let outer ← get
  set { outer with rest := text, pushed := none, pending := [], used := [] }
  let a ← read
  modify fun s =>
    { s with
      rest := outer.rest, line := outer.line, pushed := outer.pushed, pending := outer.pending,
      used := outer.used }
  pure a

def parameterName : Reader (Option (String × Bool)) := do
  match ← peek with
  | none => pure none
  | some c =>
    if isNameStart c then
      let name ← takeWhile isNameChar
      pure (some (String.ofList name, false))
    else if c.isDigit then
      let digits ← takeWhile Char.isDigit
      pure (some (String.ofList digits, false))
    else if c = '#' then
      advance
      let s ← get
      match s.rest with
      | d :: e :: _ =>
        if isNameChar d then
          let name ← takeWhile isNameChar
          pure (some (String.ofList name, true))
        else if d ≠ '\x7d' && e = '\x7d' && isSpecialName d then
          advance
          pure (some (d.toString, true))
        else pure (some ("#", false))
      | _ => pure (some ("#", false))
    else if isSpecialName c then
      advance
      pure (some (c.toString, false))
    else pure none

def plainUse? : Reader (Option Use) := do
  match ← peek with
  | some ':' =>
    advance
    match ← peek with
    | some '-' => advance; pure (some (.orElse true))
    | some '=' => advance; pure (some (.orAssign true))
    | some '?' => advance; pure (some (.orFail true))
    | some '+' => advance; pure (some (.instead true))
    | some '\x7d' => pure (some .value)
    | _ => pure none
  | some '-' => advance; pure (some (.orElse false))
  | some '=' => advance; pure (some (.orAssign false))
  | some '?' => advance; pure (some (.orFail false))
  | some '+' => advance; pure (some (.instead false))
  | some '#' => advance; pure (some (.dropStart (← accept '#')))
  | some '%' => advance; pure (some (.dropEnd (← accept '%')))
  | some '\x7d' => pure (some .value)
  | _ => advance; pure none

def isPatternUse : Use → Bool
  | .dropStart _ | .dropEnd _ => true
  | _ => false

def keywordOf? (extended : Bool) (w : Word) : Option Token :=
  match plain? w with
  | some text =>
    if keywords.contains text || (extended && extendedKeywords.contains text) then
      some (.keyword text)
    else none
  | none => none

/-- Is an alias used up to which no more than its blanks are left? Then the next word may be one. -/
def behindAlias (s : Source) : Bool :=
  match s.used with
  | u :: _ => u.blanks > 0 && u.length ≤ s.rest.length && s.rest.length ≤ u.length + u.blanks
  | [] => false

def replaceAlias (name : String) : Reader Bool := do
  let s ← get
  let used := s.used.filter fun u => u.length ≤ s.rest.length
  match s.aliases.lookup name with
  | some text =>
    if used.any (·.name == name) then pure false
    else
      let blanks := (text.toList.reverse.takeWhile fun c => c = ' ' || c = '\t').length
      set { s with
        rest := text.toList ++ s.rest
        used := ⟨name, s.rest.length, blanks⟩ :: used }
      pure true
  | none => pure false

mutual

def readParts (fuel : Nat) (limit : Limit) (parts : List Part) : Reader (List Part) :=
  match fuel with
  | 0 => fail "Unterminated quoted string"
  | fuel + 1 => do
    let s ← get
    match s.rest with
    | [] =>
      match limit with
      | .word | .document => pure (inOrder parts)
      | .quotes => unclosed "Unterminated quoted string"
      | .before _ _ => unclosed "Missing '\x7d'"
      | .formula _ => unclosed "Missing '))'"
    | '\\' :: '\n' :: _ =>
      skipContinuations
      readParts fuel limit parts
    | '\\' :: c :: _ =>
      advance
      if !limit.isQuoted || limit.escaped.contains c then
        advance
        readParts fuel limit (addChar parts true c)
      else readParts fuel limit (addChar parts true '\\')
    | ['\\'] =>
      advance
      readParts fuel limit (addChar parts true '\\')
    | '$' :: rest =>
      advance
      match s.isExtended && !limit.isQuoted, rest with
      | true, '\'' :: text =>
        let (inside, rest) := ansiQuoted [] 0 text
        modify fun s => { s with rest }
        readParts fuel limit (.chars true inside.reverse :: parts)
      | true, '"' :: _ => readParts fuel limit parts
      | _, _ =>
        match ← readDollar fuel limit.isQuoted with
        | some p => readParts fuel limit (p :: parts)
        | none => readParts fuel limit (addChar parts limit.isQuoted '$')
    | '`' :: rest =>
      match backquoted limit.isQuoted [] rest with
      | none => within '`' (unclosed "EOF in backquote substitution")
      | some (text, rest) =>
        let line := s.line + (s.rest.take (s.rest.length - rest.length)).count '\n'
        let statement ← inText text (readList fuel true none)
        modify fun s => { s with rest, line }
        readParts fuel limit (.output statement :: parts)
    | c :: _ =>
      match limit with
      | .word =>
        if s.beginsOutputFile then
          advance
          advance
          let statement ← readEnclosed fuel
          readParts fuel limit (.outputFile statement :: parts)
        else if endsWord c then pure (inOrder parts)
        else readUnquoted fuel limit parts c
      | .before stops false =>
        if stops.contains c then pure (inOrder parts) else readUnquoted fuel limit parts c
      | .before stops true =>
        if stops.contains c then pure (inOrder parts)
        else
          advance
          readParts fuel limit (if c = '"' then parts else addChar parts true c)
      | .quotes =>
        advance
        if c = '"' then pure (inOrder parts) else readParts fuel limit (addChar parts true c)
      | .document =>
        advance
        readParts fuel limit (addChar parts true c)
      | .formula depth =>
        advance
        if c = '(' then readParts fuel (.formula (depth + 1)) (addChar parts true c)
        else if c = ')' then
          match depth with
          | depth + 1 => readParts fuel (.formula depth) (addChar parts true c)
          | 0 =>
            if ← accept ')' then pure (inOrder parts)
            else readParts fuel limit (addChar parts true c)
        else if c = '"' then readParts fuel limit parts
        else readParts fuel limit (addChar parts true c)
termination_by fuel

def readUnquoted (fuel : Nat) (limit : Limit) (parts : List Part) (c : Char)
    : Reader (List Part) :=
  match fuel with
  | 0 => fail "Unterminated quoted string"
  | fuel + 1 => do
    advance
    if c = '\'' then
      let inside ← within '\'' (untilQuote '\'')
      readParts fuel limit (.chars true inside.reverse :: parts)
    else if c = '"' then
      let inside ← within '"' (readParts fuel .quotes [])
      readParts fuel limit (.quoted inside :: parts)
    else readParts fuel limit (addChar parts false c)
termination_by fuel

def readDollar (fuel : Nat) (quoted : Bool) : Reader (Option Part) :=
  match fuel with
  | 0 => pure none
  | fuel + 1 => do
    match ← peek with
    | some '(' =>
      advance
      if ← accept '(' then
        pure (some (.arithmetic (← within ')' (readParts fuel (.formula 0) []))))
      else
        pure (some (.output (← readEnclosed fuel)))
    | some '\x7b' =>
      advance
      some <$> within '\x7d' (readBraces fuel quoted)
    | some c =>
      if isNameStart c then
        let name ← takeWhile isNameChar
        pure (some (.parameter (String.ofList name) none .value []))
      else if c.isDigit || isSpecialName c then
        advance
        pure (some (.parameter c.toString none .value []))
      else pure none
    | none => pure none
termination_by fuel

def readEnclosed (fuel : Nat) : Reader Statement :=
  match fuel with
  | 0 => fail "list unexpected"
  | fuel + 1 => do
    let outer ← get
    set { outer with pushed := none, pending := [] }
    let statement ← within ')' do
      let statement ← readList fuel true none
      let t ← readToken fuel .none
      unless t.isOperator ")" do unexpected t (some (.operator ")"))
      pure statement
    modify fun s => { s with pushed := none, pending := outer.pending }
    pure statement
termination_by fuel

def readBraces (fuel : Nat) (quoted : Bool) : Reader Part :=
  match fuel with
  | 0 => fail "Missing '\x7d'"
  | fuel + 1 => do
    let start := (← get).rest
    let extended := (← get).isExtended
    let indirect := extended &&
      match (← get).rest with
      | '!' :: c :: _ => isNameStart c
      | _ => false
    if indirect then advance
    let named ← parameterName
    let index ←
      if extended && named.isSome && (← peek) = some '[' then
        advance
        let parts ← readParts fuel (.before [']'] true) []
        advance
        pure (some parts)
      else pure none
    let isList : Bool :=
      match index with
      | some [.chars true [c]] => c == '@' || c == '*'
      | _ => false
    let named := named.map fun (name, b) => (if indirect && !isList then "!" ++ name else name, b)
    match named with
    | none => badPart fuel quoted start
    | some (name, true) =>
      if ← accept '\x7d' then pure (.parameter name index .length [])
      else badPart fuel quoted start
    | some (name, false) =>
      if extended && (← get).rest.head? = some '/' then
        advance
        let everywhere ← accept '/'
        let atStart ← if everywhere then pure false else accept '#'
        let atEnd ← if everywhere || atStart then pure false else accept '%'
        let pattern ← readParts fuel (.before ['/', '\x7d'] false) []
        let value ←
          if ← accept '/' then readParts fuel (.before ['\x7d'] false) [] else pure []
        advance
        pure (.parameter name index (.replace everywhere atStart atEnd) [pattern, value])
      else if extended && (← get).rest.head? = some '^' then
        advance
        let everywhere ← accept '^'
        let _ ← readParts fuel (.before ['\x7d'] quoted) []
        advance
        pure (.parameter name index (.upper everywhere) [])
      else if extended && (← get).rest.head? = some ',' then
        advance
        let everywhere ← accept ','
        let _ ← readParts fuel (.before ['\x7d'] quoted) []
        advance
        pure (.parameter name index (.lower everywhere) [])
      else if extended && isSliceStart (← get).rest then
        advance
        let start ← readParts fuel (.before [':', '\x7d'] true) []
        let length ←
          if ← accept ':' then List.singleton <$> readParts fuel (.before ['\x7d'] true) []
          else pure []
        advance
        pure (.parameter name index .slice (start :: length))
      else
        match ← plainUse? with
        | none => badPart fuel quoted start
        | some use =>
          let w ← readParts fuel (.before ['\x7d'] (quoted && !isPatternUse use)) []
          advance
          pure (.parameter name index (if indirect && isList then .indirect else use) [w])
termination_by fuel
where
  /-- Does a part of a value follow, and not a use of the plain dialect? -/
  isSliceStart : List Char → Bool
    | ':' :: c :: _ => !(['-', '=', '?', '+', '\x7d'].contains c)
    | _ => false

/-- Passes over the rest of an expansion that is none; `start` is what is left behind its brace. -/
def badPart (fuel : Nat) (quoted : Bool) (start : List Char) : Reader Part :=
  match fuel with
  | 0 => fail "Missing '\x7d'"
  | fuel + 1 => do
    let _ ← readParts fuel (.before ['\x7d'] quoted) []
    advance
    let text := start.take (start.length - (← get).rest.length)
    pure (.parameter (String.ofList ('$' :: '\x7b' :: text)) none .bad [])
termination_by fuel

def readRaw (fuel : Nat) : Reader Token :=
  match fuel with
  | 0 => pure .eof
  | fuel + 1 => do
    skipBlanks
    modify fun s => { s with tokenStart := s.rest }
    match ← peekRaw with
    | none => pure .eof
    | some '\n' =>
      advance
      pure .newline
    | some c =>
      match ← operator? with
      | some t => pure t
      | none =>
        let s ← get
        match c.isDigit, s.rest with
        | true, _ :: d :: _ =>
          if d = '<' || d = '>' then
            advance
            advance
            redirection d (some (c.toNat - '0'.toNat))
          else .word <$> readParts fuel .word []
        | _, _ => .word <$> readParts fuel .word []
termination_by fuel

def readToken (fuel : Nat) (check : Check) : Reader Token :=
  match fuel with
  | 0 => pure .eof
  | fuel + 1 => do
    let s ← get
    let aliases := check.aliases || behindAlias s
    let t ←
      match s.pushed with
      | some t =>
        set { s with pushed := none }
        pure t
      | none => readRaw fuel
    match t with
    | .newline =>
      if check.newlines then
        readDocuments fuel
        readToken fuel check
      else pure t
    | .word w =>
      match if check.keywords then keywordOf? s.isExtended w else none with
      | some k => pure k
      | none =>
        match if aliases then plain? w else none with
        | some name =>
          if ← replaceAlias name then readToken fuel { check with aliases } else pure t
        | none => pure t
    | _ => pure t
termination_by fuel

def readDocuments (fuel : Nat) : Reader Unit :=
  match fuel with
  | 0 => pure ()
  | fuel + 1 => do
    let s ← get
    match s.pending with
    | [] => pure ()
    | d :: pending =>
      let (text, rest) := documentLines d (s.rest.length + 1) s.rest
      let line := s.line + (s.rest.take (s.rest.length - rest.length)).count '\n'
      let parts ←
        if d.isRaw then pure [.chars true text] else inText text (readParts fuel .document [])
      modify fun s =>
        { s with rest, line, pending, documents := (d.number, parts) :: s.documents }
      readDocuments fuel
termination_by fuel

def readTarget (fuel : Nat) (t : Token) : Reader (Option (Redirect Word)) :=
  match fuel with
  | 0 => pure none
  | fuel + 1 => do
    match t with
    | .redirect descriptor kind =>
      match ← readToken fuel .none with
      | .word w => pure (some ⟨descriptor, kind, w⟩)
      | t => unexpected t
    | .document descriptor dropsTabs =>
      let (text, quoted) ← marker
      if text.isEmpty && !quoted then unexpected (← readToken fuel .none)
      let number := (← get).nextDocument
      modify fun s =>
        { s with
          nextDocument := number + 1
          pending := s.pending ++ [⟨number, text, quoted, dropsTabs⟩] }
      pure (some ⟨descriptor, .document number, []⟩)
    | _ => pure none
termination_by fuel

def readRedirects (fuel : Nat) (redirects : List (Redirect Word))
    : Reader (List (Redirect Word)) :=
  match fuel with
  | 0 => pure redirects
  | fuel + 1 => do
    let t ← readToken fuel .command
    match ← readTarget fuel t with
    | some r => readRedirects fuel (redirects ++ [r])
    | none =>
      push t
      pure redirects
termination_by fuel

def readElements (fuel : Nat) (words : List Word) : Reader (List Word) :=
  match fuel with
  | 0 => pure words
  | fuel + 1 => do
    match ← readToken fuel { newlines := true } with
    | .word w => readElements fuel (words ++ [w])
    | .eof => unclosed "word unexpected"
    | t => if t.isOperator ")" then pure words else unexpected t (some (.operator ")"))
termination_by fuel

def readSimple (fuel line : Nat) (assigns : Bool) (assignments : List (Assignment Word))
    (words : List Word) (redirects : List (Redirect Word)) : Reader Statement :=
  match fuel with
  | 0 => fail "command unexpected"
  | fuel + 1 => do
    let t ← readToken fuel { aliases := assigns }
    let extended := (← get).isExtended
    match t with
    | .word w =>
      let declares := extended && (words.head?.bind plain?).any declaringWords.contains
      match assignmentStart? extended w with
      | some start =>
        if (assigns || declares) && extended && start.value.isEmpty && (← peekRaw) = some '(' then
          advance
          let elements ← within ')' (readElements fuel [])
          let a : Assignment Word := ⟨start.name, none, start.appends, [], some elements⟩
          readSimple fuel line assigns (assignments ++ [a]) words redirects
        else if assigns then
          let a : Assignment Word := ⟨start.name, none, start.appends, start.value, none⟩
          readSimple fuel line true (assignments ++ [a]) words redirects
        else readSimple fuel line false assignments (words ++ [w]) redirects
      | none =>
        match if assigns && extended then elementAssignment? w else none with
        | some a => readSimple fuel line true (assignments ++ [a]) words redirects
        | none =>
          let more := if extended then expandBraces w else [w]
          readSimple fuel line false assignments (words ++ more) redirects
    | .redirect _ _ | .document _ _ =>
      let r ← readTarget fuel t
      readSimple fuel line assigns assignments words (redirects ++ r.toList)
    | .operator "(" =>
      match words, assignments, redirects with
      | [w], [], [] => readFunction fuel w
      | _, _, _ =>
        push t
        pure (.simple line assignments words redirects)
    | _ =>
      push t
      pure (.simple line assignments words redirects)
termination_by fuel

def readFunction (fuel : Nat) (w : Word) : Reader Statement :=
  match fuel with
  | 0 => fail "Bad function name"
  | fuel + 1 => do
    let t ← readToken fuel .none
    unless t.isOperator ")" do unexpected t (some (.operator ")"))
    let name := (plain? w).getD ""
    let s ← get
    if reservedNames.contains name || !(isName name || (s.isExtended && !name.isEmpty)) then
      fail "Bad function name"
    let body ← readCommand fuel .anyLine
    pure (.define s.line name body)
termination_by fuel

def readBlock (fuel : Nat) (opening closing : String) (check : Check) : Reader Statement :=
  match fuel with
  | 0 => fail "block unexpected"
  | fuel + 1 => do
    let t ← readToken fuel check
    unless t.isKeyword opening do unexpected t (some (.keyword opening))
    let body ← readList fuel false none
    let t ← readToken fuel .none
    unless t.isKeyword closing do unexpected t (some (.keyword closing))
    pure body
termination_by fuel

def readConditional (fuel : Nat) : Reader Statement :=
  match fuel with
  | 0 => fail "if unexpected"
  | fuel + 1 => do
    let condition ← readList fuel false none
    let t ← readToken fuel .none
    unless t.isKeyword "then" do unexpected t (some (.keyword "then"))
    let yes ← readList fuel false none
    let t ← readToken fuel .none
    if t.isKeyword "elif" then
      let no ← readConditional fuel
      pure (.conditional condition yes no)
    else if t.isKeyword "else" then
      let no ← readList fuel false none
      let t ← readToken fuel .none
      unless t.isKeyword "fi" do unexpected t (some (.keyword "fi"))
      pure (.conditional condition yes no)
    else if t.isKeyword "fi" then pure (.conditional condition yes .nothing)
    else unexpected t (some (.keyword "fi"))
termination_by fuel

def readWords (fuel : Nat) (words : List Word) : Reader (List Word) :=
  match fuel with
  | 0 => pure words
  | fuel + 1 => do
    match ← readToken fuel .none with
    | .word w =>
      let more := if (← get).isExtended then expandBraces w else [w]
      readWords fuel (words ++ more)
    | t => if t.isNewline || t.isOperator ";" then pure words else unexpected t
termination_by fuel

def readEach (fuel : Nat) : Reader Statement :=
  match fuel with
  | 0 => fail "for unexpected"
  | fuel + 1 => do
    let line := (← get).line
    skipBlanks
    match (← get).isExtended, (← get).rest with
    | true, '(' :: '(' :: rest =>
      modify fun s => { s with rest }
      let start ← readParts fuel (.before [';'] true) []
      advance
      let condition ← readParts fuel (.before [';'] true) []
      advance
      let step ← readParts fuel (.formula 0) []
      let t ← readToken fuel .anyLine
      unless t.isOperator ";" do push t
      let body ← readBlock fuel "do" "done" .anyLine
      pure (.count line start condition step body)
    | _, _ =>
      let name ←
        match ← readToken fuel .none with
        | .word w =>
          match plain? w with
          | some name => if isName name then pure name else fail "Bad for loop variable"
          | none => fail "Bad for loop variable"
        | _ => fail "Bad for loop variable"
      let t ← readToken fuel .anyLine
      let words ←
        if t.isKeyword "in" then some <$> readWords fuel []
        else
          unless t.isOperator ";" do push t
          pure none
      let body ← readBlock fuel "do" "done" .anyLine
      pure (.each line name words body)
termination_by fuel

def readPatterns (fuel : Nat) (t : Token) (patterns : List Word) : Reader (List Word) :=
  match fuel with
  | 0 => pure patterns
  | fuel + 1 => do
    let w : Word :=
      match t with
      | .word w => w
      | .keyword text => [.chars false text.toList]
      | _ => []
    let next ← readToken fuel .none
    if next.isOperator "|" then
      readPatterns fuel (← readToken fuel .none) (patterns ++ [w])
    else if next.isOperator ")" then pure (patterns ++ [w])
    else unexpected next (some (.operator ")"))
termination_by fuel

def readClauses (fuel : Nat) (clauses : List (Clause Word Statement))
    : Reader (List (Clause Word Statement)) :=
  match fuel with
  | 0 => pure clauses
  | fuel + 1 => do
    let t ← readToken fuel { newlines := true, keywords := true }
    if t.isKeyword "esac" then pure clauses
    else
      let t ← if t.isOperator "(" then readToken fuel .none else pure t
      let patterns ← readPatterns fuel t []
      let body ← readList fuel true none
      let t ← readToken fuel { newlines := true, keywords := true }
      let clause : Clause Word Statement :=
        ⟨patterns, body, t.isOperator ";&", t.isOperator ";;&"⟩
      if t.isKeyword "esac" then pure (clauses ++ [clause])
      else if t.isOperator ";;" || t.isOperator ";&" || t.isOperator ";;&" then
        readClauses fuel (clauses ++ [clause])
      else unexpected t (some (.operator ";;"))
termination_by fuel

def readSelect (fuel : Nat) : Reader Statement :=
  match fuel with
  | 0 => fail "case unexpected"
  | fuel + 1 => do
    let line := (← get).line
    match ← readToken fuel .none with
    | .word w =>
      let t ← readToken fuel .anyLine
      unless t.isKeyword "in" do unexpected t (some (.keyword "in"))
      pure (.select line w (← readClauses fuel []))
    | t => unexpected t (some (.word []))
termination_by fuel

def readCondition (fuel : Nat) : Reader (Condition Word) :=
  match fuel with
  | 0 => fail "condition unexpected"
  | fuel + 1 => do
    let c ← readConjunction fuel
    let t ← readToken fuel { newlines := true }
    if t.isOperator "||" then pure (.or c (← readCondition fuel))
    else
      push t
      pure c
termination_by fuel

def readConjunction (fuel : Nat) : Reader (Condition Word) :=
  match fuel with
  | 0 => fail "condition unexpected"
  | fuel + 1 => do
    let c ← readPrimary fuel
    let t ← readToken fuel { newlines := true }
    if t.isOperator "&&" then pure (.and c (← readConjunction fuel))
    else
      push t
      pure c
termination_by fuel

def readPrimary (fuel : Nat) : Reader (Condition Word) :=
  match fuel with
  | 0 => fail "condition unexpected"
  | fuel + 1 => do
    match ← readToken fuel { newlines := true } with
    | .operator "(" =>
      let c ← readCondition fuel
      let t ← readToken fuel .none
      unless t.isOperator ")" do unexpected t (some (.operator ")"))
      pure c
    | .word w =>
      match plain? w with
      | some "!" => .not <$> readPrimary fuel
      | some text =>
        if text.startsWith "-" && text.length = 2 then
          match ← readToken fuel .none with
          | .word v => pure (.one text v)
          | t => unexpected t
        else readComparison fuel w
      | none => readComparison fuel w
    | t => unexpected t
termination_by fuel

def readComparison (fuel : Nat) (v : Word) : Reader (Condition Word) :=
  match fuel with
  | 0 => fail "condition unexpected"
  | fuel + 1 => do
    match ← readToken fuel .none with
    | .word w =>
      match plain? w with
      | some "]]" =>
        push (.word w)
        pure (.one "-n" v)
      | some question =>
        if question = "=~" then
          skipBlanks
          let pattern ← readParts fuel (.before [' ', '\t', '\n'] false) []
          pure (.two v question pattern)
        else
          match ← readToken fuel .none with
          | .word w => pure (.two v question w)
          | t => unexpected t
      | none => unexpected (.word w)
    | .redirect _ .read =>
      match ← readToken fuel .none with
      | .word w => pure (.two v "<" w)
      | t => unexpected t
    | .redirect _ .truncate =>
      match ← readToken fuel .none with
      | .word w => pure (.two v ">" w)
      | t => unexpected t
    | t =>
      push t
      pure (.one "-n" v)
termination_by fuel

def readCommand (fuel : Nat) (check : Check) : Reader Statement :=
  match fuel with
  | 0 => fail "command unexpected"
  | fuel + 1 => do
    let line := (← get).line
    let t ← readToken fuel check
    let compound (s : Reader Statement) : Reader Statement := do
      let s ← s
      let redirects ← readRedirects fuel []
      match s, redirects with
      | s, [] => pure s
      | .subshell line s _, redirects => pure (.subshell line s redirects)
      | s, redirects => pure (.redirected line s redirects)
    match t with
    | .keyword "if" => compound (readConditional fuel)
    | .keyword "while" => compound do
      let condition ← readList fuel false none
      pure (.loop true condition (← readBlock fuel "do" "done" .none))
    | .keyword "until" => compound do
      let condition ← readList fuel false none
      pure (.loop false condition (← readBlock fuel "do" "done" .none))
    | .keyword "for" => compound (readEach fuel)
    | .keyword "case" => compound (readSelect fuel)
    | .keyword "\x7b" => compound do
      let body ← readList fuel false none
      let t ← readToken fuel .none
      unless t.isKeyword "\x7d" do unexpected t (some (.keyword "\x7d"))
      pure body
    | .keyword "[[" => compound do
      let c ← readCondition fuel
      match ← readToken fuel .none with
      | .word w => unless plain? w = some "]]" do unexpected (.word w)
      | t => unexpected t
      pure (.test line c)
    | .keyword "function" => do
      match ← readToken fuel .none with
      | .word w =>
        let t ← readToken fuel .none
        if t.isOperator "(" then readFunction fuel w
        else
          push t
          pure (.define line ((plain? w).getD "") (← readCommand fuel .anyLine))
      | t => unexpected t
    | .keyword "time" => readCommand fuel .command
    | .operator "(" => do
      if (← get).isExtended && (← peekRaw) = some '(' then
        compound do
          advance
          pure (.compute line (← readParts fuel (.formula 0) []))
      else
        compound do
          let body ← readList fuel false none
          let t ← readToken fuel .none
          unless t.isOperator ")" do unexpected t (some (.operator ")"))
          pure (.subshell line body [])
    | .word _ | .redirect _ _ | .document _ _ => do
      push t
      readSimple fuel (← get).line true [] [] []
    | t => unexpected t
termination_by fuel

def readPipe (fuel : Nat) (parts : List Statement) : Reader (List Statement) :=
  match fuel with
  | 0 => pure parts
  | fuel + 1 => do
    let t ← readToken fuel .none
    if t.isOperator "|" then
      let s ← readCommand fuel .anyLine
      readPipe fuel (parts ++ [s])
    else if t.isOperator "|&" then
      let s ← readCommand fuel .anyLine
      readPipe fuel (parts.dropLast ++ (parts.getLast?.map withErrors).toList ++ [s])
    else
      push t
      pure parts
termination_by fuel

def readPipeline (fuel : Nat) (check : Check) : Reader Statement :=
  match fuel with
  | 0 => fail "pipeline unexpected"
  | fuel + 1 => do
    let t ← readToken fuel check
    let negated := t.isKeyword "!"
    unless negated do push t
    let first ← readCommand fuel .command
    let s ←
      match ← readPipe fuel [first] with
      | [s] => pure s
      | parts => pure (.pipeline parts)
    pure (if negated then .not s else s)
termination_by fuel

def readChain (fuel : Nat) (first : Statement) : Reader Statement :=
  match fuel with
  | 0 => pure first
  | fuel + 1 => do
    let t ← readToken fuel .none
    if t.isOperator "&&" then
      let s ← readPipeline fuel .anyLine
      readChain fuel (.and first s)
    else if t.isOperator "||" then
      let s ← readPipeline fuel .anyLine
      readChain fuel (.or first s)
    else
      push t
      pure first
termination_by fuel

/-- Reads statements up to a token that ends them, which is put back. `read` are those before. -/
def readList (fuel : Nat) (mayBeEmpty : Bool) (read : Option Statement) : Reader Statement :=
  match fuel with
  | 0 => fail "list unexpected"
  | fuel + 1 => do
    let t ← readToken fuel .anyLine
    push t
    match t with
    | .eof => pure (read.getD .nothing)
    | t =>
      if (mayBeEmpty || read.isSome) && t.endsList then pure (read.getD .nothing)
      else
        let first ← readPipeline fuel .command
        let s ← readChain fuel first
        let t ← readToken fuel .none
        let s := if t.isOperator "&" then .background s else s
        let s :=
          match read with
          | some r => .sequence r s
          | none => s
        if t.isNewline then
          push t
          readList fuel mayBeEmpty (some s)
        else if t.isOperator ";" || t.isOperator "&" then readList fuel mayBeEmpty (some s)
        else
          push t
          pure s
termination_by fuel

def readLine (fuel : Nat) (read : Option Statement) : Reader (Option Statement) :=
  match fuel with
  | 0 => fail "line unexpected"
  | fuel + 1 => do
    let t ← readToken fuel .command
    match t with
    | .newline =>
      readDocuments fuel
      pure (some (read.getD .nothing))
    | .eof =>
      readDocuments fuel
      push t
      pure read
    | t =>
      push t
      let first ← readPipeline fuel .command
      let s ← readChain fuel first
      let t ← readToken fuel .none
      let s := if t.isOperator "&" then .background s else s
      let s :=
        match read with
        | some r => .sequence r s
        | none => s
      if t.isNewline then
        push t
        readLine fuel (some s)
      else
        match t with
        | .eof =>
          readDocuments fuel
          push t
          pure (some s)
        | t =>
          if t.isOperator ";" || t.isOperator "&" then readLine fuel (some s)
          else unexpected t
termination_by fuel

end

end Reader

namespace Source

def fuel (s : Source) : Nat :=
  40 * s.aliases.foldl (fun n a => n + a.2.length) s.rest.length + 400

/--
Reads the next line of a script with everything that belongs to it: its statement, or nothing at the
end, and what is left.
-/
def next (s : Source) : Except ScriptFault (Option Statement × Source) :=
  (Reader.readLine s.fuel none).run s

end Source
end Shell
end FeatureRunner
