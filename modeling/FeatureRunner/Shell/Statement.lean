/-!
This module contains shell scripts as trees: words, which are made of parts, and the statements that
words are used in. There are two dialects, the plain one and one with arrays and extended
conditions; statements of the latter are in the same trees. It serves the outer layer, which starts
real commands; no result is about it.
-/

namespace FeatureRunner
namespace Shell

inductive RedirectKind where
  | truncate
  /-- Like `truncate`, but an existing file is replaced under all circumstances. -/
  | overwrite
  | append
  | read
  | readWrite
  | duplicate
  | both (append : Bool)
  | document (number : Nat)
  | text
  deriving DecidableEq

/-- A redirection of a descriptor to the file or the descriptor that a word names. -/
structure Redirect (Word : Type) where
  descriptor : Nat
  kind : RedirectKind
  target : Word

/-- What a parameter expansion makes of the value. `orEmpty` tells that an empty value counts as
none. -/
inductive Use where
  | value
  | length
  | orElse (orEmpty : Bool)
  | orAssign (orEmpty : Bool)
  | orFail (orEmpty : Bool)
  | instead (orEmpty : Bool)
  | dropStart (longest : Bool)
  | dropEnd (longest : Bool)
  /-- A part of the value, given by where it begins and how long it is. -/
  | slice
  | replace (everywhere atStart atEnd : Bool)
  | upper (everywhere : Bool)
  | lower (everywhere : Bool)
  | indirect
  | bad
  deriving DecidableEq

structure Assignment (Word : Type) where
  name : String
  index : Option Word
  appends : Bool
  value : Word
  elements : Option (List Word)

structure Clause (Word Body : Type) where
  patterns : List Word
  body : Body
  fallsThrough : Bool
  goesOn : Bool

inductive Condition (Word : Type) where
  | one (question : String) (w : Word)
  | two (v : Word) (question : String) (w : Word)
  | not (c : Condition Word)
  | and (c d : Condition Word)
  | or (c d : Condition Word)

mutual

inductive Part where
  | chars (quoted : Bool) (text : List Char)
  | quoted (parts : List Part)
  | parameter (name : String) (index : Option (List Part)) (use : Use) (words : List (List Part))
  | output (s : Statement)
  | arithmetic (parts : List Part)
  | outputFile (s : Statement)
  | choice (alternatives : List (List Part))

inductive Statement where
  | nothing
  /-- Assignments and a command with its arguments, on a line of the script. -/
  | simple (line : Nat) (assignments : List (Assignment (List Part))) (words : List (List Part))
      (redirects : List (Redirect (List Part)))
  | redirected (line : Nat) (s : Statement) (redirects : List (Redirect (List Part)))
  | pipeline (parts : List Statement)
  | not (s : Statement)
  | and (s t : Statement)
  | or (s t : Statement)
  | sequence (s t : Statement)
  | background (s : Statement)
  /-- A statement whose changes of variables and directory are forgotten. -/
  | subshell (line : Nat) (s : Statement) (redirects : List (Redirect (List Part)))
  | conditional (condition yes no : Statement)
  /-- Repeats `body` as long as the condition ends with success, or with failure. -/
  | loop (onSuccess : Bool) (condition body : Statement)
  /-- Repeats `body` for each of the words, or for each argument of the script. -/
  | each (line : Nat) (name : String) (words : Option (List (List Part))) (body : Statement)
  | select (line : Nat) (w : List Part) (clauses : List (Clause (List Part) Statement))
  | define (line : Nat) (name : String) (body : Statement)
  | test (line : Nat) (c : Condition (List Part))
  | compute (line : Nat) (formula : List Part)
  /-- The loop with a start, a condition and a step that are formulas. -/
  | count (line : Nat) (start condition step : List Part) (body : Statement)

end

abbrev Word := List Part

instance : Inhabited Statement := ⟨.nothing⟩

def plain? : Word → Option String
  | [] => some ""
  | [.chars false cs] => some (String.ofList cs)
  | _ => none

/-- Why a script cannot be read, and the line where that was found. -/
structure ScriptFault where
  line : Nat
  message : String
  deriving DecidableEq

end Shell
end FeatureRunner
