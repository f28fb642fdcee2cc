import FeatureRunner.Text.Numeral

/-!
This module contains JSON values and how they are written. Members keep the order in which they are
given. `Json.pretty` breaks lines and indents by two spaces, `Json.compact` writes one line.
-/

namespace FeatureRunner

/-- A JSON value. Numbers are integers. -/
inductive Json where
  | null
  | bool (value : Bool)
  | number (value : Int)
  | string (value : String)
  | array (items : List Json)
  | object (members : List (String × Json))
  deriving Inhabited

namespace Json

def hexDigit (n : Nat) : Char :=
  if n < 10 then Numeral.digit n else Char.ofNat ('a'.toNat + (n - 10))

/--
A character inside a string: quote and backslash get a backslash in front, the control characters
with a letter of their own are written by it and the others by their number.
-/
def escape (c : Char) : List Char :=
  if c = '"' then ['\\', '"']
  else if c = '\\' then ['\\', '\\']
  else if c = '\n' then ['\\', 'n']
  else if c = '\r' then ['\\', 'r']
  else if c = '\t' then ['\\', 't']
  else if c = '\x08' then ['\\', 'b']
  else if c = '\x0c' then ['\\', 'f']
  else if c < ' ' then ['\\', 'u', '0', '0', hexDigit (c.toNat / 16), hexDigit (c.toNat % 16)]
  else [c]

def quote (s : String) : List Char :=
  '"' :: (s.toList.flatMap escape ++ ['"'])

/-- What is written between the parts of a value. -/
structure Layout where
  /-- In front of an item or a closing bracket that stands at the given depth. -/
  lineBreak : Nat → List Char
  /-- Between a key and its value. -/
  colon : List Char

def Layout.indented : Layout where
  lineBreak depth := '\n' :: List.replicate (2 * depth) ' '
  colon := [':', ' ']

def Layout.dense : Layout where
  lineBreak _ := []
  colon := [':']

mutual

def write (layout : Layout) (depth : Nat) : Json → List Char
  | .null => ['n', 'u', 'l', 'l']
  | .bool true => ['t', 'r', 'u', 'e']
  | .bool false => ['f', 'a', 'l', 's', 'e']
  | .number i => (Numeral.decimalInt i).toList
  | .string s => quote s
  | .array [] => ['[', ']']
  | .array (j :: js) =>
    '[' :: layout.lineBreak (depth + 1) ++ write layout (depth + 1) j ++
      writeItems layout (depth + 1) js ++ layout.lineBreak depth ++ [']']
  | .object [] => ['{', '}']
  | .object (m :: ms) =>
    '{' :: layout.lineBreak (depth + 1) ++ writeMember layout (depth + 1) m ++
      writeMembers layout (depth + 1) ms ++ layout.lineBreak depth ++ ['}']

def writeItems (layout : Layout) (depth : Nat) : List Json → List Char
  | [] => []
  | j :: js =>
    ',' :: layout.lineBreak depth ++ write layout depth j ++ writeItems layout depth js

def writeMembers (layout : Layout) (depth : Nat) : List (String × Json) → List Char
  | [] => []
  | m :: ms =>
    ',' :: layout.lineBreak depth ++ writeMember layout depth m ++ writeMembers layout depth ms

def writeMember (layout : Layout) (depth : Nat) : String × Json → List Char
  | (key, value) => quote key ++ layout.colon ++ write layout depth value

end

def pretty (j : Json) : String :=
  String.ofList (write .indented 0 j)

def compact (j : Json) : String :=
  String.ofList (write .dense 0 j)

/-- A value that may be missing, as `null`. -/
def ofOption (f : α → Json) : Option α → Json
  | some a => f a
  | none => .null

def ofStrings (ss : List String) : Json :=
  .array (ss.map .string)

def ofNat (n : Nat) : Json :=
  .number n

end Json
end FeatureRunner
