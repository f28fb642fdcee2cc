import FeatureRunner.Text.Blank

/-!
This module contains questions that are answered with lines of an input. Every question takes one
line. A blank line stands for the default; a line that is no UTF-8 and the end of the input cancel.
-/

namespace FeatureRunner
namespace Prompt

open FeatureRunner.Text

def takeLine (input : List UInt8) : List UInt8 × List UInt8 :=
  match input.dropWhile (· != 10) with
  | [] => (input, [])
  | feed :: rest => (input.takeWhile (· != 10) ++ [feed], rest)

def decode? (bytes : List UInt8) : Option String :=
  String.fromUTF8? ⟨bytes.toArray⟩

def answerOf (line : List UInt8) (default : String) : Option String :=
  if line.isEmpty then
    none
  else
    (decode? line).map fun text =>
      let text := trim text
      if text.isEmpty then default else text

def ask (input : List UInt8) (default : String) : Option String × List UInt8 :=
  let (line, rest) := takeLine input
  (answerOf line default, rest)

def mark : String := "❓ "

def question (title default : String) : String :=
  mark ++ title ++ " runner class [" ++ default ++ "]: "

end Prompt
end FeatureRunner
