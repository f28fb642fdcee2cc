import FeatureRunner.Path.Basic
import FeatureRunner.Text.Numeral

/-!
This module contains locations, which are paths with an optional line behind a colon. On the command
line lines are counted from one, in a location from zero.
-/

namespace FeatureRunner

/-- A path and possibly a line of the file, counted from zero. -/
structure Location where
  path : Path
  line : Option UInt32
  deriving DecidableEq

namespace Location

def splitLastColon? : List Char → Option (List Char × List Char)
  | [] => none
  | c :: cs =>
    match splitLastColon? cs with
    | some (front, back) => some (c :: front, back)
    | none => if c = ':' then some ([], cs) else none

def lineNumber? (cs : List Char) : Option UInt32 :=
  let digits :=
    match cs with
    | '+' :: ds => ds
    | ds => ds
  match Numeral.value? digits with
  | some n => if n < UInt32.size then some (UInt32.ofNat n) else none
  | none => none

def fromZero (n : UInt32) : UInt32 :=
  if n = 0 then 0 else n - 1

def ofText (text : String) : Location :=
  match splitLastColon? text.toList with
  | none => ⟨⟨text⟩, none⟩
  | some (front, back) =>
    match lineNumber? back with
    | some n => ⟨⟨String.ofList front⟩, some (fromZero n)⟩
    | none => ⟨⟨text⟩, none⟩

end Location
end FeatureRunner
