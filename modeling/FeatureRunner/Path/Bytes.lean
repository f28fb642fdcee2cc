import FeatureRunner.Path.Basic
import FeatureRunner.Text.Utf8

/-!
This module contains `BytePath`, a path as a file system has it: its bytes need not be a text. Such
a path is shown with replacement characters, and so are its names.
-/

namespace FeatureRunner

open FeatureRunner.Text

/-- A path that is written with any bytes. -/
structure BytePath where
  bytes : List UInt8
  deriving DecidableEq

namespace BytePath

def ofPath (p : Path) : BytePath :=
  ⟨encode p.text.toList⟩

def text (p : BytePath) : String :=
  String.ofList (decode p.bytes)

def slash : UInt8 := 0x2F

def dot : UInt8 := 0x2E

/-- The steps of a path: what stands between slashes, unless it is nothing or a single dot. -/
def steps (p : BytePath) : List (List UInt8) :=
  (segments slash p.bytes).filter fun step => !(step == [] || step == [dot])

def parentStep : List UInt8 := [dot, dot]

def stepText (step : List UInt8) : String :=
  String.ofList (decode step)

def names (p : BytePath) : List String :=
  (p.steps.filter (· != parentStep)).map stepText

end BytePath
end FeatureRunner
