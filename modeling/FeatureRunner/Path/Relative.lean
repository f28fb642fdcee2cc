import FeatureRunner.Path.Ancestors

/-!
This module contains the part of a path below a base directory, `Path.below?`, and the order in
which paths are listed, `Path.le`: component by component, names by code point.
-/

namespace FeatureRunner
namespace Path

open FeatureRunner.Text

def dropSteps : Nat → List (List Char) → List (List Char)
  | 0, pieces => pieces
  | _ + 1, [] => []
  | n + 1, piece :: pieces =>
    if isIdle piece then dropSteps (n + 1) pieces else dropSteps n pieces

/-- The text of `p` behind its first `steps` steps, without idle pieces at its ends. -/
def textBehind (p : Path) (steps : Nat) : String :=
  if steps = 0 then
    (ofParts p.anchor (dropIdleRight p.body)).text
  else
    let pieces := dropSteps (steps - p.anchor.components.length) p.body
    String.ofList (joinWith '/' (dropIdleRight (pieces.dropWhile isIdle)))

/-- The path from `base` to `p`, if the steps of `base` are the first steps of `p`. -/
def below? (base p : Path) : Option Path :=
  if base.components.isPrefixOf p.components then
    some ⟨p.textBehind base.components.length⟩
  else
    none

/-- Anchors come before parents and those before names; names go by code point. -/
def Component.le : Component → Component → Bool
  | .root, _ => true
  | .current, .root => false
  | .current, _ => true
  | .parent, .root | .parent, .current => false
  | .parent, _ => true
  | .name a, .name b => a ≤ b
  | .name _, _ => false

def leSteps : List Component → List Component → Bool
  | [], _ => true
  | _ :: _, [] => false
  | a :: as, b :: bs => if a = b then leSteps as bs else a.le b

def le (p q : Path) : Bool :=
  leSteps p.components q.components

end Path
end FeatureRunner
