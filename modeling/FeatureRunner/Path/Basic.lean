import FeatureRunner.Text.Segments

/-!
This module contains `Path`, the text of a file system path, and its view `Path.components`. Two
paths with the same components name the same place however their slashes are written; `Path.Same`
is that relation, while `=` compares the texts.
-/

namespace FeatureRunner

open FeatureRunner.Text

/-- A slash separated path, kept as it is written. -/
structure Path where
  text : String
  deriving DecidableEq

namespace Path

/-- What a path begins with besides the names on it. -/
inductive Anchor where
  /-- Nothing: the path is read from the current directory. -/
  | none
  /-- A leading slash. -/
  | root
  /-- A leading dot that stands alone between slashes. -/
  | current
  deriving DecidableEq

inductive Component where
  | root
  | current
  | parent
  | name (name : String)
  deriving DecidableEq

def Anchor.chars : Anchor → List Char
  | .none => []
  | .root => ['/']
  | .current => ['.']

def Anchor.components : Anchor → List Component
  | .none => []
  | .root => [.root]
  | .current => [.current]

def anchor (p : Path) : Anchor :=
  match p.text.toList with
  | '/' :: _ => .root
  | ['.'] => .current
  | '.' :: '/' :: _ => .current
  | _ => .none

def body (p : Path) : List (List Char) :=
  segments '/' (p.text.toList.drop p.anchor.chars.length)

def ofParts (anchor : Anchor) (body : List (List Char)) : Path :=
  ⟨String.ofList (anchor.chars ++ joinWith '/' body)⟩

def isIdle (piece : List Char) : Bool :=
  piece == [] || piece == ['.']

def step? (piece : List Char) : Option Component :=
  if isIdle piece then
    none
  else if piece = ['.', '.'] then
    some .parent
  else
    some (.name (String.ofList piece))

/-- The steps of a path in order, without empty pieces and without dots behind the front. -/
def components (p : Path) : List Component :=
  p.anchor.components ++ p.body.filterMap step?

def Same (p q : Path) : Prop :=
  p.components = q.components

instance (p q : Path) : Decidable (p.Same q) :=
  inferInstanceAs (Decidable (p.components = q.components))

def Component.name? : Component → Option String
  | .name n => some n
  | _ => none

def names (p : Path) : List String :=
  p.components.filterMap Component.name?

def fileName? (p : Path) : Option String :=
  p.components.getLast?.bind Component.name?

def isAbsolute (p : Path) : Bool :=
  p.text.toList.head? == some '/'

def join (p q : Path) : Path :=
  if q.isAbsolute then
    q
  else if p.text.isEmpty || p.text.toList.getLast? == some '/' then
    ⟨p.text ++ q.text⟩
  else
    ⟨p.text ++ "/" ++ q.text⟩

def ofNames (names : List String) : Path :=
  ofParts .root (names.map String.toList)

def isEmpty (p : Path) : Bool :=
  p.text.isEmpty

theorem chars_anchor_append (p : Path)
    : p.anchor.chars ++ p.text.toList.drop p.anchor.chars.length = p.text.toList := by
  unfold anchor
  split <;> simp_all [Anchor.chars]

theorem ofParts_anchor_body (p : Path) : ofParts p.anchor p.body = p := by
  rw [ofParts, body, joinWith_segments, chars_anchor_append, String.ofList_toList]

theorem Same.refl (p : Path) : p.Same p := rfl

theorem Same.symm {p q : Path} (h : p.Same q) : q.Same p := Eq.symm h

theorem Same.trans {p q r : Path} (h : p.Same q) (h' : q.Same r) : p.Same r := Eq.trans h h'

end Path
end FeatureRunner
