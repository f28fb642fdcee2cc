import FeatureRunner.Shell.Arithmetic
import FeatureRunner.Shell.Pattern
import FeatureRunner.Shell.Variables

/-!
This module contains the expansion of words. A word becomes a list of items, that is bytes with
marks that tell whether they were quoted and where the word may be cut apart. The items are cut into
fields, and fields with patterns become the names of files. It serves the outer layer, which starts
real commands; no result is about it.
-/

namespace FeatureRunner
namespace Shell

inductive Item where
  /-- A byte. One with a region other than zero comes from an expansion and may be a place to cut
  at. -/
  | char (c : Char) (quoted : Bool) (region : Nat)
  | mark
  /-- The end of an argument. A strict one is kept even behind nothing. -/
  | cut (region : Nat) (strict : Bool)

structure Expansion where
  items : Array Item := #[]
  regions : Nat := 0
  endsField : Bool := false

namespace Expansion

def push (e : Expansion) (i : Item) : Expansion :=
  { e with items := e.items.push i }

def addChars (e : Expansion) (quoted : Bool) (cs : List Char) (region : Nat := 0) : Expansion :=
  { e with items := cs.foldl (fun items c => items.push (.char c quoted region)) e.items }

/-- Adds the outcome of an expansion, which may be cut apart if it is neither quoted nor in a place
that makes only one field. -/
def addValue (e : Expansion) (quoted splits : Bool) (cs : List Char) : Expansion :=
  if quoted then e.addChars true cs
  else if splits then
    { e.addChars false cs (e.regions + 1) with regions := e.regions + 1, endsField := false }
  else e.addChars false cs

def addArguments (e : Expansion) (quoted : Bool) (arguments : List String) : Expansion :=
  match arguments with
  | [] => if quoted then e else { e with regions := e.regions + 1, endsField := false }
  | a :: rest =>
    let region := e.regions + 1
    let add (e : Expansion) (a : String) := e.addChars quoted a.toList (if quoted then 0 else region)
    let e := rest.foldl (fun e a => add (e.push (.cut region quoted)) a) (add e a)
    { e with regions := region, endsField := quoted }

def text (e : Expansion) : List Char :=
  e.items.toList.filterMap fun
    | .char c _ _ => some c
    | .mark | .cut _ _ => none

def glyphs (e : Expansion) : List Glyph :=
  e.items.toList.filterMap fun
    | .char c quoted _ => some (c, quoted)
    | .mark | .cut _ _ => none

def isBlankSeparator (c : Char) : Bool :=
  c == ' ' || c == '\t' || c == '\n'

def behindCut (ifs : List Char) (region : Nat) (blank : Bool) : List Item → List Item
  | .char c false r :: rest =>
    if r != region || r = 0 || !ifs.contains c then .char c false r :: rest
    else if isBlankSeparator c then behindCut ifs region blank rest
    else if blank then behindCut ifs region false rest
    else .char c false r :: rest
  | items => items

theorem length_behindCut (ifs : List Char) (region : Nat) (blank : Bool) (items : List Item)
    : (behindCut ifs region blank items).length ≤ items.length := by
  fun_induction behindCut ifs region blank items <;> simp <;> omega

def cutItems (ifs : List Char) (endsField : Bool) (field : List Item) (items : List Item)
    : List (List Item) :=
  match items with
  | [] => if field.isEmpty && !endsField then [] else [field.reverse]
  | .cut region strict :: rest =>
    if field.isEmpty && !strict then cutItems ifs endsField [] rest
    else
      have := length_behindCut ifs region true rest
      field.reverse ::
        cutItems ifs endsField [] (if strict then rest else behindCut ifs region true rest)
  | .char c false region :: rest =>
    if region = 0 || !ifs.contains c then
      cutItems ifs endsField (.char c false region :: field) rest
    else
      if field.isEmpty && isBlankSeparator c then cutItems ifs endsField [] rest
      else
        have := length_behindCut ifs region (isBlankSeparator c) rest
        field.reverse ::
          cutItems ifs endsField [] (behindCut ifs region (isBlankSeparator c) rest)
  | i :: rest => cutItems ifs endsField (i :: field) rest
termination_by items.length
decreasing_by all_goals (try simp) <;> (try split) <;> omega

def fields (e : Expansion) (ifs : List Char) : List (List Glyph) :=
  (cutItems ifs e.endsField [] e.items.toList).map fun items =>
    items.filterMap fun
      | .char c quoted _ => some (c, quoted)
      | .mark | .cut _ _ => none

end Expansion

/-! ### Names of files -/

def glyphText (gs : List Glyph) : String :=
  String.ofList (gs.map (·.1))

def glyphPieces : List Glyph → List (List Glyph)
  | [] => [[]]
  | (c, quoted) :: gs =>
    if c = '/' then [] :: glyphPieces gs
    else
      match glyphPieces gs with
      | [] => [[(c, quoted)]]
      | p :: ps => ((c, quoted) :: p) :: ps

def pathsThatFit (s : State) (path : String) : List (List Glyph) → List String
  | [] => []
  | piece :: rest =>
    let goOn (name : String) : List String :=
      match rest with
      | [] => if (s.entry (path ++ name)).toOption.isSome then [path ++ name] else []
      | _ => pathsThatFit s (path ++ name ++ "/") rest
    if isPattern piece then
      let pattern := patternOf (if s.isExtended then ['!', '^'] else ['!']) piece
      let entries : List String :=
        match s.node (if path.isEmpty then "." else path) with
        | .ok node =>
          if node.isDirectory then "." :: ".." :: node.entries.map fun e => toBytes e.1 else []
        | .error _ => []
      let entries := if s.isExtended then entries.drop 2 else entries
      (entries.filter fun n => fitsName pattern n.toList).flatMap goOn
    else goOn (glyphText piece)

def namesOf (s : State) (field : List Glyph) : List String :=
  if s.option 'f' || !isPattern field then [glyphText field]
  else
    match pathsThatFit s "" (glyphPieces field) with
    | [] => if s.option 'N' then [] else [glyphText field]
    | paths => paths.mergeSort fun a b => decide (a ≤ b)

/-! ### Expansions -/

structure Place where
  quoted : Bool := false
  splits : Bool := true
  /-- Is the word the operand of an expansion, so that it is cut apart itself? -/
  isOperand : Bool := false
  isValue : Bool := false

/-- What an expansion asks the shell for: to carry out a statement and to tell what it prints, with
or without the line feeds at the end. -/
abbrev Substitute := (trims : Bool) → Statement → Run String

def homeOf? (s : State) (name : String) : Option String :=
  if name.isEmpty then (s.getVariable "HOME").value
  else if name = "root" then some "/root"
  else none

def expandTilde (s : State) (place : Place) (isStart : Bool) (cs : List Char) : List Glyph :=
  go isStart cs
where
  go (isStart : Bool) : List Char → List Glyph
    | [] => []
    | '~' :: cs =>
      if !isStart then ('~', false) :: go false cs
      else
        let name := cs.takeWhile fun c => c != '/' && !(place.isValue && c == ':')
        match homeOf? s (String.ofList name) with
        | some home => (home.toList.map fun c => (c, true)) ++ goBehind name.length cs
        | none => ('~', false) :: go false cs
    | c :: cs => (c, false) :: go (place.isValue && c == ':') cs
  goBehind : Nat → List Char → List Glyph
    | 0, cs => go false cs
    | n + 1, _ :: cs => goBehind n cs
    | _ + 1, [] => []

/-- What a parameter stands for: a value or none, or several of them. -/
inductive Meaning where
  | one (value : Option String)
  | many (joins : Bool) (values : List String)

def Meaning.isEmpty : Meaning → Bool
  | one value => value.getD "" == ""
  | many _ values => values.all (· == "") && values.length ≤ 1

def Meaning.isSet : Meaning → Bool
  | one value => value.isSome
  | many _ values => !values.isEmpty

def meaningOf (s : State) (name : String) (index : Option String) (place : Nat) : Meaning :=
  match index with
  | none =>
    if name = "@" then .many false s.arguments
    else if name = "*" then .many true s.arguments
    else .one (s.lookup? name)
  | some "@" => .many false ((s.elements name).map (·.2))
  | some "*" => .many true ((s.elements name).map (·.2))
  | some _ => .one ((s.elements name).lookup place)

def Meaning.text (s : State) : Meaning → Option String
  | one value => value
  | many _ [] => none
  | many _ values => some (String.intercalate (String.ofList s.joint) values)

def Meaning.map (f : List Char → List Char) : Meaning → Meaning
  | one value => .one (value.map fun v => String.ofList (f v.toList))
  | many joins values => .many joins (values.map fun v => String.ofList (f v.toList))

def Expansion.addMeaning (e : Expansion) (s : State) (place : Place) (m : Meaning) : Expansion :=
  match m with
  | .one value => e.addValue place.quoted place.splits (value.getD "").toList
  | .many joins values =>
    if (place.quoted && joins) || !place.splits then
      e.addValue place.quoted false ((m.text s).getD "").toList
    else e.addArguments place.quoted values

/-- The number that a variable stands for in a formula. In the extended dialect its value is a
formula itself. -/
def formulaLookup (fuel : Nat) (s : State) (name : String) : Except String Int :=
  match fuel with
  | 0 => .error (name ++ ": expression recursion level exceeded")
  | fuel + 1 =>
    let value :=
      match State.splitIndex? name with
      | some (array, i) => (s.elements array).lookup (s.elementIndex array i)
      | none => s.lookup? name
    match value with
    | none => if s.option 'u' then .error (name ++ ": parameter not set") else .ok 0
    | some text =>
      match valueNumber? text with
      | some n => .ok n
      | none =>
        if s.isExtended then
          (formulaValue ⟨formulaLookup fuel s, true, text⟩).map (·.1)
        else .error ("Illegal number: " ++ text)

def computeFormula (text : String) : Run Int := do
  let s ← get
  match formulaValue ⟨formulaLookup 20 s, s.isExtended, text⟩ with
  | .ok (n, assigned) =>
    assigned.forM fun (name, n) => assign name (Numeral.decimalInt n)
    pure n
  | .error complaint => failValue complaint

def elementPlace (name index : String) : Run Nat := do
  if ((← get).getVariable name).isKeyed then pure (State.keyPlace index)
  else
    let i ← computeFormula index
    pure ((← get).elementIndex name i)

def slice (start : Int) (length : Option Int) (xs : List α) : List α :=
  let begin := (if start < 0 then (xs.length : Int) + start else start).toNat
  let rest := if start < 0 && (xs.length : Int) + start < 0 then [] else xs.drop begin
  match length with
  | none => rest
  | some n => if n < 0 then rest.take ((rest.length : Int) + n).toNat else rest.take n.toNat

def replaceFits (everywhere : Bool) (pattern : List PatternStep) (value : List Char) (fuel : Nat)
    (cs : List Char) : List Char :=
  match fuel, cs with
  | 0, _ | _, [] => cs
  | fuel + 1, c :: rest =>
    let lengths := (List.range cs.length).reverse.map (· + 1)
    match lengths.find? fun n => fitsText pattern (cs.take n) with
    | some n =>
      if everywhere then value ++ replaceFits everywhere pattern value fuel (cs.drop n)
      else value ++ cs.drop n
    | none => c :: replaceFits everywhere pattern value fuel rest

def mapFirst (f : Char → Char) : List Char → List Char
  | [] => []
  | c :: cs => f c :: cs

mutual

def expandParts (fuel : Nat) (run : Substitute) (place : Place) (isStart : Bool)
    (parts : List Part) (e : Expansion) : Run Expansion :=
  match fuel, parts with
  | 0, _ | _, [] => pure e
  | fuel + 1, p :: rest => do
    let isColon : Bool :=
      match p with
      | .chars false cs => place.isValue && cs.getLast? == some ':'
      | _ => false
    let e ← expandPart fuel run place isStart p e
    expandParts fuel run place isColon rest e
termination_by fuel

def expandPart (fuel : Nat) (run : Substitute) (place : Place) (isStart : Bool) (p : Part)
    (e : Expansion) : Run Expansion :=
  match fuel with
  | 0 => pure e
  | fuel + 1 => do
    match p with
    | .chars true cs => pure ((e.addChars true cs).push .mark)
    | .chars false cs =>
      if place.quoted then pure (e.addChars true cs)
      else
        let glyphs := expandTilde (← get) place isStart cs
        let region := if place.isOperand && place.splits then e.regions + 1 else 0
        let e := { e with regions := max e.regions region }
        let e := if region = 0 then e else { e with endsField := false }
        pure (glyphs.foldl (fun e (c, quoted) => e.push (.char c quoted region)) e)
    | .quoted parts =>
      let s ← get
      let isNothing : Bool :=
        match parts with
        | [.parameter "@" none .value _] => s.arguments.isEmpty
        | [.parameter name (some [.chars true ['@']]) .value _] => (s.elements name).isEmpty
        | _ => false
      if isNothing then pure e
      else expandParts fuel run { place with quoted := true } false parts (e.push .mark)
    | .parameter name index use words => expandParameter fuel run place name index use words e
    | .output s =>
      let text ← run true s
      pure (e.addValue place.quoted place.splits text.toList)
    | .arithmetic parts =>
      let inside ← expandParts fuel run { quoted := true, splits := false } false parts {}
      let n ← computeFormula (String.ofList inside.text)
      pure (e.addValue place.quoted place.splits (Numeral.decimalInt n).toList)
    | .outputFile s =>
      let text ← run false s
      let (d, s) := (← get).addSource text.toList
      set s
      pure (e.addChars true ("/dev/fd/" ++ Numeral.decimal d).toList)
    | .choice alternatives =>
      expandParts fuel run place isStart (alternatives.head?.getD []) e
termination_by fuel

def expandText (fuel : Nat) (run : Substitute) (w : Word) (quoted : Bool := false)
    : Run String :=
  match fuel with
  | 0 => pure ""
  | fuel + 1 => do
    let e ← expandParts fuel run { quoted, splits := false } (!quoted) w {}
    pure (String.ofList e.text)
termination_by fuel

def expandNumber (fuel : Nat) (run : Substitute) (w : Word) : Run Int :=
  match fuel with
  | 0 => pure 0
  | fuel + 1 => do computeFormula (← expandText fuel run w true)
termination_by fuel

def expandPattern (fuel : Nat) (run : Substitute) (w : Word) : Run (List PatternStep) :=
  match fuel with
  | 0 => pure []
  | fuel + 1 => do
    let e ← expandParts fuel run { splits := false } true w {}
    pure (patternOf (if (← get).isExtended then ['!', '^'] else ['!']) e.glyphs)
termination_by fuel

def expandParameter (fuel : Nat) (run : Substitute) (place : Place) (name : String)
    (index : Option Word) (use : Use) (words : List Word) (e : Expansion) : Run Expansion :=
  match fuel with
  | 0 => pure e
  | fuel + 1 => do
    let index ←
      match index with
      | some w => some <$> expandText fuel run w true
      | none => pure none
    let isList := index == some "@" || index == some "*"
    let (name, index) ←
      match name.toList with
      | '!' :: c :: cs => do
        let s ← get
        let first := String.ofList (c :: cs)
        let place ← (index.elim (pure 0) (elementPlace first))
        let target :=
          (if index.isSome then (s.elements first).lookup place else s.lookup? first).getD ""
        pure (match State.splitElement? target with
          | some (name, index) => (name, some index)
          | none => (target, none))
      | _ => pure (name, index)
    let place' ←
      match index with
      | some i => if isList then pure 0 else elementPlace name i
      | none => pure 0
    let s ← get
    let m := meaningOf s name index place'
    let word := words.head?.getD []
    let operand := { place with isOperand := true }
    let missing (orEmpty : Bool) : Bool := !m.isSet || (orEmpty && m.isEmpty)
    let needSet : Run Unit := do
      let isArguments := (index.isNone && (name = "@" || name = "*")) || isList
      if !m.isSet && s.option 'u' && !isArguments then
        failMissing (name ++ if s.isExtended then ": unbound variable" else ": parameter not set")
    let plain (m : Meaning) : Run Expansion := do
      needSet
      pure (e.addMeaning s place m)
    match use with
    | .bad => failValue (if s.isExtended then name ++ ": bad substitution" else "Bad substitution")
    | .value => plain m
    | .length =>
      needSet
      let length :=
        match m with
        | .many _ values => if isList || s.isExtended then values.length else
            (((m.text s).getD "").length)
        | .one value => (value.getD "").length
      pure (e.addValue place.quoted place.splits (Numeral.decimalChars length))
    | .orElse orEmpty =>
      if missing orEmpty then expandParts fuel run operand true word e else plain m
    | .instead orEmpty =>
      if missing orEmpty then pure e else expandParts fuel run operand true word e
    | .orAssign orEmpty =>
      if missing orEmpty then
        let value ← expandText fuel run word
        assignChecked name value
        pure (e.addMeaning (← get) place (.one (some value)))
      else plain m
    | .orFail orEmpty =>
      if missing orEmpty then
        let text ← expandText fuel run word
        failMissing (name ++ ": " ++
          if !word.isEmpty then text
          else if !orEmpty then "parameter not set"
          else if s.isExtended then "parameter null or not set"
          else "parameter not set or null")
      else plain m
    | .dropStart longest =>
      needSet
      let pattern ← expandPattern fuel run word
      plain ((collapse s m).map fun cs => (dropFront? longest pattern cs).getD cs)
    | .dropEnd longest =>
      needSet
      let pattern ← expandPattern fuel run word
      plain ((collapse s m).map fun cs => (dropBack? longest pattern cs).getD cs)
    | .replace everywhere atStart atEnd =>
      let pattern ← expandPattern fuel run word
      let value := (← expandText fuel run ((words[1]?).getD [])).toList
      plain (m.map fun cs =>
        if pattern.isEmpty then cs
        else if atStart then
          match dropFront? true pattern cs with
          | some rest => value ++ rest
          | none => cs
        else if atEnd then
          match dropBack? true pattern cs with
          | some rest => rest ++ value
          | none => cs
        else replaceFits everywhere pattern value (cs.length + 1) cs)
    | .upper everywhere =>
      plain (m.map fun cs => if everywhere then cs.map Char.toUpper else mapFirst Char.toUpper cs)
    | .lower everywhere =>
      plain (m.map fun cs => if everywhere then cs.map Char.toLower else mapFirst Char.toLower cs)
    | .slice =>
      let start ← expandNumber fuel run word
      let length ←
        match words[1]? with
        | some w => some <$> expandNumber fuel run w
        | none => pure none
      match m with
      | .one value =>
        plain (.one (value.map fun v => String.ofList (slice start length v.toList)))
      | .many joins values =>
        let values := if isList then values else s.name :: values
        plain (.many joins (slice start length values))
    | .indirect =>
      if isList then
        pure (e.addMeaning s place (.many (index == some "*")
          ((s.elements name).map fun x => s.indexText name x.1)))
      else plain m
termination_by fuel
where
  /-- A list as one text, where the dialect cuts no list element by element. -/
  collapse (s : State) (m : Meaning) : Meaning :=
    if s.isExtended then m
    else
      match m with
      | .one value => .one value
      | .many _ _ => .one (m.text s)

end

def wordFuel : Nat := 100000

def expandWord (run : Substitute) (w : Word) : Run (List String) := do
  let e ← expandParts wordFuel run {} true w {}
  let s ← get
  pure ((e.fields s.separators).flatMap (namesOf s))

def expandWhole (run : Substitute) (w : Word) : Run String := do
  let e ← expandParts wordFuel run { splits := false } true w {}
  pure (String.ofList e.text)

def expandValue (run : Substitute) (w : Word) : Run String := do
  let e ← expandParts wordFuel run { splits := false, isValue := true } true w {}
  pure (String.ofList e.text)

end Shell
end FeatureRunner
