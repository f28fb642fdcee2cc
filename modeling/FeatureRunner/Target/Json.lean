import FeatureRunner.Json.Decode
import FeatureRunner.Target.Request

/-!
This module contains the JSON form of paths, targets and requests. A target without a section line
is written without that key; every other key has to be there.
-/

namespace FeatureRunner

open FeatureRunner.Json

namespace Path

def toJson (p : Path) : Json :=
  .string p.text

def decode : Decoder Path := fun d =>
  (Decode.string d).map Path.mk

end Path

namespace TargetKind

def names : List (String × TargetKind) :=
  [("file", .file), ("directory", .directory), ("test", .test)]

def name : TargetKind → String
  | file => "file"
  | directory => "directory"
  | test => "test"

end TargetKind

namespace Mode

def names : List (String × Mode) :=
  [("run", .run), ("debug", .debug)]

def name : Mode → String
  | run => "run"
  | debug => "debug"

end Mode

namespace TestTarget

def sectionLineMembers (line : Option UInt32) : List (String × Json) :=
  (line.map fun line => ("section_line", Json.ofNat line.toNat)).toList

def toJson (t : TestTarget) : Json :=
  .object
    ([("karate_options", .string t.options), ("karate_jar_options", .string t.jarOptions),
      ("target_path", t.path.toJson), ("target_kind", .string t.kind.name)] ++
     sectionLineMembers t.sectionLine ++
     [("codelens_run_title", .string t.runTitle), ("codelens_debug_title", .string t.debugTitle)])

/-- A target of which some parts are not known yet. -/
structure Partial where
  options : Option String := none
  jarOptions : Option String := none
  path : Option Path := none
  kind : Option TargetKind := none
  sectionLine : Option UInt32 := none
  runTitle : Option String := none
  debugTitle : Option String := none

def Partial.members : List (Decode.Member Partial) :=
  [Decode.member "karate_options" Decode.string fun a t => { t with options := some a },
   Decode.member "karate_jar_options" Decode.string fun a t => { t with jarOptions := some a },
   Decode.member "target_path" Path.decode fun a t => { t with path := some a },
   Decode.member "target_kind" (Decode.choice TargetKind.names)
     fun a t => { t with kind := some a },
   Decode.member "section_line" (Decode.option Decode.uint32)
     fun a t => { t with sectionLine := a },
   Decode.member "codelens_run_title" Decode.string fun a t => { t with runTitle := some a },
   Decode.member "codelens_debug_title" Decode.string fun a t => { t with debugTitle := some a }]

def Partial.complete (t : Partial) : Except Fault TestTarget := do
  pure
    { options := ← Decode.required t.options
      jarOptions := ← Decode.required t.jarOptions
      path := ← Decode.required t.path
      kind := ← Decode.required t.kind
      sectionLine := t.sectionLine
      runTitle := ← Decode.required t.runTitle
      debugTitle := ← Decode.required t.debugTitle }

def decode (origin : Origin) : Decoder TestTarget := fun d =>
  Decode.record origin Partial.members {} d >>= Partial.complete

end TestTarget

namespace Request

def toJson (r : Request) : Json :=
  .object [("ted", r.target.toJson), ("mode", .string r.mode.name)]

/-- A request of which some parts are not known yet. -/
structure Partial where
  target : Option TestTarget := none
  mode : Option Mode := none

def Partial.members (origin : Origin) : List (Decode.Member Partial) :=
  [Decode.member "ted" (TestTarget.decode origin) fun a r => { r with target := some a },
   Decode.member "mode" (Decode.choice Mode.names) fun a r => { r with mode := some a }]

def Partial.complete (r : Partial) : Except Fault Request := do
  pure { target := ← Decode.required r.target, mode := ← Decode.required r.mode }

def decode (origin : Origin) : Decoder Request := fun d =>
  Decode.record origin (Partial.members origin) {} d >>= Partial.complete

end Request
end FeatureRunner
