import FeatureRunner.Feature.Section
import FeatureRunner.Json.Decode

/-!
This module contains the JSON form of sections. Every key has to be there; tags may come in any
order and more than once.
-/

namespace FeatureRunner

open FeatureRunner.Json

namespace SectionKind

def names : List (String × SectionKind) :=
  [("scenario", .scenario), ("scenario_outline", .scenarioOutline), ("feature", .feature)]

def name : SectionKind → String
  | scenario => "scenario"
  | scenarioOutline => "scenario_outline"
  | feature => "feature"

end SectionKind

namespace Section

def toJson (s : Section) : Json :=
  .object
    [("start_line", .ofNat s.startLine.toNat), ("end_line", .ofNat s.endLine.toNat),
     ("tags", .ofStrings s.tags.toList), ("title", .string s.title),
     ("kind", .string s.kind.name)]

/-- A section of which some parts are not known yet. -/
structure Partial where
  startLine : Option UInt32 := none
  endLine : Option UInt32 := none
  tags : Option TagSet := none
  title : Option String := none
  kind : Option SectionKind := none

def Partial.members : List (Decode.Member Partial) :=
  [Decode.member "start_line" Decode.uint32 fun a s => { s with startLine := some a },
   Decode.member "end_line" Decode.uint32 fun a s => { s with endLine := some a },
   Decode.member "tags" (Decode.list Decode.string)
     fun a s => { s with tags := some (TagSet.ofList a) },
   Decode.member "title" Decode.string fun a s => { s with title := some a },
   Decode.member "kind" (Decode.choice SectionKind.names) fun a s => { s with kind := some a }]

def Partial.complete (s : Partial) : Except Fault Section := do
  pure
    { startLine := ← Decode.required s.startLine
      endLine := ← Decode.required s.endLine
      tags := ← Decode.required s.tags
      title := ← Decode.required s.title
      kind := ← Decode.required s.kind }

def decode (origin : Origin) : Decoder Section := fun d =>
  Decode.record origin Partial.members {} d >>= Partial.complete

end Section
end FeatureRunner
