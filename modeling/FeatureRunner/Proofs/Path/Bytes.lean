import FeatureRunner.Path.Bytes
import FeatureRunner.Proofs.Path.Names
import FeatureRunner.Proofs.Text.Utf8

/-!
This module contains what the steps of a path of bytes have to do with the text that it is shown as.
Its names are those on that text (`names_text`), and names that are ASCII stand on the path where
they stand among the texts of its steps (`infix_steps_iff`).
-/

namespace FeatureRunner
namespace BytePath

open FeatureRunner.Text
open FeatureRunner.Path (Component pieceName? isIdle step?)

variable {p : BytePath} {piece : List UInt8}

def nameStep (name : String) : List UInt8 :=
  encode name.toList

theorem stepText_nameStep (name : String) : stepText (nameStep name) = name := by
  rw [stepText, nameStep, decode_encode, String.ofList_toList]

theorem text_ofPath (p : Path) : (ofPath p).text = p.text := by
  rw [text, ofPath, decode_encode, String.ofList_toList]

theorem segments_text (p : BytePath)
    : segments '/' p.text.toList = (segments slash p.bytes).map decode := by
  rw [text, String.toList_ofList]
  exact segments_decode (b := slash) (by decide) p.bytes

theorem isIdle_decode : isIdle (decode piece) = (piece == [] || piece == [dot]) := by
  have hempty : decode piece = [] ↔ piece = [] := decode_eq_iff_of_ascii (by simp)
  have hdot : decode piece = ['.'] ↔ piece = [dot] := decode_eq_iff_of_ascii (by simp)
  rw [isIdle, Bool.eq_iff_iff]
  simp only [Bool.or_eq_true, beq_iff_eq, hempty, hdot]

theorem decode_eq_parent_iff : decode piece = ['.', '.'] ↔ piece = parentStep :=
  decode_eq_iff_of_ascii (by simp)

def component (step : List UInt8) : Component :=
  if step = parentStep then .parent else .name (stepText step)

theorem components_text (p : BytePath)
    : (Path.mk p.text).components
        = (Path.mk p.text).anchor.components ++ p.steps.map component := by
  rw [Path.components_eq_segments, segments_text, steps, List.filterMap_map,
    ← List.filterMap_eq_map, List.filterMap_filter]
  congr 2
  funext piece
  simp only [Function.comp_apply, step?, component, isIdle_decode, decode_eq_parent_iff]
  cases piece == [] || piece == [dot] with
  | true => rfl
  | false => by_cases h : piece = parentStep <;> simp [h, stepText]

theorem names_text (p : BytePath) : (Path.mk p.text).names = p.names := by
  rw [Path.names, components_text, List.filterMap_append, Path.filterMap_name?_anchor,
    List.nil_append, List.filterMap_map, names, ← List.filterMap_eq_map, List.filterMap_filter]
  congr 1
  funext step
  by_cases h : step = parentStep <;> simp [h, component, Component.name?]

theorem names_ofPath (p : Path) : (ofPath p).names = p.names := by
  rw [← names_text, text_ofPath]

/-! ### Paths without parent steps -/

theorem names_eq_map (h : parentStep ∉ p.steps) : p.names = p.steps.map stepText := by
  rw [names, List.filter_eq_self.2]
  intro step hstep
  rw [bne_iff_ne]
  rintro rfl
  exact h hstep

theorem map_stepText_nameStep (names : List String)
    : (names.map nameStep).map stepText = names := by
  simp [Function.comp_def, stepText_nameStep]

theorem map_nameStep_stepText {steps : List (List UInt8)} (h : ∀ step ∈ steps, IsUtf8 step)
    : (steps.map stepText).map nameStep = steps := by
  rw [List.map_map]
  conv => rhs; rw [← List.map_id steps]
  refine List.map_congr_left fun step hstep => ?_
  rw [Function.comp_apply, nameStep, stepText, String.toList_ofList, encode_decode (h step hstep)]
  rfl

theorem infix_steps_iff (h : parentStep ∉ p.steps) {root : List String}
    (hroot : ∀ name ∈ root, ∀ c ∈ name.toList, c.toNat < 0x80)
    : root.map nameStep <:+: p.steps ↔ root <:+: p.names := by
  rw [names_eq_map h]
  constructor
  . intro hstands
    have hnames := hstands.map stepText
    rwa [map_stepText_nameStep] at hnames
  . intro hstands
    obtain ⟨steps, hsteps, rfl⟩ := List.infix_map_iff.1 hstands
    rw [map_nameStep_stepText]
    . exact hsteps
    . intro step hstep
      have hascii := hroot (stepText step) (List.mem_map_of_mem hstep)
      rw [stepText, String.toList_ofList] at hascii
      exact isUtf8_of_ascii hascii

theorem steps_eq_of_names_eq {q : BytePath} (hp : parentStep ∉ p.steps) (hq : parentStep ∉ q.steps)
    (hpText : ∀ step ∈ p.steps, IsUtf8 step) (hqText : ∀ step ∈ q.steps, IsUtf8 step)
    (h : p.names = q.names)
    : p.steps = q.steps := by
  rw [names_eq_map hp, names_eq_map hq] at h
  rw [← map_nameStep_stepText hpText, h, map_nameStep_stepText hqText]

end BytePath
end FeatureRunner
