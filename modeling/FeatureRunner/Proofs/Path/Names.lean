import FeatureRunner.Proofs.Path.Above

/-!
This module contains what the names on a path have to do with its text and with its steps. Names
that are written with slashes between them can be read back (`splitNames_joinStrings`). On a path
without parent steps there is nothing between its anchor and its names
(`components_eq_append_iff`).
-/

namespace FeatureRunner

namespace Text

def splitNames (s : String) : List String :=
  if s.isEmpty then [] else (segments '/' s.toList).map String.ofList

end Text

open FeatureRunner.Text

namespace Path

variable {p : Path} {names : List String}

theorem splitNames_joinStrings (h : ∀ name ∈ names, IsStep name)
    : splitNames (joinStrings '/' names) = names := by
  cases names with
  | nil => rfl
  | cons name names =>
    have hname : name.isEmpty = false := by
      have hidle := (h name (by simp)).isIdle_eq
      rw [Bool.eq_false_iff, Ne, String.isEmpty_iff]
      rintro rfl
      simp [isIdle] at hidle
    rw [splitNames, isEmpty_joinStrings_cons hname, joinStrings, String.toList_ofList,
      segments_joinWith (by simp) (slash_not_mem_of_isStep h)]
    simp [Function.comp_def]

theorem joinStrings_splitNames (s : String) : joinStrings '/' (splitNames s) = s := by
  unfold splitNames
  split
  . next hempty =>
    rw [String.isEmpty_iff.1 hempty]
    rfl
  . rw [joinStrings, List.map_map]
    simp [Function.comp_def, joinWith_segments]

theorem joinStrings_inj {names' : List String} (h : ∀ name ∈ names, IsStep name)
    (h' : ∀ name ∈ names', IsStep name) (heq : joinStrings '/' names = joinStrings '/' names')
    : names = names' := by
  rw [← splitNames_joinStrings h, heq, splitNames_joinStrings h']

def pieceName? (piece : List Char) : Option String :=
  (step? piece).bind Component.name?

theorem eq_ofList_of_pieceName? {piece : List Char} {name : String}
    (h : pieceName? piece = some name)
    : name = String.ofList piece := by
  obtain ⟨step, hstep, hname⟩ := Option.bind_eq_some_iff.1 h
  rcases step?_cases hstep with rfl | rfl
  . cases hname
  . exact (Option.some.inj hname).symm

theorem names_eq_filterMap (p : Path) : p.names = p.body.filterMap pieceName? := by
  rw [Path.names, components, List.filterMap_append, filterMap_name?_anchor, List.nil_append,
    List.filterMap_filterMap]
  rfl

theorem map_toList_names_sublist (p : Path) : (p.names.map String.toList).Sublist p.body := by
  rw [names_eq_filterMap]
  generalize p.body = pieces
  induction pieces with
  | nil => exact List.Sublist.slnil
  | cons piece pieces ih =>
    cases hname : pieceName? piece with
    | none =>
      rw [List.filterMap_cons_none hname]
      exact ih.cons piece
    | some name =>
      rw [List.filterMap_cons_some hname, List.map_cons, eq_ofList_of_pieceName? hname,
        String.toList_ofList]
      exact ih.cons_cons piece

theorem length_joinStrings_names_le (p : Path)
    : (joinStrings '/' p.names).length ≤ p.text.length := by
  have hsub := map_toList_names_sublist p
  have hlength := hsub.length_le
  have hflatten := length_flatten_le_of_sublist hsub
  have htext : p.text.length = p.anchor.chars.length + (joinWith '/' p.body).length := by
    conv => lhs; rw [← ofParts_anchor_body p]
    simp [ofParts]
  rw [htext, joinStrings, String.length_ofList, length_joinWith, length_joinWith]
  omega

/-! ### Names in a row -/

theorem Component.name_injective : Function.Injective Component.name :=
  fun _ _ => Component.name.inj

theorem components_eq_append_iff (h : .parent ∉ p.components) {front : List Component}
    : p.components = front ++ names.map .name
        ↔
      ∃ before, p.names = before ++ names
        ∧ front = p.anchor.components ++ before.map .name := by
  constructor
  . intro heq
    rw [components_eq_names h, List.append_eq_append_iff] at heq
    rcases heq with ⟨middle, hfront, hnames⟩ | ⟨rest, hanchor, hnames⟩
    . obtain ⟨before, names', heq, rfl, hback⟩ := List.map_eq_append_iff.1 hnames
      obtain rfl := Component.name_injective.list_map hback
      exact ⟨before, heq, hfront⟩
    . -- no step of the anchor is a name
      obtain rfl : rest = [] := by
        apply List.eq_nil_iff_forall_not_mem.2
        intro step hstep
        have hname : step ∈ names.map Component.name := hnames ▸ List.mem_append_left _ hstep
        have hmem : step ∈ p.anchor.components := hanchor ▸ List.mem_append_right _ hstep
        obtain ⟨name, -, rfl⟩ := List.mem_map.1 hname
        cases hp : p.anchor <;> simp [hp, Anchor.components] at hmem
      rw [List.append_nil] at hanchor
      exact ⟨[], (Component.name_injective.list_map hnames).symm, by simp [hanchor]⟩
  . rintro ⟨before, hnames, rfl⟩
    rw [components_eq_names h, hnames, List.map_append, List.append_assoc]

end Path
end FeatureRunner
