import FeatureRunner.Proofs.Path.Steps

/-!
This module contains what the paths above a path share with it: how it begins, as text, in its steps
and in where it is read from (`Above`). A file that is joined to such a path ends with its name.
-/

namespace FeatureRunner
namespace Path

open FeatureRunner.Text

theorem isAbsolute_iff_anchor {p : Path} : p.isAbsolute = true ↔ p.anchor = .root := by
  unfold isAbsolute anchor
  rw [beq_iff_eq, List.head?_eq_some_iff]
  split <;> simp_all

theorem step?_cases {piece : List Char} {step : Component} (h : step? piece = some step)
    : step = .parent ∨ step = .name (String.ofList piece) := by
  unfold step? at h
  split at h
  . cases h
  . split at h <;> cases h
    . exact .inl rfl
    . exact .inr rfl

theorem isAbsolute_iff_mem {p : Path} : p.isAbsolute = true ↔ .root ∈ p.components := by
  have hbody : .root ∉ p.body.filterMap step? := by
    intro hmem
    obtain ⟨piece, -, hstep⟩ := List.mem_filterMap.1 hmem
    rcases step?_cases hstep with heq | heq <;> cases heq
  rw [isAbsolute_iff_anchor, components, List.mem_append, or_iff_left hbody]
  cases p.anchor <;> simp [Anchor.components]

theorem components_eq_segments (p : Path)
    : p.components = p.anchor.components ++ (segments '/' p.text.toList).filterMap step? := by
  rw [components, body]
  congr 1
  unfold anchor
  split
  . next htext => simp [htext, Anchor.chars, segments, step?, isIdle]
  . next htext => simp [htext, Anchor.chars, segments, step?, isIdle]
  . next htext => simp [htext, Anchor.chars, segments, step?, isIdle]
  . rfl

/-- How a path above another one is written, and what it is read from. -/
structure Above (p q : Path) : Prop where
  text : q.text.toList <+: p.text.toList
  components : q.components <+: p.components
  isAbsolute : q.isAbsolute = p.isAbsolute

theorem Above.refl (p : Path) : Above p p where
  text := List.prefix_refl _
  components := List.prefix_refl _
  isAbsolute := rfl

theorem Above.trans {p q r : Path} (h : Above p q) (h' : Above q r) : Above p r where
  text := h'.text.trans h.text
  components := h'.components.trans h.components
  isAbsolute := h'.isAbsolute.trans h.isAbsolute

theorem Above.utf8ByteSize_le {p q : Path} (h : Above p q)
    : q.text.utf8ByteSize ≤ p.text.utf8ByteSize := by
  obtain ⟨rest, hrest⟩ := h.text
  have htext : p.text = q.text ++ String.ofList rest := by
    rw [← String.toList_inj, String.toList_append, String.toList_ofList, hrest]
  rw [htext, String.utf8ByteSize_append]
  omega

theorem joinWith_prefix (sep : Char) {before pieces : List (List Char)} (h : before <+: pieces)
    : joinWith sep before <+: joinWith sep pieces := by
  induction before generalizing pieces with
  | nil => exact List.nil_prefix
  | cons piece before ih =>
    obtain ⟨rest, rfl⟩ := h
    cases before with
    | nil =>
      obtain ⟨tail, heq⟩ := joinWith_eq_append sep piece rest
      rw [List.singleton_append, heq]
      exact List.prefix_append piece tail
    | cons piece' before =>
      rw [List.cons_append, List.cons_append, joinWith, joinWith, List.prefix_append_right_inj,
        List.prefix_cons_inj]
      exact ih (List.prefix_append _ rest)

theorem above_of_parent? {p q : Path} (h : p.parent? = some q) : Above p q := by
  have hcomponents : q.components <+: p.components := by
    rw [(components_of_parent? h).1]
    exact List.dropLast_prefix _
  unfold parent? at h
  split at h
  . next before hbefore =>
    obtain rfl := Option.some.inj h
    obtain ⟨hpieces, -⟩ := filterMap_step?_of_parentBody? hbefore
    have hanchor : (ofParts p.anchor before).anchor = p.anchor :=
      anchor_ofParts (p.fits_body.shorten hpieces) fun piece hpiece =>
        slash_not_mem_of_mem_body (hpieces.subset hpiece)
    refine ⟨?_, hcomponents, ?_⟩
    . conv => rhs; rw [← ofParts_anchor_body p]
      simp only [ofParts, String.toList_ofList]
      rw [List.prefix_append_right_inj]
      exact joinWith_prefix '/' hpieces
    . rw [Bool.eq_iff_iff, isAbsolute_iff_anchor, isAbsolute_iff_anchor, hanchor]
  . split at h
    . next hanchor =>
      obtain rfl := Option.some.inj h
      refine ⟨List.nil_prefix, hcomponents, ?_⟩
      rw [Bool.eq_iff_iff, isAbsolute_iff_anchor, isAbsolute_iff_anchor, hanchor]
      decide
    . cases h
    . cases h

theorem ancestors_of_parent? {p q : Path} (h : p.parent? = some q)
    : p.ancestors = p :: q.ancestors := by
  rw [ancestors]
  split
  . next r hr =>
    cases h.symm.trans hr
    rfl
  . next hnone => cases h.symm.trans hnone

theorem above_of_mem_ancestors {p q : Path} (h : q ∈ p.ancestors) : Above p q := by
  fun_induction ancestors p with
  | case1 p r hparent _ ih =>
    rcases List.mem_cons.1 h with rfl | h
    . exact .refl q
    . exact (above_of_parent? hparent).trans (ih h)
  | case2 p hnone =>
    cases List.mem_singleton.1 h
    exact .refl q

theorem map_components_ancestors_all (p : Path)
    : p.ancestors.map components
        = beginnings p.components ++ (if p.isAbsolute then [] else [[]]) := by
  fun_induction ancestors p with
  | case1 p q h _ ih =>
    obtain ⟨hq, hne⟩ := components_of_parent? h
    rw [List.map_cons, ih, beginnings_of_ne_nil hne, ← hq, (above_of_parent? h).isAbsolute]
    rfl
  | case2 p h =>
    have habsolute := @isAbsolute_iff_mem p
    rcases components_of_parent?_eq_none h with hp | hp
    . simp [hp] at habsolute
      simp [hp, habsolute, beginnings_nil]
    . simp [hp] at habsolute
      simp [hp, habsolute, beginnings]

/-! ### Joined names -/

section Join

variable {name : String}

theorem IsStep.isIdle_eq (h : IsStep name) : isIdle name.toList = false := by
  have hstep := h.step
  unfold step? at hstep
  split at hstep
  . cases hstep
  . next hidle => exact Bool.eq_false_iff.2 hidle

theorem anchor_of_isStep (h : IsStep name) : (Path.mk name).anchor = .none := by
  have hslash := h.slash_not_mem
  have hstep := h.step
  unfold anchor
  split
  . simp_all
  . next hdot =>
    simp only at hdot
    rw [hdot] at hstep
    cases hstep
  . simp_all
  . rfl

theorem components_of_isStep (h : IsStep name) : (Path.mk name).components = [.name name] := by
  rw [components_eq_segments, anchor_of_isStep h, segments_of_not_mem h.slash_not_mem,
    List.filterMap_cons_some h.step]
  rfl

theorem join_of_isStep (q : Path) (h : IsStep name)
    : q.join ⟨name⟩
        = if q.text.isEmpty || q.text.toList.getLast? == some '/' then ⟨q.text ++ name⟩
          else ⟨q.text ++ "/" ++ name⟩ := by
  have hrelative : (Path.mk name).isAbsolute = false := by
    rw [Bool.eq_false_iff, Ne, isAbsolute_iff_anchor, anchor_of_isStep h]
    decide
  simp [join, hrelative]

theorem components_join_name (q : Path) (h : IsStep name)
    : (q.join ⟨name⟩).components = q.components ++ [.name name] := by
  cases hempty : q.isEmpty with
  | false => exact components_join hempty h
  | true =>
    rw [isEmpty_iff_components_eq_nil.1 hempty]
    unfold isEmpty at hempty
    rw [join_of_isStep q h, String.isEmpty_iff.1 hempty]
    simpa using components_of_isStep h

theorem isAbsolute_join (q : Path) (h : IsStep name)
    : (q.join ⟨name⟩).isAbsolute = q.isAbsolute := by
  rw [Bool.eq_iff_iff, isAbsolute_iff_mem, isAbsolute_iff_mem, components_join_name q h]
  simp

theorem utf8ByteSize_join_le (q : Path) (h : IsStep name)
    : (q.join ⟨name⟩).text.utf8ByteSize ≤ q.text.utf8ByteSize + 1 + name.utf8ByteSize := by
  have hslash : "/".utf8ByteSize = 1 := rfl
  rw [join_of_isStep q h]
  split <;> simp only [String.utf8ByteSize_append] <;> omega

theorem mem_toList_join (q : Path) (h : IsStep name) {c : Char}
    (hc : c ∈ (q.join ⟨name⟩).text.toList)
    : c ∈ q.text.toList ∨ c = '/' ∨ c ∈ name.toList := by
  rw [join_of_isStep q h] at hc
  split at hc <;> simp at hc <;> tauto

theorem getLast?_segments_join (q : Path) (h : IsStep name)
    : (segments '/' (q.join ⟨name⟩).text.toList).getLast? = some name.toList := by
  have hname : segments '/' name.toList = [name.toList] := segments_of_not_mem h.slash_not_mem
  rw [join_of_isStep q h]
  split
  . next hcond =>
    rcases Bool.or_eq_true_iff.1 hcond with hempty | hlast
    . rw [String.isEmpty_iff.1 hempty]
      simp [hname]
    . obtain ⟨cs, hcs⟩ := List.getLast?_eq_some_iff.1 (beq_iff_eq.1 hlast)
      simp [hcs, segments_append_cons, hname]
  . simp [segments_append_cons, hname]

end Join

/-! ### Absolute paths -/

section OfNames

variable {names : List String}

theorem slash_not_mem_of_isStep (h : ∀ name ∈ names, IsStep name)
    : ∀ piece ∈ names.map String.toList, '/' ∉ piece := by
  intro piece hpiece
  obtain ⟨name, hname, rfl⟩ := List.mem_map.1 hpiece
  exact (h name hname).slash_not_mem

theorem filterMap_step?_of_isStep (h : ∀ name ∈ names, IsStep name)
    : (names.map String.toList).filterMap step? = names.map .name := by
  induction names with
  | nil => rfl
  | cons name names ih =>
    rw [List.forall_mem_cons] at h
    rw [List.map_cons, List.filterMap_cons_some h.1.step, ih h.2]
    rfl

theorem components_ofNames (h : ∀ name ∈ names, IsStep name)
    : (ofNames names).components = .root :: names.map .name := by
  rw [ofNames, components_ofParts (by trivial) (slash_not_mem_of_isStep h),
    filterMap_step?_of_isStep h]
  rfl

theorem isAbsolute_ofNames (names : List String) : (ofNames names).isAbsolute = true := by
  simp [ofNames, ofParts, Anchor.chars, isAbsolute]

theorem mem_toList_ofNames {c : Char} (hc : c ∈ (ofNames names).text.toList)
    : c = '/' ∨ ∃ name ∈ names, c ∈ name.toList := by
  simp only [ofNames, ofParts, Anchor.chars, String.toList_ofList, List.singleton_append,
    List.mem_cons, mem_joinWith_iff, List.mem_map] at hc
  rcases hc with hc | ⟨_, ⟨name, hname, rfl⟩, hc⟩ | ⟨hc, -⟩
  . exact .inl hc
  . exact .inr ⟨name, hname, hc⟩
  . exact .inl hc

theorem getLast?_segments_ofNames (h : ∀ name ∈ names, IsStep name) (hne : names ≠ [])
    : ∃ name ∈ names, (segments '/' (ofNames names).text.toList).getLast? = some name.toList := by
  have hpieces : segments '/' (ofNames names).text.toList = [] :: names.map String.toList := by
    rw [ofNames, ofParts, String.toList_ofList, Anchor.chars, List.singleton_append, segments,
      if_pos rfl, segments_joinWith (by simpa using hne) (slash_not_mem_of_isStep h)]
  refine ⟨names.getLast hne, List.getLast_mem hne, ?_⟩
  simp [hpieces, List.getLast?_cons, List.getLast?_eq_some_getLast hne]

end OfNames

/-! ### Names on a path -/

theorem filterMap_name?_anchor (anchor : Anchor)
    : anchor.components.filterMap Component.name? = [] := by
  cases anchor <;> rfl

theorem isStep_of_mem_names {p : Path} {name : String} (h : name ∈ p.names) : IsStep name := by
  obtain ⟨step, hstep, heq⟩ := List.mem_filterMap.1 h
  obtain rfl : step = .name name := by
    cases step <;> simp_all [Component.name?]
  rw [components_eq_segments, List.mem_append] at hstep
  rcases hstep with hanchor | hbody
  . cases hp : p.anchor <;> simp [hp, Anchor.components] at hanchor
  . obtain ⟨piece, hpiece, hpieceStep⟩ := List.mem_filterMap.1 hbody
    rcases step?_cases hpieceStep with hup | hname
    . cases hup
    . cases hname
      refine ⟨?_, by simpa using hpieceStep⟩
      simpa using not_mem_of_mem_segments hpiece

theorem components_eq_names {p : Path} (h : .parent ∉ p.components)
    : p.components = p.anchor.components ++ p.names.map .name := by
  have hbody : ∀ step ∈ p.body.filterMap step?, ∃ name, step = .name name := by
    intro step hstep
    obtain ⟨piece, -, hpiece⟩ := List.mem_filterMap.1 hstep
    rcases step?_cases hpiece with rfl | rfl
    . exact absurd (List.mem_append_right _ hstep) h
    . exact ⟨_, rfl⟩
  have hnames : p.names = (p.body.filterMap step?).filterMap Component.name? := by
    rw [names, components, List.filterMap_append, filterMap_name?_anchor, List.nil_append]
  rw [components, hnames]
  congr 1
  generalize p.body.filterMap step? = steps at hbody
  induction steps with
  | nil => rfl
  | cons step steps ih =>
    obtain ⟨⟨name, rfl⟩, hsteps⟩ := List.forall_mem_cons.1 hbody
    change _ = Component.name name :: (steps.filterMap Component.name?).map Component.name
    rw [← ih hsteps]

end Path
end FeatureRunner
