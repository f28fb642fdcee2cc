import FeatureRunner.Path.Ancestors
import Mathlib.Data.List.Infix

/-!
This module contains the steps of the paths above a path and of the paths below it. The parent has
all steps but the last one (`components_of_parent?`), so the ancestors have the beginnings of the
steps (`map_components_ancestors`); a name that is joined to a path is its last step
(`fileName?_join`).
-/

namespace FeatureRunner

open FeatureRunner.Text

namespace Path

def Fits (anchor : Anchor) (pieces : List (List Char)) : Prop :=
  match anchor with
  | .none => ∀ piece ∈ pieces.head?, isIdle piece = true → pieces = [[]]
  | .root => True
  | .current => ∀ piece ∈ pieces.head?, piece = []

theorem segments_head?_eq_nil {cs : List Char} (h : (segments '/' cs).head? = some [])
    : cs = [] ∨ ∃ ds, cs = '/' :: ds := by
  cases cs with
  | nil => exact .inl rfl
  | cons c cs =>
    by_cases hc : c = '/'
    . subst hc
      exact .inr ⟨cs, rfl⟩
    . rw [segments, if_neg hc] at h
      split at h <;> simp at h

theorem fits_body (p : Path) : Fits p.anchor p.body := by
  unfold body anchor
  split
  . trivial
  . next htext => simp [Fits, htext, Anchor.chars, segments]
  . next htext => simp [Fits, htext, Anchor.chars, segments]
  . next hroot hdot hcurrent =>
    generalize p.text.toList = cs at *
    intro piece hpiece hidle
    cases cs with
    | nil => rfl
    | cons c cs =>
      have hc : c ≠ '/' := by
        rintro rfl
        exact hroot cs rfl
      simp only [Anchor.chars, List.length_nil, List.drop_zero, segments, if_neg hc] at hpiece ⊢
      split at hpiece
      . next hnil => exact absurd hnil (segments_ne_nil '/' cs)
      . next first rest hsegments =>
        obtain rfl : c :: first = piece := by simpa using hpiece
        -- Only a dot that stands alone would be idle, and that would be an anchor of its own.
        obtain ⟨rfl, rfl⟩ : c = '.' ∧ first = [] := by simpa [isIdle] using hidle
        rcases segments_head?_eq_nil (by rw [hsegments]; rfl) with rfl | ⟨ds, rfl⟩
        . exact absurd rfl hdot
        . exact absurd rfl (hcurrent ds)

theorem Fits.shorten {anchor : Anchor} {pieces pieces' : List (List Char)}
    (h : Fits anchor pieces) (hpieces : pieces' <+: pieces)
    : Fits anchor pieces' := by
  obtain ⟨rest, rfl⟩ := hpieces
  cases pieces' with
  | nil => cases anchor <;> simp [Fits]
  | cons piece pieces' =>
    cases anchor with
    | none =>
      intro _ hpiece hidle
      have heq := h _ hpiece hidle
      simp only [List.cons_append, List.cons.injEq, List.append_eq_nil_iff] at heq
      rw [heq.1, heq.2.1]
    | root => trivial
    | current => exact h

section Parts

variable {anchor : Anchor} {pieces : List (List Char)}

theorem anchor_ofParts (h : Fits anchor pieces) (hslash : ∀ piece ∈ pieces, '/' ∉ piece)
    : (ofParts anchor pieces).anchor = anchor := by
  unfold Path.anchor ofParts
  rw [String.toList_ofList]
  cases anchor with
  | root => rfl
  | current =>
    cases pieces with
    | nil => rfl
    | cons piece rest =>
      obtain rfl : piece = [] := h piece rfl
      cases rest <;> rfl
  | none =>
    cases pieces with
    | nil => rfl
    | cons piece rest =>
      by_cases hidle : isIdle piece = true
      . rw [h piece rfl hidle]
        rfl
      . have hfirst : '/' ∉ piece := hslash piece (by simp)
        obtain ⟨tail, heq⟩ := joinWith_eq_append '/' piece rest
        simp only [Anchor.chars, List.nil_append, heq]
        -- The first two characters of the piece tell that no anchor begins there.
        rcases piece with _ | ⟨c, _ | ⟨d, piece⟩⟩
        . simp [isIdle] at hidle
        . split <;> simp_all [isIdle]
        . split <;> simp_all

theorem components_ofParts (h : Fits anchor pieces) (hslash : ∀ piece ∈ pieces, '/' ∉ piece)
    : (ofParts anchor pieces).components = anchor.components ++ pieces.filterMap step? := by
  have hbody : (ofParts anchor pieces).body = segments '/' (joinWith '/' pieces) := by
    rw [body, anchor_ofParts h hslash, ofParts, String.toList_ofList, List.drop_left]
  rw [components, anchor_ofParts h hslash, hbody]
  by_cases hne : pieces = []
  . subst hne
    rfl
  . rw [segments_joinWith hne hslash]

end Parts

theorem filterMap_step?_dropWhile (pieces : List (List Char))
    : (pieces.dropWhile isIdle).filterMap step? = pieces.filterMap step? := by
  induction pieces with
  | nil => rfl
  | cons piece pieces ih =>
    cases hidle : isIdle piece with
    | true => simp [hidle, ih, step?]
    | false => simp [hidle]

theorem step?_ne_none {piece : List Char} (h : isIdle piece = false) : step? piece ≠ none := by
  unfold step?
  split
  . simp_all
  . split <;> simp

theorem filterMap_step?_of_parentBody? {pieces before : List (List Char)}
    (h : parentBody? pieces = some before)
    : before <+: pieces ∧ ∃ step, pieces.filterMap step? = before.filterMap step? ++ [step] := by
  unfold parentBody? at h
  split at h
  . cases h
  . next last rest heq =>
    obtain rfl := Option.some.inj h
    refine ⟨?_, ?_⟩
    . rw [← List.reverse_reverse pieces, List.reverse_prefix]
      have hlast : last :: rest <:+ pieces.reverse := heq ▸ List.dropWhile_suffix isIdle
      have hrest : rest.dropWhile isIdle <:+ rest := List.dropWhile_suffix isIdle
      exact (hrest.trans (List.suffix_cons last rest)).trans hlast
    . have hlast : isIdle last = false := by
        have := List.head?_dropWhile_not isIdle pieces.reverse
        rw [heq] at this
        simpa using this
      obtain ⟨step, hstep⟩ := Option.ne_none_iff_exists'.1 (step?_ne_none hlast)
      have hsteps := filterMap_step?_dropWhile pieces.reverse
      rw [heq, List.filterMap_cons_some hstep, List.filterMap_reverse] at hsteps
      refine ⟨step, ?_⟩
      rw [List.filterMap_reverse, filterMap_step?_dropWhile, ← List.reverse_inj, ← hsteps]
      simp

theorem filterMap_step?_eq_nil {pieces : List (List Char)} (h : parentBody? pieces = none)
    : pieces.filterMap step? = [] := by
  unfold parentBody? at h
  split at h
  . next hnil =>
    have hsteps := filterMap_step?_dropWhile pieces.reverse
    rw [hnil, List.filterMap_reverse] at hsteps
    simpa using hsteps.symm
  . cases h

theorem slash_not_mem_of_mem_body {p : Path} {piece : List Char} (h : piece ∈ p.body)
    : '/' ∉ piece :=
  not_mem_of_mem_segments h

theorem components_of_parent? {p q : Path} (h : p.parent? = some q)
    : q.components = p.components.dropLast ∧ p.components ≠ [] := by
  unfold parent? at h
  split at h
  . next before hbefore =>
    obtain rfl := Option.some.inj h
    obtain ⟨hpieces, step, hstep⟩ := filterMap_step?_of_parentBody? hbefore
    have hq : (ofParts p.anchor before).components
        = p.anchor.components ++ before.filterMap step? := by
      apply components_ofParts
      . exact p.fits_body.shorten hpieces
      . intro piece hpiece
        exact slash_not_mem_of_mem_body (hpieces.subset hpiece)
    rw [hq, components, hstep, ← List.append_assoc]
    simp
  . next hnone =>
    have hsteps := filterMap_step?_eq_nil hnone
    split at h
    . next hanchor =>
      obtain rfl := Option.some.inj h
      rw [components, components, hanchor, hsteps]
      exact ⟨by decide, by decide⟩
    . cases h
    . cases h

theorem components_of_parent?_eq_none {p : Path} (h : p.parent? = none)
    : p.components = [] ∨ p.components = [.root] := by
  unfold parent? at h
  split at h
  . cases h
  . next hnone =>
    have hsteps := filterMap_step?_eq_nil hnone
    rw [components, hsteps, List.append_nil]
    split at h
    . cases h
    . next hanchor => exact .inr (by rw [hanchor]; rfl)
    . next hanchor => exact .inl (by rw [hanchor]; rfl)

theorem isEmpty_iff_components_eq_nil {p : Path} : p.isEmpty = true ↔ p.components = [] := by
  unfold isEmpty
  rw [String.isEmpty_iff]
  constructor
  . intro htext
    simp [components, body, anchor, htext, Anchor.components, segments, step?, isIdle]
  . intro hsteps
    rw [components, List.append_eq_nil_iff] at hsteps
    have hanchor : p.anchor = .none := by
      cases h : p.anchor <;> simp [h, Anchor.components] at hsteps
      rfl
    have hfits := p.fits_body
    have hp := p.ofParts_anchor_body
    rw [hanchor] at hfits hp
    cases hbody : p.body with
    | nil => exact absurd hbody (segments_ne_nil '/' _)
    | cons piece rest =>
      rw [hbody] at hfits
      have hidle : isIdle piece = true := by
        by_contra hidle
        have hstep := step?_ne_none (by simpa using hidle)
        have hnone := hsteps.2
        rw [hbody, List.filterMap_eq_nil_iff] at hnone
        exact hstep (hnone piece (by simp))
      rw [hbody, hfits piece rfl hidle] at hp
      rw [← hp]
      rfl

def beginnings (steps : List α) : List (List α) :=
  (steps.inits.filter (!·.isEmpty)).reverse

theorem beginnings_nil : beginnings ([] : List α) = [] := rfl

theorem beginnings_of_ne_nil {steps : List α} (h : steps ≠ [])
    : beginnings steps = steps :: beginnings steps.dropLast := by
  obtain ⟨front, step, rfl⟩ := (List.eq_nil_or_concat steps).resolve_left h
  simp [beginnings, List.inits_append]

theorem map_components_ancestors (p : Path)
    : (p.ancestors.filter (!·.isEmpty)).map components = beginnings p.components := by
  -- Only the end needs care: the empty path above a relative one is filtered out.
  fun_induction ancestors p with
  | case1 p q h _ ih =>
    obtain ⟨hq, hne⟩ := components_of_parent? h
    have hp : p.isEmpty = false := by
      simpa using isEmpty_iff_components_eq_nil.not.2 hne
    rw [beginnings_of_ne_nil hne, ← hq, ← ih]
    simp [hp]
  | case2 p h =>
    have hempty := @isEmpty_iff_components_eq_nil p
    rcases components_of_parent?_eq_none h with hp | hp
    . rw [hp] at hempty ⊢
      simp [hempty.2 rfl, beginnings_nil]
    . have hne : p.isEmpty = false := by
        simpa [hp] using hempty
      simp [hne, hp, beginnings]

theorem anchor_cons_cons (c d : Char) (cs cs' : List Char)
    : (Path.mk (String.ofList (c :: d :: cs))).anchor
        = (Path.mk (String.ofList (c :: d :: cs'))).anchor := by
  simp only [anchor, String.toList_ofList]
  by_cases hroot : c = '/'
  . subst hroot
    rfl
  . by_cases hcurrent : c = '.' ∧ d = '/'
    . obtain ⟨rfl, rfl⟩ := hcurrent
      rfl
    . split <;> split <;> simp_all

theorem anchor_append_slash (cs ds ds' : List Char)
    : (Path.mk (String.ofList (cs ++ '/' :: ds))).anchor
        = (Path.mk (String.ofList (cs ++ '/' :: ds'))).anchor := by
  rcases cs with _ | ⟨c, _ | ⟨d, cs⟩⟩
  . simp [anchor]
  . exact anchor_cons_cons c '/' ds ds'
  . exact anchor_cons_cons c d (cs ++ '/' :: ds) (cs ++ '/' :: ds')

theorem components_mk (cs : List Char)
    : (Path.mk (String.ofList cs)).components
        = (Path.mk (String.ofList cs)).anchor.components
            ++ (segments '/'
              (cs.drop (Path.mk (String.ofList cs)).anchor.chars.length)).filterMap step? := by
  rw [components, body, String.toList_ofList]

theorem length_chars_le_one (a : Anchor) : a.chars.length ≤ 1 := by
  cases a <;> decide

structure IsStep (name : String) : Prop where
  slash_not_mem : '/' ∉ name.toList
  step : step? name.toList = some (.name name)

instance (name : String) : Decidable (IsStep name) :=
  decidable_of_iff ('/' ∉ name.toList ∧ step? name.toList = some (.name name))
    ⟨fun h => ⟨h.1, h.2⟩, fun h => ⟨h.slash_not_mem, h.step⟩⟩

theorem components_append_slash_name (cs : List Char) {name : String} (h : IsStep name)
    : (Path.mk (String.ofList (cs ++ '/' :: name.toList))).components
        = (Path.mk (String.ofList (cs ++ ['/']))).components ++ [.name name] := by
  have hname : (segments '/' name.toList).filterMap step? = [.name name] := by
    rw [segments_of_not_mem h.slash_not_mem, List.filterMap_cons_some h.step, List.filterMap_nil]
  have hsteps (cs : List Char) : (segments '/' (cs ++ '/' :: name.toList)).filterMap step?
      = (segments '/' (cs ++ ['/'])).filterMap step? ++ [.name name] := by
    simp [segments_append_cons, hname, segments, step?, isIdle]
  rw [components_mk, components_mk, anchor_append_slash cs [] name.toList, List.append_assoc]
  have hle := length_chars_le_one (Path.mk (String.ofList (cs ++ '/' :: name.toList))).anchor
  generalize (Path.mk (String.ofList (cs ++ '/' :: name.toList))).anchor = a at *
  congr 1
  -- The anchor is empty, a slash that stands in front of the name, or lies within `cs`.
  rcases Nat.le_one_iff_eq_zero_or_eq_one.1 hle with hlength | hlength
  . rw [hlength]
    exact hsteps cs
  . rw [hlength]
    cases cs with
    | nil => simp [hname, segments, step?, isIdle]
    | cons c cs => exact hsteps cs

theorem components_append_slash {cs : List Char} (hne : cs ≠ [])
    : (Path.mk (String.ofList (cs ++ ['/']))).components
        = (Path.mk (String.ofList cs)).components := by
  have hanchor : (Path.mk (String.ofList (cs ++ ['/']))).anchor
      = (Path.mk (String.ofList cs)).anchor := by
    rcases cs with _ | ⟨c, _ | ⟨d, cs⟩⟩
    . exact absurd rfl hne
    . simp only [anchor, String.toList_ofList]
      by_cases hdot : c = '.' <;> by_cases hslash : c = '/' <;> simp_all
    . exact anchor_cons_cons c d (cs ++ ['/']) cs
  rw [components_mk, components_mk, hanchor]
  have hle := length_chars_le_one (Path.mk (String.ofList cs)).anchor
  have hpos := List.length_pos_iff.2 hne
  rw [List.drop_append_of_le_length (by omega)]
  simp [segments_append_cons, segments, step?, isIdle]

theorem components_join {dir : Path} (hdir : dir.isEmpty = false) {name : String} (h : IsStep name)
    : (dir.join ⟨name⟩).components = dir.components ++ [.name name] := by
  have habsolute : (Path.mk name).isAbsolute = false := by
    have hslash := h.slash_not_mem
    unfold isAbsolute
    cases hname : name.toList with
    | nil => rfl
    | cons c cs =>
      rw [hname, List.mem_cons, not_or] at hslash
      simpa using Ne.symm hslash.1
  have hempty : dir.text.isEmpty = false := hdir
  rw [join, if_neg (by simp [habsolute]), hempty, Bool.false_or]
  split
  . next hlast =>
    obtain ⟨cs, hcs⟩ := List.getLast?_eq_some_iff.1 (beq_iff_eq.1 hlast)
    have hjoin : dir.text ++ name = String.ofList (cs ++ '/' :: name.toList) := by
      rw [← String.toList_inj]
      simp [hcs]
    have hself : dir = ⟨String.ofList (cs ++ ['/'])⟩ := by
      rw [← hcs, String.ofList_toList]
    rw [hjoin, components_append_slash_name cs h, ← hself]
  . have hjoin : dir.text ++ "/" ++ name = String.ofList (dir.text.toList ++ '/' :: name.toList) := by
      rw [← String.toList_inj]
      simp
    have hne : dir.text.toList ≠ [] := by
      simpa using hempty
    rw [hjoin, components_append_slash_name _ h, components_append_slash hne, String.ofList_toList]

theorem fileName?_join {dir : Path} (hdir : dir.isEmpty = false) {name : String} (h : IsStep name)
    : (dir.join ⟨name⟩).fileName? = some name := by
  rw [fileName?, components_join hdir h]
  simp [Component.name?]

end Path

theorem mem_joinWith_iff {sep c : Char} {ss : List (List Char)}
    : c ∈ joinWith sep ss ↔ (∃ s ∈ ss, c ∈ s) ∨ (c = sep ∧ 2 ≤ ss.length) := by
  induction ss with
  | nil => simp [joinWith]
  | cons s ss ih =>
    cases ss with
    | nil => simp [joinWith]
    | cons t ss =>
      rw [joinWith, List.mem_append, List.mem_cons, ih]
      grind

theorem mem_toList_of_mem_names {p : Path} {name : String} {c : Char} (hname : name ∈ p.names)
    (hc : c ∈ name.toList)
    : c ∈ p.text.toList := by
  obtain ⟨step, hstep, heq⟩ := List.mem_filterMap.1 hname
  rcases List.mem_append.1 hstep with hanchor | hbody
  . cases hp : p.anchor with
    | none => simp [hp, Path.Anchor.components] at hanchor
    | root =>
      obtain rfl : step = .root := by simpa [hp, Path.Anchor.components] using hanchor
      cases heq
    | current =>
      obtain rfl : step = .current := by simpa [hp, Path.Anchor.components] using hanchor
      cases heq
  . obtain ⟨piece, hpiece, hstep⟩ := List.mem_filterMap.1 hbody
    have hmem : c ∈ piece := by
      unfold Path.step? at hstep
      split at hstep
      . cases hstep
      . split at hstep
        . cases hstep
          cases heq
        . cases hstep
          obtain rfl : String.ofList piece = name := by simpa [Path.Component.name?] using heq
          simpa using hc
    apply List.mem_of_mem_drop
    rw [← joinWith_segments '/' (p.text.toList.drop _), mem_joinWith_iff]
    exact .inl ⟨piece, hpiece, hmem⟩

end FeatureRunner
