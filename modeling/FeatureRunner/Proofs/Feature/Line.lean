import FeatureRunner.Feature.Line
import FeatureRunner.Proofs.Text.Trimming
import Mathlib.Data.List.Basic
import Mathlib.Data.List.TakeWhile

/-!
This module contains what makes a line a skipped line, a line of tags, a scenario or a feature
header, each told from its trimmed characters alone. Keywords are matched on the line as it is; that
the blanks around it make no difference to them is `ofChars_trimChars`. The main statement is
`says_ofChars`: the line is read as what it is.
-/

namespace FeatureRunner

open FeatureRunner.Text

namespace FeatureLine

def IsSkip (line : List Char) : Prop :=
  line = [] ∨ ∃ cs, line = '#' :: cs

def IsTagLine (line : List Char) : Prop :=
  ∃ cs, line = '@' :: cs

def HasTag (line : List Char) (t : String) : Prop :=
  (∃ c cs, t.toList = '@' :: c :: cs)
    ∧ ∃ before after, tokens (String.ofList line) = before ++ t :: after
      ∧ ∀ token ∈ before, ∀ cs, token.toList ≠ '#' :: cs

inductive IsScenario : List Char → SectionKind → List Char → Prop where
  | scenario (rest) : IsScenario ("Scenario:".toList ++ rest) .scenario rest
  | synonym (rest) : IsScenario ("Example:".toList ++ rest) .scenario rest
  | outline (rest) : IsScenario ("Scenario Outline:".toList ++ rest) .scenarioOutline rest
  | template (rest) : IsScenario ("Scenario Template:".toList ++ rest) .scenarioOutline rest

def IsHeader (line rest : List Char) : Prop :=
  line = "Feature:".toList ++ rest

/-- What a trimmed line is read as. -/
inductive Says (line : List Char) : FeatureLine → Prop where
  | skip : IsSkip line → Says line .skip
  | tags {ts} : IsTagLine line → (∀ t, t ∈ ts ↔ HasTag line t) → Says line (.tags ts)
  | scenario {kind rest} : IsScenario line kind rest
      → Says line (.scenario kind (String.ofList (trimChars rest)))
  | feature {rest} : IsHeader line rest → Says line (.feature (String.ofList (trimChars rest)))
  | body : ¬ IsSkip line → ¬ IsTagLine line → (∀ kind rest, ¬ IsScenario line kind rest)
      → (∀ rest, ¬ IsHeader line rest) → Says line .body

theorem IsTagLine.not_isSkip {line : List Char} (h : IsTagLine line) : ¬ IsSkip line := by
  rcases h with ⟨cs, rfl⟩
  simp [IsSkip]

theorem IsScenario.not_isSkip {line rest : List Char} {kind : SectionKind}
    (h : IsScenario line kind rest)
    : ¬ IsSkip line := by
  cases h <;> simp [IsSkip]

theorem IsScenario.not_isTagLine {line rest : List Char} {kind : SectionKind}
    (h : IsScenario line kind rest)
    : ¬ IsTagLine line := by
  cases h <;> simp [IsTagLine]

theorem IsHeader.not_isSkip {line rest : List Char} (h : IsHeader line rest) : ¬ IsSkip line := by
  rw [h]
  simp [IsSkip]

theorem IsHeader.not_isTagLine {line rest : List Char} (h : IsHeader line rest)
    : ¬ IsTagLine line := by
  rw [h]
  simp [IsTagLine]

theorem IsHeader.not_isScenario {line rest rest' : List Char} {kind : SectionKind}
    (h : IsHeader line rest)
    : ¬ IsScenario line kind rest' := by
  intro hscenario
  unfold IsHeader at h
  cases hscenario <;> simp at h

theorem IsScenario.unique {line rest rest' : List Char} {kind kind' : SectionKind}
    (h : IsScenario line kind rest) (h' : IsScenario line kind' rest')
    : kind = kind' ∧ rest = rest' := by
  generalize hline : line = line' at h'
  cases h <;> cases h' <;> simp_all

theorem afterKeyword?_eq_some_iff {keyword : String} {line rest : List Char}
    : afterKeyword? keyword line = some rest ↔ line = (keyword ++ ":").toList ++ rest := by
  rw [afterKeyword?, List.isPrefixOf?_eq_some_iff_append_eq, eq_comm]
  simp

/-! ### Margins -/

section Margins

variable {front middle back line : List Char}

theorem afterKeyword?_append_blanks (hback : ∀ c ∈ back, isBlank c = true) (keyword : String)
    (middle : List Char)
    : afterKeyword? keyword (middle ++ back) = (afterKeyword? keyword middle).map (· ++ back) := by
  ext rest
  simp only [Option.map_eq_some_iff, afterKeyword?_eq_some_iff]
  constructor
  . intro h
    rcases List.append_eq_append_iff.1 h with ⟨colon, hkeyword, hrest⟩ | ⟨rest', hmiddle, hrest⟩
    . cases hcolon : colon.getLast? with
      | none =>
        obtain rfl := List.getLast?_eq_none_iff.1 hcolon
        exact ⟨[], by simpa using hkeyword.symm, by simpa using hrest⟩
      | some c =>
        have hlast : (keyword ++ ":").toList.getLast? = some c := by
          rw [hkeyword, List.getLast?_append, hcolon]
          rfl
        obtain rfl : ':' = c := by simpa using hlast
        have hblank := hback ':' (by simp [hrest, List.mem_of_getLast? hcolon])
        exact absurd hblank (by decide)
    . exact ⟨rest', hmiddle, hrest.symm⟩
  . rintro ⟨rest', rfl, rfl⟩
    rw [List.append_assoc]

theorem trimLeft_margins (hfront : ∀ c ∈ front, isBlank c = true) (htight : IsTight middle)
    (hne : middle ≠ []) (back : List Char)
    : trimLeft (front ++ middle ++ back) = middle ++ back := by
  unfold trimLeft
  rw [List.append_assoc, List.dropWhile_append_of_pos hfront]
  cases middle with
  | nil => exact absurd rfl hne
  | cons c middle => simp [htight.head c rfl]

/-- A keyword is found between two margins as it is without them. -/
theorem behindKeyword?_margins (hfront : ∀ c ∈ front, isBlank c = true)
    (hback : ∀ c ∈ back, isBlank c = true) (htight : IsTight middle) (hne : middle ≠ [])
    (hfeed : '\n' ∉ front ++ middle ++ back) (keyword : String)
    : behindKeyword? keyword (front ++ middle ++ back)
        = (afterKeyword? keyword middle).map (· ++ back) := by
  unfold behindKeyword?
  rw [trimLeft_margins hfront htight hne, afterKeyword?_append_blanks hback]
  cases hmap : (afterKeyword? keyword middle).map (· ++ back) with
  | none => rfl
  | some rest =>
    obtain ⟨rest', hrest', rfl⟩ := Option.map_eq_some_iff.1 hmap
    rw [afterKeyword?_eq_some_iff] at hrest'
    have hnone : '\n' ∉ rest' ++ back := by
      simp only [hrest', List.mem_append, not_or] at hfeed ⊢
      exact ⟨hfeed.1.2.2, hfeed.2⟩
    simpa [Option.filter_some] using hnone

theorem behindKeyword?_of_isTight (htight : IsTight line) (hne : line ≠ []) (hfeed : '\n' ∉ line)
    (keyword : String)
    : behindKeyword? keyword line = afterKeyword? keyword line := by
  have hblank : ∀ c ∈ ([] : List Char), isBlank c = true := nofun
  simpa using behindKeyword?_margins hblank hblank htight hne (by simpa using hfeed) keyword

theorem title_margins (hfront : ∀ c ∈ front, isBlank c = true)
    (hback : ∀ c ∈ back, isBlank c = true) (htight : IsTight middle) (hne : middle ≠ [])
    (hfeed : '\n' ∉ front ++ middle ++ back) (keyword : String) (f : String → β)
    : (behindKeyword? keyword (front ++ middle ++ back)).map
          (fun title => f (String.ofList (trimChars title)))
        = (behindKeyword? keyword middle).map fun title => f (String.ofList (trimChars title)) := by
  have hmiddle : '\n' ∉ middle := by
    simp only [List.mem_append, not_or] at hfeed
    exact hfeed.1.2
  rw [behindKeyword?_margins hfront hback htight hne hfeed,
    behindKeyword?_of_isTight htight hne hmiddle, Option.map_map]
  congr 1
  funext title
  rw [Function.comp_apply, trimChars_append_blanks hback]

theorem ofChars_trimChars (hfeed : '\n' ∉ line) : ofChars (trimChars line) = ofChars line := by
  unfold ofChars
  rw [trimChars_of_isTight (isTight_trimChars line)]
  split
  . rfl
  . rfl
  . rfl
  . next hnil _ _ =>
    obtain ⟨front, back, heq, hfront, hback⟩ := liesInBlanks_trimChars line
    have htight := isTight_trimChars line
    generalize trimChars line = middle at *
    subst heq
    have hscenario : scenario? (front ++ middle ++ back) = scenario? middle := by
      unfold scenario?
      congr 1
      funext ⟨keyword, kind⟩
      exact title_margins hfront hback htight hnil hfeed keyword fun title => (kind, title)
    have hfeature : featureTitle? (front ++ middle ++ back) = featureTitle? middle :=
      title_margins hfront hback htight hnil hfeed featureKeyword id
    rw [hscenario, hfeature]

end Margins

/-! ### Readings -/

section Readings

variable {line : List Char}

theorem exists_of_scenario?_eq_some (htight : IsTight line) (hne : line ≠ [])
    (hfeed : '\n' ∉ line) {kind : SectionKind} {title : String}
    (h : scenario? line = some (kind, title))
    : ∃ rest, IsScenario line kind rest ∧ title = String.ofList (trimChars rest) := by
  unfold scenario? at h
  rw [List.findSome?_eq_some_iff] at h
  obtain ⟨before, ⟨keyword, kind'⟩, after, hkeywords, hline, -⟩ := h
  have hmem : (keyword, kind') ∈ scenarioKeywords := by
    rw [hkeywords]
    simp
  simp only [behindKeyword?_of_isTight htight hne hfeed, Option.map_eq_some_iff, Prod.mk.injEq,
    afterKeyword?_eq_some_iff] at hline
  obtain ⟨rest, rfl, rfl, rfl⟩ := hline
  refine ⟨rest, ?_, rfl⟩
  simp only [scenarioKeywords, List.mem_cons, Prod.mk.injEq, List.not_mem_nil, or_false] at hmem
  rcases hmem with ⟨rfl, rfl⟩ | ⟨rfl, rfl⟩ | ⟨rfl, rfl⟩ | ⟨rfl, rfl⟩
  . exact .outline rest
  . exact .template rest
  . exact .scenario rest
  . exact .synonym rest

theorem isSome_scenario? (htight : IsTight line) (hne : line ≠ []) (hfeed : '\n' ∉ line)
    {kind : SectionKind} {rest : List Char} (h : IsScenario line kind rest)
    : (scenario? line).isSome := by
  have hmem : ∃ keyword kind', (keyword, kind') ∈ scenarioKeywords
      ∧ line = (keyword ++ ":").toList ++ rest := by
    cases h with
    | scenario => exact ⟨"Scenario", .scenario, by decide, rfl⟩
    | synonym => exact ⟨"Example", .scenario, by decide, rfl⟩
    | outline => exact ⟨"Scenario Outline", .scenarioOutline, by decide, rfl⟩
    | template => exact ⟨"Scenario Template", .scenarioOutline, by decide, rfl⟩
  obtain ⟨keyword, kind', hmem, hline⟩ := hmem
  unfold scenario?
  rw [List.findSome?_isSome_iff]
  refine ⟨_, hmem, ?_⟩
  simp [behindKeyword?_of_isTight htight hne hfeed, afterKeyword?_eq_some_iff.2 hline]

theorem featureTitle?_eq_some_iff (htight : IsTight line) (hne : line ≠ []) (hfeed : '\n' ∉ line)
    {title : String}
    : featureTitle? line = some title
        ↔
      ∃ rest, IsHeader line rest ∧ title = String.ofList (trimChars rest) := by
  simp only [featureTitle?, behindKeyword?_of_isTight htight hne hfeed, Option.map_eq_some_iff,
    afterKeyword?_eq_some_iff, eq_comm (a := title)]
  rfl

end Readings

theorem isTag_iff {t : String} : isTag t = true ↔ ∃ c cs, t.toList = '@' :: c :: cs := by
  unfold isTag
  rcases t.toList with _ | ⟨a, _ | ⟨c, cs⟩⟩ <;> simp

theorem startsComment_eq_false_iff {t : String}
    : startsComment t = false ↔ ∀ cs, t.toList ≠ '#' :: cs := by
  unfold startsComment
  rcases t.toList with _ | ⟨a, cs⟩ <;> simp

theorem mem_takeWhile_iff {p : α → Bool} {a : α} {as : List α} (ha : p a = true)
    : a ∈ as.takeWhile p ↔ ∃ before after, as = before ++ a :: after ∧ ∀ b ∈ before, p b = true := by
  constructor
  . intro h
    obtain ⟨before, after, hsplit⟩ := List.append_of_mem h
    refine ⟨before, after ++ as.dropWhile p, ?_, ?_⟩
    . rw [← List.cons_append, ← List.append_assoc, ← hsplit, List.takeWhile_append_dropWhile]
    . intro b hb
      apply List.mem_takeWhile_imp (l := as)
      rw [hsplit]
      exact List.mem_append_left _ hb
  . rintro ⟨before, after, rfl, hbefore⟩
    rw [List.takeWhile_append_of_pos hbefore, List.takeWhile_cons_of_pos ha]
    simp

theorem mem_tagsOf_iff {line : List Char} {t : String}
    : t ∈ tagsOf (String.ofList line) ↔ HasTag line t := by
  unfold tagsOf HasTag
  rw [List.mem_filter, and_comm, ← isTag_iff]
  refine and_congr_right ?_
  intro htag
  have hcomment : startsComment t = false := by
    obtain ⟨c, cs, ht⟩ := isTag_iff.1 htag
    simp [startsComment_eq_false_iff, ht]
  rw [mem_takeWhile_iff (by simp [hcomment])]
  simp [startsComment_eq_false_iff]

theorem says_ofChars {line : List Char} (hfeed : '\n' ∉ line)
    : Says (trimChars line) (ofChars line) := by
  have htight := isTight_trimChars line
  have htrim := trimChars_of_isTight htight
  have hfeed' : '\n' ∉ trimChars line := fun h => hfeed (mem_of_mem_trimChars h)
  rw [← ofChars_trimChars hfeed]
  generalize trimChars line = line at *
  unfold ofChars
  rw [htrim]
  split
  . exact .skip (.inl rfl)
  . exact .skip (.inr ⟨_, rfl⟩)
  . exact .tags ⟨_, rfl⟩ fun _ => mem_tagsOf_iff
  . next hnil hcomment htags =>
    split
    . next kind title hscenario =>
      obtain ⟨rest, hline, rfl⟩ := exists_of_scenario?_eq_some htight hnil hfeed' hscenario
      exact .scenario hline
    . next hscenario =>
      split
      . next title hfeature =>
        obtain ⟨rest, hline, rfl⟩ := (featureTitle?_eq_some_iff htight hnil hfeed').1 hfeature
        exact .feature hline
      . next hfeature =>
        -- the line is of no other kind, whichever of them is asked for first
        apply Says.body
        . rintro (rfl | ⟨cs, rfl⟩)
          . exact hnil rfl
          . exact hcomment cs rfl
        . rintro ⟨cs, rfl⟩
          exact htags cs rfl
        . intro kind rest hline
          simpa [hscenario] using isSome_scenario? htight hnil hfeed' hline
        . intro rest hline
          have hsome := (featureTitle?_eq_some_iff htight hnil hfeed').2 ⟨rest, hline, rfl⟩
          simp [hfeature] at hsome

end FeatureLine
end FeatureRunner
