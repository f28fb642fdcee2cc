import FeatureRunner.Feature.Sections
import FeatureRunner.Proofs.Feature.Line
import Mathlib.Data.List.Forall2
import Mathlib.Data.List.Sort

/-!
This module contains the declarative reading of a feature file. A scenario or the feature header has
the tags of the lines above it that only skipped lines and tag lines separate from it. The main
statement is `ofText_eq_iff`: the sections that the scanner finds are those of the reading. It is
carried by the invariant that the pending tags are always those above the next line.
-/

namespace FeatureRunner

open FeatureRunner.Text FeatureLine

def trimmedLines (text : String) : List (List Char) :=
  (lineChars text.toList).map trimChars

section

variable (lines : List (List Char))

/-- The tag is on a line above line `i`, with nothing but skipped lines and tag lines between. -/
def TagAbove (i : Nat) (t : String) : Prop :=
  ∃ j < i, ∃ line, lines[j]? = some line ∧ IsTagLine line ∧ HasTag line t
    ∧ ∀ k between, j < k → k < i → lines[k]? = some between → IsSkip between ∨ IsTagLine between

def ScenarioAt (i : Nat) : Prop :=
  ∃ line kind rest, lines[i]? = some line ∧ IsScenario line kind rest

def HeaderAt (i : Nat) : Prop :=
  ∃ line rest, lines[i]? = some line ∧ IsHeader line rest

/-- The numbers of the lines from `start` on that open a scenario, in order. -/
structure ScenarioLines (start : Nat) (indices : List Nat) : Prop where
  ascending : indices.Pairwise (· < ·)
  mem_iff : ∀ i, i ∈ indices ↔ start ≤ i ∧ ScenarioAt lines i

/-- The section is the scenario that line `i` opens, up to the line before `next`. Line numbers have
32 bits. -/
structure Covers (i next : Nat) (s : Section) : Prop where
  startLine : s.startLine = .ofNat i
  endLine : s.endLine = .ofNat (next - 1)
  opened : ∃ line rest, lines[i]? = some line ∧ IsScenario line s.kind rest
    ∧ s.title = String.ofList (trimChars rest)
  tags : ∀ t, t ∈ s.tags ↔ TagAbove lines i t

/-- The title and the tags are those of the first feature header; both are empty without one. -/
inductive Titled : String → TagSet → Prop where
  | header {i line rest tags} : lines[i]? = some line → IsHeader line rest
      → (∀ j < i, ¬ HeaderAt lines j) → (∀ t, t ∈ tags ↔ TagAbove lines i t)
      → Titled (String.ofList (trimChars rest)) tags
  | untitled : (∀ i, ¬ HeaderAt lines i) → Titled "" ∅

end

/-- The declarative reading of a feature file. -/
inductive Reading (text : String) : List Section → Prop where
  | empty : text = "" → Reading text []
  /-- Without a scenario the file is one section. -/
  | wholeFile {s : Section} : text ≠ "" → (∀ i, ¬ ScenarioAt (trimmedLines text) i)
      → s.kind = .feature → s.startLine = 0
      → s.endLine = .ofNat ((trimmedLines text).length - 1)
      → Titled (trimmedLines text) s.title s.tags → Reading text [s]
  /-- The sections are the scenarios in order, each up to the next one or to the end. -/
  | scenarios {indices : List Nat} {sections : List Section} : indices ≠ []
      → ScenarioLines (trimmedLines text) 0 indices
      → List.Forall₂ (fun (i, next) => Covers (trimmedLines text) i next)
          (indices.zip (indices.tail ++ [(trimmedLines text).length])) sections
      → Reading text sections

variable {lines rest : List (List Char)} {line : List Char} {i index : Nat} {t : String}

theorem tagAbove_succ_iff (h : lines[i]? = some line)
    : TagAbove lines (i + 1) t
        ↔
      (IsTagLine line ∧ HasTag line t) ∨ ((IsSkip line ∨ IsTagLine line) ∧ TagAbove lines i t) := by
  constructor
  . rintro ⟨j, hj, tagLine, hline, htags, htag, hbetween⟩
    by_cases hji : j = i
    . subst hji
      obtain rfl : line = tagLine := by
        simpa [h] using hline
      exact .inl ⟨htags, htag⟩
    . refine .inr ⟨hbetween i line (by omega) (by omega) h, j, by omega, tagLine, hline, htags,
        htag, ?_⟩
      intro k between hjk hki
      exact hbetween k between hjk (by omega)
  . rintro (⟨htags, htag⟩ | ⟨hpassed, j, hj, tagLine, hline, htags, htag, hbetween⟩)
    . refine ⟨i, by omega, line, h, htags, htag, ?_⟩
      intro k between hik hki
      omega
    . refine ⟨j, by omega, tagLine, hline, htags, htag, ?_⟩
      intro k between hjk hki hk
      by_cases hkeq : k = i
      . subst hkeq
        obtain rfl : line = between := by
          simpa [h] using hk
        exact hpassed
      . exact hbetween k between hjk (by omega) hk

theorem not_tagAbove_zero : ¬ TagAbove lines 0 t := by
  rintro ⟨j, hj, -⟩
  omega

/-- The tags are those above line `i`. -/
def Pending (lines : List (List Char)) (i : Nat) (tags : TagSet) : Prop :=
  ∀ t, t ∈ tags ↔ TagAbove lines i t

namespace Pending

variable {tags : TagSet}

theorem unique {tags' : TagSet} (h : Pending lines i tags) (h' : Pending lines i tags')
    : tags = tags' := by
  ext t
  rw [h t, h' t]

theorem zero : Pending lines 0 ∅ := by
  intro t
  simp [not_tagAbove_zero]

theorem skip (h : Pending lines i tags) (hline : lines[i]? = some line) (hskip : IsSkip line)
    : Pending lines (i + 1) tags := by
  intro t
  rw [tagAbove_succ_iff hline, h t]
  have htags : ¬ IsTagLine line := fun htags => htags.not_isSkip hskip
  simp [hskip, htags]

theorem insertAll {ts : List String} (h : Pending lines i tags) (hline : lines[i]? = some line)
    (htags : IsTagLine line) (hts : ∀ t, t ∈ ts ↔ HasTag line t)
    : Pending lines (i + 1) (tags.insertAll ts) := by
  intro t
  rw [tagAbove_succ_iff hline, TagSet.mem_insertAll, h t, hts t]
  simp [htags, or_comm]

theorem empty (hline : lines[i]? = some line) (hskip : ¬ IsSkip line) (htags : ¬ IsTagLine line)
    : Pending lines (i + 1) ∅ := by
  intro t
  rw [tagAbove_succ_iff hline]
  simp [hskip, htags]

end Pending

namespace ScenarioLines

variable {start : Nat} {indices : List Nat}

theorem unique {indices' : List Nat} (h : ScenarioLines lines start indices)
    (h' : ScenarioLines lines start indices')
    : indices = indices' := by
  apply h.ascending.eq_of_mem_iff h'.ascending
  intro i
  rw [h.mem_iff, h'.mem_iff]

theorem nil (h : lines.length ≤ start) : ScenarioLines lines start [] where
  ascending := .nil
  mem_iff i := by
    simp only [List.not_mem_nil, false_iff, not_and]
    rintro hi ⟨line, kind, rest, hline, -⟩
    obtain ⟨hlt, -⟩ := List.getElem?_eq_some_iff.1 hline
    omega

theorem pass (h : ScenarioLines lines (start + 1) indices) (hstart : ¬ ScenarioAt lines start)
    : ScenarioLines lines start indices where
  ascending := h.ascending
  mem_iff i := by
    rw [h.mem_iff]
    constructor
    . rintro ⟨hi, hscenario⟩
      exact ⟨by omega, hscenario⟩
    . rintro ⟨hi, hscenario⟩
      have hne : i ≠ start := by
        rintro rfl
        exact hstart hscenario
      exact ⟨by omega, hscenario⟩

theorem cons (h : ScenarioLines lines (start + 1) indices) (hstart : ScenarioAt lines start)
    : ScenarioLines lines start (start :: indices) where
  ascending := by
    rw [List.pairwise_cons]
    refine ⟨?_, h.ascending⟩
    intro i hi
    exact ((h.mem_iff i).1 hi).1
  mem_iff i := by
    rw [List.mem_cons, h.mem_iff]
    constructor
    . rintro (rfl | ⟨hi, hscenario⟩)
      . exact ⟨Nat.le_refl _, hstart⟩
      . exact ⟨by omega, hscenario⟩
    . rintro ⟨hi, hscenario⟩
      by_cases heq : i = start
      . exact .inl heq
      . exact .inr ⟨by omega, hscenario⟩

theorem not_scenarioAt (h : ScenarioLines lines 0 []) (i : Nat) : ¬ ScenarioAt lines i := by
  intro hat
  simpa using (h.mem_iff i).2 ⟨Nat.zero_le i, hat⟩

theorem exists_scenarioAt (h : ScenarioLines lines start indices) (hne : indices ≠ [])
    : ∃ i, ScenarioAt lines i := by
  obtain ⟨i, hi⟩ := List.exists_mem_of_ne_nil indices hne
  exact ⟨i, ((h.mem_iff i).1 hi).2⟩

end ScenarioLines

def Opens (lines : List (List Char)) (i : Nat) (o : Opening) : Prop :=
  ∀ next, Covers lines i next (o.closeAt (.ofNat (next - 1)))

theorem opens_of_isScenario {kind : SectionKind} {title : List Char} {tags : TagSet}
    (hline : lines[i]? = some line) (h : IsScenario line kind title) (hpending : Pending lines i tags)
    : Opens lines i ⟨.ofNat i, tags, String.ofList (trimChars title), kind⟩ := by
  intro next
  exact ⟨rfl, rfl, ⟨line, title, hline, h, rfl⟩, hpending⟩

theorem of_drop_eq_cons {start : Nat} (h : lines.drop start = line :: rest)
    : lines[start]? = some line ∧ lines.drop (start + 1) = rest := by
  refine ⟨?_, ?_⟩
  . rw [← List.head?_drop, h]
    rfl
  . rw [← List.tail_drop, h]
    rfl

/-- Reading the lines from `start` on, with the tags above them pending, opens their scenarios. -/
theorem exists_scenarioLines_opens {start : Nat} {pending : TagSet} {said : List FeatureLine}
    (hrest : lines.drop start = rest) (hsaid : List.Forall₂ Says rest said)
    (hpending : Pending lines start pending)
    : ∃ indices, ScenarioLines lines start indices
        ∧ List.Forall₂ (Opens lines) indices (Opening.ofLines pending start said) := by
  -- Every line leaves the tags above the line below it pending; only scenario lines open something.
  induction hsaid generalizing start pending with
  | nil => exact ⟨[], .nil (List.drop_eq_nil_iff.1 hrest), .nil⟩
  | @cons line said rest saids hsays _ ih =>
    obtain ⟨hline, hnext⟩ := of_drop_eq_cons hrest
    have hat : ScenarioAt lines start ↔ ∃ kind title, IsScenario line kind title := by
      simp [ScenarioAt, hline]
    cases hsays with
    | skip hskip =>
      obtain ⟨indices, hindices, hopens⟩ := ih hnext (hpending.skip hline hskip)
      refine ⟨indices, hindices.pass ?_, hopens⟩
      rw [hat]
      rintro ⟨kind, title, h⟩
      exact h.not_isSkip hskip
    | tags htags hts =>
      obtain ⟨indices, hindices, hopens⟩ := ih hnext (hpending.insertAll hline htags hts)
      refine ⟨indices, hindices.pass ?_, hopens⟩
      rw [hat]
      rintro ⟨kind, title, h⟩
      exact h.not_isTagLine htags
    | @scenario kind title h =>
      obtain ⟨indices, hindices, hopens⟩ := ih hnext (.empty hline h.not_isSkip h.not_isTagLine)
      exact ⟨start :: indices, hindices.cons (hat.2 ⟨kind, title, h⟩),
        .cons (opens_of_isScenario hline h hpending) hopens⟩
    | feature h =>
      obtain ⟨indices, hindices, hopens⟩ := ih hnext (.empty hline h.not_isSkip h.not_isTagLine)
      refine ⟨indices, hindices.pass ?_, hopens⟩
      rw [hat]
      rintro ⟨kind, title, hscenario⟩
      exact h.not_isScenario hscenario
    | body hskip htags hscenario _ =>
      obtain ⟨indices, hindices, hopens⟩ := ih hnext (.empty hline hskip htags)
      refine ⟨indices, hindices.pass ?_, hopens⟩
      rw [hat]
      rintro ⟨kind, title, h⟩
      exact hscenario kind title h

theorem forall₂_covers_closeAll {indices : List Nat} {openings : List Opening}
    (hopens : List.Forall₂ (Opens lines) indices openings) (hindices : indices.Pairwise (· < ·))
    : List.Forall₂ (fun (i, next) => Covers lines i next)
        (indices.zip (indices.tail ++ [lines.length]))
        (Opening.closeAll (.ofNat (lines.length - 1)) openings) := by
  induction hopens with
  | nil => exact .nil
  | @cons i o indices openings ho hos ih =>
    rw [List.pairwise_cons] at hindices
    cases hos with
    | nil => exact .cons (ho lines.length) .nil
    | @cons next p indices openings hp hos =>
      have hlt : i < next := hindices.1 next (by simp)
      have hend : p.line - 1 = .ofNat (next - 1) := by
        have hline : p.line = .ofNat next := (hp 0).startLine
        rw [hline, UInt32.ofNat_sub (by omega)]
        rfl
      refine .cons ?_ (ih hindices.2)
      rw [hend]
      exact ho next

theorem titled_header {start : Nat} {pending : TagSet} {said : List FeatureLine}
    (hrest : lines.drop start = rest) (hsaid : List.Forall₂ Says rest said)
    (hpending : Pending lines start pending) (hbefore : ∀ i < start, ¬ HeaderAt lines i)
    : Titled lines (Section.header pending said).1 (Section.header pending said).2 := by
  induction hsaid generalizing start pending with
  | nil =>
    apply Titled.untitled
    rintro i ⟨line, title, hline, h⟩
    obtain ⟨hlt, -⟩ := List.getElem?_eq_some_iff.1 hline
    rw [List.drop_eq_nil_iff] at hrest
    exact hbefore i (by omega) ⟨line, title, hline, h⟩
  | @cons line said rest saids hsays _ ih =>
    obtain ⟨hline, hnext⟩ := of_drop_eq_cons hrest
    -- A line that is no header itself hands the search on to the lines below it.
    have hafter (hnone : ∀ title, ¬ IsHeader line title)
        : ∀ i < start + 1, ¬ HeaderAt lines i := by
      intro i hi hat
      by_cases heq : i = start
      . subst heq
        obtain ⟨line', title, hline', h⟩ := hat
        obtain rfl : line = line' := by
          simpa [hline] using hline'
        exact hnone title h
      . exact hbefore i (by omega) hat
    cases hsays with
    | skip hskip =>
      exact ih hnext (hpending.skip hline hskip) (hafter fun _ h => h.not_isSkip hskip)
    | tags htags hts =>
      exact ih hnext (hpending.insertAll hline htags hts) (hafter fun _ h => h.not_isTagLine htags)
    | scenario hscenario =>
      exact ih hnext (.empty hline hscenario.not_isSkip hscenario.not_isTagLine)
        (hafter fun _ h => h.not_isScenario hscenario)
    | feature h => exact .header hline h hbefore hpending
    | body hskip htags _ hheader => exact ih hnext (.empty hline hskip htags) (hafter hheader)

theorem map_ofChars_trimmedLines (text : String)
    : (trimmedLines text).map ofChars = (lineChars text.toList).map ofChars := by
  rw [trimmedLines, List.map_map, List.map_inj_left]
  intro line hline
  exact ofChars_trimChars (not_mem_of_mem_lineChars hline)

theorem forall₂_says_trimmedLines (text : String)
    : List.Forall₂ Says (trimmedLines text) ((lineChars text.toList).map ofChars) := by
  rw [trimmedLines, List.forall₂_map_left_iff, List.forall₂_map_right_iff, List.forall₂_same]
  intro line hline
  exact says_ofChars (not_mem_of_mem_lineChars hline)

theorem reading_ofText (text : String) : Reading text (Section.ofText text) := by
  unfold Section.ofText
  split
  . next hempty => exact .empty (String.isEmpty_iff.1 hempty)
  . next hempty =>
    have hne : text ≠ "" := fun h => hempty (String.isEmpty_iff.2 h)
    have hdrop : (trimmedLines text).drop 0 = trimmedLines text := List.drop_zero
    have hsaid := forall₂_says_trimmedLines text
    obtain ⟨indices, hindices, hopens⟩ := exists_scenarioLines_opens hdrop hsaid .zero
    rw [Section.ofLines, ← hsaid.length_eq]
    split
    . next hnone =>
      obtain rfl : indices = [] := by
        simpa [hnone] using hopens
      refine .wholeFile hne ?_ rfl rfl ?_ (titled_header hdrop hsaid .zero (by omega))
      . exact hindices.not_scenarioAt
      . simp [Section.wholeFile]
    . next hsome =>
      refine .scenarios ?_ hindices ?_
      . rintro rfl
        exact hsome (List.forall₂_nil_left_iff.1 hopens)
      . exact forall₂_covers_closeAll hopens hindices.ascending

theorem Covers.unique {next : Nat} {s s' : Section} (h : Covers lines i next s)
    (h' : Covers lines i next s')
    : s = s' := by
  obtain ⟨line, title, hline, hscenario, htitle⟩ := h.opened
  obtain ⟨line', title', hline', hscenario', htitle'⟩ := h'.opened
  obtain rfl : line = line' := by
    simpa [hline] using hline'
  obtain ⟨hkind, rfl⟩ := hscenario.unique hscenario'
  rcases s with ⟨startLine, endLine, tags, title, kind⟩
  rcases s' with ⟨startLine', endLine', tags', title', kind'⟩
  simp only [Section.mk.injEq]
  exact ⟨h.startLine.trans h'.startLine.symm, h.endLine.trans h'.endLine.symm,
    Pending.unique h.tags h'.tags, htitle.trans htitle'.symm, hkind⟩

theorem Titled.unique {title title' : String} {tags tags' : TagSet} (h : Titled lines title tags)
    (h' : Titled lines title' tags')
    : title = title' ∧ tags = tags' := by
  cases h with
  | @header i line rest _ hline hheader hfirst htags =>
    cases h' with
    | @header i' line' rest' _ hline' hheader' hfirst' htags' =>
      have hle : i ≤ i' := by
        by_contra hlt
        exact hfirst i' (by omega) ⟨line', rest', hline', hheader'⟩
      have hge : i' ≤ i := by
        by_contra hlt
        exact hfirst' i (by omega) ⟨line, rest, hline, hheader⟩
      obtain rfl : i = i' := Nat.le_antisymm hle hge
      obtain rfl : line = line' := by
        simpa [hline] using hline'
      obtain rfl : rest = rest' := List.append_cancel_left (hheader.symm.trans hheader')
      exact ⟨rfl, Pending.unique htags htags'⟩
    | untitled hnone => exact absurd ⟨line, rest, hline, hheader⟩ (hnone i)
  | untitled hnone =>
    cases h' with
    | @header i line rest _ hline hheader => exact absurd ⟨line, rest, hline, hheader⟩ (hnone i)
    | untitled => exact ⟨rfl, rfl⟩

namespace Reading

variable {text : String} {sections sections' : List Section}

theorem not_scenarioAt_of_eq_empty (h : text = "") (i : Nat)
    : ¬ ScenarioAt (trimmedLines text) i := by
  subst h
  rintro ⟨line, kind, title, hline, -⟩
  simp [trimmedLines] at hline

theorem unique (h : Reading text sections) (h' : Reading text sections')
    : sections = sections' := by
  -- Which of the three it is depends on the text alone: on whether it is empty or has a scenario.
  cases h with
  | empty htext =>
    cases h' with
    | empty _ => rfl
    | wholeFile hne => exact absurd htext hne
    | scenarios hne hindices _ =>
      obtain ⟨i, hat⟩ := hindices.exists_scenarioAt hne
      exact absurd hat (not_scenarioAt_of_eq_empty htext i)
  | @wholeFile s hne hnone hkind hstart hend htitled =>
    cases h' with
    | empty htext => exact absurd htext hne
    | @wholeFile s' _ _ hkind' hstart' hend' htitled' =>
      obtain ⟨htitle, htags⟩ := htitled.unique htitled'
      rcases s with ⟨startLine, endLine, tags, title, kind⟩
      rcases s' with ⟨startLine', endLine', tags', title', kind'⟩
      simp only [List.cons.injEq, Section.mk.injEq, and_true]
      exact ⟨hstart.trans hstart'.symm, hend.trans hend'.symm, htags, htitle,
        hkind.trans hkind'.symm⟩
    | scenarios hne hindices _ =>
      obtain ⟨i, hat⟩ := hindices.exists_scenarioAt hne
      exact absurd hat (hnone i)
  | @scenarios indices _ hne hindices hcovers =>
    obtain ⟨i, hat⟩ := hindices.exists_scenarioAt hne
    cases h' with
    | empty htext => exact absurd hat (not_scenarioAt_of_eq_empty htext i)
    | wholeFile _ hnone => exact absurd hat (hnone i)
    | @scenarios indices' _ hne' hindices' hcovers' =>
      obtain rfl : indices = indices' := hindices.unique hindices'
      have hunique : Relator.RightUnique
          fun (line : Nat × Nat) => Covers (trimmedLines text) line.1 line.2 := by
        intro line s s' hs hs'
        exact hs.unique hs'
      exact hunique.forall₂ hcovers hcovers'

end Reading

/-- The sections of a text are those of its declarative reading. -/
theorem ofText_eq_iff (text : String) (sections : List Section)
    : Section.ofText text = sections ↔ Reading text sections := by
  constructor
  . rintro rfl
    exact reading_ofText text
  . intro h
    exact (reading_ofText text).unique h

example
    : (Section.ofText "@a # @b\n\n@c\nExample: s\nScenario:").map
          (fun s => (s.startLine, s.endLine, s.tags.toList, s.title))
        =
      [(3, 3, ["@a", "@c"], "s"), (4, 4, [], "")] := by
  decide +kernel

end FeatureRunner
