import FeatureRunner.Cli.Prompt
import FeatureRunner.Proofs.Text.Trimming

/-!
This module contains what a series of questions over one input comes to. `Cut` says what the lines
of an input are and `Answered` what a line is taken for. A question takes the first line and leaves
the others (`Cut.takeLine_eq`), so in a series every question is answered from the line at its own
place, whatever was asked before it and however that was answered.
-/

namespace FeatureRunner
namespace Prompt

open FeatureRunner.Text

/-- The lines of an input. Each one ends with its only line feed; the last one may have none. -/
inductive Cut : List UInt8 → List (List UInt8) → Prop where
  | nil : Cut [] []
  | last {line} (hne : line ≠ []) (hfeed : 10 ∉ line) : Cut line [line]
  | line {body rest lines} (hfeed : 10 ∉ body) (hrest : Cut rest lines)
      : Cut (body ++ 10 :: rest) ((body ++ [10]) :: lines)

/--
What a line is taken for; there is none at the end of the input. A line that is no UTF-8 cancels the
question, as the end of the input does.
-/
inductive Answered (default : String) : Option (List UInt8) → Option String → Prop where
  | exhausted : Answered default none none
  | garbled {line} (h : ∀ text : String, text.toUTF8.data.toList ≠ line)
      : Answered default (some line) none
  | blank {line} {text : String} (htext : text.toUTF8.data.toList = line)
      (hblank : ∀ c ∈ text.toList, isBlank c = true)
      : Answered default (some line) (some default)
  | said {line} {text answer : String} (htext : text.toUTF8.data.toList = line) (hne : answer ≠ "")
      (htight : IsTight answer.toList) (hlies : LiesInBlanks answer.toList text.toList)
      : Answered default (some line) (some answer)

/-- Asks one question after the other. -/
def askAll (input : List UInt8) : List String → List (Option String) × List UInt8
  | [] => ([], input)
  | default :: defaults =>
    let (answer, rest) := ask input default
    let (answers, rest) := askAll rest defaults
    (answer :: answers, rest)

variable {input rest line body : List UInt8} {lines lines' : List (List UInt8)}
variable {default : String} {answer : Option String}

section Lines

theorem takeLine_of_not_mem (h : 10 ∉ line) : takeLine line = (line, []) := by
  have hkept : line.dropWhile (· != 10) = [] := by
    rw [List.dropWhile_eq_nil_iff]
    intro byte hbyte
    simpa using ne_of_mem_of_not_mem hbyte h
  rw [takeLine, hkept]

theorem takeLine_append (h : 10 ∉ body) : takeLine (body ++ 10 :: rest) = (body ++ [10], rest) := by
  have hkept : ∀ byte ∈ body, (byte != 10) = true := by
    intro byte hbyte
    simpa using ne_of_mem_of_not_mem hbyte h
  rw [takeLine, List.dropWhile_append_of_pos hkept, List.takeWhile_append_of_pos hkept]
  simp

namespace Cut

theorem flatten (h : Cut input lines) : lines.flatten = input := by
  induction h with
  | nil => rfl
  | last hne hfeed => simp
  | line hfeed hrest ih => simp [ih]

theorem ne_nil (h : Cut input lines) : ∀ line ∈ lines, line ≠ [] := by
  induction h with
  | nil => simp
  | last hne hfeed => simpa using hne
  | line hfeed hrest ih => simpa using ih

theorem tail (h : Cut input lines) : Cut lines.tail.flatten lines.tail := by
  cases h with
  | nil => exact .nil
  | last hne hfeed => exact .nil
  | line hfeed hrest => simpa [hrest.flatten] using hrest

theorem takeLine_eq (h : Cut input lines)
    : takeLine input = (lines.head?.getD [], lines.tail.flatten) := by
  cases h with
  | nil => rfl
  | last hne hfeed => simp [takeLine_of_not_mem hfeed]
  | line hfeed hrest => simp [takeLine_append hfeed, hrest.flatten]

theorem eq_nil (h : Cut [] lines) : lines = [] := by
  -- A first line would be a part of the input, and lines are not empty.
  cases lines with
  | nil => rfl
  | cons line lines =>
    have hflatten := h.flatten
    simp only [List.flatten_cons, List.append_eq_nil_iff] at hflatten
    exact absurd hflatten.1 (h.ne_nil line List.mem_cons_self)

theorem exists_cons (h : Cut input lines) (hne : input ≠ [])
    : ∃ later, lines = (takeLine input).1 :: later ∧ Cut (takeLine input).2 later := by
  cases h with
  | nil => exact absurd rfl hne
  | last hne hfeed => simpa [takeLine_of_not_mem hfeed] using Cut.nil
  | line hfeed hrest => simpa [takeLine_append hfeed] using hrest

theorem unique (h : Cut input lines) (h' : Cut input lines') : lines' = lines := by
  induction h generalizing lines' with
  | nil => exact h'.eq_nil
  | last hne hfeed =>
    obtain ⟨later, rfl, hlater⟩ := h'.exists_cons hne
    rw [takeLine_of_not_mem hfeed] at hlater ⊢
    rw [hlater.eq_nil]
  | line hfeed hrest ih =>
    obtain ⟨later, rfl, hlater⟩ := h'.exists_cons (by simp)
    rw [takeLine_append hfeed] at hlater ⊢
    rw [ih hlater]

end Cut

theorem exists_cut (input : List UInt8) : ∃ lines, Cut input lines := by
  induction input with
  | nil => exact ⟨[], .nil⟩
  | cons byte input ih =>
    obtain ⟨lines, h⟩ := ih
    by_cases hbyte : byte = 10
    . subst hbyte
      have hline : Cut ([] ++ 10 :: input) (([] ++ [10]) :: lines) := .line List.not_mem_nil h
      exact ⟨_, hline⟩
    . -- The byte goes to the front of the first line, which is a new one at the end of the input.
      have hcons {body : List UInt8} (hfeed : 10 ∉ body) : 10 ∉ byte :: body := by
        simp [hfeed, Ne.symm hbyte]
      cases h with
      | nil => exact ⟨_, .last (List.cons_ne_nil byte []) (hcons List.not_mem_nil)⟩
      | last hne hfeed => exact ⟨_, .last (List.cons_ne_nil byte input) (hcons hfeed)⟩
      | line hfeed hrest => exact ⟨_, .line (hcons hfeed) hrest⟩

end Lines

section Answers

theorem decode?_eq_some_iff {text : String}
    : decode? line = some text ↔ text.toUTF8.data.toList = line := by
  constructor
  . intro h
    unfold decode? String.fromUTF8? at h
    split at h
    . obtain rfl := Option.some.inj h
      rfl
    . cases h
  . rintro rfl
    simp only [decode?, Array.toArray_toList, String.fromUTF8?, String.toUTF8_eq_toByteArray,
      dif_pos text.isValidUTF8]
    rfl

theorem decode?_eq_none_iff
    : decode? line = none ↔ ∀ text : String, text.toUTF8.data.toList ≠ line := by
  simp only [Option.eq_none_iff_forall_ne_some, ne_eq, decode?_eq_some_iff]

theorem answered_answerOf (hne : line ≠ [])
    : Answered default (some line) (answerOf line default) := by
  rw [answerOf, if_neg (by simpa using hne)]
  cases hdecode : decode? line with
  | none => exact .garbled (decode?_eq_none_iff.1 hdecode)
  | some text =>
    have htext := decode?_eq_some_iff.1 hdecode
    simp only [Option.map_some]
    split
    . next hempty => exact .blank htext (isEmpty_trim_iff.1 hempty)
    . next hempty =>
      obtain ⟨htight, hlies⟩ := trim_eq_iff.1 (rfl : trim text = trim text)
      exact .said htext (by simpa using hempty) htight hlies

theorem Answered.answerOf_eq (h : Answered default (some line) answer) (hne : line ≠ [])
    : answerOf line default = answer := by
  rw [answerOf, if_neg (by simpa using hne)]
  cases h with
  | garbled hnone => rw [decode?_eq_none_iff.2 hnone, Option.map_none]
  | blank htext hblank =>
    simp only [decode?_eq_some_iff.2 htext, Option.map_some, if_pos (isEmpty_trim_iff.2 hblank)]
  | said htext hsaid htight hlies =>
    simp [decode?_eq_some_iff.2 htext, trim_eq_iff.2 ⟨htight, hlies⟩, hsaid]

end Answers

section Series

theorem ask_rest (h : Cut input lines) (default : String)
    : (ask input default).2 = lines.tail.flatten := by
  rw [ask, h.takeLine_eq]

theorem ask_answer_iff (h : Cut input lines)
    : (ask input default).1 = answer ↔ Answered default lines.head? answer := by
  rw [ask, h.takeLine_eq]
  cases lines with
  | nil =>
    constructor
    . rintro rfl
      exact .exhausted
    . intro hanswered
      cases hanswered
      rfl
  | cons line lines =>
    have hne := h.ne_nil line List.mem_cons_self
    constructor
    . rintro rfl
      exact answered_answerOf hne
    . intro hanswered
      exact hanswered.answerOf_eq hne

theorem askAll_cons (input : List UInt8) (default : String) (defaults : List String)
    : askAll input (default :: defaults)
      = ((ask input default).1 :: (askAll (ask input default).2 defaults).1,
        (askAll (ask input default).2 defaults).2) := rfl

theorem askAll_length (input : List UInt8) (defaults : List String)
    : (askAll input defaults).1.length = defaults.length := by
  induction defaults generalizing input with
  | nil => rfl
  | cons default defaults ih => simp [askAll_cons, ih]

theorem askAll_rest (h : Cut input lines) (defaults : List String)
    : (askAll input defaults).2 = (lines.drop defaults.length).flatten := by
  induction defaults generalizing input lines with
  | nil => exact h.flatten.symm
  | cons default defaults ih =>
    rw [askAll_cons, ask_rest h, ih h.tail, List.length_cons, ← List.drop_one, List.drop_drop,
      Nat.add_comm]

theorem askAll_answer_iff {defaults : List String} {k : Nat} (h : Cut input lines)
    (hdefault : defaults[k]? = some default)
    : (askAll input defaults).1[k]? = some answer ↔ Answered default lines[k]? answer := by
  induction defaults generalizing input lines k with
  | nil => cases hdefault
  | cons first defaults ih =>
    rw [askAll_cons, ask_rest h]
    cases k with
    | zero =>
      obtain rfl := Option.some.inj hdefault
      simpa [List.head?_eq_getElem?] using ask_answer_iff h
    | succ k => simpa using ih h.tail hdefault

/--
Every input has its lines and every question of a series takes the line at its own place, or nothing
when there are no more: what is left to read after it lacks that line, and it is answered from that
line and its own default.
-/
theorem askAll_lineByLine (input : List UInt8) (defaults : List String)
    : ∃ lines, Cut input lines ∧ (∀ other, Cut input other → other = lines)
      ∧ (askAll input defaults).1.length = defaults.length
      ∧ ∀ k default, defaults[k]? = some default →
        (askAll input (defaults.take k)).2
            = lines[k]?.getD [] ++ (askAll input (defaults.take (k + 1))).2
          ∧ ∀ answer, (askAll input defaults).1[k]? = some answer
            ↔ Answered default lines[k]? answer := by
  obtain ⟨lines, h⟩ := exists_cut input
  refine ⟨lines, h, fun _ hother => h.unique hother, askAll_length input defaults, ?_⟩
  intro k default hdefault
  refine ⟨?_, fun answer => askAll_answer_iff h hdefault⟩
  obtain ⟨hk, -⟩ := List.getElem?_eq_some_iff.1 hdefault
  rw [askAll_rest h, askAll_rest h, List.length_take_of_le hk.le, List.length_take_of_le hk]
  by_cases hline : k < lines.length
  . rw [List.drop_eq_getElem_cons hline, List.flatten_cons, List.getElem?_eq_getElem hline,
      Option.getD_some]
  . have hnone : lines.length ≤ k := by omega
    simp [List.drop_of_length_le, hnone, Nat.le_succ_of_le hnone]

-- The lines are a name, one that is no UTF-8, a blank one and a last one without a line feed.
example : askAll [97, 98, 10, 255, 10, 13, 10, 32, 99] ["d", "e", "f", "g", "h"]
    = ([some "ab", none, some "f", some "c", none], []) := by decide

end Series

end Prompt
end FeatureRunner
