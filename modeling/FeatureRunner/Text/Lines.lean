/-!
This module contains the lines of a text. A line feed ends a line and a carriage return right
before it belongs to the line ending; text after the last line feed is a line of its own.
-/

namespace FeatureRunner.Text

namespace lineChars

def close : List Char → List Char
  | '\r' :: cs => cs.reverse
  | cs => cs.reverse

/-- The lines of `cs` when `line` is what was read of the first one, backwards. -/
def go (line : List Char) : List Char → List (List Char)
  | [] => if line.isEmpty then [] else [line.reverse]
  | c :: cs => if c = '\n' then close line :: go [] cs else go (c :: line) cs

end lineChars

def lineChars (cs : List Char) : List (List Char) :=
  lineChars.go [] cs

@[simp]
theorem lineChars_nil : lineChars [] = [] := rfl

theorem lineChars.go_ne_nil {line cs : List Char} (h : line ≠ [] ∨ cs ≠ [])
    : lineChars.go line cs ≠ [] := by
  fun_induction lineChars.go line cs with
  | case1 => simp_all
  | case2 => simp_all
  | case3 => simp
  | case4 line c cs hc ih => exact ih (by simp)

theorem lineChars_eq_nil_iff {cs : List Char} : lineChars cs = [] ↔ cs = [] := by
  constructor
  . intro h
    rcases Classical.em (cs = []) with hc | hc
    . exact hc
    . exact absurd h (lineChars.go_ne_nil (.inr hc))
  . rintro rfl; rfl

theorem lineChars.mem_of_mem_close {line : List Char} {c : Char} (h : c ∈ close line)
    : c ∈ line := by
  unfold close at h
  split at h <;> simp_all

theorem lineChars.not_mem_of_mem_go {line cs l : List Char} (hline : '\n' ∉ line)
    (h : l ∈ go line cs)
    : '\n' ∉ l := by
  fun_induction go line cs with
  | case1 => cases h
  | case2 line hempty =>
    obtain rfl := List.mem_singleton.1 h
    simpa using hline
  | case3 line cs ih =>
    rcases List.mem_cons.1 h with rfl | h
    . exact fun hmem => hline (mem_of_mem_close hmem)
    . exact ih List.not_mem_nil h
  | case4 line c cs hc ih =>
    refine ih ?_ h
    simp [hline, Ne.symm hc]

theorem not_mem_of_mem_lineChars {cs line : List Char} (h : line ∈ lineChars cs) : '\n' ∉ line :=
  lineChars.not_mem_of_mem_go List.not_mem_nil h

end FeatureRunner.Text
