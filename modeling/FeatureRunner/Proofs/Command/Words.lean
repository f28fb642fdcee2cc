import FeatureRunner.Command.Parts
import FeatureRunner.Text.Segments
import Mathlib.Data.List.Induction

/-!
This module contains the words of a command line: blanks separate them, a double quote turns quoting
on or off, and no other character is special. A text whose quotes are balanced can be cut off at any
blank behind it (`wordChars_append_blank`), so `joinParts` keeps the words of its parts
(`words_joinParts`). `Reads` says which words such a text has: a text in quotes is one word together
with what is written right in front of it (`reads_quoted`).
-/

namespace FeatureRunner.Command

open FeatureRunner.Text

structure Splitting where
  /-- The words that have ended. -/
  ended : List (List Char) := []
  /-- The word that has begun. -/
  word? : Option (List Char) := none
  isQuoted : Bool := false

namespace Splitting

def read (s : Splitting) (c : Char) : Splitting :=
  if c = '"' then
    { s with word? := some (s.word?.getD []), isQuoted := !s.isQuoted }
  else if isBlank c && !s.isQuoted then
    { s with ended := s.ended ++ s.word?.toList, word? := none }
  else
    { s with word? := some (s.word?.getD [] ++ [c]) }

def readAll (s : Splitting) (cs : List Char) : Splitting :=
  cs.foldl read s

def words (s : Splitting) : List (List Char) :=
  s.ended ++ s.word?.toList

end Splitting

def wordChars (cs : List Char) : List (List Char) :=
  (Splitting.readAll {} cs).words

def words (s : String) : List String :=
  (wordChars s.toList).map String.ofList

def IsBalanced (s : String) : Prop :=
  s.toList.count '"' % 2 = 0

def HasNoQuote (s : String) : Prop :=
  '"' ∉ s.toList

def IsPlain (s : String) : Prop :=
  HasNoQuote s ∧ ∀ c ∈ s.toList, isBlank c = false

instance (s : String) : Decidable (IsBalanced s) :=
  inferInstanceAs (Decidable (_ = _))

instance (s : String) : Decidable (HasNoQuote s) :=
  inferInstanceAs (Decidable (¬ _))

-- The characters of the text are looked at, never all characters that there are.
instance (s : String) : Decidable (IsPlain s) :=
  @instDecidableAnd _ _ inferInstance (List.decidableBAll _ _)

theorem HasNoQuote.append {a b : String} (ha : HasNoQuote a) (hb : HasNoQuote b)
    : HasNoQuote (a ++ b) := by
  simpa [HasNoQuote] using ⟨ha, hb⟩

theorem HasNoQuote.isBalanced {s : String} (h : HasNoQuote s)
    : IsBalanced s := by
  rw [IsBalanced, List.count_eq_zero.2 h]

theorem IsBalanced.append {a b : String} (ha : IsBalanced a) (hb : IsBalanced b)
    : IsBalanced (a ++ b) := by
  unfold IsBalanced at *
  rw [String.toList_append, List.count_append]
  omega

theorem IsPlain.append {a b : String} (ha : IsPlain a) (hb : IsPlain b)
    : IsPlain (a ++ b) := by
  refine ⟨ha.1.append hb.1, fun c hc => ?_⟩
  rw [String.toList_append, List.mem_append] at hc
  exact hc.elim (ha.2 c) (hb.2 c)

theorem isBlank_quote : isBlank '"' = false := by
  decide

theorem ne_quote_of_isBlank {c : Char} (h : isBlank c = true) : c ≠ '"' := by
  rintro rfl
  simp [isBlank_quote] at h

namespace Splitting

theorem readAll_nil (s : Splitting)
    : s.readAll [] = s := by
  rfl

theorem readAll_cons (s : Splitting) (c : Char) (cs : List Char)
    : s.readAll (c :: cs) = (s.read c).readAll cs := by
  rfl

theorem readAll_append (s : Splitting) (as bs : List Char)
    : s.readAll (as ++ bs) = (s.readAll as).readAll bs := by
  exact List.foldl_append

theorem isQuoted_read (s : Splitting) (c : Char)
    : (s.read c).isQuoted = (s.isQuoted ^^ (c == '"')) := by
  unfold read
  split
  . next h => simp [h]
  . next h =>
    rw [beq_false_of_ne h, Bool.xor_false]
    split <;> rfl

theorem isQuoted_readAll (s : Splitting) (cs : List Char)
    : (s.readAll cs).isQuoted = (s.isQuoted ^^ (cs.count '"' % 2 == 1)) := by
  induction cs generalizing s with
  | nil => simp [readAll]
  | cons c cs ih =>
    rw [readAll_cons, ih, isQuoted_read, List.count_cons]
    have := Nat.mod_two_eq_zero_or_one (cs.count '"')
    cases hc : c == '"' with
    | false => simp
    | true => rcases this with h | h <;> simp [h, Nat.add_mod]

theorem readAll_ended (ended : List (List Char)) (s : Splitting) (cs : List Char)
    : readAll { s with ended := ended ++ s.ended } cs
        =
      { s.readAll cs with ended := ended ++ (s.readAll cs).ended } := by
  induction cs generalizing s with
  | nil => rfl
  | cons c cs ih =>
    have hread : read { s with ended := ended ++ s.ended } c
        = { s.read c with ended := ended ++ (s.read c).ended } := by
      unfold read
      split
      . rfl
      . split
        . simp
        . rfl
    rw [readAll_cons, readAll_cons, hread, ih]

theorem readAll_of_inert (s : Splitting) {cs : List Char}
    (h : ∀ c ∈ cs, c ≠ '"' ∧ (isBlank c && !s.isQuoted) = false)
    : s.readAll cs
        =
      { s with word? := if cs = [] then s.word? else some (s.word?.getD [] ++ cs) } := by
  induction cs generalizing s with
  | nil => rfl
  | cons c cs ih =>
    obtain ⟨⟨hquote, hblank⟩, hrest⟩ := List.forall_mem_cons.1 h
    have hread : s.read c = { s with word? := some (s.word?.getD [] ++ [c]) } := by
      simp only [read, hquote, hblank, ↓reduceIte, Bool.false_eq_true]
    rw [readAll_cons, hread, ih { s with word? := some (s.word?.getD [] ++ [c]) } hrest]
    by_cases hnil : cs = [] <;> simp [hnil]

end Splitting

open Splitting

theorem wordChars_nil : wordChars [] = [] := by
  rfl

theorem wordChars_append_blank {as bs : List Char} {c : Char} (h : as.count '"' % 2 = 0)
    (hc : isBlank c = true)
    : wordChars (as ++ c :: bs) = wordChars as ++ wordChars bs := by
  have hquoted : (readAll {} as).isQuoted = false := by
    simp [isQuoted_readAll, h]
  have hread : (readAll {} as).read c = { ended := wordChars as ++ [] } := by
    unfold Splitting.read
    rw [if_neg (ne_quote_of_isBlank hc), if_pos (by simp [hc, hquoted]), hquoted, List.append_nil]
    rfl
  have hrest := readAll_ended (wordChars as) {} bs
  dsimp at hrest
  rw [wordChars, readAll_append, readAll_cons, hread, hrest, Splitting.words]
  simp [wordChars, Splitting.words]

theorem wordChars_cons_blank {c : Char} (hc : isBlank c = true) (cs : List Char)
    : wordChars (c :: cs) = wordChars cs := by
  exact @wordChars_append_blank [] cs c rfl hc

theorem wordChars_trimLeft (cs : List Char)
    : wordChars (trimLeft cs) = wordChars cs := by
  induction cs with
  | nil => rfl
  | cons c cs ih =>
    unfold trimLeft at *
    cases hc : isBlank c with
    | false => simp [hc]
    | true => simpa [hc, wordChars_cons_blank hc] using ih

theorem wordChars_trimRight {cs : List Char} (h : cs.count '"' % 2 = 0)
    : wordChars (trimRight cs) = wordChars cs := by
  induction cs using List.reverseRecOn with
  | nil => rfl
  | append_singleton cs c ih =>
    unfold trimRight at *
    cases hc : isBlank c with
    | false => simp [hc]
    | true =>
      rw [List.count_append, List.count_singleton, if_neg (by simpa using ne_quote_of_isBlank hc)]
        at h
      rw [wordChars_append_blank h hc, wordChars_nil, List.append_nil, ← ih h]
      simp [hc]

theorem count_trimLeft (cs : List Char)
    : (trimLeft cs).count '"' = cs.count '"' := by
  induction cs with
  | nil => rfl
  | cons c cs ih =>
    unfold trimLeft at *
    cases hc : isBlank c with
    | false => simp [hc]
    | true => simpa [hc, List.count_cons, ne_quote_of_isBlank hc] using ih

theorem count_trimRight (cs : List Char)
    : (trimRight cs).count '"' = cs.count '"' := by
  have h := count_trimLeft cs.reverse
  rwa [trimLeft, ← List.count_reverse, List.count_reverse (l := cs)] at h

theorem wordChars_trimChars {cs : List Char} (h : cs.count '"' % 2 = 0)
    : wordChars (trimChars cs) = wordChars cs := by
  rw [trimChars, wordChars_trimRight, wordChars_trimLeft]
  rwa [count_trimLeft]

theorem wordChars_joinWith {css : List (List Char)} (h : ∀ cs ∈ css, cs.count '"' % 2 = 0)
    : wordChars (joinWith ' ' css) = css.flatMap wordChars := by
  induction css with
  | nil => rfl
  | cons cs css ih =>
    obtain ⟨hcs, hrest⟩ := List.forall_mem_cons.1 h
    cases css with
    | nil => simp [joinWith]
    | cons ds css =>
      rw [joinWith, wordChars_append_blank hcs (by decide), ih hrest]
      rfl

theorem count_trim (s : String)
    : (trim s).toList.count '"' = s.toList.count '"' := by
  rw [toList_trim, trimChars, count_trimRight, count_trimLeft]

theorem HasNoQuote.trim {s : String} (h : HasNoQuote s)
    : HasNoQuote (trim s) := by
  rwa [HasNoQuote, ← List.count_eq_zero, count_trim, List.count_eq_zero]

/-- The text has these words, wherever it stands between blanks. -/
structure Reads (s : String) (ws : List String) : Prop where
  balanced : IsBalanced s
  words : words s = ws

theorem reads_empty
    : Reads "" [] := by
  exact ⟨rfl, rfl⟩

theorem reads_trim {s : String} (h : IsBalanced s)
    : Reads (trim s) (words s) := by
  refine ⟨by rwa [IsBalanced, count_trim], ?_⟩
  rw [words, toList_trim, wordChars_trimChars h, words]

theorem reads_of_isPlain {s : String} (h : IsPlain s) (hne : s ≠ "")
    : Reads s [s] := by
  obtain ⟨hquote, hblank⟩ := h
  refine ⟨hquote.isBalanced, ?_⟩
  have hread := readAll_of_inert {} fun c hc =>
    ⟨ne_of_mem_of_not_mem hc hquote, by simp [hblank c hc]⟩
  simp [words, wordChars, hread, Splitting.words, hne]

theorem reads_quoted {a b : String} (ha : IsPlain a) (hb : HasNoQuote b)
    : Reads (a ++ ("\"" ++ b ++ "\"")) [a ++ b] := by
  obtain ⟨hquote, hblank⟩ := ha
  have hfront : (readAll {} a.toList).read '"' = { word? := some a.toList, isQuoted := true } := by
    rw [readAll_of_inert {} fun c hc => ⟨ne_of_mem_of_not_mem hc hquote, by simp [hblank c hc]⟩]
    by_cases ha : a.toList = [] <;> simp [Splitting.read, ha]
  have hbody : (readAll { word? := some a.toList, isQuoted := true } b.toList).read '"'
      = { word? := some (a.toList ++ b.toList) } := by
    rw [readAll_of_inert { word? := some a.toList, isQuoted := true } fun c hc =>
      ⟨ne_of_mem_of_not_mem hc hb, Bool.and_false _⟩]
    by_cases hb : b.toList = [] <;> simp [Splitting.read, hb]
  constructor
  . simp [IsBalanced, List.count_eq_zero.2 hquote, List.count_eq_zero.2 hb]
  . simp [words, wordChars, readAll_append, readAll_cons, readAll_nil, hfront, hbody,
      Splitting.words]

theorem Reads.append_space {a b : String} {as bs : List String} (ha : Reads a as) (hb : Reads b bs)
    : Reads (a ++ " " ++ b) (as ++ bs) := by
  have hspace : HasNoQuote " " := by decide
  have hblank : isBlank ' ' = true := by decide
  refine ⟨(ha.balanced.append hspace.isBalanced).append hb.balanced, ?_⟩
  rw [← ha.words, ← hb.words]
  simp [Command.words, wordChars_append_blank ha.balanced hblank]

theorem words_joinStrings {ss : List String} (h : ∀ s ∈ ss, IsBalanced s)
    : words (joinStrings ' ' ss) = ss.flatMap words := by
  unfold joinStrings words
  rw [String.toList_ofList, wordChars_joinWith]
  . rw [List.map_flatMap, List.flatMap_map]
  . exact List.forall_mem_map.2 h

/-- Trimming the parts and leaving out blank ones does not change the words. -/
theorem words_joinParts {parts : List String} (h : ∀ part ∈ parts, IsBalanced part)
    : words (joinParts parts) = parts.flatMap words := by
  unfold joinParts
  rw [words_joinStrings]
  . induction parts with
    | nil => rfl
    | cons part parts ih =>
      obtain ⟨hpart, hrest⟩ := List.forall_mem_cons.1 h
      rw [List.flatMap_cons, ← ih hrest, ← (reads_trim hpart).words, List.map_cons,
        List.filter_cons]
      split
      . rfl
      . next hempty =>
        have hempty : trim part = "" := by simpa using hempty
        rw [hempty]
        rfl
  . intro s hs
    obtain ⟨hs, -⟩ := List.mem_filter.1 hs
    obtain ⟨part, hpart, rfl⟩ := List.mem_map.1 hs
    exact (reads_trim (h part hpart)).balanced

end FeatureRunner.Command
