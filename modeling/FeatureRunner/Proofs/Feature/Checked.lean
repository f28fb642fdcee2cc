import FeatureRunner.Proofs.Feature.Ranges

/-!
This module contains the numbers of lines in checked arithmetic, where an operation whose result does
not have 32 bits gives nothing instead of wrapping around. `Section.ofText?` finds the sections of a
text in this way. The main statement is `Section.ofText?_eq_some`: the checks make no difference for
a text whose lines can be counted with 32 bits. The number in front of an opening is the critical
one: there is one because scenarios open in ascending order (`ascending_openings`).
-/

namespace FeatureRunner

open FeatureRunner.Text

namespace Checked

def narrow? (n : Nat) : Option UInt32 :=
  if n < UInt32.size then some (.ofNat n) else none

def add? (a b : UInt32) : Option UInt32 :=
  narrow? (a.toNat + b.toNat)

def sub? (a b : UInt32) : Option UInt32 :=
  if b.toNat ≤ a.toNat then narrow? (a.toNat - b.toNat) else none

variable {n : Nat} {a b c : UInt32}

theorem narrow?_eq_some_iff : narrow? n = some c ↔ c.toNat = n := by
  unfold narrow?
  split
  . next hn =>
    rw [Option.some.injEq, ← UInt32.toNat_inj, UInt32.toNat_ofNat_of_lt' hn]
    exact eq_comm
  . next hn =>
    have hc := c.toNat_lt_size
    simp only [reduceCtorEq, false_iff]
    omega

theorem add?_eq_some_iff : add? a b = some c ↔ c.toNat = a.toNat + b.toNat :=
  narrow?_eq_some_iff

theorem sub?_eq_some_iff : sub? a b = some c ↔ c.toNat + b.toNat = a.toNat := by
  unfold sub?
  split
  . rw [narrow?_eq_some_iff]
    omega
  . simp only [reduceCtorEq, false_iff]
    omega

theorem narrow?_eq_some (h : n < UInt32.size) : narrow? n = some (.ofNat n) :=
  if_pos h

theorem add?_eq_some (h : a.toNat + b.toNat < UInt32.size) : add? a b = some (a + b) := by
  rw [add?_eq_some_iff, UInt32.toNat_add, Nat.mod_eq_of_lt h]

theorem sub?_eq_some (h : b ≤ a) : sub? a b = some (a - b) := by
  rw [sub?_eq_some_iff, UInt32.toNat_sub_of_le _ _ h]
  rw [UInt32.le_iff_toNat_le] at h
  omega

theorem mapM_eq_some_map {α β : Type} {f : α → Option β} {g : α → β} {as : List α}
    (h : ∀ a ∈ as, f a = some (g a))
    : as.mapM f = some (as.map g) := by
  induction as with
  | nil => rfl
  | cons a as ih =>
    rw [List.forall_mem_cons] at h
    rw [List.mapM_cons, h.1, ih h.2]
    rfl

end Checked

open Checked

namespace Opening

def ofLines? (pending : TagSet) (index : Nat) : List FeatureLine → Option (List Opening)
  | [] => some []
  | .skip :: lines => ofLines? pending (index + 1) lines
  | .tags ts :: lines => ofLines? (pending.insertAll ts) (index + 1) lines
  | .scenario kind title :: lines => do
    let line ← narrow? index
    let openings ← ofLines? ∅ (index + 1) lines
    pure (⟨line, pending, title, kind⟩ :: openings)
  | .feature _ :: lines | .body :: lines => ofLines? ∅ (index + 1) lines

def closeAll? (lastLine : UInt32) : List Opening → Option (List Section)
  | [] => some []
  | [o] => some [o.closeAt lastLine]
  | o :: p :: os => do
    let endLine ← sub? p.line 1
    let sections ← closeAll? lastLine (p :: os)
    pure (o.closeAt endLine :: sections)

end Opening

namespace Section

def lineCount? (s : Section) : Option UInt32 := do
  let distance ← sub? s.endLine s.startLine
  add? distance 1

def displayLine? (s : Section) : Option UInt32 :=
  add? s.startLine 1

def ofLines? (lines : List FeatureLine) : Option (List Section) := do
  let lastLine ← narrow? (lines.length - 1)
  match ← Opening.ofLines? ∅ 0 lines with
  | [] => pure [wholeFile lastLine lines]
  | openings => Opening.closeAll? lastLine openings

def ofText? (text : String) : Option (List Section) :=
  if text.isEmpty then
    some []
  else
    ofLines? ((lineChars text.toList).map FeatureLine.ofChars)

end Section

namespace Opening

variable {pending : TagSet} {index : Nat} {lines : List FeatureLine} {openings : List Opening}
variable {o : Opening}

theorem ofLines?_eq_some (h : index + lines.length ≤ UInt32.size)
    : ofLines? pending index lines = some (ofLines pending index lines) := by
  fun_induction ofLines pending index lines with
  | case1 => rfl
  | case2 pending index lines ih =>
    rw [List.length_cons] at h
    rw [ofLines?, ih (by omega)]
  | case3 pending index ts lines ih =>
    rw [List.length_cons] at h
    rw [ofLines?, ih (by omega)]
  | case4 pending index kind title lines ih =>
    rw [List.length_cons] at h
    rw [ofLines?, narrow?_eq_some (by omega), ih (by omega)]
    rfl
  | case5 pending index title lines ih =>
    rw [List.length_cons] at h
    rw [ofLines?, ih (by omega)]
  | case6 pending index lines ih =>
    rw [List.length_cons] at h
    rw [ofLines?, ih (by omega)]

/-- A scenario that opens behind another one does not open at line zero. -/
theorem closeAll?_eq_some (h : openings.Pairwise fun o p => o.line < p.line) (lastLine : UInt32)
    : closeAll? lastLine openings = some (closeAll lastLine openings) := by
  fun_induction closeAll lastLine openings with
  | case1 => rfl
  | case2 o => rfl
  | case3 o p os ih =>
    rw [List.pairwise_cons] at h
    have hlt : o.line < p.line := h.1 p List.mem_cons_self
    have hpos : 1 ≤ p.line := by
      rw [UInt32.lt_iff_toNat_lt] at hlt
      rw [UInt32.le_iff_toNat_le, UInt32.toNat_one]
      omega
    rw [closeAll?, sub?_eq_some hpos, ih h.2]
    rfl

end Opening

theorem map_line_of_opens {lines : List (List Char)} {indices : List Nat} {openings : List Opening}
    (h : List.Forall₂ (Opens lines) indices openings)
    : openings.map (·.line) = indices.map .ofNat := by
  induction h with
  | nil => rfl
  | cons ho _ ih =>
    rw [List.map_cons, List.map_cons, ih]
    exact congrArg (· :: _) (ho 0).startLine

section

variable {text : String}

theorem ascending_openings (h : (lineChars text.toList).length < UInt32.size)
    : (Opening.ofLines ∅ 0 ((lineChars text.toList).map FeatureLine.ofChars)).Pairwise
        fun o p => o.line < p.line := by
  rw [← length_trimmedLines] at h
  have hdrop : (trimmedLines text).drop 0 = trimmedLines text := List.drop_zero
  obtain ⟨indices, hindices, hopens⟩ :=
    exists_scenarioLines_opens hdrop (forall₂_says_trimmedLines text) .zero
  have hfits (i : Nat) (hi : i ∈ indices) : (UInt32.ofNat i).toNat = i := by
    have hlt := ((hindices.mem_iff i).1 hi).2.lt_length
    exact UInt32.toNat_ofNat_of_lt' (by omega)
  rw [← List.pairwise_map (f := Opening.line) (R := (· < ·)),
    map_line_of_opens hopens, List.pairwise_map]
  apply hindices.ascending.imp_of_mem
  intro i j hi hj hij
  rwa [UInt32.lt_iff_toNat_lt, hfits i hi, hfits j hj]

theorem Section.ofText?_eq_some (h : (lineChars text.toList).length < UInt32.size)
    : ofText? text = some (ofText text) := by
  have hascending := ascending_openings h
  unfold ofText? ofText
  split
  . rfl
  . rw [← List.length_map FeatureLine.ofChars] at h
    generalize (lineChars text.toList).map FeatureLine.ofChars = lines at *
    unfold ofLines? ofLines
    rw [narrow?_eq_some (by omega), Opening.ofLines?_eq_some (by omega)]
    dsimp only [Option.bind_eq_bind, Option.bind_some]
    generalize Opening.ofLines ∅ 0 lines = openings at *
    cases openings with
    | nil => rfl
    | cons o openings => exact Opening.closeAll?_eq_some hascending _

end

end FeatureRunner
