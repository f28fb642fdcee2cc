import FeatureRunner.Proofs.Target.Addresses
import Mathlib.Data.Nat.Digits.Defs

/-!
This module contains which texts are locations with a line: those that have the decimal numeral of a
line behind their last colon, with leading zeros and a plus sign if one likes. Any other text is a
path as a whole. The main statement is `ofText_location`.
-/

namespace FeatureRunner

namespace Numeral

def IsNumeral (cs : List Char) (n : Nat) : Prop :=
  ∃ digits : List Nat, digits ≠ [] ∧ (∀ d ∈ digits, d < 10) ∧ cs = digits.map digit
    ∧ n = Nat.ofDigits 10 digits.reverse

theorem digitValue?_eq_some_iff {c : Char} {d : Nat}
    : digitValue? c = some d ↔ d < 10 ∧ c = digit d := by
  constructor
  . intro h
    unfold digitValue? at h
    split at h
    . next hc =>
      have hlow : '0'.toNat ≤ c.toNat := hc.1
      have hhigh : c.toNat ≤ '9'.toNat := hc.2
      have hd : c.toNat - '0'.toNat = d := Option.some.inj h
      have hzero : '0'.toNat = 48 := rfl
      have hnine : '9'.toNat = 57 := rfl
      refine ⟨by omega, ?_⟩
      have hsum : '0'.toNat + d = c.toNat := by omega
      rw [digit, hsum, Char.ofNat_toNat]
    . cases h
  . rintro ⟨hd, rfl⟩
    exact digitValue?_digit hd

theorem valueFrom?_eq_some_iff {acc n : Nat} {cs : List Char}
    : valueFrom? acc cs = some n
        ↔
      ∃ digits : List Nat, (∀ d ∈ digits, d < 10) ∧ cs = digits.map digit
        ∧ n = acc * 10 ^ digits.length + Nat.ofDigits 10 digits.reverse := by
  induction cs generalizing acc with
  | nil =>
    rw [valueFrom?, Option.some.injEq]
    constructor
    . rintro rfl
      exact ⟨[], by simp, rfl, by simp⟩
    . rintro ⟨digits, -, hdigits, rfl⟩
      obtain rfl : digits = [] := List.map_eq_nil_iff.1 hdigits.symm
      simp
  | cons c cs ih =>
    -- The first digit counts as many tens as there are digits behind it.
    have hsum (d : Nat) (digits : List Nat)
        : (10 * acc + d) * 10 ^ digits.length + Nat.ofDigits 10 digits.reverse
          = acc * 10 ^ (d :: digits).length + Nat.ofDigits 10 (d :: digits).reverse := by
      rw [List.reverse_cons, Nat.ofDigits_append, Nat.ofDigits_singleton, List.length_reverse,
        List.length_cons]
      ring
    rw [valueFrom?, Option.bind_eq_some_iff]
    constructor
    . rintro ⟨d, hd, hvalue⟩
      obtain ⟨hlt, rfl⟩ := digitValue?_eq_some_iff.1 hd
      obtain ⟨digits, hdigits, rfl, rfl⟩ := ih.1 hvalue
      exact ⟨d :: digits, List.forall_mem_cons.2 ⟨hlt, hdigits⟩, rfl, hsum d digits⟩
    . rintro ⟨digits, hdigits, hcs, rfl⟩
      cases digits with
      | nil => cases hcs
      | cons d digits =>
        obtain ⟨hlt, hdigits⟩ := List.forall_mem_cons.1 hdigits
        obtain ⟨rfl, rfl⟩ := List.cons.inj hcs
        exact ⟨d, digitValue?_digit hlt, ih.2 ⟨digits, hdigits, rfl, (hsum d digits).symm⟩⟩

theorem value?_eq_some_iff {cs : List Char} {n : Nat} : value? cs = some n ↔ IsNumeral cs n := by
  unfold value? IsNumeral
  split
  . simp
  . next hne =>
    rw [valueFrom?_eq_some_iff]
    apply exists_congr
    intro digits
    have hdigits : cs = digits.map digit → digits ≠ [] := by
      rintro rfl rfl
      exact hne rfl
    rw [Nat.zero_mul, Nat.zero_add]
    constructor
    . rintro ⟨hlt, hcs, hn⟩
      exact ⟨hdigits hcs, hlt, hcs, hn⟩
    . rintro ⟨-, h⟩
      exact h

theorem not_isNumeral_plus {cs : List Char} {n : Nat} : ¬ IsNumeral ('+' :: cs) n := by
  intro h
  have hvalue := value?_eq_some_iff.2 h
  have hplus : digitValue? '+' = none := rfl
  simp [value?, valueFrom?, hplus] at hvalue

end Numeral

namespace Location

variable {cs front back : List Char} {n : Nat}

theorem splitLastColon?_eq_none_iff : splitLastColon? cs = none ↔ ':' ∉ cs := by
  refine ⟨?_, splitLastColon?_eq_none⟩
  induction cs with
  | nil => simp
  | cons c cs ih =>
    intro h
    unfold splitLastColon? at h
    split at h
    . cases h
    . next hnone =>
      split at h
      . cases h
      . next hc =>
        rw [List.mem_cons, not_or]
        exact ⟨Ne.symm hc, ih hnone⟩

theorem splitLastColon?_eq_some_iff
    : splitLastColon? cs = some (front, back) ↔ cs = front ++ ':' :: back ∧ ':' ∉ back := by
  constructor
  . intro h
    induction cs generalizing front with
    | nil => cases h
    | cons c cs ih =>
      unfold splitLastColon? at h
      split at h
      . next hsome =>
        cases h
        obtain ⟨rfl, hback⟩ := ih hsome
        exact ⟨rfl, hback⟩
      . next hnone =>
        split at h
        . next hc =>
          cases h
          exact ⟨by rw [hc, List.nil_append], splitLastColon?_eq_none_iff.1 hnone⟩
        . cases h
  . rintro ⟨rfl, hback⟩
    exact splitLastColon?_append hback front

/-- The characters are the number of a line: a numeral of 32 bits, with or without a plus sign. -/
def IsLineNumber (cs : List Char) (n : Nat) : Prop :=
  n ≤ 4294967295 ∧ (Numeral.IsNumeral cs n ∨ ∃ ds, cs = '+' :: ds ∧ Numeral.IsNumeral ds n)

def narrowed? (n? : Option Nat) : Option UInt32 :=
  match n? with
  | some n => if n < UInt32.size then some (UInt32.ofNat n) else none
  | none => none

theorem narrowed?_eq_some_iff {n? : Option Nat} {line : UInt32}
    : narrowed? n? = some line ↔ n? = some line.toNat := by
  constructor
  . intro h
    unfold narrowed? at h
    split at h
    . next n =>
      split at h
      . next hn =>
        cases h
        rw [UInt32.toNat_ofNat_of_lt' hn]
      . cases h
    . cases h
  . rintro rfl
    simp [narrowed?, line.toNat_lt_size]

theorem lineNumber?_plus (ds : List Char)
    : lineNumber? ('+' :: ds) = narrowed? (Numeral.value? ds) :=
  rfl

theorem lineNumber?_of_ne (h : ∀ ds, cs ≠ '+' :: ds)
    : lineNumber? cs = narrowed? (Numeral.value? cs) := by
  unfold lineNumber?
  split
  . next ds => exact absurd rfl (h ds)
  . rfl

theorem lineNumber?_eq_some_iff {line : UInt32}
    : lineNumber? cs = some line ↔ IsLineNumber cs line.toNat := by
  have hsize : line.toNat ≤ 4294967295 := Nat.le_of_lt_succ line.toNat_lt_size
  unfold IsLineNumber
  by_cases hplus : ∃ ds, cs = '+' :: ds
  . obtain ⟨ds, rfl⟩ := hplus
    rw [lineNumber?_plus, narrowed?_eq_some_iff, Numeral.value?_eq_some_iff]
    simp [hsize, Numeral.not_isNumeral_plus]
  . rw [not_exists] at hplus
    rw [lineNumber?_of_ne hplus, narrowed?_eq_some_iff, Numeral.value?_eq_some_iff]
    simp [hsize, hplus]

theorem toNat_fromZero (line : UInt32) : (fromZero line).toNat = line.toNat - 1 := by
  unfold fromZero
  split
  . next h => rw [h]; rfl
  . next h =>
    have hpos : line.toNat ≠ 0 := fun hzero => h (UInt32.toNat_inj.1 hzero)
    have hle : 1 ≤ line := by
      rw [UInt32.le_iff_toNat_le]
      exact Nat.one_le_iff_ne_zero.2 hpos
    rw [UInt32.toNat_sub_of_le _ _ hle]
    rfl

def IsWritten (text : String) (path : Path) (n : Nat) : Prop :=
  ∃ suffix, text.toList = path.text.toList ++ ':' :: suffix ∧ ':' ∉ suffix ∧ IsLineNumber suffix n

theorem isWritten_iff {text : String} {path : Path}
    : IsWritten text path n
        ↔
      ∃ back number, splitLastColon? text.toList = some (path.text.toList, back)
        ∧ lineNumber? back = some number ∧ number.toNat = n := by
  unfold IsWritten
  apply exists_congr
  intro back
  rw [← and_assoc, ← splitLastColon?_eq_some_iff, exists_and_left]
  apply and_congr_right
  intro _
  constructor
  . intro h
    have hn : (UInt32.ofNat n).toNat = n := UInt32.toNat_ofNat_of_lt' (Nat.lt_succ_of_le h.1)
    exact ⟨.ofNat n, lineNumber?_eq_some_iff.2 (hn.symm ▸ h), hn⟩
  . rintro ⟨number, hnumber, rfl⟩
    exact lineNumber?_eq_some_iff.1 hnumber

theorem ofText_of_isWritten {text : String} {path : Path} (h : IsWritten text path n)
    : ∃ line, ofText text = ⟨path, some line⟩ ∧ line.toNat = n - 1 := by
  obtain ⟨back, number, hsplit, hnumber, rfl⟩ := isWritten_iff.1 h
  refine ⟨fromZero number, ?_, toNat_fromZero number⟩
  simp only [ofText, hsplit, hnumber, String.ofList_toList]

theorem ofText_of_not_isWritten {text : String} (h : ∀ path n, ¬ IsWritten text path n)
    : ofText text = ⟨⟨text⟩, none⟩ := by
  unfold ofText
  split
  . rfl
  . next front back hsplit =>
    split
    . next number hnumber =>
      refine absurd (isWritten_iff.2 ⟨back, number, ?_, hnumber, rfl⟩)
        (h ⟨String.ofList front⟩ number.toNat)
      rw [hsplit, String.toList_ofList]
    . rfl

/-- A text is read as a path and a line exactly if it is the path with a number behind a colon, which
counts from one, where zero stands for the first line too. Any other text is a path without a line.
So every path comes back with every line that is written behind it. -/
theorem ofText_location
    : (∀ (text : String) (path : Path) (line : UInt32),
        ofText text = ⟨path, some line⟩ ↔ ∃ n, IsWritten text path n ∧ line.toNat = n - 1)
      ∧ (∀ text : String, (∀ path n, ¬ IsWritten text path n) → ofText text = ⟨⟨text⟩, none⟩)
      ∧ ∀ (path : Path) (line : UInt32), line.toNat < 4294967295 →
        ofText (path.text ++ ":" ++ Numeral.decimal (line.toNat + 1)) = ⟨path, some line⟩ := by
  refine ⟨?_, fun _ => ofText_of_not_isWritten, ?_⟩
  . intro text path line
    constructor
    . intro h
      by_cases hwritten : ∃ path n, IsWritten text path n
      . obtain ⟨path', n, hwritten⟩ := hwritten
        obtain ⟨line', hline', htoNat⟩ := ofText_of_isWritten hwritten
        rw [hline'] at h
        cases h
        exact ⟨n, hwritten, htoNat⟩
      . simp only [not_exists] at hwritten
        rw [ofText_of_not_isWritten hwritten] at h
        cases h
    . rintro ⟨n, hwritten, htoNat⟩
      obtain ⟨line', hline', htoNat'⟩ := ofText_of_isWritten hwritten
      rw [hline', UInt32.toNat_inj.1 (htoNat'.trans htoNat.symm)]
  . intro path line hline
    have hsize : line.toNat + 1 < UInt32.size := Nat.succ_lt_succ hline
    rw [← toNat_add_one hsize]
    exact ofText_withLine path hsize

theorem ofText_location_manyColons
    : (∀ path n, ¬ IsWritten "C:/a:4294967296" path n)
      ∧ ofText "C:/a:4294967296" = ⟨⟨"C:/a:4294967296"⟩, none⟩
      ∧ (11 : UInt32).toNat < 4294967295
      ∧ ofText "C:/a:4294967296:12" = ⟨⟨"C:/a:4294967296"⟩, some 11⟩ := by
  have hnot : ∀ path n, ¬ IsWritten "C:/a:4294967296" path n := by
    intro path n h
    obtain ⟨back, number, hsplit, hnumber, -⟩ := isWritten_iff.1 h
    have hlast : splitLastColon? "C:/a:4294967296".toList
        = some ("C:/a".toList, "4294967296".toList) := by
      decide
    obtain ⟨-, rfl⟩ := Prod.mk.inj (Option.some.inj (hlast.symm.trans hsplit))
    have hlarge : lineNumber? "4294967296".toList = none := by
      decide
    rw [hlarge] at hnumber
    cases hnumber
  have htext : (⟨"C:/a:4294967296"⟩ : Path).text ++ ":" ++ Numeral.decimal ((11 : UInt32).toNat + 1)
      = "C:/a:4294967296:12" := by
    decide +kernel
  refine ⟨hnot, ofText_location.2.1 _ hnot, by decide, ?_⟩
  rw [← htext]
  exact ofText_location.2.2 _ 11 (by decide)

end Location
end FeatureRunner
