/-!
This module contains decimal numerals: `decimal` writes a natural number without leading zeros,
`value?` reads a run of digits back, leading zeros included. The main statement is
`value?_decimal`: what is written reads back.
-/

namespace FeatureRunner.Numeral

def digit (n : Nat) : Char :=
  Char.ofNat ('0'.toNat + n)

def digitValue? (c : Char) : Option Nat :=
  if '0' ≤ c ∧ c ≤ '9' then some (c.toNat - '0'.toNat) else none

def decimalChars (n : Nat) : List Char :=
  if n < 10 then [digit n] else decimalChars (n / 10) ++ [digit (n % 10)]

def decimal (n : Nat) : String :=
  String.ofList (decimalChars n)

/-- The decimal numeral of an integer; a negative one has a minus sign in front. -/
def decimalInt (i : Int) : String :=
  match i with
  | .ofNat n => decimal n
  | .negSucc n => "-" ++ decimal (n + 1)

def valueFrom? (acc : Nat) : List Char → Option Nat
  | [] => some acc
  | c :: cs => (digitValue? c).bind fun d => valueFrom? (10 * acc + d) cs

def value? : List Char → Option Nat
  | [] => none
  | cs => valueFrom? 0 cs

theorem valueFrom?_append (acc : Nat) (cs ds : List Char)
    : valueFrom? acc (cs ++ ds) = (valueFrom? acc cs).bind (valueFrom? · ds) := by
  induction cs generalizing acc with
  | nil => rfl
  | cons c cs ih =>
    cases h : digitValue? c with
    | none => simp [valueFrom?, h]
    | some d => simp [valueFrom?, h, ih]

theorem digitValue?_digit {n : Nat} (h : n < 10) : digitValue? (digit n) = some n := by
  have : n = 0 ∨ n = 1 ∨ n = 2 ∨ n = 3 ∨ n = 4 ∨ n = 5 ∨ n = 6 ∨ n = 7 ∨ n = 8 ∨ n = 9 := by omega
  rcases this with rfl | rfl | rfl | rfl | rfl | rfl | rfl | rfl | rfl | rfl <;> decide

theorem decimalChars_ne_nil (n : Nat) : decimalChars n ≠ [] := by
  rw [decimalChars]
  split <;> simp

theorem not_mem_decimalChars {c : Char} (h : digitValue? c = none) (n : Nat)
    : c ∉ decimalChars n := by
  have hdigit (d : Nat) (hd : d < 10) : c ≠ digit d := by
    rintro rfl
    simp [digitValue?_digit hd] at h
  fun_induction decimalChars n with
  | case1 n hn => simpa using hdigit n hn
  | case2 n hn ih => simpa using ⟨ih, hdigit _ (Nat.mod_lt n (by decide))⟩

theorem valueFrom?_decimalChars (n : Nat) : valueFrom? 0 (decimalChars n) = some n := by
  fun_induction decimalChars n with
  | case1 n h => simp [valueFrom?, digitValue?_digit h]
  | case2 n h ih =>
    rw [valueFrom?_append, ih]
    simp [valueFrom?, digitValue?_digit (Nat.mod_lt n (by decide : 0 < 10))]
    omega

theorem value?_decimal (n : Nat) : value? (decimal n).toList = some n := by
  have h := valueFrom?_decimalChars n
  have hn := decimalChars_ne_nil n
  rw [decimal, String.toList_ofList]
  cases hd : decimalChars n with
  | nil => exact absurd hd hn
  | cons c cs => rw [hd] at h; exact h

end FeatureRunner.Numeral
