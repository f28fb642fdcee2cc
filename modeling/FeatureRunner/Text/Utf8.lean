/-!
This module contains UTF-8, the bytes that a text is stored as. All bytes can be read as a text:
where they are no UTF-8 there is a replacement character, one for every sequence that breaks off and
one for every byte that begins no sequence.
-/

namespace FeatureRunner.Text

def encode (cs : List Char) : List UInt8 :=
  cs.flatMap String.utf8EncodeChar

def replacement : Char := '\uFFFD'

def continuations : Nat → Nat
  | 0 => 1
  | more + 1 => 64 * continuations more

/-- A sequence of bytes that has begun. With its next byte between `low` and `high`, and `more`
bytes behind that, it stands for one character beyond ASCII. -/
structure Sequence where
  bits : Nat
  more : Nat
  low : Nat
  high : Nat
  low_le : 0x80 ≤ low := by omega
  least_le : 0x80 ≤ (64 * bits + (low - 0x80)) * continuations more := by
    simp only [continuations]
    omega
  valid : (64 * bits + (high - 0x80) + 1) * continuations more ≤ 0xD800
      ∨ 0xE000 ≤ (64 * bits + (low - 0x80)) * continuations more
        ∧ (64 * bits + (high - 0x80) + 1) * continuations more ≤ 0x110000 := by
    simp only [continuations]
    omega

namespace Sequence

def ofFirst? (n : Nat) : Option Sequence :=
  if _ : 0xC2 ≤ n ∧ n ≤ 0xDF then
    some { bits := n - 0xC0, more := 0, low := 0x80, high := 0xBF }
  else if n = 0xE0 then
    some { bits := 0, more := 1, low := 0xA0, high := 0xBF }
  else if _ : n = 0xED then
    some { bits := 0xD, more := 1, low := 0x80, high := 0x9F }
  else if _ : 0xE1 ≤ n ∧ n ≤ 0xEF then
    some { bits := n - 0xE0, more := 1, low := 0x80, high := 0xBF }
  else if n = 0xF0 then
    some { bits := 0, more := 2, low := 0x90, high := 0xBF }
  else if _ : 0xF1 ≤ n ∧ n ≤ 0xF3 then
    some { bits := n - 0xF0, more := 2, low := 0x80, high := 0xBF }
  else if n = 0xF4 then
    some { bits := 4, more := 2, low := 0x80, high := 0x8F }
  else
    none

def Continues (s : Sequence) (n : Nat) : Prop :=
  s.low ≤ n ∧ n ≤ s.high

instance (s : Sequence) (n : Nat) : Decidable (s.Continues n) :=
  inferInstanceAs (Decidable (_ ∧ _))

def bitsWith (s : Sequence) (n : Nat) : Nat :=
  64 * s.bits + (n - 0x80)

theorem bits_le_bitsWith {s : Sequence} {n : Nat} (h : s.Continues n)
    : 64 * s.bits + (s.low - 0x80) ≤ s.bitsWith n
      ∧ s.bitsWith n + 1 ≤ 64 * s.bits + (s.high - 0x80) + 1 := by
  have hlow := s.low_le
  obtain ⟨hle, hge⟩ := h
  unfold bitsWith
  omega

/-- The sequence behind its next byte, with `more` bytes still to come behind another one. -/
def next (s : Sequence) (n : Nat) (h : s.Continues n) (more : Nat) (hmore : s.more = more + 1)
    : Sequence where
  bits := s.bitsWith n
  more := more
  low := 0x80
  high := 0xBF
  low_le := Nat.le_refl _
  least_le := by
    have hle := Nat.mul_le_mul_right (continuations s.more) (bits_le_bitsWith h).1
    have hleast := Nat.le_trans s.least_le hle
    rw [hmore, continuations] at hleast
    grind
  valid := by
    have hle := Nat.mul_le_mul_right (continuations s.more) (bits_le_bitsWith h).1
    have hge := Nat.mul_le_mul_right (continuations s.more) (bits_le_bitsWith h).2
    have hvalid := s.valid
    rw [hmore, continuations] at hle hge hvalid
    grind

/-- The character of the sequence, or the sequence that goes on, with its next byte. -/
def push (s : Sequence) (n : Nat) (h : s.Continues n) : List Char × Option Sequence :=
  match hmore : s.more with
  | 0 => ([Char.ofNat (s.bitsWith n)], none)
  | more + 1 => ([], some (s.next n h more hmore))

end Sequence

/-- The characters that a byte of this number ends, if no sequence has begun before it, and the
sequence that it begins. -/
def firstByte (n : Nat) : List Char × Option Sequence :=
  if n < 0x80 then
    ([Char.ofNat n], none)
  else
    match Sequence.ofFirst? n with
    | some s => ([], some s)
    | none => ([replacement], none)

/-- The characters that a byte of this number ends, and the sequence that has begun with it. -/
def nextByte (n : Nat) : Option Sequence → List Char × Option Sequence
  | none => firstByte n
  | some s =>
    if h : s.Continues n then
      s.push n h
    else
      (replacement :: (firstByte n).1, (firstByte n).2)

def decodeFrom (begun : Option Sequence) : List UInt8 → List Char
  | [] => if begun.isSome then [replacement] else []
  | b :: bs => (nextByte b.toNat begun).1 ++ decodeFrom (nextByte b.toNat begun).2 bs

def decode (bs : List UInt8) : List Char :=
  decodeFrom none bs

end FeatureRunner.Text
