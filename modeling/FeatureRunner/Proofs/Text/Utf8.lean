import FeatureRunner.Text.Segments
import FeatureRunner.Text.Utf8
import Mathlib.Tactic.SplitIfs

/-!
This module contains what is read from bytes as UTF-8. A text is read from its own bytes
(`decode_encode`), and an ASCII text from no other ones (`decode_eq_iff_of_ascii`). An ASCII byte
stands for itself whatever is around it, since every other character is read from bytes beyond
ASCII.
-/

namespace FeatureRunner.Text

variable {begun : Option Sequence} {s : Sequence} {b : UInt8} {bs : List UInt8}
variable {c : Char} {cs : List Char} {n v : Nat}

/-! ### The bytes of a character -/

theorem toNat_ofNat_of_lt (h : n < 256) : (UInt8.ofNat n).toNat = n :=
  Nat.mod_eq_of_lt h

theorem toNat_scalar (c : Char) : c.toNat < 0xD800 ∨ 0xE000 ≤ c.toNat ∧ c.toNat < 0x110000 := by
  rcases c.valid with h | ⟨hlow, hhigh⟩
  . exact .inl h
  . exact .inr ⟨hlow, hhigh⟩

theorem toNat_ofNat_of_scalar (h : n < 0xD800 ∨ 0xE000 ≤ n ∧ n < 0x110000)
    : (Char.ofNat n).toNat = n := by
  have hvalid : n.isValidChar := by
    unfold Nat.isValidChar
    omega
  rw [Char.ofNat, dif_pos hvalid]
  rfl

theorem decodeFrom_of_ascii (h : b.toNat < 0x80) (begun : Option Sequence) (bs : List UInt8)
    : decodeFrom begun (b :: bs) = decodeFrom begun [] ++ Char.ofNat b.toNat :: decode bs := by
  have hfirst : firstByte b.toNat = ([Char.ofNat b.toNat], none) := if_pos h
  cases begun with
  | none => simp [decodeFrom, nextByte, hfirst, decode]
  | some s =>
    have hnot : ¬ s.Continues b.toNat := by
      have hlow := s.low_le
      unfold Sequence.Continues
      omega
    simp [decodeFrom, nextByte, hnot, hfirst, decode]

theorem bitsWith_add (s : Sequence) (n : Nat) : s.bitsWith (n + 128) = 64 * s.bits + n := by
  unfold Sequence.bitsWith
  omega

theorem push_of_more_eq_zero (h : s.Continues n) (hmore : s.more = 0)
    : s.push n h = ([Char.ofNat (s.bitsWith n)], none) := by
  unfold Sequence.push
  split <;> simp_all

theorem push_of_more_eq_succ {more : Nat} (h : s.Continues n) (hmore : s.more = more + 1)
    : s.push n h = ([], some (s.next n h more hmore)) := by
  unfold Sequence.push
  split
  . simp_all
  . next more' hmore' =>
    obtain rfl : more' = more := Nat.succ.inj (hmore'.symm.trans hmore)
    rfl

theorem decodeFrom_of_more_eq_zero (h : s.Continues b.toNat) (hmore : s.more = 0)
    : decodeFrom (some s) (b :: bs) = Char.ofNat (s.bitsWith b.toNat) :: decode bs := by
  rw [decodeFrom, nextByte, dif_pos h, push_of_more_eq_zero h hmore]
  rfl

theorem decodeFrom_of_more_eq_succ {more : Nat} (h : s.Continues b.toNat)
    (hmore : s.more = more + 1) (bs : List UInt8)
    : ∃ s' : Sequence, decodeFrom (some s) (b :: bs) = decodeFrom (some s') bs
      ∧ s'.bits = s.bitsWith b.toNat ∧ s'.more = more
      ∧ ∀ n, s'.Continues (n % 64 + 128) := by
  refine ⟨s.next b.toNat h more hmore, ?_, rfl, rfl, fun n => ?_⟩
  . rw [decodeFrom, nextByte, dif_pos h, push_of_more_eq_succ h hmore]
    rfl
  . dsimp only [Sequence.next, Sequence.Continues]
    omega

structure Begins (first : UInt8) (v second more : Nat) (s : Sequence) : Prop where
  next : nextByte first.toNat none = ([], some s)
  bits_eq : s.bits = v
  more_eq : s.more = more
  continues : s.Continues second

theorem begins_of_ofFirst? {second more : Nat} (hn : 0xC0 ≤ n ∧ n < 256)
    (h : ∃ s, Sequence.ofFirst? n = some s ∧ s.bits = v ∧ s.more = more ∧ s.Continues second)
    : ∃ s, Begins (.ofNat n) v second more s := by
  obtain ⟨s, hfirst, hbits, hmore, hcontinues⟩ := h
  refine ⟨s, ?_, hbits, hmore, hcontinues⟩
  rw [toNat_ofNat_of_lt hn.2, nextByte, firstByte, if_neg (by omega), hfirst]

theorem exists_begins_two (h : 0x80 ≤ v ∧ v < 0x800)
    : ∃ s, Begins (.ofNat (v / 64 % 32 + 192)) (v / 64) (v % 64 + 128) 0 s := by
  refine begins_of_ofFirst? (by omega) ?_
  rw [Sequence.ofFirst?, dif_pos (by omega)]
  refine ⟨_, rfl, ?_, rfl, ?_⟩ <;> dsimp only [Sequence.Continues] <;> omega

theorem exists_begins_three (h : 0x800 ≤ v ∧ v < 0x10000) (hscalar : v < 0xD800 ∨ 0xE000 ≤ v)
    : ∃ s, Begins (.ofNat (v / 4096 % 16 + 224)) (v / 4096) (v / 64 % 64 + 128) 1 s := by
  refine begins_of_ofFirst? (by omega) ?_
  rw [Sequence.ofFirst?, dif_neg (by omega)]
  split_ifs <;>
    first
      | exact ⟨_, rfl, by dsimp only; omega, rfl, by dsimp only [Sequence.Continues]; omega⟩
      | omega

theorem exists_begins_four (h : 0x10000 ≤ v ∧ v < 0x110000)
    : ∃ s, Begins (.ofNat (v / 262144 % 8 + 240)) (v / 262144) (v / 4096 % 64 + 128) 2 s := by
  refine begins_of_ofFirst? (by omega) ?_
  rw [Sequence.ofFirst?, dif_neg (by omega), if_neg (by omega), dif_neg (by omega),
    dif_neg (by omega)]
  split_ifs <;>
    first
      | exact ⟨_, rfl, by dsimp only; omega, rfl, by dsimp only [Sequence.Continues]; omega⟩
      | omega

theorem Begins.decode_eq {first : UInt8} {second more : Nat} (h : Begins first v second more s)
    (bs : List UInt8)
    : decode (first :: bs) = decodeFrom (some s) bs := by
  rw [decode, decodeFrom, h.next]
  rfl

theorem toNat_continuing (n : Nat) : (UInt8.ofNat (n % 64 + 128)).toNat = n % 64 + 128 :=
  toNat_ofNat_of_lt (by omega)

theorem decode_two (h : 0x80 ≤ v ∧ v < 0x800) (bs : List UInt8)
    : decode (.ofNat (v / 64 % 32 + 192) :: .ofNat (v % 64 + 128) :: bs)
        = Char.ofNat v :: decode bs := by
  obtain ⟨s, hs⟩ := exists_begins_two h
  have hsecond := hs.continues
  rw [← toNat_continuing] at hsecond
  rw [hs.decode_eq, decodeFrom_of_more_eq_zero hsecond hs.more_eq, toNat_continuing, bitsWith_add,
    hs.bits_eq, Nat.div_add_mod]

theorem decode_three (h : 0x800 ≤ v ∧ v < 0x10000) (hscalar : v < 0xD800 ∨ 0xE000 ≤ v)
    (bs : List UInt8)
    : decode (.ofNat (v / 4096 % 16 + 224) :: .ofNat (v / 64 % 64 + 128)
        :: .ofNat (v % 64 + 128) :: bs) = Char.ofNat v :: decode bs := by
  obtain ⟨s, hs⟩ := exists_begins_three h hscalar
  have hsecond := hs.continues
  rw [← toNat_continuing] at hsecond
  obtain ⟨s', hread, hbits, hmore, hcontinues⟩ :=
    decodeFrom_of_more_eq_succ hsecond hs.more_eq (.ofNat (v % 64 + 128) :: bs)
  have hthird := hcontinues v
  rw [← toNat_continuing] at hthird
  have hv : 64 * (64 * (v / 4096) + v / 64 % 64) + v % 64 = v := by omega
  rw [hs.decode_eq, hread, decodeFrom_of_more_eq_zero hthird hmore, toNat_continuing, bitsWith_add,
    hbits, toNat_continuing, bitsWith_add, hs.bits_eq, hv]

theorem decode_four (h : 0x10000 ≤ v ∧ v < 0x110000) (bs : List UInt8)
    : decode (.ofNat (v / 262144 % 8 + 240) :: .ofNat (v / 4096 % 64 + 128)
        :: .ofNat (v / 64 % 64 + 128) :: .ofNat (v % 64 + 128) :: bs)
        = Char.ofNat v :: decode bs := by
  obtain ⟨s, hs⟩ := exists_begins_four h
  have hsecond := hs.continues
  rw [← toNat_continuing] at hsecond
  obtain ⟨s', hread, hbits, hmore, hcontinues⟩ :=
    decodeFrom_of_more_eq_succ hsecond hs.more_eq
      (.ofNat (v / 64 % 64 + 128) :: .ofNat (v % 64 + 128) :: bs)
  have hthird := hcontinues (v / 64)
  rw [← toNat_continuing] at hthird
  obtain ⟨s'', hread', hbits', hmore', hcontinues'⟩ :=
    decodeFrom_of_more_eq_succ hthird hmore (.ofNat (v % 64 + 128) :: bs)
  have hfourth := hcontinues' v
  rw [← toNat_continuing] at hfourth
  have hv : 64 * (64 * (64 * (v / 262144) + v / 4096 % 64) + v / 64 % 64) + v % 64 = v := by
    omega
  rw [hs.decode_eq, hread, hread', decodeFrom_of_more_eq_zero hfourth hmore', toNat_continuing,
    bitsWith_add, hbits', toNat_continuing, bitsWith_add, hbits, toNat_continuing, bitsWith_add,
    hs.bits_eq, hv]

theorem decode_utf8EncodeChar (c : Char) (bs : List UInt8)
    : decode (String.utf8EncodeChar c ++ bs) = c :: decode bs := by
  have hscalar := toNat_scalar c
  have hv : c.val.toNat = c.toNat := rfl
  have hc := Char.ofNat_toNat c
  unfold String.utf8EncodeChar
  simp only [hv]
  generalize c.toNat = v at *
  -- as many bytes as the number needs
  split_ifs with hone htwo hthree <;> simp only [List.cons_append, List.nil_append]
  . have hfirst : (UInt8.ofNat v).toNat = v := toNat_ofNat_of_lt (by omega)
    have hread := decodeFrom_of_ascii (b := .ofNat v) (by omega) none bs
    rw [hfirst, hc] at hread
    exact hread
  . rw [decode_two (by omega), hc]
  . rw [decode_three (by omega) (by omega), hc]
  . rw [decode_four (by omega), hc]

theorem decode_encode (cs : List Char) : decode (encode cs) = cs := by
  unfold encode
  induction cs with
  | nil => rfl
  | cons c cs ih => rw [List.flatMap_cons, decode_utf8EncodeChar, ih]

def IsUtf8 (bs : List UInt8) : Prop :=
  ∃ cs, encode cs = bs

theorem encode_decode (h : IsUtf8 bs) : encode (decode bs) = bs := by
  obtain ⟨cs, rfl⟩ := h
  rw [decode_encode]

/-! ### ASCII -/

theorem decodeFrom_append_of_ascii (h : b.toNat < 0x80) (as bs : List UInt8)
    : decodeFrom begun (as ++ b :: bs)
        = decodeFrom begun as ++ Char.ofNat b.toNat :: decode bs := by
  induction as generalizing begun with
  | nil => exact decodeFrom_of_ascii h begun bs
  | cons a as ih => simp only [List.cons_append, decodeFrom, ih, List.append_assoc]

/-- From a byte beyond ASCII characters beyond ASCII are read, or the next byte is waited for. -/
theorem nextByte_beyond_ascii (h : 0x80 ≤ n) (begun : Option Sequence)
    : (∀ c ∈ (nextByte n begun).1, 0x80 ≤ c.toNat)
      ∧ ((nextByte n begun).1 = [] → (nextByte n begun).2.isSome) := by
  have hfirst : (∀ c ∈ (firstByte n).1, 0x80 ≤ c.toNat)
      ∧ ((firstByte n).1 = [] → (firstByte n).2.isSome) := by
    rw [firstByte, if_neg (by omega)]
    split <;> simp [replacement]
  cases begun with
  | none => exact hfirst
  | some s =>
    rw [nextByte]
    split
    . next hcontinues =>
      cases hmore : s.more with
      | zero =>
        obtain ⟨hle, hge⟩ := Sequence.bits_le_bitsWith hcontinues
        have hleast := s.least_le
        have hvalid := s.valid
        rw [hmore, continuations] at hleast hvalid
        rw [push_of_more_eq_zero hcontinues hmore, List.forall_mem_singleton,
          toNat_ofNat_of_scalar (by omega)]
        exact ⟨by omega, by simp⟩
      | succ more => simp [push_of_more_eq_succ hcontinues hmore]
    . rw [List.forall_mem_cons]
      exact ⟨⟨by decide, hfirst.1⟩, by simp⟩

theorem le_of_mem_decodeFrom_nil (h : c ∈ decodeFrom begun []) : 0x80 ≤ c.toNat := by
  cases begun with
  | none => cases h
  | some s =>
    obtain rfl : c = replacement := List.mem_singleton.1 h
    decide

theorem ascii_of_decodeFrom (h : ∀ c ∈ decodeFrom begun bs, c.toNat < 0x80)
    : begun = none ∧ ∀ b ∈ bs, b.toNat < 0x80 := by
  have hnil {begun : Option Sequence} (h : ∀ c ∈ decodeFrom begun [], c.toNat < 0x80)
      : begun = none := by
    cases begun with
    | none => rfl
    | some s => simp [decodeFrom, replacement] at h
  induction bs generalizing begun with
  | nil => exact ⟨hnil h, by simp⟩
  | cons b bs ih =>
    by_cases hb : b.toNat < 0x80
    . rw [decodeFrom_of_ascii hb, List.forall_mem_append, List.forall_mem_cons] at h
      obtain ⟨hbegun, -, hbs⟩ := h
      exact ⟨hnil hbegun, List.forall_mem_cons.2 ⟨hb, (ih hbs).2⟩⟩
    . -- nothing has been read from this byte, so it begins a sequence, and none can be left open
      rw [decodeFrom, List.forall_mem_append] at h
      obtain ⟨hread, hwaits⟩ := nextByte_beyond_ascii (Nat.le_of_not_lt hb) begun
      have hempty : (nextByte b.toNat begun).1 = [] := by
        apply List.eq_nil_iff_forall_not_mem.2
        intro c hc
        exact Nat.not_lt_of_le (hread c hc) (h.1 c hc)
      rw [(ih h.2).1] at hwaits
      cases hwaits hempty

theorem utf8EncodeChar_ofNat (h : b.toNat < 0x80)
    : String.utf8EncodeChar (Char.ofNat b.toNat) = [b] := by
  have hnat : (Char.ofNat b.toNat).val.toNat = b.toNat := toNat_ofNat_of_scalar (by omega)
  rw [String.utf8EncodeChar.eq_def]
  dsimp only
  rw [hnat, if_pos (Nat.le_of_lt_succ h), UInt8.ofNat_toNat]

theorem encode_decode_of_ascii (h : ∀ b ∈ bs, b.toNat < 0x80) : encode (decode bs) = bs := by
  induction bs with
  | nil => rfl
  | cons b bs ih =>
    rw [List.forall_mem_cons] at h
    have hread : decode (b :: bs) = Char.ofNat b.toNat :: decode bs :=
      decodeFrom_of_ascii h.1 none bs
    have hbs := ih h.2
    unfold encode at hbs ⊢
    rw [hread, List.flatMap_cons, utf8EncodeChar_ofNat h.1, hbs]
    rfl

theorem isUtf8_of_ascii (h : ∀ c ∈ decode bs, c.toNat < 0x80) : IsUtf8 bs :=
  ⟨decode bs, encode_decode_of_ascii (ascii_of_decodeFrom h).2⟩

theorem decode_eq_iff_of_ascii (h : ∀ c ∈ cs, c.toNat < 0x80)
    : decode bs = cs ↔ bs = encode cs := by
  constructor
  . rintro rfl
    exact (encode_decode (isUtf8_of_ascii h)).symm
  . rintro rfl
    exact decode_encode cs

theorem mem_of_mem_decodeFrom (h : b.toNat < 0x80)
    (hmem : Char.ofNat b.toNat ∈ decodeFrom begun bs)
    : b ∈ bs := by
  have hnat {b : UInt8} (h : b.toNat < 0x80) : (Char.ofNat b.toNat).toNat = b.toNat :=
    toNat_ofNat_of_scalar (by omega)
  have hbeyond {cs : List Char} (hcs : ∀ c ∈ cs, 0x80 ≤ c.toNat) : Char.ofNat b.toNat ∉ cs := by
    intro hmem
    have hle := hcs _ hmem
    rw [hnat h] at hle
    omega
  induction bs generalizing begun with
  | nil => exact absurd hmem (hbeyond fun c => le_of_mem_decodeFrom_nil)
  | cons a as ih =>
    rw [List.mem_cons]
    by_cases ha : a.toNat < 0x80
    . rw [decodeFrom_of_ascii ha, List.mem_append, List.mem_cons] at hmem
      rcases hmem with hmem | heq | hmem
      . exact absurd hmem (hbeyond fun c => le_of_mem_decodeFrom_nil)
      . have heq := congrArg Char.toNat heq
        rw [hnat h, hnat ha] at heq
        exact .inl (UInt8.toNat_inj.1 heq)
      . exact .inr (ih hmem)
    . rw [decodeFrom, List.mem_append] at hmem
      rcases hmem with hmem | hmem
      . exact absurd hmem (hbeyond (nextByte_beyond_ascii (Nat.le_of_not_lt ha) begun).1)
      . exact .inr (ih hmem)

theorem segments_decode (h : b.toNat < 0x80) (bs : List UInt8)
    : segments (Char.ofNat b.toNat) (decode bs) = (segments b bs).map decode := by
  -- the byte ends every sequence that has begun, so what is around it can be read apart
  by_cases hmem : b ∈ bs
  . obtain ⟨front, back, rfl⟩ := List.append_of_mem hmem
    have hread : decode (front ++ b :: back) = decode front ++ Char.ofNat b.toNat :: decode back :=
      decodeFrom_append_of_ascii h front back
    rw [hread, segments_append_cons, segments_append_cons, List.map_append,
      segments_decode h front, segments_decode h back]
  . have hread : Char.ofNat b.toNat ∉ decode bs :=
      fun hread => hmem (mem_of_mem_decodeFrom h hread)
    rw [segments_of_not_mem hmem, segments_of_not_mem hread]
    rfl
termination_by bs.length

end FeatureRunner.Text
