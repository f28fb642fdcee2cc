import FeatureRunner.Json.Reader
import Mathlib.Data.List.TakeWhile

/-!
This module contains the reading of JSON that was written. Whatever stands behind a written value,
the reader stops there with the draft of the value, first for strings and numbers and then for whole
values. The main statement is `read_write`, for every layout that only adds blanks.
-/

namespace FeatureRunner
namespace Json

/-! ### Strings -/

theorem hexValue?_hexDigit : ∀ n < 16, hexValue? (hexDigit n) = some n := by
  decide

theorem hexNumber?_hexDigits {n : Nat} (h : n < 256)
    : hexNumber? ['0', '0', hexDigit (n / 16), hexDigit (n % 16)] = some n := by
  have hzero : hexValue? '0' = some 0 := by decide
  have hhigh := hexValue?_hexDigit (n / 16) (by omega)
  have hlow := hexValue?_hexDigit (n % 16) (by omega)
  simp [hexNumber?, hzero, hhigh, hlow]
  omega

theorem readHex_four {a b c d : Char} {n : Nat} (h : hexNumber? [a, b, c, d] = some n)
    (rest : List Char)
    : readHex (a :: b :: c :: d :: rest) = .ok (n, rest) := by
  have ha := a.utf8Size_pos
  have hb := b.utf8Size_pos
  have hc := c.utf8Size_pos
  have hd := d.utf8Size_pos
  simp [readHex, h]
  omega

theorem readEscape_control {c : Char} (h : c < ' ') (rest : List Char)
    : readEscape ('u' :: '0' :: '0' :: hexDigit (c.toNat / 16) :: hexDigit (c.toNat % 16) :: rest)
        = .ok (.ok c, rest) := by
  have hlt : c.toNat < 32 := h
  have hread := readHex_four (hexNumber?_hexDigits (n := c.toNat) (by omega)) rest
  have hlow : ¬ (0xDC00 ≤ c.toNat ∧ c.toNat ≤ 0xDFFF) := by omega
  have hhigh : ¬ (0xD800 ≤ c.toNat ∧ c.toNat ≤ 0xDBFF) := by omega
  simp only [readEscape, hread]
  change (if 0xDC00 ≤ c.toNat ∧ c.toNat ≤ 0xDFFF then _ else _) = _
  rw [if_neg hlow, if_neg hhigh, Char.ofNat_toNat]

theorem escape_cases (c : Char)
    : (escape c = [c] ∧ c ≠ '"' ∧ c ≠ '\\' ∧ ¬ c < ' ')
      ∨ ∃ tail, escape c = '\\' :: tail
        ∧ ∀ rest, readEscape (tail ++ rest) = .ok (.ok c, rest) := by
  unfold escape
  split
  . next hc => exact .inr ⟨_, rfl, fun _ => by rw [hc]; rfl⟩
  split
  . next hc => exact .inr ⟨_, rfl, fun _ => by rw [hc]; rfl⟩
  split
  . next hc => exact .inr ⟨_, rfl, fun _ => by rw [hc]; rfl⟩
  split
  . next hc => exact .inr ⟨_, rfl, fun _ => by rw [hc]; rfl⟩
  split
  . next hc => exact .inr ⟨_, rfl, fun _ => by rw [hc]; rfl⟩
  split
  . next hc => exact .inr ⟨_, rfl, fun _ => by rw [hc]; rfl⟩
  split
  . next hc => exact .inr ⟨_, rfl, fun _ => by rw [hc]; rfl⟩
  split
  -- the control characters without a short form
  . next hc => exact .inr ⟨_, rfl, readEscape_control hc⟩
  . next hquote hbackslash _ _ _ _ _ hcontrol => exact .inl ⟨rfl, hquote, hbackslash, hcontrol⟩

theorem readStringFrom_escape (read rest : List Char) (c : Char)
    : readStringFrom (.ok read) (escape c ++ rest) = readStringFrom (.ok (c :: read)) rest := by
  rcases escape_cases c with ⟨hescape, hquote, hbackslash, hcontrol⟩ | ⟨tail, hescape, htail⟩
  . rw [hescape, List.singleton_append, readStringFrom.eq_4 _ _ _ hquote hbackslash,
      if_neg hcontrol]
    rfl
  . rw [hescape, List.cons_append, readStringFrom]
    split
    . next f hf => simp [htail] at hf
    . next c' rest' hc =>
      obtain ⟨rfl, rfl⟩ : .ok c = c' ∧ rest = rest' := by simpa [htail] using hc
      rfl

theorem readStringFrom_quote (read : List Char) (s rest : List Char)
    : readStringFrom (.ok read) (s.flatMap escape ++ '"' :: rest)
        = (.ok (String.ofList (read.reverse ++ s)), .ok rest) := by
  induction s generalizing read with
  | nil =>
    rw [List.flatMap_nil, List.nil_append, readStringFrom, List.append_nil]
    rfl
  | cons c s ih =>
    rw [List.flatMap_cons, List.append_assoc, readStringFrom_escape, ih]
    simp

theorem readString_quote (s : String) (rest : List Char)
    : readString (s.toList.flatMap escape ++ '"' :: rest) = (.ok s, .ok rest) := by
  rw [readString, readStringFrom_quote]
  simp

/-! ### Numbers -/

def EndsNumber (rest : List Char) : Prop :=
  ∀ c ∈ rest.head?, isDigit c = false ∧ c ≠ '.' ∧ c ≠ 'e' ∧ c ≠ 'E'

theorem isDigit_digit : ∀ n < 10, isDigit (Numeral.digit n) = true := by
  decide

theorem isDigit_of_mem_decimalChars {c : Char} {n : Nat} (h : c ∈ Numeral.decimalChars n)
    : isDigit c = true := by
  fun_induction Numeral.decimalChars n with
  | case1 n hn =>
    obtain rfl := List.mem_singleton.1 h
    exact isDigit_digit n hn
  | case2 n hn ih =>
    rcases List.mem_append.1 h with h | h
    . exact ih h
    . obtain rfl := List.mem_singleton.1 h
      exact isDigit_digit _ (Nat.mod_lt n (by decide))

theorem head?_decimalChars {n : Nat} (h : (Numeral.decimalChars n).head? = some '0')
    : n = 0 := by
  fun_induction Numeral.decimalChars n with
  | case1 n hn =>
    have hvalue := Numeral.digitValue?_digit hn
    have hdigit : Numeral.digit n = '0' := by simpa using h
    rw [hdigit] at hvalue
    simpa [Numeral.digitValue?] using hvalue.symm
  | case2 n hn ih =>
    obtain ⟨c, cs, hcs⟩ := List.exists_cons_of_ne_nil (Numeral.decimalChars_ne_nil (n / 10))
    rw [hcs] at h ih
    have := ih (by simpa using h)
    omega

theorem readAfterWhole_of_endsNumber {rest : List Char} (h : EndsNumber rest) (negative : Bool)
    (digits : List Char)
    : readAfterWhole negative digits rest = (wholeNumber negative digits, .ok rest) := by
  unfold readAfterWhole
  split
  . exact absurd rfl (h '.' rfl).2.1
  . exact absurd rfl (h 'e' rfl).2.2.1
  . exact absurd rfl (h 'E' rfl).2.2.2
  . rfl

theorem takeWhile_digits {digits rest : List Char} (hdigits : ∀ c ∈ digits, isDigit c = true)
    (h : EndsNumber rest)
    : (digits ++ rest).takeWhile isDigit = digits ∧ (digits ++ rest).dropWhile isDigit = rest := by
  rw [List.takeWhile_append_of_pos hdigits, List.dropWhile_append_of_pos hdigits]
  cases rest with
  | nil => simp
  | cons c rest => simp [(h c rfl).1]

theorem readDigits_decimalChars {rest : List Char} (h : EndsNumber rest) (negative : Bool) (n : Nat)
    : readDigits negative (Numeral.decimalChars n ++ rest)
        = (wholeNumber negative (Numeral.decimalChars n), .ok rest) := by
  by_cases hn : n = 0
  . subst hn
    have hzero : Numeral.decimalChars 0 = ['0'] := by
      rw [Numeral.decimalChars]
      rfl
    have hhead : ((rest.head?.map isDigit).getD false) = false := by
      cases hc : rest.head? with
      | none => rfl
      | some c => simpa using (h c hc).1
    rw [hzero, List.singleton_append, readDigits, hhead, readAfterWhole_of_endsNumber h]
    rfl
  . have hdigits := fun c => @isDigit_of_mem_decimalChars c n
    have hhead := fun h => hn (@head?_decimalChars n h)
    obtain ⟨c, cs, hcs⟩ := List.exists_cons_of_ne_nil (Numeral.decimalChars_ne_nil n)
    rw [hcs] at hdigits hhead ⊢
    obtain ⟨hc, hall⟩ := List.forall_mem_cons.1 hdigits
    have hzero : c ≠ '0' := by simpa using hhead
    obtain ⟨htake, hdrop⟩ := takeWhile_digits hall h
    rw [List.cons_append, readDigits.eq_3 _ _ _ hzero, if_pos hc, htake, hdrop,
      readAfterWhole_of_endsNumber h]

def IsExact (i : Int) : Prop :=
  -9223372036854775808 ≤ i ∧ i < 18446744073709551616

theorem value?_decimalChars (n : Nat) : Numeral.value? (Numeral.decimalChars n) = some n := by
  simpa [Numeral.decimal] using Numeral.value?_decimal n

theorem toList_decimalInt_ofNat (n : Nat)
    : (Numeral.decimalInt (.ofNat n)).toList = Numeral.decimalChars n := by
  simp [Numeral.decimalInt, Numeral.decimal]

theorem toList_decimalInt_negSucc (n : Nat)
    : (Numeral.decimalInt (.negSucc n)).toList = '-' :: Numeral.decimalChars (n + 1) := by
  simp [Numeral.decimalInt, Numeral.decimal]

theorem exists_decimalChars_eq_cons (n : Nat)
    : ∃ c cs, Numeral.decimalChars n = c :: cs ∧ isDigit c = true := by
  obtain ⟨c, cs, hcs⟩ := List.exists_cons_of_ne_nil (Numeral.decimalChars_ne_nil n)
  exact ⟨c, cs, hcs, isDigit_of_mem_decimalChars (n := n) (by simp [hcs])⟩

theorem exists_decimalInt_eq_cons (i : Int)
    : ∃ c cs, (Numeral.decimalInt i).toList = c :: cs ∧ (c = '-' ∨ isDigit c = true) := by
  cases i with
  | ofNat n =>
    obtain ⟨c, cs, hcs, hc⟩ := exists_decimalChars_eq_cons n
    exact ⟨c, cs, by rw [toList_decimalInt_ofNat, hcs], .inr hc⟩
  | negSucc n => exact ⟨_, _, toList_decimalInt_negSucc n, .inl rfl⟩

theorem readNumber_decimalInt {i : Int} (hi : IsExact i) {rest : List Char} (h : EndsNumber rest)
    : readNumber ((Numeral.decimalInt i).toList ++ rest) = (.ok (.integer i), .ok rest) := by
  obtain ⟨hlow, hhigh⟩ := hi
  cases i with
  | ofNat n =>
    have hlt : n < UInt64.size := by
      simp only [UInt64.size]
      simp at hhigh
      omega
    obtain ⟨c, cs, hcs, hc⟩ := exists_decimalChars_eq_cons n
    have hminus : c ≠ '-' := by
      rintro rfl
      cases hc
    have hread : readNumber (Numeral.decimalChars n ++ rest)
        = readDigits false (Numeral.decimalChars n ++ rest) := by
      rw [hcs, List.cons_append, readNumber]
      simpa using hminus
    rw [toList_decimalInt_ofNat, hread, readDigits_decimalChars h, wholeNumber,
      value?_decimalChars]
    simp [hlt]
  | negSucc n =>
    have hle : n + 1 ≤ 9223372036854775808 := by omega
    rw [toList_decimalInt_negSucc, List.cons_append, readNumber, readDigits_decimalChars h,
      wholeNumber, value?_decimalChars]
    simp [hle, Int.negSucc_eq]

/-! ### Values -/

inductive Exact : Json → Prop where
  | null : Exact .null
  | bool (b : Bool) : Exact (.bool b)
  | number {i : Int} (h : IsExact i) : Exact (.number i)
  | string (s : String) : Exact (.string s)
  | array {js : List Json} (h : ∀ j ∈ js, Exact j) : Exact (.array js)
  | object {ms : List (String × Json)} (h : ∀ m ∈ ms, Exact m.2) : Exact (.object ms)

attribute [simp] Exact.null Exact.bool Exact.string

@[simp]
theorem exact_number_iff {i : Int} : Exact (.number i) ↔ IsExact i where
  mp | .number h => h
  mpr := .number

@[simp]
theorem exact_array_iff {js : List Json} : Exact (.array js) ↔ ∀ j ∈ js, Exact j where
  mp | .array h => h
  mpr := .array

@[simp]
theorem exact_object_iff {ms : List (String × Json)}
    : Exact (.object ms) ↔ ∀ m ∈ ms, Exact m.2 where
  mp | .object h => h
  mpr := .object

structure Layout.IsBlank (layout : Layout) : Prop where
  lineBreak : ∀ depth, ∀ c ∈ layout.lineBreak depth, isSpace c = true
  colon : ∃ blanks, layout.colon = ':' :: blanks ∧ ∀ c ∈ blanks, isSpace c = true

theorem Layout.isBlank_indented : indented.IsBlank where
  lineBreak depth c hc := by
    simp only [indented, List.mem_cons, List.mem_replicate] at hc
    rcases hc with rfl | ⟨-, rfl⟩ <;> decide
  colon := ⟨[' '], rfl, by simp [isSpace]⟩

theorem Layout.isBlank_dense : dense.IsBlank where
  lineBreak depth c hc := by
    rw [dense] at hc
    cases hc
  colon := ⟨[], rfl, nofun⟩

theorem skipSpace_append {blanks : List Char} (h : ∀ c ∈ blanks, isSpace c = true)
    (rest : List Char)
    : skipSpace (blanks ++ rest) = skipSpace rest :=
  List.dropWhile_append_of_pos h

theorem skipSpace_cons {c : Char} (h : isSpace c = false) (rest : List Char)
    : skipSpace (c :: rest) = c :: rest := by
  simp [skipSpace, h]

theorem readValue_append {blanks : List Char} (h : ∀ c ∈ blanks, isSpace c = true) (fuel : Nat)
    (rest : List Char)
    : readValue fuel (blanks ++ rest) = readValue fuel rest := by
  cases fuel with
  | zero => rw [readValue, readValue]
  | succ fuel => rw [readValue, readValue, skipSpace_append h]

theorem endsNumber_append {blanks rest : List Char} (h : ∀ c ∈ blanks, isSpace c = true)
    (hrest : EndsNumber rest)
    : EndsNumber (blanks ++ rest) := by
  cases blanks with
  | nil => exact hrest
  | cons c blanks =>
    have hc : isSpace c = true := h c (by simp)
    intro d hd
    obtain rfl : c = d := by simpa using hd
    simp only [isSpace, Bool.or_eq_true, beq_iff_eq] at hc
    rcases hc with ((rfl | rfl) | rfl) | rfl <;> decide

theorem endsNumber_cons {c : Char} (h : c = ',' ∨ c = ']' ∨ c = '}') (rest : List Char)
    : EndsNumber (c :: rest) := by
  intro d hd
  obtain rfl : c = d := by simpa using hd
  rcases h with rfl | rfl | rfl <;> decide

theorem ne_of_isDigit {c : Char} (h : c = '-' ∨ isDigit c = true)
    : isSpace c = false ∧ c ≠ ']' ∧ c ≠ '{' ∧ c ≠ '[' ∧ c ≠ '"' ∧ c ≠ 'n' ∧ c ≠ 't' ∧ c ≠ 'f' := by
  rcases h with rfl | h
  . decide
  . refine ⟨?_, ?_, ?_, ?_, ?_, ?_, ?_, ?_⟩
    . rw [← Bool.not_eq_true]
      intro hc
      simp only [isSpace, Bool.or_eq_true, beq_iff_eq] at hc
      rcases hc with ((rfl | rfl) | rfl) | rfl <;> cases h
    all_goals
      rintro rfl
      cases h

section Values

variable {layout : Layout} {j : Json}

theorem exists_write_eq_cons (layout : Layout) (depth : Nat) (j : Json)
    : ∃ c cs, write layout depth j = c :: cs ∧ isSpace c = false ∧ c ≠ ']' := by
  cases j with
  | null => exact ⟨_, _, rfl, by decide, by decide⟩
  | bool b => cases b <;> exact ⟨_, _, rfl, by decide, by decide⟩
  | number i =>
    obtain ⟨c, cs, hcs, hc⟩ := exists_decimalInt_eq_cons i
    exact ⟨c, cs, hcs, (ne_of_isDigit hc).1, (ne_of_isDigit hc).2.1⟩
  | string s => exact ⟨_, _, rfl, by decide, by decide⟩
  | array js => cases js <;> exact ⟨_, _, rfl, by decide, by decide⟩
  | object ms => cases ms <;> exact ⟨_, _, rfl, by decide, by decide⟩

def Reads (layout : Layout) (j : Json) : Prop :=
  ∀ (fuel depth : Nat) (rest : List Char), (write layout depth j).length ≤ fuel → EndsNumber rest →
    readValue fuel (write layout depth j ++ rest) = (toDraft j, .ok rest)

section Items

variable {fuel depth : Nat} {text more : List Char}

theorem readItems_first (hlayout : layout.IsBlank)
    (hread : readValue fuel (write layout depth j ++ more) = (toDraft j, .ok more))
    : readItems (fuel + 1) true (layout.lineBreak depth ++ write layout depth j ++ more)
        = (toDraft j :: (readItems fuel false more).1, (readItems fuel false more).2) := by
  obtain ⟨c, cs, hcs, hspace, hbracket⟩ := exists_write_eq_cons layout depth j
  rw [hcs] at hread ⊢
  rw [List.append_assoc, readItems, skipSpace_append (hlayout.lineBreak depth), List.cons_append,
    skipSpace_cons hspace]
  rw [List.cons_append] at hread
  simp [hbracket, hread]

theorem readItems_next (hlayout : layout.IsBlank)
    (hread : readValue fuel (write layout depth j ++ more) = (toDraft j, .ok more))
    : readItems (fuel + 1) false (',' :: layout.lineBreak depth ++ write layout depth j ++ more)
        = (toDraft j :: (readItems fuel false more).1, (readItems fuel false more).2) := by
  obtain ⟨c, cs, hcs, hspace, hbracket⟩ := exists_write_eq_cons layout depth j
  rw [hcs] at hread ⊢
  rw [List.append_assoc, List.cons_append, readItems, skipSpace_cons (by decide)]
  rw [List.cons_append] at hread
  simp [skipSpace_append (hlayout.lineBreak depth), skipSpace_cons hspace, hbracket, hread]

theorem readItems_writeItems (hlayout : layout.IsBlank) {js : List Json}
    (hjs : ∀ j ∈ js, Reads layout j) {blanks : List Char} (hblanks : ∀ c ∈ blanks, isSpace c = true)
    (hfuel : (writeItems layout depth js).length < fuel) (rest : List Char)
    : EndsNumber (writeItems layout depth js ++ blanks ++ ']' :: rest)
      ∧ readItems fuel false (writeItems layout depth js ++ blanks ++ ']' :: rest)
        = (toDrafts js, .ok rest) := by
  induction js generalizing fuel with
  | nil =>
    obtain ⟨fuel, rfl⟩ := Nat.exists_eq_succ_of_ne_zero (Nat.ne_zero_of_lt hfuel)
    refine ⟨endsNumber_append hblanks (endsNumber_cons (.inr (.inl rfl)) rest), ?_⟩
    rw [writeItems, List.nil_append, readItems, skipSpace_append hblanks,
      skipSpace_cons (by decide)]
    rfl
  | cons j js ih =>
    obtain ⟨hj, hjs⟩ := List.forall_mem_cons.1 hjs
    obtain ⟨fuel, rfl⟩ := Nat.exists_eq_succ_of_ne_zero (Nat.ne_zero_of_lt hfuel)
    simp only [writeItems, List.length_cons, List.length_append] at hfuel
    have hfuel' : (writeItems layout depth js).length < fuel := by omega
    obtain ⟨hmore, hrest⟩ := ih hjs hfuel'
    refine ⟨endsNumber_cons (.inl rfl) _, ?_⟩
    have hnext := readItems_next hlayout (hj fuel depth _ (by omega) hmore)
    rw [hrest] at hnext
    simpa [writeItems, toDrafts] using hnext

end Items

section Members

variable {fuel depth : Nat} {text more : List Char} {m : String × Json}

theorem toDraftMember_eq (m : String × Json) : toDraftMember m = (.ok m.1, toDraft m.2) := by
  cases m
  rw [toDraftMember]

theorem writeMember_append (layout : Layout) (depth : Nat) (m : String × Json) (more : List Char)
    : writeMember layout depth m ++ more
        = '"' :: (m.1.toList.flatMap escape
          ++ '"' :: (layout.colon ++ (write layout depth m.2 ++ more))) := by
  cases m
  simp [writeMember, quote]

theorem readMember_writeMember (hlayout : layout.IsBlank)
    (hread : readValue fuel (write layout depth m.2 ++ more) = (toDraft m.2, .ok more))
    : ∃ cs blanks, writeMember layout depth m ++ more = '"' :: cs
        ∧ readString cs = (.ok m.1, .ok (':' :: (blanks ++ (write layout depth m.2 ++ more))))
        ∧ readValue fuel (blanks ++ (write layout depth m.2 ++ more))
          = (toDraft m.2, .ok more) := by
  obtain ⟨blanks, hcolon, hblanks⟩ := hlayout.colon
  refine ⟨_, blanks, writeMember_append layout depth m more, ?_, ?_⟩
  . rw [readString_quote, hcolon]
    rfl
  . rw [readValue_append hblanks, hread]

theorem readMembers_first (hlayout : layout.IsBlank)
    (hread : readValue fuel (write layout depth m.2 ++ more) = (toDraft m.2, .ok more))
    : readMembers (fuel + 1) true (layout.lineBreak depth ++ writeMember layout depth m ++ more)
        = (toDraftMember m :: (readMembers fuel false more).1,
          (readMembers fuel false more).2) := by
  obtain ⟨cs, blanks, hmember, hkey, hvalue⟩ := readMember_writeMember hlayout hread
  rw [List.append_assoc, hmember, readMembers, skipSpace_append (hlayout.lineBreak depth),
    skipSpace_cons (by decide)]
  have hcolon := skipSpace_cons (c := ':') (by decide)
  simp [hkey, hcolon, hvalue, toDraftMember_eq]

theorem readMembers_next (hlayout : layout.IsBlank)
    (hread : readValue fuel (write layout depth m.2 ++ more) = (toDraft m.2, .ok more))
    : readMembers (fuel + 1) false
          (',' :: layout.lineBreak depth ++ writeMember layout depth m ++ more)
        = (toDraftMember m :: (readMembers fuel false more).1,
          (readMembers fuel false more).2) := by
  obtain ⟨cs, blanks, hmember, hkey, hvalue⟩ := readMember_writeMember hlayout hread
  rw [List.append_assoc, hmember, List.cons_append, readMembers, skipSpace_cons (by decide)]
  have hcolon := skipSpace_cons (c := ':') (by decide)
  have hquote := skipSpace_cons (c := '"') (by decide)
  simp [skipSpace_append (hlayout.lineBreak depth), hquote, hkey, hcolon, hvalue,
    toDraftMember_eq]

theorem length_write_le_writeMember (layout : Layout) (depth : Nat) (m : String × Json)
    : (write layout depth m.2).length ≤ (writeMember layout depth m).length := by
  cases m
  simp [writeMember]
  omega

theorem readMembers_writeMembers (hlayout : layout.IsBlank) {ms : List (String × Json)}
    (hms : ∀ m ∈ ms, Reads layout m.2) {blanks : List Char}
    (hblanks : ∀ c ∈ blanks, isSpace c = true)
    (hfuel : (writeMembers layout depth ms).length < fuel) (rest : List Char)
    : EndsNumber (writeMembers layout depth ms ++ blanks ++ '}' :: rest)
      ∧ readMembers fuel false (writeMembers layout depth ms ++ blanks ++ '}' :: rest)
        = (toDraftMembers ms, .ok rest) := by
  induction ms generalizing fuel with
  | nil =>
    obtain ⟨fuel, rfl⟩ := Nat.exists_eq_succ_of_ne_zero (Nat.ne_zero_of_lt hfuel)
    refine ⟨endsNumber_append hblanks (endsNumber_cons (.inr (.inr rfl)) rest), ?_⟩
    rw [writeMembers, List.nil_append, readMembers, skipSpace_append hblanks,
      skipSpace_cons (by decide)]
    rfl
  | cons m ms ih =>
    obtain ⟨hm, hms⟩ := List.forall_mem_cons.1 hms
    obtain ⟨fuel, rfl⟩ := Nat.exists_eq_succ_of_ne_zero (Nat.ne_zero_of_lt hfuel)
    have hle := length_write_le_writeMember layout depth m
    simp only [writeMembers, List.length_cons, List.length_append] at hfuel
    have hfuel' : (writeMembers layout depth ms).length < fuel := by omega
    obtain ⟨hmore, hrest⟩ := ih hms hfuel'
    refine ⟨endsNumber_cons (.inl rfl) _, ?_⟩
    have hnext := readMembers_next hlayout (hm fuel depth _ (by omega) hmore)
    rw [hrest] at hnext
    simpa [writeMembers, toDraftMembers] using hnext

end Members

theorem reads_number (layout : Layout) {i : Int} (hi : IsExact i) : Reads layout (.number i) := by
  intro fuel depth rest hfuel hrest
  obtain ⟨c, cs, hcs, hc⟩ := exists_decimalInt_eq_cons i
  obtain ⟨fuel, rfl⟩ : ∃ n, fuel = n + 1 := by
    apply Nat.exists_eq_succ_of_ne_zero
    rintro rfl
    simp [write, hcs] at hfuel
  obtain ⟨hspace, hbracket, hbrace, hopen, hquote, hn, ht, hf⟩ := ne_of_isDigit hc
  have hread := readNumber_decimalInt hi hrest
  rw [hcs, List.cons_append] at hread
  rw [write, hcs, List.cons_append, readValue, skipSpace_cons hspace]
  simp [hc, hread, toDraft]

theorem reads_array (hlayout : layout.IsBlank) {js : List Json} (hjs : ∀ j ∈ js, Reads layout j)
    : Reads layout (.array js) := by
  intro fuel depth rest hfuel hrest
  cases js with
  | nil =>
    obtain ⟨fuel, rfl⟩ := Nat.exists_eq_add_of_le' hfuel
    simp [write, readValue, readItems, skipSpace, isSpace, toDraft, toDrafts, Rest.fault?]
  | cons j js =>
    obtain ⟨hj, hjs⟩ := List.forall_mem_cons.1 hjs
    have hpos : 0 < (write layout (depth + 1) j).length := by
      obtain ⟨c, cs, hcs, -⟩ := exists_write_eq_cons layout (depth + 1) j
      simp [hcs]
    simp only [write, List.cons_append, List.length_cons, List.length_append] at hfuel
    -- the bracket pays for the array itself, the first item for the list of items
    obtain ⟨fuel, rfl⟩ : ∃ n, fuel = n + 2 := Nat.exists_eq_add_of_le' (by omega)
    have hfuel' : (writeItems layout (depth + 1) js).length < fuel := by omega
    obtain ⟨hmore, hitems⟩ :=
      readItems_writeItems hlayout hjs (hlayout.lineBreak depth) hfuel' rest
    have hfirst := readItems_first hlayout (hj fuel (depth + 1) _ (by omega) hmore)
    rw [hitems] at hfirst
    have hwrite : write layout depth (.array (j :: js)) ++ rest
        = '[' :: (layout.lineBreak (depth + 1) ++ write layout (depth + 1) j
          ++ (writeItems layout (depth + 1) js ++ layout.lineBreak depth ++ ']' :: rest)) := by
      simp [write]
    rw [hwrite, readValue, skipSpace_cons (by decide)]
    simp only [hfirst]
    rfl

theorem reads_object (hlayout : layout.IsBlank) {ms : List (String × Json)}
    (hms : ∀ m ∈ ms, Reads layout m.2)
    : Reads layout (.object ms) := by
  intro fuel depth rest hfuel hrest
  cases ms with
  | nil =>
    obtain ⟨fuel, rfl⟩ := Nat.exists_eq_add_of_le' hfuel
    simp [write, readValue, readMembers, skipSpace, isSpace, toDraft, toDraftMembers, Rest.fault?]
  | cons m ms =>
    obtain ⟨hm, hms⟩ := List.forall_mem_cons.1 hms
    have hle := length_write_le_writeMember layout (depth + 1) m
    have hpos : 0 < (write layout (depth + 1) m.2).length := by
      obtain ⟨c, cs, hcs, -⟩ := exists_write_eq_cons layout (depth + 1) m.2
      simp [hcs]
    simp only [write, List.cons_append, List.length_cons, List.length_append] at hfuel
    obtain ⟨fuel, rfl⟩ : ∃ n, fuel = n + 2 := Nat.exists_eq_add_of_le' (by omega)
    have hfuel' : (writeMembers layout (depth + 1) ms).length < fuel := by omega
    obtain ⟨hmore, hmembers⟩ :=
      readMembers_writeMembers hlayout hms (hlayout.lineBreak depth) hfuel' rest
    have hfirst := readMembers_first hlayout
      (hm fuel (depth + 1) _ (by omega) hmore)
    rw [hmembers] at hfirst
    have hwrite : write layout depth (.object (m :: ms)) ++ rest
        = '{' :: (layout.lineBreak (depth + 1) ++ writeMember layout (depth + 1) m
          ++ (writeMembers layout (depth + 1) ms ++ layout.lineBreak depth ++ '}' :: rest)) := by
      simp [write]
    rw [hwrite, readValue, skipSpace_cons (by decide)]
    simp only [hfirst]
    rfl

/-- A value that is written in a layout that only adds blanks is read back. -/
theorem reads_of_exact (hlayout : layout.IsBlank) (hj : j.Exact) : Reads layout j := by
  -- what stands behind the value and the depth of its layout are different for every part
  induction hj with
  | null =>
    intro fuel depth rest hfuel _
    obtain ⟨fuel, rfl⟩ := Nat.exists_eq_add_of_le' hfuel
    simp [write, readValue, skipSpace, isSpace, readLiteral, readWord, toDraft]
  | bool b =>
    intro fuel depth rest hfuel _
    cases b <;>
      obtain ⟨fuel, rfl⟩ := Nat.exists_eq_add_of_le' hfuel <;>
      simp [write, readValue, skipSpace, isSpace, readLiteral, readWord, toDraft]
  | number hi => exact reads_number layout hi
  | string s =>
    intro fuel depth rest hfuel _
    obtain ⟨fuel, rfl⟩ : ∃ n, fuel = n + 1 := by
      apply Nat.exists_eq_succ_of_ne_zero
      rintro rfl
      simp [write, quote] at hfuel
    have hwrite : write layout depth (.string s) ++ rest
        = '"' :: (s.toList.flatMap escape ++ '"' :: rest) := by
      simp [write, quote]
    rw [hwrite, readValue, skipSpace_cons (by decide)]
    simp only [readString_quote]
    rfl
  | array _ ih => exact reads_array hlayout ih
  | object _ ih => exact reads_object hlayout ih

theorem read_write (hlayout : layout.IsBlank) (hj : j.Exact)
    : Draft.read (String.ofList (write layout 0 j)) = (toDraft j, none) := by
  have hread := reads_of_exact hlayout hj (2 * (write layout 0 j).length + 2) 0 [] (by omega) nofun
  rw [List.append_nil] at hread
  simp [Draft.read, hread, skipSpace]

end Values

end Json
end FeatureRunner
