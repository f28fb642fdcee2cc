import FeatureRunner.Json.Decode
import Mathlib.Data.List.Forall2
import Mathlib.Logic.Function.Basic

/-!
This module contains the reading of records from objects in which members are missing, stand in
another order or are unknown. `Restores` is what has to be shown about the members of a record, one
by one, and `record_of_isPart` what follows for every such object.
-/

namespace FeatureRunner
namespace Json

def readable (ms : List (String × Draft)) : List (Except Fault String × Draft) :=
  ms.map fun (key, d) => (.ok key, d)

@[simp]
theorem readable_nil : readable [] = [] := rfl

@[simp]
theorem readable_cons (key : String) (d : Draft) (ms : List (String × Draft))
    : readable ((key, d) :: ms) = (.ok key, d) :: readable ms := rfl

/--
The members are some of `whole` in any order, among members with other keys, which may be anything
and may come again and again.
-/
structure IsPart (whole ms : List (String × Draft)) : Prop where
  /-- A known key has its value. -/
  mem_of_known : ∀ m ∈ ms, m.1 ∈ whole.map Prod.fst → m ∈ whole
  /-- A known key comes once. -/
  pairwise : ms.Pairwise fun a b => a.1 ∈ whole.map Prod.fst → a.1 ≠ b.1

@[simp]
theorem isPart_nil (whole : List (String × Draft)) : IsPart whole [] where
  mem_of_known := nofun
  pairwise := .nil

theorem IsPart.refl (hnodup : (whole.map Prod.fst).Nodup) : IsPart whole whole where
  mem_of_known _ hm _ := hm
  pairwise := by
    apply (List.pairwise_map.1 hnodup).imp
    intro a b hne _
    exact hne

def members : Json → List (String × Json)
  | .object ms => ms
  | _ => []

def memberDrafts (j : Json) : List (String × Draft) :=
  j.members.map fun (key, value) => (key, toDraft value)

theorem toDraftMembers_eq (ms : List (String × Json))
    : toDraftMembers ms = readable (memberDrafts (.object ms)) := by
  induction ms with
  | nil => rfl
  | cons m ms ih =>
    obtain ⟨key, j⟩ := m
    rw [toDraftMembers, toDraftMember, ih]
    rfl

theorem toDraft_object (ms : List (String × Json))
    : toDraft (.object ms) = .object (readable (memberDrafts (.object ms))) none := by
  rw [toDraft, toDraftMembers_eq]

namespace Decode

/-! ### Written values -/

@[simp]
theorem bool_toDraft (b : Bool) : bool (toDraft (.bool b)) = .ok b := rfl

@[simp]
theorem string_toDraft (s : String) : string (toDraft (.string s)) = .ok s := rfl

@[simp]
theorem option_string_toDraft (a : Option String)
    : option string (toDraft (Json.ofOption .string a)) = .ok a := by
  cases a <;> rfl

theorem integer_toDraft {low high i : Int} (hlow : low ≤ i) (hhigh : i ≤ high)
    : integer low high (toDraft (.number i)) = .ok i := by
  simp [integer, toDraft, hlow, hhigh]

@[simp]
theorem int32_toDraft (i : Int32) : int32 (toDraft (.number i.toInt)) = .ok i := by
  have hlow := i.le_toInt
  have hhigh := i.toInt_lt
  rw [int32, integer_toDraft (by omega) (by omega)]
  simp [Except.map]

@[simp]
theorem uint32_toDraft (n : UInt32) : uint32 (toDraft (Json.ofNat n.toNat)) = .ok n := by
  have hhigh := n.toNat_lt
  rw [uint32, Json.ofNat, integer_toDraft (by omega) (by omega)]
  simp [Except.map]

@[simp]
theorem option_uint32_toDraft (n : UInt32)
    : option uint32 (toDraft (Json.ofNat n.toNat)) = .ok (some n) := by
  change (uint32 (toDraft (Json.ofNat n.toNat))).map some = _
  rw [uint32_toDraft]
  rfl

/-! ### Members -/

theorem record_toDraft_object (origin : Origin) (members : List (Member σ)) (blank : σ)
    (ms : List (String × Json))
    : record origin members blank (toDraft (.object ms))
        = ofMembers members [] blank (readable (memberDrafts (.object ms))) := by
  rw [toDraft_object, record]
  cases ofMembers members [] blank (readable (memberDrafts (.object ms))) <;> rfl

/--
The members of a record turn the drafts `whole` into the record that keeps every key, one key after
the other: `keeping kept` is the record in which the keys outside `kept` are as in `blank`.
-/
structure Restores (members : List (Member σ)) (blank : σ) (whole : List (String × Draft))
    (keeping : (String → Bool) → σ) : Prop where
  start : (keeping fun _ => false) = blank
  nodup : (whole.map Prod.fst).Nodup
  set : List.Forall₂ (fun m w => m.key = w.1 ∧ ∀ kept,
    m.set w.2 (keeping kept) = .ok (keeping (Function.update kept w.1 true))) members whole
  congr : ∀ {kept kept'}, (∀ key ∈ whole.map Prod.fst, kept key = kept' key) →
    keeping kept = keeping kept'

section Restores

variable {members : List (Member σ)} {blank : σ} {whole : List (String × Draft)}
variable {keeping : (String → Bool) → σ}

theorem find?_eq_none_of_forall₂ {R : Member σ → String × Draft → Prop}
    (hkey : ∀ m w, R m w → m.key = w.1) (h : List.Forall₂ R members whole)
    (hunknown : key ∉ whole.map Prod.fst)
    : members.find? (·.key == key) = none := by
  induction h with
  | nil => rfl
  | @cons m w members whole hm _ ih =>
    simp only [List.map_cons, List.mem_cons, not_or] at hunknown
    have hne : m.key ≠ key := by
      rw [hkey m w hm]
      exact Ne.symm hunknown.1
    rw [List.find?_cons_of_neg (by simpa using hne)]
    exact ih hunknown.2

theorem exists_find?_of_forall₂ {R : Member σ → String × Draft → Prop}
    (hkey : ∀ m w, R m w → m.key = w.1) (h : List.Forall₂ R members whole)
    (hnodup : (whole.map Prod.fst).Nodup) (hw : w ∈ whole)
    : ∃ m, members.find? (·.key == w.1) = some m ∧ R m w := by
  induction h with
  | nil => simp at hw
  | @cons m w' members whole hm _ ih =>
    rw [List.map_cons, List.nodup_cons] at hnodup
    rcases List.mem_cons.1 hw with rfl | hw
    . have heq : (m.key == w.1) = true := by simp [hkey m w hm]
      exact ⟨m, List.find?_cons_of_pos heq, hm⟩
    . have hne : m.key ≠ w.1 := by
        rw [hkey m w' hm]
        intro heq
        exact hnodup.1 (heq ▸ List.mem_map_of_mem hw)
      rw [List.find?_cons_of_neg (by simpa using hne)]
      exact ih hnodup.2 hw

theorem Restores.ofMembers_readable (h : Restores members blank whole keeping)
    {ms : List (String × Draft)} {seen : List String} {kept : String → Bool}
    (hms : ∀ m ∈ ms, m.1 ∈ whole.map Prod.fst → m ∈ whole ∧ m.1 ∉ seen)
    (hpair : ms.Pairwise fun a b => a.1 ∈ whole.map Prod.fst → a.1 ≠ b.1)
    : ofMembers members seen (keeping kept) (readable ms)
        = .ok (keeping fun key => kept key || key ∈ ms.map Prod.fst) := by
  induction ms generalizing seen kept with
  | nil => simp [ofMembers]
  | cons m ms ih =>
    obtain ⟨key, d⟩ := m
    obtain ⟨hm, hrest⟩ := List.forall_mem_cons.1 hms
    obtain ⟨hfirst, hpair⟩ := List.pairwise_cons.1 hpair
    rw [readable_cons, ofMembers]
    by_cases hknown : key ∈ whole.map Prod.fst
    -- a known key has not been seen yet, and no later member has it again
    . obtain ⟨hmem, hnew⟩ := hm hknown
      obtain ⟨m, hfind, -, hset⟩ := exists_find?_of_forall₂ (fun _ _ h => h.1) h.set h.nodup hmem
      simp only [hfind, if_neg hnew, hset]
      have hlater : ∀ m ∈ ms, m.1 ∈ whole.map Prod.fst → m ∈ whole ∧ m.1 ∉ key :: seen := by
        intro m hm hk
        obtain ⟨hw, hns⟩ := hrest m hm hk
        exact ⟨hw, List.not_mem_cons_of_ne_of_not_mem (Ne.symm (hfirst m hm hknown)) hns⟩
      rw [ih hlater hpair]
      congr 2
      funext k
      by_cases hk : k = key <;> simp [List.map_cons, List.mem_cons, -List.mem_map, hk]
    -- a member with an unknown key is skipped, and whether its key is kept does not matter
    . have hfind := find?_eq_none_of_forall₂ (fun _ _ h => h.1) h.set hknown
      rw [hfind]
      dsimp only
      rw [ih hrest hpair]
      refine congrArg _ (h.congr ?_)
      intro k hk
      have hne : k ≠ key := fun heq => hknown (heq ▸ hk)
      simp [List.map_cons, List.mem_cons, -List.mem_map, hne]

theorem Restores.record_of_isPart (h : Restores members blank whole keeping) (hms : IsPart whole ms)
    (origin : Origin)
    : record origin members blank (.object (readable ms) none)
        = .ok (keeping fun key => key ∈ ms.map Prod.fst) := by
  have hread : ofMembers members [] (keeping fun _ => false) (readable ms)
      = .ok (keeping fun key => false || key ∈ ms.map Prod.fst) :=
    h.ofMembers_readable (fun m hm hknown => ⟨hms.mem_of_known m hm hknown, List.not_mem_nil⟩)
      hms.pairwise
  simp only [h.start, Bool.false_or] at hread
  simp only [record, hread]
  rfl

theorem Restores.record_toDraft {ms : List (String × Json)}
    (h : Restores members blank (memberDrafts (.object ms)) keeping) (origin : Origin)
    : record origin members blank (toDraft (.object ms)) = .ok (keeping fun _ => true) := by
  rw [toDraft_object, h.record_of_isPart (.refl h.nodup) origin]
  refine congrArg _ (h.congr ?_)
  intro key hkey
  exact decide_eq_true hkey

end Restores

end Decode
end Json
end FeatureRunner
