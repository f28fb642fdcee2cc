/-!
This module contains `TagSet`, a finite set of tag names that is listed in code point order without
repetition. The main statements are `mem_insert` and `ext`: a set is given by its members.
-/

namespace FeatureRunner

/-- A set of tags, kept as its strictly ascending list. -/
structure TagSet where
  toList : List String
  ascending : toList.Pairwise (· < ·) := by simp
  deriving DecidableEq

namespace TagSet

instance : Membership String TagSet := ⟨fun s t => t ∈ s.toList⟩

instance (t : String) (s : TagSet) : Decidable (t ∈ s) :=
  inferInstanceAs (Decidable (t ∈ s.toList))

def empty : TagSet := { toList := [] }

instance : EmptyCollection TagSet := ⟨empty⟩

instance : Inhabited TagSet := ⟨empty⟩

/-- A tag put at its place in an ascending list, unless it is there already. -/
def insertList (t : String) : List String → List String
  | [] => [t]
  | u :: us => if t < u then t :: u :: us else if t = u then u :: us else u :: insertList t us

theorem mem_insertList {t u : String} {us : List String}
    : t ∈ insertList u us ↔ t = u ∨ t ∈ us := by
  induction us with
  | nil => simp [insertList]
  | cons v vs ih => grind [insertList]

theorem pairwise_insertList {t : String} {us : List String} (h : us.Pairwise (· < ·))
    : (insertList t us).Pairwise (· < ·) := by
  induction us with
  | nil => simp [insertList]
  | cons u us ih =>
    obtain ⟨hu, hus⟩ := List.pairwise_cons.1 h
    unfold insertList
    split
    . next htu =>
      refine List.pairwise_cons.2 ⟨fun v hv => ?_, h⟩
      rcases List.mem_cons.1 hv with rfl | hv
      . exact htu
      . exact String.lt_trans htu (hu v hv)
    . split
      . exact h
      . next hle hne =>
        refine List.pairwise_cons.2 ⟨fun v hv => ?_, ih hus⟩
        rcases mem_insertList.1 hv with rfl | hv
        . exact String.not_le.1 fun hle' => hne (String.le_antisymm hle' (String.not_lt.1 hle))
        . exact hu v hv

def insert (t : String) (s : TagSet) : TagSet where
  toList := insertList t s.toList
  ascending := pairwise_insertList s.ascending

def insertAll (s : TagSet) (ts : List String) : TagSet :=
  ts.foldl (fun s t => s.insert t) s

def ofList (ts : List String) : TagSet :=
  insertAll ∅ ts

theorem mem_def {t : String} {s : TagSet} : t ∈ s ↔ t ∈ s.toList := Iff.rfl

@[simp]
theorem not_mem_empty {t : String} : ¬ t ∈ (∅ : TagSet) := List.not_mem_nil

@[simp]
theorem mem_insert {t u : String} {s : TagSet} : t ∈ s.insert u ↔ t = u ∨ t ∈ s :=
  mem_insertList

@[simp]
theorem mem_insertAll {t : String} {s : TagSet} {ts : List String}
    : t ∈ s.insertAll ts ↔ t ∈ s ∨ t ∈ ts := by
  induction ts generalizing s with
  | nil => simp [insertAll]
  | cons u us ih =>
    have : s.insertAll (u :: us) = (s.insert u).insertAll us := rfl
    rw [this, ih, mem_insert, List.mem_cons]
    grind

@[simp]
theorem mem_ofList {t : String} {ts : List String} : t ∈ ofList ts ↔ t ∈ ts := by
  simp [ofList]

theorem eq_of_ascending {us vs : List String} (hu : us.Pairwise (· < ·)) (hv : vs.Pairwise (· < ·))
    (h : ∀ t, t ∈ us ↔ t ∈ vs)
    : us = vs := by
  induction us generalizing vs with
  | nil =>
    cases vs with
    | nil => rfl
    | cons v vs => exact absurd ((h v).2 (by simp)) (by simp)
  | cons u us ih =>
    cases vs with
    | nil => exact absurd ((h u).1 (by simp)) (by simp)
    | cons v vs =>
      obtain ⟨hu1, hu2⟩ := List.pairwise_cons.1 hu
      obtain ⟨hv1, hv2⟩ := List.pairwise_cons.1 hv
      have huv : u = v := by
        rcases List.mem_cons.1 ((h u).1 (by simp)) with huv | huv
        . exact huv
        . rcases List.mem_cons.1 ((h v).2 (by simp)) with hvu | hvu
          . exact hvu.symm
          . exact absurd (String.lt_trans (hu1 v hvu) (hv1 u huv)) (String.lt_irrefl u)
      subst huv
      congr 1
      refine ih hu2 hv2 fun t => ⟨fun ht => ?_, fun ht => ?_⟩
      . rcases List.mem_cons.1 ((h t).1 (List.mem_cons_of_mem _ ht)) with rfl | ht'
        . exact absurd (hu1 t ht) (String.lt_irrefl t)
        . exact ht'
      . rcases List.mem_cons.1 ((h t).2 (List.mem_cons_of_mem _ ht)) with rfl | ht'
        . exact absurd (hv1 t ht) (String.lt_irrefl t)
        . exact ht'

@[ext]
theorem ext {s t : TagSet} (h : ∀ x, x ∈ s ↔ x ∈ t) : s = t := by
  cases s
  cases t
  congr 1
  exact eq_of_ascending ‹_› ‹_› h

end TagSet
end FeatureRunner
