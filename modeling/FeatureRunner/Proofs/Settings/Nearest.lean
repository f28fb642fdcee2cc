import FeatureRunner.Proofs.Path.Above
import FeatureRunner.Settings.Search

/-!
This module contains which file the search for settings finds, whatever there is in the file system.
`Climb` is the search as a loop: it looks into a directory, and when neither of the two names is
there it goes on with the lexical parent. The list of files that is searched gives the outcome of
that loop (`climb_iff`), so the loop ends; its outcome is the file that counts in the nearest
directory that has one (`climb_some_iff`, `climb_none_iff`).
-/

namespace FeatureRunner

namespace Path

def up : Nat → Path → Option Path
  | 0, p => some p
  | n + 1, p => p.parent?.bind (up n)

variable {p q : Path} {n : Nat}

theorem up_succ_of_parent? (h : p.parent? = some q) (n : Nat) : up (n + 1) p = up n q := by
  rw [up, h, Option.bind_some]

theorem up_cases (h : up n p = some q)
    : p = q ∨ ∃ m r, n = m + 1 ∧ p.parent? = some r ∧ up m r = some q := by
  cases n with
  | zero => exact .inl (Option.some.inj h)
  | succ m =>
    obtain ⟨r, hparent, hup⟩ := Option.bind_eq_some_iff.1 h
    exact .inr ⟨m, r, rfl, hparent, hup⟩

theorem length_up_le (h : up n p = some q) : n + q.text.length ≤ p.text.length := by
  induction n generalizing p with
  | zero =>
    obtain rfl := Option.some.inj h
    simp
  | succ n ih =>
    obtain ⟨r, hparent, hup⟩ := Option.bind_eq_some_iff.1 h
    have := length_lt_of_parent? hparent
    have := ih hup
    omega

/-- Here the way up from a path ends: at its root, or at the empty path if it is relative. -/
structure IsTop (p last : Path) : Prop where
  parent? : last.parent? = none
  root : p.isAbsolute = true → last.components = [.root]
  empty : p.isAbsolute = false → last = ⟨""⟩

theorem isTop_of_parent?_eq_none (h : p.parent? = none) : IsTop p p := by
  have hroot := isAbsolute_iff_mem (p := p)
  refine ⟨h, ?_, ?_⟩
  . intro habsolute
    rcases components_of_parent?_eq_none h with hp | hp
    . simp [hp, habsolute] at hroot
    . exact hp
  . intro hrelative
    rcases components_of_parent?_eq_none h with hp | hp
    . have hempty := isEmpty_iff_components_eq_nil.2 hp
      rw [isEmpty, String.isEmpty_iff] at hempty
      cases p
      exact congrArg Path.mk hempty
    . simp [hp, hrelative] at hroot

theorem exists_up_isTop (p : Path) : ∃ n last, up n p = some last ∧ IsTop p last := by
  fun_induction ancestors p with
  | case1 p q hparent _ ih =>
    obtain ⟨n, last, hup, hlast⟩ := ih
    have habsolute := (above_of_parent? hparent).isAbsolute
    refine ⟨n + 1, last, by rw [up_succ_of_parent? hparent, hup], hlast.parent?, ?_, ?_⟩
    . exact fun h => hlast.root (habsolute.trans h)
    . exact fun h => hlast.empty (habsolute.trans h)
  | case2 p hnone => exact ⟨0, p, rfl, isTop_of_parent?_eq_none hnone⟩

end Path

namespace Settings

/-- The settings file of a directory: the hidden one, or the other one if there is no hidden one. -/
inductive CountsIn (isThere : Path → Bool) (dir : Path) : Path → Prop where
  | hidden (h : isThere (dir.join ⟨".karate-runner.json"⟩) = true)
      : CountsIn isThere dir (dir.join ⟨".karate-runner.json"⟩)
  | plain (hhidden : isThere (dir.join ⟨".karate-runner.json"⟩) = false)
      (h : isThere (dir.join ⟨"karate-runner.json"⟩) = true)
      : CountsIn isThere dir (dir.join ⟨"karate-runner.json"⟩)

structure Bare (isThere : Path → Bool) (dir : Path) : Prop where
  hidden : isThere (dir.join ⟨".karate-runner.json"⟩) = false
  plain : isThere (dir.join ⟨"karate-runner.json"⟩) = false

/-- The search as a loop: from this directory on it comes to an end with this outcome. -/
inductive Climb (isThere : Path → Bool) : Path → Option Path → Prop where
  | found {dir file} (h : CountsIn isThere dir file) : Climb isThere dir (some file)
  | up {dir above file?} (h : Bare isThere dir) (hparent : dir.parent? = some above)
      (hrest : Climb isThere above file?) : Climb isThere dir file?
  | ended {dir} (h : Bare isThere dir) (hparent : dir.parent? = none) : Climb isThere dir none

variable {isThere : Path → Bool} {dir above file : Path} {file? : Option Path}

theorem CountsIn.not_bare (h : CountsIn isThere dir file) : ¬ Bare isThere dir := by
  intro hbare
  cases h with
  | hidden h => cases hbare.hidden.symm.trans h
  | plain _ h => cases hbare.plain.symm.trans h

section Loop

theorem find?_eq_some_of_countsIn (h : CountsIn isThere dir file)
    : (fileNames.map fun name => dir.join ⟨name⟩).find? isThere = some file := by
  cases h with
  | hidden h => simp [fileNames, mainFileName, h]
  | plain hhidden h => simp [fileNames, mainFileName, hhidden, h]

theorem find?_eq_none_of_bare (h : Bare isThere dir)
    : (fileNames.map fun name => dir.join ⟨name⟩).find? isThere = none := by
  simp [fileNames, mainFileName, h.hidden, h.plain]

theorem countsIn_or_bare (isThere : Path → Bool) (dir : Path)
    : (∃ file, CountsIn isThere dir file) ∨ Bare isThere dir := by
  cases hhidden : isThere (dir.join ⟨".karate-runner.json"⟩) with
  | true => exact .inl ⟨_, .hidden hhidden⟩
  | false =>
    cases hplain : isThere (dir.join ⟨"karate-runner.json"⟩) with
    | true => exact .inl ⟨_, .plain hhidden hplain⟩
    | false => exact .inr ⟨hhidden, hplain⟩

theorem searchedFiles_eq (dir : Path)
    : searchedFiles dir
        = (fileNames.map fun name => dir.join ⟨name⟩) ++ dir.parent?.elim [] searchedFiles := by
  rw [searchedFiles, Path.ancestors]
  split
  . next above hparent =>
    rw [List.flatMap_cons, hparent]
    rfl
  . next hnone =>
    rw [List.flatMap_cons, hnone]
    rfl

theorem Climb.find?_eq (h : Climb isThere dir file?)
    : (searchedFiles dir).find? isThere = file? := by
  induction h with
  | found h =>
    rw [searchedFiles_eq, List.find?_append, find?_eq_some_of_countsIn h, Option.some_or]
  | up h hparent hrest ih =>
    rw [searchedFiles_eq, List.find?_append, find?_eq_none_of_bare h, Option.none_or, hparent]
    exact ih
  | ended h hparent =>
    rw [searchedFiles_eq, List.find?_append, find?_eq_none_of_bare h, Option.none_or, hparent]
    rfl

theorem exists_climb (isThere : Path → Bool) (dir : Path) : ∃ file?, Climb isThere dir file? := by
  fun_induction Path.ancestors dir with
  | case1 dir above hparent _ ih =>
    rcases countsIn_or_bare isThere dir with ⟨file, h⟩ | h
    . exact ⟨some file, .found h⟩
    . obtain ⟨file?, hrest⟩ := ih
      exact ⟨file?, .up h hparent hrest⟩
  | case2 dir hnone =>
    rcases countsIn_or_bare isThere dir with ⟨file, h⟩ | h
    . exact ⟨some file, .found h⟩
    . exact ⟨none, .ended h hnone⟩

theorem climb_iff : Climb isThere dir file? ↔ (searchedFiles dir).find? isThere = file? := by
  constructor
  . exact Climb.find?_eq
  . rintro rfl
    obtain ⟨file?, h⟩ := exists_climb isThere dir
    rwa [h.find?_eq]

end Loop

section Outcome

def IsNearest (isThere : Path → Bool) (first file : Path) : Prop :=
  ∃ n dir, first.up n = some dir ∧ CountsIn isThere dir file
    ∧ ∀ m < n, ∀ nearer, first.up m = some nearer → Bare isThere nearer

def AllBare (isThere : Path → Bool) (first : Path) : Prop :=
  ∀ n dir, first.up n = some dir → Bare isThere dir

theorem IsNearest.of_parent? (h : IsNearest isThere above file) (hbare : Bare isThere dir)
    (hparent : dir.parent? = some above)
    : IsNearest isThere dir file := by
  obtain ⟨n, place, hup, hcounts, hnearer⟩ := h
  refine ⟨n + 1, place, by rw [Path.up_succ_of_parent? hparent, hup], hcounts, ?_⟩
  intro m hm nearer hnear
  rcases Path.up_cases hnear with rfl | ⟨k, q, rfl, hq, hup⟩
  . exact hbare
  . cases hparent.symm.trans hq
    exact hnearer k (by omega) nearer hup

theorem AllBare.of_parent? (h : AllBare isThere above) (hbare : Bare isThere dir)
    (hparent : dir.parent? = some above)
    : AllBare isThere dir := by
  intro n place hup
  rcases Path.up_cases hup with rfl | ⟨k, q, rfl, hq, hup⟩
  . exact hbare
  . cases hparent.symm.trans hq
    exact h k place hup

theorem IsNearest.climb (h : IsNearest isThere dir file) : Climb isThere dir (some file) := by
  obtain ⟨n, place, hup, hcounts, hnearer⟩ := h
  induction n generalizing dir with
  | zero =>
    obtain rfl := Option.some.inj hup
    exact .found hcounts
  | succ n ih =>
    obtain ⟨above, hparent, habove⟩ := Option.bind_eq_some_iff.1 hup
    refine .up (hnearer 0 (by omega) dir rfl) hparent (ih habove ?_)
    intro m hm nearer hnear
    exact hnearer (m + 1) (by omega) nearer (by rw [Path.up_succ_of_parent? hparent, hnear])

theorem climb_some_iff : Climb isThere dir (some file) ↔ IsNearest isThere dir file := by
  constructor
  . intro h
    generalize hfile : some file = file? at h
    induction h with
    | found h =>
      obtain rfl := Option.some.inj hfile
      exact ⟨0, _, rfl, h, by simp⟩
    | up h hparent hrest ih => exact (ih hfile).of_parent? h hparent
    | ended => cases hfile
  . exact IsNearest.climb

theorem climb_none_iff : Climb isThere dir none ↔ AllBare isThere dir := by
  constructor
  . intro h
    generalize hnone : (none : Option Path) = file? at h
    induction h with
    | found => cases hnone
    | up h hparent hrest ih => exact (ih hnone).of_parent? h hparent
    | ended h hparent =>
      intro n place hup
      rcases Path.up_cases hup with rfl | ⟨_, _, -, hq, -⟩
      . exact h
      . cases hparent.symm.trans hq
  . intro h
    obtain ⟨file?, hclimb⟩ := exists_climb isThere dir
    cases file? with
    | none => exact hclimb
    | some file =>
      obtain ⟨n, place, hup, hcounts, -⟩ := climb_some_iff.1 hclimb
      exact absurd (h n place hup) hcounts.not_bare

end Outcome

/-- The directory that the search begins in: the start, or the parent of a file. -/
inductive Begins (isFile : Path → Bool) (start : Path) : Path → Prop where
  | here (h : isFile start = false) : Begins isFile start start
  | file {first} (h : isFile start = true) (hparent : start.parent? = some first)
      : Begins isFile start first

theorem searchStart?_eq_some_iff {isFile : Path → Bool} {start first : Path}
    : searchStart? isFile start = some first ↔ Begins isFile start first := by
  unfold searchStart?
  constructor
  . intro h
    split at h
    . next hfile => exact .file hfile h
    . next hfile =>
      obtain rfl := Option.some.inj h
      exact .here (by simpa using hfile)
  . intro h
    cases h with
    | here h => simp [h]
    | file h hparent => simp [h, hparent]

/--
The search has the outcome of the loop, which ends: there are not more directories to look into than
the first one has characters, up to the root or the empty path. What it finds is the file that counts
in the nearest directory that has one. It finds nothing just if they are all bare, and then the
settings are the defaults.
-/
theorem findFile?_nearest (view : Files.View) (start : Path)
    : (∀ first, Begins view.isFile start first →
        (∀ file?, Climb view.isThere first file?
          ↔ findFile? view.isFile view.isThere start = file?)
        ∧ (∀ n dir, first.up n = some dir → n ≤ first.text.length)
        ∧ ∃ n last, first.up n = some last ∧ first.IsTop last)
      ∧ (∀ file, findFile? view.isFile view.isThere start = some file
          ↔ ∃ first, Begins view.isFile start first ∧ IsNearest view.isThere first file)
      ∧ (findFile? view.isFile view.isThere start = none
          ↔ ∀ first, Begins view.isFile start first → AllBare view.isThere first)
      ∧ (findFile? view.isFile view.isThere start = none →
          loadNearest view start = .ok (default, none)) := by
  refine ⟨?_, ?_, ?_, ?_⟩
  . intro first hbegins
    have hstart := searchStart?_eq_some_iff.2 hbegins
    refine ⟨?_, ?_, first.exists_up_isTop⟩
    . intro file?
      rw [climb_iff, findFile?, hstart, Option.bind_some]
    . intro n dir hup
      have := Path.length_up_le hup
      omega
  . intro file
    simp only [findFile?, Option.bind_eq_some_iff, searchStart?_eq_some_iff, ← climb_iff,
      climb_some_iff]
  . simp only [findFile?, Option.bind_eq_none_iff, searchStart?_eq_some_iff, ← climb_iff,
      climb_none_iff]
  . intro hnone
    rw [loadNearest, hnone]

-- A relative path ends at the empty one, and the name alone is the file in the current directory.
example : findFile? (· == ⟨"src/../a.feature"⟩) (· == ⟨"karate-runner.json"⟩) ⟨"src/../a.feature"⟩
    = some ⟨"karate-runner.json"⟩ := by decide +kernel

end Settings
end FeatureRunner
