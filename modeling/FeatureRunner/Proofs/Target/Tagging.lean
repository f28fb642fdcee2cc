import FeatureRunner.Proofs.Command.Quoting
import FeatureRunner.Proofs.Feature.Ranges

/-!
This module contains what restrictions to tags do to a target: they put one switch for each tag
expression in front of the options, in the form for the JVM and in that for the standalone jar
alike, and leave everything else as it is. The main statement is `tagged_eq`.
-/

namespace FeatureRunner

open FeatureRunner.Text

namespace TestTarget

/-- The tag expressions that restrict a target, without those that are blank, the last one first. -/
def restrictions (tags : List String) : List String :=
  ((tags.map trim).filter (!·.isEmpty)).reverse

def parts (switch : String) (expressions : List String) (options : String) : List String :=
  expressions.map (switch ++ " " ++ ·) ++ if options.isEmpty then [] else [options]

def behind (switch : String) (expressions : List String) (options : String) : String :=
  joinStrings ' ' (parts switch expressions options)

variable {switch options : String} {expressions : List String}

theorem isEmpty_of_mem_parts {part : String} (h : part ∈ parts switch expressions options)
    : part.isEmpty = false := by
  unfold parts at h
  rw [List.mem_append] at h
  rcases h with h | h
  . obtain ⟨expression, -, rfl⟩ := List.mem_map.1 h
    simp
  . split at h
    . cases h
    . next hoptions =>
      rw [List.mem_singleton.1 h]
      exact Bool.eq_false_iff.2 hoptions

theorem behind_nil : behind switch [] options = options := by
  unfold behind parts
  cases h : options.isEmpty with
  | true =>
    rw [String.isEmpty_iff.1 h]
    rfl
  | false => simp [joinStrings, joinWith]

theorem addSwitch_behind (switch expression : String) (expressions : List String) (options : String)
    : addSwitch (switch ++ " " ++ expression) (behind switch expressions options)
        =
      behind switch (expression :: expressions) options := by
  have hcons : parts switch (expression :: expressions) options
      = (switch ++ " " ++ expression) :: parts switch expressions options := rfl
  unfold behind
  rw [hcons]
  cases hparts : parts switch expressions options with
  | nil =>
    rw [joinStrings, joinStrings, List.map_singleton, joinWith, String.ofList_toList]
    rfl
  | cons part rest =>
    have hpart : part.isEmpty = false := isEmpty_of_mem_parts (hparts ▸ List.mem_cons_self)
    rw [addSwitch, isEmpty_joinStrings_cons hpart, joinStrings_cons]
    rfl

theorem exists_behind_eq (switch : String) (expressions : List String) (options : String)
    : ∃ front, behind switch expressions options = front ++ options := by
  induction expressions with
  | nil => exact ⟨"", by rw [behind_nil, String.empty_append]⟩
  | cons expression expressions ih =>
    obtain ⟨front, hfront⟩ := ih
    rw [← addSwitch_behind, hfront, addSwitch]
    split
    . next hempty =>
      rw [String.isEmpty_iff, String.append_eq_empty_iff] at hempty
      exact ⟨switch ++ " " ++ expression, by rw [hempty.2, String.append_empty]⟩
    . exact ⟨switch ++ " " ++ expression ++ " " ++ front, by rw [← String.append_assoc]⟩

theorem restrictions_append_singleton (tags : List String) (expression : String)
    : restrictions (tags ++ [expression])
        =
      if (trim expression).isEmpty then restrictions tags
      else trim expression :: restrictions tags := by
  unfold restrictions
  rw [List.map_append, List.filter_append, List.reverse_append]
  split
  . next h => simp [h]
  . next h => simp [h]

theorem foldl_withTags (t : TestTarget) (tags : List String)
    : tags.foldl withTags t
        =
      { t with
        options := behind "--tags" (restrictions tags) t.options
        jarOptions := behind "-t" (restrictions tags) t.jarOptions } := by
  induction tags using List.reverseRecOn with
  | nil => simp [restrictions, behind_nil]
  | append_singleton tags expression ih =>
    rw [List.foldl_append, ih, restrictions_append_singleton, List.foldl_cons, List.foldl_nil]
    unfold withTags
    dsimp only
    split
    . rfl
    . rw [← addSwitch_behind, ← addSwitch_behind]
      rfl

variable {path : Path} {s : Section}

theorem options_ofSection (h : s.startLine.toNat < 4294967295)
    : (ofSection path s).options
        = pathOption path ++ ":" ++ Numeral.decimal (s.startLine.toNat + 1)
      ∧ (ofSection path s).jarOptions
        = "\"" ++ path.text ++ ":" ++ Numeral.decimal (s.startLine.toNat + 1) ++ "\"" := by
  have hline : s.displayLine.toNat = s.startLine.toNat + 1 := toNat_add_one (Nat.succ_lt_succ h)
  unfold ofSection quoted withLine
  dsimp only
  rw [hline]
  simp only [String.append_assoc, and_self]


end TestTarget

open TestTarget

/-- A target that was restricted to tags has a switch for each expression in front of both forms of
its options, and nothing else is changed. Both forms of a section end in the number of its first
line, counted from one; the jar's form has a quote behind it. -/
theorem tagged_eq (aim : Aim) (tags : List String)
    : aim.tagged tags
        = { aim.target with
            options := behind "--tags" (restrictions tags) aim.target.options
            jarOptions := behind "-t" (restrictions tags) aim.target.jarOptions }
      ∧ aim.target.jarOptions.isEmpty = false
      ∧ ∀ path s, aim = .part path s → s.startLine.toNat < 4294967295 →
        ∃ front jarFront,
          (aim.tagged tags).options = front ++ ":" ++ Numeral.decimal (s.startLine.toNat + 1)
          ∧ (aim.tagged tags).jarOptions
            = jarFront ++ ":" ++ Numeral.decimal (s.startLine.toNat + 1) ++ "\"" := by
  have htagged := foldl_withTags aim.target tags
  refine ⟨htagged, ?_, ?_⟩
  . cases aim <;> simp [Aim.target, ofPath, ofSection, quoted]
  . rintro path s rfl hline
    obtain ⟨hoptions, hjar⟩ := @options_ofSection path s hline
    obtain ⟨front, hfront⟩ := exists_behind_eq "--tags" (restrictions tags)
      (ofSection path s).options
    obtain ⟨jarFront, hjarFront⟩ := exists_behind_eq "-t" (restrictions tags)
      (ofSection path s).jarOptions
    refine ⟨front ++ pathOption path, jarFront ++ "\"" ++ path.text, ?_, ?_⟩
    . rw [Aim.tagged, htagged]
      dsimp only [Aim.target]
      rw [hfront, hoptions]
      simp only [String.append_assoc]
    . rw [Aim.tagged, htagged]
      dsimp only [Aim.target]
      rw [hjarFront, hjar]
      simp only [String.append_assoc]

def classpathAim : Aim :=
  .part ⟨"/w/src/test/java/a b.feature"⟩ ⟨9, 12, .ofList ["@x"], "s", .scenario⟩

theorem tagged_eq_classpathAim
    : (9 : UInt32).toNat < 4294967295
      ∧ (classpathAim.tagged [" @a", "\t", "@b and @c "]).options
        = "--tags @b and @c --tags @a classpath:a b.feature:10"
      ∧ (classpathAim.tagged [" @a", "\t", "@b and @c "]).jarOptions
        = "-t @b and @c -t @a \"/w/src/test/java/a b.feature:10\""
      ∧ ∃ front, (classpathAim.tagged [" @a", "\t", "@b and @c "]).options
        = front ++ ":" ++ Numeral.decimal 10 := by
  obtain ⟨htagged, -, hends⟩ := tagged_eq classpathAim [" @a", "\t", "@b and @c "]
  obtain ⟨front, -, hfront, -⟩ := hends _ _ rfl (by decide)
  refine ⟨by decide, ?_, ?_, front, hfront⟩
  . rw [htagged]
    decide +kernel
  . rw [htagged]
    decide +kernel

end FeatureRunner
