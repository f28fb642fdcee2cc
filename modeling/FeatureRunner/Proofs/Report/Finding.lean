import FeatureRunner.Proofs.Files.Alike
import FeatureRunner.Proofs.Path.Relative
import FeatureRunner.Report.Find
import Mathlib.Data.List.Nodup

/-!
This module contains what the search for reports finds below a directory of a tidy tree. `Reached`
tells which places it gets to: all directories on the way can be listed and none of them is skipped.
It gets to each of them once (`mem_filesBelow_iff`, `nodup_filesBelow`), so the reports are what
matches among them, without repetition (`mem_wantedBelow_iff`, `pairwise_wantedBelow`) and whatever
the order of the entries is (`below_of_alike`).
-/

namespace FeatureRunner
namespace Report

open FeatureRunner.Text
open FeatureRunner.Path (IsStep)

/-- The search from a directory gets to what is called `name` behind `way`, and that is no
directory. -/
structure Reached (node : Node) (way : List String) (name : String) : Prop where
  stands : ∃ leaf, node.at? (way ++ [name]) = some leaf ∧ leaf.isDirectory = false
  /-- Below what cannot be listed there is nothing to begin with. -/
  listed : ∃ entries stamp, node = .directory true entries stamp
  /-- The directories on the way stand there themselves, and they can be listed. -/
  readable : ∀ front, front ≠ [] → front <+: way →
    ∃ entries stamp, node.at? front = some (.directory true entries stamp)
  entered : ∀ dir ∈ way, dir ≠ ".git" ∧ dir ≠ "node_modules"

/-! ### Places -/

section Places

variable {node node' leaf : Node} {entries : List (String × Node)} {stamp : Stamp}
variable {names way place : List String} {name dir : String}

theorem filesAmong_eq_flatMap (names : List String) (entries : List (String × Node))
    : filesAmong names entries = entries.flatMap (filesOf names) := by
  induction entries with
  | nil => rfl
  | cons entry entries ih => rw [filesAmong, ih, List.flatMap_cons]

theorem filesOf_of_not_directory (h : leaf.isDirectory = false)
    : filesOf names (name, leaf) = [names ++ [name]] := by
  cases leaf <;> first | rfl | cases h

theorem filesOf_of_directory (h : node.isDirectory = true)
    : filesOf names (name, node)
        = if name ∈ skippedNames then [] else filesBelow (names ++ [name]) node := by
  cases node <;> first | rfl | cases h

theorem not_mem_skippedNames_iff : dir ∉ skippedNames ↔ dir ≠ ".git" ∧ dir ≠ "node_modules" := by
  simp [skippedNames]

theorem reached_nil
    : Reached (.directory true entries stamp) [] name
        ↔ ∃ leaf, entries.lookup name = some leaf ∧ leaf.isDirectory = false := by
  have hat : (Node.directory true entries stamp).at? ([] ++ [name]) = entries.lookup name := by
    simp [Node.child?]
  constructor
  . intro h
    rw [← hat]
    exact h.stands
  . intro h
    refine ⟨by rw [hat]; exact h, ⟨_, _, rfl⟩, ?_, by simp⟩
    intro front hne hfront
    exact absurd (List.prefix_nil.1 hfront) hne

theorem at?_directory_cons (h : entries.lookup dir = some node) (names : List String)
    : (Node.directory true entries stamp).at? (dir :: names) = node.at? names := by
  rw [Node.at?_cons, Node.child?, h, Option.bind_some]

theorem reached_cons
    : Reached (.directory true entries stamp) (dir :: way) name
        ↔ dir ∉ skippedNames ∧ ∃ sub, entries.lookup dir = some sub ∧ Reached sub way name := by
  rw [not_mem_skippedNames_iff]
  constructor
  . intro h
    obtain ⟨subEntries, subStamp, hsub⟩ :=
      h.readable [dir] (by simp) (List.cons_prefix_cons.2 ⟨rfl, List.nil_prefix⟩)
    have hlookup : entries.lookup dir = some (.directory true subEntries subStamp) := by
      simpa [Node.child?] using hsub
    refine ⟨h.entered dir List.mem_cons_self, _, hlookup, ?_, ⟨_, _, rfl⟩, ?_, ?_⟩
    . have hstands := h.stands
      rwa [List.cons_append, at?_directory_cons hlookup] at hstands
    . intro front _ hfront
      rw [← at?_directory_cons hlookup]
      exact h.readable (dir :: front) (by simp) (List.cons_prefix_cons.2 ⟨rfl, hfront⟩)
    . exact fun dir' hdir' => h.entered dir' (List.mem_cons_of_mem _ hdir')
  . rintro ⟨hdir, sub, hlookup, h⟩
    refine ⟨?_, ⟨_, _, rfl⟩, ?_, List.forall_mem_cons.2 ⟨hdir, h.entered⟩⟩
    . rw [List.cons_append, at?_directory_cons hlookup]
      exact h.stands
    . intro front hne hfront
      cases front with
      | nil => exact absurd rfl hne
      | cons dir' front =>
        obtain ⟨rfl, hrest⟩ := List.cons_prefix_cons.1 hfront
        rw [at?_directory_cons hlookup]
        cases front with
        | nil =>
          obtain ⟨subEntries, subStamp, rfl⟩ := h.listed
          exact ⟨_, _, Node.at?_nil _⟩
        | cons next front => exact h.readable (next :: front) (by simp) hrest

/-- The search gets to each place that `Reached` tells, and to no other one. -/
theorem mem_filesBelow_iff (h : node.Tidy) (names : List String)
    : place ∈ filesBelow names node
        ↔ ∃ way name, place = names ++ way ++ [name] ∧ Reached node way name := by
  induction h generalizing names with
  | directory readable stamp nodup steps nodes ih =>
    cases readable with
    | false =>
      simp only [filesBelow, List.not_mem_nil, false_iff]
      rintro ⟨way, name, -, hreached⟩
      obtain ⟨_, _, heq⟩ := hreached.listed
      cases heq
    | true =>
      rw [filesBelow, filesAmong_eq_flatMap, List.mem_flatMap]
      -- a place behind an entry is the entry itself, or it lies below a directory that is entered
      constructor
      . rintro ⟨⟨name, child⟩, hentry, hplace⟩
        have hlookup := (Node.lookup_eq_some_iff nodup).2 hentry
        cases hchild : child.isDirectory with
        | false =>
          rw [filesOf_of_not_directory hchild, List.mem_singleton] at hplace
          exact ⟨[], name, by simpa using hplace, reached_nil.2 ⟨child, hlookup, hchild⟩⟩
        | true =>
          rw [filesOf_of_directory hchild] at hplace
          split at hplace
          . cases hplace
          . next hskip =>
            obtain ⟨way, leaf, rfl, hreached⟩ := (ih _ hentry _).1 hplace
            exact ⟨name :: way, leaf, by simp, reached_cons.2 ⟨hskip, child, hlookup, hreached⟩⟩
      . rintro ⟨way, name, rfl, hreached⟩
        cases way with
        | nil =>
          obtain ⟨leaf, hlookup, hleaf⟩ := reached_nil.1 hreached
          refine ⟨(name, leaf), (Node.lookup_eq_some_iff nodup).1 hlookup, ?_⟩
          simp [filesOf_of_not_directory hleaf]
        | cons dir way =>
          obtain ⟨hskip, sub, hlookup, hsub⟩ := reached_cons.1 hreached
          have hentry := (Node.lookup_eq_some_iff nodup).1 hlookup
          have hdirectory : sub.isDirectory = true := by
            obtain ⟨_, _, rfl⟩ := hsub.listed
            rfl
          refine ⟨(dir, sub), hentry, ?_⟩
          rw [filesOf_of_directory hdirectory, if_neg hskip]
          exact (ih _ hentry _).2 ⟨way, name, by simp, hsub⟩
  | _ =>
    simp only [filesBelow, List.not_mem_nil, false_iff]
    rintro ⟨way, name, -, hreached⟩
    obtain ⟨_, _, heq⟩ := hreached.listed
    cases heq

theorem prefix_of_mem_filesOf {entry : String × Node} (h : entry.2.Tidy)
    (hplace : place ∈ filesOf names entry)
    : names ++ [entry.1] <+: place := by
  obtain ⟨name, child⟩ := entry
  cases hchild : child.isDirectory with
  | false =>
    rw [filesOf_of_not_directory hchild, List.mem_singleton] at hplace
    rw [hplace]
  | true =>
    rw [filesOf_of_directory hchild] at hplace
    split at hplace
    . cases hplace
    . obtain ⟨way, leaf, rfl, -⟩ := (mem_filesBelow_iff h _).1 hplace
      rw [List.append_assoc]
      exact List.prefix_append _ _

theorem nodup_filesBelow (h : node.Tidy) (names : List String) : (filesBelow names node).Nodup := by
  induction h generalizing names with
  | directory readable stamp nodup steps nodes ih =>
    cases readable with
    | false => exact List.nodup_nil
    | true =>
      rw [filesBelow, filesAmong_eq_flatMap, List.nodup_flatMap]
      constructor
      . rintro ⟨name, child⟩ hentry
        cases hchild : child.isDirectory with
        | false =>
          rw [filesOf_of_not_directory hchild]
          exact List.nodup_singleton _
        | true =>
          rw [filesOf_of_directory hchild]
          split
          . exact List.nodup_nil
          . exact ih _ hentry _
      . -- places below two entries go on with two names
        refine (List.pairwise_map.1 nodup).imp_of_mem ?_
        intro entry entry' hentry hentry' hne place hplace hplace'
        have hleading := prefix_of_mem_filesOf (nodes _ hentry) hplace
        have hleading' := prefix_of_mem_filesOf (nodes _ hentry') hplace'
        have hbefore := List.prefix_of_prefix_length_le hleading hleading' (by simp)
        have heq := hbefore.eq_of_length (by simp)
        exact hne (by simpa using heq)
  | _ => exact List.nodup_nil

theorem Reached.isStep (hnode : node.Tidy) (h : Reached node way name)
    : ∀ step ∈ way ++ [name], IsStep step := by
  obtain ⟨leaf, hleaf, -⟩ := h.stands
  exact (hnode.at? hleaf).1

theorem Reached.alike (h : Reached node way name) (halike : node.Alike node')
    : Reached node' way name := by
  have hdirectory : ∀ front entries stamp, node.at? front = some (.directory true entries stamp) →
      ∃ entries' stamp', node'.at? front = some (.directory true entries' stamp') := by
    intro front entries stamp hat
    obtain ⟨dir, hdir, hbare⟩ := halike.exists_at? hat
    obtain ⟨entries', rfl⟩ := Node.eq_directory_of_bare hbare
    exact ⟨entries', stamp, hdir⟩
  refine ⟨?_, ?_, ?_, h.entered⟩
  . obtain ⟨leaf, hat, hleaf⟩ := h.stands
    obtain ⟨leaf', hat', hbare⟩ := halike.exists_at? hat
    refine ⟨leaf', hat', ?_⟩
    rw [← Node.isDirectory_bare, hbare, Node.isDirectory_bare, hleaf]
  . obtain ⟨entries, stamp, heq⟩ := h.listed
    simpa using hdirectory [] entries stamp (by rw [Node.at?_nil, heq])
  . intro front hne hfront
    obtain ⟨entries, stamp, hat⟩ := h.readable front hne hfront
    exact hdirectory front entries stamp hat

theorem filesBelow_perm (h : node.Tidy) (h' : node'.Tidy) (halike : node.Alike node')
    (names : List String)
    : (filesBelow names node).Perm (filesBelow names node') := by
  rw [List.perm_ext_iff_of_nodup (nodup_filesBelow h names) (nodup_filesBelow h' names)]
  intro place
  rw [mem_filesBelow_iff h, mem_filesBelow_iff h']
  constructor
  . rintro ⟨way, name, heq, hreached⟩
    exact ⟨way, name, heq, hreached.alike halike⟩
  . rintro ⟨way, name, heq, hreached⟩
    exact ⟨way, name, heq, hreached.alike halike.symm⟩

theorem isStep_of_mem_filesBelow (hnode : node.Tidy) (hnames : ∀ name ∈ names, IsStep name)
    (h : place ∈ filesBelow names node)
    : ∀ step ∈ place, IsStep step := by
  obtain ⟨way, name, rfl, hreached⟩ := (mem_filesBelow_iff hnode names).1 h
  rw [List.append_assoc]
  exact List.forall_mem_append.2 ⟨hnames, hreached.isStep hnode⟩

end Places

/-! ### Reports -/

/-- The path leads from the directory at `names` to a report: the search gets there, and the part
of the path below that directory matches the pattern. -/
def IsReport (pattern : List Glob.Token) (node : Node) (names : List String) (path : Path) : Prop :=
  ∃ way name, path = Path.ofNames (names ++ way ++ [name])
    ∧ Reached node way name
    ∧ Glob.matchesText pattern (joinStrings '/' (way ++ [name])) = true

/-- The paths below the directory at `names` that are wanted, as the search comes across them. -/
def wantedBelow (wanted : Path → Bool) (names : List String) (node : Node) : List Path :=
  ((filesBelow names node).map Path.ofNames).filter wanted

section Reports

variable {pattern : List Glob.Token} {root node : Node} {names way : List String} {name : String}
variable {path : Path}

theorem below_eq (h : root.at? names = some node)
    : below pattern root names
        = (wantedBelow (isMatch pattern (Path.ofNames names)) names node).mergeSort Path.le := by
  rw [below, h]
  rfl

theorem isMatch_ofNames (h : ∀ step ∈ names ++ way ++ [name], IsStep step)
    : isMatch pattern (Path.ofNames names) (Path.ofNames (names ++ way ++ [name]))
        = Glob.matchesText pattern (joinStrings '/' (way ++ [name])) := by
  rw [List.append_assoc] at h ⊢
  rw [isMatch, Path.below?_ofNames h (by simp)]

variable (hnode : node.Tidy) (hnames : ∀ name ∈ names, IsStep name)

include hnode hnames

theorem mem_wantedBelow_iff
    : path ∈ wantedBelow (isMatch pattern (Path.ofNames names)) names node
        ↔ IsReport pattern node names path := by
  rw [wantedBelow, List.mem_filter, List.mem_map]
  constructor
  . rintro ⟨⟨place, hplace, rfl⟩, hmatch⟩
    have hsteps := isStep_of_mem_filesBelow hnode hnames hplace
    obtain ⟨way, name, rfl, hreached⟩ := (mem_filesBelow_iff hnode names).1 hplace
    rw [isMatch_ofNames hsteps] at hmatch
    exact ⟨way, name, rfl, hreached, hmatch⟩
  . rintro ⟨way, name, rfl, hreached, hmatch⟩
    have hplace := (mem_filesBelow_iff hnode names).2 ⟨way, name, rfl, hreached⟩
    rw [isMatch_ofNames (isStep_of_mem_filesBelow hnode hnames hplace)]
    exact ⟨⟨_, hplace, rfl⟩, hmatch⟩

theorem pairwise_wantedBelow (wanted : Path → Bool)
    : (wantedBelow wanted names node).Pairwise (fun p q => ¬ p.Same q) := by
  refine List.Pairwise.filter _ (List.pairwise_map.2 ?_)
  refine (nodup_filesBelow hnode names).imp_of_mem ?_
  intro place place' hplace hplace' hne hsame
  exact hne (Path.ofNames_inj (isStep_of_mem_filesBelow hnode hnames hplace)
    (isStep_of_mem_filesBelow hnode hnames hplace') hsame)

end Reports

theorem below_of_alike {root root' node : Node} (hroot : root.Tidy) (hroot' : root'.Tidy)
    (halike : root.Alike root') {names : List String} (hnode : root.at? names = some node)
    (pattern : List Glob.Token)
    : below pattern root' names = below pattern root names := by
  obtain ⟨node', hnode', -⟩ := halike.exists_at? hnode
  obtain ⟨hnames, htidy⟩ := hroot.at? hnode
  have hfiles := filesBelow_perm htidy (hroot'.at? hnode').2 (halike.at? hnode hnode') names
  have hperm : (wantedBelow (isMatch pattern (Path.ofNames names)) names node).Perm
      (wantedBelow (isMatch pattern (Path.ofNames names)) names node') :=
    (hfiles.map _).filter _
  rw [below_eq hnode', below_eq hnode]
  exact (Path.mergeSort_eq_of_perm (pairwise_wantedBelow htidy hnames _) hperm).symm

end Report
end FeatureRunner
