import FeatureRunner.Proofs.Files.Walking
import FeatureRunner.Proofs.Path.Above

/-!
This module contains the trees that a disk can hold (`Node.Tidy`): the names in a directory are
different from each other, and each of them is a step of a path. Every place in such a tree is made
of steps (`Tidy.at?`), and a directory has exactly the entries that can be looked up in it
(`lookup_eq_some_iff`).
-/

namespace FeatureRunner
namespace Node

/-- In all directories of the tree the names are steps, and different from each other. -/
inductive Tidy : Node → Prop where
  | file (content : ByteArray) (stamp : Stamp) : Tidy (.file content stamp)
  | link (target : Path) : Tidy (.link target)
  | device (device : Device) : Tidy (.device device)
  | directory (readable : Bool) {entries : List (String × Node)} (stamp : Stamp)
      (nodup : (entries.map Prod.fst).Nodup) (steps : ∀ entry ∈ entries, Path.IsStep entry.1)
      (nodes : ∀ entry ∈ entries, Tidy entry.2) : Tidy (.directory readable entries stamp)

variable {node leaf : Node} {entries : List (String × Node)} {name : String}

theorem lookup_eq_some_iff (h : (entries.map Prod.fst).Nodup)
    : entries.lookup name = some node ↔ (name, node) ∈ entries := by
  induction entries with
  | nil => simp
  | cons entry entries ih =>
    rw [List.map_cons, List.nodup_cons] at h
    rw [List.lookup_cons, List.mem_cons]
    by_cases hname : name = entry.1
    . subst hname
      have hother : (entry.1, node) ∉ entries :=
        fun hmem => h.1 (List.mem_map.2 ⟨_, hmem, rfl⟩)
      simp [hother, Prod.ext_iff, eq_comm]
    . have hne : (name, node) ≠ entry := fun heq => hname (congrArg Prod.fst heq)
      rw [beq_eq_false_iff_ne.2 hname, or_iff_right hne]
      exact ih h.2

theorem Tidy.perm {readable : Bool} {entries' : List (String × Node)} {stamp : Stamp}
    (h : Tidy (.directory readable entries stamp)) (hperm : entries.Perm entries')
    : Tidy (.directory readable entries' stamp) := by
  cases h with
  | directory _ _ nodup steps nodes =>
    refine .directory _ _ ((hperm.map Prod.fst).nodup_iff.1 nodup) ?_ ?_
    . exact fun entry hentry => steps entry (hperm.mem_iff.2 hentry)
    . exact fun entry hentry => nodes entry (hperm.mem_iff.2 hentry)

theorem Tidy.child? (h : Tidy node) (hchild : node.child? name = some leaf)
    : Path.IsStep name ∧ Tidy leaf := by
  cases h with
  | directory _ _ nodup steps nodes =>
    have hmem := (Node.lookup_eq_some_iff nodup).1 hchild
    exact ⟨steps _ hmem, nodes _ hmem⟩
  | _ => cases hchild

theorem Tidy.at? (h : Tidy node) {names : List String} (hat : node.at? names = some leaf)
    : (∀ name ∈ names, Path.IsStep name) ∧ Tidy leaf := by
  induction names generalizing node with
  | nil =>
    rw [at?_nil] at hat
    obtain rfl := Option.some.inj hat
    exact ⟨by simp, h⟩
  | cons name names ih =>
    rw [at?_cons] at hat
    obtain ⟨child, hchild, hat⟩ := Option.bind_eq_some_iff.1 hat
    obtain ⟨hname, htidy⟩ := h.child? hchild
    obtain ⟨hnames, hleaf⟩ := ih htidy hat
    exact ⟨List.forall_mem_cons.2 ⟨hname, hnames⟩, hleaf⟩

end Node
end FeatureRunner
