import FeatureRunner.Proofs.Files.Tidy

/-!
This module contains trees that only differ in the order of the entries in their directories
(`Node.Alike`). Everything that can be looked up in one of them can be looked up in the other one,
so a path leads to the same place in both (`find_of_alike`).
-/

namespace FeatureRunner
namespace Node

def bare : Node → Node
  | file content stamp => .file content stamp
  | directory readable _ stamp => .directory readable [] stamp
  | link target => .link target
  | device d => .device d

def Alike (root root' : Node) : Prop :=
  ∀ names, (root.at? names).map bare = (root'.at? names).map bare

variable {root root' node node' : Node} {names : List String}

theorem isDirectory_bare (node : Node) : node.bare.isDirectory = node.isDirectory := by
  cases node <;> rfl

theorem isLink_bare (node : Node) : node.bare.isLink = node.isLink := by
  cases node <;> rfl

theorem eq_link_of_bare {target : Path} (h : node.bare = .link target) : node = .link target := by
  cases node <;> first | exact h | cases h

theorem eq_directory_of_bare {readable : Bool} {stamp : Stamp}
    (h : node.bare = .directory readable [] stamp)
    : ∃ entries, node = .directory readable entries stamp := by
  cases node with
  | directory readable entries stamp =>
    cases h
    exact ⟨entries, rfl⟩
  | _ => cases h

namespace Alike

theorem symm (h : Alike root root') : Alike root' root :=
  fun names => (h names).symm

theorem exists_at? (h : Alike root root') (hat : root.at? names = some node)
    : ∃ node', root'.at? names = some node' ∧ node'.bare = node.bare := by
  have heq := h names
  rw [hat, Option.map_some] at heq
  exact Option.map_eq_some_iff.1 heq.symm

theorem at?_eq_none (h : Alike root root') (hat : root.at? names = none)
    : root'.at? names = none := by
  have heq := h names
  rw [hat, Option.map_none] at heq
  exact Option.map_eq_none_iff.1 heq.symm

theorem at? (h : Alike root root') (hat : root.at? names = some node)
    (hat' : root'.at? names = some node')
    : Alike node node' := by
  intro rest
  have heq := h (names ++ rest)
  rwa [Node.at?_append, Node.at?_append, hat, hat', Option.bind_some, Option.bind_some] at heq

end Alike

theorem lookup_of_perm {entries entries' : List (String × Node)}
    (hnodup : (entries.map Prod.fst).Nodup) (hperm : entries.Perm entries') (name : String)
    : entries.lookup name = entries'.lookup name := by
  have hnodup' : (entries'.map Prod.fst).Nodup := ((hperm.map Prod.fst).nodup_iff).1 hnodup
  apply Option.ext
  intro node
  rw [lookup_eq_some_iff hnodup, lookup_eq_some_iff hnodup', hperm.mem_iff]

theorem alike_of_forall₂ {entries entries' : List (String × Node)}
    (h : List.Forall₂ (fun entry entry' => entry.1 = entry'.1 ∧ Alike entry.2 entry'.2)
      entries entries')
    (readable : Bool) (stamp : Stamp)
    : Alike (.directory readable entries stamp) (.directory readable entries' stamp) := by
  intro names
  cases names with
  | nil => rfl
  | cons name names =>
    rw [at?_cons, at?_cons, child?, child?]
    induction h with
    | nil => rfl
    | @cons entry entry' _ _ hentry _ ih =>
      obtain ⟨hname, halike⟩ := hentry
      rw [List.lookup_cons, List.lookup_cons, ← hname]
      cases hself : name == entry.1 with
      | false => exact ih
      | true => exact halike names

theorem alike_of_perm {entries entries' : List (String × Node)}
    (hnodup : (entries.map Prod.fst).Nodup) (hperm : entries.Perm entries') (readable : Bool)
    (stamp : Stamp)
    : Alike (.directory readable entries stamp) (.directory readable entries' stamp) := by
  intro names
  cases names with
  | nil => rfl
  | cons name names =>
    rw [at?_cons, at?_cons, child?, child?, lookup_of_perm hnodup hperm]

end Node

namespace Files

open FeatureRunner.Node (Alike)

variable {root root' : Node} {names : List String} {todo : List Move} {place : Place} {links : Nat}

theorem Enterable.alike (h : Enterable root names) (halike : Alike root root')
    : Enterable root' names := by
  obtain ⟨dir, hat, hdir⟩ := h
  obtain ⟨dir', hat', hbare⟩ := halike.exists_at? hat
  refine ⟨dir', hat', ?_⟩
  rw [← Node.isDirectory_bare, hbare, Node.isDirectory_bare, hdir]

theorem Way.alike (h : Way root links names todo place) (halike : Alike root root')
    : Way root' links names todo place := by
  induction h with
  | arrived => exact .arrived
  | slash hdir _ ih => exact .slash (hdir.alike halike) ih
  | here hdir _ ih => exact .here (hdir.alike halike) ih
  | up hdir _ ih => exact .up (hdir.alike halike) ih
  | down hnode hlink _ ih =>
    obtain ⟨node', hnode', hbare⟩ := halike.exists_at? hnode
    refine .down hnode' ?_ ih
    rw [← Node.isLink_bare, hbare, Node.isLink_bare, hlink]
  | follow hlink htarget _ ih =>
    obtain ⟨node', hnode', hbare⟩ := halike.exists_at? hlink
    obtain rfl := Node.eq_link_of_bare hbare
    exact .follow hnode' htarget ih
  | missing hdir hnone hsize hrest =>
    exact .missing (hdir.alike halike) (halike.at?_eq_none hnone) hsize hrest

theorem find_of_alike {cwd : List String} {p : Path} (h : find root cwd p = .ok names)
    (halike : Alike root root')
    : find root' cwd p = .ok names := by
  have hlocate := find_eq_ok_iff.1 h
  have hway := (way_of_locate hlocate).alike halike
  exact find_eq_ok_iff.2 ((walkable_of_locate hlocate).locate_of_way hway)

end Files
end FeatureRunner
