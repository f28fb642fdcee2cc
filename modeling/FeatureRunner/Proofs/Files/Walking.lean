import FeatureRunner.Files.Lookup
import Mathlib.Data.List.Induction

/-!
This module contains what a walk through a file tree sees of the tree. `Way` is a walk that gets
somewhere, step by step; every walk without a fault is one (`way_of_walk`), and every way is walked
(`Way.walk_eq`).
-/

namespace FeatureRunner

namespace Node

@[simp]
theorem at?_nil (node : Node) : node.at? [] = some node := by
  rw [at?]

@[simp]
theorem at?_cons (node : Node) (name : String) (names : List String)
    : node.at? (name :: names) = (node.child? name).bind (at? · names) := by
  rw [at?]

theorem at?_append (node : Node) (front back : List String)
    : node.at? (front ++ back) = (node.at? front).bind (at? · back) := by
  induction front generalizing node with
  | nil => simp
  | cons name front ih =>
    rw [List.cons_append, at?_cons, at?_cons]
    cases node.child? name with
    | none => rfl
    | some child => exact ih child

theorem eq_directory_of_child? {node child : Node} (h : node.child? name = some child)
    : ∃ readable entries stamp, node = .directory readable entries stamp := by
  cases node with
  | directory readable entries stamp => exact ⟨readable, entries, stamp, rfl⟩
  | _ => cases h

theorem isDirectory_of_child? {node child : Node} (h : node.child? name = some child)
    : node.isDirectory = true := by
  obtain ⟨readable, entries, stamp, rfl⟩ := eq_directory_of_child? h
  rfl

theorem isDirectory_of_isFile {node : Node} (h : node.isFile = true)
    : node.isDirectory = false := by
  cases node <;> first | rfl | cases h

theorem at?_eq_none_of_not_directory {node : Node} (h : node.isDirectory = false)
    (hne : names ≠ [])
    : node.at? names = none := by
  cases names with
  | nil => exact absurd rfl hne
  | cons name names => cases node <;> first | rfl | cases h

end Node

namespace Files

def Enterable (root : Node) (names : List String) : Prop :=
  ∃ dir, root.at? names = some dir ∧ dir.isDirectory = true

/-- There is something at the place, and it is no link. -/
def Stands (root : Node) (names : List String) : Prop :=
  ∃ node, root.at? names = some node ∧ node.isLink = false

/-- A walk that gets somewhere. -/
inductive Way (root : Node) : Nat → List String → List Move → Place → Prop where
  | arrived : Way root links names [] (.found names)
  | slash (hdir : Enterable root names) (h : Way root links names rest place)
      : Way root links names (.slash :: rest) place
  | here (hdir : Enterable root names) (h : Way root links names rest place)
      : Way root links names (.here :: rest) place
  | up (hdir : Enterable root names) (h : Way root links names.dropLast rest place)
      : Way root links names (.up :: rest) place
  | down {node : Node} (hnode : root.at? (names ++ [name]) = some node)
      (hlink : node.isLink = false) (h : Way root links (names ++ [name]) rest place)
      : Way root links names (.down name :: rest) place
  | follow {target : Path} (hlink : root.at? (names ++ [name]) = some (.link target))
      (htarget : target.isEmpty = false)
      (h : Way root links (if target.isAbsolute then [] else names) (moves target ++ rest) place)
      : Way root (links + 1) names (.down name :: rest) place
  | missing (hdir : Enterable root names) (hnone : root.at? (names ++ [name]) = none)
      (hsize : name.utf8ByteSize ≤ maxNameSize) (hrest : rest.all (· == .slash) = true)
      : Way root links names (.down name :: rest) (.vacant names name !rest.isEmpty)

variable {root node : Node} {names : List String} {name : String}

theorem enterable_iff
    : Enterable root names ↔ ∃ readable entries stamp,
        root.at? names = some (.directory readable entries stamp) where
  mp
    | ⟨.directory readable entries stamp, h, _⟩ => ⟨readable, entries, stamp, h⟩
  mpr
    | ⟨_, _, _, h⟩ => ⟨_, h, rfl⟩

theorem Enterable.stands (h : Enterable root names) : Stands root names := by
  obtain ⟨readable, entries, stamp, h⟩ := enterable_iff.1 h
  exact ⟨_, h, rfl⟩

theorem enterable_of_at? (h : root.at? (names ++ [name]) = some node) : Enterable root names := by
  rw [Node.at?_append] at h
  obtain ⟨dir, hdir, hchild⟩ := Option.bind_eq_some_iff.1 h
  rw [Node.at?_cons] at hchild
  obtain ⟨child, hchild, -⟩ := Option.bind_eq_some_iff.1 hchild
  exact ⟨dir, hdir, Node.isDirectory_of_child? hchild⟩

theorem Enterable.dropLast (h : Enterable root names) : Enterable root names.dropLast := by
  cases names using List.reverseRecOn with
  | nil => exact h
  | append_singleton names name =>
    obtain ⟨dir, hdir, -⟩ := h
    rw [List.dropLast_concat]
    exact enterable_of_at? hdir

theorem Enterable.isDirectory (h : Enterable root names) : root.isDirectory = true := by
  obtain ⟨dir, hat, hdir⟩ := h
  cases names with
  | nil => cases hat; exact hdir
  | cons name names =>
    rw [Node.at?_cons] at hat
    obtain ⟨child, hchild, -⟩ := Option.bind_eq_some_iff.1 hat
    exact Node.isDirectory_of_child? hchild

theorem lookup_eq_at? {entries : List (String × Node)}
    (h : root.at? names = some (.directory readable entries stamp)) (name : String)
    : entries.lookup name = root.at? (names ++ [name]) := by
  rw [Node.at?_append, h]
  simp [Node.child?]

section Way

variable {links : Nat} {todo rest : List Move} {target : Path} {place : Place}

theorem way_of_walk (h : walk root links names todo = .ok place)
    : Way root links names todo place := by
  fun_induction walk root links names todo with
  | case1 => cases h; exact .arrived
  | case2 links names rest readable entries stamp hat ih =>
    exact .slash (enterable_iff.2 ⟨_, _, _, hat⟩) (ih h)
  | case3 links names rest readable entries stamp hat ih =>
    exact .here (enterable_iff.2 ⟨_, _, _, hat⟩) (ih h)
  | case4 links names rest readable entries stamp hat ih =>
    exact .up (enterable_iff.2 ⟨_, _, _, hat⟩) (ih h)
  | case6 links names rest readable entries stamp hat name hnone hsize hrest =>
    cases h
    rw [lookup_eq_at? hat] at hnone
    exact .missing (enterable_iff.2 ⟨_, _, _, hat⟩) hnone (Nat.le_of_not_lt hsize) hrest
  | case10 names rest readable entries stamp hat name target hlink links htarget ih =>
    rw [lookup_eq_at? hat] at hlink
    exact .follow hlink (Bool.eq_false_iff.2 htarget) (ih h)
  | case11 links names rest readable entries stamp hat name node hlink hnode ih =>
    rw [lookup_eq_at? hat] at hnode
    refine .down hnode ?_ (ih h)
    cases node <;> first | rfl | exact absurd rfl (hlink _)
  | _ => cases h

theorem Way.walk_eq (h : Way root links names todo place)
    : walk root links names todo = .ok place := by
  induction h with
  | arrived => rw [walk]
  | slash hdir h ih =>
    obtain ⟨readable, entries, stamp, hat⟩ := enterable_iff.1 hdir
    rw [walk, hat]
    exact ih
  | here hdir h ih =>
    obtain ⟨readable, entries, stamp, hat⟩ := enterable_iff.1 hdir
    rw [walk, hat]
    exact ih
  | up hdir h ih =>
    obtain ⟨readable, entries, stamp, hat⟩ := enterable_iff.1 hdir
    rw [walk, hat]
    exact ih
  | down hnode hlink h ih =>
    obtain ⟨readable, entries, stamp, hat⟩ := enterable_iff.1 (enterable_of_at? hnode)
    rw [walk, hat]
    simp only [lookup_eq_at? hat, hnode]
    split <;> simp_all [Node.isLink]
  | follow hlink htarget h ih =>
    obtain ⟨readable, entries, stamp, hat⟩ := enterable_iff.1 (enterable_of_at? hlink)
    rw [walk, hat]
    simp only [lookup_eq_at? hat, hlink, htarget]
    exact ih
  | missing hdir hnone hsize hrest =>
    obtain ⟨readable, entries, stamp, hat⟩ := enterable_iff.1 hdir
    rw [walk, hat]
    simp only [lookup_eq_at? hat, hnone]
    rw [if_neg (Nat.not_lt.2 hsize), if_pos hrest]

theorem moves_ne_nil (p : Path) : moves p ≠ [] := by
  rw [moves, Ne, List.map_eq_nil_iff]
  exact Text.segments_ne_nil '/' p.text.toList

theorem Way.stands (h : Way root links names todo place)
    (hstart : todo = [] → Stands root names) {found : List String} (hplace : place = .found found)
    : Stands root found := by
  induction h with
  | arrived => cases hplace; exact hstart rfl
  | slash hdir _ ih => exact ih (fun _ => hdir.stands) hplace
  | here hdir _ ih => exact ih (fun _ => hdir.stands) hplace
  | up hdir _ ih => exact ih (fun _ => hdir.dropLast.stands) hplace
  | down hnode hlink _ ih => exact ih (fun _ => ⟨_, hnode, hlink⟩) hplace
  | follow _ _ _ ih =>
    refine ih (fun hnil => ?_) hplace
    exact absurd (List.append_eq_nil_iff.1 hnil).1 (moves_ne_nil _)
  | missing => cases hplace

theorem Way.enterable (h : Way root links names todo place) (hne : todo ≠ [])
    : Enterable root names := by
  cases h with
  | arrived => exact absurd rfl hne
  | slash hdir => exact hdir
  | here hdir => exact hdir
  | up hdir => exact hdir
  | down hnode => exact enterable_of_at? hnode
  | follow hlink => exact enterable_of_at? hlink
  | missing hdir => exact hdir

theorem Way.vacant (h : Way root links names todo place) {dir : List String} {slash : Bool}
    (hplace : place = .vacant dir name slash)
    : Enterable root dir ∧ root.at? (dir ++ [name]) = none := by
  induction h with
  | arrived => cases hplace
  | slash _ _ ih => exact ih hplace
  | here _ _ ih => exact ih hplace
  | up _ _ ih => exact ih hplace
  | down _ _ _ ih => exact ih hplace
  | follow _ _ _ ih => exact ih hplace
  | missing hdir hnone =>
    cases hplace
    exact ⟨hdir, hnone⟩

end Way

/-! ### Paths -/

/-- The path has nothing in itself that keeps anybody from walking along it. -/
structure Walkable (p : Path) : Prop where
  plain : '\x00' ∉ p.text.toList
  nonempty : p.isEmpty = false
  size : p.text.utf8ByteSize < maxPathSize

def origin (cwd : List String) (p : Path) : List String :=
  if p.isAbsolute then [] else cwd

theorem Walkable.locate_eq {p : Path} (h : Walkable p) (root : Node) (cwd : List String)
    : locate root cwd p = walk root maxLinks (origin cwd p) (moves p) := by
  have hsize : ¬ p.text.utf8ByteSize ≥ maxPathSize := Nat.not_le.2 h.size
  have hplain := h.plain
  simp [locate, origin, hplain, h.nonempty, hsize]

theorem walkable_of_locate {p : Path} (h : locate root cwd p = .ok place) : Walkable p := by
  unfold locate at h
  split at h
  . cases h
  split at h
  . cases h
  split at h
  . cases h
  . next hplain hempty hsize =>
    exact ⟨by simpa using hplain, by simpa using hempty, Nat.lt_of_not_le hsize⟩

theorem way_of_locate {p : Path} {place : Place} (h : locate root cwd p = .ok place)
    : Way root maxLinks (origin cwd p) (moves p) place := by
  rw [(walkable_of_locate h).locate_eq] at h
  exact way_of_walk h

theorem find_eq_ok_iff {p : Path}
    : find root cwd p = .ok names ↔ locate root cwd p = .ok (.found names) := by
  unfold find
  constructor
  . intro h
    split at h
    . next found hlocate =>
      cases h
      exact hlocate
    . cases h
    . cases h
  . intro h
    rw [h]

theorem isDirectory_of_find {p : Path} (h : find root cwd p = .ok names)
    : root.isDirectory = true :=
  ((way_of_locate (find_eq_ok_iff.1 h)).enterable (moves_ne_nil p)).isDirectory

theorem Walkable.locate_of_way {p : Path} {place : Place} (h : Walkable p)
    (hway : Way root maxLinks (origin cwd p) (moves p) place)
    : locate root cwd p = .ok place := by
  rw [h.locate_eq, hway.walk_eq]

end Files
end FeatureRunner
