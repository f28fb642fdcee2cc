import FeatureRunner.Proofs.Files.Walking

/-!
This module contains what is read from a file that was just written. Writing changes nothing that a
way to the file goes through, so the same path leads to the file again; the main statement is
`readText_write`. A file that is there is rewritten at its place, so of two writes only the last one
counts (`IsFileAt.write_write`).
-/

namespace FeatureRunner

namespace Node

theorem lookup_putEntry (name key : String) (node : Node) (entries : List (String × Node))
    : (putEntry name node entries).lookup key
        = if key = name then some node else entries.lookup key := by
  induction entries with
  | nil => by_cases h : key = name <;> simp [putEntry, List.lookup_cons, h, beq_false_of_ne]
  | cons entry entries ih =>
    obtain ⟨n, m⟩ := entry
    rw [putEntry]
    split
    . next h =>
      subst h
      by_cases h : key = n <;> simp [List.lookup_cons, h, beq_false_of_ne]
    . next h =>
      by_cases hn : key = n
      . simp [hn, h]
      . simp [List.lookup_cons, hn, ih, beq_false_of_ne]

@[simp]
theorem at?_put_self (node new : Node) (names : List String)
    : (node.put new names).at? names = some new := by
  induction names generalizing node with
  | nil => simp [put]
  | cons name names ih =>
    cases node <;> simp [put, child?, lookup_putEntry, ih]

theorem putEntry_putEntry (name : String) (a b : Node) (entries : List (String × Node))
    : putEntry name b (putEntry name a entries) = putEntry name b entries := by
  induction entries with
  | nil => simp [putEntry]
  | cons entry entries ih =>
    rw [putEntry, putEntry]
    split
    . next h => rw [putEntry, if_pos rfl]
    . next h => rw [putEntry, if_neg h, ih]

@[simp]
theorem put_put (node a b : Node) (names : List String)
    : (node.put a names).put b names = node.put b names := by
  induction names generalizing node with
  | nil => rfl
  | cons name names ih =>
    cases node with
    | directory readable entries stamp =>
      simp only [put]
      rw [lookup_putEntry, if_pos rfl, Option.getD_some, ih, putEntry_putEntry]
    | _ => simp [put, putEntry, ih]

section Directory

variable {new old : Node} {readable : Bool} {entries : List (String × Node)} {stamp : Stamp}
variable {names below : List String} {name key : String}

theorem at?_put_cons_self (hold : (directory readable entries stamp).child? name = some old)
    : ((directory readable entries stamp).put new (name :: names)).at? (name :: below)
        = (old.put new names).at? below := by
  rw [child?] at hold
  simp [put, child?, lookup_putEntry, hold]

theorem at?_put_cons_of_ne (hne : key ≠ name)
    : ((directory readable entries stamp).put new (name :: names)).at? (key :: below)
        = (directory readable entries stamp).at? (key :: below) := by
  simp [put, child?, lookup_putEntry, hne]

end Directory

theorem at?_put_of_ne {root new node : Node} {dir names : List String} {name : String}
    (hdir : Files.Enterable root dir)
    (hold : ∀ old, root.at? (dir ++ [name]) = some old → old.isDirectory = false)
    (hnode : root.at? names = some node) (hne : names ≠ dir ++ [name])
    : ∃ node', (root.put new (dir ++ [name])).at? names = some node'
        ∧ (node' = node ∨ node.isDirectory = true ∧ node'.isDirectory = true) := by
  induction dir generalizing root names with
  | nil =>
    obtain ⟨readable, entries, stamp, hroot⟩ := Files.enterable_iff.1 hdir
    cases Option.some.inj hroot
    cases names with
    | nil =>
      cases Option.some.inj hnode
      exact ⟨_, rfl, .inr ⟨rfl, rfl⟩⟩
    | cons key below =>
      have hkey : key ≠ name := by
        rintro rfl
        rw [at?_cons] at hnode
        obtain ⟨child, hchild, hbelow⟩ := Option.bind_eq_some_iff.1 hnode
        have hend : child.isDirectory = false := hold child (by simp [hchild])
        rw [at?_eq_none_of_not_directory hend (by simpa using hne)] at hbelow
        cases hbelow
      exact ⟨node, (at?_put_cons_of_ne hkey).trans hnode, .inl rfl⟩
  | cons first dir ih =>
    obtain ⟨last, hlast, hlastdir⟩ := hdir
    rw [at?_cons] at hlast
    obtain ⟨child, hchild, hbelow⟩ := Option.bind_eq_some_iff.1 hlast
    obtain ⟨readable, entries, stamp, rfl⟩ := eq_directory_of_child? hchild
    cases names with
    | nil =>
      cases Option.some.inj hnode
      exact ⟨_, rfl, .inr ⟨rfl, rfl⟩⟩
    | cons key below =>
      by_cases hkey : key = first
      -- only the entry on the way to the new node differs, and there the induction goes on
      . subst hkey
        rw [List.cons_append, at?_put_cons_self hchild]
        rw [at?_cons, hchild, Option.bind_some] at hnode
        have hold' : ∀ old, child.at? (dir ++ [name]) = some old → old.isDirectory = false := by
          intro old h
          exact hold old (by simp [hchild, h])
        exact ih ⟨last, hbelow, hlastdir⟩ hold' hnode (by simpa using hne)
      . exact ⟨node, (at?_put_cons_of_ne hkey).trans hnode, .inl rfl⟩

end Node

namespace Files

section Put

variable {root new node : Node} {dir names : List String} {name : String}

/-- The node can be written to the place: neither it nor what was there leads anywhere. -/
structure Fits (root new : Node) (dir : List String) (name : String) : Prop where
  enterable : Enterable root dir
  old : ∀ old, root.at? (dir ++ [name]) = some old → old.isDirectory = false ∧ old.isLink = false
  new : new.isDirectory = false ∧ new.isLink = false

theorem Fits.at?_put (h : Fits root new dir name) (hnode : root.at? names = some node)
    (hne : names ≠ dir ++ [name])
    : ∃ node', (root.put new (dir ++ [name])).at? names = some node'
        ∧ (node' = node ∨ node.isDirectory = true ∧ node'.isDirectory = true) :=
  Node.at?_put_of_ne h.enterable (fun old hold => (h.old old hold).1) hnode hne

theorem Fits.enterable_put (h : Fits root new dir name) (hnames : Enterable root names)
    : Enterable (root.put new (dir ++ [name])) names := by
  obtain ⟨node, hnode, hdir⟩ := hnames
  have hne : names ≠ dir ++ [name] := by
    rintro rfl
    simp [(h.old node hnode).1] at hdir
  obtain ⟨node', hat, rfl | ⟨-, hdir'⟩⟩ := h.at?_put hnode hne
  . exact ⟨node', hat, hdir⟩
  . exact ⟨node', hat, hdir'⟩

theorem Fits.link_put (h : Fits root new dir name)
    (hlink : root.at? names = some (.link target))
    : (root.put new (dir ++ [name])).at? names = some (.link target) := by
  have hne : names ≠ dir ++ [name] := by
    rintro rfl
    cases (h.old _ hlink).2
  obtain ⟨node', hat, rfl | ⟨hdir, -⟩⟩ := h.at?_put hlink hne
  . exact hat
  . cases hdir

theorem Fits.stands_put (h : Fits root new dir name) (hnames : Stands root names)
    : Stands (root.put new (dir ++ [name])) names := by
  by_cases heq : names = dir ++ [name]
  . rw [heq]
    exact ⟨new, Node.at?_put_self .., h.new.2⟩
  . obtain ⟨node, hnode, hlink⟩ := hnames
    obtain ⟨node', hat, rfl | ⟨-, hdir⟩⟩ := h.at?_put hnode heq
    . exact ⟨node', hat, hlink⟩
    . exact Enterable.stands ⟨node', hat, hdir⟩

theorem Fits.way_put (h : Fits root new dir name) (hway : Way root links names todo place)
    (hplace : place = .found (dir ++ [name]) ∨ place = .vacant dir name false)
    : Way (root.put new (dir ++ [name])) links names todo (.found (dir ++ [name])) := by
  induction hway with
  | arrived =>
    rcases hplace with hplace | hplace <;> cases hplace
    exact .arrived
  | slash hdir _ ih => exact .slash (h.enterable_put hdir) (ih hplace)
  | here hdir _ ih => exact .here (h.enterable_put hdir) (ih hplace)
  | up hdir _ ih => exact .up (h.enterable_put hdir) (ih hplace)
  | down hnode hlink _ ih =>
    obtain ⟨node', hat, hlink'⟩ := h.stands_put ⟨_, hnode, hlink⟩
    exact .down hat hlink' (ih hplace)
  | follow hlink htarget _ ih => exact .follow (h.link_put hlink) htarget (ih hplace)
  | @missing _ _ rest _ _ _ _ _ =>
    rcases hplace with hplace | hplace
    . cases hplace
    . simp only [Place.vacant.injEq, Bool.not_eq_eq_eq_not, Bool.not_false,
        List.isEmpty_iff] at hplace
      obtain ⟨rfl, rfl, rfl⟩ := hplace
      exact .down (Node.at?_put_self ..) h.new.2 .arrived

end Put

theorem writable_eq_ok (h : writable root cwd p = .ok names)
    : locate root cwd p = .ok (.found names)
        ∧ (∀ node, root.at? names = some node → node.isDirectory = false)
      ∨ ∃ dir name, locate root cwd p = .ok (.vacant dir name false) ∧ names = dir ++ [name] := by
  unfold writable at h
  split at h
  . split at h <;> cases h
  . split at h
    . next found hlocate =>
      left
      split at h
      . cases h
      . cases h
      . next hnot _ =>
        cases h
        refine ⟨hlocate, ?_⟩
        intro node hnode
        cases node <;> first | rfl | exact absurd hnode (hnot _ _ _)
    . next dir name slash hlocate =>
      right
      cases slash
      . cases hseal : sealFault? dir with
        | none =>
          simp [hseal] at h
          exact ⟨dir, name, hlocate, h.symm⟩
        | some f => simp [hseal] at h
      . simp at h
    . cases h

theorem fits_of_way {content content' : ByteArray} (hway : Way root links start todo (.found names))
    (hne : todo ≠ []) (hnode : root.at? names = some (.file content stamp))
    : ∃ dir name, names = dir ++ [name] ∧ Fits root (.file content' stamp) dir name := by
  cases names using List.reverseRecOn with
  | nil =>
    have hroot := (hway.enterable hne).isDirectory
    cases Option.some.inj hnode
    cases hroot
  | append_singleton dir name =>
    refine ⟨dir, name, rfl, enterable_of_at? hnode, ?_, rfl, rfl⟩
    intro old hold
    cases hnode.symm.trans hold
    exact ⟨rfl, rfl⟩

theorem exists_put_of_write (h : write root cwd p content = .ok root')
    (hdevice : ∀ names d, find root cwd p = .ok names → root.at? names ≠ some (.device d))
    : ∃ dir name stamp, root' = root.put (.file content stamp) (dir ++ [name])
        ∧ locate root' cwd p = .ok (.found (dir ++ [name])) := by
  unfold write at h
  split at h
  . next names hwritable =>
    split at h
    . cases h
    cases h
    -- either a file is replaced, or one is put where nothing was
    rcases writable_eq_ok hwritable with ⟨hlocate, hold⟩ | ⟨dir, name, hlocate, rfl⟩
    . have hway := way_of_locate hlocate
      obtain ⟨node, hnode, hlink⟩ := hway.stands (fun hnil => absurd hnil (moves_ne_nil p)) rfl
      have hnodir := hold node hnode
      obtain ⟨old, stamp, rfl⟩ : ∃ old stamp, node = .file old stamp := by
        cases node with
        | file old stamp => exact ⟨old, stamp, rfl⟩
        | device d => exact absurd hnode (hdevice names d (find_eq_ok_iff.2 hlocate))
        | directory => cases hnodir
        | link => cases hlink
      obtain ⟨dir, name, rfl, hfits⟩ := fits_of_way hway (moves_ne_nil p) hnode
      rw [withContent, hnode]
      exact ⟨dir, name, stamp, rfl,
        (walkable_of_locate hlocate).locate_of_way (hfits.way_put hway (.inl rfl))⟩
    . have hway := way_of_locate hlocate
      obtain ⟨hdir, hnone⟩ := hway.vacant rfl
      have hfits : Fits root (.plainFile content) dir name :=
        ⟨hdir, fun old hold => by simp [hnone] at hold, rfl, rfl⟩
      rw [withContent, hnone]
      exact ⟨dir, name, .plain, rfl,
        (walkable_of_locate hlocate).locate_of_way (hfits.way_put hway (.inr rfl))⟩
  . cases h

theorem read_of_find (h : find root cwd p = .ok names)
    (hfile : root.at? names = some (.file content stamp))
    : read root cwd p = .ok content := by
  simp [read, Files.node, h, hfile]

theorem readText_of_read {text : String} (h : read root cwd p = .ok text.toUTF8)
    : readText root cwd p = .ok text := by
  have hvalid : text.toUTF8.IsValidUTF8 := text.isValidUTF8
  rw [readText, h]
  simp only [String.fromUTF8?, dif_pos hvalid]
  rfl

/-- What was written is what is read, unless a device took it. -/
theorem readText_write {text : String} (h : write root cwd p text.toUTF8 = .ok root')
    (hdevice : ∀ names d, find root cwd p = .ok names → root.at? names ≠ some (.device d))
    : readText root' cwd p = .ok text := by
  obtain ⟨dir, name, stamp, rfl, hlocate⟩ := exists_put_of_write h hdevice
  exact readText_of_read (read_of_find (find_eq_ok_iff.2 hlocate) (Node.at?_put_self ..))

section Rewrite

variable {root root' : Node} {cwd names : List String} {p : Path} {stamp : Stamp}
variable {content content' : ByteArray}

structure IsFileAt (root : Node) (cwd : List String) (p : Path) (names : List String)
    (stamp : Stamp) : Prop where
  find : find root cwd p = .ok names
  at? : ∃ content, root.at? names = some (.file content stamp)

/-- A device is read as the empty text, so any other text is that of a file. -/
theorem exists_isFileAt {text : String} (h : readText root cwd p = .ok text) (hne : text ≠ "")
    : ∃ names stamp, IsFileAt root cwd p names stamp := by
  unfold readText read node at h
  cases hfind : find root cwd p with
  | error f => simp [hfind] at h
  | ok names =>
    cases hnode : root.at? names with
    | none => simp [hfind, hnode] at h
    | some node =>
      cases node with
      | file content stamp => exact ⟨names, stamp, hfind, content, hnode⟩
      | directory => simp [hfind, hnode] at h
      | link => simp [hfind, hnode] at h
      | device d =>
        have hempty : String.fromUTF8? .empty = some "" := by decide
        cases d <;> simp [hfind, hnode, hempty] at h <;> exact absurd h hne

theorem IsFileAt.ne_device (h : IsFileAt root cwd p names stamp) (place : List String) (d : Device)
    (hplace : Files.find root cwd p = .ok place)
    : root.at? place ≠ some (.device d) := by
  obtain ⟨content, hcontent⟩ := h.at?
  cases h.find.symm.trans hplace
  rw [hcontent]
  nofun

theorem IsFileAt.write_eq (h : IsFileAt root cwd p names stamp) (hslash : endsWithSlash p = false)
    (content : ByteArray)
    : write root cwd p content = .ok (root.put (.file content stamp) names) := by
  obtain ⟨old, hold⟩ := h.at?
  have hlocate := find_eq_ok_iff.1 h.find
  have hwritable : writable root cwd p = .ok names := by
    simp [writable, hslash, hlocate, hold]
  simp [write, hwritable, isFull, withContent, hold]

theorem IsFileAt.put (h : IsFileAt root cwd p names stamp) (content : ByteArray)
    : IsFileAt (root.put (.file content stamp) names) cwd p names stamp := by
  obtain ⟨old, hold⟩ := h.at?
  have hlocate := find_eq_ok_iff.1 h.find
  have hway := way_of_locate hlocate
  have hfits : ∃ dir name, names = dir ++ [name] ∧ Fits root (.file content stamp) dir name :=
    fits_of_way hway (moves_ne_nil p) hold
  obtain ⟨dir, name, rfl, hfits⟩ := hfits
  constructor
  . rw [find_eq_ok_iff]
    exact (walkable_of_locate hlocate).locate_of_way (hfits.way_put hway (.inl rfl))
  . exact ⟨content, Node.at?_put_self ..⟩

theorem endsWithSlash_of_write (h : write root cwd p content = .ok root')
    : endsWithSlash p = false := by
  cases hslash : endsWithSlash p with
  | false => rfl
  | true =>
    unfold write writable at h
    cases hfind : find root cwd (directoryAround p) <;> simp [hslash, hfind] at h

theorem IsFileAt.write_write (h : IsFileAt root cwd p names stamp)
    (hwrite : write root cwd p content = .ok root') (content' : ByteArray)
    : write root' cwd p content' = write root cwd p content' := by
  have hslash := endsWithSlash_of_write hwrite
  rw [h.write_eq hslash] at hwrite
  cases hwrite
  rw [h.write_eq hslash, (h.put content).write_eq hslash, Node.put_put]

end Rewrite

end Files
end FeatureRunner
