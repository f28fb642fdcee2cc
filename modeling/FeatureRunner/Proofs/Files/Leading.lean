import FeatureRunner.Proofs.Files.Walking
import FeatureRunner.Proofs.Path.Above

/-!
This module contains where paths lead in a tree without links. The steps of a path alone tell its
place, see `lead`; what the tree decides is whether there is something, and whether everything on
the way is a directory. The main statements are `leads_of_find` and `find_of_leads`.
-/

namespace FeatureRunner

open FeatureRunner.Text

def Path.Component.go (names : List String) (step : Path.Component) : List String :=
  match step with
  | .root => []
  | .current => names
  | .parent => names.dropLast
  | .name last => names ++ [last]

namespace Files

def leadSteps (cwd : List String) (steps : List Path.Component) : List String :=
  steps.foldl Path.Component.go cwd

def lead (cwd : List String) (p : Path) : List String :=
  leadSteps (origin cwd p) p.components

/-- No node of the tree is a link. -/
def LinkFree (root : Node) : Prop :=
  ∀ names target, root.at? names ≠ some (.link target)

def Passable (root : Node) (cwd : List String) (p : Path) : Prop :=
  ∀ front step back, p.components = front ++ step :: back →
    Enterable root (leadSteps (origin cwd p) front)

theorem leadSteps_append (cwd : List String) (front back : List Path.Component)
    : leadSteps cwd (front ++ back) = leadSteps (leadSteps cwd front) back := by
  rw [leadSteps, List.foldl_append]
  rfl

/-! ### Pieces -/

def goPiece (names : List String) (piece : List Char) : List String :=
  leadSteps names (Path.step? piece).toList

theorem foldl_goPiece (names : List String) (pieces : List (List Char))
    : pieces.foldl goPiece names = leadSteps names (pieces.filterMap Path.step?) := by
  induction pieces generalizing names with
  | nil => rfl
  | cons piece pieces ih =>
    rw [List.foldl_cons, ih, goPiece, ← leadSteps_append]
    cases h : Path.step? piece <;> simp [h]

section Way

variable {root node : Node} {links : Nat} {names place : List String} {piece : List Char}

theorem LinkFree.isLink_eq (h : LinkFree root) (hnode : root.at? names = some node)
    : node.isLink = false := by
  cases node with
  | link target => exact absurd hnode (h names target)
  | _ => rfl

theorem LinkFree.stands_iff (h : LinkFree root)
    : Stands root names ↔ (root.at? names).isSome = true := by
  rw [Option.isSome_iff_exists]
  constructor
  . intro ⟨node, hnode, _⟩
    exact ⟨node, hnode⟩
  . intro ⟨node, hnode⟩
    exact ⟨node, hnode, h.isLink_eq hnode⟩

theorem linkFree_file (content : ByteArray) (stamp : Stamp) : LinkFree (.file content stamp) := by
  intro names target h
  cases names <;> cases h

theorem linkFree_directory {entries : List (String × Node)}
    (h : ∀ entry ∈ entries, LinkFree entry.2)
    : LinkFree (.directory readable entries stamp) := by
  intro names target hat
  cases names with
  | nil => cases hat
  | cons name names =>
    rw [Node.at?_cons] at hat
    obtain ⟨child, hchild, hat⟩ := Option.bind_eq_some_iff.1 hat
    obtain ⟨front, back, hentries, -⟩ := List.lookup_eq_some_iff.1 hchild
    have hmem : (name, child) ∈ entries := by
      rw [hentries]
      exact List.mem_append_right _ List.mem_cons_self
    exact h _ hmem names target hat

theorem piece_cases (names : List String) (piece : List Char)
    : Move.ofPiece piece = .slash ∧ goPiece names piece = names
      ∨ Move.ofPiece piece = .here ∧ goPiece names piece = names
      ∨ Move.ofPiece piece = .up ∧ goPiece names piece = names.dropLast
      ∨ ∃ name, Move.ofPiece piece = .down name ∧ goPiece names piece = names ++ [name] := by
  unfold Move.ofPiece goPiece Path.step?
  by_cases hempty : piece = []
  . subst hempty
    exact .inl ⟨rfl, rfl⟩
  by_cases hdot : piece = ['.']
  . subst hdot
    exact .inr (.inl ⟨rfl, rfl⟩)
  by_cases hdots : piece = ['.', '.']
  . subst hdots
    exact .inr (.inr (.inl ⟨rfl, rfl⟩))
  . have hidle : Path.isIdle piece = false := by simp [Path.isIdle, hempty, hdot]
    simp only [hempty, hdot, hdots, hidle]
    exact .inr (.inr (.inr ⟨_, rfl, rfl⟩))

theorem way_piece_iff (hlinks : LinkFree root) {rest : List Move}
    : Way root links names (Move.ofPiece piece :: rest) (.found place)
      ↔ Enterable root names ∧ Stands root (goPiece names piece)
        ∧ Way root links (goPiece names piece) rest (.found place) := by
  rcases piece_cases names piece with ⟨hmove, hgo⟩ | ⟨hmove, hgo⟩ | ⟨hmove, hgo⟩ |
    ⟨name, hmove, hgo⟩ <;> rw [hmove, hgo]
  . constructor
    . rintro (_ | ⟨hdir, h⟩)
      exact ⟨hdir, hdir.stands, h⟩
    . exact fun ⟨hdir, _, h⟩ => .slash hdir h
  . constructor
    . rintro (_ | _ | ⟨hdir, h⟩)
      exact ⟨hdir, hdir.stands, h⟩
    . exact fun ⟨hdir, _, h⟩ => .here hdir h
  . constructor
    . rintro (_ | _ | _ | ⟨hdir, h⟩)
      exact ⟨hdir, hdir.dropLast.stands, h⟩
    . exact fun ⟨hdir, _, h⟩ => .up hdir h
  . constructor
    . intro h
      cases h with
      | down hnode hlink h => exact ⟨enterable_of_at? hnode, ⟨_, hnode, hlink⟩, h⟩
      | follow hlink => exact absurd hlink (hlinks _ _)
    . intro ⟨_, ⟨node, hnode, hlink⟩, h⟩
      exact .down hnode hlink h

theorem way_pieces_iff (hlinks : LinkFree root) {pieces : List (List Char)}
    : Way root links names (pieces.map Move.ofPiece) (.found place)
      ↔ place = pieces.foldl goPiece names
        ∧ (∀ front piece back, pieces = front ++ piece :: back →
          Enterable root (front.foldl goPiece names))
        ∧ (pieces ≠ [] → Stands root place) := by
  induction pieces generalizing names with
  | nil =>
    constructor
    . rintro (_ | _)
      simp
    . rintro ⟨rfl, -⟩
      exact .arrived
  | cons piece pieces ih =>
    rw [List.map_cons, way_piece_iff hlinks, ih, List.foldl_cons]
    constructor
    . rintro ⟨hdir, hnext, rfl, hfront, hplace⟩
      -- in front of the first piece is the place itself, in front of a later one what `ih` tells
      refine ⟨rfl, ?_, fun _ => ?_⟩
      . rintro (_ | ⟨first, front⟩) last back heq
        . exact hdir
        . rw [List.cons_append, List.cons.injEq] at heq
          obtain ⟨rfl, heq⟩ := heq
          exact hfront front last back heq
      . cases pieces with
        | nil => exact hnext
        | cons => exact hplace (List.cons_ne_nil _ _)
    . rintro ⟨rfl, hfront, hplace⟩
      have hrest : ∀ front last back, pieces = front ++ last :: back →
          Enterable root (front.foldl goPiece (goPiece names piece)) := by
        intro front last back heq
        exact hfront (piece :: front) last back (by rw [heq]; rfl)
      refine ⟨hfront [] piece pieces rfl, ?_, rfl, hrest, fun _ => hplace (List.cons_ne_nil _ _)⟩
      cases pieces with
      | nil => exact hplace (List.cons_ne_nil _ _)
      | cons last back => exact (hrest [] last back rfl).stands

end Way

/-! ### Paths -/

section Path

variable {root : Node} {cwd place : List String} {p : Path}

theorem leadSteps_anchor (cwd : List String) (p : Path)
    : leadSteps (origin cwd p) p.anchor.components = origin cwd p := by
  have habsolute := @Path.isAbsolute_iff_anchor p
  cases hanchor : p.anchor with
  | none => rfl
  | current => rfl
  | root => simp [origin, habsolute, hanchor, Path.Anchor.components, leadSteps, Path.Component.go]

theorem leadSteps_of_prefix_anchor {front : List Path.Component}
    (h : front <+: p.anchor.components)
    : leadSteps (origin cwd p) front = origin cwd p := by
  have hcases : front = [] ∨ front = p.anchor.components := by
    cases hanchor : p.anchor <;> rw [hanchor] at h <;>
      simpa [Path.Anchor.components, List.prefix_cons_iff] using h
  rcases hcases with rfl | rfl
  . rfl
  . exact leadSteps_anchor cwd p

theorem lead_eq_foldl (cwd : List String) (p : Path)
    : lead cwd p = (segments '/' p.text.toList).foldl goPiece (origin cwd p) := by
  rw [lead, Path.components_eq_segments, leadSteps_append, leadSteps_anchor, foldl_goPiece]

structure Leads (root : Node) (cwd : List String) (p : Path) (place : List String) : Prop where
  place_eq : place = lead cwd p
  passable : Passable root cwd p
  stands : Stands root place
  walkable : Walkable p

theorem passable_of_way (hlinks : LinkFree root)
    (hway : Way root links (origin cwd p) (moves p) (.found place))
    : Passable root cwd p := by
  obtain ⟨-, hfront, -⟩ := (way_pieces_iff hlinks).1 hway
  intro front step back heq
  rw [Path.components_eq_segments, List.append_eq_append_iff] at heq
  -- the step is on the body of the path, or it is the anchor
  rcases heq with ⟨behind, rfl, heq⟩ | ⟨within, heq, -⟩
  . obtain ⟨pieces, rest, hpieces, rfl, hrest⟩ := List.filterMap_eq_append_iff.1 heq
    obtain ⟨piece, rest, rfl⟩ : ∃ piece rest', rest = piece :: rest' := by
      cases rest with
      | nil => cases hrest
      | cons piece rest => exact ⟨piece, rest, rfl⟩
    rw [leadSteps_append, leadSteps_anchor, ← foldl_goPiece]
    exact hfront pieces piece rest hpieces
  . rw [leadSteps_of_prefix_anchor ⟨within, heq.symm⟩]
    exact hway.enterable (moves_ne_nil p)

theorem leads_of_find (hlinks : LinkFree root) (h : find root cwd p = .ok place)
    : Leads root cwd p place := by
  have hlocate := find_eq_ok_iff.1 h
  have hway := way_of_locate hlocate
  obtain ⟨hplace, -, hstands⟩ := (way_pieces_iff hlinks).1 hway
  exact
    { place_eq := hplace.trans (lead_eq_foldl cwd p).symm
      passable := passable_of_way hlinks hway
      stands := hstands (segments_ne_nil '/' p.text.toList)
      walkable := walkable_of_locate hlocate }

/-- A path that leads past directories only is found. A path that ends with a slash or with a dot
has to lead to a directory itself. -/
theorem find_of_leads (hlinks : LinkFree root) (hwalkable : Walkable p)
    (hpassable : Passable root cwd p) (hstands : Stands root (lead cwd p))
    (hend : Enterable root (lead cwd p)
      ∨ ∃ piece ∈ (segments '/' p.text.toList).getLast?, Path.isIdle piece = false)
    : find root cwd p = .ok (lead cwd p) := by
  have hway : Way root maxLinks (origin cwd p) (moves p) (.found (lead cwd p)) := by
    refine (way_pieces_iff hlinks).2 ⟨lead_eq_foldl cwd p, ?_, fun _ => hstands⟩
    intro front piece back heq
    rw [foldl_goPiece]
    have hcomponents := Path.components_eq_segments p
    rw [heq, List.filterMap_append, ← List.append_assoc] at hcomponents
    have hfront : leadSteps (origin cwd p) (p.anchor.components ++ front.filterMap Path.step?)
        = leadSteps (origin cwd p) (front.filterMap Path.step?) := by
      rw [leadSteps_append, leadSteps_anchor]
    cases hback : (piece :: back).filterMap Path.step? with
    | cons step steps =>
      rw [hback] at hcomponents
      rw [← hfront]
      exact hpassable _ step steps hcomponents
    | nil =>
      rw [hback, List.append_nil] at hcomponents
      rcases hend with hend | ⟨last, hlast, hidle⟩
      . rwa [lead, hcomponents, hfront] at hend
      . have hmem : last ∈ piece :: back := by
          rw [heq, List.getLast?_append_of_ne_nil _ (List.cons_ne_nil _ _)] at hlast
          exact List.mem_of_getLast? hlast
        exact absurd (List.filterMap_eq_nil_iff.1 hback last hmem) (Path.step?_ne_none hidle)
  exact find_eq_ok_iff.2 (hwalkable.locate_of_way hway)

end Path

/-! ### Above and below a path -/

section Above

variable {root : Node} {cwd place names : List String} {p q : Path} {name : String}

theorem origin_eq_of_above (cwd : List String) (h : p.Above q) : origin cwd q = origin cwd p := by
  rw [origin, origin, h.isAbsolute]

theorem Passable.of_above (hpassable : Passable root cwd p) (h : p.Above q)
    : Passable root cwd q := by
  intro front step back heq
  obtain ⟨rest, hrest⟩ := h.components
  rw [origin_eq_of_above cwd h]
  apply hpassable front step (back ++ rest)
  rw [← hrest, heq]
  simp

theorem lead_join (cwd : List String) (q : Path) (hname : Path.IsStep name)
    : lead cwd (q.join ⟨name⟩) = lead cwd q ++ [name] := by
  rw [lead, lead, Path.components_join_name q hname, leadSteps_append, origin, origin,
    Path.isAbsolute_join q hname]
  rfl

theorem Walkable.join (h : Walkable p) (habove : p.Above q) (hname : Path.IsStep name)
    (hplain : '\x00' ∉ name.toList)
    (hroom : p.text.utf8ByteSize + 1 + name.utf8ByteSize < maxPathSize)
    : Walkable (q.join ⟨name⟩) where
  plain := by
    intro hmem
    rcases Path.mem_toList_join q hname hmem with hmem | hmem | hmem
    . exact h.plain (habove.text.subset hmem)
    . cases hmem
    . exact hplain hmem
  nonempty := by
    rw [Bool.eq_false_iff, Ne, Path.isEmpty_iff_components_eq_nil,
      Path.components_join_name q hname]
    simp
  size := by
    have hle := Path.utf8ByteSize_join_le q hname
    have hshort := habove.utf8ByteSize_le
    omega

theorem Passable.join (h : Passable root cwd q) (hdir : Enterable root (lead cwd q))
    (hname : Path.IsStep name)
    : Passable root cwd (q.join ⟨name⟩) := by
  intro front step back heq
  rw [Path.components_join_name q hname] at heq
  rw [origin, Path.isAbsolute_join q hname]
  -- the step is the name itself, with all of `q` in front, or it is on `q`
  cases back using List.reverseRecOn with
  | nil =>
    obtain ⟨rfl, -⟩ := List.append_inj' heq rfl
    exact hdir
  | append_singleton back last =>
    rw [← List.cons_append, ← List.append_assoc] at heq
    obtain ⟨heq, -⟩ := List.append_inj' heq rfl
    exact h front step back heq

theorem find_join_iff (hlinks : LinkFree root) (hfind : find root cwd p = .ok place)
    (habove : p.Above q) (hname : Path.IsStep name) (hplain : '\x00' ∉ name.toList)
    (hroom : p.text.utf8ByteSize + 1 + name.utf8ByteSize < maxPathSize)
    : find root cwd (q.join ⟨name⟩) = .ok names
      ↔ names = lead cwd q ++ [name] ∧ (root.at? names).isSome = true := by
  constructor
  . intro h
    have hleads := leads_of_find hlinks h
    exact ⟨hleads.place_eq.trans (lead_join cwd q hname), hlinks.stands_iff.1 hleads.stands⟩
  . rintro ⟨rfl, hsome⟩
    have hleads := leads_of_find hlinks hfind
    obtain ⟨node, hnode⟩ := Option.isSome_iff_exists.1 hsome
    rw [← lead_join cwd q hname]
    apply find_of_leads hlinks (hleads.walkable.join habove hname hplain hroom)
    . exact (hleads.passable.of_above habove).join (enterable_of_at? hnode) hname
    . rw [lead_join cwd q hname]
      exact hlinks.stands_iff.2 hsome
    . exact .inr ⟨_, Path.getLast?_segments_join q hname, hname.isIdle_eq⟩

end Above

/-! ### Names -/

section Names

variable {root node : Node} {cwd front back names place : List String} {p : Path} {name : String}

theorem leadSteps_names (cwd names : List String)
    : leadSteps cwd (names.map .name) = cwd ++ names := by
  induction names generalizing cwd with
  | nil => simp [leadSteps]
  | cons name names ih =>
    rw [List.map_cons, leadSteps, List.foldl_cons]
    have hrest := ih (cwd ++ [name])
    rw [leadSteps] at hrest
    simpa [Path.Component.go] using hrest

theorem mem_leadSteps {steps : List Path.Component} (h : name ∈ leadSteps cwd steps)
    : name ∈ cwd ∨ .name name ∈ steps := by
  induction steps generalizing cwd with
  | nil => exact .inl h
  | cons step steps ih =>
    rw [leadSteps, List.foldl_cons] at h
    rcases ih h with h | h
    . cases step with
      | root => cases h
      | current => exact .inl h
      | parent => exact .inl (List.mem_of_mem_dropLast h)
      | name last =>
        rcases List.mem_append.1 h with h | h
        . exact .inl h
        . cases List.mem_singleton.1 h
          exact .inr List.mem_cons_self
    . exact .inr (List.mem_cons_of_mem _ h)

theorem mem_lead (h : name ∈ lead cwd p) : name ∈ cwd ∨ name ∈ p.names := by
  rcases mem_leadSteps h with h | h
  . left
    unfold origin at h
    split at h
    . cases h
    . exact h
  . exact .inr (List.mem_filterMap.2 ⟨_, h, rfl⟩)

theorem enterable_of_append (h : root.at? (front ++ name :: back) = some node)
    : Enterable root front := by
  rw [List.append_cons, Node.at?_append] at h
  obtain ⟨child, hchild, -⟩ := Option.bind_eq_some_iff.1 h
  exact enterable_of_at? hchild

theorem lead_ofNames (cwd : List String) (h : ∀ name ∈ names, Path.IsStep name)
    : lead cwd (Path.ofNames names) = names := by
  rw [lead, Path.components_ofNames h, origin, if_pos (Path.isAbsolute_ofNames names), leadSteps,
    List.foldl_cons]
  exact leadSteps_names [] names

theorem walkable_ofNames (hsteps : ∀ name ∈ names, Path.IsStep name)
    (hplain : ∀ name ∈ names, '\x00' ∉ name.toList)
    (hsize : (Path.ofNames names).text.utf8ByteSize < maxPathSize)
    : Walkable (Path.ofNames names) where
  plain := by
    intro hmem
    rcases Path.mem_toList_ofNames hmem with hmem | ⟨name, hname, hmem⟩
    . cases hmem
    . exact hplain name hname hmem
  nonempty := by
    rw [Bool.eq_false_iff, Ne, Path.isEmpty_iff_components_eq_nil, Path.components_ofNames hsteps]
    exact List.cons_ne_nil _ _
  size := hsize

theorem passable_ofNames (hroot : root.isDirectory = true)
    (hsteps : ∀ name ∈ names, Path.IsStep name) (hstands : Stands root names)
    : Passable root cwd (Path.ofNames names) := by
  have horigin : origin cwd (Path.ofNames names) = [] := if_pos (Path.isAbsolute_ofNames names)
  rintro (_ | ⟨first, front⟩) step back heq
  . rw [horigin]
    exact ⟨root, rfl, hroot⟩
  . rw [Path.components_ofNames hsteps, List.cons_append, List.cons.injEq] at heq
    obtain ⟨rfl, heq⟩ := heq
    obtain ⟨before, rest, rfl, rfl, hrest⟩ := List.map_eq_append_iff.1 heq
    obtain ⟨last, rest, rfl, -, -⟩ := List.map_eq_cons_iff.1 hrest
    obtain ⟨node, hnode, -⟩ := hstands
    have hdir := enterable_of_append hnode
    rw [horigin]
    change Enterable root (leadSteps [] (before.map .name))
    rw [leadSteps_names]
    exact hdir

theorem find_ofNames (hlinks : LinkFree root) (hroot : root.isDirectory = true)
    (hsteps : ∀ name ∈ names, Path.IsStep name) (hplain : ∀ name ∈ names, '\x00' ∉ name.toList)
    (hsize : (Path.ofNames names).text.utf8ByteSize < maxPathSize) (hstands : Stands root names)
    : find root cwd (Path.ofNames names) = .ok names := by
  have hlead := lead_ofNames cwd hsteps
  have hfound := find_of_leads hlinks (walkable_ofNames hsteps hplain hsize)
    (passable_ofNames hroot hsteps hstands) (by rwa [hlead])
  rw [hlead] at hfound
  apply hfound
  by_cases hne : names = []
  . subst hne
    exact .inl ⟨root, rfl, hroot⟩
  . obtain ⟨name, hname, hlast⟩ := Path.getLast?_segments_ofNames hsteps hne
    exact .inr ⟨_, hlast, (hsteps name hname).isIdle_eq⟩

end Names

end Files
end FeatureRunner
