import FeatureRunner.Proofs.Report.Finding
import Mathlib.Logic.Relation

/-!
This module contains the search for reports as a walk that keeps the directories to be read in a
pile. Each step reads one of them, and its entries may come in any order. The walk comes to an end
(`wellFounded_step`), nothing gets lost or repeated on the way (`Step.total_perm`), and whatever the
orders were, the paths found in the end are, once sorted, the reports of `Report.find`
(`find_eq_ok_of_tidy`).
-/

namespace FeatureRunner
namespace Report

open FeatureRunner.Path (IsStep)

/-- A search under way: directories that are still to be read, the next one first, each with its
place, and what has been found. -/
structure Search where
  pending : List (List String × Node)
  found : List Path

namespace Search

def see (wanted : Path → Bool) (names : List String) (search : Search)
    : String × Node → Search
  | (name, .directory readable entries stamp) =>
    if name ∈ skippedNames then search
    else ⟨(names ++ [name], .directory readable entries stamp) :: search.pending, search.found⟩
  | (name, .file _ _) | (name, .link _) | (name, .device _) =>
    let path := Path.ofNames (names ++ [name])
    if wanted path then ⟨search.pending, search.found ++ [path]⟩ else search

/-- The next directory is read. One that cannot be listed is left out. -/
inductive Step (wanted : Path → Bool) : Search → Search → Prop where
  | list (names : List String) (entries listing : List (String × Node)) (stamp : Stamp)
      (pending : List (List String × Node)) (found : List Path) (horder : listing.Perm entries)
      : Step wanted ⟨(names, .directory true entries stamp) :: pending, found⟩
          (listing.foldl (see wanted names) ⟨pending, found⟩)
  | leave (names : List String) (node : Node) (pending : List (List String × Node))
      (found : List Path) (hnode : ∀ entries stamp, node ≠ .directory true entries stamp)
      : Step wanted ⟨(names, node) :: pending, found⟩ ⟨pending, found⟩

def start (names : List String) (node : Node) : Search :=
  ⟨[(names, node)], []⟩

variable {wanted : Path → Bool} {search next : Search} {names : List String}

theorem see_of_directory {node : Node} {name : String} (h : node.isDirectory = true)
    : see wanted names search (name, node)
        = if name ∈ skippedNames then search
          else ⟨(names ++ [name], node) :: search.pending, search.found⟩ := by
  cases node <;> first | rfl | cases h

theorem see_of_not_directory {node : Node} {name : String} (h : node.isDirectory = false)
    : see wanted names search (name, node)
        = if wanted (Path.ofNames (names ++ [name])) then
            ⟨search.pending, search.found ++ [Path.ofNames (names ++ [name])]⟩
          else search := by
  cases node <;> first | rfl | cases h

/-! ### An end -/

noncomputable def weight : List Node → Nat
  | [] => 0
  | node :: nodes => sizeOf node + weight nodes

theorem weight_of_perm {nodes nodes' : List Node} (h : nodes.Perm nodes')
    : weight nodes = weight nodes' := by
  induction h with
  | nil => rfl
  | cons node _ ih => rw [weight, weight, ih]
  | swap node node' nodes =>
    simp only [weight]
    omega
  | trans _ _ ih ih' => exact ih.trans ih'

theorem weight_entries_le (entries : List (String × Node))
    : weight (entries.map Prod.snd) ≤ sizeOf entries := by
  induction entries with
  | nil => exact Nat.zero_le _
  | cons entry entries ih =>
    obtain ⟨name, node⟩ := entry
    simp only [List.map_cons, weight, List.cons.sizeOf_spec, Prod.mk.sizeOf_spec]
    omega

theorem sizeOf_pos (node : Node) : 0 < sizeOf node := by
  cases node <;>
    simp only [Node.file.sizeOf_spec, Node.directory.sizeOf_spec, Node.link.sizeOf_spec,
      Node.device.sizeOf_spec] <;> omega

noncomputable def size (search : Search) : Nat :=
  weight (search.pending.map Prod.snd)

theorem size_see_le (wanted : Path → Bool) (names : List String) (search : Search)
    (entry : String × Node)
    : (search.see wanted names entry).size ≤ search.size + sizeOf entry.2 := by
  obtain ⟨name, node⟩ := entry
  cases hnode : node.isDirectory with
  | true =>
    rw [see_of_directory hnode]
    split
    . exact Nat.le_add_right _ _
    . simp only [size, List.map_cons, weight]
      omega
  | false =>
    rw [see_of_not_directory hnode]
    split <;> exact Nat.le_add_right _ _

theorem size_foldl_see_le (wanted : Path → Bool) (names : List String)
    (listing : List (String × Node)) (search : Search)
    : (listing.foldl (see wanted names) search).size
        ≤ search.size + weight (listing.map Prod.snd) := by
  induction listing generalizing search with
  | nil => exact Nat.le_add_right _ _
  | cons entry listing ih =>
    have hentry := size_see_le wanted names search entry
    have hlisting := ih (search.see wanted names entry)
    rw [List.foldl_cons, List.map_cons, weight]
    omega

theorem Step.size_lt (h : Step wanted search next) : next.size < search.size := by
  cases h with
  | list names entries listing stamp pending found horder =>
    have hlisting := size_foldl_see_le wanted names listing ⟨pending, found⟩
    have hweight := weight_of_perm (horder.map Prod.snd)
    have hentries := weight_entries_le entries
    simp only [size, List.map_cons, weight, Node.directory.sizeOf_spec] at hlisting ⊢
    omega
  | leave names node pending found =>
    have hpos := sizeOf_pos node
    simp only [size, List.map_cons, weight]
    omega

theorem wellFounded_step (wanted : Path → Bool)
    : WellFounded fun next search => Step wanted search next :=
  Subrelation.wf Step.size_lt (measure size).wf

theorem exists_step (h : search.pending ≠ []) : ∃ next, Step wanted search next := by
  obtain ⟨_ | ⟨⟨names, node⟩, pending⟩, found⟩ := search
  . exact absurd rfl h
  . by_cases hnode : ∃ entries stamp, node = .directory true entries stamp
    . obtain ⟨entries, stamp, rfl⟩ := hnode
      exact ⟨_, .list names entries entries stamp pending found (List.Perm.refl entries)⟩
    . refine ⟨_, .leave names node pending found fun entries stamp heq => ?_⟩
      exact hnode ⟨entries, stamp, heq⟩

/-! ### What is found -/

def total (wanted : Path → Bool) (search : Search) : List Path :=
  search.found ++ search.pending.flatMap fun place => wantedBelow wanted place.1 place.2

theorem total_see_perm (wanted : Path → Bool) (names : List String) (search : Search)
    (entry : String × Node)
    : (total wanted (search.see wanted names entry)).Perm
        (total wanted search ++ ((filesOf names entry).map Path.ofNames).filter wanted) := by
  obtain ⟨name, node⟩ := entry
  cases hnode : node.isDirectory with
  | true =>
    rw [see_of_directory hnode, filesOf_of_directory hnode]
    split
    . simp
    . simp only [total, List.flatMap_cons, wantedBelow, List.append_assoc]
      exact List.perm_append_comm.append_left _
  | false =>
    rw [see_of_not_directory hnode, filesOf_of_not_directory hnode]
    split
    . next hwanted =>
      simp only [total, List.append_assoc, List.map_singleton, List.filter_cons_of_pos hwanted,
        List.filter_nil]
      exact List.perm_append_comm.append_left _
    . next hwanted => simp [hwanted]

theorem total_foldl_see_perm (wanted : Path → Bool) (names : List String)
    (listing : List (String × Node)) (search : Search)
    : (total wanted (listing.foldl (see wanted names) search)).Perm
        (total wanted search ++ ((filesAmong names listing).map Path.ofNames).filter wanted) := by
  induction listing generalizing search with
  | nil => simp [filesAmong]
  | cons entry listing ih =>
    have hentry := (total_see_perm wanted names search entry).append_right
      (((filesAmong names listing).map Path.ofNames).filter wanted)
    rw [List.foldl_cons, filesAmong, List.map_append, List.filter_append, ← List.append_assoc]
    exact (ih _).trans hentry

theorem filesAmong_perm (names : List String) {entries listing : List (String × Node)}
    (h : listing.Perm entries)
    : (filesAmong names listing).Perm (filesAmong names entries) := by
  rw [filesAmong_eq_flatMap, filesAmong_eq_flatMap]
  exact h.flatMap_right _

/-- Nothing is lost and nothing is repeated when a directory is read. -/
theorem Step.total_perm (h : Step wanted search next)
    : (total wanted next).Perm (total wanted search) := by
  cases h with
  | list names entries listing stamp pending found horder =>
    have hfiles := ((filesAmong_perm names horder).map Path.ofNames).filter wanted
    refine (total_foldl_see_perm wanted names listing ⟨pending, found⟩).trans ?_
    simp only [total, List.flatMap_cons, wantedBelow, filesBelow, List.append_assoc]
    exact (List.perm_append_comm.trans (hfiles.append_right _)).append_left _
  | leave names node pending found hnode =>
    have hnone : filesBelow names node = [] := by
      cases node with
      | directory readable entries stamp =>
        cases readable with
        | false => rfl
        | true => exact absurd rfl (hnode entries stamp)
      | _ => rfl
    simp [total, wantedBelow, hnone]

theorem total_perm_of_steps (h : Relation.ReflTransGen (Step wanted) search next)
    : (total wanted next).Perm (total wanted search) := by
  induction h with
  | refl => exact List.Perm.refl _
  | tail _ hstep ih => exact hstep.total_perm.trans ih

theorem total_start (wanted : Path → Bool) (names : List String) (node : Node)
    : total wanted (start names node) = wantedBelow wanted names node := by
  simp [total, start]

end Search

/-- These are the reports below the directory at `names`, and a search for them ends with them
however the entries of the directories are ordered. -/
structure Finds (pattern : List Glob.Token) (node : Node) (names : List String)
    (reports : List Path) : Prop where
  ordered : Path.Ordered reports
  mem_iff : ∀ path, path ∈ reports ↔ IsReport pattern node names path
  ends : WellFounded fun next search =>
    Search.Step (isMatch pattern (Path.ofNames names)) search next
  /-- A search under way goes on as long as there is a directory to be read. -/
  goesOn : ∀ search : Search, search.pending ≠ [] →
    ∃ next, Search.Step (isMatch pattern (Path.ofNames names)) search next
  /-- A search that is over has found the reports. -/
  agrees : ∀ search : Search,
    Relation.ReflTransGen (Search.Step (isMatch pattern (Path.ofNames names)))
      (Search.start names node) search →
    search.pending = [] → search.found.mergeSort Path.le = reports

theorem finds_wantedBelow (pattern : List Glob.Token) {node : Node} {names : List String}
    (hnode : node.Tidy) (hnames : ∀ name ∈ names, IsStep name)
    : Finds pattern node names
        ((wantedBelow (isMatch pattern (Path.ofNames names)) names node).mergeSort Path.le) where
  ordered := Path.ordered_mergeSort (pairwise_wantedBelow hnode hnames _)
  mem_iff path := by
    rw [List.mem_mergeSort]
    exact mem_wantedBelow_iff hnode hnames
  ends := Search.wellFounded_step _
  goesOn _ := Search.exists_step
  agrees search hsteps hpending := by
    have htotal := Search.total_perm_of_steps hsteps
    rw [Search.total_start, Search.total, hpending, List.flatMap_nil, List.append_nil] at htotal
    exact (Path.mergeSort_eq_of_perm (pairwise_wantedBelow hnode hnames _) htotal.symm).symm

/-- What is found on a disk are the reports below the place that the directory stands for. Nothing
changes if the entries of directories on the disk are in another order. -/
theorem find_eq_ok_of_tidy {root : Node} (hroot : root.Tidy) {glob : String}
    {pattern : List Glob.Token} (hglob : Glob.read glob = .ok pattern) {cwd names : List String}
    {dir : Path} (hdir : Files.find root cwd dir = .ok names)
    : ∃ node reports, root.at? names = some node
        ∧ find glob root cwd dir = .ok reports
        ∧ Finds pattern node names reports
        ∧ ∀ root', root'.Tidy → root.Alike root' → find glob root' cwd dir = .ok reports := by
  have hway := Files.way_of_locate (Files.find_eq_ok_iff.1 hdir)
  obtain ⟨node, hnode, -⟩ := hway.stands (fun hnil => absurd hnil (Files.moves_ne_nil dir)) rfl
  obtain ⟨hnames, htidy⟩ := hroot.at? hnode
  refine ⟨node, below pattern root names, hnode, by rw [find, hglob, hdir], ?_, ?_⟩
  . rw [below_eq hnode]
    exact finds_wantedBelow pattern htidy hnames
  . intro root' hroot' halike
    rw [find, hglob, Files.find_of_alike hdir halike]
    exact congrArg Except.ok (below_of_alike hroot hroot' halike hnode pattern)

/-- A report that counts and some that do not: copies in directories that are skipped or cannot be
listed, and one behind a link. -/
def builtEntries : List (String × Node) :=
  [("target", .directory true [("users.html", .plainFile .empty)] .folder),
    (".git", .directory true [("a.html", .plainFile .empty)] .folder),
    ("locked", .directory false [("b.html", .plainFile .empty)] .folder),
    ("latest", .link ⟨"target"⟩)]

def htmlFiles : List Glob.Token :=
  .deep :: .star :: ".html".toList.map (.one ∘ .literal)

def diskWith (entries : List (String × Node)) : Node :=
  .directory true [("p", .directory true entries .folder)] .folder

theorem tidy_builtEntries : (Node.directory true builtEntries .folder).Tidy := by
  have hreports : ∀ readable, ∀ name ∈ ["users.html", "a.html", "b.html"],
      (Node.directory readable [(name, .plainFile .empty)] .folder).Tidy := by
    intro readable name hname
    refine .directory _ _ (by simp) ?_ (List.forall_mem_singleton.2 (.file _ _))
    rw [List.forall_mem_singleton]
    revert name
    decide
  refine .directory _ _ (by decide) (by decide) ?_
  simp only [builtEntries, List.forall_mem_cons]
  exact ⟨hreports true _ (by simp), hreports true _ (by simp), hreports false _ (by simp),
    .link _, nofun⟩

theorem tidy_diskWith {entries : List (String × Node)}
    (h : (Node.directory true entries .folder).Tidy)
    : (diskWith entries).Tidy := by
  have hstep : IsStep "p" := by decide
  exact .directory _ _ (by simp) (List.forall_mem_singleton.2 hstep)
    (List.forall_mem_singleton.2 h)

theorem alike_diskWith {entries entries' : List (String × Node)}
    (h : (Node.directory true entries .folder).Alike (.directory true entries' .folder))
    : (diskWith entries).Alike (diskWith entries') := by
  apply Node.alike_of_forall₂
  exact .cons ⟨rfl, h⟩ .nil

theorem below_builtEntries
    : below htmlFiles (diskWith builtEntries) ["p"] = [⟨"/p/target/users.html"⟩] := by
  have hfiles : filesBelow ["p"] (.directory true builtEntries .folder)
      = [["p", "target", "users.html"], ["p", "latest"]] := by
    simp [builtEntries, filesBelow, filesAmong, filesOf, skippedNames, Node.plainFile]
  have hreport : isMatch htmlFiles (Path.ofNames ["p"])
      (Path.ofNames ["p", "target", "users.html"]) = true := by decide +kernel
  have hlink : isMatch htmlFiles (Path.ofNames ["p"]) (Path.ofNames ["p", "latest"]) = false := by
    decide +kernel
  have hat : (diskWith builtEntries).at? ["p"] = some (.directory true builtEntries .folder) := rfl
  rw [below_eq hat, wantedBelow, hfiles]
  simp only [List.map_cons, List.map_nil, List.filter_cons, hreport, hlink, List.filter_nil,
    ↓reduceIte, Bool.false_eq_true, List.mergeSort_singleton]
  rfl

theorem find_eq_ok_builtEntries
    : ∃ node, Glob.read "**/*.html" = .ok htmlFiles
        ∧ Files.find (diskWith builtEntries) [] ⟨"/p"⟩ = .ok ["p"]
        ∧ find "**/*.html" (diskWith builtEntries) [] ⟨"/p"⟩ = .ok [⟨"/p/target/users.html"⟩]
        ∧ Finds htmlFiles node ["p"] [⟨"/p/target/users.html"⟩]
        ∧ find "**/*.html" (diskWith builtEntries.reverse) [] ⟨"/p"⟩
            = .ok [⟨"/p/target/users.html"⟩] := by
  have hglob : Glob.read "**/*.html" = .ok htmlFiles := by
    simp [Glob.read, Glob.readFrom, Glob.pushDeep, htmlFiles]
  have hdir : Files.find (diskWith builtEntries) [] ⟨"/p"⟩ = .ok ["p"] := by
    have hmoves : Files.moves ⟨"/p"⟩ = [.slash, .down "p"] := by decide
    have hlocate : Files.locate (diskWith builtEntries) [] ⟨"/p"⟩ = .ok (.found ["p"]) := by
      apply Files.Walkable.locate_of_way ⟨by decide, by decide, by decide⟩
      rw [hmoves]
      exact .slash ⟨_, rfl, rfl⟩ (.down rfl rfl .arrived)
    exact Files.find_eq_ok_iff.2 hlocate
  have hperm : builtEntries.Perm builtEntries.reverse := builtEntries.reverse_perm.symm
  have halike : (diskWith builtEntries).Alike (diskWith builtEntries.reverse) :=
    alike_diskWith (Node.alike_of_perm (by decide) hperm true .folder)
  have htidy := tidy_builtEntries
  obtain ⟨node, reports, -, hfind, hfinds, hordered⟩ :=
    find_eq_ok_of_tidy (tidy_diskWith htidy) hglob hdir
  have hreports : reports = [⟨"/p/target/users.html"⟩] := by
    rw [find, hglob, hdir] at hfind
    rw [← Except.ok.inj hfind]
    exact below_builtEntries
  subst hreports
  exact ⟨node, hglob, hdir, hfind, hfinds, hordered _ (tidy_diskWith (htidy.perm hperm)) halike⟩

end Report
end FeatureRunner
