import FeatureRunner.Proofs.Files.Leading
import FeatureRunner.Proofs.Json.RoundTrip
import FeatureRunner.Settings.Store
import Mathlib.Data.List.Find

/-!
This module contains which settings file counts for a path in a tree without links. `nearestFile?`
is the first one in a list of directories; the search of a path looks in the directories that the
path and the paths above it lead to as they are written (`loads_of_find`). These are not the
directories above the target: a relative path ends at the current directory, and a parent step leads
out of a directory that is looked in all the same.
-/

namespace FeatureRunner
namespace Settings

open FeatureRunner.Files

def nearestFile? (root : Node) (dirs : List (List String)) : Option (List String) :=
  (dirs.flatMap fun dir => fileNames.map fun name => dir ++ [name]).find? fun file =>
    (root.at? file).isSome

def upwards (place : List String) : List (List String) :=
  place.inits.reverse

def written (cwd : List String) (p : Path) : List (List String) :=
  p.ancestors.map (lead cwd)

def HasRoom (p : Path) : Prop :=
  p.text.utf8ByteSize + 20 < maxPathSize

instance (p : Path) : Decidable (HasRoom p) :=
  inferInstanceAs (Decidable (_ < _))

def Loads (root : Node) (cwd : List String) (file? : Option (List String))
    (loaded : Except Failure SettingsStore)
    : Prop :=
  match file? with
  | none => loaded = .ok ⟨default, none⟩
  | some file => ∃ p, find root cwd p = .ok file ∧ ∀ q, find root cwd q = .ok file →
    loaded = (loadFile (readText root cwd) q).map fun s => ⟨s, some p⟩

theorem Loads.map_settings_eq {s : Settings} (h : Loads root cwd (some file) loaded)
    (hfile : root.at? file = some (.file s.toText.toUTF8 stamp))
    : loaded.map (·.settings) = .ok s := by
  obtain ⟨p, hp, hloaded⟩ := h
  have hread : readText root cwd p = .ok s.toText := readText_of_read (read_of_find hp hfile)
  rw [hloaded p hp, loadFile, hread]
  simp only [toText, ofText, (readsBack s).1]
  rfl

theorem fileNames_spec {name : String} (h : name ∈ fileNames)
    : Path.IsStep name ∧ '\x00' ∉ name.toList ∧ name.utf8ByteSize ≤ 19 := by
  revert name
  decide

section Search

variable {root node : Node} {cwd place : List String} {p q : Path} {name : String}

theorem isThere_iff
    : (view root cwd).isThere p = true ↔ ∃ names, find root cwd p = .ok names := by
  cases hp : find root cwd p <;> simp [view, hp, Except.toOption]

theorem isThere_join (hlinks : LinkFree root) (hfind : find root cwd p = .ok place)
    (hroom : HasRoom p) (habove : p.Above q) (hname : name ∈ fileNames)
    : (view root cwd).isThere (q.join ⟨name⟩) = (root.at? (lead cwd q ++ [name])).isSome := by
  obtain ⟨hstep, hplain, hsize⟩ := fileNames_spec hname
  have hroom' : p.text.utf8ByteSize + 1 + name.utf8ByteSize < maxPathSize := by
    unfold HasRoom at hroom
    omega
  have hjoin (names : List String) : find root cwd (q.join ⟨name⟩) = .ok names
      ↔ names = lead cwd q ++ [name] ∧ (root.at? names).isSome = true :=
    find_join_iff hlinks hfind habove hstep hplain hroom'
  rw [Bool.eq_iff_iff, isThere_iff]
  constructor
  . intro ⟨names, hnames⟩
    obtain ⟨rfl, hsome⟩ := (hjoin names).1 hnames
    exact hsome
  . intro h
    exact ⟨_, (hjoin _).2 ⟨rfl, h⟩⟩

theorem isFile_eq (hfind : find root cwd p = .ok place) (hnode : root.at? place = some node)
    : (view root cwd).isFile p = node.isFile := by
  simp [view, Files.node, hfind, hnode, Except.toOption]

theorem exists_parent?_of_isFile (hlinks : LinkFree root) (hfind : find root cwd p = .ok place)
    (hnode : root.at? place = some node) (hfile : node.isFile = true)
    : ∃ q, p.parent? = some q := by
  cases hparent : p.parent? with
  | some q => exact ⟨q, rfl⟩
  | none =>
    have hleads := leads_of_find hlinks hfind
    rcases Path.components_of_parent?_eq_none hparent with hp | hp
    . have hempty := hleads.walkable.nonempty
      rw [Path.isEmpty_iff_components_eq_nil.2 hp] at hempty
      cases hempty
    . have hdir := isDirectory_of_find hfind
      have hplace := hleads.place_eq
      rw [lead, hp] at hplace
      cases hplace
      cases Option.some.inj hnode
      cases hdir.symm.trans (Node.isDirectory_of_isFile hfile)

/-- A file has no settings files below it, so the search may as well start with the file itself. -/
theorem findFile?_eq (hlinks : LinkFree root) (hfind : find root cwd p = .ok place)
    (hroom : HasRoom p)
    : findFile? (view root cwd).isFile (view root cwd).isThere p
        = (searchedFiles p).find? (view root cwd).isThere := by
  have hleads := leads_of_find hlinks hfind
  obtain ⟨node, hnode, -⟩ := hleads.stands
  have hisFile := isFile_eq hfind hnode
  rw [findFile?, searchStart?, hisFile]
  cases hfile : node.isFile with
  | false => rfl
  | true =>
    obtain ⟨q, hq⟩ := exists_parent?_of_isFile hlinks hfind hnode hfile
    -- the search starts with the parent, and what it would find before that is not there
    have hnone : (fileNames.map fun name => p.join ⟨name⟩).find? (view root cwd).isThere
        = none := by
      rw [List.find?_eq_none]
      intro file hmem
      obtain ⟨name, hname, rfl⟩ := List.mem_map.1 hmem
      have hbelow : node.at? [name] = none :=
        Node.at?_eq_none_of_not_directory (Node.isDirectory_of_isFile hfile) (List.cons_ne_nil _ _)
      rw [isThere_join hlinks hfind hroom (.refl p) hname, ← hleads.place_eq, Node.at?_append,
        hnode, Option.bind_some, hbelow]
      decide
    have hsearched : searchedFiles p
        = (fileNames.map fun name => p.join ⟨name⟩) ++ searchedFiles q := by
      rw [searchedFiles, Path.ancestors_of_parent? hq]
      rfl
    rw [if_pos rfl, hq, hsearched, List.find?_append, hnone]
    rfl

theorem map_lead_findFile? (hlinks : LinkFree root) (hfind : find root cwd p = .ok place)
    (hroom : HasRoom p)
    : (findFile? (view root cwd).isFile (view root cwd).isThere p).map (lead cwd)
        = nearestFile? root (written cwd p) := by
  have hfiles : (written cwd p).flatMap (fun dir => fileNames.map fun name => dir ++ [name])
      = (searchedFiles p).map (lead cwd) := by
    rw [written, searchedFiles, List.map_flatMap, List.flatMap_map]
    apply List.flatMap_congr
    intro q _
    rw [List.map_map]
    apply List.map_congr_left
    intro name hname
    exact (lead_join cwd q (fileNames_spec hname).1).symm
  have hthere : ∀ file ∈ searchedFiles p,
      (view root cwd).isThere file = (root.at? (lead cwd file)).isSome := by
    intro file hmem
    obtain ⟨q, hq, hmem⟩ := List.mem_flatMap.1 hmem
    obtain ⟨name, hname, rfl⟩ := List.mem_map.1 hmem
    rw [lead_join cwd q (fileNames_spec hname).1]
    exact isThere_join hlinks hfind hroom (Path.above_of_mem_ancestors hq) hname
  rw [findFile?_eq hlinks hfind hroom, nearestFile?, hfiles, List.find?_map]
  congr 1
  exact List.find?_congr hthere

theorem loads_of_find (hlinks : LinkFree root) (hfind : find root cwd p = .ok place)
    (hroom : HasRoom p)
    : Loads root cwd (nearestFile? root (written cwd p))
        (SettingsStore.loadNearest (view root cwd) p) := by
  rw [← map_lead_findFile? hlinks hfind hroom, SettingsStore.loadNearest, loadNearest]
  cases hfile : findFile? (view root cwd).isFile (view root cwd).isThere p with
  | none => rfl
  | some file =>
    have hthere : (view root cwd).isThere file = true := by
      rw [findFile?_eq hlinks hfind hroom] at hfile
      exact List.find?_some hfile
    obtain ⟨names, hnames⟩ := isThere_iff.1 hthere
    obtain rfl := (leads_of_find hlinks hnames).place_eq
    refine ⟨file, hnames, ?_⟩
    intro q hq
    have hread : (view root cwd).readText file = readText root cwd q := by
      simp [view, readText, Files.read, Files.node, hnames, hq]
    simp only [loadFile, hread]
    cases readText root cwd q with
    | error f => rfl
    | ok text =>
      dsimp only
      cases (ofText text).mapError Failure.serialization <;> rfl

end Search

/-! ### The directories that are looked in -/

section Directories

variable {root : Node} {cwd names place file : List String} {dirs dirs' : List (List String)}
variable {p : Path}

theorem nearestFile?_append (root : Node) (dirs dirs' : List (List String))
    : nearestFile? root (dirs ++ dirs')
        = (nearestFile? root dirs).or (nearestFile? root dirs') := by
  rw [nearestFile?, List.flatMap_append, List.find?_append]
  rfl

theorem dropLast_mem_of_nearestFile? (h : nearestFile? root dirs = some file)
    : file.dropLast ∈ dirs := by
  obtain ⟨dir, hdir, hmem⟩ := List.mem_flatMap.1 (List.mem_of_find?_eq_some h)
  obtain ⟨name, -, rfl⟩ := List.mem_map.1 hmem
  rwa [List.dropLast_concat]

theorem nearestFile?_append_of_subset (h : dirs' ⊆ dirs)
    : nearestFile? root (dirs ++ dirs') = nearestFile? root dirs := by
  rw [nearestFile?_append]
  cases hdirs : nearestFile? root dirs with
  | some file => rfl
  | none =>
    rw [Option.none_or]
    rw [nearestFile?, List.find?_eq_none] at hdirs ⊢
    intro file hmem
    obtain ⟨dir, hdir, hmem⟩ := List.mem_flatMap.1 hmem
    exact hdirs file (List.mem_flatMap.2 ⟨dir, h hdir, hmem⟩)

theorem written_eq (cwd : List String) (p : Path)
    : written cwd p = (Path.beginnings p.components
        ++ (if p.isAbsolute then [] else [[]])).map (leadSteps (origin cwd p)) := by
  rw [← Path.map_components_ancestors_all, List.map_map, written]
  apply List.map_congr_left
  intro q hq
  rw [lead, origin_eq_of_above cwd (Path.above_of_mem_ancestors hq)]
  rfl

theorem beginnings_cons (step : α) (steps : List α)
    : Path.beginnings (step :: steps) = (steps.inits.map (step :: ·)).reverse := by
  simp [Path.beginnings, List.filter_map, Function.comp_def]

theorem map_leadSteps_inits (cwd names : List String)
    : (names.map Path.Component.name).inits.map (leadSteps cwd) = names.inits.map (cwd ++ ·) := by
  rw [List.map_inits, List.map_map]
  apply List.map_congr_left
  intro front _
  exact leadSteps_names cwd front

theorem written_of_absolute (h : p.components = .root :: names.map .name)
    : written cwd p = upwards names := by
  have habsolute : p.isAbsolute = true := Path.isAbsolute_iff_mem.2 (by simp [h])
  have hnames := map_leadSteps_inits [] names
  rw [written_eq, habsolute, if_pos rfl, List.append_nil, origin, if_pos habsolute, h,
    beginnings_cons, List.map_reverse, List.map_map, upwards]
  change ((names.map Path.Component.name).inits.map (leadSteps [])).reverse = _
  simp [hnames]

theorem nearestFile?_written_of_relative (hrelative : p.isAbsolute = false)
    (h : p.components = p.anchor.components ++ p.names.map .name)
    : nearestFile? root (written cwd p)
        = nearestFile? root (p.names.inits.map (cwd ++ ·)).reverse := by
  have hall (steps : List Path.Component)
      : Path.beginnings steps ++ [[]] = steps.inits.reverse := by
    cases steps <;> simp [beginnings_cons, Path.beginnings_nil]
  have horigin : origin cwd p = cwd := by simp [origin, hrelative]
  rw [written_eq, hrelative, horigin]
  simp only [Bool.false_eq_true, if_false, hall]
  rw [List.map_reverse]
  cases hanchor : p.anchor with
  | none =>
    rw [h, hanchor]
    exact congrArg _ (congrArg _ (map_leadSteps_inits cwd p.names))
  | root =>
    have habsolute := Path.isAbsolute_iff_anchor.2 hanchor
    cases habsolute.symm.trans hrelative
  | current =>
    -- the dot in front leads to the current directory once more
    rw [h, hanchor]
    change nearestFile? root
      ((Path.Component.current :: p.names.map .name).inits.map (leadSteps cwd)).reverse = _
    rw [List.inits_cons, List.map_cons, List.map_map, List.reverse_cons]
    change nearestFile? root
      (((p.names.map Path.Component.name).inits.map (leadSteps cwd)).reverse ++ [cwd]) = _
    rw [map_leadSteps_inits]
    apply nearestFile?_append_of_subset
    intro dir hdir
    cases List.mem_singleton.1 hdir
    rw [List.mem_reverse]
    exact List.mem_map.2 ⟨[], by simp, by simp⟩

theorem exists_upwards_append (cwd names : List String)
    : ∃ above, upwards (cwd ++ names) = (names.inits.map (cwd ++ ·)).reverse ++ above
        ∧ ∀ dir ∈ above, dir.length < cwd.length := by
  have hcwd : ∃ above, cwd.inits = above ++ [cwd] ∧ ∀ dir ∈ above, dir.length < cwd.length := by
    cases cwd using List.reverseRecOn with
    | nil => exact ⟨[], rfl, nofun⟩
    | append_singleton front last =>
      refine ⟨front.inits, by simp [List.inits_append], ?_⟩
      intro dir hdir
      have hle := ((List.mem_inits dir front).1 hdir).length_le
      simpa using Nat.lt_succ_of_le hle
  obtain ⟨above, habove, hlength⟩ := hcwd
  refine ⟨above.reverse, ?_, by simpa using hlength⟩
  have hinits : (cwd ++ names).inits = above ++ names.inits.map (cwd ++ ·) := by
    rw [List.inits_append, habove]
    cases names <;> simp
  rw [upwards, hinits, List.reverse_append]

/-- A relative path without parent steps has the settings file that counts for its target if that is
not above the current directory, and none otherwise. -/
theorem nearestFile?_relative (cwd names : List String)
    : nearestFile? root (names.inits.map (cwd ++ ·)).reverse
        = (nearestFile? root (upwards (cwd ++ names))).filter fun file =>
          cwd.isPrefixOf file.dropLast := by
  obtain ⟨above, habove, hlength⟩ := exists_upwards_append cwd names
  rw [habove, nearestFile?_append]
  cases hbelow : nearestFile? root (names.inits.map (cwd ++ ·)).reverse with
  | some file =>
    have hdir := dropLast_mem_of_nearestFile? hbelow
    rw [List.mem_reverse] at hdir
    obtain ⟨front, -, heq⟩ := List.mem_map.1 hdir
    simp [Option.filter, ← heq]
  | none =>
    rw [Option.none_or]
    cases hfar : nearestFile? root above with
    | none => rfl
    | some file =>
      have hlt := hlength _ (dropLast_mem_of_nearestFile? hfar)
      have hprefix : ¬ cwd <+: file.dropLast := fun h => Nat.not_le.2 hlt h.length_le
      simp [Option.filter, hprefix]

end Directories

end Settings
end FeatureRunner
