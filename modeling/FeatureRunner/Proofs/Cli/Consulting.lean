import FeatureRunner.Cli.Execute
import FeatureRunner.Proofs.Session.DryRun
import FeatureRunner.Proofs.Settings.Searching

/-!
This module contains which settings the commands consult for a path. A run, a debug run and the list
of reports go by the absolute form of the path, so the nearest settings file at or above the target
counts for them. The settings are shown for the path as it is written instead, and that is another
file whenever the nearest one lies above the current directory of a relative path
(`consulted_settings`, `shown_of_fileAbove`).
-/

namespace FeatureRunner
namespace Cli

open FeatureRunner.Files
open FeatureRunner.Settings

/-- What the commands for the path `p`, whose absolute form is `target`, do with settings. -/
structure Consults (e : Surroundings) (p target : Path) : Prop where
  /-- The settings of the path as it is written are shown. -/
  shown : ∀ t, showSettings e (some p) = .ok t →
    ∃ store, SettingsStore.loadNearest e.view p = .ok store
      ∧ t.output = linesText [store.settings.toText]
  /-- A run in either mode goes by the settings of the target. -/
  executed : ∀ location mode tags dry t, (Location.ofText location).path = p →
    execute e mode location tags dry = .ok t →
    ∃ store request, SettingsStore.loadNearest e.view target = .ok store
      ∧ (if dry then dryRun e store.settings request else .ok (run e store request)) = .ok t
  /-- The reports of a project are the ones that the settings of the target say. -/
  reported : ∀ opens t, reports e p opens = .ok t →
    t.output = linesText (Listing.unresolved target)
    ∨ ∃ store root found, SettingsStore.loadNearest e.view target = .ok store
      ∧ Report.find store.settings.reports.toTarget e.root e.cwd root = .ok found
      ∧ t.output = linesText (Listing.ofReports store.settings.reports.toTarget root found)

theorem ok_of_trying (h : Trouble.trying what r = .ok a) : r = .ok a := by
  cases r with
  | error f => cases h
  | ok b => cases h; rfl

theorem canonical_of_find (h : Files.find e.root e.cwd p = .ok place)
    : canonical e p = .ok (Path.ofNames place) := by
  rw [canonical, Files.canonical, h]
  rfl

theorem consults_of_canonical (hp : canonical e p = .ok target) : Consults e p target where
  shown := by
    intro t h
    obtain ⟨store, hstore, h⟩ := exists_ok_of_bind h
    obtain rfl := Except.ok.inj h
    exact ⟨store, ok_of_trying hstore, rfl⟩
  executed := by
    intro location mode tags dry t hlocation h
    obtain ⟨target', htarget, h⟩ := exists_ok_of_bind h
    rw [hlocation, hp] at htarget
    cases htarget
    obtain ⟨request, _, h⟩ := exists_ok_of_bind h
    obtain ⟨store, hstore, h⟩ := exists_ok_of_bind h
    obtain ⟨_, _, h⟩ := exists_ok_of_bind h
    exact ⟨store, request, ok_of_trying hstore, h⟩
  reported := by
    intro opens t h
    obtain ⟨target', htarget, h⟩ := exists_ok_of_bind h
    cases hp.symm.trans htarget
    dsimp only at h
    split at h
    . obtain rfl := Except.ok.inj h
      exact .inl rfl
    . obtain ⟨store, hstore, h⟩ := exists_ok_of_bind h
      obtain ⟨found, hfound, h⟩ := exists_ok_of_bind h
      obtain rfl := Except.ok.inj h
      exact .inr ⟨store, _, found, ok_of_trying hstore, ok_of_trying hfound, rfl⟩

def Named (e : Surroundings) : Prop :=
  ∀ name ∈ e.cwd, Path.IsStep name ∧ '\x00' ∉ name.toList

instance (e : Surroundings) : Decidable (Named e) :=
  inferInstanceAs (Decidable (∀ name ∈ e.cwd, _))

theorem loads_of_canonical (hlinks : LinkFree e.root) (hnamed : Named e)
    (hfind : Files.find e.root e.cwd p = .ok place) (hroom : HasRoom (Path.ofNames place))
    : Loads e.root e.cwd (nearestFile? e.root (upwards place))
        (SettingsStore.loadNearest e.view (Path.ofNames place)) := by
  have hleads := leads_of_find hlinks hfind
  have hnames : ∀ name ∈ place, Path.IsStep name ∧ '\x00' ∉ name.toList := by
    intro name hname
    rw [hleads.place_eq] at hname
    rcases mem_lead hname with hname | hname
    . exact hnamed name hname
    . exact ⟨Path.isStep_of_mem_names hname,
        fun hmem => hleads.walkable.plain (mem_toList_of_mem_names hname hmem)⟩
  have hsteps : ∀ name ∈ place, Path.IsStep name := fun name hname => (hnames name hname).1
  have hsize : (Path.ofNames place).text.utf8ByteSize < maxPathSize := by
    unfold HasRoom at hroom
    omega
  have hfound : Files.find e.root e.cwd (Path.ofNames place) = .ok place :=
    find_ofNames hlinks (isDirectory_of_find hfind) hsteps
      (fun name hname => (hnames name hname).2) hsize hleads.stands
  have hloads := loads_of_find hlinks hfound hroom
  rwa [written_of_absolute (Path.components_ofNames hsteps)] at hloads

/-- In a tree without links the commands that run a target or list its reports go by the nearest
settings file at or above it. The settings that are shown for a path are those of the nearest file
in the directories that the path and the paths above it lead to as they are written. Without parent
steps this is the same file, unless the path is relative and the file lies above the current
directory: then defaults are shown. -/
theorem consulted_settings (hlinks : LinkFree e.root) (hnamed : Named e)
    (hfind : Files.find e.root e.cwd p = .ok place) (hroom : HasRoom p)
    (hroom' : HasRoom (Path.ofNames place))
    : Consults e p (Path.ofNames place)
      ∧ Loads e.root e.cwd (nearestFile? e.root (upwards place))
        (SettingsStore.loadNearest e.view (Path.ofNames place))
      ∧ Loads e.root e.cwd (nearestFile? e.root (written e.cwd p))
        (SettingsStore.loadNearest e.view p)
      ∧ (.parent ∉ p.components →
        nearestFile? e.root (written e.cwd p)
          = (nearestFile? e.root (upwards place)).filter fun file =>
            p.isAbsolute || e.cwd.isPrefixOf file.dropLast) := by
  refine ⟨consults_of_canonical (canonical_of_find hfind),
    loads_of_canonical hlinks hnamed hfind hroom', loads_of_find hlinks hfind hroom, ?_⟩
  intro hparent
  have hcomponents := Path.components_eq_names hparent
  -- such a path only adds names, so its place lies below the place that it begins at
  have hplace := (leads_of_find hlinks hfind).place_eq
  rw [lead, hcomponents, leadSteps_append, leadSteps_anchor, leadSteps_names] at hplace
  cases habsolute : p.isAbsolute with
  | true =>
    rw [origin, if_pos habsolute, List.nil_append] at hplace
    rw [Path.isAbsolute_iff_anchor.1 habsolute] at hcomponents
    rw [written_of_absolute hcomponents, ← hplace]
    cases nearestFile? e.root (upwards place) <;> rfl
  | false =>
    rw [origin, habsolute] at hplace
    rw [nearestFile?_written_of_relative habsolute hcomponents, nearestFile?_relative, hplace]
    rfl

/-! ### A settings file above the current directory -/

def otherSettings : Settings :=
  { core := { environment := "qa" } }

def settingsAbove (cwd : List String) : Surroundings where
  root :=
    .directory true [("w", .directory true
      [(".karate-runner.json", .plainFile otherSettings.toText.toUTF8),
        ("sub", .directory true [("a.feature", .plainFile .empty)] .folder)] .folder)] .folder
  cwd := cwd
  input := []
  isFree _ := true
  openReport _ := .ok ()

theorem linkFree_settingsAbove (cwd : List String) : LinkFree (settingsAbove cwd).root := by
  apply linkFree_directory
  simp only [List.forall_mem_singleton]
  apply linkFree_directory
  simp only [List.forall_mem_cons]
  refine ⟨linkFree_file _ _, linkFree_directory ?_, nofun⟩
  simp only [List.forall_mem_singleton]
  exact linkFree_file _ _

theorem nearestFile?_settingsAbove (cwd : List String)
    : nearestFile? (settingsAbove cwd).root (upwards ["w", "sub", "a.feature"])
        = some ["w", ".karate-runner.json"] :=
  rfl

/-- From the directory with the settings both are the same. -/
theorem consulted_settings_settingsAbove
    : Consults (settingsAbove ["w"]) ⟨"sub/a.feature"⟩ ⟨"/w/sub/a.feature"⟩
      ∧ (SettingsStore.loadNearest (settingsAbove ["w"]).view ⟨"/w/sub/a.feature"⟩).map (·.settings)
        = .ok otherSettings
      ∧ (SettingsStore.loadNearest (settingsAbove ["w"]).view ⟨"sub/a.feature"⟩).map (·.settings)
        = .ok otherSettings := by
  have hfind : Files.find (settingsAbove ["w"]).root ["w"] ⟨"sub/a.feature"⟩
      = .ok ["w", "sub", "a.feature"] := by
    have hmoves : moves ⟨"sub/a.feature"⟩ = [.down "sub", .down "a.feature"] := by decide
    have hlocate : locate (settingsAbove ["w"]).root ["w"] ⟨"sub/a.feature"⟩
        = .ok (.found ["w", "sub", "a.feature"]) := by
      apply Walkable.locate_of_way ⟨by decide, by decide, by decide⟩
      rw [hmoves]
      exact .down rfl rfl (.down rfl rfl .arrived)
    exact find_eq_ok_iff.2 hlocate
  obtain ⟨hconsults, htarget, hwritten, hsame⟩ := consulted_settings (linkFree_settingsAbove ["w"])
    (by decide) hfind (by decide) (by decide)
  rw [nearestFile?_settingsAbove] at htarget
  rw [hsame (by decide), nearestFile?_settingsAbove] at hwritten
  exact ⟨hconsults, htarget.map_settings_eq rfl, hwritten.map_settings_eq rfl⟩

/-- From a directory below the one with the settings the defaults are shown. -/
theorem shown_of_fileAbove
    : Consults (settingsAbove ["w", "sub"]) ⟨"a.feature"⟩ ⟨"/w/sub/a.feature"⟩
      ∧ (SettingsStore.loadNearest (settingsAbove ["w", "sub"]).view ⟨"/w/sub/a.feature"⟩).map
          (·.settings)
        = .ok otherSettings
      ∧ (showSettings (settingsAbove ["w", "sub"]) (some ⟨"a.feature"⟩)).map (·.output)
        = .ok (linesText [Settings.default.toText])
      ∧ otherSettings ≠ Settings.default := by
  have hfind : Files.find (settingsAbove ["w", "sub"]).root ["w", "sub"] ⟨"a.feature"⟩
      = .ok ["w", "sub", "a.feature"] := by
    have hmoves : moves ⟨"a.feature"⟩ = [.down "a.feature"] := by decide
    have hlocate : locate (settingsAbove ["w", "sub"]).root ["w", "sub"] ⟨"a.feature"⟩
        = .ok (.found ["w", "sub", "a.feature"]) := by
      apply Walkable.locate_of_way ⟨by decide, by decide, by decide⟩
      rw [hmoves]
      exact .down rfl rfl .arrived
    exact find_eq_ok_iff.2 hlocate
  have hlinks := linkFree_settingsAbove ["w", "sub"]
  have htarget := loads_of_canonical hlinks (by decide) hfind (by decide)
  rw [nearestFile?_settingsAbove] at htarget
  have hwritten := loads_of_find hlinks hfind (by decide)
  -- the path itself and the empty path above it end at the current directory
  have hnone : nearestFile? (settingsAbove ["w", "sub"]).root
      (["a.feature"].inits.map (["w", "sub"] ++ ·)).reverse = none := rfl
  have hnames : Path.names ⟨"a.feature"⟩ = ["a.feature"] := by decide
  rw [nearestFile?_written_of_relative (by decide) (by decide), hnames, hnone] at hwritten
  have hstore : SettingsStore.loadNearest (settingsAbove ["w", "sub"]).view ⟨"a.feature"⟩
      = .ok ⟨Settings.default, none⟩ := hwritten
  refine ⟨consults_of_canonical (canonical_of_find hfind), htarget.map_settings_eq rfl, ?_,
    by decide⟩
  rw [showSettings, Option.getD_some, loadSettings, hstore]
  rfl

end Cli
end FeatureRunner
