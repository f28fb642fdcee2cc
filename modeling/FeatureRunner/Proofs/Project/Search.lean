import FeatureRunner.Project.Basic
import FeatureRunner.Proofs.Path.Steps

/-!
This module contains how the project of a target is found. `Search` says which directory is the
root, which file in it is the build descriptor and which files are asked for on the way, directory
by directory and marker by marker. The main statement is `resolve_search`: a target is resolved in
this way, in the directories that the beginnings of its steps lead to.
-/

namespace FeatureRunner

/-- The marker files in the order in which they count, with the build systems that they stand for. -/
def BuildSystem.markerSystems : List (String × BuildSystem) :=
  [("karate.jar", .standaloneJar), ("package.json", .nodePackage), ("pom.xml", .maven),
    ("build.gradle.kts", .gradleKotlin), ("build.gradle", .gradleGroovy)]

theorem BuildSystem.ofName_of_mem_markerSystems {marker : String × BuildSystem}
    (h : marker ∈ markerSystems)
    : Path.IsStep marker.1 ∧ ofName marker.1 = marker.2 := by
  revert marker
  decide +kernel

namespace Project

open BuildSystem

def startSteps (target : Path) : TargetKind → List Path.Component
  | .directory => target.components
  | .file | .test => target.components.dropLast

def filesIn (dirs : List Path) (markers : List (String × BuildSystem)) : List Path :=
  dirs.flatMap fun dir => markers.map fun marker => dir.join ⟨marker.1⟩

def HasMarker (isFile : Path → Bool) (dir : Path) : Prop :=
  ∃ marker ∈ markerSystems, isFile (dir.join ⟨marker.1⟩) = true

/-- The search for a project in directories: the project that is found and the files that are asked
for. -/
inductive Search (isFile : Path → Bool) : List Path → Project → List Path → Prop where
  /-- The first directory with a marker is the root, the first marker in it is the descriptor. -/
  | found {nearer farther : List Path} {root : Path} {earlier later : List (String × BuildSystem)}
      {name : String} {system : BuildSystem} (hnearer : ∀ dir ∈ nearer, ¬ HasMarker isFile dir)
      (hmarkers : markerSystems = earlier ++ (name, system) :: later)
      (hearlier : ∀ marker ∈ earlier, isFile (root.join ⟨marker.1⟩) = false)
      (hfile : isFile (root.join ⟨name⟩) = true)
      (hsystem : buildSystem ⟨root, root.join ⟨name⟩⟩ = system)
      : Search isFile (nearer ++ root :: farther) ⟨root, root.join ⟨name⟩⟩
        (filesIn nearer markerSystems ++ filesIn [root] (earlier ++ [(name, system)]))
  /-- No directory has a marker. -/
  | notFound {dirs : List Path} (hnone : ∀ dir ∈ dirs, ¬ HasMarker isFile dir)
      : Search isFile dirs unresolved (filesIn dirs markerSystems)

def firstFile? [Monad m] (isFile : Path → m Bool) : List Path → m (Option Path)
  | [] => return none
  | file :: files => do
    if ← isFile file then
      return some file
    else
      firstFile? isFile files

def firstProject [Monad m] (isFile : Path → m Bool) : List Path → m Project
  | [] => return unresolved
  | dir :: dirs => do
    match ← firstFile? isFile (markersIn dir) with
    | some file => return ⟨dir, file⟩
    | none => firstProject isFile dirs

def noting (isFile : Path → Bool) (file : Path) : StateM (List Path) Bool := do
  modify (· ++ [file])
  return isFile file

theorem upTo_append (p : α → Bool) (as bs : List α)
    : upTo p (as ++ bs)
        =
      match as.find? p with
      | some _ => upTo p as
      | none => as ++ upTo p bs := by
  induction as with
  | nil => rfl
  | cons a as ih =>
    cases ha : p a with
    | true => simp [upTo, ha]
    | false =>
      simp only [List.cons_append, upTo, ha, Bool.false_eq_true, ↓reduceIte, ih,
        List.find?_cons_of_neg, not_false_eq_true]
      split <;> rfl

theorem upTo_append_cons {p : α → Bool} {as : List α} (h : as.find? p = none) {a : α}
    (ha : p a = true) (bs : List α)
    : upTo p (as ++ a :: bs) = as ++ [a] := by
  rw [upTo_append, h]
  simp [upTo, ha]

section Directories

variable (isFile : Path → Bool) (dir : Path) (dirs : List Path)

def projectsIn : List Project :=
  dirs.flatMap fun dir => (markersIn dir).map fun file => ⟨dir, file⟩

def resolveIn : Project :=
  ((projectsIn dirs).find? fun p => isFile p.runFile).getD unresolved

def probesIn : List Path :=
  upTo isFile ((projectsIn dirs).map (·.runFile))

theorem resolveIn_cons
    : resolveIn isFile (dir :: dirs)
        =
      match detect? isFile dir with
      | some file => ⟨dir, file⟩
      | none => resolveIn isFile dirs := by
  have hfind : ((markersIn dir).map fun file => Project.mk dir file).find? (isFile ·.runFile)
      = ((markersIn dir).find? isFile).map fun file => Project.mk dir file :=
    List.find?_map ..
  unfold resolveIn projectsIn detect?
  rw [List.flatMap_cons, List.find?_append, hfind]
  cases (markersIn dir).find? isFile with
  | some file => rfl
  | none => rfl

theorem probesIn_cons
    : probesIn isFile (dir :: dirs)
        =
      match detect? isFile dir with
      | some _ => upTo isFile (markersIn dir)
      | none => markersIn dir ++ probesIn isFile dirs := by
  have hfiles : (projectsIn (dir :: dirs)).map (·.runFile)
      = markersIn dir ++ (projectsIn dirs).map (·.runFile) := by
    simp [projectsIn, Function.comp_def]
  unfold probesIn detect?
  rw [hfiles, upTo_append]
  cases (markersIn dir).find? isFile with
  | some file => rfl
  | none => rfl

variable {isFile dir}

theorem exists_of_detect?_eq_some {file : Path} (h : detect? isFile dir = some file)
    : ∃ earlier name system later, markerSystems = earlier ++ (name, system) :: later
        ∧ (∀ marker ∈ earlier, isFile (dir.join ⟨marker.1⟩) = false)
        ∧ isFile (dir.join ⟨name⟩) = true ∧ file = dir.join ⟨name⟩
        ∧ upTo isFile (markersIn dir) = filesIn [dir] (earlier ++ [(name, system)]) := by
  have hmarkers : markersIn dir = markerSystems.map fun marker => dir.join ⟨marker.1⟩ := by rfl
  unfold detect? at h
  rw [hmarkers] at h ⊢
  rw [List.find?_map, Option.map_eq_some_iff] at h
  obtain ⟨⟨name, system⟩, hfind, rfl⟩ := h
  obtain ⟨hfile, earlier, later, hsplit, hearlier⟩ := List.find?_eq_some_iff_append.1 hfind
  have hnone : ∀ marker ∈ earlier, isFile (dir.join ⟨marker.1⟩) = false := by
    simpa using hearlier
  refine ⟨earlier, name, system, later, hsplit, hnone, hfile, rfl, ?_⟩
  have hfirst : (earlier.map fun marker => dir.join ⟨marker.1⟩).find? isFile = none := by
    simpa [List.find?_eq_none] using hnone
  have hprobes := upTo_append_cons hfirst (a := dir.join ⟨name⟩) hfile
  simp [hsplit, hprobes, filesIn]

theorem not_hasMarker_of_detect?_eq_none (h : detect? isFile dir = none)
    : ¬ HasMarker isFile dir := by
  rintro ⟨marker, hmem, hfile⟩
  have hnone := List.find?_eq_none.1 h (dir.join ⟨marker.1⟩)
  exact hnone (List.mem_map.2 ⟨marker.1, List.mem_map.2 ⟨marker, hmem, rfl⟩, rfl⟩) hfile

variable {dirs}

theorem buildSystem_join (hdir : dir.isEmpty = false) {marker : String × BuildSystem}
    (h : marker ∈ markerSystems)
    : buildSystem ⟨dir, dir.join ⟨marker.1⟩⟩ = marker.2 := by
  obtain ⟨hstep, hsystem⟩ := ofName_of_mem_markerSystems h
  rw [buildSystem, ofFile, Path.fileName?_join hdir hstep]
  exact hsystem

theorem Search.pass {p : Project} {files : List Path} (h : Search isFile dirs p files)
    (hdir : ¬ HasMarker isFile dir)
    : Search isFile (dir :: dirs) p (markersIn dir ++ files) := by
  cases h with
  | @found nearer farther root earlier later name system hnearer hmarkers hearlier hfile hsystem =>
    have hpassed : ∀ dir' ∈ dir :: nearer, ¬ HasMarker isFile dir' :=
      List.forall_mem_cons.2 ⟨hdir, hnearer⟩
    rw [← List.append_assoc]
    exact .found hpassed hmarkers hearlier hfile hsystem
  | notFound hnone => exact .notFound (List.forall_mem_cons.2 ⟨hdir, hnone⟩)

theorem resolveIn_search (hdirs : ∀ dir ∈ dirs, dir.isEmpty = false)
    : Search isFile dirs (resolveIn isFile dirs) (probesIn isFile dirs) := by
  -- Either the nearest directory decides, or all its markers are asked for and it is passed by.
  induction dirs with
  | nil => exact .notFound (by simp)
  | cons dir dirs ih =>
    rw [List.forall_mem_cons] at hdirs
    rw [resolveIn_cons, probesIn_cons]
    cases hdetect : detect? isFile dir with
    | some file =>
      obtain ⟨earlier, name, system, later, hmarkers, hearlier, hfile, rfl, hprobes⟩ :=
        exists_of_detect?_eq_some hdetect
      dsimp only
      rw [hprobes]
      have hpassed : ∀ dir' ∈ ([] : List Path), ¬ HasMarker isFile dir' := List.forall_mem_nil _
      have hmem : (name, system) ∈ markerSystems := by simp [hmarkers]
      have hsystem := buildSystem_join hdirs.1 hmem
      exact .found hpassed hmarkers hearlier hfile hsystem
    | none =>
      exact (ih hdirs.2).pass (not_hasMarker_of_detect?_eq_none hdetect)

theorem run_firstFile? (files asked : List Path)
    : (firstFile? (noting isFile) files).run asked
        = pure (files.find? isFile, asked ++ upTo isFile files) := by
  induction files generalizing asked with
  | nil => simp [firstFile?, upTo]
  | cons file files ih =>
    cases hfile : isFile file with
    | true => simp [firstFile?, noting, upTo, hfile]
    | false => simp [firstFile?, noting, upTo, hfile, ih]

theorem run_firstProject (dirs asked : List Path)
    : (firstProject (noting isFile) dirs).run asked
        = pure (resolveIn isFile dirs, asked ++ probesIn isFile dirs) := by
  induction dirs generalizing asked with
  | nil => simp [firstProject, resolveIn, probesIn, projectsIn, upTo]
  | cons dir dirs ih =>
    have hdir : (firstFile? (noting isFile) (markersIn dir)).run asked
        = pure ((markersIn dir).find? isFile, asked ++ upTo isFile (markersIn dir)) :=
      run_firstFile? (markersIn dir) asked
    rw [resolveIn_cons, probesIn_cons, detect?, firstProject, StateT.run_bind, hdir, pure_bind]
    cases hdetect : (markersIn dir).find? isFile with
    | some file => rfl
    | none =>
      have hall : upTo isFile (markersIn dir) = markersIn dir := by
        have happend := upTo_append isFile (markersIn dir) []
        simpa [hdetect, upTo] using happend
      simp [ih, hall]

end Directories

theorem isEmpty_of_mem_searched {target dir : Path} {kind : TargetKind}
    (h : dir ∈ searched target kind)
    : dir.isEmpty = false := by
  unfold searched at h
  split at h
  . simpa using (List.mem_filter.1 h).2
  . cases h

theorem map_components_parent? (target : Path)
    : ((target.parent?.elim [] Path.ancestors).filter (!·.isEmpty)).map Path.components
        = Path.beginnings target.components.dropLast := by
  cases h : target.parent? with
  | some dir =>
    rw [← (Path.components_of_parent? h).1]
    exact Path.map_components_ancestors dir
  | none =>
    have hnil : target.components.dropLast = [] := by
      rcases Path.components_of_parent?_eq_none h with hsteps | hsteps <;> simp [hsteps]
    rw [hnil]
    rfl

theorem map_components_searched (target : Path) (kind : TargetKind)
    : (searched target kind).map Path.components = Path.beginnings (startSteps target kind) := by
  have habove := map_components_parent? target
  unfold searched
  cases kind with
  | directory => exact Path.map_components_ancestors target
  | file =>
    cases h : target.parent? <;> simpa [start?, startSteps, h] using habove
  | test =>
    cases h : target.parent? <;> simpa [start?, startSteps, h] using habove

theorem Search.eq_unresolved_iff {isFile : Path → Bool} {dirs files : List Path} {p : Project}
    (h : Search isFile dirs p files) (hdirs : ∀ dir ∈ dirs, dir.isEmpty = false)
    : p = unresolved ↔ ∀ dir ∈ dirs, ¬ HasMarker isFile dir := by
  cases h with
  | @found nearer farther root earlier later name system hnearer hmarkers hearlier hfile hsystem =>
    have hroot : root.isEmpty = false := hdirs root (by simp)
    have hmarker : HasMarker isFile root := ⟨(name, system), by simp [hmarkers], hfile⟩
    constructor
    . intro heq
      obtain rfl : root = ⟨""⟩ := congrArg Project.root heq
      cases hroot
    . intro hnone
      exact absurd hmarker (hnone root (by simp))
  | notFound hnone => exact iff_of_true rfl hnone

/-- A target belongs to the project that a search finds in the directories above it, which are those
that the nonempty beginnings of its steps lead to. The files that are asked for are those of the
search; a target without a project has no marker above it. -/
theorem resolve_search (isFile : Path → Bool) (target : Path) (kind : TargetKind)
    : Search isFile (searched target kind) (resolve isFile target kind)
          (probes isFile target kind)
      ∧ (searched target kind).map Path.components = Path.beginnings (startSteps target kind)
      ∧ (resolve isFile target kind = unresolved
          ↔ ∀ dir ∈ searched target kind, ¬ HasMarker isFile dir)
      ∧ ((firstProject (noting isFile) (searched target kind)).run []).run
          = (resolve isFile target kind, probes isFile target kind) := by
  have hdirs : ∀ dir ∈ searched target kind, dir.isEmpty = false :=
    fun _ => isEmpty_of_mem_searched
  have hsearch : Search isFile (searched target kind) (resolve isFile target kind)
      (probes isFile target kind) := resolveIn_search hdirs
  refine ⟨hsearch, map_components_searched target kind, hsearch.eq_unresolved_iff hdirs, ?_⟩
  rw [run_firstProject]
  rfl

end Project
end FeatureRunner
