import FeatureRunner.Proofs.Json.RoundTrip
import FeatureRunner.Settings.Store

/-!
This module contains what persisting a runner class leaves alone. The whole file is rewritten, but
what is read back differs from what was read before in the default runner class only, and of several
classes only the last one counts. The main statement is `setRunnerDefaults_last`.
-/

namespace FeatureRunner

theorem Settings.withRunnerDefault_withRunnerDefault (s : Settings) (a b : String)
    : (s.withRunnerDefault a).withRunnerDefault b = s.withRunnerDefault b :=
  rfl

namespace SettingsStore

variable {store store' : SettingsStore} {root root' : Node} {cwd : List String} {file : Path}
variable {runnerClass : String}

/-- The store has the settings of a file, as they are read from it. -/
structure Reflects (store : SettingsStore) (root : Node) (cwd : List String) (file : Path)
    : Prop where
  backed : store.file = some file
  settings : Settings.loadFile (Files.readText root cwd) file = .ok store.settings

/-- No settings are read from the empty text, so they are from a file and no device. -/
theorem Reflects.exists_isFileAt (h : Reflects store root cwd file)
    : ∃ names stamp, Files.IsFileAt root cwd file names stamp := by
  have hsettings := h.settings
  unfold Settings.loadFile at hsettings
  cases htext : Files.readText root cwd file with
  | error f =>
    rw [htext] at hsettings
    cases hsettings
  | ok text =>
    rw [htext] at hsettings
    apply Files.exists_isFileAt htext
    rintro rfl
    cases hsettings

theorem saveFile_of_setRunnerDefault (h : Reflects store root cwd file)
    (hset : store.setRunnerDefault root cwd runnerClass = (.ok root', store'))
    : (store.settings.withRunnerDefault runnerClass).saveFile root cwd file = .ok root'
      ∧ store' = { store with settings := store.settings.withRunnerDefault runnerClass } := by
  unfold setRunnerDefault saved at hset
  simp only [h.backed, Prod.mk.injEq] at hset
  refine ⟨hset.1, ?_⟩
  rw [h.backed, hset.2]

theorem Reflects.setRunnerDefault (h : Reflects store root cwd file)
    (hset : store.setRunnerDefault root cwd runnerClass = (.ok root', store'))
    : Reflects store' root' cwd file
      ∧ store'.settings = store.settings.withRunnerDefault runnerClass := by
  obtain ⟨hsave, rfl⟩ := saveFile_of_setRunnerDefault h hset
  obtain ⟨names, stamp, hfile⟩ := h.exists_isFileAt
  exact ⟨⟨h.backed, Settings.loadFile_saveFile hsave hfile.ne_device⟩, rfl⟩

theorem Reflects.setRunnerDefault_again (h : Reflects store root cwd file)
    (hset : store.setRunnerDefault root cwd runnerClass = (.ok root', store')) (again : String)
    : store'.setRunnerDefault root' cwd again = store.setRunnerDefault root cwd again := by
  obtain ⟨hsave, rfl⟩ := saveFile_of_setRunnerDefault h hset
  obtain ⟨names, stamp, hfile⟩ := h.exists_isFileAt
  have hwrite := Settings.write_of_saveFile hsave
  unfold SettingsStore.setRunnerDefault saved Settings.saveFile
  simp only [h.backed, Settings.withRunnerDefault_withRunnerDefault, hfile.write_write hwrite]

/-- The tree and the store after the classes were made the default one after the other, up to the
first one that cannot be saved. -/
def setRunnerDefaults (store : SettingsStore) (root : Node) (cwd : List String)
    : List String → Except Failure Node × SettingsStore
  | [] => (.ok root, store)
  | runnerClass :: classes =>
    match store.setRunnerDefault root cwd runnerClass with
    | (.ok root, store) => store.setRunnerDefaults root cwd classes
    | (.error f, store) => (.error f, store)

theorem Reflects.exists_setRunnerDefaults (h : Reflects store root cwd file)
    (hslash : Files.endsWithSlash file = false) (classes : List String)
    : ∃ root' store', store.setRunnerDefaults root cwd classes = (.ok root', store') := by
  induction classes generalizing store root with
  | nil => exact ⟨root, store, rfl⟩
  | cons runnerClass classes ih =>
    obtain ⟨names, stamp, hfile⟩ := h.exists_isFileAt
    have hset : ∃ root' store',
        store.setRunnerDefault root cwd runnerClass = (.ok root', store') := by
      simp only [SettingsStore.setRunnerDefault, saved, h.backed, Settings.saveFile,
        hfile.write_eq hslash]
      exact ⟨_, _, rfl⟩
    obtain ⟨root', store', hset⟩ := hset
    rw [setRunnerDefaults, hset]
    exact ih (h.setRunnerDefault hset).1

theorem Reflects.eq_setRunnerDefault (h : Reflects store root cwd file) (classes : List String)
    (last : String)
    (hset : store.setRunnerDefaults root cwd (classes ++ [last]) = (.ok root', store'))
    : store.setRunnerDefault root cwd last = (.ok root', store') := by
  -- Each class that was persisted before is taken away again from the front.
  induction classes generalizing store root with
  | nil =>
    rw [List.nil_append, setRunnerDefaults] at hset
    split at hset
    . next heq => rw [heq]; exact hset
    . cases hset
  | cons runnerClass classes ih =>
    rw [List.cons_append, setRunnerDefaults] at hset
    split at hset
    . next heq =>
      rw [← h.setRunnerDefault_again heq]
      exact ih (h.setRunnerDefault heq).1 hset
    . cases hset

/-- Runner classes that are persisted one after the other leave nothing but the last one: all other
settings stay as they were loaded, in memory and in the file, and the store and the tree are those
after the last class alone. -/
theorem setRunnerDefaults_last (h : Reflects store root cwd file) (classes : List String)
    (last : String)
    (hset : store.setRunnerDefaults root cwd (classes ++ [last]) = (.ok root', store'))
    : store'.settings = store.settings.withRunnerDefault last
      ∧ Settings.loadFile (Files.readText root' cwd) file
        = .ok (store.settings.withRunnerDefault last)
      ∧ store.setRunnerDefault root cwd last = (.ok root', store') := by
  have hlast := h.eq_setRunnerDefault classes last hset
  obtain ⟨hreflects, hsettings⟩ := h.setRunnerDefault hlast
  refine ⟨hsettings, ?_, hlast⟩
  rw [← hsettings]
  exact hreflects.settings

def partialText : String :=
  Json.compact (.object
    [("core", .object [("environment", .string "qa"), ("note", .array [.number 1])]),
     ("gradle", .object [("command_line_args", .null)]), ("version", .number 2)])

def partialRoot : Node :=
  .directory true [("karate-runner.json", .plainFile partialText.toUTF8)] .folder

def partialStore : SettingsStore where
  settings := { core := { environment := "qa" }, gradle := { commandLineArgs := none } }
  file := some ⟨"karate-runner.json"⟩

theorem isFileAt_partialRoot
    : Files.IsFileAt partialRoot [] ⟨"karate-runner.json"⟩ ["karate-runner.json"] .plain := by
  constructor
  . have hmoves : Files.moves ⟨"karate-runner.json"⟩ = [.down "karate-runner.json"] := by decide
    rw [Files.find_eq_ok_iff]
    apply Files.Walkable.locate_of_way ⟨by decide, by decide, by decide⟩
    rw [hmoves]
    exact .down rfl rfl .arrived
  . exact ⟨_, rfl⟩

theorem reflects_partialStore
    : Reflects partialStore partialRoot [] ⟨"karate-runner.json"⟩ := by
  have htext : Files.readText partialRoot [] ⟨"karate-runner.json"⟩ = .ok partialText :=
    Files.readText_of_read (Files.read_of_find isFileAt_partialRoot.find rfl)
  have hsettings : Settings.ofText partialText = .ok partialStore.settings := by
    decide +kernel
  refine ⟨rfl, ?_⟩
  rw [Settings.loadFile, htext]
  simp only [hsettings]
  rfl

theorem setRunnerDefaults_last_partialStore
    : Reflects partialStore partialRoot [] ⟨"karate-runner.json"⟩
      ∧ ∃ root' store',
        partialStore.setRunnerDefaults partialRoot [] ["UsersRunner", "OrdersRunner"]
          = (.ok root', store')
        ∧ Settings.loadFile (Files.readText root' []) ⟨"karate-runner.json"⟩
          = .ok { core := { environment := "qa" }, gradle := { commandLineArgs := none },
                  runner := { default := some "OrdersRunner" } } := by
  have hreflects := reflects_partialStore
  obtain ⟨root', store', hset⟩ := hreflects.exists_setRunnerDefaults (by decide)
    ["UsersRunner", "OrdersRunner"]
  obtain ⟨-, hload, -⟩ := setRunnerDefaults_last hreflects ["UsersRunner"] "OrdersRunner" hset
  exact ⟨hreflects, root', store', hset, hload⟩

end SettingsStore
end FeatureRunner
