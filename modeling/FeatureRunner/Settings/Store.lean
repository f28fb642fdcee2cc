import FeatureRunner.Settings.Search

/-!
This module contains settings together with the file that they are saved to. A change is kept in the
settings even if saving them fails; settings without a file are only changed in memory.
-/

namespace FeatureRunner

/-- Settings and the file they are from. -/
structure SettingsStore where
  settings : Settings
  file : Option Path

namespace SettingsStore

def inMemory (settings : Settings) : SettingsStore :=
  ⟨settings, none⟩

def loadNearest (view : Files.View) (start : Path) : Except Failure SettingsStore :=
  (Settings.loadNearest view start).map fun (settings, file) => ⟨settings, file⟩

def saved (store : SettingsStore) (root : Node) (cwd : List String) (s : Settings)
    : Except Failure Node :=
  match store.file with
  | some file => s.saveFile root cwd file
  | none => .ok root

def save (store : SettingsStore) (root : Node) (cwd : List String) (s : Settings)
    : Except Failure Unit :=
  (store.saved root cwd s).map fun _ => ()

theorem settings_inMemory (s : Settings) : (inMemory s).settings = s :=
  rfl

theorem save_inMemory (s : Settings) (root : Node) (cwd : List String)
    : (inMemory s).save root cwd = fun _ => .ok () :=
  rfl

def setRunnerDefault (store : SettingsStore) (root : Node) (cwd : List String)
    (runnerClass : String) : Except Failure Node × SettingsStore :=
  let settings := store.settings.withRunnerDefault runnerClass
  (store.saved root cwd settings, { store with settings })

end SettingsStore
end FeatureRunner
