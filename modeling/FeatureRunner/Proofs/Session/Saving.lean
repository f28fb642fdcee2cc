import FeatureRunner.Proofs.Session.Choosing

/-!
This module contains what becomes of chosen runner classes in the file of the settings. The settings
in memory are those of the last save that was tried, the file has those of the last save that
succeeded. `saved_of_choice` says that a chosen class is in the file unless the last save has
failed; then it is used all the same.
-/

namespace FeatureRunner

open RunnerClass

/-- A question for a runner class with the answers of the outside to it. -/
structure Inquiry where
  system : BuildSystem
  answer : String → Option String
  save : Settings → Except Failure Unit

/-- Settings in memory, those that their file had at first, and the saves that were tried since,
oldest first, each with whether it succeeded. -/
structure Backed where
  memory : Settings
  initial : Settings
  saves : List (Settings × Bool) := []

namespace Backed

def loaded (s : Settings) : Backed where
  memory := s
  initial := s

def file (b : Backed) : Settings :=
  ((b.saves.filter fun (_, succeeded) => succeeded).getLast?.map (·.1)).getD b.initial

def choice (b : Backed) (i : Inquiry) : Choice :=
  choose i.system b.memory i.answer i.save

def savesAmong (calls : List Call) (save : Settings → Except Failure Unit)
    : List (Settings × Bool) :=
  calls.filterMap fun
    | .save s => some (s, (save s).isOk)
    | _ => none

def after (b : Backed) (i : Inquiry) : Backed :=
  { b with
    memory := (b.choice i).settings
    saves := b.saves ++ savesAmong (b.choice i).calls i.save }

def afterAll (b : Backed) (is : List Inquiry) : Backed :=
  is.foldl after b

/-- The settings in memory are those of the last save that was tried. -/
structure Tracked (s : Settings) (b : Backed) : Prop where
  memory : b.memory = (b.saves.getLast?.map (·.1)).getD b.initial
  prompts : b.memory.runner.promptToSpecify = s.runner.promptToSpecify

theorem tracked_loaded (s : Settings) : Tracked s (loaded s) := by
  constructor <;> rfl

theorem tracked_after {s : Settings} {b : Backed} (h : Tracked s b) (i : Inquiry)
    : Tracked s (b.after i) := by
  have hchoosing := choose_choosing i.system b.memory i.answer i.save
  unfold after choice
  generalize choose i.system b.memory i.answer i.save = choice at *
  cases hchoosing with
  | needless => simpa [savesAmong] using h
  | unasked => simpa [savesAmong] using h
  | cancelled => simpa [savesAmong] using h
  | kept => simpa [savesAmong] using h
  | saved => exact ⟨by simp [savesAmong], h.prompts⟩
  | unsaved => exact ⟨by simp [savesAmong], h.prompts⟩

theorem tracked_afterAll {s : Settings} {b : Backed} (h : Tracked s b) (is : List Inquiry)
    : Tracked s (b.afterAll is) := by
  induction is generalizing b with
  | nil => exact h
  | cons i is ih => exact ih (tracked_after h i)

/-- Unless the last save has failed the file has the settings in memory. -/
theorem file_eq_memory {s : Settings} {b : Backed} (h : Tracked s b)
    : b.file = b.memory ∨ b.saves.getLast? = some (b.memory, false) := by
  have hmemory := h.memory
  unfold file
  rcases b.saves.eq_nil_or_concat with hnil | ⟨saves, ⟨last, succeeded⟩, hsaves⟩
  . simp [hmemory, hnil]
  . cases succeeded with
    | true => simp [hmemory, hsaves]
    | false => simp [hmemory, hsaves]

theorem default_of_choice {b : Backed} {i : Inquiry} {name : String}
    (hprompt : b.memory.runner.promptToSpecify = true) (h : (b.choice i).result = .ok (some name))
    : (b.after i).memory.runner.default = some name := by
  have hchoosing := choose_choosing i.system b.memory i.answer i.save
  unfold after
  unfold choice at *
  generalize choose i.system b.memory i.answer i.save = choice at *
  cases hchoosing with
  | needless => simp at h
  | unasked _ hsilent => simp [hprompt] at hsilent
  | cancelled => simp at h
  | kept _ _ ha =>
    obtain rfl : shownDefault b.memory = name := by simpa using h
    exact default_eq_of_shownDefault rfl (Command.nonBlank_ne_empty ha)
  | saved => simpa [Settings.withRunnerDefault] using h
  | unsaved => simp at h

end Backed

/-- A runner class that is chosen while questions are asked is the default in memory. The file has
it too unless the save that was tried last has failed, and then that save was to write it. -/
theorem saved_of_choice {s : Settings} (hprompt : s.runner.promptToSpecify = true)
    (before : List Inquiry) {i : Inquiry} {name : String}
    (h : (((Backed.loaded s).afterAll before).choice i).result = .ok (some name))
    : ((Backed.loaded s).afterAll (before ++ [i])).memory.runner.default = some name
      ∧ (((Backed.loaded s).afterAll (before ++ [i])).file.runner.default = some name
        ∨ ((Backed.loaded s).afterAll (before ++ [i])).saves.getLast?
          = some (((Backed.loaded s).afterAll (before ++ [i])).memory, false)) := by
  have hbefore := Backed.tracked_afterAll (Backed.tracked_loaded s) before
  have hmemory := Backed.default_of_choice (hbefore.prompts.trans hprompt) h
  have hafter : (Backed.loaded s).afterAll (before ++ [i])
      = ((Backed.loaded s).afterAll before).after i := by
    simp [Backed.afterAll]
  rw [hafter]
  refine ⟨hmemory, ?_⟩
  rcases Backed.file_eq_memory (Backed.tracked_after hbefore i) with hfile | hfailed
  . exact .inl (hfile ▸ hmemory)
  . exact .inr hfailed

def savedInquiry (name : String) : Inquiry :=
  ⟨.maven, fun _ => some name, fun _ => .ok ()⟩

def unsavedInquiry (name : String) : Inquiry :=
  ⟨.maven, fun _ => some name, fun _ => .error (.io .permissionDenied)⟩

theorem saved_of_choice_afterRefusal
    : askingSettings.runner.promptToSpecify = true
      ∧ (((Backed.loaded askingSettings).afterAll [unsavedInquiry "UsersRunner"]).choice
          (savedInquiry "OrdersRunner")).result = .ok (some "OrdersRunner")
      ∧ ((Backed.loaded askingSettings).afterAll
          [unsavedInquiry "UsersRunner", savedInquiry "OrdersRunner"]).file.runner.default
        = some "OrdersRunner" := by
  have h := @saved_of_choice askingSettings rfl [unsavedInquiry "UsersRunner"]
    (savedInquiry "OrdersRunner") "OrdersRunner" rfl
  refine ⟨rfl, rfl, ?_⟩
  rcases h with ⟨-, hfile | hfailed⟩
  . exact hfile
  . exact absurd hfailed (by decide)

/-- A class whose save has failed is used without another save when it is answered again; the file
keeps the class that it had. -/
theorem choice_of_unsaved
    : (((Backed.loaded askingSettings).afterAll [unsavedInquiry "UsersRunner"]).choice
          (unsavedInquiry "UsersRunner")).result = .ok (some "UsersRunner")
      ∧ ((Backed.loaded askingSettings).afterAll
          [unsavedInquiry "UsersRunner", unsavedInquiry "UsersRunner"]).file.runner.default
        = some "TestRunner" :=
  ⟨rfl, rfl⟩

end FeatureRunner
