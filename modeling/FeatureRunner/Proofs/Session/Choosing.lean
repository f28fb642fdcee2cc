import FeatureRunner.Session.Basic

/-!
This module contains the ways in which a runner class is chosen. `Choosing` lists them with the
answers that lead there; `choose_choosing` says that there are no others. A session that has an
answer already does not choose again (`chooseRunnerClass_of_remembered`), any other one does
(`chooseRunnerClass_of_new`).
-/

namespace FeatureRunner

def askingSettings : Settings :=
  { runner := { promptToSpecify := true } }

namespace RunnerClass

inductive Choosing (system : BuildSystem) (s : Settings) (answer : String → Option String)
    (save : Settings → Except Failure Unit) : Choice → Prop where
  | needless (hneeded : isNeeded system s = false)
      : Choosing system s answer save ⟨.ok none, s, []⟩
  | unasked (hneeded : isNeeded system s = true) (hprompt : s.runner.promptToSpecify = false)
      : Choosing system s answer save ⟨.ok (Command.nonBlank s.runner.default), s, []⟩
  | cancelled (hneeded : isNeeded system s = true) (hprompt : s.runner.promptToSpecify = true)
      (ha : Command.nonBlank (answer (shownDefault s)) = none)
      : Choosing system s answer save
        ⟨.ok none, s, [.prompt promptTitle (shownDefault s) (answer (shownDefault s))]⟩
  | kept (hneeded : isNeeded system s = true) (hprompt : s.runner.promptToSpecify = true)
      (ha : Command.nonBlank (answer (shownDefault s)) = some (shownDefault s))
      : Choosing system s answer save
        ⟨.ok (some (shownDefault s)), s,
          [.prompt promptTitle (shownDefault s) (answer (shownDefault s))]⟩
  | saved {name : String} (hneeded : isNeeded system s = true)
      (hprompt : s.runner.promptToSpecify = true)
      (ha : Command.nonBlank (answer (shownDefault s)) = some name) (hne : name ≠ shownDefault s)
      (hs : save (s.withRunnerDefault name) = .ok ())
      : Choosing system s answer save
        ⟨.ok (some name), s.withRunnerDefault name,
          [.prompt promptTitle (shownDefault s) (answer (shownDefault s)),
            .save (s.withRunnerDefault name)]⟩
  | unsaved {name : String} {f : Failure} (hneeded : isNeeded system s = true)
      (hprompt : s.runner.promptToSpecify = true)
      (ha : Command.nonBlank (answer (shownDefault s)) = some name) (hne : name ≠ shownDefault s)
      (hs : save (s.withRunnerDefault name) = .error f)
      : Choosing system s answer save
        ⟨.error f, s.withRunnerDefault name,
          [.prompt promptTitle (shownDefault s) (answer (shownDefault s)),
            .save (s.withRunnerDefault name)]⟩

theorem choose_choosing (system : BuildSystem) (s : Settings) (answer : String → Option String)
    (save : Settings → Except Failure Unit)
    : Choosing system s answer save (choose system s answer save) := by
  unfold choose
  split
  . next hneeded => exact .needless (by simpa using hneeded)
  . next hneeded =>
    replace hneeded : isNeeded system s = true := by simpa using hneeded
    split
    . next hprompt => exact .unasked hneeded (by simpa using hprompt)
    . next hprompt =>
      replace hprompt : s.runner.promptToSpecify = true := by simpa using hprompt
      dsimp
      split
      . next ha => exact .cancelled hneeded hprompt ha
      . next name ha =>
        unfold accept
        split
        . next hd =>
          subst hd
          exact .kept hneeded hprompt ha
        . next hne =>
          cases hs : save (s.withRunnerDefault name) with
          | ok _ => simpa [Except.map, hs] using Choosing.saved hneeded hprompt ha hne hs
          | error f => simpa [Except.map, hs] using Choosing.unsaved hneeded hprompt ha hne hs

theorem default_eq_of_shownDefault {s : Settings} {name : String} (h : shownDefault s = name)
    (hne : name ≠ "")
    : s.runner.default = some name := by
  unfold shownDefault at h
  cases hd : s.runner.default with
  | none => simp_all
  | some d => simp_all

end RunnerClass

namespace Session

/-- A request with this build system needs a runner class, and the user is to be asked for it. -/
def asks (s : Session) (system : BuildSystem) : Bool :=
  RunnerClass.isNeeded system s.settings && s.settings.runner.promptToSpecify

theorem chooseRunnerClass_of_remembered {s : Session} {system : BuildSystem} {name : String}
    (hasks : s.asks system = true) (hname : s.runnerClass = some name) (r : Replies)
    : s.chooseRunnerClass r system = ⟨.ok (some name), s, []⟩ := by
  unfold asks at hasks
  unfold chooseRunnerClass
  simp only [hasks, hname, ↓reduceIte]

theorem chooseRunnerClass_of_new {s : Session} {system : BuildSystem}
    (h : s.asks system = true → s.runnerClass = none) (r : Replies)
    : s.chooseRunnerClass r system
        =
      let choice := RunnerClass.choose system s.settings r.answer r.save
      { result := choice.result
        session :=
          { s with
            settings := choice.settings
            runnerClass :=
              if s.asks system then choice.result.toOption.getD s.runnerClass else s.runnerClass }
        calls := choice.calls } := by
  have hnone : (if s.asks system = true then s.runnerClass else none) = none := by
    split
    . next hasks => exact h hasks
    . rfl
  unfold asks at *
  unfold chooseRunnerClass
  simp only [hnone]
  cases (RunnerClass.choose system s.settings r.answer r.save).result with
  | error f => simp [Except.toOption]
  | ok runnerClass =>
    simp only [Except.toOption, Option.getD_some]
    split <;> rfl

end Session
end FeatureRunner
