import FeatureRunner.Session.Basic

/-!
This module contains sequences of turns, which are what can be asked of a session from outside. A
session logs each turn together with the session that the turn finds.
-/

namespace FeatureRunner

/-- Something that is asked of a session, with the answers of the outside to it. -/
inductive Turn where
  | request (mode : Mode) (q : Request) (r : Replies)
  | repeatLast (r : Replies)
  | takeDebugTarget
  | debugPort (r : Replies)

/-- A turn and the session that it finds. -/
structure Entry where
  session : Session
  turn : Turn

namespace Entry

def after (e : Entry) : Session :=
  match e.turn with
  | .request mode q r => (e.session.requested r mode q).session
  | .repeatLast r => (e.session.repeatLast r).session
  | .takeDebugTarget => e.session.takeDebugTarget.2
  | .debugPort r => (e.session.debugPort r.isFree).2

def calls (e : Entry) : List Call :=
  match e.turn with
  | .request mode q r => (e.session.requested r mode q).calls
  | .repeatLast r => (e.session.repeatLast r).calls
  | .takeDebugTarget => []
  | .debugPort r => Session.probeCalls r (e.session.debugPort r.isFree).1.probed

def started? (e : Entry) : Option (Mode × Request × Replies) :=
  match e.turn with
  | .request mode q r => some (mode, q, r)
  | .repeatLast r => e.session.history.getLast?.map fun q => (q.mode, q, r)
  | .takeDebugTarget | .debugPort _ => none

theorem eq_requested_of_started {e : Entry} {mode : Mode} {q : Request} {r : Replies}
    (h : e.started? = some (mode, q, r))
    : e.after = (e.session.requested r mode q).session
      ∧ e.calls = (e.session.requested r mode q).calls := by
  rcases e with ⟨s, turn⟩
  cases turn with
  | request mode' q' r' =>
    obtain ⟨rfl, rfl, rfl⟩ : mode' = mode ∧ q' = q ∧ r' = r := by
      simpa [started?] using h
    exact ⟨rfl, rfl⟩
  | repeatLast r' =>
    simp only [started?, Option.map_eq_some_iff, Prod.mk.injEq] at h
    obtain ⟨q', hlast, rfl, rfl, rfl⟩ := h
    simp [after, calls, Session.repeatLast, hlast]
  | takeDebugTarget => cases h
  | debugPort r' => cases h

theorem repeatLast_of_not_started {s : Session} {r : Replies}
    (h : (Entry.mk s (.repeatLast r)).started? = none)
    : s.repeatLast r = ⟨.ok (.skipped "no previous run"), s, []⟩ := by
  simp only [started?, Option.map_eq_none_iff] at h
  simp [Session.repeatLast, h]

inductive Goes (e : Entry) : Prop where
  | started {mode : Mode} {q : Request} {r : Replies} (h : e.started? = some (mode, q, r))
      (hafter : e.after = (e.session.requested r mode q).session)
      (hcalls : e.calls = (e.session.requested r mode q).calls)
      : Goes e
  /-- There is nothing to repeat. -/
  | skipped (h : e.started? = none) (hafter : e.after = e.session) (hcalls : e.calls = [])
      : Goes e
  | taken (h : e.turn = .takeDebugTarget) (hafter : e.after = e.session.takeDebugTarget.2)
      (hcalls : e.calls = [])
      : Goes e
  | asked {r : Replies} (h : e.turn = .debugPort r)
      (hafter : e.after = (e.session.debugPort r.isFree).2)
      (hcalls : e.calls = Session.probeCalls r (e.session.debugPort r.isFree).1.probed)
      : Goes e

theorem goes (e : Entry) : e.Goes := by
  cases hstarted : e.started? with
  | some started =>
    obtain ⟨hafter, hcalls⟩ := e.eq_requested_of_started hstarted
    exact .started hstarted hafter hcalls
  | none =>
    rcases e with ⟨s, turn⟩
    cases turn with
    | request mode q r => cases hstarted
    | repeatLast r =>
      have hlast := repeatLast_of_not_started hstarted
      exact .skipped hstarted (congrArg Step.session hlast) (congrArg Step.calls hlast)
    | takeDebugTarget => exact .taken rfl rfl rfl
    | debugPort r => exact .asked rfl rfl rfl

end Entry

namespace Session

def log (s : Session) : List Turn → List Entry
  | [] => []
  | turn :: turns => ⟨s, turn⟩ :: (Entry.mk s turn).after.log turns

def afterAll (s : Session) : List Turn → Session
  | [] => s
  | turn :: turns => (Entry.mk s turn).after.afterAll turns

theorem afterAll_append (s : Session) (earlier later : List Turn)
    : s.afterAll (earlier ++ later) = (s.afterAll earlier).afterAll later := by
  induction earlier generalizing s with
  | nil => rfl
  | cons turn earlier ih => exact ih (Entry.mk s turn).after

/-- An entry of a log is a turn in the session that the turns in front of it lead to, and the turns
behind it go on from there. -/
theorem exists_turns_of_log {s : Session} {turns : List Turn} {before rest : List Entry} {e : Entry}
    (h : s.log turns = before ++ e :: rest)
    : ∃ earlier turn later, turns = earlier ++ turn :: later ∧ before = s.log earlier
      ∧ e = ⟨s.afterAll earlier, turn⟩ ∧ rest = e.after.log later := by
  induction turns generalizing s before with
  | nil => simp [log] at h
  | cons turn turns ih =>
    rw [log] at h
    rcases List.cons_eq_append_iff.1 h with ⟨rfl, heq⟩ | ⟨before, rfl, heq⟩
    . obtain ⟨rfl, rfl⟩ := List.cons.inj heq
      exact ⟨[], turn, turns, rfl, rfl, rfl, rfl⟩
    . obtain ⟨earlier, turn', later, rfl, rfl, he, hrest⟩ := ih heq
      exact ⟨turn :: earlier, turn', later, rfl, rfl, he, hrest⟩

end Session
end FeatureRunner
