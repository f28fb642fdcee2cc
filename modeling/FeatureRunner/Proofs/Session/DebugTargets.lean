import FeatureRunner.Proofs.Session.Handling
import FeatureRunner.Proofs.Session.Turns

/-!
This module contains what becomes of the debug targets that requests record. At any time at most one
is pending: the one of the last request, if that was a debug request whose task was not started and
nobody took it since. `log_handedOut` says from there where every debug target goes.
-/

namespace FeatureRunner

open Session

def Call.debugTarget? : Call → Option DebugTarget
  | .debugReady target => some target
  | _ => none

def Session.recorded? (s : Session) (r : Replies) (mode : Mode) (q : Request)
    : Option DebugTarget :=
  match mode, (s.ports.allocate r.isFree false).result with
  | .debug, .ok port => some ⟨q.target.path, q.target.sectionLine, port⟩
  | _, _ => none

namespace Session

theorem pending_eq_none {s : Session} (h : s.state.debugFile = none) : s.pending = none := by
  simp [pending, takeDebugTarget, RunState.takeDebugTarget, h]

theorem debugFile_takeDebugTarget (s : Session) : s.takeDebugTarget.2.state.debugFile = none := by
  cases hf : s.state.debugFile <;> simp [takeDebugTarget, RunState.takeDebugTarget, hf]

theorem pending_idle (s : Session) : s.idle.pending = s.pending := by
  cases hf : s.state.debugFile <;> simp [pending, takeDebugTarget, RunState.takeDebugTarget, idle, hf]

/-- What a request has done with the debug target that was pending when it was executed: either the
task was started and the listener has it, or it is still pending. -/
def PassesOn (r : Replies) (target : Option DebugTarget) (step : Step Outcome) : Prop :=
  ((∃ t, step.Launched r t)
      ∧ step.calls.filterMap Call.debugTarget? = target.toList ∧ step.session.pending = none)
    ∨ ((¬ ∃ t, step.Launched r t)
      ∧ step.calls.filterMap Call.debugTarget? = [] ∧ step.session.pending = target)

theorem filterMap_debugTarget?_taskCalls (target : Option DebugTarget) (t : Task) (n : Nat)
    : (taskCalls target t n).filterMap Call.debugTarget? = target.toList := by
  have hrounds : (t.rounds (List.range (n + 1))).filterMap Call.debugTarget? = [] := by
    simp [Task.rounds, List.filterMap_flatMap, List.filterMap_cons, Call.debugTarget?]
  unfold taskCalls
  simp only [List.filterMap_append, hrounds]
  cases target <;> simp [List.filterMap_cons, Call.debugTarget?]

theorem Execution.passesOn {s : Session} {r : Replies} {q : Request} {step : Step Outcome}
    (h : Execution s r q step)
    : PassesOn r s.pending step := by
  have hpre {settings : Settings} {pre : List Call} (h : Preparation settings r pre)
      : pre.filterMap Call.debugTarget? = [] := by
    apply h.filterMap_eq_nil <;> intros <;> rfl
  -- Only a request whose task is started takes the target; any other one leaves it pending.
  cases h with
  | @unprepared s' pre f hp =>
    refine .inr ⟨?_, ?_, ?_⟩
    . simp [Step.Launched, giveUp, hp.calls.execute_not_mem]
    . simp [giveUp, hpre hp.calls, List.filterMap_cons, Call.debugTarget?]
    . exact (pending_idle s').trans hp.pending_eq
  | @unwatched s' pre p c f hp hw =>
    refine .inr ⟨?_, ?_, ?_⟩
    . simp [Step.Launched, hp.calls.execute_not_mem]
    . simp [hpre hp.calls, List.filterMap_cons, Call.debugTarget?]
    . exact (pending_idle s').trans hp.pending_eq
  | @unlaunched s' pre p c f hp hw hl =>
    refine .inr ⟨?_, ?_, ?_⟩
    . simp [Step.Launched, hp.calls.execute_not_mem, hl]
    . simp [hpre hp.calls, List.filterMap_cons, Call.debugTarget?]
    . exact (pending_idle s').trans hp.pending_eq
  | @completed s' pre p c t n reports hp hw hl hn hr =>
    have hopened : (openingCalls s'.settings r reports).filterMap Call.debugTarget? = [] := by
      apply filterMap_openingCalls
      intros
      rfl
    refine .inl ⟨⟨t, taskName, c, by simp, hl⟩, ?_, ?_⟩
    . simp only [List.filterMap_append, hpre hp.calls, hopened, filterMap_debugTarget?_taskCalls,
        hp.pending_eq]
      simp [List.filterMap_cons, Call.debugTarget?]
    . exact pending_eq_none (debugFile_takeDebugTarget s')

theorem requested_passesOn (s : Session) (r : Replies) (mode : Mode) (q : Request)
    : PassesOn r (s.recorded? r mode q) (s.requested r mode q) := by
  have h := requested_handling s r mode q
  generalize s.requested r mode q = step at *
  cases h with
  | run h => exact h.passesOn
  | exhausted ha =>
    have hrecorded : s.recorded? r .debug q = none := by
      simp [recorded?, ha]
    rw [hrecorded]
    refine .inr ⟨?_, ?_, ?_⟩
    . simp [Step.Launched]
    . exact filterMap_probeCalls (fun _ _ => rfl) r _
    . exact pending_eq_none rfl
  | @debug port step ha h =>
    have hrecorded : s.recorded? r .debug q
        = some ⟨q.target.path, q.target.sectionLine, port⟩ := by
      simp [recorded?, ha]
    have hpasses : PassesOn r (some ⟨q.target.path, q.target.sectionLine, port⟩) step := h.passesOn
    rw [hrecorded]
    simpa only [PassesOn, Step.launched_probeCalls, List.filterMap_append,
      filterMap_probeCalls (f := Call.debugTarget?) fun _ _ => rfl, List.nil_append] using hpasses

end Session

namespace Entry

def told (e : Entry) : List DebugTarget :=
  e.calls.filterMap Call.debugTarget?

def taken? (e : Entry) : Option DebugTarget :=
  match e.turn with
  | .takeDebugTarget => e.session.takeDebugTarget.1
  | _ => none

def recorded? (e : Entry) : Option DebugTarget :=
  e.started?.bind fun (mode, q, r) => e.session.recorded? r mode q

def Launched (e : Entry) : Prop :=
  ∃ mode q r t, e.started? = some (mode, q, r) ∧ (e.session.requested r mode q).Launched r t

def Quiet (e : Entry) : Prop :=
  e.started? = none ∧ e.turn ≠ .takeDebugTarget

theorem passesOn (e : Entry) (h : e.started? ≠ none)
    : (e.Launched ∧ e.told = e.recorded?.toList ∧ e.after.pending = none)
        ∨ (¬ e.Launched ∧ e.told = [] ∧ e.after.pending = e.recorded?) := by
  obtain ⟨⟨mode, q, r⟩, hstarted⟩ := Option.ne_none_iff_exists'.1 h
  have hlaunched : e.Launched ↔ ∃ t, (e.session.requested r mode q).Launched r t := by
    constructor
    . rintro ⟨mode', q', r', t, heq, ht⟩
      obtain ⟨rfl, rfl, rfl⟩ : mode = mode' ∧ q = q' ∧ r = r' := by
        simpa [hstarted] using heq
      exact ⟨t, ht⟩
    . rintro ⟨t, ht⟩
      exact ⟨mode, q, r, t, hstarted, ht⟩
  obtain ⟨hafter, hcalls⟩ := e.eq_requested_of_started hstarted
  have hrecorded : e.recorded? = e.session.recorded? r mode q := by
    simp [recorded?, hstarted]
  rw [hlaunched, hafter, told, hcalls, hrecorded]
  exact e.session.requested_passesOn r mode q

theorem told_of_not_started (e : Entry) (h : e.started? = none)
    : e.told = [] ∧ ¬ e.Launched ∧ e.recorded? = none := by
  refine ⟨?_, ?_, ?_⟩
  . rcases e with ⟨s, turn⟩
    cases turn with
    | request mode q r => cases h
    | repeatLast r => simp [told, calls, repeatLast_of_not_started h]
    | takeDebugTarget => rfl
    | debugPort r => exact filterMap_probeCalls (fun _ _ => rfl) r _
  . simp [Launched, h]
  . simp [recorded?, h]

theorem told_cases (e : Entry)
    : (e.Launched ∧ e.told = e.recorded?.toList) ∨ (¬ e.Launched ∧ e.told = []) := by
  by_cases hstarted : e.started? = none
  . obtain ⟨htold, hlaunched, -⟩ := e.told_of_not_started hstarted
    exact .inr ⟨hlaunched, htold⟩
  . rcases e.passesOn hstarted with ⟨hlaunched, htold, -⟩ | ⟨hlaunched, htold, -⟩
    . exact .inl ⟨hlaunched, htold⟩
    . exact .inr ⟨hlaunched, htold⟩

theorem told_of_debug (e : Entry)
    : e.told = [] ∨ ∃ q r, e.started? = some (.debug, q, r) := by
  rcases e.told_cases with ⟨-, htold⟩ | ⟨-, htold⟩
  . cases hstarted : e.started? with
    | none => simp [htold, recorded?, hstarted]
    | some started =>
      rcases started with ⟨mode, q, r⟩
      cases mode with
      | run => simp [htold, recorded?, Session.recorded?, hstarted]
      | debug => exact .inr ⟨q, r, rfl⟩
  . exact .inl htold

theorem pending_after_of_quiet (e : Entry) (h : e.Quiet) : e.after.pending = e.session.pending := by
  rcases e with ⟨s, turn⟩
  cases turn with
  | request mode q r => cases h.1
  | repeatLast r => simp [after, repeatLast_of_not_started h.1]
  | takeDebugTarget => exact absurd rfl h.2
  | debugPort r => rfl

theorem taken?_of_turn (e : Entry) (h : e.turn = .takeDebugTarget)
    : e.taken? = e.session.pending ∧ e.after.pending = none := by
  refine ⟨?_, ?_⟩
  . simp [taken?, h, pending]
  . simp [after, h, pending_eq_none, debugFile_takeDebugTarget]

theorem taken?_eq_none (e : Entry) (h : e.turn ≠ .takeDebugTarget) : e.taken? = none := by
  unfold taken?
  split
  . next hturn => exact absurd hturn h
  . rfl

theorem turn_eq_of_not_quiet {e : Entry} (h : e.started? = none) (hquiet : ¬ e.Quiet)
    : e.turn = .takeDebugTarget := by
  by_contra hturn
  exact hquiet ⟨h, hturn⟩

/-- A target is pending after a turn if the turn has recorded it without starting the task, or if
it was pending before a quiet turn. -/
theorem pending_after_iff (e : Entry) (target : DebugTarget)
    : e.after.pending = some target
        ↔
      (e.recorded? = some target ∧ ¬ e.Launched) ∨ (e.session.pending = some target ∧ e.Quiet) := by
  by_cases hstarted : e.started? = none
  . obtain ⟨-, hlaunched, hrecorded⟩ := e.told_of_not_started hstarted
    by_cases hquiet : e.Quiet
    . simp [pending_after_of_quiet e hquiet, hquiet, hrecorded]
    . have hnone := (e.taken?_of_turn (turn_eq_of_not_quiet hstarted hquiet)).2
      simp [hnone, hquiet, hrecorded]
  . have hquiet : ¬ e.Quiet := fun h => hstarted h.1
    rcases e.passesOn hstarted with ⟨hlaunched, -, hpending⟩ | ⟨hlaunched, -, hpending⟩
    . simp [hpending, hlaunched, hquiet]
    . simp [hpending, hlaunched, hquiet]

def handedOut (e : Entry) : List DebugTarget :=
  e.told ++ e.taken?.toList

/-- Of every target, a turn hands out and leaves pending no more than it finds or records. -/
theorem count_handedOut_le (e : Entry) (target : DebugTarget)
    : e.handedOut.count target + e.after.pending.toList.count target
        ≤
      e.recorded?.toList.count target + e.session.pending.toList.count target := by
  by_cases hstarted : e.started? = none
  . obtain ⟨htold, -, hrecorded⟩ := e.told_of_not_started hstarted
    by_cases hquiet : e.Quiet
    . simp [handedOut, htold, e.taken?_eq_none hquiet.2, e.pending_after_of_quiet hquiet]
    . obtain ⟨htaken, hnone⟩ := e.taken?_of_turn (turn_eq_of_not_quiet hstarted hquiet)
      simp [handedOut, htold, htaken, hnone]
  . have htaken : e.taken? = none := by
      apply e.taken?_eq_none
      intro hturn
      simp [started?, hturn] at hstarted
    rcases e.passesOn hstarted with ⟨-, htold, hpending⟩ | ⟨-, htold, hpending⟩
    . simp [handedOut, htold, hpending, htaken]
    . simp [handedOut, htold, hpending, htaken]

end Entry

namespace Session

theorem pending_afterAll_iff (s : Session) (turns : List Turn) (target : DebugTarget)
    : (s.afterAll turns).pending = some target
        ↔
      (∃ before e rest, s.log turns = before ++ e :: rest ∧ e.recorded? = some target
        ∧ ¬ e.Launched ∧ ∀ e' ∈ rest, e'.Quiet)
      ∨ (s.pending = some target ∧ ∀ e ∈ s.log turns, e.Quiet) := by
  induction turns generalizing s with
  | nil => simp [afterAll, log]
  | cons turn turns ih =>
    have hstep := Entry.pending_after_iff ⟨s, turn⟩ target
    rw [afterAll, ih, hstep, log]
    constructor
    . rintro (⟨before, e, rest, hlog, he⟩ | ⟨⟨hrecorded, hlaunched⟩ | ⟨hpending, hquiet⟩, hrest⟩)
      . exact .inl ⟨_ :: before, e, rest, by rw [hlog]; rfl, he⟩
      . exact .inl ⟨[], _, _, rfl, hrecorded, hlaunched, hrest⟩
      . exact .inr ⟨hpending, List.forall_mem_cons.2 ⟨hquiet, hrest⟩⟩
    . rintro (⟨before, e, rest, hlog, he⟩ | ⟨hpending, hquiet⟩)
      . -- The turn that recorded the target is the first one or one of those behind it.
        rcases List.cons_eq_append_iff.1 hlog with ⟨rfl, heq⟩ | ⟨before, rfl, heq⟩
        . obtain ⟨rfl, rfl⟩ := List.cons.inj heq
          exact .inr ⟨.inl ⟨he.1, he.2.1⟩, he.2.2⟩
        . exact .inl ⟨before, e, rest, heq, he⟩
      . obtain ⟨hturn, hrest⟩ := List.forall_mem_cons.1 hquiet
        exact .inr ⟨.inr ⟨hpending, hturn⟩, hrest⟩

theorem count_handedOut_log_le (s : Session) (turns : List Turn) (target : DebugTarget)
    : ((s.log turns).flatMap Entry.handedOut).count target
          + (s.afterAll turns).pending.toList.count target
        ≤
      ((s.log turns).filterMap Entry.recorded?).count target
          + s.pending.toList.count target := by
  -- What is pending in between is on both sides of the bounds for the first turn and for the rest.
  induction turns generalizing s with
  | nil => simp [afterAll, log]
  | cons turn turns ih =>
    have hstep := Entry.count_handedOut_le ⟨s, turn⟩ target
    have hrest := ih (Entry.mk s turn).after
    rw [afterAll, log, List.flatMap_cons, List.count_append]
    cases hrecorded : (Entry.mk s turn).recorded? with
    | none =>
      rw [List.filterMap_cons_none hrecorded]
      simp only [hrecorded, Option.toList_none, List.count_nil] at hstep
      omega
    | some other =>
      rw [List.filterMap_cons_some hrecorded, List.count_cons]
      simp only [hrecorded, Option.toList_some, List.count_singleton] at hstep
      omega

end Session

/-- Where debug targets go. The listener is told about the target of a request exactly if its task
was started. A target that is left can be taken as long as nothing but quiet turns came behind the
request that recorded it, so each one is handed out at most once. -/
theorem log_handedOut (settings : Settings) (platform : Command.Platform) (turns : List Turn)
    : (∀ e ∈ (start settings platform).log turns,
        ((e.Launched ∧ e.told = e.recorded?.toList) ∨ (¬ e.Launched ∧ e.told = []))
        ∧ (e.told = [] ∨ ∃ q r, e.started? = some (.debug, q, r)))
      ∧ (∀ target, ((start settings platform).afterAll turns).takeDebugTarget.1 = some target
          ↔
        ∃ before e rest, (start settings platform).log turns = before ++ e :: rest
          ∧ e.recorded? = some target ∧ ¬ e.Launched ∧ ∀ e' ∈ rest, e'.Quiet)
      ∧ ∀ target, (((start settings platform).log turns).flatMap Entry.handedOut).count target
          ≤
        (((start settings platform).log turns).filterMap Entry.recorded?).count target := by
  have hstart : (start settings platform).pending = none := by rfl
  refine ⟨?_, ?_, ?_⟩
  . intro e _
    exact ⟨e.told_cases, e.told_of_debug⟩
  . intro target
    have h := pending_afterAll_iff (start settings platform) turns target
    change ((start settings platform).afterAll turns).pending = some target ↔ _
    simpa [hstart] using h
  . intro target
    have h := count_handedOut_log_le (start settings platform) turns target
    simp only [hstart, Option.toList_none, List.count_nil] at h
    omega

theorem log_handedOut_secondTask
    : (Entry.mk (start .default .posix)
          (.request .debug ⟨.ofPath ⟨"/p/a.feature"⟩ .file, .debug⟩ (jarReplies secondTask))).told
        = [⟨⟨"/p/a.feature"⟩, none, 49152⟩] := by
  have h := ((log_handedOut .default .posix
    [.request .debug ⟨.ofPath ⟨"/p/a.feature"⟩ .file, .debug⟩ (jarReplies secondTask)]).1 _
    (List.mem_singleton_self _)).1
  rcases h with ⟨-, h⟩ | ⟨h, -⟩
  . rw [h]
    decide +kernel
  . exact absurd ⟨.debug, _, _, secondTask, rfl, taskName,
      ⟨"java -jar karate.jar \"/p/a.feature\"", ⟨"/p"⟩⟩, by decide +kernel, rfl⟩ h

end FeatureRunner
