import FeatureRunner.Proofs.Session.Handling
import Mathlib.Data.List.Basic

/-!
This module contains the order in which a request calls the outside. `Course` is the grammar of the
calls of one request, `Conversation` puts the search for a debug port in front. The main statement
is `requested_conversation`, which also says that a task is only started while the watch is on.
-/

namespace FeatureRunner

open Session

/-- The calls of a request from its preparation on, with its result. A production is only there for
the answers of the outside that lead to it. -/
inductive Course (s : Session) (r : Replies) (q : Request) (target : Option DebugTarget)
    : Except Failure Outcome → List Call → Prop where
  | skipped {pre : List Call} {f : Failure} (hpre : Preparation s.settings r pre)
      (hp : (s.prepare r q).result = .error f) (hf : f.isSilent = true)
      : Course s r q target (.ok (.skipped f.message)) (pre ++ [.busy false])
  | failed {pre : List Call} {f : Failure} (hpre : Preparation s.settings r pre)
      (hp : (s.prepare r q).result = .error f) (hf : f.isSilent = false)
      : Course s r q target (.error f) (pre ++ [.busy false])
  | unwatched {pre : List Call} {p : Project} {c : Command} {f : Failure}
      (hpre : Preparation s.settings r pre) (hp : (s.prepare r q).result = .ok (p, c))
      (hw : r.watch s.settings.reports.toTarget p.root = .error f)
      : Course s r q target (.error f)
        (pre ++ [.watch s.settings.reports.toTarget p.root, .busy false])
  | unlaunched {pre : List Call} {p : Project} {c : Command} {f : Failure}
      (hpre : Preparation s.settings r pre) (hp : (s.prepare r q).result = .ok (p, c))
      (hw : r.watch s.settings.reports.toTarget p.root = .ok ()) (hl : r.launch c = .error f)
      : Course s r q target (.error f)
        (pre ++ [.watch s.settings.reports.toTarget p.root, .execute taskName c, .dispose,
          .busy false])
  | completed {pre : List Call} {p : Project} {c : Command} {t : Task} {n : Nat}
      {reports : List Path}
      (hpre : Preparation s.settings r pre) (hp : (s.prepare r q).result = .ok (p, c))
      (hw : r.watch s.settings.reports.toTarget p.root = .ok ()) (hl : r.launch c = .ok t)
      (hn : t.EndsAt n)
      : Course s r q target (.ok (.completed reports))
        (pre ++ [.watch s.settings.reports.toTarget p.root, .execute taskName c, .busy true] ++
          target.toList.map .debugReady ++
          ((List.range (n + 1)).flatMap fun i => [.drain (t.reports i), .poll (t.ended i)]) ++
          [.drain (t.reports (n + 1)), .dispose, .busy false, .appended q] ++
          if s.settings.reports.openAfterEachRun then
            reports.map fun report => .openReport report (r.opens report)
          else
            [])

/-- All calls of a request in a mode, with its result. Only a debug request asks for ports, those
that the search for its port goes through. -/
inductive Conversation (s : Session) (r : Replies) (q : Request)
    : Mode → Except Failure Outcome → List Call → Prop where
  | run {result : Except Failure Outcome} {calls : List Call}
      (h : Course s r q none result calls)
      : Conversation s r q .run result calls
  | exhausted (ha : (s.ports.allocate r.isFree false).result
        = .error (.resourceExhausted PortAllocator.firstPort PortAllocator.lastPort))
      (hp : ∀ port ∈ PortAllocator.searched, r.isFree port = false)
      : Conversation s r q .debug
        (.error (.resourceExhausted PortAllocator.firstPort PortAllocator.lastPort))
        (PortAllocator.searched.map fun port => .probe port false)
  | debug {port : UInt16} {result : Except Failure Outcome} {calls : List Call}
      (ha : (s.ports.allocate r.isFree false).result = .ok port)
      (h : Course s r q (some ⟨q.target.path, q.target.sectionLine, port⟩) result calls)
      : Conversation s r q .debug result
        ((s.ports.allocate r.isFree false).probed.map (fun port => .probe port (r.isFree port)) ++
          calls)

theorem Session.Execution.course {s : Session} {state : RunState} {ports : PortAllocator}
    {r : Replies} {q : Request} {step : Step Outcome}
    (h : Execution { s with state, ports } r q step)
    : Course s r q { s with state, ports }.pending step.result step.calls := by
  have hprepared {result} {s' : Session} {pre : List Call}
      (hp : Prepared { s with state, ports } r q result s' pre)
      : (s.prepare r q).result = result := by
    have hcongr : (s.prepare r q).result
        = ({ s with state, ports, phase := .preparing }.prepare r q).result := by
      apply And.left
      apply prepare_congr <;> rfl
    rw [hcongr, hp.step]
  cases h with
  | @unprepared s' pre f hp =>
    unfold giveUp
    cases hf : f.isSilent with
    | true => exact .skipped hp.calls (hprepared hp) hf
    | false => exact .failed hp.calls (hprepared hp) hf
  | unwatched hp hw =>
    rw [hp.reports_eq] at hw ⊢
    exact .unwatched hp.calls (hprepared hp) hw
  | unlaunched hp hw hl =>
    rw [hp.reports_eq] at hw ⊢
    exact .unlaunched hp.calls (hprepared hp) hw hl
  | @completed s' pre p c t n reports hp hw hl hn hr =>
    have h : Course s r q { s with state, ports }.pending (.ok (.completed reports)) _ :=
      .completed hp.calls (hprepared hp) (hp.reports_eq ▸ hw) hl hn
    rw [hp.reports_eq, hp.pending_eq]
    unfold openingCalls
    rw [hp.reports_eq]
    simpa [taskCalls, Task.rounds] using h

def StartsWatched (r : Replies) (calls : List Call) : Prop :=
  ∀ before name c after, calls = before ++ .execute name c :: after →
    (∃ glob root, .watch glob root ∈ before ∧ r.watch glob root = .ok ())
      ∧ .dispose ∉ before ∧ after.count .dispose = 1

theorem startsWatched_of_not_mem {r : Replies} {calls : List Call}
    (h : ∀ name c, .execute name c ∉ calls)
    : StartsWatched r calls := by
  intro before name c after heq
  apply absurd _ (h name c)
  simp [heq]

theorem startsWatched_of_append (pre post : List Call) {r : Replies} {glob : String} {root : Path}
    {c : Command} (hw : r.watch glob root = .ok ()) (hpre : ∀ name c, .execute name c ∉ pre)
    (hpre' : .dispose ∉ pre) (hpost : ∀ name c, .execute name c ∉ post)
    (hpost' : post.count .dispose = 1)
    : StartsWatched r (pre ++ .watch glob root :: .execute taskName c :: post) := by
  intro before name c' after heq
  have hbefore : .execute name c' ∉ pre ++ [.watch glob root] := by
    simp [hpre]
  rw [List.append_cons] at heq
  rw [List.append_cons_inj_of_notMem hbefore (hpost name c')] at heq
  obtain ⟨rfl, -, rfl⟩ := heq
  refine ⟨⟨glob, root, by simp, hw⟩, ?_, hpost'⟩
  simp [hpre']

theorem Preparation.dispose_not_mem {settings : Settings} {r : Replies} {pre : List Call}
    (h : Preparation settings r pre)
    : .dispose ∉ pre := by
  cases h <;> simp [RunnerClass.question]

theorem count_dispose_taskCalls (target : Option DebugTarget) (t : Task) (n : Nat)
    : (taskCalls target t n).count .dispose = 1 := by
  have hrounds : (t.rounds (List.range (n + 1))).count .dispose = 0 := by
    simp [List.count_eq_zero, Task.rounds]
  have htold : (target.toList.map Call.debugReady).count .dispose = 0 := by
    simp [List.count_eq_zero]
  unfold taskCalls
  simp [List.count_append, hrounds, htold]

theorem dispose_not_mem_openingCalls (s : Settings) (r : Replies) (reports : List Path)
    : .dispose ∉ openingCalls s r reports := by
  unfold openingCalls
  split <;> simp

theorem Session.Execution.startsWatched {s : Session} {r : Replies} {q : Request}
    {step : Step Outcome} (h : Execution s r q step) (probed : List UInt16)
    : StartsWatched r (probeCalls r probed ++ step.calls) := by
  cases h with
  | unprepared hp =>
    apply startsWatched_of_not_mem
    simp [giveUp, hp.calls.execute_not_mem]
  | unwatched hp hw =>
    apply startsWatched_of_not_mem
    simp [hp.calls.execute_not_mem]
  | unlaunched hp hw hl =>
    rw [← List.append_assoc]
    apply startsWatched_of_append _ _ hw
    . simp [hp.calls.execute_not_mem]
    . simp [probeCalls, hp.calls.dispose_not_mem]
    . simp
    . rfl
  | @completed s' pre p c t n reports hp hw hl hn hr =>
    have h := startsWatched_of_append (probeCalls r probed ++ pre)
      (taskCalls s'.pending t n ++ [.appended q] ++ openingCalls s'.settings r reports)
      (c := c) hw
    simp only [List.append_assoc, List.cons_append, List.nil_append] at h ⊢
    apply h
    . simp [hp.calls.execute_not_mem]
    . simp [probeCalls, hp.calls.dispose_not_mem]
    . simp
    . simp [List.count_append, count_dispose_taskCalls, List.count_eq_zero,
        dispose_not_mem_openingCalls]

theorem PortAllocator.search_error {a : PortAllocator} {isFree : UInt16 → Bool} {f : Failure}
    (h : (a.search isFree).result = .error f)
    : f = .resourceExhausted firstPort lastPort
      ∧ (a.search isFree).probed = searched
      ∧ ∀ port ∈ searched, isFree port = false := by
  unfold search at h ⊢
  generalize searched = ports at h ⊢
  cases hfind : ports.find? isFree with
  | some port => simp [hfind] at h
  | none =>
    simp only [hfind, Except.error.injEq] at h ⊢
    refine ⟨h.symm, trivial, ?_⟩
    simpa using hfind

theorem PortAllocator.allocate_error {a : PortAllocator} {isFree : UInt16 → Bool} {f : Failure}
    (h : (a.allocate isFree false).result = .error f)
    : f = .resourceExhausted firstPort lastPort
      ∧ (a.allocate isFree false).probed = searched
      ∧ ∀ port ∈ searched, isFree port = false := by
  unfold allocate at h ⊢
  split at h
  . cases h
  . exact search_error h

/-- The calls of a request follow the grammar, and a task is only started while the watch is on. -/
theorem requested_conversation (s : Session) (r : Replies) (mode : Mode) (q : Request)
    : Conversation s r q mode (s.requested r mode q).result (s.requested r mode q).calls
      ∧ StartsWatched r (s.requested r mode q).calls := by
  have hhandling := requested_handling s r mode q
  generalize s.requested r mode q = step at *
  cases hhandling with
  | run h => exact ⟨.run h.course, h.startsWatched []⟩
  | exhausted ha =>
    obtain ⟨rfl, hprobed, hbusy⟩ := PortAllocator.allocate_error ha
    have hcalls : probeCalls r (s.ports.allocate r.isFree false).probed
        = PortAllocator.searched.map fun port => .probe port false := by
      rw [hprobed]
      apply List.map_congr_left
      intro port hport
      rw [hbusy port hport]
    refine ⟨?_, ?_⟩
    . dsimp only
      rw [hcalls]
      exact .exhausted ha hbusy
    . apply startsWatched_of_not_mem
      simp
  | debug ha h => exact ⟨.debug ha h.course, h.startsWatched _⟩

def openingSettings : Settings where
  reports := { openAfterEachRun := true }

theorem requested_conversation_secondTask
    : ∃ step, step = (start openingSettings .posix).requested (jarReplies secondTask) .debug
          ⟨.ofPath ⟨"/p/a.feature"⟩ .file, .debug⟩
        ∧ step.calls
          = [.probe 49152 true, .watch "**/karate-reports/*.html" ⟨"/p"⟩,
             .execute taskName ⟨"java -jar karate.jar \"/p/a.feature\"", ⟨"/p"⟩⟩, .busy true,
             .debugReady ⟨⟨"/p/a.feature"⟩, none, 49152⟩,
             .drain [⟨"/p/a.html"⟩], .poll [⟨2, taskName⟩],
             .drain [⟨"/p//a.html"⟩, ⟨"/p/b.html"⟩], .poll [⟨1, "other"⟩, ⟨1, taskName⟩],
             .drain [⟨"/p//a.html"⟩, ⟨"/p/b.html"⟩], .dispose, .busy false,
             .appended ⟨.ofPath ⟨"/p/a.feature"⟩ .file, .debug⟩,
             .openReport ⟨"/p/a.html"⟩ true, .openReport ⟨"/p/b.html"⟩ true]
        ∧ StartsWatched (jarReplies secondTask) step.calls :=
  ⟨_, rfl, by decide +kernel, (requested_conversation _ _ _ _).2⟩

end FeatureRunner
