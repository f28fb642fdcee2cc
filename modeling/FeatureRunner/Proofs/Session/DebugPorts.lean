import FeatureRunner.Proofs.DebugPort.Allocating
import FeatureRunner.Proofs.Session.Repeating

/-!
This module contains which port a session answers to the question for its debug port. A port is kept
in two places, which change at different moments: the state of the last request has the port of its
debug target, and the allocator has the port of its last success. `Session.Agrees` is the invariant
that ties them together, and `debugPort_handedOut` is what the outside sees of it.
-/

namespace FeatureRunner

open Session

namespace PortAllocator

/-- The allocator gives this port again: the port of the last success, which is the configured port
if there is one. -/
structure Keeps (a : PortAllocator) (port : UInt16) : Prop where
  cached : a.cached = some port
  override : ∀ other, a.override = some other → other = port

variable {a : PortAllocator} {isFree : UInt16 → Bool} {useCache : Bool} {port : UInt16}

theorem keeps_of_allocate (h : (a.allocate isFree useCache).result = .ok port)
    : (a.allocate isFree useCache).allocator.Keeps port := by
  have hcached := a.cached_answer ⟨isFree, useCache⟩
  have hoverride := a.override_answer ⟨isFree, useCache⟩
  simp only [answer] at hcached hoverride
  constructor
  . simp [hcached, Allocation.port?, h, Except.toOption]
  . intro other hother
    rw [hoverride] at hother
    simpa [allocate, hother] using h

theorem allocator_of_error {f : Failure} (h : (a.allocate isFree useCache).result = .error f)
    : (a.allocate isFree useCache).allocator = a := by
  unfold allocate search at h ⊢
  generalize searched = ports at h ⊢
  split at h
  . cases h
  . split at h
    . cases h
    . split at h
      . cases h
      . simp_all

theorem Keeps.allocate (h : a.Keeps port) (isFree : UInt16 → Bool)
    : a.allocate isFree true = ⟨.ok port, [], a⟩ := by
  rcases a with ⟨override, cached⟩
  obtain ⟨rfl, hoverride⟩ := h
  cases override with
  | none => rfl
  | some other =>
    -- The configured port is noted once more, which changes nothing.
    obtain rfl := hoverride other rfl
    rfl

end PortAllocator

namespace Session

def Agrees (s : Session) : Prop :=
  ∀ port, s.state.debugPort = some port → s.ports.Keeps port

/-- What a request that records a debug target or none leaves in the two places that keep a port. -/
inductive Notes (s : Session) : Option DebugTarget → Session → Prop where
  | nothing {s' : Session} (hstate : s'.state.debugPort = none) (hports : s'.ports = s.ports)
      : Notes s none s'
  | port {target : DebugTarget} {s' : Session} (hstate : s'.state.debugPort = some target.port)
      (hports : s'.ports.Keeps target.port)
      : Notes s (some target) s'

/-- A request starts from an empty state, so nothing of the session before it counts. -/
theorem Notes.agrees {s s' : Session} {target : Option DebugTarget} (h : Notes s target s')
    : s'.Agrees := by
  intro port hport
  cases h with
  | nothing hstate hports => simp [hstate] at hport
  | port hstate hports =>
    obtain rfl := Option.some.inj (hstate.symm.trans hport)
    exact hports

theorem debugPort_takeDebugTarget (s : Session)
    : s.takeDebugTarget.2.state.debugPort = s.state.debugPort := by
  cases hf : s.state.debugFile <;> simp [takeDebugTarget, RunState.takeDebugTarget, hf]

theorem debugPort_of_pending {s : Session} {target : DebugTarget} (h : s.pending = some target)
    : s.state.debugPort = some target.port := by
  unfold pending takeDebugTarget RunState.takeDebugTarget at h
  cases hf : s.state.debugFile with
  | none => simp [hf] at h
  | some file =>
    simp only [hf, Option.map_eq_some_iff] at h
    obtain ⟨port, hport, rfl⟩ := h
    exact hport

theorem Prepared.debugPort_eq {s s' : Session} {r : Replies} {q : Request} {pre : List Call}
    {result : Except Failure (Project × Command)} (h : Prepared s r q result s' pre)
    : s'.state.debugPort = s.state.debugPort :=
  congrArg RunState.debugPort h.state_eq

theorem Execution.debugPort_eq {s : Session} {r : Replies} {q : Request} {step : Step Outcome}
    (h : Execution s r q step)
    : step.session.state.debugPort = s.state.debugPort := by
  cases h with
  | unprepared hp => exact Eq.trans rfl hp.debugPort_eq
  | unwatched hp hw => exact Eq.trans rfl hp.debugPort_eq
  | unlaunched hp hw hl => exact Eq.trans rfl hp.debugPort_eq
  | @completed s' pre p c t n reports hp hw hl hn hr =>
    -- The debug target is taken when the task is started, but its port stays noted.
    exact s'.debugPort_takeDebugTarget.trans hp.debugPort_eq

theorem requested_notes (s : Session) (r : Replies) (mode : Mode) (q : Request)
    : Notes s (s.recorded? r mode q) (s.requested r mode q).session := by
  have hhandling := requested_handling s r mode q
  generalize s.requested r mode q = step at *
  cases hhandling with
  | run h => exact .nothing h.debugPort_eq h.ports_eq
  | exhausted ha =>
    have hrecorded : s.recorded? r .debug q = none := by
      simp [recorded?, ha]
    rw [hrecorded]
    exact .nothing rfl (PortAllocator.allocator_of_error ha)
  | @debug port step ha h =>
    have hrecorded : s.recorded? r .debug q
        = some ⟨q.target.path, q.target.sectionLine, port⟩ := by
      simp [recorded?, ha]
    rw [hrecorded]
    refine .port h.debugPort_eq ?_
    dsimp only
    rw [h.ports_eq]
    exact PortAllocator.keeps_of_allocate ha

end Session

namespace Entry

variable {e : Entry}

theorem notes {mode : Mode} {q : Request} {r : Replies} (h : e.started? = some (mode, q, r))
    : Notes e.session e.recorded? e.after := by
  have hrecorded : e.recorded? = e.session.recorded? r mode q := by
    simp [recorded?, h]
  rw [(e.eq_requested_of_started h).1, hrecorded]
  exact e.session.requested_notes r mode q

theorem keeps_of_recorded {target : DebugTarget} (h : e.recorded? = some target)
    : e.after.ports.Keeps target.port := by
  have hstarted : e.started? ≠ none := by
    intro hstarted
    simp [recorded?, hstarted] at h
  obtain ⟨⟨mode, q, r⟩, hstarted⟩ := Option.ne_none_iff_exists'.1 hstarted
  have hnotes := e.notes hstarted
  rw [h] at hnotes
  cases hnotes with
  | port hstate hports => exact hports

theorem ports_after (h : e.recorded? = none) (hturn : ∀ r, e.turn ≠ .debugPort r)
    : e.after.ports = e.session.ports := by
  cases e.goes with
  | started hstarted hafter hcalls =>
    have hnotes := e.notes hstarted
    rw [h] at hnotes
    cases hnotes with
    | nothing hstate hports => exact hports
  | skipped hstarted hafter hcalls => rw [hafter]
  | taken hturn' hafter hcalls =>
    rw [hafter]
    rfl
  | asked hturn' hafter hcalls => exact absurd hturn' (hturn _)

theorem ports_after_of_keeps {port : UInt16} (hkeeps : e.session.ports.Keeps port)
    (h : e.recorded? = none)
    : e.after.ports = e.session.ports := by
  by_cases hturn : ∃ r, e.turn = .debugPort r
  . obtain ⟨r, hturn⟩ := hturn
    simp [after, hturn, Session.debugPort, hkeeps.allocate]
  . exact ports_after h (not_exists.1 hturn)

theorem agrees_after (h : e.session.Agrees) : e.after.Agrees := by
  cases e.goes with
  | started hstarted hafter hcalls => exact (e.notes hstarted).agrees
  | skipped hstarted hafter hcalls => rwa [hafter]
  | taken hturn hafter hcalls =>
    intro port hport
    rw [hafter, debugPort_takeDebugTarget] at hport
    rw [hafter]
    exact h port hport
  | asked hturn hafter hcalls =>
    intro port hport
    rw [hafter] at hport ⊢
    have hkeeps := h port hport
    rwa [Session.debugPort, hkeeps.allocate]

theorem keeps_of_handedOut (h : e.session.Agrees) {target : DebugTarget}
    (htarget : target ∈ e.handedOut)
    : e.after.ports.Keeps target.port := by
  rw [handedOut, List.mem_append, Option.mem_toList] at htarget
  rcases htarget with htold | htaken
  . rcases e.told_cases with ⟨-, htold'⟩ | ⟨-, htold'⟩
    . rw [htold', Option.mem_toList] at htold
      exact keeps_of_recorded htold
    . simp [htold'] at htold
  . -- A target that is taken was pending, so its port is the one in the state.
    have hturn : e.turn = .takeDebugTarget := by
      by_contra hturn
      simp [e.taken?_eq_none hturn] at htaken
    have hpending : e.session.pending = some target := by
      rw [← (e.taken?_of_turn hturn).1]
      exact htaken
    have hports : e.after.ports = e.session.ports := by
      simp [after, hturn, Session.takeDebugTarget]
    rw [hports]
    exact h _ (debugPort_of_pending hpending)

end Entry

namespace Session

theorem agrees_afterAll {s : Session} (h : s.Agrees) (turns : List Turn)
    : (s.afterAll turns).Agrees ∧ ∀ e ∈ s.log turns, e.session.Agrees := by
  induction turns generalizing s with
  | nil => simpa [afterAll, log] using h
  | cons turn turns ih =>
    obtain ⟨hafter, hlog⟩ := ih (Entry.agrees_after (e := ⟨s, turn⟩) h)
    rw [log]
    exact ⟨hafter, List.forall_mem_cons.2 ⟨h, hlog⟩⟩

theorem keepsPort_afterAll {s : Session} {port : UInt16} (h : s.ports.Keeps port) {turns : List Turn}
    (hrecorded : ∀ e ∈ s.log turns, e.recorded? = none)
    : (s.afterAll turns).ports.Keeps port := by
  -- Such turns leave the whole allocator as it is, so the next one finds the port kept again.
  induction turns generalizing s with
  | nil => exact h
  | cons turn turns ih =>
    rw [log, List.forall_mem_cons] at hrecorded
    have hports : (Entry.mk s turn).after.ports = s.ports :=
      Entry.ports_after_of_keeps h hrecorded.1
    apply ih
    . rwa [hports]
    . exact hrecorded.2

theorem agrees_start (settings : Settings) (platform : Command.Platform)
    : (start settings platform).Agrees := by
  intro port hport
  cases hport

end Session

/-- The port in the state is always the one that the allocator remembers. A port that a debug request
has found, or that went out with a debug target, is answered to every question for the debug port
without a probe until another debug request finds a port, whatever becomes of the requests. A turn
in which no debug request finds one leaves the answer as it was; only the question itself can change
it, by the search for a first port. -/
theorem debugPort_handedOut (settings : Settings) (platform : Command.Platform) (turns : List Turn)
    : (∀ port, ((start settings platform).afterAll turns).state.debugPort = some port →
        ((start settings platform).afterAll turns).ports.cached = some port)
      ∧ (∀ before e rest target, (start settings platform).log turns = before ++ e :: rest →
          (e.recorded? = some target ∨ target ∈ e.handedOut) →
          (∀ e' ∈ rest, e'.recorded? = none) →
          ∀ isFree,
            (((start settings platform).afterAll turns).debugPort isFree).1.result
                = .ok target.port
              ∧ (((start settings platform).afterAll turns).debugPort isFree).1.probed = [])
      ∧ ∀ e ∈ (start settings platform).log turns, e.recorded? = none →
          (∀ r, e.turn ≠ .debugPort r) →
          ∀ isFree, (e.after.debugPort isFree).1 = (e.session.debugPort isFree).1 := by
  obtain ⟨hagrees, hlog⟩ := agrees_afterAll (agrees_start settings platform) turns
  refine ⟨?_, ?_, ?_⟩
  . intro port hport
    exact (hagrees port hport).cached
  . intro before e rest target hsplit htarget hrest isFree
    have hkeeps : e.after.ports.Keeps target.port := by
      rcases htarget with hrecorded | htarget
      . exact Entry.keeps_of_recorded hrecorded
      . exact Entry.keeps_of_handedOut (hlog e (by simp [hsplit])) htarget
    obtain ⟨earlier, turn, later, rfl, -, rfl, rfl⟩ := exists_turns_of_log hsplit
    rw [afterAll_append, afterAll, debugPort, (keepsPort_afterAll hkeeps hrest).allocate]
    exact ⟨rfl, rfl⟩
  . intro e _ hrecorded hturn isFree
    rw [debugPort, debugPort, Entry.ports_after hrecorded hturn]

def exhaustedEntry : Entry where
  session := debuggedEntry.after
  turn := .request .debug ⟨.ofPath ⟨"/p/b.feature"⟩ .file, .debug⟩
    { jarReplies secondTask with isFree := fun _ => false }

theorem debugPort_handedOut_exhaustedEntry
    : debuggedEntry.told = [⟨⟨"/p/a.feature"⟩, none, 49152⟩]
      ∧ exhaustedEntry.recorded? = none
      ∧ (exhaustedEntry.after.debugPort fun _ => false).1.result = .ok 49152
      ∧ (exhaustedEntry.after.debugPort fun _ => false).1.probed = []
      ∧ (exhaustedEntry.after.debugPort fun _ => true).1
          = (exhaustedEntry.session.debugPort fun _ => true).1 := by
  obtain ⟨-, hanswer, hleft⟩ :=
    debugPort_handedOut .default .posix [debuggedEntry.turn, exhaustedEntry.turn]
  have htold : debuggedEntry.told = [⟨⟨"/p/a.feature"⟩, none, 49152⟩] := by decide +kernel
  have hexhausted : exhaustedEntry.recorded? = none := by decide +kernel
  obtain ⟨hresult, hprobed⟩ :=
    hanswer [] debuggedEntry [exhaustedEntry] ⟨⟨"/p/a.feature"⟩, none, 49152⟩ rfl
      (.inr (by simp [Entry.handedOut, htold])) (by simpa using hexhausted) (fun _ => false)
  refine ⟨htold, hexhausted, hresult, hprobed, ?_⟩
  have hmem : exhaustedEntry ∈ (start .default .posix).log
      [debuggedEntry.turn, exhaustedEntry.turn] := .tail _ (.head _)
  exact hleft exhaustedEntry hmem hexhausted (fun _ hturn => by cases hturn) fun _ => true

end FeatureRunner
