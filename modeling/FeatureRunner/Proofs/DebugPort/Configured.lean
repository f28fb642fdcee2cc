import FeatureRunner.Proofs.Cli.Consulting
import FeatureRunner.Proofs.Session.DebugPorts

/-!
This module contains what becomes of a port number in the settings. A number that is a port is fixed:
it is what every choice of a debug port gives, and no port is asked for (`Settings.FixesPort`). A
number above the largest port passes for no number at all, so a port is searched in its place.
Running a target refuses such settings; the question for the port does not.
-/

namespace FeatureRunner

open Session

namespace Settings

variable {s : Settings}

theorem portOverride_eq_some_iff {port : UInt16}
    : s.portOverride = some port ↔ s.debugger.serverPort.toInt = port.toNat := by
  have hlt := port.toNat_lt
  unfold portOverride
  generalize s.debugger.serverPort.toInt = number
  simp only [UInt16.size]
  split
  . next h =>
    have hnumber : (UInt16.ofNat number.toNat).toNat = number.toNat :=
      UInt16.toNat_ofNat_of_lt' (by simp only [UInt16.size]; omega)
    rw [Option.some.injEq, ← UInt16.toNat_inj, hnumber]
    omega
  . next h =>
    constructor
    . intro hnone
      cases hnone
    . omega

theorem portOverride_eq_none_iff
    : s.portOverride = none
        ↔
      s.debugger.serverPort.toInt < 0 ∨ maxPort < s.debugger.serverPort.toInt := by
  unfold portOverride
  simp only [maxPort, UInt16.size]
  split
  . next h =>
    constructor
    . intro hnone
      cases hnone
    . omega
  . next h =>
    refine ⟨fun _ => ?_, fun _ => rfl⟩
    omega

theorem exists_portOverride (h : 0 ≤ s.debugger.serverPort.toInt)
    (hport : s.debugger.serverPort.toInt ≤ maxPort)
    : ∃ port, s.portOverride = some port ∧ s.debugger.serverPort.toInt = port.toNat := by
  cases hoverride : s.portOverride with
  | none =>
    rw [portOverride_eq_none_iff] at hoverride
    omega
  | some port => exact ⟨port, rfl, portOverride_eq_some_iff.1 hoverride⟩

theorem serverPort_le_of_check (h : s.check = .ok ()) : s.debugger.serverPort.toInt ≤ maxPort := by
  unfold check at h
  split at h
  . cases h
  . dsimp only at h
    split at h
    . cases h
    . omega

end Settings

namespace PortAllocator

def Allocation.Gives (answer : Allocation) (number : Int) : Prop :=
  ∃ port, answer.result = .ok port ∧ number = port.toNat ∧ answer.probed = []

variable {a : PortAllocator} {port : UInt16}

theorem gives_of_override (h : a.override = some port) (isFree : UInt16 → Bool) (useCache : Bool)
    : (a.allocate isFree useCache).Gives port.toNat := by
  refine ⟨port, ?_, rfl, ?_⟩ <;> simp [allocate, h]

theorem answers_of_override (h : a.override = some port) (asks : List Ask)
    : ∀ answer ∈ a.answers asks, answer.Gives port.toNat := by
  induction asks generalizing a with
  | nil => simp [answers]
  | cons ask asks ih =>
    rw [answers, List.forall_mem_cons]
    refine ⟨gives_of_override h _ _, ih ?_⟩
    rw [override_answer, h]

end PortAllocator

namespace Entry

theorem override_after (e : Entry) : e.after.ports.override = e.session.ports.override := by
  cases e.goes with
  | @started mode q r hstarted hafter hcalls =>
    rw [hafter]
    cases e.session.requested_attaches r mode q with
    | plain hports hprobed htold => rw [hports]
    | debug hports hprobed htold =>
      rw [hports]
      exact e.session.ports.override_answer ⟨r.isFree, false⟩
  | skipped hstarted hafter hcalls => rw [hafter]
  | taken hturn hafter hcalls =>
    rw [hafter]
    rfl
  | @asked r hturn hafter hcalls =>
    rw [hafter]
    exact e.session.ports.override_answer ⟨r.isFree, true⟩

theorem probed_of_override {e : Entry} {port : UInt16} (h : e.session.ports.override = some port)
    : e.calls.filterMap Call.probed? = [] := by
  have hprobed (isFree : UInt16 → Bool) (useCache : Bool)
      : (e.session.ports.allocate isFree useCache).probed = [] := by
    obtain ⟨_, -, -, hprobed⟩ := PortAllocator.gives_of_override h isFree useCache
    exact hprobed
  cases e.goes with
  | @started mode q r hstarted hafter hcalls =>
    rw [hcalls]
    cases e.session.requested_attaches r mode q with
    | plain hports hasked htold => exact hasked
    | debug hports hasked htold => rw [hasked, hprobed]
  | skipped hstarted hafter hcalls => simp [hcalls]
  | taken hturn hafter hcalls => simp [hcalls]
  | @asked r hturn hafter hcalls =>
    rw [hcalls, filterMap_probed?_probeCalls]
    exact hprobed r.isFree true

end Entry

theorem Session.override_log (s : Session) (turns : List Turn)
    : (s.afterAll turns).ports.override = s.ports.override
      ∧ ∀ e ∈ s.log turns, e.session.ports.override = s.ports.override := by
  induction turns generalizing s with
  | nil => simp [afterAll, log]
  | cons turn turns ih =>
    have hturn : (Entry.mk s turn).after.ports.override = s.ports.override :=
      Entry.override_after ⟨s, turn⟩
    obtain ⟨hafter, hlog⟩ := ih (Entry.mk s turn).after
    rw [hturn] at hafter hlog
    rw [log]
    exact ⟨hafter, List.forall_mem_cons.2 ⟨rfl, hlog⟩⟩

/-- The port number of the settings is the debug port, wherever one is chosen. -/
structure Settings.FixesPort (s : Settings) : Prop where
  /-- An allocator for the settings gives it whenever it is asked. -/
  answered : ∀ asks, ∀ answer ∈ (PortAllocator.start s.portOverride).answers asks,
    answer.Gives s.debugger.serverPort.toInt
  /-- A session with the settings hands it out and answers it, and never asks for a port. -/
  attached : ∀ platform turns,
    (∀ e ∈ (start s platform).log turns,
      e.calls.filterMap Call.probed? = []
        ∧ ∀ target ∈ e.handedOut, s.debugger.serverPort.toInt = target.port.toNat)
    ∧ ∀ isFree, (((start s platform).afterAll turns).debugPort isFree).1.Gives
        s.debugger.serverPort.toInt
  /-- The command line shows it in a directory that the settings are for. -/
  shown : ∀ e file, SettingsStore.loadNearest e.view e.directory = .ok ⟨s, file⟩ →
    Cli.port e = .ok (.ofLines e [Numeral.decimalInt s.debugger.serverPort.toInt])

theorem Settings.fixesPort_of_override {s : Settings} {port : UInt16}
    (h : s.portOverride = some port)
    : s.FixesPort := by
  have hnumber := portOverride_eq_some_iff.1 h
  refine ⟨?_, ?_, ?_⟩
  . rw [hnumber]
    exact PortAllocator.answers_of_override h
  . intro platform turns
    have hstart : (start s platform).ports.override = some port := h
    obtain ⟨hafter, hlog⟩ := (start s platform).override_log turns
    obtain ⟨-, hagrees⟩ := agrees_afterAll (agrees_start s platform) turns
    rw [hstart] at hafter hlog
    refine ⟨?_, ?_⟩
    . intro e he
      refine ⟨Entry.probed_of_override (hlog e he), ?_⟩
      intro target htarget
      have hkeeps := Entry.keeps_of_handedOut (hagrees e he) htarget
      obtain rfl := hkeeps.override port (e.override_after.trans (hlog e he))
      exact hnumber
    . intro isFree
      rw [hnumber]
      exact PortAllocator.gives_of_override hafter isFree true
  . intro e file hload
    rw [hnumber]
    simp [Cli.port, Cli.loadSettings, hload, Cli.Trouble.trying, Except.mapError, Bind.bind,
      Except.bind, PortAllocator.allocate, h, Pure.pure, Except.pure, Numeral.decimalInt]

/-- The port number of the settings passes for no number, wherever a port is chosen. -/
structure Settings.DropsPort (s : Settings) : Prop where
  answered : ∀ asks, (PortAllocator.start s.portOverride).answers asks
    = (PortAllocator.start none).answers asks
  attached : ∀ platform, (start s platform).ports = PortAllocator.start none
  /-- The command line shows a free port of the dynamic range instead. -/
  shown : ∀ e file t, SettingsStore.loadNearest e.view e.directory = .ok ⟨s, file⟩ →
    Cli.port e = .ok t →
    ∃ port, e.isFree port = true ∧ 49152 ≤ port.toNat
      ∧ t = .ofLines e [Numeral.decimal port.toNat]

theorem PortAllocator.free_of_search {a : PortAllocator} {isFree : UInt16 → Bool} {port : UInt16}
    (h : (a.search isFree).result = .ok port)
    : isFree port = true ∧ 49152 ≤ port.toNat := by
  unfold search at h
  cases hfind : searched.find? isFree with
  | none => simp [hfind] at h
  | some first =>
    simp only [hfind, Except.ok.injEq] at h
    rw [h] at hfind
    exact ⟨List.find?_some hfind, mem_searched_iff.1 (List.mem_of_find?_eq_some hfind)⟩

theorem Settings.dropsPort_of_override {s : Settings} (h : s.portOverride = none)
    : s.DropsPort := by
  refine ⟨?_, ?_, ?_⟩
  . simp [h]
  . intro platform
    simp [start, PortAllocator.start, h]
  . intro e file t hload ht
    obtain ⟨store, hstore, ht⟩ := Cli.exists_ok_of_bind ht
    obtain rfl := Except.ok.inj (hload.symm.trans (Cli.ok_of_trying hstore))
    obtain ⟨port, hport, ht⟩ := Cli.exists_ok_of_bind ht
    replace hport := Cli.ok_of_trying hport
    simp only [PortAllocator.allocate, h] at hport
    obtain ⟨hfree, hlow⟩ := PortAllocator.free_of_search hport
    exact ⟨port, hfree, hlow, (Except.ok.inj ht).symm⟩

/-- A port number in the settings is what every allocation gives exactly if it is a port. Then it is
fixed wherever a port is chosen. A larger number is dropped: the same ports are given as without a
number, although settings with it do not pass the check. -/
theorem fixesPort_of_configured {s : Settings} (h : 0 ≤ s.debugger.serverPort.toInt)
    : ((∀ asks, ∀ answer ∈ (PortAllocator.start s.portOverride).answers asks,
          ∀ port, answer.result = .ok port → answer.Gives s.debugger.serverPort.toInt)
        ↔
        s.debugger.serverPort.toInt ≤ Settings.maxPort)
      ∧ (s.debugger.serverPort.toInt ≤ Settings.maxPort → s.FixesPort)
      ∧ (Settings.maxPort < s.debugger.serverPort.toInt → s.DropsPort ∧ s.check ≠ .ok ()) := by
  have hfixes (hport : s.debugger.serverPort.toInt ≤ Settings.maxPort) : s.FixesPort := by
    obtain ⟨port, hoverride, -⟩ := Settings.exists_portOverride h hport
    exact Settings.fixesPort_of_override hoverride
  have hdrops (hlarge : Settings.maxPort < s.debugger.serverPort.toInt) : s.DropsPort :=
    Settings.dropsPort_of_override (Settings.portOverride_eq_none_iff.2 (.inr hlarge))
  refine ⟨⟨?_, ?_⟩, hfixes, fun hlarge => ⟨hdrops hlarge, ?_⟩⟩
  . intro hgives
    by_contra hlarge
    -- where every port is free, the first question already gives one that is no such number
    have hanswers := (hdrops (Int.not_le.1 hlarge)).answered [⟨fun _ => true, false⟩]
    have hfirst : ((PortAllocator.start none).answer ⟨fun _ => true, false⟩).result
        = .ok PortAllocator.firstPort := by decide +kernel
    have hmem : (PortAllocator.start none).answer ⟨fun _ => true, false⟩
        ∈ (PortAllocator.start s.portOverride).answers [⟨fun _ => true, false⟩] := by
      rw [hanswers]
      exact .head _
    obtain ⟨port, -, hnumber, -⟩ := hgives _ _ hmem _ hfirst
    have hlt := port.toNat_lt
    simp only [Settings.maxPort] at hlarge
    omega
  . intro hport asks answer hanswer _ _
    exact (hfixes hport).answered asks answer hanswer
  . intro hcheck
    have hle := Settings.serverPort_le_of_check hcheck
    omega

def lowSettings : Settings :=
  { debugger := { serverPort := 5005 } }

theorem fixesPort_of_configured_lowSettings
    : 0 ≤ lowSettings.debugger.serverPort.toInt ∧ lowSettings.FixesPort := by
  have hport : 0 ≤ lowSettings.debugger.serverPort.toInt := by decide
  exact ⟨hport, (fixesPort_of_configured hport).2.1 (by decide)⟩

def farSettings : Settings :=
  { debugger := { serverPort := 70000 } }

/-- Another port is given in the place of such a number, although settings with it are refused. -/
theorem replaced_of_farSettings
    : 0 ≤ farSettings.debugger.serverPort.toInt
      ∧ ((start farSettings .posix).debugPort fun _ => true).1.result = .ok 49152
      ∧ ((start farSettings .posix).debugPort fun _ => true).1.probed = [49152]
      ∧ ¬ (∀ asks, ∀ answer ∈ (PortAllocator.start farSettings.portOverride).answers asks,
          ∀ port, answer.result = .ok port →
            answer.Gives farSettings.debugger.serverPort.toInt)
      ∧ farSettings.check
          = .error (.config "debugger.server_port_number 70000 is above 65535") := by
  refine ⟨by decide, by decide +kernel, by decide +kernel, ?_, by decide +kernel⟩
  intro hgives
  have hfirst : ((PortAllocator.start farSettings.portOverride).answer
      ⟨fun _ => true, true⟩).result = .ok 49152 := by decide +kernel
  obtain ⟨port, hport, hnumber, -⟩ := hgives [⟨fun _ => true, true⟩] _ (.head _) _ hfirst
  obtain rfl : 49152 = port := Except.ok.inj (hfirst.symm.trans hport)
  exact absurd hnumber (by decide)

end FeatureRunner
