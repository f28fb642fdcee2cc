import FeatureRunner.DebugPort
import Mathlib.Data.List.Range

/-!
This module contains what an allocator of debug ports answers when it is asked again and again while
ports become free and are taken. `Answered` is the rule for one answer: the configured port, the
last port once more, or the least free port of the dynamic range with the ports that were asked for
on the way. `answered_afterAll` says that every answer follows it, whatever came before.
-/

namespace FeatureRunner
namespace PortAllocator

/-- A request for a port: the ports that are free at this time, and whether the last port does. -/
structure Ask where
  isFree : UInt16 → Bool
  useCache : Bool

def start (override : Option UInt16) : PortAllocator where
  override := override

def answer (a : PortAllocator) (ask : Ask) : Allocation :=
  a.allocate ask.isFree ask.useCache

def answers (a : PortAllocator) : List Ask → List Allocation
  | [] => []
  | ask :: asks => a.answer ask :: (a.answer ask).allocator.answers asks

def afterAll (a : PortAllocator) (asks : List Ask) : PortAllocator :=
  asks.foldl (fun a ask => (a.answer ask).allocator) a

def Allocation.port? (answer : Allocation) : Option UInt16 :=
  answer.result.toOption

def lastPort? (answers : List Allocation) : Option UInt16 :=
  (answers.filterMap Allocation.port?).getLast?

/-- The rule for an answer, with the numbers of the ports that are asked for. `last` is the port of
the last success before it. -/
inductive Answered (override last : Option UInt16) (ask : Ask)
    : Except Failure UInt16 → List Nat → Prop where
  | configured {port : UInt16} (hoverride : override = some port)
      : Answered override last ask (.ok port) []
  | remembered {port : UInt16} (hoverride : override = none) (hcache : ask.useCache = true)
      (hlast : last = some port)
      : Answered override last ask (.ok port) []
  /-- The least free port from 49152 on. All ports up to it are asked for, in order. -/
  | found {port : UInt16} (hoverride : override = none) (hcache : ask.useCache = true → last = none)
      (hfree : ask.isFree port = true) (hlow : 49152 ≤ port.toNat)
      (hleast : ∀ other : UInt16, 49152 ≤ other.toNat → other < port → ask.isFree other = false)
      : Answered override last ask (.ok port) (List.range' 49152 (port.toNat - 49152 + 1))
  | exhausted (hoverride : override = none) (hcache : ask.useCache = true → last = none)
      (hnone : ∀ port : UInt16, 49152 ≤ port.toNat → ask.isFree port = false)
      : Answered override last ask (.error (.resourceExhausted 49152 65535)) (List.range' 49152 16384)

/-- The first free port from `port` on. One port is asked for after the other, and behind the last
port there is none. -/
def firstFree? [Monad m] (isFree : UInt16 → m Bool) (port : UInt16) : m (Option UInt16) := do
  if ← isFree port then
    return some port
  else if port < lastPort then
    firstFree? isFree (port + 1)
  else
    return none
termination_by lastPort.toNat - port.toNat
decreasing_by
  next h =>
  have hlt := UInt16.lt_iff_toNat_lt.1 h
  have hnext : (port + 1).toNat = port.toNat + 1 := by
    simp only [lastPort] at hlt
    simp at hlt ⊢
    omega
  omega

def noting (isFree : UInt16 → Bool) (port : UInt16) : StateM (List UInt16) Bool := do
  modify (· ++ [port])
  return isFree port

def portsFrom (first n : Nat) : List UInt16 :=
  (List.range' first n).map UInt16.ofNat

theorem searched_eq : searched = portsFrom 49152 16384 := by
  have hsize : lastPort.toNat - firstPort.toNat + 1 = 16384 := by decide
  rw [searched, hsize, portsFrom, List.range'_eq_map_range, List.map_map]
  apply List.map_congr_left
  intro i _
  simp [firstPort, UInt16.ofNat_add]

theorem map_toNat_portsFrom {first n : Nat} (h : first + n ≤ UInt16.size)
    : (portsFrom first n).map UInt16.toNat = List.range' first n := by
  rw [portsFrom, List.map_map]
  conv => rhs; rw [← List.map_id (List.range' first n)]
  apply List.map_congr_left
  intro i hi
  rw [List.mem_range'_1] at hi
  exact UInt16.toNat_ofNat_of_lt' (by omega)

theorem portsFrom_succ (first n : Nat)
    : portsFrom first (n + 1) = UInt16.ofNat first :: portsFrom (first + 1) n := by
  rw [portsFrom, List.range'_succ, List.map_cons]
  rfl

theorem mem_searched_iff {port : UInt16} : port ∈ searched ↔ 49152 ≤ port.toNat := by
  have hlt := port.toNat_lt
  have hmem : port ∈ searched ↔ port.toNat ∈ searched.map UInt16.toNat := by
    rw [List.mem_map_of_injective fun _ _ => UInt16.toNat_inj.1]
  rw [hmem, searched_eq, map_toNat_portsFrom (by decide), List.mem_range'_1]
  omega

section Search

variable {isFree : UInt16 → Bool}

theorem run_firstFree? {first n : Nat} (h : first + n + 1 = UInt16.size) (asked : List UInt16)
    : (firstFree? (noting isFree) (UInt16.ofNat first)).run asked
        = pure ((portsFrom first (n + 1)).find? isFree,
            asked ++ probedBy isFree (portsFrom first (n + 1))) := by
  have hfirst : (UInt16.ofNat first).toNat = first := UInt16.toNat_ofNat_of_lt' (by omega)
  induction n generalizing first asked with
  | zero =>
    have hlast : ¬ UInt16.ofNat first < lastPort := by
      rw [UInt16.lt_iff_toNat_lt, hfirst]
      simp only [UInt16.size] at h
      simp [lastPort]
      omega
    rw [portsFrom_succ, firstFree?]
    cases hfree : isFree (UInt16.ofNat first) <;>
      simp [noting, probedBy, hfree, hlast, portsFrom]
  | succ n ih =>
    have hlt : UInt16.ofNat first < lastPort := by
      rw [UInt16.lt_iff_toNat_lt, hfirst]
      simp only [UInt16.size] at h
      simp [lastPort]
      omega
    have hnext : UInt16.ofNat (first + 1) = UInt16.ofNat first + 1 := by
      simp [UInt16.ofNat_add]
    have hrest := fun asked =>
      @ih (first + 1) (by omega) asked (UInt16.toNat_ofNat_of_lt' (by omega))
    rw [portsFrom_succ, firstFree?]
    -- the rest of the list is what the induction is about, and `simp` must not unfold it
    generalize portsFrom (first + 1) (n + 1) = rest at hrest ⊢
    rw [hnext] at hrest
    cases hfree : isFree (UInt16.ofNat first) <;> simp [noting, probedBy, hfree, hlt, hrest]

theorem probedBy_append_cons {nearer : List UInt16} (hnearer : ∀ p ∈ nearer, isFree p = false)
    {port : UInt16} (hfree : isFree port = true) (farther : List UInt16)
    : probedBy isFree (nearer ++ port :: farther) = nearer ++ [port] := by
  induction nearer with
  | nil => simp [probedBy, hfree]
  | cons p nearer ih =>
    rw [List.forall_mem_cons] at hnearer
    simp [probedBy, hnearer.1, ih hnearer.2]

theorem probedBy_eq_self {ports : List UInt16} (h : ∀ p ∈ ports, isFree p = false)
    : probedBy isFree ports = ports := by
  induction ports with
  | nil => rfl
  | cons p ports ih =>
    rw [List.forall_mem_cons] at h
    simp [probedBy, h.1, ih h.2]

theorem map_toNat_nearer {nearer farther : List UInt16} {port : UInt16}
    (h : searched = nearer ++ port :: farther)
    : 49152 ≤ port.toNat
      ∧ nearer.map UInt16.toNat = List.range' 49152 (port.toNat - 49152) := by
  have hnumbers : (portsFrom 49152 16384).map UInt16.toNat = List.range' 49152 16384 :=
    map_toNat_portsFrom (by decide)
  rw [← searched_eq, h, List.map_append, eq_comm, List.range'_eq_append_iff] at hnumbers
  obtain ⟨k, hk, hnearer, hport⟩ := hnumbers
  have hrest : 16384 - k ≠ 0 := by
    intro hzero
    simp [hzero] at hport
  obtain ⟨rest, hrest⟩ := Nat.exists_eq_succ_of_ne_zero hrest
  rw [hrest, List.range'_succ, List.map_cons, List.cons.injEq] at hport
  rw [hnearer, hport.1, Nat.mul_one, Nat.add_sub_cancel_left]
  exact ⟨Nat.le_add_right .., rfl⟩

/-- A search gives the least free port and asks for the ports up to it, or for all ports. -/
theorem search_answered {override last : Option UInt16} {ask : Ask} (a : PortAllocator)
    (hoverride : override = none) (hcache : ask.useCache = true → last = none)
    : Answered override last ask (a.search ask.isFree).result
        ((a.search ask.isFree).probed.map UInt16.toNat) := by
  unfold search
  cases hfind : searched.find? ask.isFree with
  | some port =>
    obtain ⟨hfree, nearer, farther, hports, hbusy⟩ := List.find?_eq_some_iff_append.1 hfind
    replace hbusy : ∀ p ∈ nearer, ask.isFree p = false := by simpa using hbusy
    obtain ⟨hlow, hnumbers⟩ := map_toNat_nearer hports
    have hprobed : (probedBy ask.isFree searched).map UInt16.toNat
        = List.range' 49152 (port.toNat - 49152 + 1) := by
      rw [hports, probedBy_append_cons hbusy hfree, List.map_append, hnumbers,
        List.range'_concat]
      simp
      omega
    dsimp only
    rw [hprobed]
    apply Answered.found hoverride hcache hfree hlow
    intro other hother hlt
    -- a smaller port stands nearer, so it was asked for in vain
    apply hbusy
    rw [← List.mem_map_of_injective fun _ _ => UInt16.toNat_inj.1, hnumbers, List.mem_range'_1]
    rw [UInt16.lt_iff_toNat_lt] at hlt
    omega
  | none =>
    have hbusy : ∀ p ∈ searched, ask.isFree p = false := by
      simpa using List.find?_eq_none.1 hfind
    have hnumbers : searched.map UInt16.toNat = List.range' 49152 16384 := by
      rw [searched_eq, map_toNat_portsFrom (by decide)]
    dsimp only
    rw [hnumbers]
    exact .exhausted hoverride hcache fun port hport => hbusy port (mem_searched_iff.2 hport)

end Search

theorem lastPort?_cons (answer : Allocation) (answers : List Allocation)
    : lastPort? (answer :: answers) = (lastPort? answers).or answer.port? := by
  unfold lastPort?
  cases hport : answer.port? with
  | none => rw [List.filterMap_cons_none hport, Option.or_none]
  | some port =>
    rw [List.filterMap_cons_some hport, List.getLast?_cons]
    cases (answers.filterMap Allocation.port?).getLast? <;> rfl

theorem run_firstFree?_firstPort (isFree : UInt16 → Bool)
    : (firstFree? (noting isFree) firstPort).run []
        = pure (searched.find? isFree, probedBy isFree searched) := by
  have hfirst : firstPort = UInt16.ofNat 49152 := rfl
  have hports : portsFrom 49152 (16383 + 1) = searched := searched_eq.symm
  have hsize : 49152 + 16383 + 1 = UInt16.size := by decide
  rw [hfirst, run_firstFree? hsize, hports, List.nil_append]

theorem run_search (a : PortAllocator) (isFree : UInt16 → Bool)
    : ((firstFree? (noting isFree) firstPort).run []).run
        = ((a.search isFree).port?, (a.search isFree).probed) := by
  rw [run_firstFree?_firstPort]
  unfold search
  generalize searched = ports
  cases hfind : ports.find? isFree with
  | some port => rfl
  | none =>
    have hbusy : ∀ p ∈ ports, isFree p = false := by simpa using hfind
    rw [probedBy_eq_self hbusy]
    rfl

theorem cached_search (a : PortAllocator) (isFree : UInt16 → Bool)
    : (a.search isFree).allocator.cached = ((a.search isFree).port?).or a.cached := by
  unfold search
  cases searched.find? isFree <;> rfl

theorem cached_answer (a : PortAllocator) (ask : Ask)
    : (a.answer ask).allocator.cached = ((a.answer ask).port?).or a.cached := by
  unfold answer allocate
  split
  . rfl
  . split
    . next port hcached =>
      cases huse : ask.useCache with
      | true =>
        rw [huse, if_pos rfl] at hcached
        rw [hcached]
        rfl
      | false => simp [huse] at hcached
    . exact a.cached_search ask.isFree

theorem override_answer (a : PortAllocator) (ask : Ask)
    : (a.answer ask).allocator.override = a.override := by
  unfold answer allocate search
  split
  . rfl
  . split
    . rfl
    . split <;> rfl

/-- What is remembered is the port of the last success, or what was remembered before. -/
theorem cached_afterAll (a : PortAllocator) (asks : List Ask)
    : (a.afterAll asks).cached = (lastPort? (a.answers asks)).or a.cached := by
  induction asks generalizing a with
  | nil => rfl
  | cons ask asks ih =>
    have hrest := ih (a.answer ask).allocator
    rw [cached_answer] at hrest
    rw [afterAll, List.foldl_cons, ← afterAll, hrest, answers, lastPort?_cons, Option.or_assoc]

theorem override_afterAll (a : PortAllocator) (asks : List Ask)
    : (a.afterAll asks).override = a.override := by
  induction asks generalizing a with
  | nil => rfl
  | cons ask asks ih =>
    rw [afterAll, List.foldl_cons, ← afterAll, ih, override_answer]

/-- Every answer follows the rule, whatever was asked before and whichever ports are free. The
allocator remembers the port of the last success. Ports that are asked for are those of a search
that goes upwards port by port, without a number that wraps around. -/
theorem answered_afterAll (override : Option UInt16) (before : List Ask) (ask : Ask)
    : Answered override (lastPort? ((start override).answers before)) ask
        (((start override).afterAll before).answer ask).result
        ((((start override).afterAll before).answer ask).probed.map UInt16.toNat)
      ∧ ((start override).afterAll before).cached = lastPort? ((start override).answers before)
      ∧ ((((start override).afterAll before).answer ask).probed = []
        ∨ ((firstFree? (noting ask.isFree) firstPort).run []).run
          = ((((start override).afterAll before).answer ask).port?,
            (((start override).afterAll before).answer ask).probed)) := by
  have hcached := (start override).cached_afterAll before
  have hoverride := (start override).override_afterAll before
  -- Of all that was asked before, only the cache is left in the allocator.
  generalize (start override).afterAll before = a at *
  generalize lastPort? ((start override).answers before) = last at *
  replace hcached : a.cached = last := by simpa [start] using hcached
  replace hoverride : a.override = override := hoverride
  unfold answer allocate
  rw [hoverride]
  cases override with
  | some port => exact ⟨.configured rfl, hcached, .inl rfl⟩
  | none =>
    dsimp only
    split
    . next port hport =>
      have huse : ask.useCache = true := by
        by_contra huse
        simp [huse] at hport
      rw [huse, if_pos rfl, hcached] at hport
      exact ⟨.remembered rfl huse hport, hcached, .inl rfl⟩
    . next hnone =>
      have hlast : ask.useCache = true → last = none := by
        intro huse
        rwa [huse, if_pos rfl, hcached] at hnone
      exact ⟨a.search_answered rfl hlast, hcached, .inr (a.run_search ask.isFree)⟩

end PortAllocator
end FeatureRunner
