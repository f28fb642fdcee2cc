import FeatureRunner.Session.Executor
import Mathlib.Data.List.Nodup
import Mathlib.Data.List.Range

/-!
This module contains what an executor answers when tasks are started and ended tasks are asked for
in any order. `Start.end?` is the request that is the first to find a process gone; that request
reports the task, and no other one does (`accounts_of_length_lt`).
-/

namespace FeatureRunner
namespace Executor

/-- Something that is asked of an executor, with the answers of the outside to it. -/
inductive Ask (π : Type) where
  | execute (name : String) (c : Command) (spawned : Except IoFault π)
  /-- The ended tasks are asked for while each process has this status. -/
  | poll (status : π → ProcessStatus)

inductive Answer where
  | started (result : Except Failure TaskHandle)
  | ended (handles : List TaskHandle)

variable {π : Type}

def answer (e : Executor π) (ask : Ask π) : Answer :=
  match ask with
  | .execute name c spawned => .started (e.execute name c spawned).1
  | .poll status => .ended (e.pollEnded status).1

def after (e : Executor π) (ask : Ask π) : Executor π :=
  match ask with
  | .execute name c spawned => (e.execute name c spawned).2
  | .poll status => (e.pollEnded status).2

def answers (e : Executor π) : List (Ask π) → List Answer
  | [] => []
  | ask :: asks => e.answer ask :: (e.after ask).answers asks

def afterAll (e : Executor π) (asks : List (Ask π)) : Executor π :=
  asks.foldl after e

structure Start (π : Type) where
  /-- The number of the request that started it, counted from zero. -/
  index : Nat
  handle : TaskHandle
  process : π

def start? : (Ask π × Answer) × Nat → Option (Start π)
  | ((.execute _ _ (.ok process), .started (.ok handle)), index) => some ⟨index, handle, process⟩
  | _ => none

def starts (asks : List (Ask π)) : List (Start π) :=
  (asks.zip (answers {} asks)).zipIdx.filterMap start?

def Ask.findsEnd (process : π) : Ask π → Bool
  | .execute _ _ _ => false
  | .poll status => status process != .running

def Start.end? (t : Start π) (asks : List (Ask π)) : Option Nat :=
  ((asks.drop (t.index + 1)).findIdx? (·.findsEnd t.process)).map (t.index + 1 + ·)

def Answer.handles : Answer → List TaskHandle
  | .started _ => []
  | .ended handles => handles

def kept (asks : List (Ask π)) : List (Start π) :=
  (starts asks).filter fun t => t.end? asks = none

def endedAt (asks : List (Ask π)) (index : Nat) : List (Start π) :=
  (starts asks).filter fun t => t.end? asks = some index

def reported (asks : List (Ask π)) : List TaskHandle :=
  (answers {} asks).flatMap Answer.handles

theorem afterAll_append_singleton (e : Executor π) (asks : List (Ask π)) (ask : Ask π)
    : e.afterAll (asks ++ [ask]) = (e.afterAll asks).after ask := by
  simp [afterAll]

theorem answers_append_singleton (e : Executor π) (asks : List (Ask π)) (ask : Ask π)
    : e.answers (asks ++ [ask]) = e.answers asks ++ [(e.afterAll asks).answer ask] := by
  induction asks generalizing e with
  | nil => rfl
  | cons first asks ih => simp [answers, afterAll, ih]

@[simp]
theorem length_answers (e : Executor π) (asks : List (Ask π))
    : (e.answers asks).length = asks.length := by
  induction asks generalizing e with
  | nil => rfl
  | cons ask asks ih => simp [answers, ih]

theorem starts_append_singleton (asks : List (Ask π)) (ask : Ask π)
    : starts (asks ++ [ask])
        = starts asks
            ++ (start? ((ask, (afterAll {} asks).answer ask), asks.length)).toList := by
  rw [starts, answers_append_singleton, List.zip_append (by simp), List.zipIdx_append,
    List.filterMap_append]
  congr 1
  cases hstart : start? ((ask, (afterAll {} asks).answer ask), asks.length) <;> simp [hstart]

theorem start?_execute (e : Executor π) (name : String) (c : Command) (process : π) (index : Nat)
    : start? ((.execute name c (.ok process), e.answer (.execute name c (.ok process))), index)
        = some ⟨index, ⟨e.lastId + 1, name⟩, process⟩ :=
  rfl

theorem starts_execute (asks : List (Ask π)) (name : String) (c : Command) (process : π)
    : starts (asks ++ [.execute name c (.ok process)])
        = starts asks
            ++ [⟨asks.length, ⟨(afterAll {} asks).lastId + 1, name⟩, process⟩] :=
  starts_append_singleton asks _

theorem starts_refused (asks : List (Ask π)) (name : String) (c : Command) (fault : IoFault)
    : starts (asks ++ [.execute name c (.error fault)]) = starts asks := by
  rw [starts_append_singleton]
  exact List.append_nil _

theorem starts_poll (asks : List (Ask π)) (status : π → ProcessStatus)
    : starts (asks ++ [.poll status]) = starts asks := by
  rw [starts_append_singleton]
  exact List.append_nil _

theorem index_of_start? {ask : Ask π} {answer : Answer} {index : Nat} {t : Start π}
    (h : start? ((ask, answer), index) = some t)
    : t.index = index := by
  unfold start? at h
  split at h
  . next heq =>
    cases heq
    cases h
    rfl
  . cases h

theorem index_lt {asks : List (Ask π)} {t : Start π} (h : t ∈ starts asks)
    : t.index < asks.length := by
  obtain ⟨⟨⟨ask, answer⟩, index⟩, hmem, hstart⟩ := List.mem_filterMap.1 h
  have hlt := List.snd_lt_of_mem_zipIdx hmem
  rw [index_of_start? hstart]
  simpa using hlt

/-! ### Numbers -/

theorem lastId_afterAll (asks : List (Ask π))
    : (afterAll {} asks).lastId = UInt64.ofNat (starts asks).length := by
  induction asks using List.reverseRecOn with
  | nil => rfl
  | append_singleton asks ask ih =>
    rw [afterAll_append_singleton]
    cases ask with
    | poll status =>
      rw [starts_poll]
      exact ih
    | execute name c spawned =>
      cases spawned with
      | error fault =>
        rw [starts_refused]
        exact ih
      | ok process =>
        rw [starts_execute, List.length_append, List.length_singleton, UInt64.ofNat_add, ← ih]
        rfl

theorem map_id_starts (asks : List (Ask π))
    : (starts asks).map (·.handle.id)
        = (List.range (starts asks).length).map fun n => UInt64.ofNat (n + 1) := by
  induction asks using List.reverseRecOn with
  | nil => rfl
  | append_singleton asks ask ih =>
    cases ask with
    | poll status =>
      rw [starts_poll]
      exact ih
    | execute name c spawned =>
      cases spawned with
      | error fault =>
        rw [starts_refused]
        exact ih
      | ok process =>
        rw [starts_execute, List.map_append, ih, lastId_afterAll, List.length_append,
          List.length_singleton, List.range_succ, List.map_append]
        simp [UInt64.ofNat_add]

theorem nodup_id_starts {asks : List (Ask π)} (h : (starts asks).length < UInt64.size)
    : ((starts asks).map (·.handle.id)).Nodup := by
  rw [map_id_starts]
  apply List.Nodup.map_on
  . intro n hn m hm heq
    rw [List.mem_range] at hn hm
    have htoNat := congrArg UInt64.toNat heq
    rw [UInt64.toNat_ofNat_of_lt' (by omega), UInt64.toNat_ofNat_of_lt' (by omega)] at htoNat
    omega
  . exact List.nodup_range

/-! ### Ends -/

theorem end?_append_singleton {asks : List (Ask π)} {t : Start π} (h : t.index < asks.length)
    (ask : Ask π)
    : t.end? (asks ++ [ask])
        = (t.end? asks).or (if ask.findsEnd t.process then some asks.length else none) := by
  unfold Start.end?
  rw [List.drop_append_of_le_length h, List.findIdx?_append]
  cases hfound : (asks.drop (t.index + 1)).findIdx? (·.findsEnd t.process) with
  | some i => rfl
  | none =>
    cases hask : ask.findsEnd t.process
    . simp [hask]
    . simp [hask]
      omega

theorem end?_new {asks : List (Ask π)} {t : Start π} (h : asks.length ≤ t.index + 1)
    : t.end? asks = none := by
  rw [Start.end?, List.drop_of_length_le h]
  rfl

theorem end?_append_execute {asks : List (Ask π)} {t : Start π} (h : t ∈ starts asks)
    (name : String) (c : Command) (spawned : Except IoFault π)
    : t.end? (asks ++ [.execute name c spawned]) = t.end? asks := by
  rw [end?_append_singleton (index_lt h)]
  simp [Ask.findsEnd]

theorem filter_end?_append_execute (p : Option Nat → Bool) (asks : List (Ask π)) (name : String)
    (c : Command) (spawned : Except IoFault π)
    : (starts asks).filter (fun t => p (t.end? (asks ++ [.execute name c spawned])))
        = (starts asks).filter fun t => p (t.end? asks) := by
  apply List.filter_congr
  intro t ht
  rw [end?_append_execute ht]

theorem end?_append_poll {asks : List (Ask π)} {t : Start π} (h : t ∈ starts asks)
    (status : π → ProcessStatus)
    : t.end? (asks ++ [.poll status])
        = (t.end? asks).or
            (if status t.process != .running then some asks.length else none) := by
  rw [end?_append_singleton (index_lt h)]
  rfl

theorem end?_lt {asks : List (Ask π)} {t : Start π} {i : Nat} (h : t.end? asks = some i)
    : i < asks.length := by
  obtain ⟨j, hj, rfl⟩ := Option.map_eq_some_iff.1 h
  have hlt := (List.findIdx?_eq_some_iff_findIdx_eq.1 hj).1
  rw [List.length_drop] at hlt
  omega

theorem kept_append_poll (asks : List (Ask π)) (status : π → ProcessStatus)
    : kept (asks ++ [.poll status])
        = (kept asks).filter fun t => status t.process == .running := by
  rw [kept, kept, starts_poll, List.filter_filter]
  apply List.filter_congr
  intro t ht
  rw [end?_append_poll ht]
  cases t.end? asks <;> cases status t.process <;> rfl

theorem kept_append_execute (asks : List (Ask π)) (name : String) (c : Command)
    (spawned : Except IoFault π)
    : kept (asks ++ [.execute name c spawned])
        = kept asks ++ (start? ((.execute name c spawned,
            (afterAll {} asks).answer (.execute name c spawned)), asks.length)).toList := by
  rw [kept, starts_append_singleton, List.filter_append, filter_end?_append_execute (· = none)]
  congr 1
  cases spawned with
  | error fault => rfl
  | ok process => simp [start?_execute, end?_new]

theorem filter_starts_append (p : Option Nat → Bool) (hp : p none = false) (asks : List (Ask π))
    (ask : Ask π)
    : (starts (asks ++ [ask])).filter (fun t => p (t.end? (asks ++ [ask])))
        = (starts asks).filter fun t => p (t.end? (asks ++ [ask])) := by
  have hnew : ∀ t ∈ (start? ((ask, (afterAll {} asks).answer ask), asks.length)).toList,
      p (t.end? (asks ++ [ask])) = false := by
    intro t ht
    rw [end?_new, hp]
    rw [index_of_start? (Option.mem_toList.1 ht)]
    simp
  rw [starts_append_singleton, List.filter_append, List.append_right_eq_self,
    List.filter_eq_nil_iff]
  simpa using hnew

theorem endedAt_append_of_lt {asks : List (Ask π)} {i : Nat} (h : i < asks.length) (ask : Ask π)
    : endedAt (asks ++ [ask]) i = endedAt asks i := by
  have hne : asks.length ≠ i := Nat.ne_of_gt h
  rw [endedAt, filter_starts_append (· = some i) rfl]
  apply List.filter_congr
  intro t ht
  rw [end?_append_singleton (index_lt ht)]
  cases t.end? asks with
  | some j => rfl
  | none => cases ask.findsEnd t.process <;> simp [hne]

theorem endedAt_append_poll (asks : List (Ask π)) (status : π → ProcessStatus)
    : endedAt (asks ++ [.poll status]) asks.length
        = (kept asks).filter fun t => status t.process != .running := by
  rw [endedAt, kept, starts_poll, List.filter_filter]
  apply List.filter_congr
  intro t ht
  rw [end?_append_poll ht]
  cases hend : t.end? asks with
  | none => cases status t.process <;> simp
  | some i =>
    have hne : i ≠ asks.length := Nat.ne_of_lt (end?_lt hend)
    simp [hne]

/-- The tasks that an executor keeps are those whose end was not found. -/
theorem running_afterAll (asks : List (Ask π))
    : (afterAll {} asks).running = (kept asks).map fun t => (t.handle, t.process) := by
  induction asks using List.reverseRecOn with
  | nil => rfl
  | append_singleton asks ask ih =>
    rw [afterAll_append_singleton]
    cases ask with
    | poll status =>
      rw [kept_append_poll, after, pollEnded]
      dsimp only
      rw [ih, List.filter_map]
      rfl
    | execute name c spawned =>
      rw [kept_append_execute, List.map_append, ← ih]
      cases spawned with
      | error fault => exact (List.append_nil _).symm
      | ok process => rfl

theorem answer_poll (asks : List (Ask π)) (status : π → ProcessStatus)
    : (afterAll {} asks).answer (.poll status)
        = .ended ((endedAt (asks ++ [.poll status]) asks.length).map (·.handle)) := by
  rw [endedAt_append_poll, answer, pollEnded, running_afterAll, List.filter_map, List.map_map]
  rfl

theorem answers_poll {asks : List (Ask π)} {i : Nat} {status : π → ProcessStatus}
    (h : asks[i]? = some (.poll status))
    : (answers {} asks)[i]? = some (.ended ((endedAt asks i).map (·.handle))) := by
  induction asks using List.reverseRecOn with
  | nil => simp at h
  | append_singleton asks ask ih =>
    rw [answers_append_singleton]
    by_cases hlt : i < asks.length
    . rw [List.getElem?_append_left hlt] at h
      rw [List.getElem?_append_left (by simpa using hlt), endedAt_append_of_lt hlt]
      exact ih h
    . obtain rfl : i = asks.length := by
        have hle := (List.getElem?_eq_some_iff.1 h).1
        rw [List.length_append, List.length_singleton] at hle
        omega
      obtain rfl : ask = .poll status := by simpa using h
      rw [List.getElem?_append_right (by simp), answer_poll]
      simp

theorem filter_end?_append_poll (asks : List (Ask π)) (status : π → ProcessStatus)
    : List.Perm
        (((starts asks).filter fun t => (t.end? asks).isSome)
          ++ endedAt (asks ++ [.poll status]) asks.length)
        ((starts asks).filter fun t => (t.end? (asks ++ [.poll status])).isSome) := by
  have hperm := List.filter_append_perm (fun t : Start π => (t.end? asks).isSome)
    ((starts asks).filter fun t => (t.end? (asks ++ [.poll status])).isSome)
  rw [List.filter_filter, List.filter_filter] at hperm
  rw [endedAt, starts_poll]
  convert hperm using 2
  . apply List.filter_congr
    intro t ht
    rw [end?_append_poll ht]
    cases t.end? asks <;> rfl
  . apply List.filter_congr
    intro t ht
    rw [end?_append_poll ht]
    cases hend : t.end? asks with
    | none => cases status t.process <;> simp
    | some i =>
      have hne : i ≠ asks.length := Nat.ne_of_lt (end?_lt hend)
      simp [hne]

/-- The tasks that are reported are those whose end is found, in another order. -/
theorem reported_perm (asks : List (Ask π))
    : (reported asks).Perm
        (((starts asks).filter fun t => (t.end? asks).isSome).map (·.handle)) := by
  induction asks using List.reverseRecOn with
  | nil => exact .nil
  | append_singleton asks ask ih =>
    have hreported : reported (asks ++ [ask])
        = reported asks ++ ((afterAll {} asks).answer ask).handles := by
      simp [reported, answers_append_singleton]
    rw [hreported, filter_starts_append Option.isSome rfl]
    cases ask with
    | execute name c spawned =>
      rw [filter_end?_append_execute Option.isSome]
      exact (List.append_nil _).symm ▸ ih
    | poll status =>
      have hended := (filter_end?_append_poll asks status).map (·.handle)
      rw [List.map_append] at hended
      rw [answer_poll, Answer.handles]
      exact (ih.append_right _).trans hended

theorem count_reported {asks : List (Ask π)} (h : ((starts asks).map (·.handle.id)).Nodup)
    {t : Start π} (ht : t ∈ starts asks)
    : (reported asks).count t.handle = if (t.end? asks).isSome then 1 else 0 := by
  have hhandles : ((starts asks).map (·.handle)).Nodup := by
    apply List.Nodup.of_map TaskHandle.id
    rwa [List.map_map]
  have hinj : ∀ t' ∈ starts asks, t'.handle = t.handle → t' = t := by
    intro t' ht' heq
    exact List.inj_on_of_nodup_map hhandles ht' ht heq
  have hnodup : (((starts asks).filter fun t => (t.end? asks).isSome).map (·.handle)).Nodup :=
    hhandles.sublist (List.filter_sublist.map _)
  rw [(reported_perm asks).count_eq]
  split
  . next hend =>
    apply List.count_eq_one_of_mem hnodup
    exact List.mem_map_of_mem (List.mem_filter.2 ⟨ht, hend⟩)
  . next hend =>
    apply List.count_eq_zero_of_not_mem
    intro hmem
    obtain ⟨t', ht', heq⟩ := List.mem_map.1 hmem
    obtain ⟨ht', hend'⟩ := List.mem_filter.1 ht'
    obtain rfl := hinj t' ht' heq
    exact hend hend'

theorem getElem?_answers (e : Executor π) {asks : List (Ask π)} {ask : Ask π} {i : Nat}
    (h : asks[i]? = some ask)
    : (e.answers asks)[i]? = some ((e.afterAll (asks.take i)).answer ask) := by
  induction asks generalizing e i with
  | nil => simp at h
  | cons first asks ih =>
    cases i with
    | zero =>
      obtain rfl : first = ask := by simpa using h
      rfl
    | succ i => exact ih (e.after first) h

theorem afterAll_take_succ (e : Executor π) {asks : List (Ask π)} {ask : Ask π} {i : Nat}
    (h : asks[i]? = some ask)
    : e.afterAll (asks.take (i + 1)) = (e.afterAll (asks.take i)).after ask := by
  rw [List.take_add_one, h, Option.toList_some, afterAll_append_singleton]

theorem mem_starts {asks : List (Ask π)} {i : Nat} {name : String} {c : Command} {process : π}
    (h : asks[i]? = some (.execute name c (.ok process)))
    : ⟨i, ⟨(afterAll {} (asks.take i)).lastId + 1, name⟩, process⟩ ∈ starts asks := by
  apply List.mem_filterMap.2
  have hstart := start?_execute (afterAll {} (asks.take i)) name c process i
  refine ⟨_, ?_, hstart⟩
  rw [List.mk_mem_zipIdx_iff_getElem?, List.getElem?_zip_eq_some]
  exact ⟨h, getElem?_answers {} h⟩

theorem index_ascending (asks : List (Ask π)) : ((starts asks).map (·.index)).Pairwise (· < ·) := by
  induction asks using List.reverseRecOn with
  | nil => exact .nil
  | append_singleton asks ask ih =>
    rw [starts_append_singleton, List.map_append, List.pairwise_append]
    refine ⟨ih, ?_, ?_⟩
    . cases start? ((ask, (afterAll {} asks).answer ask), asks.length) <;> simp
    . intro i hi j hj
      obtain ⟨t, ht, rfl⟩ := List.mem_map.1 hi
      obtain ⟨t', ht', rfl⟩ := List.mem_map.1 hj
      rw [index_of_start? (Option.mem_toList.1 ht')]
      exact index_lt ht

structure Accounts (asks : List (Ask π)) : Prop where
  /-- Tasks are listed in the order of their start. -/
  ordered : ((starts asks).map (·.index)).Pairwise (· < ·)
  /-- No number is given twice. -/
  numbered : ((starts asks).map (·.handle.id)).Nodup
  /-- A task that could be started is listed, and its handle is the answer. -/
  launched : ∀ (i : Nat) name c process, asks[i]? = some (.execute name c (.ok process)) →
    ∃ t ∈ starts asks, t.index = i ∧ t.process = process ∧ t.handle.name = name
      ∧ (answers {} asks)[i]? = some (.started (.ok t.handle))
  /-- A task that could not be started leaves the executor as it is. -/
  refused : ∀ (i : Nat) name c fault, asks[i]? = some (.execute name c (.error fault)) →
    (answers {} asks)[i]? = some (.started (.error (.taskLaunch c.directory fault)))
      ∧ afterAll {} (asks.take (i + 1)) = afterAll {} (asks.take i)
  /-- A poll reports the tasks whose end it is the first to find, in the order of their start. -/
  polled : ∀ (i : Nat) status, asks[i]? = some (.poll status) →
    (answers {} asks)[i]? = some (.ended ((endedAt asks i).map (·.handle)))
  /-- All polls together report a task once if one of them finds its end, and else not at all. -/
  once : ∀ t ∈ starts asks,
    (reported asks).count t.handle = if (t.end? asks).isSome then 1 else 0
  /-- The tasks whose end was not found are kept with their processes. -/
  running : (afterAll {} asks).running = (kept asks).map fun t => (t.handle, t.process)

/-- On fewer tasks than there are numbers, an executor loses none and reports none twice. -/
theorem accounts_of_length_lt {asks : List (Ask π)} (h : (starts asks).length < UInt64.size)
    : Accounts asks := by
  have hnumbered := nodup_id_starts h
  refine ⟨index_ascending asks, hnumbered, ?_, ?_, ?_, ?_, running_afterAll asks⟩
  . intro i name c process hask
    exact ⟨_, mem_starts hask, rfl, rfl, rfl, getElem?_answers {} hask⟩
  . intro i name c fault hask
    exact ⟨getElem?_answers {} hask, afterAll_take_succ {} hask⟩
  . intro i status hask
    exact answers_poll hask
  . intro t ht
    exact count_reported hnumbered ht

/-- Two tasks, one of which is lost in the poll that finds the end of the other one, with a start
that fails between theirs. -/
def pairedAsks : List (Ask Nat) :=
  let command : Command := ⟨"sleep 1", ⟨"/work"⟩⟩
  [.execute "a" command (.ok 0), .poll fun _ => .running, .execute "b" command (.error .notFound),
    .execute "b" command (.ok 1), .poll fun process => if process = 0 then .lost else .exited,
    .poll fun _ => .exited]

theorem accounts_of_length_lt_pairedAsks
    : (starts pairedAsks).length < UInt64.size
      ∧ (answers {} pairedAsks)[4]? = some (.ended [⟨1, "a"⟩, ⟨2, "b"⟩])
      ∧ (reported pairedAsks).count ⟨1, "a"⟩ = 1 := by
  have hstarts : starts pairedAsks = [⟨0, ⟨1, "a"⟩, 0⟩, ⟨3, ⟨2, "b"⟩, 1⟩] := rfl
  have hlt : (starts pairedAsks).length < UInt64.size := by
    rw [hstarts]
    decide
  have haccounts := accounts_of_length_lt hlt
  exact ⟨hlt, haccounts.polled 4 _ rfl, haccounts.once ⟨0, ⟨1, "a"⟩, 0⟩ (by simp [hstarts])⟩

end Executor
end FeatureRunner
