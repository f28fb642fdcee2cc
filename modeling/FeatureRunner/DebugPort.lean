import FeatureRunner.Failure

/-!
This module contains the choice of the port that a debug server listens on. A configured port is
always taken as it is; otherwise the dynamic range is searched upwards for a free port. The port of
the last success is remembered.
-/

namespace FeatureRunner

/-- The choice of debug ports over time. -/
structure PortAllocator where
  /-- The configured port. -/
  override : Option UInt16
  /-- The port of the last success. -/
  cached : Option UInt16 := none
  deriving DecidableEq

namespace PortAllocator

def firstPort : UInt16 := 49152

def lastPort : UInt16 := 65535

def searched : List UInt16 :=
  (List.range (lastPort.toNat - firstPort.toNat + 1)).map fun i => firstPort + UInt16.ofNat i

def probedBy (isFree : UInt16 → Bool) : List UInt16 → List UInt16
  | [] => []
  | p :: ps => if isFree p then [p] else p :: probedBy isFree ps

/-- What a choice of a port gives: the port, the ports it asked for and what is remembered. -/
structure Allocation where
  result : Except Failure UInt16
  probed : List UInt16
  allocator : PortAllocator

def search (a : PortAllocator) (isFree : UInt16 → Bool) : Allocation :=
  match searched.find? isFree with
  | some port => ⟨.ok port, probedBy isFree searched, { a with cached := some port }⟩
  | none => ⟨.error (.resourceExhausted firstPort lastPort), searched, a⟩

/-- The port for the next debug session; with `useCache` the last one does again. -/
def allocate (a : PortAllocator) (isFree : UInt16 → Bool) (useCache : Bool) : Allocation :=
  match a.override with
  | some port => ⟨.ok port, [], { a with cached := some port }⟩
  | none =>
    match if useCache then a.cached else none with
    | some port => ⟨.ok port, [], a⟩
    | none => a.search isFree

end PortAllocator
end FeatureRunner
