import FeatureRunner.Json.Reader

/-!
This module contains the decoding of drafts into typed values. A record is read from an object,
where unknown keys are passed over and no known key may come twice, or from an array of its members
in declaration order. Faults count in reading order.
-/

namespace FeatureRunner
namespace Json

inductive Origin where
  /-- Read from a text right now. -/
  | text
  /-- A complete value. -/
  | value
  deriving DecidableEq

def Origin.surplus : Origin → Fault
  | .text => .malformed
  | .value => .mismatch

abbrev Decoder (α : Type) := Draft → Except Fault α

def Draft.unexpected : Draft → Fault
  | .broken f => f
  | .number (.error f) => f
  | .string (.error f) => f
  | _ => .mismatch

namespace Decode

def bool : Decoder Bool
  | .bool b => .ok b
  | d => .error d.unexpected

def string : Decoder String
  | .string s => s
  | d => .error d.unexpected

def integer (low high : Int) : Decoder Int
  | .number (.ok (.integer i)) => if low ≤ i ∧ i ≤ high then .ok i else .error .mismatch
  | d => .error d.unexpected

def uint32 : Decoder UInt32 := fun d =>
  (integer 0 4294967295 d).map fun i => UInt32.ofNat i.toNat

def int32 : Decoder Int32 := fun d =>
  (integer (-2147483648) 2147483647 d).map Int32.ofInt

/-- A value that may be `null`. -/
def option (decode : Decoder α) : Decoder (Option α)
  | .null => .ok none
  | d => (decode d).map some

def items (decode : Decoder α) : List Draft → Except Fault (List α)
  | [] => .ok []
  | d :: ds => do
    let a ← decode d
    let as ← items decode ds
    pure (a :: as)

/-- What is read when nothing but `stop` follows. -/
def closing (stop : Option Fault) (a : α) : Except Fault α :=
  match stop with
  | some f => .error f
  | none => .ok a

def list (decode : Decoder α) : Decoder (List α)
  | .array ds stop => items decode ds >>= closing stop
  | d => .error d.unexpected

/-- One of several names, alone or as the only key of an object with the value `null`. -/
def choice (names : List (String × α)) : Decoder α
  | .string (.ok s) => ((names.lookup s).map .ok).getD (.error .mismatch)
  | .object [(.ok s, .null)] none => ((names.lookup s).map .ok).getD (.error .mismatch)
  | .object _ _ => .error .mismatch
  | d => .error d.unexpected

/-- A member of a record that is being filled. -/
structure Member (σ : Type) where
  key : String
  set : Draft → σ → Except Fault σ

def member (key : String) (decode : Decoder α) (set : α → σ → σ) : Member σ where
  key := key
  set d s := (decode d).map (set · s)

/-- Reads the members of an object onto `s`; the keys in `seen` were read before. -/
def ofMembers (members : List (Member σ)) (seen : List String) (s : σ)
    : List (Except Fault String × Draft) → Except Fault σ
  | [] => .ok s
  | (.error f, _) :: _ => .error f
  | (.ok key, d) :: rest =>
    match members.find? (·.key == key) with
    | none => ofMembers members seen s rest
    | some m =>
      if key ∈ seen then
        .error .mismatch
      else
        match m.set d s with
        | .error f => .error f
        | .ok s => ofMembers members (key :: seen) s rest

def ofItems (surplus : Fault) : List (Member σ) → σ → List Draft → Except Fault σ
  | _, s, [] => .ok s
  | [], _, _ :: _ => .error surplus
  | m :: ms, s, d :: ds =>
    match m.set d s with
    | .error f => .error f
    | .ok s => ofItems surplus ms s ds

/-- A record that starts out as `blank`. -/
def record (origin : Origin) (members : List (Member σ)) (blank : σ) : Decoder σ
  | .object ds stop => ofMembers members [] blank ds >>= closing stop
  | .array ds stop => ofItems origin.surplus members blank ds >>= closing stop
  | d => .error d.unexpected

def required (a : Option α) : Except Fault α :=
  (a.map .ok).getD (.error .mismatch)

end Decode

def decodeText (decode : Decoder α) (text : String) : Except Fault α :=
  let (draft, stop) := Draft.read text
  decode draft >>= Decode.closing stop

end Json
end FeatureRunner
