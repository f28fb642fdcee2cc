import FeatureRunner.Json.Value

/-!
This module contains what reading a JSON text yields. Reading stops at the first place where the
text is no JSON, and everything in front of that place is kept: a `Draft` is a JSON value in which
such a stop can be seen. What a draft is read for decides which of several faults counts, the first
one in reading order.
-/

namespace FeatureRunner

namespace Json

/-- Why a text cannot be taken for the value that is wanted. -/
inductive Fault where
  /-- The text ends too early. -/
  | truncated
  /-- The text is no JSON. -/
  | malformed
  /-- The text is JSON so far, but not for a value of the wanted type. -/
  | mismatch
  deriving DecidableEq

inductive Number where
  /-- Written without point and exponent, and within 64 bits. -/
  | integer (value : Int)
  /-- Any other number, and minus zero. -/
  | real
  deriving DecidableEq

/--
A JSON value as far as it could be read. A string or a number can be unreadable by itself, while a
reader that only passes over it can go on behind it; `stop` tells why nothing follows the last item.
-/
inductive Draft where
  | null
  | bool (value : Bool)
  | number (value : Except Fault Number)
  | string (value : Except Fault String)
  | array (items : List Draft) (stop : Option Fault)
  | object (members : List (Except Fault String × Draft)) (stop : Option Fault)
  /-- No value starts here. -/
  | broken (fault : Fault)

instance : Inhabited Draft := ⟨.null⟩

mutual

def toDraft : Json → Draft
  | .null => .null
  | .bool b => .bool b
  | .number i => .number (.ok (.integer i))
  | .string s => .string (.ok s)
  | .array js => .array (toDrafts js) none
  | .object ms => .object (toDraftMembers ms) none

def toDrafts : List Json → List Draft
  | [] => []
  | j :: js => toDraft j :: toDrafts js

def toDraftMembers : List (String × Json) → List (Except Fault String × Draft)
  | [] => []
  | m :: ms => toDraftMember m :: toDraftMembers ms

def toDraftMember : String × Json → Except Fault String × Draft
  | (key, j) => (.ok key, toDraft j)

end

end Json
end FeatureRunner
