import FeatureRunner.Glob
import FeatureRunner.Json.Draft
import FeatureRunner.Path.Basic

/-!
This module contains the reasons why a request fails and their wording. The words for what the file
system or a JSON text did are the caller's choice, see `Wording`.
-/

namespace FeatureRunner

/-- What the file system or the launch of a program answered instead of doing its work. -/
inductive IoFault where
  | notFound
  | notADirectory
  | isADirectory
  /-- A file that should be text is not UTF-8. -/
  | invalidData
  /-- Symbolic links that lead to each other. -/
  | linkLoop
  | permissionDenied
  /-- A path with a null character. -/
  | invalidInput
  /-- A path with a name that is too long. -/
  | invalidName
  /-- A file that may be run but is no program. -/
  | noProgram
  /-- No room is left for what is written. -/
  | storageFull
  /-- There is nothing behind a device. -/
  | noDevice
  /-- Anything else, in its own words. -/
  | other (text : String)
  deriving DecidableEq

inductive Failure where
  /-- No build descriptor was found or no runner class was chosen. -/
  | unresolved (reason : String)
  /-- A settings key is undefined, or blank where it has to say something. -/
  | configurationMissing (key : String)
  /-- No port from `first` to `last` is free. -/
  | resourceExhausted (first last : UInt16)
  | io (cause : IoFault)
  | config (reason : String)
  | serialization (cause : Json.Fault)
  | watch (reason : String)
  | pattern (cause : Glob.Fault)
  /-- The task could not be started in the directory `path`. -/
  | taskLaunch (path : Path) (cause : IoFault)
  deriving DecidableEq

/-- The words for causes that come from outside. -/
structure Wording where
  io : IoFault → String
  json : Json.Fault → String

def Wording.plain : Wording where
  io
    | .notFound => "entity not found"
    | .notADirectory => "not a directory"
    | .isADirectory => "is a directory"
    | .invalidData => "stream did not contain valid UTF-8"
    | .linkLoop => "filesystem loop or indirection limit"
    | .permissionDenied => "permission denied"
    | .invalidInput => "invalid input parameter"
    | .invalidName => "invalid filename"
    | .noProgram | .noDevice => "uncategorized error"
    | .storageFull => "no storage space"
    | .other text => text
  json
    | .truncated => "unexpected end of the text"
    | .malformed => "the text is no JSON"
    | .mismatch => "a value has the wrong type"

def IoFault.systemText : IoFault → String
  | notFound => "No such file or directory"
  | notADirectory => "Not a directory"
  | isADirectory => "Is a directory"
  | linkLoop => "Too many levels of symbolic links"
  | permissionDenied => "Permission denied"
  | invalidData => "Invalid data"
  | invalidInput => "Invalid argument"
  | invalidName => "File name too long"
  | noProgram => "Exec format error"
  | storageFull => "No space left on device"
  | noDevice => "No such device or address"
  | other text => text

def IoFault.systemNumber? : IoFault → Option Nat
  | notFound => some 2
  | noDevice => some 6
  | noProgram => some 8
  | permissionDenied => some 13
  | notADirectory => some 20
  | isADirectory => some 21
  | storageFull => some 28
  | invalidName => some 36
  | linkLoop => some 40
  | invalidData | invalidInput | other _ => none

def IoFault.watchText (f : IoFault) : String :=
  match f, f.systemNumber? with
  | invalidInput, _ => "file name contained an unexpected NUL byte"
  | _, some n => f.systemText ++ " (os error " ++ Numeral.decimal n ++ ")"
  | _, none => f.systemText

namespace Failure

def messageWith (w : Wording) : Failure → String
  | unresolved reason => "Unresolved: " ++ reason
  | configurationMissing key => "Configuration missing: " ++ key
  | resourceExhausted first last =>
    "No free port in range " ++ Numeral.decimal first.toNat ++ "-" ++ Numeral.decimal last.toNat
  | io cause => "IO error: " ++ w.io cause
  | config reason => "Configuration error: " ++ reason
  | serialization cause => "Serialization error: " ++ w.json cause
  | watch reason => "Watch error: " ++ reason
  | pattern cause => "Invalid report glob: " ++ cause.message Numeral.decimal
  | taskLaunch path cause => "Failed to launch task for " ++ path.text ++ ": " ++ w.io cause

def message (f : Failure) : String :=
  f.messageWith .plain

/-- Does the failure only mean that there is nothing to run yet? -/
def isSilent : Failure → Bool
  | unresolved _ | configurationMissing _ => true
  | _ => false

end Failure
end FeatureRunner
