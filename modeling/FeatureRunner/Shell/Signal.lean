import FeatureRunner.Text.Numeral

/-!
This module contains the signals that stop processes, and the ways in which a process ends. It
serves the outer layer, which starts real commands; no result is about it.
-/

namespace FeatureRunner
namespace Shell

abbrev Signal := Nat

namespace Signal

/-- The signals in the order of their numbers, each with its name and what is said of a process
that it stops. -/
def names : List (String × String) :=
  [("HUP", "Hangup"), ("INT", "Interrupt"), ("QUIT", "Quit"), ("ILL", "Illegal instruction"),
   ("TRAP", "Trace/breakpoint trap"), ("ABRT", "Aborted"), ("BUS", "Bus error"),
   ("FPE", "Floating point exception"), ("KILL", "Killed"), ("USR1", "User defined signal 1"),
   ("SEGV", "Segmentation fault"), ("USR2", "User defined signal 2"), ("PIPE", "Broken pipe"),
   ("ALRM", "Alarm clock"), ("TERM", "Terminated"), ("STKFLT", "Stack fault"),
   ("CHLD", "Child exited"), ("CONT", "Continued"), ("STOP", "Stopped (signal)"),
   ("TSTP", "Stopped"), ("TTIN", "Stopped (tty input)"), ("TTOU", "Stopped (tty output)"),
   ("URG", "Urgent I/O condition"), ("XCPU", "CPU time limit exceeded"),
   ("XFSZ", "File size limit exceeded"), ("VTALRM", "Virtual timer expired"),
   ("PROF", "Profiling timer expired"), ("WINCH", "Window changed"), ("IO", "I/O possible"),
   ("PWR", "Power failure"), ("SYS", "Bad system call")]

def interrupt : Signal := 2
def kill : Signal := 9
def pipe : Signal := 13
def terminate : Signal := 15

def name? (n : Signal) : Option String :=
  if n = 0 then none else names[n - 1]?.map (·.1)

/-- The condition that a command failed, for which something may be put off like for a signal. -/
def failure : Signal := 65

def last : Signal := 64

def listed (n : Signal) : String :=
  if n = 16 || n = 32 || n = 33 then Numeral.decimal n
  else if n = 34 then "RTMIN"
  else if n = last then "RTMAX"
  else if 50 ≤ n then "RTMAX-" ++ Numeral.decimal (last - n)
  else if 34 < n then "RTMIN+" ++ Numeral.decimal (n - 34)
  else (name? n).getD (Numeral.decimal n)

def text (n : Signal) : String :=
  match if n = 0 then none else names[n - 1]? with
  | some (_, text) => text
  | none => "Unknown signal " ++ Numeral.decimal n

def ofName? (name : String) : Option Signal :=
  let name := String.ofList (name.toList.map Char.toUpper)
  ((names.map (·.1)).findIdx? (· == name)).map (· + 1)

def isHarmless (n : Signal) : Bool :=
  n = 17 || n = 18 || n = 19 || n = 20 || n = 21 || n = 22 || n = 23 || n = 28

end Signal

inductive Ending where
  | exited (status : Nat)
  | killed (signal : Signal)
  deriving DecidableEq

namespace Ending

def status : Ending → Nat
  | exited status => status
  | killed signal => 128 + signal

def isSuccess : Ending → Bool
  | exited status => status == 0
  | killed _ => false

def text : Ending → String
  | exited status => "exit status: " ++ Numeral.decimal status
  | killed signal =>
    "signal: " ++ Numeral.decimal signal ++
      match Signal.name? signal with
      | some name => " (SIG" ++ name ++ ")"
      | none => ""

end Ending
end Shell
end FeatureRunner
