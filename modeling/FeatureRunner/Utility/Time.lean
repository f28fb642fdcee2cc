import FeatureRunner.Text.Blank
import FeatureRunner.Utility.Basic

/-!
This module contains the utilities that wait and that tell the time, and the ways in which times are
written. Times are numbers of milliseconds since 1970. It serves the outer layer, where commands
start programs; no result is about it.
-/

namespace FeatureRunner
namespace Utility

open Shell

def sleep : Utility := fun arguments =>
  withOptions {} 1 arguments fun name a => do
    if a.operands.isEmpty then misuse name "missing operand"
    else
      match a.operands.find? fun t => (milliseconds? t).isNone with
      | some bad => misuse name ("invalid time interval " ++ quote bad)
      | none =>
        let time := ((a.operands.filterMap milliseconds?).foldl (· + ·) 0)
        modify (·.pass time)
        pure 0

def civilDate (days : Int) : Int × Int × Int :=
  let z := days + 719468
  let era := z / 146097
  let dayOfEra := z % 146097
  let year := (dayOfEra - dayOfEra / 1460 + dayOfEra / 36524 - dayOfEra / 146096) / 365
  let dayOfYear := dayOfEra - (365 * year + year / 4 - year / 100)
  let month := (5 * dayOfYear + 2) / 153
  let day := dayOfYear - (153 * month + 2) / 5 + 1
  let month := if month < 10 then month + 3 else month - 9
  (year + era * 400 + (if month ≤ 2 then 1 else 0), month, day)

def zeros (width : Nat) (n : Int) : String :=
  let text := Numeral.decimal n.natAbs
  (if n < 0 then "-" else "") ++ String.ofList (List.replicate (width - text.length) '0') ++ text

def dayNames : List String :=
  ["Thursday", "Friday", "Saturday", "Sunday", "Monday", "Tuesday", "Wednesday"]

def monthNames : List String :=
  ["January", "February", "March", "April", "May", "June", "July", "August", "September",
   "October", "November", "December"]

def firstLetters (text : String) : String := String.ofList (text.toList.take 3)

def dateText (time : Nat) (fuel : Nat) (cs : List Char) : List Char :=
  match fuel, cs with
  | 0, _ | _, [] => []
  | fuel + 1, '%' :: c :: rest =>
    let (padding, c, rest) : Option Char × Char × List Char :=
      match c, rest with
      | '-', d :: rest => (some '-', d, rest)
      | '_', d :: rest => (some '_', d, rest)
      | c, rest => (none, c, rest)
    let seconds : Int := time / 1000
    let days := seconds / 86400
    let clock := seconds % 86400
    let (year, month, day) := civilDate days
    let number (width : Nat) (n : Int) : String :=
      match padding with
      | some '-' => Numeral.decimalInt n
      | some _ => padLeft width (Numeral.decimalInt n)
      | none => zeros width n
    let weekday := (days % 7).toNat
    let dayName := (dayNames[weekday]?).getD ""
    let monthName := (monthNames[(month - 1).toNat]?).getD ""
    let hour := clock / 3600
    let twelve := if hour % 12 = 0 then 12 else hour % 12
    let part (format : String) : String := String.ofList (dateText time fuel format.toList)
    let text : String :=
      match c with
      | 'Y' => Numeral.decimalInt year
      | 'C' => number 2 (year / 100)
      | 'y' => number 2 (year % 100)
      | 'm' => number 2 month
      | 'd' => number 2 day
      | 'e' => padLeft 2 (Numeral.decimalInt day)
      | 'H' => number 2 hour
      | 'I' => number 2 twelve
      | 'k' => padLeft 2 (Numeral.decimalInt hour)
      | 'M' => number 2 (clock / 60 % 60)
      | 'S' => number 2 (clock % 60)
      | 's' => Numeral.decimalInt seconds
      | 'N' => zeros 3 (time % 1000 : Nat) ++ "000000"
      | 'p' => if hour < 12 then "AM" else "PM"
      | 'a' => firstLetters dayName
      | 'A' => dayName
      | 'b' | 'h' => firstLetters monthName
      | 'B' => monthName
      | 'j' => number 3 (days - dayOfNewYear year + 1)
      | 'u' => Numeral.decimal ((weekday + 3) % 7 + 1)
      | 'w' => Numeral.decimal ((weekday + 4) % 7)
      | 'U' => number 2 ((days - dayOfNewYear year + 7 - (weekday + 4) % 7) / 7)
      | 'W' => number 2 ((days - dayOfNewYear year + 7 - (weekday + 3) % 7) / 7)
      | 'F' => part "%Y-%m-%d"
      | 'T' => part "%H:%M:%S"
      | 'R' => part "%H:%M"
      | 'D' => part "%m/%d/%y"
      | 'c' => part "%a %b %e %H:%M:%S %Y"
      | 'x' => part "%m/%d/%y"
      | 'X' => part "%H:%M:%S"
      | 'Z' => "UTC"
      | 'z' => "+0000"
      | 'n' => "\n"
      | 't' => "\t"
      | '%' => "%"
      | c => String.ofList ['%', c]
    text.toList ++ dateText time fuel rest
  | fuel + 1, c :: cs => c :: dateText time fuel cs
where
  /-- The number of days between 1970 and the beginning of a year. -/
  dayOfNewYear (year : Int) : Int :=
    let y := year - 1
    365 * (year - 1970) + (y / 4 - 492) - (y / 100 - 19) + (y / 400 - 4)

def daysOf (year month day : Int) : Int :=
  let y := if month ≤ 2 then year - 1 else year
  let era := y / 400
  let yearOfEra := y % 400
  let shifted := if month ≤ 2 then month + 9 else month - 3
  let dayOfYear := (153 * shifted + 2) / 5 + day - 1
  era * 146097 + yearOfEra * 365 + yearOfEra / 4 - yearOfEra / 100 + dayOfYear - 719468

def timeOf (year month day hour minute second : Nat) : Nat :=
  (((daysOf year month day) * 86400 + hour * 3600 + minute * 60 + second) * 1000).toNat

def numbersOf (separator : Char) (text : String) : Option (List Nat) :=
  (Text.segments separator text.toList).mapM Numeral.value?

def unitTime? (unit : String) : Option Nat :=
  match unit with
  | "sec" | "secs" | "second" | "seconds" => some 1000
  | "min" | "mins" | "minute" | "minutes" => some 60000
  | "hour" | "hours" => some 3600000
  | "day" | "days" => some 86400000
  | "week" | "weeks" => some 604800000
  | "month" | "months" => some 2678400000
  | "year" | "years" => some 31536000000
  | _ => none

def clockOf? (text : String) : Option (Nat × Nat × Nat) :=
  let text := String.ofList (text.toList.takeWhile fun c => c != '.' && c != 'Z' && c != '+')
  match numbersOf ':' text with
  | some [h, m] => some (h, m, 0)
  | some [h, m, s] => some (h, m, s)
  | _ => none

def monthLength (year month : Nat) : Nat :=
  if month = 2 then
    if year % 4 = 0 && (year % 100 ≠ 0 || year % 400 = 0) then 29 else 28
  else if [4, 6, 9, 11].contains month then 30
  else 31

def timeOfText? (now : Nat) (text : String) : Option Nat :=
  let words := Text.tokens text
  match words with
  | [] | ["now"] | ["today"] => some now
  | ["yesterday"] => some (now - 86400000)
  | ["tomorrow"] => some (now + 86400000)
  | [w] =>
    match w.toList with
    | '@' :: ds => (Numeral.value? (ds.takeWhile (· != '.'))).map (· * 1000)
    | cs =>
      match (Text.segments 'T' cs).map String.ofList with
      | [d] => dayAt? d "00:00"
      | [d, c] => dayAt? d c
      | _ => none
  | [n, unit, "ago"] =>
    (number? n).bind fun n => (unitTime? unit).map fun u => now - n * u
  | [n, unit] =>
    match n.toList, unitTime? unit with
    | '-' :: ds, some u => (Numeral.value? ds).map fun n => now - n * u
    | '+' :: ds, some u | ds, some u => (Numeral.value? ds).map fun n => now + n * u
    | _, none => dayAt? n unit
  | [d, c, "UTC"] | [d, c, "+0000"] => dayAt? d c
  | _ => none
where
  dayAt? (day clock : String) : Option Nat :=
    let numbers :=
      if day.length = 8 && day.toList.all Char.isDigit then
        (Numeral.value? day.toList).map fun n => [n / 10000, n / 100 % 100, n % 100]
      else numbersOf '-' day
    match numbers, clockOf? clock with
    | some [y, m, d], some (h, mi, s) =>
      if 1 ≤ m && m ≤ 12 && 1 ≤ d && d ≤ monthLength y m && h < 24 && mi < 60 && s < 61 then
        some (timeOf y m d h mi s)
      else none
    | _, _ => none

def expandPrecision (a : String) : List String :=
  let text := if a.startsWith "--iso-8601" then some (a.toList.drop 10)
    else if a.startsWith "-I" then some (a.toList.drop 2)
    else none
  match text with
  | some cs => ["--precision", String.ofList (cs.dropWhile (· == '='))]
  | none => [a]

def isoFormat? (precision : String) : Option String :=
  if precision.isEmpty then some "%F"
  else
    [("date", "%F"), ("hours", "%FT%H+00:00"), ("minutes", "%FT%H:%M+00:00"),
      ("seconds", "%FT%H:%M:%S+00:00"), ("ns", "%FT%H:%M:%S,%N+00:00")].findSome? fun p =>
        if p.1.startsWith precision then some p.2 else none

def date : Utility := fun arguments =>
  let options : Options :=
    { flags := "uR", valued := "dr"
      long := [("utc", "u", false), ("universal", "u", false), ("date", "d", true),
        ("rfc-email", "R", false), ("reference", "r", true), ("precision", "precision", true)] }
  let arguments := arguments.take 1 ++ (arguments.drop 1).flatMap expandPrecision
  withOptions options 1 arguments fun name a => do
    let s ← get
    let now := s.disk.time
    let time : Except String Nat :=
      match a.value? "d", a.value? "r" with
      | some text, _ =>
        (timeOfText? now text).elim (.error ("invalid date " ++ quoteName text)) .ok
      | none, some path =>
        match s.node path with
        | .ok node => .ok node.stamp.time
        | .error f => .error (path ++ ": " ++ f.systemText)
      | none, none => .ok now
    match time, (a.value? "precision").map isoFormat?, a.operands with
    | .error complaint, _, _ =>
      complainAs name complaint
      pure 1
    | _, some none, _ =>
      misuse name ("invalid argument " ++ quoteName ((a.value? "precision").getD "") ++ " for " ++
        quoteName "--iso-8601")
    | _, _, _ :: extra :: _ => misuse name ("extra operand " ++ quoteName extra)
    | .ok time, precision, operands =>
      let format? : Option String :=
        match operands.head? with
        | some f => if f.startsWith "+" then some (String.ofList (f.toList.drop 1)) else none
        | none =>
          some (match precision with
            | some format => format.getD ""
            | none =>
              if a.has "R" then "%a, %d %b %Y %H:%M:%S %z" else "%a %b %e %H:%M:%S %Z %Y")
      match format? with
      | some format =>
        print (String.ofList (dateText time (format.length + 20) format.toList) ++ "\n")
        pure 0
      | none =>
        complainAs name ("invalid date " ++ quoteName (operands.head?.getD ""))
        pure 1

end Utility
end FeatureRunner
