import FeatureRunner.Shell.Format
import FeatureRunner.Utility.Digest

/-!
This module contains the utilities that write bytes in other ways: as numbers, as names or in an
alphabet of 64 letters, and those that pass on blocks of bytes. It serves the outer layer, where
commands start programs; no result is about it.
-/

namespace FeatureRunner
namespace Utility

open Shell

/-! ### Numbers -/

inductive DumpStyle where
  | chars (named : Bool)
  | numbers (base size : Nat) (signed : Bool)

def charNames : Array String :=
  #["nul", "soh", "stx", "etx", "eot", "enq", "ack", "bel", "bs", "ht", "nl", "vt", "ff", "cr",
    "so", "si", "dle", "dc1", "dc2", "dc3", "dc4", "nak", "syn", "etb", "can", "em", "sub",
    "esc", "fs", "gs", "rs", "us", "sp"]

def digitsIn (base width n : Nat) : String :=
  let digits := Nat.toDigits base n
  String.ofList (List.replicate (width - digits.length) '0' ++ digits)

def digitCount (base size : Nat) : Nat :=
  (Nat.toDigits base (Nat.pow 256 size - 1)).length

namespace DumpStyle

def size : DumpStyle → Nat
  | chars _ => 1
  | numbers _ size _ => size

def width : DumpStyle → Nat
  | chars _ => 4
  | numbers base size signed =>
    digitCount base size + 1 + if signed then 1 else 0

def text (style : DumpStyle) (bytes : List UInt8) : String :=
  match style with
  | chars named =>
    let n := (bytes.head?.getD 0).toNat
    let c := Char.ofNat n
    if named then
      let n := n % 128
      if n = 127 then "del" else (charNames[n]?).getD (Char.ofNat n).toString
    else
      match c with
      | '\x00' => "\\0"
      | '\x07' => "\\a"
      | '\x08' => "\\b"
      | '\t' => "\\t"
      | '\n' => "\\n"
      | '\x0b' => "\\v"
      | '\x0c' => "\\f"
      | '\r' => "\\r"
      | c => if isPrintable c then c.toString else digitsIn 8 3 n
  | numbers base size signed =>
    let n := Digest.number bytes.reverse
    if signed then
      let all := Nat.pow 256 size
      if 2 * n ≥ all then "-" ++ Numeral.decimal (all - n) else Numeral.decimal n
    else if base = 10 then Numeral.decimal n
    else digitsIn base (digitCount base size) n

def line (style : DumpStyle) (cell : Nat) (bytes : List UInt8) : String :=
  String.join ((Digest.inBlocks (bytes.length + 1) style.size bytes).map fun b =>
    padLeft (max style.width (cell * style.size)) (style.text b))

end DumpStyle

def dumpStyles (fuel : Nat) : List Char → Option (List (DumpStyle × Bool))
  | [] => some []
  | c :: rest =>
    match fuel with
    | 0 => none
    | fuel + 1 =>
      let digits := rest.takeWhile Char.isDigit
      let behind := rest.drop digits.length
      let (size, behind) : Option Nat × List Char :=
        match Numeral.value? digits, behind with
        | some n, behind => (some n, behind)
        | none, 'C' :: behind => (some 1, behind)
        | none, 'S' :: behind => (some 2, behind)
        | none, 'I' :: behind => (some 4, behind)
        | none, 'L' :: behind => (some 8, behind)
        | none, behind => (none, behind)
      let shows := behind.head? == some 'z'
      let behind := if shows then behind.drop 1 else behind
      let add (s : DumpStyle) := (dumpStyles fuel behind).map ((s, shows) :: ·)
      let n := size.getD 4
      if n = 0 || 8 < n then none
      else
        match c with
        | 'a' => add (.chars true)
        | 'c' => add (.chars false)
        | 'x' => add (.numbers 16 n false)
        | 'o' => add (.numbers 8 n false)
        | 'u' => add (.numbers 10 n false)
        | 'd' => add (.numbers 10 n true)
        | _ => none

def dumpLines (styles : List (DumpStyle × Bool)) (cell width : Nat) (address : Nat → String)
    (keepsAll : Bool) (place : Nat) (last : Option (List UInt8)) (isGap : Bool)
    : List (List UInt8) → List String
  | [] => []
  | bytes :: rest =>
    let next := place + bytes.length
    if !keepsAll && last = some bytes && !rest.isEmpty then
      (if isGap then [] else ["*"]) ++
        dumpLines styles cell width address keepsAll next last true rest
    else
      let front := address place
      let shown := styles.mapIdx fun i (style, shows) =>
        (if i = 0 then front else String.ofList (List.replicate front.length ' ')) ++
          style.line cell bytes ++
          if shows then
            String.ofList (List.replicate
              ((width - bytes.length) * max (style.width / style.size) cell) ' ') ++ "  >" ++
              String.ofList (bytes.map fun b =>
                let c := Char.ofNat b.toNat
                if isPrintable c then c else '.') ++ "<"
          else ""
      shown ++ dumpLines styles cell width address keepsAll next (some bytes) false rest

def od : Utility := fun arguments =>
  let letters : List (Char × String) :=
    [('a', "a"), ('b', "o1"), ('c', "c"), ('d', "u2"), ('i', "d4"), ('l', "d8"), ('o', "o2"),
     ('s', "d2"), ('x', "x2")]
  let options : Options :=
    { flags := "abcdilosxv", valued := "AtNjw"
      long := [("format", "t", true), ("address-radix", "A", true), ("read-bytes", "N", true),
        ("skip-bytes", "j", true), ("width", "w", true), ("output-duplicates", "v", false)] }
  withOptions options 1 arguments fun name a => do
    let formats := a.options.filterMap fun (key, value) =>
      if key = "t" then some value
      else
        match key.toList with
        | [c] => letters.lookup c
        | _ => none
    let format := if formats.isEmpty then "o2" else String.join formats
    match dumpStyles (format.length + 1) format.toList with
    | none =>
      complainAs name ("invalid type string " ++ quote format)
      pure 1
    | some styles =>
      let mut bytes : List UInt8 := []
      let mut status := 0
      for path in inputs a do
        match ← contentOf path with
        | .ok cs => bytes := bytes ++ bytesOf cs
        | .error f =>
          complainAs name (quoteSpecial path ++ ": " ++ f.systemText)
          status := 1
      let skipped := ((a.value? "j").bind byteCount?).getD 0
      bytes := bytes.drop skipped
      if let some n := (a.value? "N").bind byteCount? then bytes := bytes.take n
      let width := ((a.value? "w").bind number?).getD 16
      let address (n : Nat) : String :=
        match a.value? "A" with
        | some "n" => ""
        | some "x" => digitsIn 16 6 n
        | some "d" => digitsIn 10 7 n
        | _ => digitsIn 8 7 n
      let cell := (styles.map fun s => (s.1.width + s.1.size - 1) / s.1.size).foldl max 0
      let cell := if styles.length = 1 then 0 else cell
      let lines := dumpLines styles cell width address (a.has "v") skipped none false
        (Digest.inBlocks (bytes.length + 1) width bytes)
      let last := address (skipped + bytes.length)
      if status = 0 || !bytes.isEmpty then
        print (joinLines ((lines ++ if last.isEmpty then [] else [last]).map String.toList))
      pure status

/-! ### Letters -/

def letters64 : Array Char :=
  "ABCDEFGHIJKLMNOPQRSTUVWXYZabcdefghijklmnopqrstuvwxyz0123456789+/".toList.toArray

def encode64 : List UInt8 → List Char
  | [] => []
  | [a] => letter (a.toNat / 4) :: letter (a.toNat % 4 * 16) :: ['=', '=']
  | [a, b] =>
    letter (a.toNat / 4) :: letter (a.toNat % 4 * 16 + b.toNat / 16) ::
      letter (b.toNat % 16 * 4) :: ['=']
  | a :: b :: c :: rest =>
    letter (a.toNat / 4) :: letter (a.toNat % 4 * 16 + b.toNat / 16) ::
      letter (b.toNat % 16 * 4 + c.toNat / 64) :: letter (c.toNat % 64) :: encode64 rest
where
  letter (n : Nat) : Char := letters64.getD n '='

def decode64 : List Char → List Char × Bool
  | [] => ([], true)
  | [a, b, '=', '='] =>
    match value a, value b with
    | some x, some y => ([byte (x * 4 + y / 16)], true)
    | _, _ => ([], false)
  | [a, b, c, '='] =>
    match value a, value b, value c with
    | some x, some y, some z => ([byte (x * 4 + y / 16), byte (y % 16 * 16 + z / 4)], true)
    | _, _, _ => ([], false)
  | a :: b :: c :: d :: rest =>
    match value a, value b, value c, value d with
    | some x, some y, some z, some w =>
      let (cs, ok) := decode64 rest
      (byte (x * 4 + y / 16) :: byte (y % 16 * 16 + z / 4) :: byte (z % 4 * 64 + w) :: cs, ok)
    | some x, some y, some z, none => ([byte (x * 4 + y / 16), byte (y % 16 * 16 + z / 4)], false)
    | some x, some y, none, _ => ([byte (x * 4 + y / 16)], false)
    | _, _, _, _ => ([], false)
  | _ => ([], false)
where
  value (c : Char) : Option Nat := letters64.toList.findIdx? (· == c)
  byte (n : Nat) : Char := Char.ofNat (n % 256)

def brokenLines (fuel width : Nat) (cs : List Char) : List Char :=
  match fuel with
  | 0 => []
  | fuel + 1 =>
    if cs.isEmpty then []
    else cs.take width ++ '\n' :: brokenLines fuel width (cs.drop width)

def base64 : Utility := fun arguments =>
  let options : Options :=
    { flags := "di", valued := "w"
      long := [("decode", "d", false), ("ignore-garbage", "i", false), ("wrap", "w", true)] }
  withOptions options 1 arguments fun name a => do
    match a.operands, ((a.value? "w").map number?).getD (some 76) with
    | _ :: extra :: _, _ => misuse name ("extra operand " ++ quoteName extra)
    | _, none =>
      complainAs name ("invalid wrap size: " ++ quote ((a.value? "w").getD ""))
      pure 1
    | _, some width =>
      forEachInput name a fun _ cs => do
        if a.has "d" then
          let cs := cs.filter fun c =>
            c != '\n' && (!a.has "i" || c == '=' || letters64.contains c)
          let (text, ok) := decode64 cs
          print (String.ofList text)
          unless ok do complainAs name "invalid input"
          pure ok
        else
          let text := encode64 (bytesOf cs)
          print (String.ofList
            (if width = 0 then text else brokenLines (text.length + 1) width text))
          pure true

/-! ### Blocks -/

def yes : Utility := fun arguments => do
  let words := arguments.drop 1
  let words := if words.head? = some "--" then words.drop 1 else words
  let line := (if words.isEmpty then "y" else Text.joinStrings ' ' words) ++ "\n"
  print (String.join (List.replicate (pipeSize / line.length + 1) line))
  pure 1

def operand? (operands : List String) (key : String) : Option String :=
  operands.findSome? fun o =>
    if o.startsWith (key ++ "=") then some (String.ofList (o.toList.drop (key.length + 1)))
    else none

def dd : Utility := fun arguments => do
  let name := arguments.head?.getD ""
  let operands := arguments.drop 1
  let keys := ["if", "of", "bs", "count", "skip", "seek", "status", "conv", "ibs", "obs"]
  match operands.find? fun o => !keys.any fun k => o.startsWith (k ++ "=") with
  | some bad => misuse name ("unrecognized operand " ++ quote bad)
  | none =>
    let size (key : String) : Option Nat := (operand? operands key).bind byteCount?
    let block := max 1 ((size "bs").getD ((size "ibs").getD 512))
    let limit := (size "count").map (· * block)
    let skip := (size "skip").getD 0 * block
    let read (descriptor : Nat) : Action (Except IoFault (List Char)) := do
      let (r, s) := (← get).take descriptor (limit.map (· + skip))
      set s
      pure r
    match ← withInput ((operand? operands "if").getD "-") read with
    | .error f =>
      complainAs name ("failed to open " ++ quoteName ((operand? operands "if").getD "") ++ ": " ++
        f.systemText)
      pure 1
    | .ok cs =>
      let cs := cs.drop skip
      let upper := (operand? operands "conv").any fun c => c = "ucase"
      let lower := (operand? operands "conv").any fun c => c = "lcase"
      let text := String.ofList
        (if upper then cs.map Char.toUpper else if lower then cs.map Char.toLower else cs)
      let keeps := (operand? operands "conv").any fun c => c = "notrunc"
      let written : Except IoFault Unit ←
        match operand? operands "of" with
        | none => .ok <$> print text
        | some path =>
          match ← openOutput path { writes := true } (!keeps) false with
          | .error f => pure (.error f)
          | .ok i =>
            modify (·.bind 63 i)
            write 63 text
            modify (·.rebind 63 none)
            pure (.ok ())
      match written with
      | .error f =>
        complainAs name ("failed to open " ++ quoteName ((operand? operands "of").getD "") ++ ": " ++
          f.systemText)
        pure 1
      | .ok () =>
        let count := Numeral.decimal (cs.length / block) ++ "+" ++
          if cs.length % block = 0 then "0" else "1"
        unless operand? operands "status" = some "none" do
          complain (count ++ " records in\n" ++ count ++ " records out")
          unless operand? operands "status" = some "noxfer" do
            complain (Numeral.decimal cs.length ++ " bytes copied, 0 s, 0 B/s")
        pure 0

end Utility
end FeatureRunner
