import FeatureRunner.Utility.Files

/-!
This module contains the utilities that pass on texts line by line: whole, in parts, numbered or in
another order. It serves the outer layer, where commands start programs; no result is about it.
-/

namespace FeatureRunner
namespace Utility

open Shell

/-! ### Whole texts -/

def shownByte (c : Char) : List Char :=
  let n := c.toNat
  let low (n : Nat) : List Char :=
    if n < 32 then ['^', Char.ofNat (n + 64)]
    else if n = 127 then ['^', '?']
    else [Char.ofNat n]
  if n < 128 then low n else 'M' :: '-' :: low (n - 128)

/-- The lines of a text as `cat` shows them with its options; `n` is the number of the line and
`blank` tells that the line before is empty. -/
def shownLines (a : Arguments) (fuel n : Nat) (blank : Bool) (cs : List Char)
    : List Char × Nat × Bool :=
  match fuel, cs with
  | 0, _ | _, [] => ([], n, blank)
  | fuel + 1, cs =>
    let line := cs.takeWhile (· != '\n')
    let rest := cs.drop (line.length + 1)
    let ended := line.length < cs.length
    if a.has "s" && blank && line.isEmpty && ended then shownLines a fuel n blank rest
    else
      let numbered := (a.has "n" && !a.has "b") || (a.has "b" && !line.isEmpty)
      let shown := line.flatMap fun c =>
        if c = '\t' then if a.has "T" then ['^', 'I'] else [c]
        else if a.has "v" then shownByte c
        else [c]
      let front := if numbered then (padLeft 6 (Numeral.decimal n)).toList ++ ['\t'] else []
      let ending := (if a.has "E" && ended then ['$'] else []) ++ if ended then ['\n'] else []
      let (text, m, blank) := shownLines a fuel (if numbered then n + 1 else n) line.isEmpty rest
      (front ++ shown ++ ending ++ text, m, blank)

def cat : Utility := fun arguments =>
  let options : Options :=
    { flags := "nbsEATvetu"
      long := [("number", "n", false), ("number-nonblank", "b", false),
        ("squeeze-blank", "s", false), ("show-ends", "E", false), ("show-all", "A", false),
        ("show-tabs", "T", false), ("show-nonprinting", "v", false)] }
  withOptions options 1 arguments fun name a => do
    let more : List (String × List String) := [("A", ["v", "E", "T"]), ("e", ["v", "E"]),
      ("t", ["v", "T"])]
    let extra := more.flatMap fun (key, keys) =>
      if a.has key then keys.map fun k => (k, "") else []
    let a := { a with options := a.options ++ extra }
    let plain := !(["n", "b", "s", "E", "T", "v"].any a.has)
    let rec go (n : Nat) (blank : Bool) (status : Nat) : List String → Action Nat
      | [] => pure status
      | path :: rest => do
        match ← contentOf path with
        | .ok cs =>
          if plain then
            print (String.ofList cs)
            if (← get).outputFault.isSome then pure 1 else go n blank status rest
          else
            let (text, n, blank) := shownLines a (cs.length + 1) n blank cs
            print (String.ofList text)
            go n blank status rest
        | .error f =>
          complainAs name (quoteSpecial path ++ ": " ++ f.systemText)
          go n blank 1 rest
    if ((← get).channel? 1).isNone then
      complainAs name "standard output: Bad file descriptor"
      pure 1
    else go 1 false 0 (inputs a)

def tee : Utility := fun arguments =>
  withOptions { flags := "aip", long := [("append", "a", false)] } 1 arguments fun name a => do
    let (r, s) := (← get).take 0 none
    set s
    let text := String.ofList (r.toOption.getD [])
    print text
    forEach a.operands fun path => do
      let use : FileUse := { writes := true, appends := a.has "a" }
      match ← openOutput path use (!a.has "a") false with
      | .error f => failing name (quoteSpecial path) f
      | .ok i =>
        let old := (← get).descriptors.lookup 63
        modify (·.bind 63 i)
        write 63 text
        modify (·.rebind 63 old)
        pure true

def tac : Utility := fun arguments =>
  withOptions {} 1 arguments fun name a => do
    forEach (inputs a) fun path => do
      match ← contentOf path with
      | .ok cs =>
        let lines := linesOf cs
        let pieces := lines.mapIdx fun i l =>
          if i + 1 = lines.length && !endsLine cs then l else l ++ ['\n']
        print (String.ofList (pieces.reverse.flatMap id))
        pure true
      | .error f =>
        failing name ("failed to open " ++ quoteName path ++ " for reading") f

def rev : Utility := fun arguments => do
  let name := arguments.head?.getD ""
  let operands := arguments.drop 1
  forEach (if operands.isEmpty then ["-"] else operands) fun path => do
    match ← contentOf path with
    | .ok cs =>
      let lines := (linesOf cs).map List.reverse
      print (String.ofList (Text.joinWith '\n' lines ++ if endsLine cs then ['\n'] else []))
      pure true
    | .error f =>
      complainAs name ("cannot open " ++ path ++ ": " ++ f.systemText)
      pure false

/-! ### Parts of texts -/

def blockSize : Nat := 8192

/-- Passes on lines from the front; what was read too much of is put back where that is possible. -/
def passLines (descriptor fuel count : Nat) : Action (Except IoFault Unit) := do
  match fuel with
  | 0 => pure (.ok ())
  | fuel + 1 =>
    if count = 0 then pure (.ok ())
    else
      let (r, s) := (← get).take descriptor (some blockSize)
      set s
      match r with
      | .error f => pure (.error f)
      | .ok [] => pure (.ok ())
      | .ok cs =>
        let (taken, left) := takeLines count cs []
        print (String.ofList taken)
        if left = 0 then
          modify (·.putBack descriptor (cs.length - taken.length))
          pure (.ok ())
        else passLines descriptor fuel left
where
  takeLines (count : Nat) (cs taken : List Char) : List Char × Nat :=
    match count, cs with
    | 0, _ => (taken.reverse, 0)
    | count, [] => (taken.reverse, count)
    | count + 1, '\n' :: cs => takeLines count cs ('\n' :: taken)
    | count + 1, c :: cs => takeLines (count + 1) cs (c :: taken)

def partSize? (text : String) : Option (Option Char × Nat) :=
  match text.toList with
  | '-' :: cs => (byteCount? (String.ofList cs)).map (some '-', ·)
  | '+' :: cs => (byteCount? (String.ofList cs)).map (some '+', ·)
  | _ => (byteCount? text).map (none, ·)

def expandNumberOption : List String → List String
  | a :: rest =>
    match a.toList with
    | '-' :: c :: cs =>
      if c.isDigit && cs.all Char.isDigit then "-n" :: String.ofList (c :: cs) :: rest
      else a :: rest
    | _ => a :: rest
  | [] => []

def headline (isFirst : Bool) (path : String) : String :=
  (if isFirst then "" else "\n") ++ "==> " ++
    (if path = "-" then "standard input" else path) ++ " <==\n"

def underHeadlines (a : Arguments) (name : String)
    (f : String → Nat → Action (Except IoFault Unit)) : Action Nat := do
  let paths := inputs a
  let shows := (paths.length > 1 || a.has "v") && !a.has "q"
  let rec go (isFirst : Bool) (status : Nat) : List String → Action Nat
    | [] => pure status
    | path :: rest => do
      let s ← get
      let opens : Except IoFault Unit :=
        if path = "-" then .ok ()
        else
          match s.find path with
          | .ok _ => .ok ()
          | .error f => if (descriptorOf? path).isSome then .ok () else .error f
      match opens with
      | .error fault =>
        complainAs name ("cannot open " ++ quoteName path ++ " for reading: " ++ fault.systemText)
        go isFirst 1 rest
      | .ok () =>
        if shows then print (headline isFirst path)
        match ← withInput path (f path) with
        | .ok () => go false status rest
        | .error fault =>
          complainAs name ("error reading " ++ quoteName path ++ ": " ++ fault.systemText)
          go false 1 rest
  go true 0 paths

def partOptions : Options :=
  { flags := "qvzfF", valued := "nc"
    long := [("lines", "n", true), ("bytes", "c", true), ("quiet", "q", false),
      ("silent", "q", false), ("verbose", "v", false)] }

def head : Utility := fun arguments =>
  let arguments := arguments.take 1 ++ expandNumberOption (arguments.drop 1)
  withOptions partOptions 1 arguments fun name a => do
    let isBytes := a.last? ["n", "c"] == some "c"
    let text := (a.value? (if isBytes then "c" else "n")).getD "10"
    match partSize? text with
    | none =>
      complainAs name ("invalid number of " ++ (if isBytes then "bytes" else "lines") ++ ": " ++
        quote text)
      pure 1
    | some (some '-', n) =>
      underHeadlines a name fun _ descriptor => do
        let (r, s) := (← get).take descriptor none
        set s
        match r with
        | .error f => pure (.error f)
        | .ok cs =>
          if isBytes then print (String.ofList (cs.take (cs.length - n)))
          else
            let lines := linesOf cs
            print (joinLines (lines.take (lines.length - n)))
          pure (.ok ())
    | some (_, n) =>
      underHeadlines a name fun _ descriptor => do
        if isBytes then
          let (r, s) := (← get).take descriptor (some n)
          set s
          match r with
          | .error f => pure (.error f)
          | .ok cs =>
            print (String.ofList cs)
            pure (.ok ())
        else passLines descriptor 1000000 n

def tail : Utility := fun arguments =>
  let plusOption : List String → List String
    | a :: rest =>
      match a.toList with
      | '+' :: c :: cs =>
        if c.isDigit && cs.all Char.isDigit then "-n" :: String.ofList ('+' :: c :: cs) :: rest
        else a :: rest
      | _ => a :: rest
    | [] => []
  let arguments := arguments.take 1 ++ plusOption (expandNumberOption (arguments.drop 1))
  withOptions partOptions 1 arguments fun name a => do
    let isBytes := a.last? ["n", "c"] == some "c"
    let text := (a.value? (if isBytes then "c" else "n")).getD "10"
    match partSize? text with
    | none =>
      complainAs name ("invalid number of " ++ (if isBytes then "bytes" else "lines") ++ ": " ++
        quote text)
      pure 1
    | some (sign, n) =>
      underHeadlines a name fun _ descriptor => do
        let (r, s) := (← get).take descriptor none
        set s
        match r with
        | .error f => pure (.error f)
        | .ok cs =>
          let count : Nat := if isBytes then cs.length else (linesOf cs).length
          let dropped := if sign = some '+' then n - 1 else count - n
          if isBytes then print (String.ofList (cs.drop dropped))
          else print (String.ofList (dropLines dropped cs))
          pure (.ok ())
where
  dropLines : Nat → List Char → List Char
    | 0, cs => cs
    | _, [] => []
    | n + 1, '\n' :: cs => dropLines n cs
    | n + 1, _ :: cs => dropLines (n + 1) cs

/-! ### Counts -/

structure Counts where
  lines : Nat := 0
  words : Nat := 0
  bytes : Nat := 0
  longest : Nat := 0

def Counts.add (c d : Counts) : Counts :=
  ⟨c.lines + d.lines, c.words + d.words, c.bytes + d.bytes, max c.longest d.longest⟩

def shownWidth (cs : List Char) : Nat :=
  cs.foldl (fun n c => if c = '\t' then n / 8 * 8 + 8 else if isPrintable c then n + 1 else n) 0

def Counts.ofChars (cs : List Char) : Counts :=
  let (lines, words, bytes, _) := cs.foldl (fun (l, w, b, inWord) c =>
    let space := isSpace c
    (if c = '\n' then l + 1 else l, if !space && !inWord then w + 1 else w, b + 1, !space))
    (0, 0, 0, false)
  ⟨lines, words, bytes, ((linesOf cs).map shownWidth).foldl max 0⟩

def wc : Utility := fun arguments =>
  let options : Options :=
    { flags := "lwcmL"
      long := [("lines", "l", false), ("words", "w", false), ("bytes", "c", false),
        ("chars", "m", false), ("max-line-length", "L", false)] }
  withOptions options 1 arguments fun name a => do
    let keys := ["l", "w", "m", "c", "L"].filter fun k =>
      a.has k || (a.options.isEmpty && (k = "l" || k = "w" || k = "c"))
    let paths := inputs a
    let s ← get
    let size? (path : String) : Option (Option Nat) :=
      if path = "-" then
        some (match s.channel? 0 with
          | some (_, .file names _ _) => (s.disk.at? names).map Node.size
          | _ => none)
      else
        match s.node path with
        | .ok n => some (if n.isFile then some n.size else none)
        | .error _ => none
    let sizes := paths.filterMap size?
    let total := (sizes.filterMap id).foldl (· + ·) 0
    let width :=
      if paths.length = 1 && keys.length = 1 then 1
      else max (Numeral.decimal total).length (if sizes.all Option.isSome then 1 else 7)
    let line (c : Counts) (path : String) : String :=
      let numbers := keys.map fun k =>
        padLeft width (Numeral.decimal
          (if k = "l" then c.lines else if k = "w" then c.words else if k = "L" then c.longest
            else c.bytes))
      String.intercalate " " numbers ++ (if path.isEmpty then "" else " " ++ path) ++ "\n"
    let rec go (sum : Counts) (status : Nat) : List String → Action (Counts × Nat)
      | [] => pure (sum, status)
      | path :: rest => do
        match ← contentOf path with
        | .ok cs =>
          let c := Counts.ofChars cs
          print (line c (if a.operands.isEmpty then "" else quoteSpecial path))
          go (sum.add c) status rest
        | .error f =>
          complainAs name (quoteSpecial path ++ ": " ++ f.systemText)
          if f = .isADirectory then print (line {} (quoteSpecial path))
          go sum 1 rest
    let (sum, status) ← go {} 0 paths
    if paths.length > 1 then print (line sum "total")
    pure status

/-! ### Numbered and joined lines -/

def nl : Utility := fun arguments =>
  let options : Options :=
    { flags := "p", valued := "bdfhilnsvw"
      long := [("body-numbering", "b", true), ("number-width", "w", true),
        ("number-separator", "s", true), ("starting-line-number", "v", true),
        ("line-increment", "i", true), ("number-format", "n", true)] }
  withOptions options 1 arguments fun name a => do
    let value (key : String) (default : Nat) : Nat := ((a.value? key).bind number?).getD default
    let width := value "w" 6
    let separator := (a.value? "s").getD "\t"
    let style := (a.value? "b").getD "t"
    let rec go (n : Nat) : List (List Char) → List Char
      | [] => []
      | line :: rest =>
        if style = "a" || (style = "t" && !line.isEmpty) then
          let digits := Numeral.decimal n
          let shown :=
            match a.value? "n" with
            | some "ln" => digits ++ String.ofList (List.replicate (width - digits.length) ' ')
            | some "rz" => zeroPadded width digits
            | _ => padLeft width digits
          (shown ++ separator).toList ++ line ++ '\n' :: go (n + value "i" 1) rest
        else
          List.replicate (width + separator.length) ' ' ++ line ++ '\n' :: go n rest
    let mut all : List Char := []
    let mut status := 0
    for path in inputs a do
      match ← contentOf path with
      | .ok cs => all := all ++ cs
      | .error f =>
        complainAs name (quoteSpecial path ++ ": " ++ f.systemText)
        status := 1
    print (String.ofList (go (value "v" 1) (linesOf all)))
    pure status
where
  zeroPadded (width : Nat) (text : String) : String :=
    String.ofList (List.replicate (width - text.length) '0') ++ text

def separatorList (fuel : Nat) (cs : List Char) : List (List Char) :=
  match fuel, cs with
  | 0, _ | _, [] => []
  | fuel + 1, '\\' :: c :: cs =>
    (match c with
      | 'n' => ['\n']
      | 't' => ['\t']
      | '0' => []
      | c => [c]) :: separatorList fuel cs
  | fuel + 1, c :: cs => [c] :: separatorList fuel cs

def joinTurns (separators : List (List Char)) (texts : List (List Char)) : List Char :=
  match texts with
  | [] => []
  | first :: rest =>
    (rest.zipIdx.foldl (fun acc (t, i) =>
      t.reverse ++ ((separators[i % separators.length]?).getD []).reverse ++ acc)
      first.reverse).reverse

def paste : Utility := fun arguments =>
  let options : Options :=
    { flags := "sz", valued := "d"
      long := [("serial", "s", false), ("delimiters", "d", true)] }
  withOptions options 1 arguments fun name a => do
    let list := ((a.value? "d").getD "\t").toList
    let separators := separatorList (list.length + 1) list
    let separators := if separators.isEmpty then [[]] else separators
    let paths := inputs a
    let shared := paths.filter (· = "-")
    let contents ← (paths.eraseDups).mapM fun path => do pure (path, ← contentOf path)
    match contents.findSome? fun (path, r) => match r with
        | .error f => some (path, f)
        | .ok _ => none with
    | some (path, f) =>
      complainAs name (quoteSpecial path ++ ": " ++ f.systemText)
      pure 1
    | none =>
      let linesAt (path : String) : List (List Char) :=
        linesOf ((contents.lookup path).bind (fun r => r.toOption) |>.getD [])
      -- lines of the input are dealt out to its places
      let columns := paths.zipIdx.map fun (path, i) =>
        let lines := linesAt path
        if path = "-" && shared.length > 1 then
          let turn := ((paths.take i).filter (· = "-")).length
          (lines.zipIdx.filter fun l => l.2 % shared.length = turn).map (·.1)
        else lines
      if a.has "s" then
        print (joinLines (columns.map (joinTurns separators)))
      else
        let height := (columns.map List.length).foldl max 0
        let rows := (List.range height).map fun i =>
          joinTurns separators (columns.map fun column => (column[i]?).getD [])
        print (joinLines rows)
      pure 0

def fold : Utility := fun arguments =>
  let options : Options :=
    { flags := "bs", valued := "w"
      long := [("width", "w", true), ("spaces", "s", false), ("bytes", "b", false)] }
  withOptions options 1 arguments fun name a => do
    let width := max 1 (((a.value? "w").bind number?).getD 80)
    forEachInput name a fun _ cs => do
      let folded := (linesOf cs).flatMap fun l => foldLine (a.has "s") width (l.length + 1) l
      let text := Text.joinWith '\n' folded
      print (String.ofList (text ++ if endsLine cs then ['\n'] else []))
      pure true
where
  foldLine (spaces : Bool) (width fuel : Nat) (line : List Char) : List (List Char) :=
    match fuel with
    | 0 => [line]
    | fuel + 1 =>
      if line.length ≤ width then [line]
      else
        let front := line.take width
        let upToSpace := (front.reverse.dropWhile (· != ' ')).reverse
        let front := if spaces && !upToSpace.isEmpty then upToSpace else front
        front :: foldLine spaces width fuel (line.drop front.length)

def expand : Utility := fun arguments =>
  withOptions { flags := "i", valued := "t", long := [("tabs", "t", true)] } 1 arguments
    fun name a => do
      let size := max 1 (((a.value? "t").bind number?).getD 8)
      forEachInput name a fun _ cs => do
        let (text, _) := cs.foldl (fun (text, column) c =>
          if c = '\t' then
            let n := size - column % size
            (List.replicate n ' ' ++ text, column + n)
          else (c :: text, if c = '\n' then 0 else column + 1)) (([] : List Char), 0)
        print (String.ofList text.reverse)
        pure true

end Utility
end FeatureRunner
