import FeatureRunner.Shell.Format
import FeatureRunner.Utility.Lines
import FeatureRunner.Utility.Numbers

/-!
This module contains the utilities that work on the fields of lines, replace bytes and bring lines
into order. It serves the outer layer, where commands start programs; no result is about it.
-/

namespace FeatureRunner
namespace Utility

open Shell

/-! ### Parts of lines -/

abbrev Span := Nat × Option Nat

def readSpans (isFields : Bool) (text : String) : Except String (List Span) :=
  (Text.segments ',' text.toList).mapM fun piece => do
    let number (ds : List Char) : Except String Nat :=
      match Numeral.value? ds with
      | some 0 =>
        .error (if isFields then "fields are numbered from 1"
          else "byte/character positions are numbered from 1")
      | some n => .ok n
      | none =>
        .error ((if isFields then "invalid field value "
          else "invalid byte/character position ") ++ quote (String.ofList piece))
    match Text.segments '-' piece with
    | [a] => do
      let n ← number a
      pure (n, some n)
    | [[], []] => .error "invalid range with no endpoint: -"
    | [a, []] => do pure (← number a, none)
    | [[], b] => do pure (1, some (← number b))
    | [a, b] => do
      let m ← number a
      let n ← number b
      if n < m then .error "invalid decreasing range" else pure (m, some n)
    | _ => .error ((if isFields then "invalid field range" else
        "invalid byte or character range"))

def isInSpans (spans : List Span) (n : Nat) : Bool :=
  spans.any fun (first, last) => first ≤ n && last.all (n ≤ ·)

def numbered (keeps : Nat → Bool) (xs : List α) : List α :=
  (xs.zipIdx.filter fun x => keeps (x.2 + 1)).map (·.1)

def cut : Utility := fun arguments =>
  let options : Options :=
    { flags := "snz", valued := "bcdf"
      long := [("bytes", "b", true), ("characters", "c", true), ("delimiter", "d", true),
        ("fields", "f", true), ("only-delimited", "s", false), ("complement", "not", false),
        ("output-delimiter", "o", true)] }
  withOptions options 1 arguments fun name a => do
    let lists := a.options.filter fun o => o.1 = "b" || o.1 = "c" || o.1 = "f"
    let delimiter := (a.value? "d").getD "\t"
    match lists with
    | [] => misuse name "you must specify a list of bytes, characters, or fields"
    | _ :: _ :: _ => misuse name "only one list may be specified"
    | [(key, list)] =>
      let isFields := key = "f"
      match readSpans isFields list with
      | .error complaint => misuse name complaint
      | .ok spans =>
        if !isFields && a.has "d" then
          misuse name "an input delimiter may be specified only when operating on fields"
        else if delimiter.length > 1 then misuse name "the delimiter must be a single character"
        else
          let separator := (delimiter.toList.head?).getD '\x00'
          let joint := ((a.value? "o").getD (if isFields then delimiter else "")).toList
          let keeps (n : Nat) : Bool := isInSpans spans n != a.has "not"
          let cutLine (line : List Char) : Option (List Char) :=
            if isFields then
              let fields := Text.segments separator line
              if fields.length = 1 then if a.has "s" then none else some line
              else some (((numbered keeps fields).intersperse joint).flatten)
            else some (numbered keeps line)
          forEachInput name a fun _ cs => do
            print (joinLines ((linesOf cs).filterMap cutLine))
            pure true

/-! ### Bytes -/

def classBytes (name : String) : List Char :=
  ((List.range 256).map Char.ofNat).filter (isInClass name)

/-- An item of a set of bytes that is written out: bytes, or a byte that is repeated. -/
inductive TrItem where
  | bytes (cs : List Char)
  | fill (c : Char)

def trByte : List Char → Option (Char × List Char)
  | [] => none
  | ['\\'] => some ('\\', [])
  | '\\' :: cs =>
    let (c, rest) := escapeAt cs
    match c, cs with
    | '\\', d :: rest' => if d = '\\' then some ('\\', rest) else some (d, rest')
    | c, _ => some (c, rest)
  | c :: cs => some (c, cs)

def trItems (fuel : Nat) (cs : List Char) : Except String (List TrItem) :=
  match fuel with
  | 0 => .ok []
  | fuel + 1 =>
    let plain : Except String (List TrItem) :=
      match trByte cs with
      | none => .ok []
      | some (c, '-' :: rest) =>
        match trByte rest with
        | none => do pure (.bytes [c] :: (← trItems fuel ('-' :: rest)))
        | some (d, rest') =>
          if d < c then
            .error ("range-endpoints of " ++ quote (String.ofList [c, '-', d]) ++
              " are in reverse collating sequence order")
          else do
            let range := (List.range (d.toNat - c.toNat + 1)).map fun i => Char.ofNat (c.toNat + i)
            pure (.bytes range :: (← trItems fuel rest'))
      | some (c, rest) => do pure (.bytes [c] :: (← trItems fuel rest))
    match cs with
    | '[' :: ':' :: rest =>
      let name := String.ofList (rest.takeWhile Char.isAlpha)
      match rest.drop name.length with
      | ':' :: ']' :: rest =>
        if classNames.contains name then do
          pure (.bytes (classBytes name) :: (← trItems fuel rest))
        else .error ("invalid character class " ++ quote name)
      | _ => plain
    | '[' :: '=' :: c :: '=' :: ']' :: rest => do pure (.bytes [c] :: (← trItems fuel rest))
    | '[' :: rest =>
      match trByte rest with
      | some (c, '*' :: rest) =>
        let digits := rest.takeWhile Char.isDigit
        match rest.drop digits.length with
        | ']' :: rest =>
          let n := if digits.head? = some '0' then octalValue digits else
            (Numeral.value? digits).getD 0
          if n = 0 then do pure (.fill c :: (← trItems fuel rest))
          else do pure (.bytes (List.replicate n c) :: (← trItems fuel rest))
        | _ => plain
      | _ => plain
    | _ => plain

def trBytes (length : Nat) (items : List TrItem) : List Char :=
  let fixed := (items.map fun
    | .bytes cs => cs.length
    | .fill _ => 0).foldl (· + ·) 0
  items.flatMap fun
    | .bytes cs => cs
    | .fill c => List.replicate (length - fixed) c

def squeeze (set : Char → Bool) (cs : List Char) : List Char :=
  (cs.foldl (fun acc c =>
    match acc with
    | d :: _ => if c = d && set c then acc else c :: acc
    | [] => [c]) []).reverse

def tr : Utility := fun arguments =>
  let options : Options :=
    { flags := "cCdst", inOrder := true
      long := [("complement", "c", false), ("delete", "d", false),
        ("squeeze-repeats", "s", false), ("truncate-set1", "t", false)] }
  withOptions options 1 arguments fun name a => do
    let deletes := a.has "d"
    let squeezes := a.has "s"
    let needed := if deletes = squeezes then 2 else 1
    let most := if deletes && !squeezes then 1 else 2
    match a.operands with
    | [] => misuse name "missing operand"
    | operands =>
      if operands.length < needed then
        complainAs name ("missing operand after " ++ quote ((operands.getLast?).getD ""))
        complain (if deletes then
          "Two strings must be given when both deleting and squeezing repeats."
          else "Two strings must be given when translating.")
        tryHelp name
        pure 1
      else if operands.length > most then
        complainAs name ("extra operand " ++ quote ((operands[most]?).getD ""))
        if most = 1 then
          complain "Only one string may be given when deleting without squeezing repeats."
        tryHelp name
        pure 1
      else
        let items (text : String) := trItems (text.length + 1) text.toList
        match items (operands.head?.getD ""), items ((operands[1]?).getD "") with
        | .error complaint, _ | _, .error complaint =>
          complainAs name complaint
          pure 1
        | .ok first, .ok second =>
          let set1 := trBytes 0 first
          let complement := a.has "c" || a.has "C"
          let set1 :=
            if complement then
              ((List.range 256).map Char.ofNat).filter fun c => !set1.contains c
            else set1
          let set2 := trBytes set1.length second
          let translates := !deletes && operands.length = 2
          if translates && set2.isEmpty && !a.has "t" then
            complainAs name "when not truncating set1, string2 must be non-empty"
            pure 1
          else
            let filled :=
              if a.has "t" then set2
              else set2 ++ List.replicate (set1.length - set2.length)
                ((set2.getLast?).getD '\x00')
            -- the last of several places of a byte counts
            let table : Array Char := (set1.zip filled).foldl (fun t (c, d) =>
              t.set! c.toNat d) ((Array.range 256).map Char.ofNat)
            let (r, s) := (← get).take 0 none
            set s
            match r with
            | .error f =>
              complainAs name ("read error: " ++ f.systemText)
              pure 1
            | .ok cs =>
              let isIn (set : List Char) : Char → Bool :=
                let marks := set.foldl (fun (m : Array Bool) c => m.set! c.toNat true)
                  (Array.replicate 256 false)
                fun c => (marks[c.toNat]?).getD false
              let inSet1 := isIn set1
              let cs := if deletes then cs.filter fun c => !inSet1 c else cs
              let cs := if translates then cs.map fun c => (table[c.toNat]?).getD c else cs
              let cs :=
                if squeezes then
                  squeeze (isIn (if operands.length = 2 then set2 else set1)) cs
                else cs
              print (String.ofList cs)
              pure 0

/-! ### Order -/

structure SortKey where
  firstField : Nat := 0
  firstChar : Nat := 0
  lastField : Option Nat := none
  lastChar : Nat := 0
  options : List Char := []

def readPosition (cs : List Char) : Option (Nat × Option Nat × List Char) :=
  let field := cs.takeWhile Char.isDigit
  let rest := cs.drop field.length
  let (char, rest) : Option Nat × List Char :=
    match rest with
    | '.' :: rest =>
      let ds := rest.takeWhile Char.isDigit
      (Numeral.value? ds, rest.drop ds.length)
    | rest => (none, rest)
  (Numeral.value? field).map fun n => (n, char, rest)

def readKey (text : String) : Except String SortKey :=
  let (start, stop) : List Char × Option (List Char) :=
    match Text.segments ',' text.toList with
    | [a] => (a, none)
    | a :: b :: _ => (a, some b)
    | [] => ([], none)
  match readPosition start with
  | none =>
    .error ("invalid number at field start: invalid count at start of " ++
      quote (String.ofList start))
  | some (0, _, _) =>
    .error ("field number is zero: invalid field specification " ++ quote text)
  | some (f, c, options) =>
    let first : SortKey := { firstField := f - 1, firstChar := c.getD 1 - 1, options }
    match stop with
    | none => .ok first
    | some b =>
      match readPosition b with
      | none =>
        .error ("invalid number after ',': invalid count at start of " ++
          quote (String.ofList b))
      | some (l, c, more) =>
        .ok { first with lastField := some l, lastChar := c.getD 0, options := options ++ more }

def sortFields (separator : Option Char) (line : List Char) : List (List Char) :=
  match separator with
  | some c => Text.segments c line
  | none => go (line.length + 1) line
where
  go (fuel : Nat) (cs : List Char) : List (List Char) :=
    match fuel, cs with
    | 0, _ | _, [] => []
    | fuel + 1, cs =>
      let blanks := cs.takeWhile fun c => c == ' ' || c == '\t'
      let word := (cs.drop blanks.length).takeWhile fun c => c != ' ' && c != '\t'
      (blanks ++ word) :: go fuel (cs.drop (blanks.length + word.length))

def keyOf (separator : Option Char) (k : SortKey) (line : List Char) : List Char :=
  let fields := sortFields separator line
  let joint : List Char := separator.toList
  let join (fs : List (List Char)) : List Char := (fs.intersperse joint).flatten
  let skips := k.options.contains 'b'
  let dropBlanks (cs : List Char) : List Char :=
    if skips then cs.dropWhile fun c => c == ' ' || c == '\t' else cs
  match k.lastField with
  | none => (dropBlanks (join (fields.drop k.firstField))).drop k.firstChar
  | some l =>
    let inside := (fields.take l).drop k.firstField
    if k.lastChar = 0 then (dropBlanks (join inside)).drop k.firstChar
    else
      let before := join (inside.dropLast)
      let joint := if inside.length > 1 then joint else []
      let last := dropBlanks ((inside.getLast?).getD [])
      (dropBlanks (before ++ joint ++ last.take k.lastChar)).drop k.firstChar

def leadingNumber (units : Bool) (cs : List Char) : Nat × DecimalFraction :=
  let cs := cs.dropWhile fun c => c == ' ' || c == '\t'
  let (negative, cs) :=
    match cs with
    | '-' :: cs => (true, cs)
    | cs => (false, cs)
  let whole := cs.takeWhile Char.isDigit
  let rest := cs.drop whole.length
  let behind :=
    match rest with
    | '.' :: ds => ds.takeWhile Char.isDigit
    | _ => []
  let n := (Numeral.value? (whole ++ behind)).getD 0
  let unit := rest.drop (if behind.isEmpty then 0 else behind.length + 1)
  let rank :=
    if !units then 0
    else ((unit.head?).bind fun u => ['K', 'M', 'G', 'T', 'P', 'E'].findIdx? (· == u.toUpper)).elim
      0 (· + 1)
  (rank, ⟨if negative then -(n : Int) else n, behind.length⟩)

def compareNumbers (a b : Nat × DecimalFraction) : Ordering :=
  let places := max a.2.places b.2.places
  let m := a.2.scaledTo places
  let n := b.2.scaledTo places
  if m < 0 || n < 0 || a.1 = b.1 then Ord.compare m n else Ord.compare a.1 b.1

def compareBytes (a b : List Char) : Ordering :=
  match a, b with
  | [], [] => .eq
  | [], _ => .lt
  | _, [] => .gt
  | c :: cs, d :: ds => if c = d then compareBytes cs ds else Ord.compare c.toNat d.toNat

def monthOf (cs : List Char) : Nat :=
  let front := ((cs.dropWhile isSpace).take 3).map Char.toUpper
  ((monthNames.findIdx? fun m => (m.toList.take 3).map Char.toUpper == front).map (· + 1)).getD 0

def compareVersions (fuel : Nat) (a b : List Char) : Ordering :=
  match fuel with
  | 0 => compareBytes a b
  | fuel + 1 =>
    match a, b with
    | [], [] => .eq
    | [], _ => .lt
    | _, [] => .gt
    | c :: cs, d :: ds =>
      if c.isDigit && d.isDigit then
        let m := a.takeWhile Char.isDigit
        let n := b.takeWhile Char.isDigit
        match Ord.compare ((Numeral.value? m).getD 0) ((Numeral.value? n).getD 0) with
        | .eq => compareVersions fuel (a.drop m.length) (b.drop n.length)
        | o => o
      else if c = d then compareVersions fuel cs ds
      else
        let rank (c : Char) : Nat :=
          if c = '~' then 0 else if c.isDigit then 1 else if c.isAlpha then 256 + c.toNat
            else 1024 + c.toNat
        Ord.compare (rank c) (rank d)

def compareKeys (options : List Char) (a b : List Char) : Ordering :=
  let prepare (cs : List Char) : List Char :=
    let cs := if options.contains 'd' then cs.filter fun c => c.isAlphanum || c == ' ' || c == '\t'
      else cs
    let cs := if options.contains 'i' then cs.filter isPrintable else cs
    if options.contains 'f' then cs.map Char.toUpper else cs
  let order : Ordering :=
    if options.contains 'n' || options.contains 'g' then
      compareNumbers (leadingNumber false a) (leadingNumber false b)
    else if options.contains 'h' then
      compareNumbers (leadingNumber true a) (leadingNumber true b)
    else if options.contains 'M' then Ord.compare (monthOf a) (monthOf b)
    else if options.contains 'V' then compareVersions (a.length + b.length + 1) a b
    else compareBytes (prepare a) (prepare b)
  if options.contains 'r' then order.swap else order

def sort : Utility := fun arguments =>
  let options : Options :=
    { flags := "nrufbdighMVscCmzR", valued := "ktoST"
      long := [("numeric-sort", "n", false), ("reverse", "r", false), ("unique", "u", false),
        ("ignore-case", "f", false), ("key", "k", true), ("field-separator", "t", true),
        ("output", "o", true), ("check", "c", false), ("stable", "s", false),
        ("version-sort", "V", false), ("human-numeric-sort", "h", false),
        ("ignore-leading-blanks", "b", false), ("merge", "m", false)] }
  withOptions options 2 arguments fun name a => do
    let globals := "nrfbdighMV".toList.filter fun c => a.has c.toString
    match (a.values "k").mapM readKey, (a.value? "t").getD "x" with
    | .error complaint, _ =>
      complainAs name complaint
      pure 2
    | .ok keys, tab =>
      if tab.length > 1 && tab ≠ "\\0" then
        complainAs name ("multi-character tab " ++ quote tab)
        pure 2
      else if tab.isEmpty then
        complainAs name "empty tab"
        pure 2
      else
        let separator := if a.has "t" then tab.toList.head? else none
        let inherits (k : SortKey) : SortKey :=
          if k.options.any (· != 'b') then k else { k with options := k.options ++ globals }
        let keys := keys.map inherits
        let byKeys (x y : List Char) : Ordering :=
          if keys.isEmpty then
            let skip (cs : List Char) : List Char :=
              if globals.contains 'b' then cs.dropWhile fun c => c == ' ' || c == '\t' else cs
            compareKeys globals (skip x) (skip y)
          else
            keys.foldl (fun o k =>
              o.then (compareKeys k.options (keyOf separator k x) (keyOf separator k y))) .eq
        let order (x y : List Char) : Ordering :=
          match byKeys x y with
          | .eq =>
            if a.has "s" || a.has "u" then .eq
            else if a.has "r" then (compareBytes x y).swap
            else compareBytes x y
          | o => o
        let missing ← (inputs a).filterMapM fun path => do
          if path = "-" || (descriptorOf? path).isSome then pure none
          else
            match (← get).find path with
            | .ok _ => pure none
            | .error f => pure (some (path, f))
        match missing with
        | (path, f) :: _ =>
          complainAs name ("cannot read: " ++ quoteSpecial path ++ ": " ++ f.systemText)
          pure 2
        | [] =>
          let contents ← (inputs a).mapM fun path => do pure (path, ← contentOf path)
          match contents.findSome? fun (path, r) => match r with
              | .error f => some (path, f)
              | .ok _ => none with
          | some (path, f) =>
            complainAs name ("read failed: " ++ quoteSpecial path ++ ": " ++ f.systemText)
            pure 2
          | none =>
            let ending := if a.has "z" then '\x00' else '\n'
            let lines := contents.flatMap fun c => linesBy ending (c.2.toOption.getD [])
            if a.has "c" || a.has "C" then
              let bad := (lines.zip (lines.drop 1)).zipIdx.find? fun ((x, y), _) =>
                let o := order x y
                o == .gt || (a.has "u" && o == .eq)
              match bad with
              | none => pure 0
              | some ((_, y), i) =>
                unless a.has "C" do
                  complainAs name (((inputs a).head?.getD "-") ++ ":" ++ Numeral.decimal (i + 2) ++
                    ": disorder: " ++ String.ofList y)
                pure 1
            else
              let sorted := lines.mergeSort fun x y => order x y != .gt
              let sorted :=
                if a.has "u" then
                  (sorted.foldl (fun acc l =>
                    match acc with
                    | m :: _ => if byKeys m l = .eq then acc else l :: acc
                    | [] => [l]) []).reverse
                else sorted
              match a.value? "o" with
              | none =>
                print (joinBy ending sorted)
                pure 0
              | some path =>
                match ← openOutput path { writes := true } true false with
                | .error f =>
                  complainAs name ("open failed: " ++ quoteSpecial path ++ ": " ++ f.systemText)
                  pure 2
                | .ok i =>
                  modify (·.bind 63 i)
                  write 63 (joinBy ending sorted)
                  modify (·.rebind 63 none)
                  pure 0

/-! ### Repeated lines -/

def lineRuns (key : List Char → List Char) (lines : List (List Char))
    : List (List (List Char)) :=
  (lines.foldl (fun (runs : List (List (List Char))) l =>
    match runs with
    | (m :: ms) :: rest => if key m = key l then (l :: m :: ms) :: rest else [l] :: runs
    | runs => [l] :: runs) []).reverse.map List.reverse

def uniq : Utility := fun arguments =>
  let options : Options :=
    { flags := "cduiDz", valued := "fsw"
      long := [("count", "c", false), ("repeated", "d", false), ("unique", "u", false),
        ("ignore-case", "i", false), ("skip-fields", "f", true), ("skip-chars", "s", true),
        ("check-chars", "w", true)] }
  withOptions options 1 arguments fun name a => do
    match a.operands with
    | _ :: _ :: extra :: _ => misuse name ("extra operand " ++ quote extra)
    | operands =>
      let path := operands.head?.getD "-"
      match ← contentOf path with
      | .error f =>
        complainAs name (quoteSpecial path ++ ": " ++ f.systemText)
        pure 1
      | .ok cs =>
        let value (key : String) : Nat := ((a.value? key).bind number?).getD 0
        let isBlank (c : Char) : Bool := c == ' ' || c == '\t'
        let rec skipFields : Nat → List Char → List Char
          | 0, cs => cs
          | n + 1, cs => skipFields n ((cs.dropWhile isBlank).dropWhile fun c => !isBlank c)
        let key (l : List Char) : List Char :=
          let l := (skipFields (value "f") l).drop (value "s")
          let l := if a.has "w" then l.take (value "w") else l
          if a.has "i" then l.map Char.toLower else l
        let runs := lineRuns key (linesOf cs)
        let chosen := runs.filter fun r =>
          (!a.has "d" && !a.has "D" || r.length > 1) && (!a.has "u" || r.length = 1)
        let lines : List (List Char) :=
          if a.has "D" then chosen.flatten
          else
            chosen.filterMap fun r =>
              r.head?.map fun l =>
                if a.has "c" then (padLeft 7 (Numeral.decimal r.length)).toList ++ ' ' :: l else l
        match operands[1]? with
        | none =>
          print (joinLines lines)
          pure 0
        | some target =>
          match ← openOutput target { writes := true } true false with
          | .error f =>
            complainAs name (quoteSpecial target ++ ": " ++ f.systemText)
            pure 1
          | .ok i =>
            modify (·.bind 63 i)
            write 63 (joinLines lines)
            modify (·.rebind 63 none)
            pure 0

def commLines (fuel : Nat) (xs ys : List (List Char)) : List (Nat × List Char) :=
  match fuel, xs, ys with
  | 0, _, _ | _, [], [] => []
  | _, xs, [] => xs.map (1, ·)
  | _, [], ys => ys.map (2, ·)
  | fuel + 1, x :: xs, y :: ys =>
    match compareBytes x y with
    | .eq => (3, x) :: commLines fuel xs ys
    | .lt => (1, x) :: commLines fuel xs (y :: ys)
    | .gt => (2, y) :: commLines fuel (x :: xs) ys

def comm : Utility := fun arguments =>
  withOptions { flags := "123" } 1 arguments fun name a => do
    match a.operands with
    | [] => misuse name "missing operand"
    | [only] => misuse name ("missing operand after " ++ quote only)
    | p :: q :: _ =>
      match ← contentOf p, ← contentOf q with
      | .error f, _ =>
        complainAs name (quoteSpecial p ++ ": " ++ f.systemText)
        pure 1
      | _, .error f =>
        complainAs name (quoteSpecial q ++ ": " ++ f.systemText)
        pure 1
      | .ok cs, .ok ds =>
        let xs := linesOf cs
        let ys := linesOf ds
        let shows (n : Nat) : Bool := !a.has (Numeral.decimal n)
        let lines := (commLines (xs.length + ys.length + 1) xs ys).filter fun l => shows l.1
        let indent (n : Nat) : List Char :=
          List.replicate (((List.range n).filter fun i => i ≠ 0 && shows i).length) '\t'
        print (joinLines (lines.map fun (n, l) => indent n ++ l))
        pure 0

end Utility
end FeatureRunner
