import FeatureRunner.Utility.Lines

/-!
This module contains the utilities that reduce texts to short numbers. The digests take blocks of 64
bytes: the text, a one bit, zeros and the number of bits of the text. It serves the outer layer,
where commands start programs; no result is about it.
-/

namespace FeatureRunner
namespace Utility

open Shell

namespace Digest

def byteOf (c : Char) : UInt8 := c.val.toUInt8

def littleBytes (count n : Nat) : List UInt8 :=
  (List.range count).map fun i => UInt8.ofNat (n / Nat.pow 256 i)

def padded (block size : Nat) (bigEnd : Bool) (text : List UInt8) : List UInt8 :=
  let length := text.length
  let zeros := (2 * block - size - 1 - length % block) % block
  let count := littleBytes size (8 * length)
  text ++ 0x80 :: (List.replicate zeros 0 ++ if bigEnd then count.reverse else count)

def inBlocks (fuel size : Nat) (bytes : List UInt8) : List (List UInt8) :=
  match fuel with
  | 0 => []
  | fuel + 1 =>
    if bytes.isEmpty then []
    else bytes.take size :: inBlocks fuel size (bytes.drop size)

def number (bytes : List UInt8) : Nat :=
  bytes.foldl (fun n b => 256 * n + b.toNat) 0

def words (size : Nat) (bigEnd : Bool) (block : List UInt8) : Array Nat :=
  ((inBlocks block.length size block).map fun w =>
    number (if bigEnd then w else w.reverse)).toArray

def hex (bytes : List UInt8) : String :=
  let digit (n : Nat) : Char := if n < 10 then Char.ofNat (48 + n) else Char.ofNat (87 + n)
  String.ofList (bytes.flatMap fun b => [digit (b.toNat / 16), digit (b.toNat % 16)])

def rotateLeft (x : UInt32) (n : UInt32) : UInt32 := (x <<< n) ||| (x >>> (32 - n))

def rotateRight (x : UInt32) (n : UInt32) : UInt32 := (x >>> n) ||| (x <<< (32 - n))

def words32 (bigEnd : Bool) (block : List UInt8) : Array UInt32 :=
  (words 4 bigEnd block).map UInt32.ofNat

/-! ### Four words -/

def turns : Array UInt32 :=
  let rounds : List (List UInt32) :=
    [[7, 12, 17, 22], [5, 9, 14, 20], [4, 11, 16, 23], [6, 10, 15, 21]]
  (rounds.flatMap fun r => (List.replicate 4 r).flatten).toArray

def sines : Array UInt32 :=
  #[0xd76aa478, 0xe8c7b756, 0x242070db, 0xc1bdceee, 0xf57c0faf, 0x4787c62a, 0xa8304613,
    0xfd469501, 0x698098d8, 0x8b44f7af, 0xffff5bb1, 0x895cd7be, 0x6b901122, 0xfd987193,
    0xa679438e, 0x49b40821, 0xf61e2562, 0xc040b340, 0x265e5a51, 0xe9b6c7aa, 0xd62f105d,
    0x02441453, 0xd8a1e681, 0xe7d3fbc8, 0x21e1cde6, 0xc33707d6, 0xf4d50d87, 0x455a14ed,
    0xa9e3e905, 0xfcefa3f8, 0x676f02d9, 0x8d2a4c8a, 0xfffa3942, 0x8771f681, 0x6d9d6122,
    0xfde5380c, 0xa4beea44, 0x4bdecfa9, 0xf6bb4b60, 0xbebfbc70, 0x289b7ec6, 0xeaa127fa,
    0xd4ef3085, 0x04881d05, 0xd9d4d039, 0xe6db99e5, 0x1fa27cf8, 0xc4ac5665, 0xf4292244,
    0x432aff97, 0xab9423a7, 0xfc93a039, 0x655b59c3, 0x8f0ccc92, 0xffeff47d, 0x85845dd1,
    0x6fa87e4f, 0xfe2ce6e0, 0xa3014314, 0x4e0811a1, 0xf7537e82, 0xbd3af235, 0x2ad7d2bb,
    0xeb86d391]

def md5Block (h : UInt32 × UInt32 × UInt32 × UInt32) (block : List UInt8)
    : UInt32 × UInt32 × UInt32 × UInt32 :=
  let m := words32 false block
  let (a, b, c, d) := (List.range 64).foldl (fun (a, b, c, d) i =>
    let (f, g) : UInt32 × Nat :=
      if i < 16 then ((b &&& c) ||| (~~~b &&& d), i)
      else if i < 32 then ((d &&& b) ||| (~~~d &&& c), (5 * i + 1) % 16)
      else if i < 48 then (b ^^^ c ^^^ d, (3 * i + 5) % 16)
      else (c ^^^ (b ||| ~~~d), 7 * i % 16)
    (d, b + rotateLeft (a + f + sines.getD i 0 + m.getD g 0) (turns.getD i 0), b, c)) h
  (h.1 + a, h.2.1 + b, h.2.2.1 + c, h.2.2.2 + d)

def md5 (text : List UInt8) : List UInt8 :=
  let bytes := padded 64 8 false text
  let (a, b, c, d) := (inBlocks (bytes.length + 1) 64 bytes).foldl md5Block
    (0x67452301, 0xefcdab89, 0x98badcfe, 0x10325476)
  [a, b, c, d].flatMap fun w => littleBytes 4 w.toNat

/-! ### Five words -/

def expanded (count : Nat) (next : Array UInt32 → Nat → UInt32) (block : List UInt8)
    : Array UInt32 :=
  (List.range (count - 16)).foldl (fun w i => w.push (next w (i + 16))) (words32 true block)

def sha1Block (h : Array UInt32) (block : List UInt8) : Array UInt32 :=
  let w := expanded 80 (fun w i => rotateLeft (w.getD (i - 3) 0 ^^^ w.getD (i - 8) 0 ^^^
    w.getD (i - 14) 0 ^^^ w.getD (i - 16) 0) 1) block
  let (a, b, c, d, e) := (List.range 80).foldl (fun (a, b, c, d, e) i =>
    let (f, k) : UInt32 × UInt32 :=
      if i < 20 then ((b &&& c) ||| (~~~b &&& d), 0x5a827999)
      else if i < 40 then (b ^^^ c ^^^ d, 0x6ed9eba1)
      else if i < 60 then ((b &&& c) ||| (b &&& d) ||| (c &&& d), 0x8f1bbcdc)
      else (b ^^^ c ^^^ d, 0xca62c1d6)
    (rotateLeft a 5 + f + e + k + w.getD i 0, a, rotateLeft b 30, c, d))
    (h.getD 0 0, h.getD 1 0, h.getD 2 0, h.getD 3 0, h.getD 4 0)
  (h.zip #[a, b, c, d, e]).map fun (x, y) => x + y

def sha1 (text : List UInt8) : List UInt8 :=
  let bytes := padded 64 8 true text
  ((inBlocks (bytes.length + 1) 64 bytes).foldl sha1Block
    #[0x67452301, 0xefcdab89, 0x98badcfe, 0x10325476, 0xc3d2e1f0]).toList.flatMap fun w =>
      (littleBytes 4 w.toNat).reverse

/-! ### Eight words -/

def roots : Array UInt32 :=
  #[0x428a2f98, 0x71374491, 0xb5c0fbcf, 0xe9b5dba5, 0x3956c25b, 0x59f111f1, 0x923f82a4,
    0xab1c5ed5, 0xd807aa98, 0x12835b01, 0x243185be, 0x550c7dc3, 0x72be5d74, 0x80deb1fe,
    0x9bdc06a7, 0xc19bf174, 0xe49b69c1, 0xefbe4786, 0x0fc19dc6, 0x240ca1cc, 0x2de92c6f,
    0x4a7484aa, 0x5cb0a9dc, 0x76f988da, 0x983e5152, 0xa831c66d, 0xb00327c8, 0xbf597fc7,
    0xc6e00bf3, 0xd5a79147, 0x06ca6351, 0x14292967, 0x27b70a85, 0x2e1b2138, 0x4d2c6dfc,
    0x53380d13, 0x650a7354, 0x766a0abb, 0x81c2c92e, 0x92722c85, 0xa2bfe8a1, 0xa81a664b,
    0xc24b8b70, 0xc76c51a3, 0xd192e819, 0xd6990624, 0xf40e3585, 0x106aa070, 0x19a4c116,
    0x1e376c08, 0x2748774c, 0x34b0bcb5, 0x391c0cb3, 0x4ed8aa4a, 0x5b9cca4f, 0x682e6ff3,
    0x748f82ee, 0x78a5636f, 0x84c87814, 0x8cc70208, 0x90befffa, 0xa4506ceb, 0xbef9a3f7,
    0xc67178f2]

def sha256Block (h : Array UInt32) (block : List UInt8) : Array UInt32 :=
  let w := expanded 64 (fun w i =>
    let x := w.getD (i - 15) 0
    let y := w.getD (i - 2) 0
    let s := rotateRight x 7 ^^^ rotateRight x 18 ^^^ (x >>> 3)
    let t := rotateRight y 17 ^^^ rotateRight y 19 ^^^ (y >>> 10)
    w.getD (i - 16) 0 + s + w.getD (i - 7) 0 + t) block
  let v := (List.range 64).foldl (fun (v : Array UInt32) i =>
    let g (j : Nat) : UInt32 := v.getD j 0
    let s := rotateRight (g 4) 6 ^^^ rotateRight (g 4) 11 ^^^ rotateRight (g 4) 25
    let choice := (g 4 &&& g 5) ^^^ (~~~(g 4) &&& g 6)
    let t := g 7 + s + choice + roots.getD i 0 + w.getD i 0
    let r := rotateRight (g 0) 2 ^^^ rotateRight (g 0) 13 ^^^ rotateRight (g 0) 22
    let majority := (g 0 &&& g 1) ^^^ (g 0 &&& g 2) ^^^ (g 1 &&& g 2)
    #[t + r + majority, g 0, g 1, g 2, g 3 + t, g 4, g 5, g 6]) h
  (h.zip v).map fun (x, y) => x + y

def sha256 (text : List UInt8) : List UInt8 :=
  let bytes := padded 64 8 true text
  ((inBlocks (bytes.length + 1) 64 bytes).foldl sha256Block
    #[0x6a09e667, 0xbb67ae85, 0x3c6ef372, 0xa54ff53a, 0x510e527f, 0x9b05688c, 0x1f83d9ab,
      0x5be0cd19]).toList.flatMap fun w => (littleBytes 4 w.toNat).reverse

/-! ### Remainders -/

def remainderStep (sum : UInt32) (byte : UInt8) : UInt32 :=
  (List.range 8).foldl (fun (s : UInt32) _ =>
    if s &&& 0x80000000 ≠ 0 then (s <<< 1) ^^^ 0x04c11db7 else s <<< 1)
    (sum ^^^ (byte.toUInt32 <<< 24))

def lengthBytes (fuel n : Nat) : List UInt8 :=
  match fuel with
  | 0 => []
  | fuel + 1 => if n = 0 then [] else UInt8.ofNat n :: lengthBytes fuel (n / 256)

def remainder (text : List UInt8) : UInt32 :=
  ~~~((text ++ lengthBytes 10 text.length).foldl remainderStep 0)

def rotatedSum (text : List UInt8) : Nat :=
  text.foldl (fun s b => (s / 2 + s % 2 * 32768 + b.toNat) % 65536) 0

end Digest

def bytesOf (cs : List Char) : List UInt8 := cs.map Digest.byteOf

def checkDigests (name : String) (digest : List UInt8 → List UInt8) (a : Arguments)
    (cs : List Char) : Action Nat := do
  let mut wrong := 0
  let mut unread := 0
  for line in linesOf cs do
    let sum := line.takeWhile (· != ' ')
    let path := String.ofList (line.drop (sum.length + 2))
    match ← contentOf path with
    | .ok text =>
      let ok := Digest.hex (digest (bytesOf text)) = String.ofList (sum.map Char.toLower)
      unless ok do wrong := wrong + 1
      if !a.has "s" && !(ok && a.has "q") then
        print (path ++ (if ok then ": OK" else ": FAILED") ++ "\n")
    | .error f =>
      unread := unread + 1
      complainAs name (path ++ ": " ++ f.systemText)
      unless a.has "s" do print (path ++ ": FAILED open or read\n")
  let warn (n : Nat) (one many : String) : Action Unit := do
    if n ≠ 0 && !a.has "s" then
      complainAs name ("WARNING: " ++ Numeral.decimal n ++ if n = 1 then one else many)
  warn unread " listed file could not be read" " listed files could not be read"
  warn wrong " computed checksum did NOT match" " computed checksums did NOT match"
  pure (if wrong + unread = 0 then 0 else 1)

def digesting (digest : List UInt8 → List UInt8) : Utility := fun arguments =>
  let options : Options :=
    { flags := "btcwz"
      long := [("binary", "b", false), ("text", "t", false), ("check", "c", false),
        ("quiet", "q", false), ("status", "s", false), ("tag", "tag", false),
        ("warn", "w", false)] }
  withOptions options 1 arguments fun name a =>
    forEachInput name a fun path cs => do
      if a.has "c" then pure ((← checkDigests name digest a cs) == 0)
      else
        print (Digest.hex (digest (bytesOf cs)) ++ (if a.has "b" then " *" else "  ") ++
          path ++ "\n")
        pure true

def inputName (a : Arguments) (path : String) : String :=
  if a.operands.isEmpty then "" else " " ++ path

def cksum : Utility := fun arguments =>
  withOptions {} 1 arguments fun name a =>
    forEachInput name a fun path cs => do
      print (Numeral.decimal (Digest.remainder (bytesOf cs)).toNat ++ " " ++
        Numeral.decimal cs.length ++ inputName a path ++ "\n")
      pure true

def sum : Utility := fun arguments =>
  withOptions { flags := "r" } 1 arguments fun name a =>
    forEachInput name a fun path cs => do
      print (zeros 5 (Digest.rotatedSum (bytesOf cs)) ++ " " ++
        padLeft 5 (Numeral.decimal ((cs.length + 1023) / 1024)) ++ inputName a path ++ "\n")
      pure true

end Utility
end FeatureRunner
