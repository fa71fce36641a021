import Courier.Bytes

/-!
# SHA-1

The digest by which a WebSocket server shows that it has read the key of a handshake.  A message
is padded to whole blocks of sixty-four octets, and eighty rounds per block turn five words into
five others.
-/

namespace Courier.Sha1

/-- The five words of a digest under way. -/
structure Words where
  /-- First word. -/
  a : UInt32
  /-- Second word. -/
  b : UInt32
  /-- Third word. -/
  c : UInt32
  /-- Fourth word. -/
  d : UInt32
  /-- Fifth word. -/
  e : UInt32
deriving DecidableEq, Repr

/-- The words every digest starts from. -/
def Words.start : Words :=
  ⟨0x67452301, 0xEFCDAB89, 0x98BADCFE, 0x10325476, 0xC3D2E1F0⟩

/-- A word rotated to the left. -/
def rotate (word count : UInt32) : UInt32 := (word <<< count) ||| (word >>> (32 - count))

/-- A message followed by a one bit, zero bits and its length in bits. -/
def pad (message : Bytes) : Bytes :=
  let zeros := (119 - message.length % 64) % 64
  message ++ 0x80 :: List.replicate zeros 0 ++ Bytes.bigEndian 8 (message.length * 8)

/-- The words of a block. -/
def wordsOf : Bytes → List UInt32
  | a :: b :: c :: d :: rest =>
    ((a.toUInt32 <<< 24) ||| (b.toUInt32 <<< 16) ||| (c.toUInt32 <<< 8) ||| d.toUInt32)
      :: wordsOf rest
  | _ => []

/-- The words that the rounds use, latest first, from those of the block, latest first. -/
def schedule : Nat → List UInt32 → List UInt32
  | 0, words => words
  | count + 1, words =>
    let word (back : Nat) : UInt32 := words.getD (back - 1) 0
    schedule count (rotate (word 3 ^^^ word 8 ^^^ word 14 ^^^ word 16) 1 :: words)

/-- The mixing function and constant of a round. -/
def mix (round : Nat) (b c d : UInt32) : UInt32 × UInt32 :=
  if round < 20 then ((b &&& c) ||| (~~~b &&& d), 0x5A827999)
  else if round < 40 then (b ^^^ c ^^^ d, 0x6ED9EBA1)
  else if round < 60 then ((b &&& c) ||| (b &&& d) ||| (c &&& d), 0x8F1BBCDC)
  else (b ^^^ c ^^^ d, 0xCA62C1D6)

def Words.round (words : Words) (step : Nat × UInt32) : Words :=
  let (mixed, constant) := mix step.1 words.b words.c words.d
  ⟨rotate words.a 5 + mixed + words.e + constant + step.2, words.a, rotate words.b 30, words.c,
    words.d⟩

/-- The digest after one more block. -/
def Words.block (words : Words) (block : Bytes) : Words :=
  let steps := (schedule 64 (wordsOf block).reverse).reverse
  let mixed := ((List.range 80).zip steps).foldl Words.round words
  ⟨words.a + mixed.a, words.b + mixed.b, words.c + mixed.c, words.d + mixed.d, words.e + mixed.e⟩

/-- The digest after a number of blocks. -/
def Words.blocks (words : Words) : Nat → Bytes → Words
  | 0, _ => words
  | count + 1, bytes => (words.block (bytes.take 64)).blocks count (bytes.drop 64)

/-- The twenty octets of a digest. -/
def Words.bytes (words : Words) : Bytes :=
  [words.a, words.b, words.c, words.d, words.e].flatMap fun word => Bytes.bigEndian 4 word.toNat

def digest (message : Bytes) : Bytes :=
  let padded := pad message
  (Words.start.blocks (padded.length / 64) padded).bytes

end Courier.Sha1
