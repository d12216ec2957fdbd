/-!
# The 64-bit XXH3 hash

Seedless XXH3 over a byte list, with the default 192-byte secret. The five length classes of the
algorithm (empty, 1–3, 4–8, 9–16, 17–128, 129–240 bytes and longer) are separate functions, and
`hash64` selects among them. Words are read little endian, and a read past the end of the bytes sees
zeros; each length class only reads inside its input.
-/

namespace RpcContracts
namespace Hash
namespace Xxh3

/-- The default secret that keys every read of the input. -/
def secret : List UInt8 :=
  [0xb8, 0xfe, 0x6c, 0x39, 0x23, 0xa4, 0x4b, 0xbe, 0x7c, 0x01, 0x81, 0x2c, 0xf7, 0x21, 0xad, 0x1c,
   0xde, 0xd4, 0x6d, 0xe9, 0x83, 0x90, 0x97, 0xdb, 0x72, 0x40, 0xa4, 0xa4, 0xb7, 0xb3, 0x67, 0x1f,
   0xcb, 0x79, 0xe6, 0x4e, 0xcc, 0xc0, 0xe5, 0x78, 0x82, 0x5a, 0xd0, 0x7d, 0xcc, 0xff, 0x72, 0x21,
   0xb8, 0x08, 0x46, 0x74, 0xf7, 0x43, 0x24, 0x8e, 0xe0, 0x35, 0x90, 0xe6, 0x81, 0x3a, 0x26, 0x4c,
   0x3c, 0x28, 0x52, 0xbb, 0x91, 0xc3, 0x00, 0xcb, 0x88, 0xd0, 0x65, 0x8b, 0x1b, 0x53, 0x2e, 0xa3,
   0x71, 0x64, 0x48, 0x97, 0xa2, 0x0d, 0xf9, 0x4e, 0x38, 0x19, 0xef, 0x46, 0xa9, 0xde, 0xac, 0xd8,
   0xa8, 0xfa, 0x76, 0x3f, 0xe3, 0x9c, 0x34, 0x3f, 0xf9, 0xdc, 0xbb, 0xc7, 0xc7, 0x0b, 0x4f, 0x1d,
   0x8a, 0x51, 0xe0, 0x4b, 0xcd, 0xb4, 0x59, 0x31, 0xc8, 0x9f, 0x7e, 0xc9, 0xd9, 0x78, 0x73, 0x64,
   0xea, 0xc5, 0xac, 0x83, 0x34, 0xd3, 0xeb, 0xc3, 0xc5, 0x81, 0xa0, 0xff, 0xfa, 0x13, 0x63, 0xeb,
   0x17, 0x0d, 0xdd, 0x51, 0xb7, 0xf0, 0xda, 0x49, 0xd3, 0x16, 0x55, 0x26, 0x29, 0xd4, 0x68, 0x9e,
   0x2b, 0x16, 0xbe, 0x58, 0x7d, 0x47, 0xa1, 0xfc, 0x8f, 0xf8, 0xb8, 0xd1, 0x7a, 0xd0, 0x31, 0xce,
   0x45, 0xcb, 0x3a, 0x8f, 0x95, 0x16, 0x04, 0x28, 0xaf, 0xd7, 0xfb, 0xca, 0xbb, 0x4b, 0x40, 0x7e]

/-- The first 32-bit prime of the algorithm. -/
def prime32₁ : UInt64 := 0x9E3779B1

/-- The second 32-bit prime of the algorithm. -/
def prime32₂ : UInt64 := 0x85EBCA77

/-- The third 32-bit prime of the algorithm. -/
def prime32₃ : UInt64 := 0xC2B2AE3D

/-- The first 64-bit prime of the algorithm. -/
def prime64₁ : UInt64 := 0x9E3779B185EBCA87

/-- The second 64-bit prime of the algorithm. -/
def prime64₂ : UInt64 := 0xC2B2AE3D27D4EB4F

/-- The third 64-bit prime of the algorithm. -/
def prime64₃ : UInt64 := 0x165667B19E3779F9

/-- The fourth 64-bit prime of the algorithm. -/
def prime64₄ : UInt64 := 0x85EBCA77C2B2AE63

/-- The fifth 64-bit prime of the algorithm. -/
def prime64₅ : UInt64 := 0x27D4EB2F165667C5

/-- The little-endian number a byte list spells. -/
def littleEndian : List UInt8 → UInt64
  | [] => 0
  | byte :: rest => byte.toUInt64 ||| (littleEndian rest <<< 8)

/-- The 64-bit word at a byte offset. -/
def word64 (bytes : List UInt8) (offset : Nat) : UInt64 :=
  littleEndian ((bytes.drop offset).take 8)

/-- The 32-bit word at a byte offset. -/
def word32 (bytes : List UInt8) (offset : Nat) : UInt64 :=
  littleEndian ((bytes.drop offset).take 4)

/-- Rotate a word to the left by a distance between 1 and 63. -/
def rotateLeft (word : UInt64) (distance : UInt64) : UInt64 :=
  (word <<< distance) ||| (word >>> (64 - distance))

/-- Reverse the bytes of a word. -/
def swapBytes (word : UInt64) : UInt64 :=
  (List.range 8).foldl
    (fun swapped index => (swapped <<< 8) ||| ((word >>> (8 * index.toUInt64)) &&& 0xff)) 0

/-- Multiply two words to 128 bits and fold the halves together. -/
def foldedProduct (left right : UInt64) : UInt64 :=
  let product := left.toNat * right.toNat
  UInt64.ofNat product ^^^ UInt64.ofNat (product >>> 64)

/-- The final mixing used for the shortest inputs. -/
def shortAvalanche (word : UInt64) : UInt64 :=
  let word := (word ^^^ (word >>> 33)) * prime64₂
  let word := (word ^^^ (word >>> 29)) * prime64₃
  word ^^^ (word >>> 32)

/-- The final mixing used from nine bytes on. -/
def avalanche (word : UInt64) : UInt64 :=
  let word := (word ^^^ (word >>> 37)) * 0x165667919E3779F9
  word ^^^ (word >>> 32)

/-- The final mixing used for four to eight bytes. -/
def lengthAvalanche (word length : UInt64) : UInt64 :=
  let word := (word ^^^ rotateLeft word 49 ^^^ rotateLeft word 24) * 0x9FB21C651E98DF25
  let word := (word ^^^ ((word >>> 35) + length)) * 0x9FB21C651E98DF25
  word ^^^ (word >>> 28)

/-- Hash of the empty input. -/
def hashEmpty : UInt64 :=
  shortAvalanche (word64 secret 56 ^^^ word64 secret 64)

/-- Hash of one to three bytes. -/
def hashUpTo3 (bytes : List UInt8) : UInt64 :=
  let length := bytes.length
  let first := (bytes.headD 0).toUInt64
  let middle := (bytes.getD (length / 2) 0).toUInt64
  let last := (bytes.getD (length - 1) 0).toUInt64
  let combined := (first <<< 16) ||| (middle <<< 24) ||| last ||| (length.toUInt64 <<< 8)
  shortAvalanche (combined ^^^ (word32 secret 0 ^^^ word32 secret 4))

/-- Hash of four to eight bytes. -/
def hashUpTo8 (bytes : List UInt8) : UInt64 :=
  let length := bytes.length
  let combined := word32 bytes (length - 4) + (word32 bytes 0 <<< 32)
  lengthAvalanche (combined ^^^ (word64 secret 8 ^^^ word64 secret 16)) length.toUInt64

/-- Hash of nine to sixteen bytes. -/
def hashUpTo16 (bytes : List UInt8) : UInt64 :=
  let length := bytes.length
  let low := word64 bytes 0 ^^^ (word64 secret 24 ^^^ word64 secret 32)
  let high := word64 bytes (length - 8) ^^^ (word64 secret 40 ^^^ word64 secret 48)
  avalanche (length.toUInt64 + swapBytes low + high + foldedProduct low high)

/-- Mix sixteen bytes of the input with sixteen bytes of the secret. -/
def mix16 (bytes : List UInt8) (offset secretOffset : Nat) : UInt64 :=
  foldedProduct (word64 bytes offset ^^^ word64 secret secretOffset)
    (word64 bytes (offset + 8) ^^^ word64 secret (secretOffset + 8))

/-- Hash of 17 to 128 bytes: pairs of sixteen-byte blocks from both ends. -/
def hashUpTo128 (bytes : List UInt8) : UInt64 :=
  let length := bytes.length
  let pairs := (length - 1) / 32 + 1
  let accumulated := (List.range pairs).foldl
    (fun total pair =>
      total + mix16 bytes (16 * pair) (32 * pair)
        + mix16 bytes (length - 16 * (pair + 1)) (32 * pair + 16))
    (length.toUInt64 * prime64₁)
  avalanche accumulated

/-- Hash of 129 to 240 bytes: eight keyed blocks, then the remaining ones under a shifted secret. -/
def hashUpTo240 (bytes : List UInt8) : UInt64 :=
  let length := bytes.length
  let leading := (List.range 8).foldl
    (fun total block => total + mix16 bytes (16 * block) (16 * block))
    (length.toUInt64 * prime64₁)
  let trailing := (List.range (length / 16 - 8)).foldl
    (fun total block => total + mix16 bytes (16 * (block + 8)) (16 * block + 3))
    (avalanche leading)
  avalanche (trailing + mix16 bytes (length - 16) 119)

/-- Eight running totals, one per 64-bit lane of a stripe. -/
abbrev Lanes := List UInt64

/-- The lanes before any input is read. -/
def initialLanes : Lanes :=
  [prime32₃, prime64₁, prime64₂, prime64₃, prime64₄, prime32₂, prime64₅, prime32₁]

/-- Add one stripe of 64 bytes: each word joins its neighbour's lane, each keyed product its own. -/
def accumulate (lanes : Lanes) (stripe : List UInt8) (secretOffset : Nat) : Lanes :=
  lanes.mapIdx fun (lane : Nat) (total : UInt64) =>
    let neighbour := if lane % 2 = 0 then lane + 1 else lane - 1
    let keyed := word64 stripe (8 * lane) ^^^ word64 secret (secretOffset + 8 * lane)
    total + word64 stripe (8 * neighbour) +
      (keyed &&& (0xffffffff : UInt64)) * (keyed >>> (32 : UInt64))

/-- Scramble the lanes after a full block of sixteen stripes. -/
def scramble (lanes : Lanes) : Lanes :=
  lanes.mapIdx fun (lane : Nat) (total : UInt64) =>
    ((total ^^^ (total >>> (47 : UInt64))) ^^^ word64 secret (128 + 8 * lane)) * prime32₁

/-- Read `count` stripes, the secret advancing by eight bytes per stripe. -/
def accumulateStripes (lanes : Lanes) (bytes : List UInt8) (count : Nat) : Lanes :=
  ((List.range count).foldl
    (fun (state : Lanes × List UInt8) stripe =>
      (accumulate state.1 (state.2.take 64) (8 * stripe), state.2.drop 64))
    (lanes, bytes)).1

/-- Read `count` full blocks of 1024 bytes. -/
def accumulateBlocks : Nat → Lanes → List UInt8 → Lanes × List UInt8
  | 0, lanes, bytes => (lanes, bytes)
  | count + 1, lanes, bytes =>
      accumulateBlocks count (scramble (accumulateStripes lanes bytes 16)) (bytes.drop 1024)

/-- Fold the lanes into one word. -/
def mergeLanes (lanes : Lanes) (start : UInt64) : UInt64 :=
  avalanche ((List.range 4).foldl
    (fun total pair =>
      total + foldedProduct
        (lanes.getD (2 * pair) 0 ^^^ word64 secret (11 + 16 * pair))
        (lanes.getD (2 * pair + 1) 0 ^^^ word64 secret (19 + 16 * pair)))
    start)

/-- Hash of more than 240 bytes: blocks of sixteen stripes, the rest, and the last 64 bytes. -/
def hashLong (bytes : List UInt8) : UInt64 :=
  let length := bytes.length
  let blocks := (length - 1) / 1024
  let (lanes, rest) := accumulateBlocks blocks initialLanes bytes
  let lanes := accumulateStripes lanes rest ((length - 1 - 1024 * blocks) / 64)
  let lanes := accumulate lanes (bytes.drop (length - 64)) 121
  mergeLanes lanes (length.toUInt64 * prime64₁)

/-- The XXH3 hash of a byte list. -/
def hash64 (bytes : List UInt8) : UInt64 :=
  let length := bytes.length
  if length = 0 then hashEmpty
  else if length ≤ 3 then hashUpTo3 bytes
  else if length ≤ 8 then hashUpTo8 bytes
  else if length ≤ 16 then hashUpTo16 bytes
  else if length ≤ 128 then hashUpTo128 bytes
  else if length ≤ 240 then hashUpTo240 bytes
  else hashLong bytes

/-- The hash of a text is the hash of its UTF-8 bytes. -/
def hashText (text : String) : UInt64 :=
  hash64 text.toUTF8.toList

end Xxh3
end Hash
end RpcContracts
