/-!
# FitProfile.Fingerprint.XxHash64 -- a 64-bit hash of bytes

The xxHash64 function with seed zero. Stripes of 32 bytes feed four lanes, which are then
merged; the bytes that are left follow in words of eight, four and one bytes. Words are
little-endian, and all arithmetic is modulo `2 ^ 64`.
-/

namespace FitProfile.XxHash64

def prime1 : UInt64 := 0x9E3779B185EBCA87
def prime2 : UInt64 := 0xC2B2AE3D27D4EB4F
def prime3 : UInt64 := 0x165667B19E3779F9
def prime4 : UInt64 := 0x85EBCA77C2B2AE63
def prime5 : UInt64 := 0x27D4EB2F165667C5

/-- Rotates a word to the left. -/
def rotateLeft (x k : UInt64) : UInt64 := (x <<< k) ||| (x >>> (64 - k))

/-- The byte at a place as a word; zero behind the end. -/
def byteAt (data : ByteArray) (i : Nat) : UInt64 :=
  if h : i < data.size then (data.get i h).toUInt64 else 0

/-- The little-endian word of `count` bytes at a place. -/
def wordAt (data : ByteArray) (i count : Nat) : UInt64 :=
  (List.range count).foldl (fun word k => word ||| (byteAt data (i + k) <<< (8 * k).toUInt64)) 0

/-- Takes a word into a lane. -/
def round (lane word : UInt64) : UInt64 := rotateLeft (lane + word * prime2) 31 * prime1

/-- The four lanes of the hash. -/
structure Lanes where
  first : UInt64
  second : UInt64
  third : UInt64
  fourth : UInt64
  deriving DecidableEq, Repr

namespace Lanes

/-- The lanes at the start. -/
def start : Lanes := ⟨prime1 + prime2, prime2, 0, 0 - prime1⟩

/-- Takes the stripe at a place into the lanes. -/
def stripe (lanes : Lanes) (data : ByteArray) (i : Nat) : Lanes :=
  ⟨round lanes.first (wordAt data i 8), round lanes.second (wordAt data (i + 8) 8),
   round lanes.third (wordAt data (i + 16) 8), round lanes.fourth (wordAt data (i + 24) 8)⟩

/-- Merges a lane into the hash. -/
def merge (hash lane : UInt64) : UInt64 := (hash ^^^ round 0 lane) * prime1 + prime4

/-- The four lanes as one word. -/
def combined (lanes : Lanes) : UInt64 :=
  let sum := rotateLeft lanes.first 1 + rotateLeft lanes.second 7 + rotateLeft lanes.third 12 +
    rotateLeft lanes.fourth 18
  merge (merge (merge (merge sum lanes.first) lanes.second) lanes.third) lanes.fourth

end Lanes

/-- Takes a word of eight bytes into the hash. -/
def takeEight (hash word : UInt64) : UInt64 :=
  rotateLeft (hash ^^^ round 0 word) 27 * prime1 + prime4

/-- Takes a word of four bytes into the hash. -/
def takeFour (hash word : UInt64) : UInt64 :=
  rotateLeft (hash ^^^ (word * prime1)) 23 * prime2 + prime3

/-- Takes one byte into the hash. -/
def takeOne (hash byte : UInt64) : UInt64 := rotateLeft (hash ^^^ (byte * prime5)) 11 * prime1

/-- Spreads the bits of the hash. -/
def avalanche (hash : UInt64) : UInt64 :=
  let hash := (hash ^^^ (hash >>> 33)) * prime2
  let hash := (hash ^^^ (hash >>> 29)) * prime3
  hash ^^^ (hash >>> 32)

/-- The hash of bytes. -/
def hash (data : ByteArray) : UInt64 :=
  let size := data.size
  let stripes := size / 32
  let lanes := (List.range stripes).foldl (fun l i => l.stripe data (32 * i)) Lanes.start
  let begun := if stripes = 0 then prime5 else lanes.combined
  let rest := 32 * stripes
  let eights := (size - rest) / 8
  let byEight := (List.range eights).foldl
    (fun h i => takeEight h (wordAt data (rest + 8 * i) 8)) (begun + size.toUInt64)
  let rest := rest + 8 * eights
  let fours := (size - rest) / 4
  let byFour := (List.range fours).foldl
    (fun h i => takeFour h (wordAt data (rest + 4 * i) 4)) byEight
  let rest := rest + 4 * fours
  let byOne := (List.range (size - rest)).foldl
    (fun h i => takeOne h (byteAt data (rest + i))) byFour
  avalanche byOne

end FitProfile.XxHash64
