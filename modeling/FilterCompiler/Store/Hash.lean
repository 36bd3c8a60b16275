/-!
# A hash of 64 bits

The hash of a byte stream: four lanes absorb stripes of 32 bytes, the lanes and the length are mixed,
then the bytes that are left, and at last every bit is made to depend on every other (XXH64 with seed
0).
-/

namespace FilterCompiler
namespace Hash

/-- The primes of the hash. -/
def prime1 : UInt64 := 0x9E3779B185EBCA87

@[inherit_doc prime1] def prime2 : UInt64 := 0xC2B2AE3D27D4EB4F

@[inherit_doc prime1] def prime3 : UInt64 := 0x165667B19E3779F9

@[inherit_doc prime1] def prime4 : UInt64 := 0x85EBCA77C2B2AE63

@[inherit_doc prime1] def prime5 : UInt64 := 0x27D4EB2F165667C5

/-- Rotates the bits to the left; `n` is between 1 and 63. -/
def rotate (x : UInt64) (n : UInt64) : UInt64 := (x <<< n) ||| (x >>> (64 - n))

/-- The number of some bytes, the least significant one first. -/
def word : List UInt8 → UInt64
  | [] => 0
  | b :: bytes => b.toUInt64 ||| (word bytes <<< 8)

/-- A lane after one more word. -/
def absorb (lane input : UInt64) : UInt64 := rotate (lane + input * prime2) 31 * prime1

/-- The four lanes. -/
structure Lanes where
  first : UInt64
  second : UInt64
  third : UInt64
  fourth : UInt64

namespace Lanes

/-- The lanes before any byte. -/
def start : Lanes := { first := prime1 + prime2, second := prime2, third := 0, fourth := 0 - prime1 }

/-- The lanes after the first 32 of some bytes. -/
def stripe (l : Lanes) (bytes : List UInt8) : Lanes :=
  { first := absorb l.first (word (bytes.take 8))
    second := absorb l.second (word ((bytes.drop 8).take 8))
    third := absorb l.third (word ((bytes.drop 16).take 8))
    fourth := absorb l.fourth (word ((bytes.drop 24).take 8)) }

/-- The lanes after all whole stripes of some bytes, and the bytes that are left. -/
def stripes (l : Lanes) (bytes : List UInt8) : Lanes × List UInt8 :=
  match _h : bytes.drop 31 with
  | [] => (l, bytes)
  | _ :: rest => (l.stripe bytes).stripes rest
termination_by bytes.length
decreasing_by
  have := congrArg List.length _h
  simp at this
  omega

/-- Mixes a lane into a hash. -/
def mergeLane (hash lane : UInt64) : UInt64 := (hash ^^^ absorb 0 lane) * prime1 + prime4

/-- The lanes as one hash. -/
def merge (l : Lanes) : UInt64 :=
  let sum := rotate l.first 1 + rotate l.second 7 + rotate l.third 12 + rotate l.fourth 18
  mergeLane (mergeLane (mergeLane (mergeLane sum l.first) l.second) l.third) l.fourth

end Lanes

/-- Mixes eight bytes into a hash. -/
def mixLong (hash input : UInt64) : UInt64 :=
  rotate (hash ^^^ absorb 0 input) 27 * prime1 + prime4

/-- Mixes four bytes into a hash. -/
def mixShort (hash input : UInt64) : UInt64 :=
  rotate (hash ^^^ (input * prime1)) 23 * prime2 + prime3

/-- Mixes one byte into a hash. -/
def mixByte (hash : UInt64) (b : UInt8) : UInt64 :=
  rotate (hash ^^^ (b.toUInt64 * prime5)) 11 * prime1

/-- Mixes fewer than eight bytes into a hash. -/
def mixEnd (hash : UInt64) : List UInt8 → UInt64
  | a :: b :: c :: d :: bytes => bytes.foldl mixByte (mixShort hash (word [a, b, c, d]))
  | bytes => bytes.foldl mixByte hash

/-- Mixes fewer than 32 bytes into a hash. -/
def mixRest (hash : UInt64) : List UInt8 → UInt64
  | a :: b :: c :: d :: e :: f :: g :: h :: bytes =>
      mixRest (mixLong hash (word [a, b, c, d, e, f, g, h])) bytes
  | bytes => mixEnd hash bytes

/-- Makes every bit depend on every other. -/
def finish (hash : UInt64) : UInt64 :=
  let hash := (hash ^^^ (hash >>> 33)) * prime2
  let hash := (hash ^^^ (hash >>> 29)) * prime3
  hash ^^^ (hash >>> 32)

/-- The hash of a byte stream. -/
def ofBytes (bytes : List UInt8) : UInt64 :=
  let (lanes, rest) := Lanes.start.stripes bytes
  let hash := if bytes.length < 32 then prime5 else lanes.merge
  finish (mixRest (hash + UInt64.ofNat bytes.length) rest)

end Hash
end FilterCompiler
