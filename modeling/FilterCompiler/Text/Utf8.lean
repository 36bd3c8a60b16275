/-!
# Bytes of a text

The UTF-8 bytes of a text, and the text that stands for bytes which need not be UTF-8: for every
maximal piece that cannot be read, a filler takes its place.
-/

namespace FilterCompiler
namespace Text

/-- The UTF-8 bytes of a text. -/
def bytes (s : String) : List UInt8 := s.toUTF8.data.toList

/-- What takes the place of bytes that are no character. -/
def replacementChar : Char := '\ufffd'

/-- The bytes that may follow a first byte, as the range of the second one and the number of all that
follow; nothing if no character begins with that byte. -/
def followers? (b : UInt8) : Option (UInt8 × UInt8 × Nat) :=
  if b < 0xC2 then none
  else if b < 0xE0 then some (0x80, 0xBF, 1)
  else if b = 0xE0 then some (0xA0, 0xBF, 2)
  else if b = 0xED then some (0x80, 0x9F, 2)
  else if b < 0xF0 then some (0x80, 0xBF, 2)
  else if b = 0xF0 then some (0x90, 0xBF, 3)
  else if b < 0xF4 then some (0x80, 0xBF, 3)
  else if b = 0xF4 then some (0x80, 0x8F, 3)
  else none

/-- The bits that a first byte contributes when `count` bytes follow. -/
def leadBits (b : UInt8) (count : Nat) : Nat := b.toNat % 1 <<< (6 - count)

/-- A character that is being read: its bits so far, how many bytes are still to come, and the range
of the next one. -/
structure PartialChar where
  bits : Nat
  missing : Nat
  low : UInt8
  high : UInt8

/-- Adds to `done`, in reverse, the characters of some bytes. The filler is given in reverse. -/
def decodeFrom (filler done : List Char) (open? : Option PartialChar) : List UInt8 → List Char
  | [] => (if open?.isSome then filler ++ done else done).reverse
  | b :: bytes =>
      let begin := fun done =>
        if b < 0x80 then decodeFrom filler (Char.ofNat b.toNat :: done) none bytes
        else
          match followers? b with
          | none => decodeFrom filler (filler ++ done) none bytes
          | some (low, high, missing) =>
              decodeFrom filler done (some { bits := leadBits b missing, missing, low, high }) bytes
      match open? with
      | none => begin done
      | some p =>
          if p.low ≤ b ∧ b ≤ p.high then
            let bits := p.bits * 64 + b.toNat % 64
            if p.missing = 1 then decodeFrom filler (Char.ofNat bits :: done) none bytes
            else
              decodeFrom filler done
                (some { bits, missing := p.missing - 1, low := 0x80, high := 0xBF }) bytes
          else begin (filler ++ done)

/-- The characters that stand for some bytes, with the filler for those that are no character. -/
def decodeWith (filler : List Char) (bytes : List UInt8) : List Char :=
  decodeFrom filler.reverse [] none bytes

/-- The text that stands for some bytes. -/
def decodeLossy (bytes : List UInt8) : String := String.ofList (decodeWith [replacementChar] bytes)

end Text
end FilterCompiler
