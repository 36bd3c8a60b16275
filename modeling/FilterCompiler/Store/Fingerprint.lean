import FilterCompiler.Conversion.Basic
import FilterCompiler.Json.Token
import FilterCompiler.Store.Hash
import FilterCompiler.Text.Utf8

/-!
# Fingerprint of a conversion

Everything on which the result of a conversion depends, as a byte stream, and its hash. Two
conversions with the same fingerprint are taken to have the same result.
-/

namespace FilterCompiler
namespace Fingerprint

/-- The eight bytes of a number below `2 ^ 64`, the least significant one first. -/
def numberBytes (n : Nat) : List UInt8 :=
  (List.range 8).map fun i => UInt8.ofNat (n >>> (8 * i))

/-- What stands for a size that is not limited. -/
def unlimited : Nat := UInt64.size - 1

/-- The bytes of a line; a line feed ends it. -/
def lineBytes (line : String) : List UInt8 := Text.bytes line ++ [0x0A]

/-- The byte stream of a conversion. -/
def stream (options : ConversionOptions) (chunkSize : Nat) (lines : List String) : List UInt8 :=
  Text.bytes options.version.token
    ++ [if options.advanced then 1 else 0]
    ++ numberBytes (options.maxJsonSize.getD unlimited)
    ++ numberBytes chunkSize
    ++ lines.flatMap lineBytes

/-- The fingerprint of a conversion. -/
def ofConversion (options : ConversionOptions) (chunkSize : Nat) (lines : List String) : UInt64 :=
  Hash.ofBytes (stream options chunkSize lines)

/-- A fingerprint as sixteen hexadecimal digits. -/
def text (fingerprint : UInt64) : String :=
  String.ofList ((List.range 16).map fun i =>
    Json.hexDigit (fingerprint.toNat >>> (4 * (15 - i)) % 16))

end Fingerprint
end FilterCompiler
