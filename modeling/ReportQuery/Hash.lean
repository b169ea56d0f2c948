/-!
# FNV-1a hashing

The 64-bit FNV-1a hash of a sequence of bytes. It names cache entries and
separates groups of rows, so it depends on nothing but the bytes.
-/

namespace ReportQuery.Hash

/-- The hash of no bytes. -/
def offsetBasis : UInt64 := 0xcbf29ce484222325

/-- The factor of one step. -/
def prime : UInt64 := 0x100000001b3

/-- One byte is mixed in by exclusive or, then the hash is multiplied modulo
2^64. -/
def step (hash : UInt64) (byte : UInt8) : UInt64 :=
  (hash ^^^ byte.toUInt64) * prime

/-- The hash of a sequence of bytes. -/
def ofBytes (bytes : List UInt8) : UInt64 :=
  bytes.foldl step offsetBasis

/-- The hash of the UTF-8 bytes of a text. -/
def ofText (s : String) : UInt64 :=
  ofBytes s.toUTF8.data.toList

/-- The sixteen lower-case hexadecimal digits of a word. -/
def hex (word : UInt64) : String :=
  let digits := Nat.toDigits 16 word.toNat
  String.ofList (List.replicate (16 - digits.length) '0' ++ digits)

end ReportQuery.Hash
