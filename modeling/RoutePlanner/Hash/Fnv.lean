/-!
# FNV-1a

The 64-bit FNV-1a hash of a byte string: from the offset basis, each byte is combined by
exclusive or and the result multiplied by the FNV prime, modulo `2 ^ 64`. `fnv1aHex` writes
the hash as 16 lower-case hexadecimal digits.
-/

namespace RoutePlanner.Hash

/-- The 64-bit offset basis. -/
def fnvOffsetBasis : UInt64 := 0xcbf29ce484222325

/-- The 64-bit FNV prime. -/
def fnvPrime : UInt64 := 0x00000100000001b3

/-- **FNV-1a** of a byte string. -/
def fnv1a (bytes : List UInt8) : UInt64 :=
  bytes.foldl (fun h b => (h ^^^ b.toUInt64) * fnvPrime) fnvOffsetBasis

/-- FNV-1a of a text's UTF-8 bytes as 16 hexadecimal digits. -/
def fnv1aHex (s : String) : String :=
  let n := (fnv1a s.toUTF8.toList).toNat
  String.ofList ((List.range 16).reverse.map fun i => "0123456789abcdef".toList.getD (n / Nat.pow 16 i % 16) '0')

end RoutePlanner.Hash
