/-!
# SHA-256

The SHA-256 digest of a byte string, as the Secure Hash Standard defines it: the message is
padded with a one bit, zeros and its length in bits to a whole number of 64-byte blocks, and
each block is folded into eight 32-bit words of state by 64 rounds of the compression
function. `sha256Hex` writes the digest as 64 lower-case hexadecimal digits.
-/

namespace RoutePlanner.Hash

/-- The round constants. -/
def roundConstants : Array UInt32 := #[
  0x428a2f98, 0x71374491, 0xb5c0fbcf, 0xe9b5dba5, 0x3956c25b, 0x59f111f1, 0x923f82a4, 0xab1c5ed5,
  0xd807aa98, 0x12835b01, 0x243185be, 0x550c7dc3, 0x72be5d74, 0x80deb1fe, 0x9bdc06a7, 0xc19bf174,
  0xe49b69c1, 0xefbe4786, 0x0fc19dc6, 0x240ca1cc, 0x2de92c6f, 0x4a7484aa, 0x5cb0a9dc, 0x76f988da,
  0x983e5152, 0xa831c66d, 0xb00327c8, 0xbf597fc7, 0xc6e00bf3, 0xd5a79147, 0x06ca6351, 0x14292967,
  0x27b70a85, 0x2e1b2138, 0x4d2c6dfc, 0x53380d13, 0x650a7354, 0x766a0abb, 0x81c2c92e, 0x92722c85,
  0xa2bfe8a1, 0xa81a664b, 0xc24b8b70, 0xc76c51a3, 0xd192e819, 0xd6990624, 0xf40e3585, 0x106aa070,
  0x19a4c116, 0x1e376c08, 0x2748774c, 0x34b0bcb5, 0x391c0cb3, 0x4ed8aa4a, 0x5b9cca4f, 0x682e6ff3,
  0x748f82ee, 0x78a5636f, 0x84c87814, 0x8cc70208, 0x90befffa, 0xa4506ceb, 0xbef9a3f7, 0xc67178f2]

/-- The initial state. -/
def initialState : Array UInt32 :=
  #[0x6a09e667, 0xbb67ae85, 0x3c6ef372, 0xa54ff53a, 0x510e527f, 0x9b05688c, 0x1f83d9ab, 0x5be0cd19]

/-- Rotation to the right. -/
def rotr (x : UInt32) (n : UInt32) : UInt32 := (x >>> n) ||| (x <<< (32 - n))

/-- The eight bytes of a 64-bit length, most significant first. -/
def lengthBytes (n : Nat) : List UInt8 :=
  (List.range 8).reverse.map fun i => (n / Nat.pow 256 i % 256).toUInt8

/-- **Padding**: a one bit, zeros, and the length in bits, to a multiple of 64 bytes. -/
def pad (msg : List UInt8) : List UInt8 :=
  msg ++ [0x80] ++ List.replicate ((119 - msg.length % 64) % 64) 0 ++ lengthBytes (8 * msg.length)

/-- A byte string cut into blocks of 64 bytes. -/
def blocks (bs : List UInt8) : List (List UInt8) :=
  if bs.length ≤ 64 then [bs] else bs.take 64 :: blocks (bs.drop 64)
termination_by bs.length
decreasing_by simp; omega

/-- The sixteen big-endian words of a block. -/
def blockWords (block : List UInt8) : Array UInt32 :=
  ((List.range 16).map fun i =>
    ((block.drop (4 * i)).take 4).foldl (fun (w : UInt32) b => (w <<< 8) ||| b.toUInt32) 0).toArray

/-- The message schedule: the block's words extended to 64. -/
def schedule (block : List UInt8) : Array UInt32 :=
  (List.range 48).foldl (fun w i =>
    let t := i + 16
    let x := w.getD (t - 15) 0
    let y := w.getD (t - 2) 0
    let s0 := rotr x 7 ^^^ rotr x 18 ^^^ (x >>> 3)
    let s1 := rotr y 17 ^^^ rotr y 19 ^^^ (y >>> 10)
    w.push (s1 + w.getD (t - 7) 0 + s0 + w.getD (t - 16) 0)) (blockWords block)

/-- One round of the compression function on the working variables `a … h`. -/
def round (v : Array UInt32) (k w : UInt32) : Array UInt32 :=
  let a := v.getD 0 0
  let b := v.getD 1 0
  let c := v.getD 2 0
  let d := v.getD 3 0
  let e := v.getD 4 0
  let f := v.getD 5 0
  let g := v.getD 6 0
  let h := v.getD 7 0
  let s1 := rotr e 6 ^^^ rotr e 11 ^^^ rotr e 25
  let ch := (e &&& f) ^^^ (~~~e &&& g)
  let t1 := h + s1 + ch + k + w
  let s0 := rotr a 2 ^^^ rotr a 13 ^^^ rotr a 22
  let maj := (a &&& b) ^^^ (a &&& c) ^^^ (b &&& c)
  #[t1 + s0 + maj, a, b, c, d + t1, e, f, g]

/-- A block folded into the state. -/
def compress (state : Array UInt32) (block : List UInt8) : Array UInt32 :=
  let w := schedule block
  let v := (List.range 64).foldl (fun v t => round v (roundConstants.getD t 0) (w.getD t 0)) state
  (List.range 8).toArray.map fun i => state.getD i 0 + v.getD i 0

/-- The state after the whole message. -/
def digestWords (msg : List UInt8) : Array UInt32 :=
  (blocks (pad msg)).foldl compress initialState

/-- Two lower-case hexadecimal digits of a byte. -/
def hexByte (n : Nat) : String :=
  let d := fun i => "0123456789abcdef".toList.getD i '0'
  String.ofList [d (n / 16 % 16), d (n % 16)]

/-- **The SHA-256 digest** of a text's UTF-8 bytes, in hexadecimal. -/
def sha256Hex (s : String) : String :=
  String.join ((digestWords s.toUTF8.toList).toList.map fun w =>
    hexByte (w.toNat / Nat.pow 2 24) ++ hexByte (w.toNat / Nat.pow 2 16) ++ hexByte (w.toNat / Nat.pow 2 8) ++
      hexByte w.toNat)

end RoutePlanner.Hash
