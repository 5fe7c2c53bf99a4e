import RoutePlanner.Net.Idna
import RoutePlanner.Net.SocketAddress

/-!
# Hosts of URLs

The host of a URL, read as the URL standard reads it:

* in brackets, an IPv6 address: up to eight groups of one to four hexadecimal digits, one run
  of zero groups written `::`, and possibly a dotted IPv4 address in the last two groups;
* for the special schemes (`http`, `https`, `ws`, `wss`, `ftp`, `file`), a domain: percent
  escapes are decoded, the name is brought to ASCII (`domainToAscii`: mapped, normalized,
  checked, labels with other than ASCII characters written in Punycode behind `xn--`) and must
  not come out empty, and a domain whose last label is a number is read as an IPv4 address,
  whose parts may be decimal, octal (leading `0`) or hexadecimal (leading `0x`) and whose last
  part fills the remaining bytes;
* for other schemes, an opaque host kept as written, with control characters escaped.

Characters that cannot stand in a host (blanks, `#`, `/`, `:`, `<`, `>`, `?`, `@`, `[`, `\`,
`]`, `^`, `|`, and for domains also `%` and control characters) make the URL invalid.

An IPv6 host is written back in lower case with the first longest run of two or more zero
groups compressed to `::`.
-/

namespace RoutePlanner.Net

/-- The host of a URL. -/
inductive Host where
  | domain (name : String)
  | ipv4 (address : Nat)
  | ipv6 (groups : List Nat)
  | verbatim (text : String)
  | empty
  deriving DecidableEq, Repr

/-- Characters that may never stand in a host. -/
def forbiddenInHost (c : Char) : Bool :=
  c.toNat = 0 || c = '\t' || c = '\n' || c = '\r' || c = ' ' || c = '#' || c = '/' || c = ':' ||
    c = '<' || c = '>' || c = '?' || c = '@' || c = '[' || c = '\\' || c = ']' || c = '^' ||
    c = '|'

/-- Characters that may not stand in a domain. -/
def forbiddenInDomain (c : Char) : Bool :=
  forbiddenInHost c || c.toNat < 0x20 || c = '%' || c.toNat = 0x7F

/-- Upper-case hexadecimal digit. -/
def hexUpper (n : Nat) : Char :=
  if n < 10 then Char.ofNat (0x30 + n) else Char.ofNat (0x41 + n - 10)

/-- A character, escaped as `%XX` per UTF-8 byte when `escape` says so. -/
def percentEncode (escape : Char → Bool) (c : Char) : List Char :=
  if escape c then
    (String.singleton c).toUTF8.toList.flatMap fun b =>
      ['%', hexUpper (b.toNat / 16), hexUpper (b.toNat % 16)]
  else [c]

/-- Characters outside printable ASCII. -/
def isControlOrWide (c : Char) : Bool := c.toNat < 0x20 || c.toNat > 0x7E

/-- The bytes of a text with its `%XX` escapes decoded; a `%` not followed by two hexadecimal
digits stays as it is. -/
def percentDecodeBytes : List UInt8 → List UInt8
  | [] => []
  | [b] => [b]
  | [b, c] => [b, c]
  | b :: h :: l :: more =>
    let pair := if b = 0x25 then
        match digitIn 16 (Char.ofNat h.toNat), digitIn 16 (Char.ofNat l.toNat) with
        | some x, some y => some (x * 16 + y).toUInt8
        | _, _ => none
      else none
    match pair with
    | some v => v :: percentDecodeBytes more
    | none => b :: percentDecodeBytes (h :: l :: more)

/-- A part of an IPv4 host: decimal, octal after a leading `0`, hexadecimal after `0x`. -/
def ipv4Part (s : String) : Option Nat :=
  let cs := s.toList
  let (radix, ds) := match cs with
    | '0' :: 'x' :: r | '0' :: 'X' :: r => (16, r)
    | '0' :: r@(_ :: _) => (8, r)
    | r => (10, r)
  if cs.isEmpty then none
  else if ds.isEmpty then (if radix = 16 then some 0 else none)
  else
    let vals := ds.map (digitIn radix)
    if vals.all Option.isSome then some (vals.foldl (fun acc d => acc * radix + d.getD 0) 0)
    else none

/-- The dot-separated parts of a host, without one trailing empty part. -/
def hostParts (s : String) : List String :=
  let parts := s.splitOn "."
  if parts.length > 1 && parts.getLast? == some "" then parts.dropLast else parts

/-- Whether a domain's last label is a number, so that it must be an IPv4 address. -/
def endsInNumber (s : String) : Bool :=
  match (hostParts s).getLast? with
  | some last => (!last.isEmpty && last.toList.all Char.isDigit) || (ipv4Part last).isSome
  | none => false

/-- **An IPv4 host**: up to four parts, each but the last at most 255, the last filling the
remaining bytes. -/
def readIpv4Host (s : String) : Option Nat := do
  let parts := hostParts s
  if parts.length > 4 then none
  let nums ← parts.mapM ipv4Part
  let (init, last) := (nums.dropLast, nums.getLast?.getD 0)
  if init.any (· > 255) then none
  if last ≥ Nat.pow 256 (5 - nums.length) then none
  pure (init.zipIdx.foldl (fun acc (n, i) => acc + n * Nat.pow 256 (3 - i)) last)

/-- The pieces of an IPv6 address read so far and the rest of the text. -/
structure Ipv6State where
  pieces : List Nat
  compress : Option Nat

/-- A dotted IPv4 address at the end of an IPv6 address, as two pieces. -/
def ipv6Tail (cs : List Char) : Option (List Nat) := do
  let parts := (String.ofList cs).splitOn "."
  if parts.length ≠ 4 then none
  let nums ← parts.mapM fun p =>
    let ds := p.toList
    if ds.isEmpty || !ds.all Char.isDigit || (ds.length > 1 && ds.head? == some '0') then none
    else
      let v := Number.digitsValue ds
      if v > 255 then none else some v
  match nums with
  | [a, b, c, d] => some [a * 256 + b, c * 256 + d]
  | _ => none

/-- Reads IPv6 pieces: groups of hexadecimal digits separated by `:`, one `::`, and maybe a
final IPv4 address. -/
def ipv6Pieces : Nat → List Char → Ipv6State → Option Ipv6State
  | 0, _, _ => none
  | _, [], st => some st
  | fuel + 1, cs, st =>
    -- a compressed run stands for at least one zero piece
    let used := st.pieces.length + (if st.compress.isSome then 1 else 0)
    if used ≥ 8 then none
    else match cs with
      | ':' :: rest =>
        if st.compress.isSome then none
        else ipv6Pieces fuel rest { st with compress := some st.pieces.length }
      | _ =>
        let hex := (cs.take 4).takeWhile fun c => (digitIn 16 c).isSome
        let rest := cs.drop hex.length
        match rest with
        | '.' :: _ =>
          if hex.isEmpty || used > 6 then none
          else (ipv6Tail cs).map fun ps => { st with pieces := st.pieces ++ ps }
        | ':' :: more =>
          if more.isEmpty || hex.isEmpty then none
          else
            let v := hex.foldl (fun acc c => acc * 16 + (digitIn 16 c).getD 0) 0
            ipv6Pieces fuel more { st with pieces := st.pieces ++ [v] }
        | [] =>
          if hex.isEmpty then none
          else some { st with pieces := st.pieces ++ [hex.foldl (fun acc c => acc * 16 + (digitIn 16 c).getD 0) 0] }
        | _ => none

/-- **An IPv6 host** between brackets. -/
def readIpv6Host (cs : List Char) : Option (List Nat) := do
  let (cs, start) ← match cs with
    | ':' :: ':' :: r => some (r, some 0)
    | ':' :: _ => none
    | r => some (r, none)
  let st ← ipv6Pieces (cs.length + 1) cs ⟨[], start⟩
  match st.compress with
  | some at' =>
    if st.pieces.length ≥ 8 then none
    else some (st.pieces.take at' ++ List.replicate (8 - st.pieces.length) 0 ++ st.pieces.drop at')
  | none => if st.pieces.length = 8 then some st.pieces else none

/-- **Reads a host**; `special` for the special schemes, whose hosts are domains. -/
def Host.parse? (s : String) (special : Bool) : Option Host :=
  let cs := s.toList
  if cs.head? = some '[' then
    if cs.getLast? ≠ some ']' then none
    else Host.ipv6 <$> readIpv6Host ((cs.drop 1).dropLast)
  else if !special then
    if cs.any (fun c => forbiddenInHost c) then none
    else if cs.isEmpty then some .empty
    else some (.verbatim (String.ofList (cs.flatMap (percentEncode isControlOrWide))))
  else do
    let decoded ← String.fromUTF8? (ByteArray.mk (percentDecodeBytes s.toUTF8.toList).toArray)
    let ascii ← domainToAscii decoded
    if ascii.isEmpty || ascii.toList.any forbiddenInDomain then none
    else if endsInNumber ascii then Host.ipv4 <$> readIpv4Host ascii
    else some (.domain ascii)

/-- The first longest run of at least two zero pieces, as start and length. -/
def zeroRun (gs : List Nat) : Option (Nat × Nat) :=
  let (start, len) := longestZeroRun gs
  if len > 1 then some (start, len) else none

/-- **The text of a host.** -/
def Host.text : Host → String
  | .domain d => d
  | .verbatim t => t
  | .empty => ""
  | .ipv4 a => ".".intercalate ([a / Nat.pow 2 24 % 256, a / Nat.pow 2 16 % 256, a / 256 % 256, a % 256].map toString)
  | .ipv6 gs =>
    match zeroRun gs with
    | some (start, len) => "[" ++ groupsText (gs.take start) ++ "::" ++ groupsText (gs.drop (start + len)) ++ "]"
    | none => "[" ++ groupsText gs ++ "]"

end RoutePlanner.Net
