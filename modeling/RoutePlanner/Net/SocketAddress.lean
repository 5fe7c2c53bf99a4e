import RoutePlanner.Number.Read

/-!
# Socket addresses

An address to listen on: an IPv4 address and a port (`127.0.0.1:3000`), or an IPv6 address in
brackets, optionally with a numeric zone, and a port (`[::1]:80`, `[fe80::1%2]:80`).

Reading is strict. An IPv4 address has four decimal parts of at most three digits, each at most
255 and without leading zeros. An IPv6 address has up to eight groups of one to four
hexadecimal digits, may compress one run of zero groups to `::`, and may end in an IPv4
address. A port is a decimal number below 65536, leading zeros allowed.

Writing gives the canonical text: IPv6 groups in lower case without leading zeros, the first
longest run of two or more zero groups as `::`, and an IPv4-mapped address as
`::ffff:a.b.c.d`.
-/

namespace RoutePlanner.Net

/-- A socket address. -/
inductive SocketAddress where
  | v4 (octets : List Nat) (port : Nat)
  | v6 (groups : List Nat) (zone : Nat) (port : Nat)
  deriving DecidableEq, Repr

/-- A reading step: the value read and the rest, or nothing. -/
abbrev Reading (α : Type) := Option (α × List Char)

/-- The value of a digit in a radix. -/
def digitIn (radix : Nat) (c : Char) : Option Nat :=
  if c.isDigit then
    let d := c.toNat - '0'.toNat
    if d < radix then some d else none
  else if radix = 16 ∧ 'a' ≤ c ∧ c ≤ 'f' then some (c.toNat - 'a'.toNat + 10)
  else if radix = 16 ∧ 'A' ≤ c ∧ c ≤ 'F' then some (c.toNat - 'A'.toNat + 10)
  else none

/-- The leading run of digits of a radix. -/
def digitRun (radix : Nat) : List Char → List Nat × List Char
  | [] => ([], [])
  | c :: cs =>
    match digitIn radix c with
    | some d => let (ds, rest) := digitRun radix cs; (d :: ds, rest)
    | none => ([], c :: cs)

/-- **A number**: one or more digits of the radix, at most `maxDigits` of them when given,
below `bound`, and without a leading zero unless `zeroPrefix` allows it. -/
def readNumber (radix : Nat) (maxDigits : Option Nat) (zeroPrefix : Bool) (bound : Nat)
    (cs : List Char) : Option (Nat × List Char) :=
  let (ds, rest) := digitRun radix cs
  let value := ds.foldl (fun acc d => acc * radix + d) 0
  if ds.isEmpty then none
  else if maxDigits.any (ds.length > ·) then none
  else if value ≥ bound then none
  else if !zeroPrefix && ds.head? = some 0 && ds.length > 1 then none
  else some (value, rest)

/-- An IPv4 address: four dotted decimal parts. -/
def readIpv4 (cs : List Char) : Option (List Nat × List Char) := do
  let (a, cs) ← readNumber 10 (some 3) false 256 cs
  let '.' :: cs := cs | none
  let (b, cs) ← readNumber 10 (some 3) false 256 cs
  let '.' :: cs := cs | none
  let (c, cs) ← readNumber 10 (some 3) false 256 cs
  let '.' :: cs := cs | none
  let (d, cs) ← readNumber 10 (some 3) false 256 cs
  pure ([a, b, c, d], cs)

/-- A separator before every item but the first. -/
def afterSeparator (i : Nat) (cs : List Char) : Option (List Char) :=
  if i = 0 then some cs
  else match cs with
    | ':' :: r => some r
    | _ => none

/-- Up to `limit` colon-separated groups from item `i` on, the last two possibly an embedded
IPv4 address; also whether one was read. -/
def readGroups (limit : Nat) : Nat → Nat → List Char → List Nat × Bool × List Char
  | 0, _, cs => ([], false, cs)
  | fuel + 1, i, cs =>
    if i ≥ limit then ([], false, cs)
    else
      let ipv4 := if i + 1 < limit then (afterSeparator i cs).bind readIpv4 else none
      match ipv4 with
      | some ([a, b, c, d], rest) => ([a * 256 + b, c * 256 + d], true, rest)
      | _ =>
        match (afterSeparator i cs).bind (readNumber 16 (some 4) true 65536) with
        | some (g, rest) =>
          let (gs, v4, rest) := readGroups limit fuel (i + 1) rest
          (g :: gs, v4, rest)
        | none => ([], false, cs)

/-- **An IPv6 address**: eight groups, or a head and a tail around `::`. -/
def readIpv6 (cs : List Char) : Option (List Nat × List Char) :=
  let (head, headV4, rest) := readGroups 8 8 0 cs
  if head.length = 8 then some (head, rest)
  else if headV4 then none
  else match rest with
    | ':' :: ':' :: rest =>
      let limit := 8 - (head.length + 1)
      let (tail, _, rest) := readGroups limit limit 0 rest
      some (head ++ List.replicate (8 - head.length - tail.length) 0 ++ tail, rest)
    | _ => none

/-- A port after its colon. -/
def readPort (cs : List Char) : Option (Nat × List Char) :=
  match cs with
  | ':' :: r => readNumber 10 none true 65536 r
  | _ => none

/-- **Reads a socket address**; the whole text must be used. -/
def SocketAddress.parse? (s : String) : Option SocketAddress :=
  let cs := s.toList
  let v4 : Option SocketAddress := do
    let (ip, rest) ← readIpv4 cs
    let (port, rest) ← readPort rest
    if rest.isEmpty then pure (.v4 ip port) else none
  let v6 : Option SocketAddress := do
    let '[' :: rest := cs | none
    let (ip, rest) ← readIpv6 rest
    let (zone, rest) := match rest with
      | '%' :: r =>
        match readNumber 10 none true (Nat.pow 2 32) r with
        | some (z, r) => (z, r)
        | none => (0, rest)
      | _ => (0, rest)
    let ']' :: rest := rest | none
    let (port, rest) ← readPort rest
    if rest.isEmpty then pure (.v6 ip zone port) else none
  v4 <|> v6

/-- Lower-case hexadecimal without leading zeros. -/
def hexText (n : Nat) : String :=
  String.ofList (Nat.toDigits 16 n)

/-- Groups joined by colons. -/
def groupsText (gs : List Nat) : String := ":".intercalate (gs.map hexText)

/-- The first longest run of zero groups: its start and length. -/
def longestZeroRun (gs : List Nat) : Nat × Nat :=
  let step := fun (acc : (Nat × Nat) × (Nat × Nat)) (p : Nat × Nat) =>
    let (best, cur) := acc
    let (g, i) := p
    if g = 0 then
      let cur := if cur.2 = 0 then (i, 1) else (cur.1, cur.2 + 1)
      (if cur.2 > best.2 then cur else best, cur)
    else (best, (0, 0))
  (gs.zipIdx.foldl step ((0, 0), (0, 0))).1

/-- **The canonical text of an IPv6 address.** -/
def ipv6Text (gs : List Nat) : String :=
  match gs with
  | [0, 0, 0, 0, 0, 0xffff, hi, lo] =>
    "::ffff:" ++ ".".intercalate ([hi / 256, hi % 256, lo / 256, lo % 256].map toString)
  | _ =>
    let (start, len) := longestZeroRun gs
    if len > 1 then groupsText (gs.take start) ++ "::" ++ groupsText (gs.drop (start + len))
    else groupsText gs

/-- The text of a socket address. -/
def SocketAddress.text : SocketAddress → String
  | .v4 ip port => ".".intercalate (ip.map toString) ++ ":" ++ toString port
  | .v6 ip zone port =>
    "[" ++ ipv6Text ip ++ (if zone = 0 then "" else "%" ++ toString zone) ++ "]:" ++ toString port

end RoutePlanner.Net
