import RoutePlanner.Net.Header

/-!
# Request targets

The target of an HTTP request names what is asked for. It takes one of four forms:

* `origin`: a path from `/`, maybe a `?` and a query: `/routes?userId=u`;
* `absolute`: a scheme, `://`, an authority and maybe a path and a query:
  `http://h/routes`; the schemes `http` and `https` are recognised in any case;
* `authority`: an authority alone, `host:port`;
* `*`.

A text is read as a target by these rules:

* A scheme is at least one letter, digit, `+`, `-` or `.` (at most 64) before `://`; a text
  that does not start with `/` and has no scheme must be an authority alone.
* An authority runs to the first `/`, `?` or `#`, and holds only URI characters: letters,
  digits and ``!$&'()*+,-.:;=@[]_~``, and `%` only in the user part before an `@`. After the last
  `@` (or a bracketed address) there is at most one `:`; a `[` needs a `]`; an `@` must not end
  it. After a scheme, the authority must not be empty.
* A path holds visible ASCII but for blanks, `<`, `>` and `` ` `` and `#`; a query holds
  visible ASCII but for `"`, `<`, `>` and `#`. A `#` ends what is kept: the fragment after it
  is not looked at.
* The whole text has at most 65534 bytes.

`Target.path` is the path a router matches: `/` for an empty path after a scheme, and the
empty text for an authority alone. `Target.text` writes a target back.
-/

namespace RoutePlanner.Http

/-- The scheme of an absolute target. -/
inductive Scheme where
  | http
  | https
  /-- any other scheme, as written -/
  | other (name : String)
  deriving DecidableEq, Repr

/-- A request target: scheme and authority when given, then the path and the query as
written, without a fragment. -/
structure Target where
  scheme : Option Scheme
  authority : Option String
  rawPath : String
  query : Option String
  deriving DecidableEq, Repr

/-- The name of a scheme. -/
def Scheme.name : Scheme → String
  | .http => "http"
  | .https => "https"
  | .other n => n

/-- Whether a character may stand in a scheme. -/
def isSchemeChar (c : Char) : Bool :=
  (c.isAlphanum && c.toNat < 0x80) || c = '+' || c = '-' || c = '.'

/-- Whether a character is one of the URI characters an authority may hold. -/
def isUriChar (c : Char) : Bool :=
  (c.isAlphanum && c.toNat < 0x80) || "!#$&()*+,-./:;=?@[]_~".toList.contains c || c.toNat = 0x27

/-- Whether a character may stand in a path as it is. -/
def isPathChar (c : Char) : Bool :=
  let n := c.toNat
  n = 0x21 || (0x24 ≤ n && n ≤ 0x3B) || n = 0x3D || (0x40 ≤ n && n ≤ 0x5F) ||
    (0x61 ≤ n && n ≤ 0x7A) || n = 0x7C || n = 0x7E || c = '"' || c = '{' || c = '}'

/-- Whether a character may stand in a query as it is. -/
def isQueryChar (c : Char) : Bool :=
  let n := c.toNat
  n = 0x21 || (0x24 ≤ n && n ≤ 0x3B) || n = 0x3D || (0x3F ≤ n && n ≤ 0x7E)

/-- **The scheme at the front of a text**, and the text after its `://`: `some none` when the
text has no scheme, and `none` for a scheme too long. -/
def schemeOf? (cs : List Char) : Option (Option (Scheme × List Char)) :=
  if cs.length ≥ 7 && String.toLower (String.ofList (cs.take 7)) == "http://" then
    some (some (.http, cs.drop 7))
  else if cs.length ≥ 8 && String.toLower (String.ofList (cs.take 8)) == "https://" then
    some (some (.https, cs.drop 8))
  else if cs.length ≤ 3 then some none
  else
    let name := cs.takeWhile isSchemeChar
    match cs.drop name.length with
    | ':' :: '/' :: '/' :: rest =>
      if name.length > 64 then none else some (some (.other (String.ofList name), rest))
    | _ => some none

/-- What reading an authority has seen so far. -/
structure AuthorityScan where
  colons : Nat
  openBracket : Bool
  closeBracket : Bool
  percent : Bool
  atSign : Option Nat

/-- Reads an authority from position `i` on: where it ends and what it held, or `none` at a
character it may not hold. -/
def scanAuthority (i : Nat) (st : AuthorityScan) : List Char → Option (Nat × AuthorityScan)
  | [] => some (i, st)
  | c :: rest =>
    if c = '/' ∨ c = '?' ∨ c = '#' then some (i, st)
    else if c = ':' then
      if st.colons ≥ 8 then none else scanAuthority (i + 1) { st with colons := st.colons + 1 } rest
    else if c = '[' then
      if st.percent || st.openBracket then none
      else scanAuthority (i + 1) { st with openBracket := true } rest
    else if c = ']' then
      if !st.openBracket || st.closeBracket then none
      else scanAuthority (i + 1) { st with closeBracket := true, colons := 0, percent := false } rest
    else if c = '@' then
      scanAuthority (i + 1) { st with atSign := some i, colons := 0, percent := false } rest
    else if c = '%' then scanAuthority (i + 1) { st with percent := true } rest
    else if isUriChar c then scanAuthority (i + 1) st rest
    else none

/-- **Where the authority at the front of a text ends**, or `none` when it is not one. -/
def authorityEnd? (cs : List Char) : Option Nat := do
  let (e, st) ← scanAuthority 0 ⟨0, false, false, false, none⟩ cs
  if st.openBracket != st.closeBracket || st.colons > 1 || st.percent then none
  else if e > 0 && st.atSign == some (e - 1) then none
  else some e

/-- A query up to a fragment, or `none` at a character it may not hold. -/
def readQuery : List Char → Option (List Char)
  | [] => some []
  | c :: rest =>
    if c = '#' then some []
    else if isQueryChar c then (c :: ·) <$> readQuery rest
    else none

/-- **A path and a query** up to a fragment, or `none` at a character they may not hold. -/
def readPathAndQuery : List Char → Option (List Char × Option (List Char))
  | [] => some ([], none)
  | c :: rest =>
    if c = '?' then (fun q => ([], some q)) <$> readQuery rest
    else if c = '#' then some ([], none)
    else if isPathChar c then (fun (p, q) => (c :: p, q)) <$> readPathAndQuery rest
    else none

/-- A target made of a path and a query read from a text. -/
def Target.ofPathAndQuery (scheme : Option Scheme) (authority : Option String)
    (cs : List Char) : Option Target :=
  (readPathAndQuery cs).map fun (p, q) => ⟨scheme, authority, String.ofList p, q.map String.ofList⟩

/-- A target that is an authority alone. -/
def Target.ofAuthority (cs : List Char) : Option Target := do
  let e ← authorityEnd? cs
  if e = cs.length then some ⟨none, some (String.ofList cs), "", none⟩ else none

/-- **Reads a request target.** -/
def Target.parse? (s : String) : Option Target :=
  let cs := s.toList
  if s.utf8ByteSize > 65534 then none
  else
    match cs with
    | [] => none
    | ['*'] => some ⟨none, none, "*", none⟩
    | '/' :: _ => Target.ofPathAndQuery none none cs
    | [_] => Target.ofAuthority cs
    | _ =>
      match schemeOf? cs with
      | none => none
      | some none => Target.ofAuthority cs
      | some (some (scheme, rest)) => do
        let e ← authorityEnd? rest
        if e = 0 then none
        else Target.ofPathAndQuery (some scheme) (some (String.ofList (rest.take e))) (rest.drop e)

/-- **The path a router matches**: the path as written, `/` for an empty path after a scheme or
before a query, and the empty text for an authority alone. -/
def Target.path (t : Target) : String :=
  if !t.rawPath.isEmpty then t.rawPath
  else if t.query.isSome || t.scheme.isSome then "/"
  else ""

/-- The target with another path, its query kept. -/
def Target.withPath (t : Target) (path : String) : Target := { t with rawPath := path }

/-- **A target written as text**: scheme and authority when given, the path and the query. -/
def Target.text (t : Target) : String :=
  ((t.scheme.map (·.name ++ "://")).getD "") ++ t.authority.getD "" ++ t.path ++
    ((t.query.map ("?" ++ ·)).getD "")

end RoutePlanner.Http
