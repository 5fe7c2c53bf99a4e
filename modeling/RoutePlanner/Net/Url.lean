import RoutePlanner.Net.Host

/-!
# URLs

Reading a URL, alone or against a base URL, and writing it back, by the rules of the URL
standard.

* The text is trimmed of control characters and blanks at both ends, and tabs and line breaks
  inside it are dropped.
* A scheme is a letter followed by letters, digits, `+`, `-` or `.`, then `:`; it is lower-cased.
  The special schemes (`http`, `https`, `ws`, `wss`, `ftp`, `file`) have authorities, accept `\`
  as a slash, and drop their default port.
* Without a scheme, the text is resolved against the base: a leading `//` replaces the authority,
  a leading `/` the path, `?` the query, `#` the fragment, and anything else replaces the last
  segment of the base's path.
* A path is a list of segments; `.` segments are dropped and `..` removes the segment before it
  (`%2e` counts as a dot).
* Each part escapes its own set of characters as `%XX` per UTF-8 byte.

`Url.join base text` is `Url.parse? text (some base)`, and `Url.text` writes the URL.
-/

namespace RoutePlanner.Net

/-- The path of a URL: segments, or for a URL without authority whose path does not start
with `/`, one opaque text. -/
inductive UrlPath where
  | segments (parts : List String)
  | whole (text : String)
  deriving DecidableEq, Repr

/-- A URL, each part in its escaped form. -/
structure Url where
  scheme : String
  username : String
  password : String
  host : Option Host
  port : Option Nat
  path : UrlPath
  query : Option String
  fragment : Option String
  deriving DecidableEq, Repr

/-- The default port of a special scheme: `some none` for `file`, which has none, and `none`
for a scheme that is not special. -/
def specialPort : String → Option (Option Nat)
  | "http" => some (some 80)
  | "https" => some (some 443)
  | "ws" => some (some 80)
  | "wss" => some (some 443)
  | "ftp" => some (some 21)
  | "file" => some none
  | _ => none

/-- Whether a scheme is special. -/
def isSpecialScheme (scheme : String) : Bool := (specialPort scheme).isSome

/-- Characters escaped in a fragment. -/
def inFragmentSet (c : Char) : Bool :=
  isControlOrWide c || c = ' ' || c = '"' || c = '<' || c = '>' || c.toNat = 0x60

/-- Characters escaped in a query. -/
def inQuerySet (c : Char) : Bool :=
  isControlOrWide c || c = ' ' || c = '"' || c = '#' || c = '<' || c = '>'

/-- Characters escaped in the query of a URL with a special scheme. -/
def inSpecialQuerySet (c : Char) : Bool := inQuerySet c || c.toNat = 0x27

/-- Characters escaped in a path segment. -/
def inPathSet (c : Char) : Bool :=
  inQuerySet c || c = '?' || c.toNat = 0x60 || c.toNat = 0x7B || c.toNat = 0x7D

/-- Characters escaped in a user name or password. -/
def inUserinfoSet (c : Char) : Bool :=
  inPathSet c || c = '/' || c = ':' || c = ';' || c = '=' || c = '@' || c = '[' || c = '\\' ||
    c = ']' || c = '^' || c = '|'

/-- A text with the characters of one set escaped. -/
def escapeWith (escape : Char → Bool) (cs : List Char) : String :=
  String.ofList (cs.flatMap (percentEncode escape))

/-- The text of a URL with control characters and blanks cut from both ends and tabs and line
breaks removed. -/
def cleanInput (cs : List Char) : List Char :=
  let edge := fun (c : Char) => c.toNat ≤ 0x20
  (((cs.dropWhile edge).reverse.dropWhile edge).reverse).filter
    fun c => !(c = '\t' || c = '\n' || c = '\r')

/-- The scheme at the start of a text, lower-cased, and the text after its `:`. -/
def readScheme (cs : List Char) : Option (String × List Char) :=
  match cs with
  | c :: _ =>
    if c.isAlpha then
      let name := cs.takeWhile fun c => c.isAlphanum || c = '+' || c = '-' || c = '.'
      match cs.drop name.length with
      | ':' :: rest => some (String.ofList (name.map Char.toLower), rest)
      | _ => none
    else none
  | [] => none

/-- Whether a segment stands for the segment itself (`.` or `%2e`). -/
def isSingleDot (seg : String) : Bool :=
  let s := seg.toLower
  s = "." || s = "%2e"

/-- Whether a segment stands for the segment above (`..`, with either dot as `%2e`). -/
def isDoubleDot (seg : String) : Bool :=
  let s := seg.toLower
  s = ".." || s = ".%2e" || s = "%2e." || s = "%2e%2e"

/-- Whether a segment is a drive letter: an ASCII letter and `:` or `|`. -/
def isDriveLetter (seg : String) : Bool :=
  match seg.toList with
  | [a, b] => a.isAlpha && (b = ':' || b = '|')
  | _ => false

/-- Whether a segment is a drive letter written with `:`. -/
def isNormalizedDriveLetter (seg : String) : Bool :=
  match seg.toList with
  | [a, b] => a.isAlpha && b = ':'
  | _ => false

/-- Whether a segment starts like a drive letter: a letter and `:` or `|`, then nothing or
`\`. A `..` never removes such a segment. -/
def isDriveLike (seg : String) : Bool :=
  match seg.toList with
  | a :: b :: rest => a.isAlpha && (b = ':' || b = '|') && (rest.isEmpty || rest.head? == some '\\')
  | _ => false

/-- Whether a text starts with a drive letter followed by its end, a slash, `?` or `#`. -/
def startsWithDriveSegment : List Char → Bool
  | a :: b :: rest =>
    a.isAlpha && (b = ':' || b = '|') &&
      match rest with
      | [] => true
      | c :: _ => c = '/' || c = '\\' || c = '?' || c = '#'
  | _ => false

/-- **One segment added to a path**, and whether it was a drive letter that begins the path of
a `file` URL. `carried` is text the segment began with before `seg` was read (a drive letter
kept from a base path), which the dot rules do not see.

* `..` removes the last segment, unless that looks like a drive letter; after carried text it
  only ends that text as a segment.
* `.` adds nothing but the carried text.
* Either leaves an empty last segment when no slash follows it.
* In a `file` URL, a drive letter that begins the path is written with `:`. -/
def pushSegment (file : Bool) (path : List String) (carried seg : String) (slash : Bool) :
    List String × Bool :=
  if isDoubleDot seg then
    if !carried.isEmpty then (path ++ [carried], false)
    else
      let kept := match path.getLast? with
        | some last => if isDriveLike last then path else path.dropLast
        | none => []
      (if slash then kept else kept ++ [""], false)
  else if isSingleDot seg then
    let kept := if carried.isEmpty then path else path ++ [carried]
    (if slash then kept else kept ++ [""], false)
  else if file && path.isEmpty && carried.isEmpty && isDriveLetter seg then
    (path ++ [String.ofList (seg.toList.take 1 ++ [':'])], true)
  else (path ++ [carried ++ seg], false)

/-- Whether a character ends a path segment. -/
def isSlash (special : Bool) (c : Char) : Bool := c = '/' || (special && c = '\\')

/-- **Reads path segments** up to a `?`, a `#` or the end; `buffer` holds the segment being
read, after the `carried` text it began with. Returns the path, whether a drive letter began
the path of a `file` URL, and the rest of the text. -/
def readSegments (special file : Bool) (path : List String) (carried : String)
    (buffer : List Char) (drive : Bool) : List Char → List String × Bool × List Char
  | [] =>
    let (p, d) := pushSegment file path carried (escapeWith inPathSet buffer) false
    (p, drive || d, [])
  | c :: rest =>
    if isSlash special c then
      let (p, d) := pushSegment file path carried (escapeWith inPathSet buffer) true
      readSegments special file p "" [] (drive || d) rest
    else if c = '?' || c = '#' then
      let (p, d) := pushSegment file path carried (escapeWith inPathSet buffer) false
      (p, drive || d, c :: rest)
    else readSegments special file path carried (buffer ++ [c]) drive rest

/-- The segments of a path read from a text, from `path` on. -/
def readPathFrom (special : Bool) (path : List String) (cs : List Char) :
    List String × List Char :=
  let (p, _, rest) := readSegments special false path "" [] false cs
  (p, rest)

/-- The escaped text of a fragment. -/
def fragmentText (cs : List Char) : String := escapeWith inFragmentSet cs

/-- **Query and fragment** of the text after a path: it starts with `?`, `#`, or is empty. -/
def readTail (special : Bool) : List Char → Option String × Option String
  | '?' :: cs =>
    let q := cs.takeWhile (· ≠ '#')
    let escaped := escapeWith (if special then inSpecialQuerySet else inQuerySet) q
    match cs.drop q.length with
    | _ :: f => (some escaped, some (fragmentText f))
    | [] => (some escaped, none)
  | '#' :: cs => (none, some (fragmentText cs))
  | _ => (none, none)

/-- An opaque path up to a `?` or `#`, with control and other than ASCII characters escaped. -/
def readWholePath (cs : List Char) : String × List Char :=
  let p := cs.takeWhile fun c => !(c = '?' || c = '#')
  (escapeWith isControlOrWide p, cs.drop p.length)

/-- The host text and the port text of an authority: the first `:` outside brackets starts
the port. -/
def splitPort (inside : Bool) : List Char → List Char × Option (List Char)
  | [] => ([], none)
  | c :: rest =>
    if c = ':' && !inside then ([], some rest)
    else
      let (h, p) := splitPort (if c = '[' then true else if c = ']' then false else inside) rest
      (c :: h, p)

/-- **A port**: digits only, at most 65535, and none when it is empty or the scheme's
default. -/
def readPortText (scheme : String) (cs : List Char) : Option (Option Nat) :=
  if cs.isEmpty then some none
  else if cs.all Char.isDigit then
    let n := Number.digitsValue cs
    if n > 65535 then none
    else if (specialPort scheme).bind id = some n then some none
    else some (some n)
  else none

/-- The parts of an authority: user name, password, host and port. -/
structure Authority where
  username : String
  password : String
  host : Host
  port : Option Nat

/-- **Reads an authority** up to the first `/`, `?` or `#` (or `\` for a special scheme). The
user information ends at the last `@`; its first `:` divides name and password. -/
def readAuthority (scheme : String) (cs : List Char) : Option (Authority × List Char) := do
  let special := isSpecialScheme scheme
  let auth := cs.takeWhile fun c => !(isSlash special c || c = '?' || c = '#')
  let rest := cs.drop auth.length
  let hostPort := (auth.reverse.takeWhile (· ≠ '@')).reverse
  let withUser := hostPort.length < auth.length
  let userinfo := auth.take (auth.length - hostPort.length - 1)
  let name := userinfo.takeWhile (· ≠ ':')
  let password := userinfo.drop (name.length + 1)
  if withUser && hostPort.isEmpty then none
  let (hostText, portText) := splitPort false hostPort
  if hostText.isEmpty && (special || portText.isSome) then none
  let host ← Host.parse? (String.ofList hostText) special
  let port ← readPortText scheme (portText.getD [])
  pure (⟨escapeWith inUserinfoSet name, escapeWith inUserinfoSet password, host, port⟩, rest)

/-- **The path, query and fragment after an authority.** A special scheme always has a path
of at least one segment. -/
def readAfterAuthority (special : Bool) (cs : List Char) :
    UrlPath × Option String × Option String :=
  if special then
    let cs := match cs with
      | c :: more => if isSlash true c then more else cs
      | [] => []
    let (path, tail) := readPathFrom true [] cs
    (.segments path, readTail true tail)
  else match cs with
    | '/' :: more =>
      let (path, tail) := readPathFrom false [] more
      (.segments path, readTail false tail)
    | _ => (.segments [], readTail false cs)

/-- A URL with an authority read from a text. -/
def withAuthority (scheme : String) (cs : List Char) : Option Url := do
  let (a, rest) ← readAuthority scheme cs
  let (path, query, fragment) := readAfterAuthority (isSpecialScheme scheme) rest
  pure ⟨scheme, a.username, a.password, some a.host, a.port, path, query, fragment⟩

/-- A URL with a path of segments and no authority. -/
def withPathOnly (scheme : String) (base : Option Url) (start : List String) (cs : List Char) :
    Url :=
  let special := isSpecialScheme scheme
  let (path, tail) := readPathFrom special start cs
  let (query, fragment) := readTail special tail
  let keep := base.filter fun b => b.scheme = scheme
  ⟨scheme, (keep.map (·.username)).getD "", (keep.map (·.password)).getD "",
    keep.bind (·.host), keep.bind (·.port), .segments path, query, fragment⟩

/-- The segments of a path, empty for an opaque one. -/
def UrlPath.parts : UrlPath → List String
  | .segments ps => ps
  | .whole _ => []

/-- **A text without scheme resolved against a base** whose path is not opaque. -/
def resolve (base : Url) (cs : List Char) : Option Url :=
  let special := isSpecialScheme base.scheme
  match cs with
  | [] => some { base with fragment := none }
  | c :: more =>
    if isSlash special c then
      match more with
      | d :: _ =>
        if special && isSlash true d then
          withAuthority base.scheme (more.dropWhile (isSlash true))
        else if d = '/' then withAuthority base.scheme more.tail
        else some (withPathOnly base.scheme (some base) [] more)
      | [] => some (withPathOnly base.scheme (some base) [] more)
    else if c = '?' then
      let (query, fragment) := readTail special cs
      some { base with query := query, fragment := fragment }
    else if c = '#' then some { base with fragment := some (fragmentText more) }
    else
      let url := withPathOnly base.scheme (some base) base.path.parts.dropLast cs
      some url

/-- The host of a `file` URL: none written, or `localhost`, is the empty host. -/
def fileHost (cs : List Char) : Option Host :=
  if cs.isEmpty then some .empty
  else match Host.parse? (String.ofList cs) true with
    | some (.domain "localhost") => some .empty
    | h => h

/-- The path of a `file` URL without the empty segments it starts with; a path of empty
segments only is the root. -/
def trimLeadingEmpty (path : List String) : List String :=
  match path.dropWhile (· == "") with
  | [] => [""]
  | p => p

/-- The segments of a base path that a relative path continues from, and text the first new
segment begins with: the last segment is dropped, but a drive letter written with `:` is kept,
as a segment of its own when it is the whole path and as the start of the next segment
otherwise. -/
def relativeStart (base : List String) : List String × String :=
  match base.getLast? with
  | some last =>
    if isNormalizedDriveLetter last then
      if base.length = 1 then (base, "") else (base.dropLast, last)
    else (base.dropLast, "")
  | none => ([], "")

/-- **A `file` URL**. After two slashes comes a host, which a drive letter, an empty text or
`localhost` leaves empty (the drive letter then begins the path); after one slash, the path,
which keeps the drive letter or else the host of a `file` base unless it starts with a drive
letter itself; a text without slash continues the base's path like any relative path, or
starts the path when it begins with a drive letter. A drive letter that begins the path is
written with `:` and clears a host given with it. -/
def fileUrl (base : Option Url) (cs : List Char) : Option Url :=
  let fileBase := base.filter fun b => b.scheme = "file"
  let build := fun (host : Host) (clearable : Bool) (start : List String) (carried : String)
      (rest : List Char) =>
    let (path, drive, tail) := readSegments true true start carried [] false rest
    let (query, fragment) := readTail true tail
    (⟨"file", "", "", some (if clearable && drive then .empty else host), none,
      .segments (trimLeadingEmpty path), query, fragment⟩ : Url)
  match cs with
  | c :: more =>
    if isSlash true c then
      match more with
      | d :: after =>
        if isSlash true d then
          let hostText := after.takeWhile fun c => !(isSlash true c || c = '?' || c = '#')
          let rest := after.drop hostText.length
          if isDriveLetter (String.ofList hostText) then some (build .empty false [] "" after)
          else do
            match ← fileHost hostText with
            | .empty => pure (build .empty false [] "" rest)
            | host =>
              let rest := match rest with
                | e :: r => if isSlash true e then r else rest
                | [] => []
              pure (build host true [] "" rest)
        else some (slashPath fileBase cs more build)
      | [] => some (slashPath fileBase cs more build)
    else
      match fileBase with
      | some b =>
        if c = '?' then
          let (query, fragment) := readTail true cs
          some { b with query := query, fragment := fragment }
        else if c = '#' then some { b with fragment := some (fragmentText more) }
        else if startsWithDriveSegment cs then some (build .empty false [] "" cs)
        else
          let (start, carried) := relativeStart b.path.parts
          some (build (b.host.getD .empty) false start carried cs)
      | none => some (build .empty false [] "" cs)
  | [] =>
    match fileBase with
    | some b => some { b with fragment := none }
    | none => some (build .empty false [] "" [])
where
  /-- A `file` URL whose text starts with one slash, `more` being the text after it. -/
  slashPath (fileBase : Option Url) (cs more : List Char)
      (build : Host → Bool → List String → String → List Char → Url) : Url :=
    match fileBase with
    | some b =>
      if startsWithDriveSegment more then build .empty false [] "" more
      else
        match b.path.parts.head? with
        | some first =>
          if isNormalizedDriveLetter first then build .empty false [] first cs
          else build (b.host.getD .empty) false [] "" more
        | none => build (b.host.getD .empty) false [] "" more
    | none => build .empty false [] "" more

/-- A URL whose text starts with a scheme. -/
def withScheme (scheme : String) (base : Option Url) (rest : List Char) : Option Url :=
  if scheme = "file" then fileUrl base rest
  else if isSpecialScheme scheme then
    match base with
    | some b =>
      if b.scheme = scheme then
        match rest with
        | '/' :: '/' :: _ => withAuthority scheme (rest.dropWhile (isSlash true))
        | _ => resolve b rest
      else withAuthority scheme (rest.dropWhile (isSlash true))
    | none => withAuthority scheme (rest.dropWhile (isSlash true))
  else
    match rest with
    | '/' :: '/' :: more => withAuthority scheme more
    | '/' :: more => some (withPathOnly scheme none [] more)
    | _ =>
      let (path, tail) := readWholePath rest
      let (query, fragment) := readTail false tail
      some ⟨scheme, "", "", none, none, .whole path, query, fragment⟩

/-- **Reads a URL**, resolved against `base` when the text has no scheme. -/
def Url.parse? (text : String) (base : Option Url) : Option Url :=
  let cs := cleanInput text.toList
  match readScheme cs with
  | some (scheme, rest) => withScheme scheme base rest
  | none =>
    match base with
    | none => none
    | some b =>
      match b.path with
      | .whole _ =>
        match cs with
        | '#' :: f => some { b with fragment := some (fragmentText f) }
        | _ => none
      | .segments _ =>
        if b.scheme = "file" then fileUrl base cs else resolve b cs

/-- **A text resolved against this URL.** -/
def Url.join (base : Url) (text : String) : Option Url := Url.parse? text (some base)

/-- **The text of a URL.** -/
def Url.text (u : Url) : String :=
  let userinfo :=
    if u.username.isEmpty && u.password.isEmpty then ""
    else u.username ++ (if u.password.isEmpty then "" else ":" ++ u.password) ++ "@"
  let authority := match u.host with
    | some h => "//" ++ userinfo ++ h.text ++ ((u.port.map fun p => ":" ++ toString p).getD "")
    | none => ""
  let pathText := match u.path with
    | .whole t => t
    | .segments ps =>
      (if u.host.isNone && ps.length > 1 && ps.head? = some "" then "/." else "") ++
        String.join (ps.map ("/" ++ ·))
  u.scheme ++ ":" ++ authority ++ pathText ++ ((u.query.map ("?" ++ ·)).getD "") ++
    ((u.fragment.map ("#" ++ ·)).getD "")

end RoutePlanner.Net
