import RoutePlanner.Net.Header

/-!
# Media types

The value of a `content-type` header names a media type: `type/subtype`, then parameters
`; name=value`. This module reads one as HTTP servers commonly read it, and says when it names
JSON.

* The type and the subtype are tokens (`isTokenChar`), the type non-empty, joined by `/`; they
  are compared in lower case. The subtype's last `+` after its first character starts a
  structured-syntax suffix: `vnd.api+json` has suffix `json`.
* After a `;` that follows a non-empty subtype come parameters: spaces may stand before a
  name, a name is a non-empty token followed by `=`, and a value is a token (empty only at the
  very end) or a quoted string of characters other than controls, followed by spaces. A `;`
  separates parameters and may end the text.
* No blank may stand around the `/` or before the first `;`.

`MediaType.parse?` gives the type, the subtype and the suffix, and `MediaType.isJson` holds
for `application/json` and every `application/…+json`.
-/

namespace RoutePlanner.Net

/-- A media type: its type, its subtype up to the suffix, and the suffix, in lower case. -/
structure MediaType where
  type : String
  subtype : String
  suffix : Option String
  deriving DecidableEq, Repr

namespace MediaType

/-- Whether a character may stand in a quoted parameter value: anything but a control
character. -/
def isQuotedChar (c : Char) : Bool := c.toNat > 31 && c.toNat ≠ 127

/-- Where a reader of parameters stands. -/
inductive ParamState where
  /-- before a name, where spaces are skipped -/
  | nameStart
  /-- inside a name -/
  | name
  /-- right after the `=` -/
  | valueStart
  /-- inside a token value -/
  | token
  /-- right after the opening quote of a value -/
  | quoteStart
  /-- inside a quoted value -/
  | quoted
  /-- after the closing quote of a value -/
  | afterQuote
  deriving DecidableEq, Repr

/-- **Whether the parameters from a point on are well formed.** A quote right after the
opening one is part of the value. -/
def paramsFrom : ParamState → List Char → Bool
  | s, [] => s = .nameStart || s = .valueStart || s = .token || s = .afterQuote
  | .nameStart, c :: rest =>
    if c = ' ' then paramsFrom .nameStart rest
    else isTokenChar c && paramsFrom .name rest
  | .name, c :: rest =>
    if isTokenChar c then paramsFrom .name rest
    else c = '=' && paramsFrom .valueStart rest
  | .valueStart, c :: rest =>
    if c = '"' then paramsFrom .quoteStart rest
    else isTokenChar c && paramsFrom .token rest
  | .token, c :: rest =>
    if isTokenChar c then paramsFrom .token rest
    else c = ';' && paramsFrom .nameStart rest
  | .quoteStart, c :: rest => isQuotedChar c && paramsFrom .quoted rest
  | .quoted, c :: rest =>
    if c = '"' then paramsFrom .afterQuote rest
    else isQuotedChar c && paramsFrom .quoted rest
  | .afterQuote, c :: rest =>
    if c = ';' then paramsFrom .nameStart rest
    else c = ' ' && paramsFrom .afterQuote rest

/-- A subtype and its suffix: the text after the last `+` that is not the first character. -/
def splitSuffix (sub : List Char) : List Char × Option (List Char) :=
  match (sub.drop 1).reverse.span (· ≠ '+') with
  | (_, []) => (sub, none)
  | (afterRev, _ :: beforeRev) => (sub.take 1 ++ beforeRev.reverse, some afterRev.reverse)

/-- **Reads a media type**, or `none` when the text is not one. -/
def parse? (value : String) : Option MediaType :=
  let cs := value.toList
  let type := cs.takeWhile isTokenChar
  match cs.drop type.length with
  | '/' :: rest =>
    let sub := rest.takeWhile isTokenChar
    let wellFormed := match rest.drop sub.length with
      | [] => true
      | ';' :: params => !sub.isEmpty && paramsFrom .nameStart params
      | _ => false
    if type.isEmpty || !wellFormed then none
    else
      let (subtype, suffix) := splitSuffix sub
      some ⟨(String.ofList type).toLower, (String.ofList subtype).toLower,
        suffix.map fun s => (String.ofList s).toLower⟩
  | _ => none

/-- Whether a media type is JSON: `application/json`, or an `application` type with the
suffix `json`. -/
def isJson (m : MediaType) : Bool :=
  m.type == "application" && (m.subtype == "json" || m.suffix == some "json")

end MediaType

end RoutePlanner.Net
