/-!
# HTTP header names and values

A header name is a non-empty token of at most 65535 characters: letters, digits and the marks
``!#$%&'*+-.^_`|~``; it is compared and sent in lower case. A header value holds only visible
characters, spaces, tabs and characters beyond ASCII: no other control character and no
delete.
-/

namespace RoutePlanner.Net

/-- Whether a character may stand in a header name. -/
def isTokenChar (c : Char) : Bool :=
  (c.isAlphanum && c.toNat < 0x80) || "!#$%&*+-.^_|~".toList.contains c || c.toNat = 0x27 ||
    c.toNat = 0x60

/-- **Whether a text is a header name.** -/
def isHeaderName (name : String) : Bool :=
  !name.isEmpty && name.length ≤ 65535 && name.toList.all isTokenChar

/-- **Whether a text is a header value.** -/
def isHeaderValue (value : String) : Bool :=
  value.toList.all fun c => c = '\t' || (c.toNat ≥ 0x20 && c.toNat ≠ 0x7F)

/-- A header name as sent: in lower case. -/
def headerKey (name : String) : String := name.toLower

/-- Headers with one set to a value, replacing any value it had. -/
def setHeader (headers : List (String × String)) (name value : String) :
    List (String × String) :=
  if headers.any (·.1 == name) then
    headers.map fun h => if h.1 = name then (name, value) else h
  else headers ++ [(name, value)]

end RoutePlanner.Net
