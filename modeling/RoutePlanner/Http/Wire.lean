import RoutePlanner.Http.Router
import RoutePlanner.Json.Print
import RoutePlanner.Net.Header
import RoutePlanner.Text.Utf8
import RoutePlanner.Number.Read

/-!
# HTTP/1.1 messages on a connection

A connection carries requests one after another, and their responses go back in the same
order. This module reads requests from the bytes a connection has delivered and writes
responses as bytes.

* A request is a request line `method target version` (the target read by
  `Target.parse?`), header lines, an empty line and a body. Lines end in CR LF or in LF alone, and empty lines before the request line are
  skipped. A header line is a name, a colon and a value; names are kept in lower case and a
  value loses the blanks around it. The body is the chunks of a `chunked` transfer coding, or
  `content-length` bytes, or nothing when neither header is given.
* `frame` tells from the bytes delivered so far whether they begin with a whole request
  (`Framing.complete`, with the bytes after it), may still become one
  (`Framing.incomplete`), or cannot (`Framing.malformed`). A part of a request counts only
  once its last byte has arrived, so bytes that arrive later never change a whole request.
* A response is a status line with its reason phrase, the date, the body's type and length,
  the request identifier as `x-request-id` and the target of a redirect as `location`; the
  body is compact JSON text.
-/

namespace RoutePlanner.Http

open RoutePlanner.Json RoutePlanner.Net

/-- What reading a part of a message from the bytes delivered so far gives. -/
inductive Reading (α : Type) where
  /-- the part, and the bytes after it -/
  | done (value : α) (rest : List UInt8)
  /-- the bytes so far may still become the part -/
  | needMore
  /-- the bytes cannot begin the part -/
  | invalid

/-- The bytes of a line as text, one character per byte. -/
def latin1 (bs : List UInt8) : String := String.ofList (bs.map fun b => Char.ofNat b.toNat)

/-- A line without its line end: a carriage return before the line feed is dropped. -/
def withoutReturn (line : List UInt8) : List UInt8 :=
  if line.getLast? = some 13 then line.dropLast else line

/-- **The lines of a head**, each without its line end, up to the first empty line that
follows a line, and the bytes after that empty line. `seen` are the lines read so far and
`line` the current one, reversed; empty lines before the first line are skipped. -/
def headLines (seen : List (List UInt8)) (line : List UInt8) :
    List UInt8 → Reading (List (List UInt8))
  | [] => .needMore
  | b :: rest =>
    if b = 10 then
      let l := withoutReturn line.reverse
      if l.isEmpty then
        if seen.isEmpty then headLines [] [] rest else .done seen.reverse rest
      else headLines (l :: seen) [] rest
    else headLines seen (b :: line) rest

/-- The position of the first line feed of `bs`, when one has arrived. -/
def lineFeedAt (bs : List UInt8) : Option Nat :=
  match bs.idxOf? 10 with
  | some i => if i < bs.length then some i else none
  | none => none

/-- The value of a hexadecimal digit. -/
def hexDigit? (b : UInt8) : Option Nat :=
  if 48 ≤ b ∧ b ≤ 57 then some (b.toNat - 48)
  else if 97 ≤ b ∧ b ≤ 102 then some (b.toNat - 87)
  else if 65 ≤ b ∧ b ≤ 70 then some (b.toNat - 55)
  else none

/-- The size on a chunk-size line: one to sixteen hexadecimal digits, then optionally blanks
and extensions after a `;`. -/
def chunkSize (line : List UInt8) : Option Nat :=
  let digits := line.takeWhile fun b => (hexDigit? b).isSome
  let after := (line.drop digits.length).dropWhile fun b => b = 32 ∨ b = 9
  if digits.isEmpty ∨ 16 < digits.length then none
  else if after.isEmpty ∨ after.head? = some 59 then
    digits.foldlM (fun acc b => (acc * 16 + ·) <$> hexDigit? b) 0
  else none

/-- How many bytes end a chunk's data at the front of `bs`: 2 for CR LF, 1 for LF, none when
they are something else, and `some 0` when they have not arrived yet. -/
def dataEnd (bs : List UInt8) : Option Nat :=
  match bs with
  | [] => some 0
  | b :: rest =>
    if b = 10 then some 1
    else if b ≠ 13 then none
    else
      match rest with
      | [] => some 0
      | c :: _ => if c = 10 then some 2 else none

/-- **The trailer section** of a chunked body: lines up to the first empty one, and the bytes
after it. `line` is the current line, reversed. -/
def trailers (line : List UInt8) : List UInt8 → Reading Unit
  | [] => .needMore
  | b :: rest =>
    if b = 10 then
      if (withoutReturn line.reverse).isEmpty then .done () rest else trailers [] rest
    else trailers (b :: line) rest

/-- **A chunked body**: chunks until one of size zero, then the trailer section. `acc` holds
the data read so far. -/
def chunkedBody (acc : List UInt8) (bs : List UInt8) : Reading (List UInt8) :=
  match bs with
  | [] => .needMore
  | b :: rest =>
    match lineFeedAt (b :: rest) with
    | none => .needMore
    | some i =>
      match chunkSize (withoutReturn ((b :: rest).take i)) with
      | none => .invalid
      | some 0 =>
        match trailers [] (rest.drop i) with
        | .done () after => .done acc after
        | .needMore => .needMore
        | .invalid => .invalid
      | some n =>
        let data := rest.drop i
        if data.length < n then .needMore
        else
          match dataEnd (data.drop n) with
          | none => .invalid
          | some 0 => .needMore
          | some e => chunkedBody (acc ++ data.take n) (rest.drop (i + n + e))
termination_by bs.length
decreasing_by exact Text.length_drop_lt_cons b rest (i + n + e)

/-- The values of a header, in order. -/
def headerValues (headers : List (String × String)) (name : String) : List String :=
  (headers.filter (·.1 == name)).map (·.2)

/-- The comma-separated items of header values, trimmed and in lower case. -/
def headerItems (values : List String) : List String :=
  (values.flatMap (·.splitOn ",")).map fun s => s.trimAscii.toString.toLower

/-- **The length of a body** from its `content-length` values: every item the same decimal
number; none without the header, and an error when the items disagree or are not numbers. -/
def declaredLength (values : List String) : Except Unit (Option Nat) :=
  match headerItems values with
  | [] => .ok none
  | first :: others =>
    if !first.isEmpty && first.all Char.isDigit && others.all (· == first) then
      .ok (some (Number.digitsValue first.toList))
    else .error ()

/-- A header line: a name of token characters, a colon, and the value without the blanks
around it. -/
def headerLine (line : List UInt8) : Option (String × String) :=
  let name := line.takeWhile (· ≠ 58)
  let value := (line.drop (name.length + 1)).dropWhile (fun b => b = 32 ∨ b = 9)
  let value := (value.reverse.dropWhile (fun b => b = 32 ∨ b = 9)).reverse
  if name.length < line.length && isHeaderName (latin1 name) then
    some (headerKey (latin1 name), latin1 value)
  else none

/-- The parts of a request line: method, target and version, each separated by one space. -/
def requestLine (line : List UInt8) : Option (String × String × String) :=
  match (latin1 line).splitOn " " with
  | [method, target, version] =>
    if isHeaderName method && !target.isEmpty &&
        (version == "HTTP/1.1" || version == "HTTP/1.0") then
      some (method, target, version)
    else none
  | _ => none

/-- Whether the connection stays open after a request: by default in HTTP/1.1 unless the
request says `close`, and in HTTP/1.0 only when it says `keep-alive`. -/
def keepsAlive (version : String) (headers : List (String × String)) : Bool :=
  let items := headerItems (headerValues headers "connection")
  if version == "HTTP/1.1" then !items.contains "close" else items.contains "keep-alive"

/-- The body of a request from the bytes after its head, as its header fields declare it: a
`chunked` transfer coding (which must be the last coding named), else `content-length`
bytes, else nothing. -/
def requestBody (headers : List (String × String)) (bs : List UInt8) : Reading (List UInt8) :=
  let codings := headerItems (headerValues headers "transfer-encoding")
  if !codings.isEmpty then
    if codings.getLast? = some "chunked" then chunkedBody [] bs else .invalid
  else
    match declaredLength (headerValues headers "content-length") with
    | .error () => .invalid
    | .ok none => .done [] bs
    | .ok (some n) => if bs.length < n then .needMore else .done (bs.take n) (bs.drop n)

/-- What the bytes delivered so far hold. -/
inductive Framing where
  /-- a whole request, whether the connection stays open after it, and the bytes after it -/
  | complete (request : Request) (keepAlive : Bool) (rest : List UInt8)
  /-- nothing yet, or the beginning of a request -/
  | incomplete
  /-- bytes that begin no request -/
  | malformed

/-- **The first request** of the bytes a connection has delivered. A body that is not UTF-8
is read with each ill-formed part replaced by U+FFFD. -/
def frame (bs : List UInt8) : Framing :=
  match headLines [] [] bs with
  | .needMore => .incomplete
  | .invalid => .malformed
  | .done lines afterHead =>
    match lines with
    | [] => .malformed
    | first :: fieldLines =>
      match requestLine first, fieldLines.mapM headerLine with
      | some (method, target, version), some headers =>
        match Target.parse? target, requestBody headers afterHead with
        | none, _ => .malformed
        | some _, .needMore => .incomplete
        | some _, .invalid => .malformed
        | some target, .done body rest =>
          .complete ⟨method, target, headers, String.ofList (Text.decodeLossy body)⟩
            (keepsAlive version headers) rest
      | _, _ => .malformed

/-- The reason phrase of a status. -/
def reasonPhrase : Nat → String
  | 200 => "OK"
  | 204 => "No Content"
  | 308 => "Permanent Redirect"
  | 400 => "Bad Request"
  | 404 => "Not Found"
  | 405 => "Method Not Allowed"
  | 415 => "Unsupported Media Type"
  | 422 => "Unprocessable Entity"
  | 500 => "Internal Server Error"
  | 502 => "Bad Gateway"
  | _ => ""

/-- **The date of a response**: `Sun, 06 Nov 1994 08:49:37 GMT`, day and month by their
English abbreviations (1970-01-01 was a Thursday). -/
def httpDate (t : Instant) : String :=
  let days := t.seconds / 86400
  let secs := (t.seconds % 86400).toNat
  let date := civilFromDays days
  let weekday := ["Sun", "Mon", "Tue", "Wed", "Thu", "Fri", "Sat"].getD ((days + 4) % 7).toNat ""
  let month := ["Jan", "Feb", "Mar", "Apr", "May", "Jun", "Jul", "Aug", "Sep", "Oct", "Nov",
    "Dec"].getD (date.month - 1) ""
  weekday ++ ", " ++ Instant.padded 2 date.day ++ " " ++ month ++ " " ++
    Instant.yearText date.year ++ " " ++ Instant.padded 2 (secs / 3600) ++ ":" ++
    Instant.padded 2 (secs / 60 % 60) ++ ":" ++ Instant.padded 2 (secs % 60) ++ " GMT"

/-- The text of a status line and header lines, with the empty line that ends them. -/
def headText (status : Nat) (headers : List (String × String)) : String :=
  "HTTP/1.1 " ++ toString status ++ " " ++ reasonPhrase status ++ "\r\n" ++
    String.join (headers.map fun (name, value) => name ++ ": " ++ value ++ "\r\n") ++ "\r\n"

/-- **A response as bytes**, dated `date`. A body is JSON text; a 204 carries no length. The
answer to a `HEAD` request (`headOnly`) states the body's type and length but leaves it out. -/
def Response.wire (r : Response) (date : Instant) (headOnly : Bool) : List UInt8 :=
  let body := (r.body.map Value.render).getD ""
  let typed := if r.body.isSome then [("content-type", "application/json")] else []
  let length := if r.status = 204 then [] else [("content-length", toString body.utf8ByteSize)]
  let headers := typed ++ (r.requestId.map fun v => [("x-request-id", v)]).getD [] ++
    (r.location.map fun v => [("location", v)]).getD [] ++ length ++ [("date", httpDate date)]
  (headText r.status headers ++ if headOnly then "" else body).toUTF8.toList

/-- The answer to bytes that begin no request, after which the connection closes. -/
def malformedWire (date : Instant) : List UInt8 :=
  (headText 400 [("content-length", "0"), ("connection", "close"), ("date", httpDate date)]).toUTF8.toList

end RoutePlanner.Http
