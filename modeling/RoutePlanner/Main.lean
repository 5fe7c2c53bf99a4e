import RoutePlanner.Service.Startup
import RoutePlanner.Http.Wire
import Std.Time.Format

/-!
# The service as a program

The program reads its settings from the variables of its environment (`Config.variableNames`)
and starts the service from them (`Services.ofVars`). A failed start is reported on standard
error (`startupReport`) and ends the program with status 1.

A started service serves HTTP/1.1 on one connection, given to it as its standard input and
output, the way a supervisor that accepts connections hands one to the service it starts. The
requests are answered in order (`Http.frame`, `Http.serve`, `Http.Response.wire`) until the
connection ends, a request asks to close it, or bytes arrive that begin no request, which are
answered with 400. Each request is served at the clock's reading when it has arrived, and
identifiers are drawn from the system's random source.
-/

namespace RoutePlanner.Server

/-- The clock's reading now. -/
def readClock : IO Instant := do
  let ns := (← Std.Time.Timestamp.now).toNanosecondsSinceUnixEpoch.val
  pure ⟨ns / 1000000000, (ns % 1000000000).toNat⟩

/-- A fresh version-4 identifier from the system's random source. -/
def freshUuid : IO Uuid := do
  let bytes ← IO.getRandomBytes 16
  pure (Uuid.version4 (bytes.toList.foldl (fun acc b => acc * 256 + b.toNat) 0))

/-- Serves the requests of a connection in order, `buffered` holding the bytes received and
not yet used. -/
partial def serveConnection (input output : IO.FS.Stream) (svc : Services) :
    Engine → List UInt8 → IO Unit
  | e, buffered => do
    match Http.frame buffered with
    | .complete request keepAlive rest =>
      let now ← readClock
      let (response, e', _) := Http.serve e svc now (← freshUuid) (← freshUuid) request
      output.write (ByteArray.mk (response.wire now (request.method == "HEAD")).toArray)
      output.flush
      if keepAlive then serveConnection input output svc e' rest
    | .incomplete =>
      let chunk ← input.read 65536
      if !chunk.isEmpty then serveConnection input output svc e (buffered ++ chunk.toList)
    | .malformed =>
      output.write (ByteArray.mk (Http.malformedWire (← readClock)).toArray)
      output.flush

end RoutePlanner.Server

/-- Starts the service from its environment and serves the connection on standard input and
output; the status is 1 after a failed start and 0 once the connection has ended. -/
def main : IO UInt32 := do
  let vars ← RoutePlanner.Config.variableNames.filterMapM fun name => do
    pure ((← IO.getEnv name).map (name, ·))
  match RoutePlanner.Services.ofVars vars with
  | .error e =>
    IO.eprintln (RoutePlanner.startupReport e)
    pure 1
  | .ok svc =>
    RoutePlanner.Server.serveConnection (← IO.getStdin) (← IO.getStdout) svc
      RoutePlanner.Engine.new []
    pure 0
